import Sigil.Catalog.Definition
import Sigil.Text.Blank
import Sigil.Text.Case

/-! # Entries of a service

    A running service lists its variables in a form of its own: an entry holds a
    definition under the key `definition`, and the flags of the catalog have to
    be inferred from what the entry says.

    * `ServiceEntry.isEntry`: does a value look like an entry?
    * `ServiceEntry.read`: an entry from its JSON form.
    * `ServiceEntry.toDefinition?`: the definition that an entry describes. -/

namespace Sigil

/-- A use of a variable, without the sigil. -/
structure ServiceExample where
  usage : Text
  description : Text
deriving DecidableEq, Repr

/-- What a service says about a variable. -/
structure ServiceDefinition where
  /-- The name without the sigil. -/
  handle : Option Text
  description : Text
  usage : Option Text
  examples : Option (List ServiceExample)
  categories : Option (List Text)
  hidden : Bool
  aliases : List Text
deriving DecidableEq, Repr

/-- An entry in the list of a service. -/
structure ServiceEntry where
  definition : Option ServiceDefinition
deriving DecidableEq, Repr

/-! ## Reading -/

namespace ServiceExample

def usageField : Field Text := .withDefault "usage" Json.toText []

def descriptionField : Field Text := .withDefault "description" Json.toText []

/-- An example from its JSON form. -/
def read (value : Json) : Except ShapeError ServiceExample := do
  let r ← Record.read "ApiExample" [usageField.checker, descriptionField.checker] value
  return { usage := ← r.get usageField, description := ← r.get descriptionField }

end ServiceExample

namespace ServiceDefinition

def handleField : Field (Option Text) := .nullable "handle" Json.toText

def descriptionField : Field Text := .withDefault "description" Json.toText []

def usageField : Field (Option Text) := .nullable "usage" Json.toText

def examplesField : Field (Option (List ServiceExample)) :=
  .nullable "examples" (Json.toList ServiceExample.read)

def categoriesField : Field (Option (List Text)) :=
  .nullable "categories" (Json.toList Json.toText)

def hiddenField : Field Bool := .withDefault "hidden" Json.toBool false

def aliasesField : Field (List Text) := .withDefault "aliases" (Json.toList Json.toText) []

/-- A definition from its JSON form. -/
def read (value : Json) : Except ShapeError ServiceDefinition := do
  let r ← Record.read "ApiDefinition"
    [handleField.checker, descriptionField.checker, usageField.checker, examplesField.checker,
      categoriesField.checker, hiddenField.checker, aliasesField.checker] value
  return {
    handle := ← r.get handleField
    description := ← r.get descriptionField
    usage := ← r.get usageField
    examples := ← r.get examplesField
    categories := ← r.get categoriesField
    hidden := ← r.get hiddenField
    aliases := ← r.get aliasesField }

end ServiceDefinition

namespace ServiceEntry

def definitionField : Field (Option ServiceDefinition) :=
  .nullable "definition" ServiceDefinition.read

/-- An entry from its JSON form. -/
def read (value : Json) : Except ShapeError ServiceEntry := do
  let r ← Record.read "ApiEntry" [definitionField.checker] value
  return { definition := ← r.get definitionField }

/-- Does a value look like an entry?  A definition of the catalog's own form has
    no member of that name. -/
def isEntry (value : Json) : Bool :=
  (value.get? definitionField.name).isSome

end ServiceEntry

/-! ## Conversion -/

namespace ServiceDefinition

/-- The name of the variable with this handle.  The shorthands of custom
    variables and effect outputs have handles with a word to stand for any name. -/
def nameOfHandle (handle : Text) : Text :=
  if handle = "$name".toList then "$$".toList
  else if handle = "&name".toList then "$&".toList
  else '$' :: handle

/-- The text in the first pair of parentheses on one line. -/
def note? : Text → Option Text
  | [] => none
  | c :: rest =>
    if c = '(' ∧ (rest.dropWhile fun d => d != ')' && d != '\n').head? = some ')' then
      some (rest.takeWhile (· != ')'))
    else note? rest

/-- Each word with a capital letter at its start and small letters after it. -/
def titleCase : Bool → Text → Text
  | _, [] => []
  | start, c :: rest =>
    if isBlank c then c :: titleCase true rest
    else if start then upperCase.apply c ++ titleCase false rest
    else lowerCase.apply c ++ titleCase false rest

/-- Does the description say that the variable is deprecated? -/
def saysDeprecated (d : ServiceDefinition) : Bool :=
  Text.contains "deprecated".toList (d.description.map Char.toLower)

/-- The definition that a service's definition describes, if it has a handle. -/
def toDefinition? (d : ServiceDefinition) : Option Definition :=
  d.handle.map fun handle =>
    let note := if d.saysDeprecated then note? d.description else none
    { name := nameOfHandle handle
      description := d.description
      category := match d.categories with
        | some categories =>
          titleCase true (Text.toUpper (List.intercalate ", ".toList categories))
        | none => []
      examples := (d.examples.getD []).map fun e =>
        { usage := '$' :: e.usage, description := e.description }
      aliases := d.aliases
      acceptsNesting := true
      acceptsOptionalArguments := d.usage.isSome || d.examples.isSome
      requiresDefault := d.usage.any (Text.contains "default".toList)
      deprecated := d.saysDeprecated && d.hidden
      deprecatedMessage := note
      replacedBy := note.map (Text.replaceAll "Deprecated: use ".toList []) }

end ServiceDefinition

/-- The definition that an entry describes, if it describes one. -/
def ServiceEntry.toDefinition? (e : ServiceEntry) : Option Definition :=
  e.definition.bind ServiceDefinition.toDefinition?

end Sigil
