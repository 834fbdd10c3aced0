import Sigil.Json.Record

/-! # Variable definitions

    What a catalog knows about a variable, and the JSON form of it.

    * `Definition`: name, description and the properties that drive checks and
      completion.
    * `Definition.read`, `Definition.toJson`: from and to JSON. -/

namespace Sigil

/-- A use of a variable, and what it gives. -/
structure Example where
  usage : Text
  description : Text
deriving DecidableEq, Repr

/-- What a catalog knows about a variable. -/
structure Definition where
  name : Text
  description : Text
  category : Text := []
  examples : List Example := []
  /-- Other names of the variable. -/
  aliases : List Text := []
  acceptsNesting : Bool := false
  acceptsOptionalArguments : Bool := false
  /-- A second argument, the default, must be given. -/
  requiresDefault : Bool := false
  deprecated : Bool := false
  deprecatedMessage : Option Text := none
  /-- What to use in place of a deprecated variable. -/
  replacedBy : Option Text := none
deriving DecidableEq, Repr

namespace Definition

/-- Is the variable ever written with an argument list? -/
def takesBrackets (d : Definition) : Bool :=
  d.acceptsOptionalArguments || d.requiresDefault
    || d.examples.any fun e => e.usage.any (· == '[')

end Definition

/-! ## Reading -/

namespace Example

def usageField : Field Text := .required "example" Json.toText

def descriptionField : Field Text := .required "description" Json.toText

/-- An example from its JSON form. -/
def read (value : Json) : Except ShapeError Example := do
  let r ← Record.read "Example" [usageField.checker, descriptionField.checker] value
  return { usage := ← r.get usageField, description := ← r.get descriptionField }

end Example

namespace Definition

def nameField : Field Text := .required "name" Json.toText

def descriptionField : Field Text := .required "description" Json.toText

def categoryField : Field Text := .withDefault "category" Json.toText []

def examplesField : Field (List Example) := .withDefault "examples" (Json.toList Example.read) []

def aliasesField : Field (List Text) := .withDefault "aliases" (Json.toList Json.toText) []

def acceptsNestingField : Field Bool := .withDefault "acceptsNesting" Json.toBool false

def acceptsOptionalArgumentsField : Field Bool :=
  .withDefault "acceptsOptionalArguments" Json.toBool false

def requiresDefaultField : Field Bool := .withDefault "requiresDefault" Json.toBool false

def deprecatedField : Field Bool := .withDefault "deprecated" Json.toBool false

def deprecatedMessageField : Field (Option Text) := .optional "deprecatedMessage" Json.toText

def replacedByField : Field (Option Text) := .optional "replacedBy" Json.toText

/-- A definition from its JSON form. -/
def read (value : Json) : Except ShapeError Definition := do
  let r ← Record.read "VariableDefinition"
    [nameField.checker, descriptionField.checker, categoryField.checker, examplesField.checker,
      aliasesField.checker, acceptsNestingField.checker, acceptsOptionalArgumentsField.checker,
      requiresDefaultField.checker, deprecatedField.checker, deprecatedMessageField.checker,
      replacedByField.checker] value
  return {
    name := ← r.get nameField
    description := ← r.get descriptionField
    category := ← r.get categoryField
    examples := ← r.get examplesField
    aliases := ← r.get aliasesField
    acceptsNesting := ← r.get acceptsNestingField
    acceptsOptionalArguments := ← r.get acceptsOptionalArgumentsField
    requiresDefault := ← r.get requiresDefaultField
    deprecated := ← r.get deprecatedField
    deprecatedMessage := ← r.get deprecatedMessageField
    replacedBy := ← r.get replacedByField }

end Definition

/-! ## Writing -/

/-- The JSON form of an example. -/
def Example.toJson (e : Example) : Json :=
  Json.ofMembers
    [(usageField.name, .string e.usage), (descriptionField.name, .string e.description)]

namespace Definition

/-- The member for a list, left out if the list is empty. -/
def listMember (name : Text) (elements : List Json) : List (Text × Json) :=
  if elements.isEmpty then [] else [(name, .array elements)]

/-- The member for a text, left out if there is none. -/
def textMember (name : Text) (text? : Option Text) : List (Text × Json) :=
  (text?.map fun text => (name, Json.string text)).toList

/-- The members of the JSON form of a definition, in order of declaration, with a choice
    of how examples are written. -/
def membersWith (write : Example → Json) (d : Definition) : List (Text × Json) :=
  [(nameField.name, .string d.name), (descriptionField.name, .string d.description),
    (categoryField.name, .string d.category)]
  ++ listMember examplesField.name (d.examples.map write)
  ++ listMember aliasesField.name (d.aliases.map Json.string)
  ++ [(acceptsNestingField.name, .bool d.acceptsNesting),
    (acceptsOptionalArgumentsField.name, .bool d.acceptsOptionalArguments),
    (requiresDefaultField.name, .bool d.requiresDefault),
    (deprecatedField.name, .bool d.deprecated)]
  ++ textMember deprecatedMessageField.name d.deprecatedMessage
  ++ textMember replacedByField.name d.replacedBy

/-- The members of the JSON form of a definition. -/
def toMembers (d : Definition) : List (Text × Json) :=
  d.membersWith Example.toJson

/-- The JSON form of a definition. -/
def toJson (d : Definition) : Json :=
  Json.ofMembers d.toMembers

end Definition

end Sigil
