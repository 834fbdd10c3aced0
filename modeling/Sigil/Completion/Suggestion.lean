import Sigil.Catalog.Definition

/-! # Suggestions

    A suggestion is something that can be inserted at a cursor.  Its template is
    a snippet: `$` and a number, or a number and a text in braces, are stops of
    the cursor, and a backslash takes the meaning from the character after it.

    * `Suggestion.ofDefinition`: the suggestion to insert a variable.
    * `Suggestion.ofSnippet`: the suggestion to insert a fixed text. -/

namespace Sigil

/-- What a suggestion inserts. -/
inductive SuggestionKind where
  | variableName
  | snippet
deriving DecidableEq, Repr

/-- Something that can be inserted. -/
structure Suggestion where
  label : Text
  template : Text
  documentation : Text
  detail : Option Text
  kind : SuggestionKind
  deprecated : Bool
  /-- Suggestions of lower rank are shown first. -/
  rank : Nat
deriving DecidableEq, Repr

/-- The text by which suggestions are ordered. -/
def Suggestion.sortText (s : Suggestion) : Text :=
  Nat.toDigits 10 s.rank ++ '_' :: s.label

/-! ## Variables -/

namespace Definition

/-- The template that inserts a variable: with stops for an argument and a
    default, with an argument list to keep or to leave, with an argument, or
    without anything. -/
def insertTemplate (d : Definition) : Text :=
  let name := d.name.flatMap fun c => if c = '$' then ['\\', '$'] else [c]
  if d.requiresDefault then name ++ "[$\x7b1:value\x7d, $\x7b2:default\x7d]".toList
  else if d.acceptsOptionalArguments then name ++ "$\x7b1:[$2]\x7d$0".toList
  else if d.takesBrackets then name ++ "[$\x7b1:value\x7d]".toList
  else name

/-- The examples, one to a line. -/
def exampleLines (examples : List Example) : Text :=
  examples.flatMap fun e =>
    "\n- `".toList ++ e.usage ++ "`: ".toList ++ e.description

/-- Why a variable is deprecated, in so far as the definition says it. -/
def deprecationNote (d : Definition) : Text :=
  let replacedBy := d.replacedBy.getD []
  let message := d.deprecatedMessage.getD []
  if !replacedBy.isEmpty then ": use `".toList ++ replacedBy ++ "` instead.".toList
  else if !message.isEmpty then ": ".toList ++ message
  else []

/-- The description of a variable as it is shown beside its suggestion. -/
def documentation (d : Definition) : Text :=
  "**".toList ++ d.name ++ "**\n\n".toList ++ d.description
    ++ (if d.examples.isEmpty then []
      else "\n\n**Examples:**\n".toList ++ exampleLines d.examples)
    ++ (if d.deprecated then "\n\n**Deprecated**".toList ++ d.deprecationNote else [])

end Definition

namespace Suggestion

/-- The suggestion to insert a variable. -/
def ofDefinition (d : Definition) : Suggestion where
  label := d.name
  template := d.insertTemplate
  documentation := d.documentation
  detail := if d.category.isEmpty then none else some d.category
  kind := .variableName
  deprecated := d.deprecated
  rank := 1

end Suggestion

/-! ## Snippets -/

/-- A fixed text to insert. -/
structure Snippet where
  label : String
  template : String
  description : String
deriving DecidableEq, Repr

/-- The suggestion to insert a fixed text. -/
def Suggestion.ofSnippet (rank : Nat) (s : Snippet) : Suggestion where
  label := s.label.toList
  template := s.template.toList
  documentation := s.description.toList
  detail := none
  kind := .snippet
  deprecated := false
  rank := rank

end Sigil
