import Sigil.Catalog.Basic
import Sigil.Completion.Suggestion
import Sigil.Cursor

/-! # Completion

    The suggestions at a cursor: templates for the arguments of the variable
    around it, or else all variables, and then snippets that fit the situation. -/

namespace Sigil.Completion

/-- The templates for the arguments of a variable, if there are some. -/
def argumentSnippets? (parent : Text) : Option (List Snippet) :=
  if parent = "$math".toList then
    some [⟨"Basic Math", "$\x7b1:value1\x7d + $\x7b2:value2\x7d", "Basic addition"⟩,
      ⟨"Complex Math", "$\x7b1:value1\x7d * $\x7b2:value2\x7d + $\x7b3:value3\x7d",
        "Complex calculation"⟩]
  else if parent = "$customVariable".toList then
    some [⟨"Array Index", "$\x7b1:variableName\x7d, $\x7b2:index\x7d", "Access array element"⟩,
      ⟨"Object Path", "$\x7b1:variableName\x7d, $\x7b2:path.to.property\x7d",
        "Access nested property"⟩]
  else if parent = "$presetListArg".toList then
    some [⟨"Preset Value", "$\x7b1:presetName\x7d", "Get preset argument value"⟩]
  else none

/-- The snippet that adds two values. -/
def addition : Snippet :=
  ⟨"Math Addition", "\\$math[$\x7b1:value1\x7d + $\x7b2:value2\x7d]", "Add two values"⟩

/-- The snippet for a file name with a date in it. -/
def dateFilename : Snippet :=
  ⟨"Date-based Filename", "\\$time[YYYY-MM-DD_hh-mm-ss].txt",
    "Create a filename with current date"⟩

/-- The snippets for styles. -/
def styleSnippets : List Snippet :=
  [⟨"Dynamic Width", "width: \\$ensureNumber[$\x7b1:value\x7d, $\x7b2:default\x7d]",
      "Set width with fallback value"⟩,
    ⟨"Dynamic height", "height: \\$ensureNumber[$\x7b1:value\x7d, $\x7b2:default\x7d]",
      "Set height with fallback value"⟩]

/-- The snippets that fit the situation at a cursor. -/
def contextualSnippets (cursor : Cursor) : List Snippet :=
  addition :: (if cursor.isNested then [dateFilename] else [])
    ++ (if cursor.inStyle then styleSnippets else [])

/-- The templates for the arguments of the variable around a cursor. -/
def nestedSnippets? (catalog : Catalog) (cursor : Cursor) : Option (List Snippet) := do
  guard cursor.isNested
  let parent ← cursor.parent
  let definition ← catalog.resolve parent
  argumentSnippets? definition.name

/-- **Completion.**  The suggestions at a cursor. -/
def suggest (catalog : Catalog) (cursor : Cursor) : List Suggestion :=
  (match nestedSnippets? catalog cursor with
    | some snippets => snippets.map (.ofSnippet 0)
    | none => catalog.definitions.map .ofDefinition)
  ++ (contextualSnippets cursor).map (.ofSnippet 2)

end Sigil.Completion
