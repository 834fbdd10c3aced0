import Sigil.Catalog.Definition

/-! # Entries of the built-in catalog

    The definitions of the built-in catalog are written down by category, from
    plain strings. -/

namespace Sigil.Builtin

/-- A definition with its examples, each a use and what it gives. -/
def entry (name description : String) (examples : List (String × String)) : Definition where
  name := name.toList
  description := description.toList
  examples := examples.map fun (usage, description) =>
    { usage := usage.toList, description := description.toList }

/-- Definitions put into a category. -/
def inCategory (category : String) (definitions : List Definition) : List Definition :=
  definitions.map fun d => { d with category := category.toList }

/-- A definition that accepts nested variables. -/
def nesting (d : Definition) : Definition :=
  { d with acceptsNesting := true }

/-- A definition that may be used with or without arguments. -/
def flexible (d : Definition) : Definition :=
  { d with acceptsOptionalArguments := true }

/-- A definition that should no longer be used, and what to use in its place. -/
def deprecated (message replacement : String) (d : Definition) : Definition :=
  { d with
    deprecated := true
    deprecatedMessage := some message.toList
    replacedBy := some replacement.toList }

/-- A definition with other names. -/
def alsoCalled (names : List String) (d : Definition) : Definition :=
  { d with aliases := names.map String.toList }

/-- A definition that needs a default. -/
def defaulting (d : Definition) : Definition :=
  { d with requiresDefault := true }

end Sigil.Builtin
