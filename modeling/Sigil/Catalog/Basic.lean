import Sigil.Catalog.ServiceEntry
import Sigil.Json.Reader
import Sigil.ReadFailure

/-! # Catalogs

    A catalog is a table of variable definitions, found by name or by alias.

    * `Catalog.ofDefinitions`: the catalog of a list of definitions.
    * `Catalog.lookup`, `Catalog.resolve`: find a definition.
    * `Catalog.ofJson`, `Catalog.ofFile`: read a catalog. -/

namespace Sigil

/-- Definitions by name, and the names that aliases stand for. -/
structure Catalog where
  table : Table Definition
  aliases : Table Text
deriving DecidableEq, Repr

/-- Why a catalog cannot be used. -/
inductive CatalogError where
  /-- The file cannot be read. -/
  | unreadable (failure : ReadFailure)
  /-- The text is not JSON. -/
  | malformed (error : Json.SyntaxError)
  /-- A definition does not have the right form. -/
  | misshapen (error : ShapeError)
  /-- The value is not a list. -/
  | notAList

namespace CatalogError

/-- The wording of each error. -/
def message : CatalogError → Text
  | unreadable failure => "unable to read catalog: ".toList ++ failure.systemMessage
  | malformed error => "malformed catalog: ".toList ++ error.message
  | misshapen error => "malformed catalog: ".toList ++ error.message
  | notAList => "unrecognized catalog: expected a list of variable definitions".toList

end CatalogError

namespace Catalog

/-- A catalog without definitions. -/
def empty : Catalog := ⟨[], []⟩

/-- Add a definition, in place of the one with its name; its aliases stand for it
    from now on. -/
def insert (c : Catalog) (d : Definition) : Catalog where
  table := Table.insert d.name d c.table
  aliases := d.aliases.foldl (fun table other => Table.insert other d.name table) c.aliases

/-- The catalog of a list of definitions.  The last one counts, of several with
    one name as of several with one alias. -/
def ofDefinitions (definitions : List Definition) : Catalog :=
  definitions.foldl insert empty

/-- The definitions, in order of their names. -/
def definitions (c : Catalog) : List Definition :=
  c.table.values

/-- Number of definitions. -/
def size (c : Catalog) : Nat :=
  c.table.length

/-- **Lookup.**  The definition with this name, or else the one that the alias
    stands for. -/
def lookup (c : Catalog) (name : Text) : Option Definition :=
  match Table.get? name c.table with
  | some definition => some definition
  | none => (Table.get? name c.aliases).bind fun target => Table.get? target c.table

/-- The first two characters of a token that starts a shorthand and goes on. -/
def shorthand? (token : Text) : Option Text :=
  match token with
  | '$' :: '$' :: _ :: _ => some "$$".toList
  | '$' :: '&' :: _ :: _ => some "$&".toList
  | _ => none

/-- **Resolution.**  The definition of a token as it stands in a text.  Any name
    may follow the shorthands `$$` and `$&`. -/
def resolve (c : Catalog) (token : Text) : Option Definition :=
  match c.lookup token with
  | some definition => some definition
  | none => (shorthand? token).bind c.lookup

/-- The definitions in a JSON value: a list of definitions, or the list of a
    service if one of its elements looks like it. -/
def readDefinitions (value : Json) : Except CatalogError (List Definition) :=
  match value with
  | .array elements =>
    let result :=
      if elements.any ServiceEntry.isEntry then
        (elements.mapM ServiceEntry.read).map fun entries =>
          entries.filterMap ServiceEntry.toDefinition?
      else elements.mapM Definition.read
    result.mapError .misshapen
  | _ => .error .notAList

/-- The catalog in a JSON text. -/
def ofJson (text : Text) : Except CatalogError Catalog := do
  let value ← (Json.read text).mapError .malformed
  return ofDefinitions (← readDefinitions value)

/-- The catalog in a file, given what came of reading the file. -/
def ofFile (content : Except ReadFailure Text) : Except CatalogError Catalog := do
  ofJson (← content.mapError .unreadable)

end Catalog

end Sigil
