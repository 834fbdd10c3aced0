import Sigil.Json.Basic
import Sigil.Text.Printable

/-! # Records in JSON

    A record is written as an object with a member for each field, or as an
    array of its fields in the order of their declaration.

    * `ShapeError`: how a value can differ from what is expected, with the wording.
    * `Field`: a field, with its reader and with what its absence means.
    * `Record.read`: check the fields that are there, in the order in which they
      are written.
    * `Record.get`: the value of a field. -/

namespace Sigil

namespace Json

/-- What a value is, for a message that says it is something else. -/
def summary : Json → Text
  | null => "null".toList
  | bool b => "boolean `".toList ++ (bool b).render ++ ['`']
  | integer n => "integer `".toList ++ (integer n).render ++ ['`']
  | double bits => "floating point `".toList ++ (double bits).render ++ ['`']
  | string s => "string ".toList ++ Text.quoted s
  | array _ => "sequence".toList
  | object _ => "map".toList

end Json

/-- How a value can differ from what is expected. -/
inductive ShapeError where
  /-- A value of one type where another one is expected. -/
  | invalidType (found expected : Text)
  /-- A value of the right type that cannot be used. -/
  | invalidValue (found expected : Text)
  /-- A field that must be there is not. -/
  | missingField (name : Text)
  /-- An array that ends before the field with this index, counted from zero, of a
      record of `size` fields. -/
  | tooShort (index : Nat) (record : Text) (size : Nat)
  /-- An array with more elements than the record has fields. -/
  | tooLong (length : Nat)
deriving DecidableEq, Repr

namespace ShapeError

/-- The wording of each error. -/
def message : ShapeError → Text
  | invalidType found expected =>
    "invalid type: ".toList ++ found ++ ", expected ".toList ++ expected
  | invalidValue found expected =>
    "invalid value: ".toList ++ found ++ ", expected ".toList ++ expected
  | missingField name => "missing field `".toList ++ name ++ ['`']
  | tooShort index record size =>
    "invalid length ".toList ++ Nat.toDigits 10 index ++ ", expected struct ".toList ++ record
      ++ " with ".toList ++ Nat.toDigits 10 size
      ++ (if size = 1 then " element".toList else " elements".toList)
  | tooLong length =>
    "invalid length ".toList ++ Nat.toDigits 10 length
      ++ ", expected fewer elements in array".toList

end ShapeError

/-! ## Readers -/

namespace Json

/-- A value that should be something else. -/
def mismatch {α : Type} (value : Json) (expected : String) : Except ShapeError α :=
  .error (.invalidType value.summary expected.toList)

/-- A string. -/
def toText : Json → Except ShapeError Text
  | string s => .ok s
  | other => other.mismatch "a string"

/-- A truth value. -/
def toBool : Json → Except ShapeError Bool
  | bool b => .ok b
  | other => other.mismatch "a boolean"

/-- An integer from `least` up to `greatest`. -/
def toInteger (name : String) (least greatest : Int) : Json → Except ShapeError Int
  | integer n =>
    if least ≤ n ∧ n ≤ greatest then .ok n
    else .error (.invalidValue (integer n).summary name.toList)
  | other => other.mismatch name

/-- An integer of 32 bits with a sign. -/
def toInt32 : Json → Except ShapeError Int :=
  toInteger "i32" (-0x80000000) 0x7fffffff

/-- An integer of 32 bits without a sign. -/
def toUInt32 (value : Json) : Except ShapeError Nat :=
  (toInteger "u32" 0 0xffffffff value).map Int.toNat

/-- Any value, kept as it is. -/
def toValue (value : Json) : Except ShapeError Json :=
  .ok value

/-- An array, each element read by `read`. -/
def toList {α : Type} (read : Json → Except ShapeError α) : Json → Except ShapeError (List α)
  | array elements => elements.mapM read
  | other => other.mismatch "a sequence"

/-- A value, or nothing for `null`. -/
def toOption {α : Type} (read : Json → Except ShapeError α) :
    Json → Except ShapeError (Option α)
  | null => .ok none
  | other => some <$> read other

end Json

/-! ## Fields -/

/-- A field of a record. -/
structure Field (α : Type) where
  name : Text
  read : Json → Except ShapeError α
  /-- What the field is in an object without it. -/
  absent? : Option α := none
  /-- What the field is in an array that ends before it. -/
  omitted? : Option α := none

namespace Field

variable {α : Type}

/-- A field that must be there. -/
def required (name : String) (read : Json → Except ShapeError α) : Field α where
  name := name.toList
  read := read

/-- A field that is `default` if it is not there. -/
def withDefault (name : String) (read : Json → Except ShapeError α) (default : α) :
    Field α where
  name := name.toList
  read := read
  absent? := some default
  omitted? := some default

/-- A field that may be `null`; an object may do without it, an array may not. -/
def nullable (name : String) (read : Json → Except ShapeError α) : Field (Option α) where
  name := name.toList
  read := Json.toOption read
  absent? := some none

/-- A field that may be `null` or left out. -/
def optional (name : String) (read : Json → Except ShapeError α) : Field (Option α) :=
  withDefault name (Json.toOption read) none

/-- A field without the type of its value: only the name, and what is wrong with
    a value. -/
def checker (f : Field α) : Text × (Json → Except ShapeError Unit) :=
  (f.name, fun value => do
    let _ ← f.read value
    return ())

end Field

/-! ## Records -/

/-- The fields of a record that are there. -/
structure Record where
  /-- The name of the record. -/
  name : Text
  /-- The names of all fields, in order of declaration. -/
  fields : List Text
  members : List (Text × Json)
  /-- Is the record written as an array? -/
  isArray : Bool
deriving Repr

namespace Record

/-- Check the values of those members that are fields, in order; others are of no
    concern. -/
def checkMembers (fields : List (Text × (Json → Except ShapeError Unit))) :
    List (Text × Json) → Except ShapeError Unit
  | [] => .ok ()
  | (name, value) :: rest => do
    match fields.find? fun field => field.1 = name with
    | some (_, check) => check value
    | none => .ok ()
    checkMembers fields rest

/-- The record called `name` with these fields.  Wrong values are reported in the
    order in which they are written: by name in an object, by declaration in an
    array. -/
def read (name : String) (fields : List (Text × (Json → Except ShapeError Unit)))
    (value : Json) : Except ShapeError Record := do
  match value with
  | .object members =>
    checkMembers fields members
    return { name := name.toList, fields := fields.map Prod.fst, members, isArray := false }
  | .array elements =>
    let members := (fields.map Prod.fst).zip elements
    checkMembers fields members
    if fields.length < elements.length then .error (.tooLong elements.length)
    return { name := name.toList, fields := fields.map Prod.fst, members, isArray := true }
  | other => other.mismatch ("struct " ++ name)

/-- The value of a field. -/
def get {α : Type} (r : Record) (field : Field α) : Except ShapeError α :=
  match Table.get? field.name r.members with
  | some value => field.read value
  | none =>
    if r.isArray then
      match field.omitted? with
      | some value => .ok value
      | none => .error (.tooShort (r.fields.idxOf field.name) r.name r.fields.length)
    else
      match field.absent? with
      | some value => .ok value
      | none => .error (.missingField field.name)

end Record

end Sigil
