import Sigil.Decimal.Shortest
import Sigil.Table

/-! # JSON values

    * `Json`: a value.  The members of an object are kept in increasing order
      of their names, each name once.
    * `Json.ofMembers`: the object of a list of members, the last one of each
      name.
    * `Json.render`: the compact text of a value. -/

namespace Sigil

/-- A JSON value.  A number is an integer of 64 bits or the bits of a finite
    double. -/
inductive Json where
  | null
  | bool (b : Bool)
  | integer (n : Int)
  | double (bits : Nat)
  | string (s : Text)
  | array (elements : List Json)
  | object (members : List (Text × Json))
deriving Repr, Inhabited

namespace Json

/-! ## Objects -/

/-- The object with these members; of several with one name the last counts. -/
def ofMembers (members : List (Text × Json)) : Json :=
  .object (Table.ofEntries members)

/-- The member of an object with a given name. -/
def get? (name : Text) : Json → Option Json
  | object members => Table.get? name members
  | _ => none

/-! ## Printing -/

/-- Numbers from `1e-5` up to `1e16` are written without an exponent. -/
def floatFormat : Decimal.FloatFormat where
  leastPositional := -5
  greatestPositional := 15

/-- A number's text. -/
def integerText (n : Int) : Text :=
  if n < 0 then '-' :: Nat.toDigits 10 n.natAbs else Nat.toDigits 10 n.natAbs

/-- A code point as four hexadecimal digits. -/
def fourHexDigits (n : Nat) : Text :=
  let ds := Nat.toDigits 16 n
  List.replicate (4 - ds.length) '0' ++ ds

/-- A character inside a string: quotes, backslashes and controls are escaped. -/
def escapeChar (c : Char) : Text :=
  match c with
  | '"' => ['\\', '"']
  | '\\' => ['\\', '\\']
  | '\n' => ['\\', 'n']
  | '\r' => ['\\', 'r']
  | '\t' => ['\\', 't']
  | c =>
    if c.toNat = 0x08 then ['\\', 'b']
    else if c.toNat = 0x0C then ['\\', 'f']
    else if c.toNat < 0x20 then ['\\', 'u'] ++ fourHexDigits c.toNat
    else [c]

/-- A string's text. -/
def stringText (s : Text) : Text :=
  '"' :: (s.flatMap escapeChar ++ ['"'])

mutual

/-- The compact text of a value. -/
def render : Json → Text
  | null => "null".toList
  | bool true => "true".toList
  | bool false => "false".toList
  | integer n => integerText n
  | double bits => floatFormat.render bits
  | string s => stringText s
  | array elements => '[' :: (renderElements elements ++ [']'])
  | object members => '\x7b' :: (renderMembers members ++ ['\x7d'])

/-- Elements, with commas between them. -/
def renderElements : List Json → Text
  | [] => []
  | [element] => element.render
  | element :: rest => element.render ++ ',' :: renderElements rest

/-- Members, with commas between them. -/
def renderMembers : List (Text × Json) → Text
  | [] => []
  | [(name, value)] => stringText name ++ ':' :: value.render
  | (name, value) :: rest => stringText name ++ ':' :: value.render ++ ',' :: renderMembers rest

end

end Json

end Sigil
