import Sigil.Pattern.Cursor
import Sigil.Pattern.Tree

/-! # Escapes

    What a backslash introduces: a literal character, a class of characters or
    an assertion about the place. -/

namespace Sigil.Pattern

/-- A part of a pattern without parts of its own. -/
inductive Primitive where
  | literal (l : Literal)
  | assertion (position : Nat)
  | dot (position : Nat)
  | shorthand (position : Nat) (negated : Bool)
  | property (position : Nat) (query : PropertyQuery)
deriving DecidableEq, Repr

namespace Primitive

/-- The position at which the primitive starts. -/
def position : Primitive → Nat
  | literal l => l.position
  | assertion p | dot p | shorthand p _ | property p _ => p

/-- A primitive as a part of a pattern. -/
def toNode : Primitive → Node
  | literal l => .literal l
  | assertion _ => .assertion
  | dot p => .dot p
  | shorthand p negated => .shorthand p negated
  | property p query => .property p query

/-- A primitive as an item of a class; assertions have no place there. -/
def toClassItem (x : Primitive) : Except Fault ClassItem :=
  match x with
  | literal l => .ok (.literal l)
  | shorthand p negated => .ok (.shorthand p negated)
  | property p query => .ok (.property p query)
  | assertion p | dot p => faultAt p .classEscapeInvalid

/-- A primitive as a boundary of a range, which has to be a literal. -/
def toLiteral (x : Primitive) : Except Fault Literal :=
  match x with
  | literal l => .ok l
  | x => faultAt x.position .classRangeLiteral

end Primitive

/-! ## Characters by number -/

/-- The value of a hexadecimal digit. -/
def hexDigit? (c : Char) : Option Nat :=
  if c.isDigit then some (c.toNat - '0'.toNat)
  else if 'a' ≤ c && c ≤ 'f' then some (c.toNat - 'a'.toNat + 10)
  else if 'A' ≤ c && c ≤ 'F' then some (c.toNat - 'A'.toNat + 10)
  else none

/-- The character with a number, unless the number is a surrogate or too large. -/
def charOfNumber? (n : Nat) : Option Char :=
  if n < 0xD800 || (0xDFFF < n && n ≤ 0x10FFFF) then some (Char.ofNat n) else none

/-- Exactly `count` hexadecimal digits. -/
def readHexDigits : Nat → Nat → Cursor → Except Fault (Nat × Cursor)
  | 0, value, cur => .ok (value, cur)
  | count + 1, value, cur =>
    match cur.peek? with
    | none => cur.fault .escapeUnexpectedEnd
    | some c =>
      match hexDigit? c with
      | none => cur.fault .escapeHexInvalidDigit
      | some d => readHexDigits count (16 * value + d) cur.bumpAndSkip

/-- Hexadecimal digits up to a closing brace, from after the opening brace on.
    Also their number. -/
def readBracedDigits (opened : Nat) : Nat → Nat → Nat → Cursor → Except Fault (Nat × Nat × Cursor)
  | 0, _, _, _ => faultAt opened .escapeUnexpectedEnd
  | fuel + 1, value, count, cur =>
    match cur.peek? with
    | none => faultAt opened .escapeUnexpectedEnd
    | some '\x7d' => .ok (value, count, cur.bumpAndSkip)
    | some c =>
      match hexDigit? c with
      | none => cur.fault .escapeHexInvalidDigit
      | some d => readBracedDigits opened fuel (16 * value + d) (count + 1) cur.bumpAndSkip

/-- A character by its number, from the letter `x`, `u` or `U` on: two, four or
    eight hexadecimal digits, or any number of them in braces. -/
def readHex (start : Nat) (cur : Cursor) : Except Fault (Literal × Cursor) := do
  let kind := cur.peek?
  let cur := cur.bumpAndSkip
  match cur.peek? with
  | none => cur.fault .escapeUnexpectedEnd
  | some '\x7b' =>
    let opened := cur.position
    let (value, count, cur) ← readBracedDigits opened (cur.rest.length + 1) 0 0 cur.bumpAndSkip
    if count = 0 then faultAt opened .escapeHexEmpty
    else
      match charOfNumber? value with
      | none => faultAt (opened + 1) .escapeHexInvalid
      | some c => return (⟨start, c, false⟩, cur)
  | some _ =>
    let count := if kind = some 'x' then 2 else if kind = some 'u' then 4 else 8
    let first := cur.position
    let (value, cur) ← readHexDigits count 0 cur
    match charOfNumber? value with
    | none => faultAt first .escapeHexInvalid
    | some c => return (⟨start, c, kind = some 'x'⟩, cur)

/-! ## Unicode properties -/

/-- The characters up to a closing brace, from after the opening brace on. -/
def readBracedName : Nat → Cursor → Except Fault (Text × Cursor)
  | 0, cur => cur.fault .escapeUnexpectedEnd
  | fuel + 1, cur =>
    match cur.peek? with
    | none => cur.fault .escapeUnexpectedEnd
    | some '\x7d' => .ok ([], cur.bump)
    | some c => do
      let (name, cur) ← readBracedName fuel cur.bumpAndSkip
      return (c :: name, cur)

/-- Cut a text at the first occurrence of a word. -/
def cutAt? (word : Text) : Text → Option (Text × Text)
  | [] => none
  | c :: rest =>
    if word.isPrefixOf (c :: rest) then some ([], (c :: rest).drop word.length)
    else (cutAt? word rest).map fun (before, after) => (c :: before, after)

/-- The query written in braces: a name, or a name and a value with `!=`, `:`
    or `=` between them. -/
def PropertyQuery.ofText (t : Text) : PropertyQuery :=
  match cutAt? "!=".toList t, cutAt? ":".toList t, cutAt? "=".toList t with
  | some (name, value), _, _ => .valued name value
  | none, some (name, value), _ => .valued name value
  | none, none, some (name, value) => .valued name value
  | none, none, none => .named t

/-- A class by Unicode properties, from the letter `p` or `P` on. -/
def readProperty (start : Nat) (cur : Cursor) : Except Fault (Primitive × Cursor) := do
  let cur := cur.bumpAndSkip
  match cur.peek? with
  | none => cur.fault .escapeUnexpectedEnd
  | some '\x7b' =>
    let (name, cur) ← readBracedName (cur.rest.length + 1) cur.bumpAndSkip
    return (.property start (.ofText name), cur)
  | some '\\' => cur.fault .unicodeClassInvalid
  | some c => return (.property start (.named [c]), cur.bumpAndSkip)

/-! ## Word boundaries -/

/-- The letters and dashes of a special word boundary's name. -/
def readBoundaryName : Nat → Cursor → Text × Cursor
  | 0, cur => ([], cur)
  | fuel + 1, cur =>
    match cur.peek? with
    | some c =>
      if c.isAlpha || c == '-' then
        let (name, cur) := readBoundaryName fuel cur.bumpAndSkip
        (c :: name, cur)
      else ([], cur)
    | none => ([], cur)

/-- What may follow `\b`: the name of a special word boundary in braces.  If the
    brace does not start with a name, it belongs to a repetition and is left
    alone. -/
def readSpecialBoundary (start : Nat) (cur : Cursor) : Except Fault Cursor :=
  if cur.peek? ≠ some '\x7b' then .ok cur
  else
    let inner := cur.bumpAndSkip
    match inner.peek? with
    | none => faultAt start .specialWordOrRepetitionUnexpectedEnd
    | some c =>
      if !(c.isAlpha || c == '-') then .ok cur
      else
        let (name, after) := readBoundaryName (inner.rest.length + 1) inner
        if after.peek? ≠ some '\x7d' then faultAt cur.position .specialWordBoundaryUnclosed
        else if ["start".toList, "end".toList, "start-half".toList, "end-half".toList].contains name
        then .ok after.bump
        else faultAt inner.position .specialWordBoundaryUnrecognized

/-! ## Escapes -/

/-- The characters with a meaning of their own. -/
def isMeta (c : Char) : Bool :=
  "\\.+*?()|[]\x7b\x7d^$#&-~".toList.contains c

/-- The characters that stand for themselves after a backslash: all of ASCII but
    letters, digits and angle brackets. -/
def isEscapable (c : Char) : Bool :=
  isMeta c || (c.toNat < 0x80 && !c.isAlphanum && c != '<' && c != '>')

/-- What a backslash introduces, from the backslash on. -/
def readEscape (cur : Cursor) : Except Fault (Primitive × Cursor) :=
  let start := cur.position
  let cur := cur.bump
  match cur.peek? with
  | none => faultAt start .escapeUnexpectedEnd
  | some c =>
    let literal (c : Char) : Except Fault (Primitive × Cursor) :=
      .ok (.literal ⟨start, c, false⟩, cur.bump)
    if c.isDigit then faultAt start .unsupportedBackreference
    else if c = 'x' || c = 'u' || c = 'U' then do
      let (l, cur) ← readHex start cur
      return (.literal l, cur)
    else if c = 'p' || c = 'P' then readProperty start cur
    else if c = 'd' || c = 's' || c = 'w' then .ok (.shorthand start false, cur.bump)
    else if c = 'D' || c = 'S' || c = 'W' then .ok (.shorthand start true, cur.bump)
    else if isEscapable c then literal c
    else
      match c with
      | 'a' => literal '\x07'
      | 'f' => literal '\x0c'
      | 't' => literal '\t'
      | 'n' => literal '\n'
      | 'r' => literal '\r'
      | 'v' => literal '\x0b'
      | 'A' | 'z' | 'B' | '<' | '>' => .ok (.assertion start, cur.bump)
      | 'b' => do
        let cur ← readSpecialBoundary start cur.bump
        return (.assertion start, cur)
      | _ => faultAt start .escapeUnrecognized

end Sigil.Pattern
