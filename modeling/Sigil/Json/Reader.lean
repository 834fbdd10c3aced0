import Sigil.Json.Basic

/-! # Reading JSON

    A text is read as one JSON value with blanks around it.  What is wrong with
    a text is told with the place where it was noticed: the line, and the number
    of bytes read on that line.

    * `Cause`: what can be wrong, with its wording.
    * `Json.read`: the value of a text.

    The reader goes through the text once.  Its functions take the bound `fuel`
    on the calls still to come; every call reads at least one character, so the
    number of characters is enough. -/

namespace Sigil.Json

/-! ## Faults -/

/-- What can be wrong with a text. -/
inductive Cause where
  | eofInList
  | eofInObject
  | eofInString
  | eofInValue
  | expectedColon
  | expectedListCommaOrEnd
  | expectedObjectCommaOrEnd
  | expectedIdent
  | expectedValue
  | invalidEscape
  | invalidNumber
  | numberOutOfRange
  | keyMustBeString
  | controlCharacter
  | loneSurrogate
  | trailingComma
  | trailingCharacters
  | unexpectedEndOfEscape
  | recursionLimit
deriving DecidableEq, Repr

namespace Cause

/-- The wording of each cause. -/
def message : Cause → Text
  | eofInList => "EOF while parsing a list".toList
  | eofInObject => "EOF while parsing an object".toList
  | eofInString => "EOF while parsing a string".toList
  | eofInValue => "EOF while parsing a value".toList
  | expectedColon => "expected `:`".toList
  | expectedListCommaOrEnd => "expected `,` or `]`".toList
  | expectedObjectCommaOrEnd => "expected `,` or `\x7d`".toList
  | expectedIdent => "expected ident".toList
  | expectedValue => "expected value".toList
  | invalidEscape => "invalid escape".toList
  | invalidNumber => "invalid number".toList
  | numberOutOfRange => "number out of range".toList
  | keyMustBeString => "key must be a string".toList
  | controlCharacter =>
    "control character (\\u0000-\\u001F) found while parsing a string".toList
  | loneSurrogate => "lone leading surrogate in hex escape".toList
  | trailingComma => "trailing comma".toList
  | trailingCharacters => "trailing characters".toList
  | unexpectedEndOfEscape => "unexpected end of hex escape".toList
  | recursionLimit => "recursion limit exceeded".toList

end Cause

/-- A cause, and the number of bytes that had been read when it was noticed. -/
structure Fault where
  cause : Cause
  offset : Nat
deriving DecidableEq, Repr

/-- The text that is still to be read, and the number of bytes before it. -/
structure Cursor where
  offset : Nat
  rest : Text

namespace Cursor

/-- Move past the next character. -/
def advance (cur : Cursor) : Cursor :=
  match cur.rest with
  | [] => cur
  | c :: rest => ⟨cur.offset + c.utf8Size, rest⟩

/-- A fault noticed here. -/
def fault {α : Type} (cur : Cursor) (cause : Cause) : Except Fault α :=
  .error ⟨cause, cur.offset⟩

/-- A fault noticed by looking at the next byte. -/
def faultAhead {α : Type} (cur : Cursor) (cause : Cause) : Except Fault α :=
  .error ⟨cause, cur.offset + (if cur.rest.isEmpty then 0 else 1)⟩

/-- A fault noticed after reading `bytes` more bytes. -/
def faultAfter {α : Type} (cur : Cursor) (bytes : Nat) (cause : Cause) : Except Fault α :=
  .error ⟨cause, cur.offset + bytes⟩

/-- Move past ASCII characters with a property. -/
def skipWhile (cur : Cursor) (p : Char → Bool) : Cursor :=
  ⟨cur.offset + Text.size (cur.rest.takeWhile p), cur.rest.dropWhile p⟩

/-- Move past blanks. -/
def skipBlanks (cur : Cursor) : Cursor :=
  cur.skipWhile (fun c => c == ' ' || c == '\n' || c == '\t' || c == '\r')

end Cursor

/-! ## Words -/

/-- The rest of one of the words `null`, `true` and `false`. -/
def readWord (cur : Cursor) : Text → Except Fault Cursor
  | [] => .ok cur
  | expected :: more =>
    match cur.rest with
    | [] => cur.fault .eofInValue
    | c :: _ =>
      if c = expected then readWord cur.advance more
      else cur.faultAfter 1 .expectedIdent

/-! ## Numbers -/

/-- The greatest integer that is not read as a double. -/
def greatestInteger : Nat := Nat.pow 2 64 - 1

/-- Read digits into `value` as long as it stays at most `limit`; also the
    number of digits read. -/
def readDigits (limit : Nat) (value count : Nat) : Text → Nat × Nat × Text
  | [] => (value, count, [])
  | c :: rest =>
    if c.isDigit && 10 * value + (c.toNat - '0'.toNat) ≤ limit then
      readDigits limit (10 * value + (c.toNat - '0'.toNat)) (count + 1) rest
    else (value, count, c :: rest)

/-- A power of ten as a double. -/
def powerOfTen (n : Nat) : Float :=
  Float.ofScientific 1 false n

/-- Divide by `10 ^ 308` until the exponent is small enough for one more
    division. -/
def scaleDown (exponent : Nat) : Nat → Float → Float
  | 0, x => x
  | fuel + 1, x =>
    if exponent ≤ 308 then x / powerOfTen exponent
    else if x == 0.0 then x
    else scaleDown (exponent - 308) fuel (x / powerOfTen 308)

/-- The double for `significand * 10 ^ exponent`: the significand is rounded to
    a double, and the product or quotient with the power of ten is rounded
    again.  A number that is too large is out of range. -/
def doubleOfParts (negative : Bool) (significand : Nat) (exponent : Int) (cur : Cursor) :
    Except Fault (Json × Cursor) :=
  let x := Float.ofNat significand
  let signed (x : Float) : Json := .double (if negative then -x else x).toBits.toNat
  if exponent < 0 then
    let n := exponent.natAbs
    .ok (signed (scaleDown n (n / 308 + 1) x), cur)
  else if 308 < exponent then
    if x == 0.0 then .ok (signed x, cur) else cur.fault .numberOutOfRange
  else
    let x := x * powerOfTen exponent.toNat
    if x.isInf then cur.fault .numberOutOfRange else .ok (signed x, cur)

/-- The exponent part of a number, from its `e` on. -/
def readExponent (negative : Bool) (significand : Nat) (start : Int) (cur : Cursor) :
    Except Fault (Json × Cursor) :=
  let cur := cur.advance
  let (down, cur) := match cur.rest with
    | '+' :: _ => (false, cur.advance)
    | '-' :: _ => (true, cur.advance)
    | _ => (false, cur)
  match cur.rest with
  | [] => cur.fault .eofInValue
  | c :: _ =>
    if !c.isDigit then cur.faultAfter 1 .invalidNumber
    else
      let (value, count, rest) := readDigits (Nat.pow 2 31 - 1) 0 0 cur.rest
      let cur : Cursor := ⟨cur.offset + count, rest⟩
      match rest with
      | d :: _ =>
        if d.isDigit then
          -- The exponent is beyond all bounds.
          if significand ≠ 0 && !down then cur.faultAfter 1 .numberOutOfRange
          else
            let zero : Float := if negative then -0.0 else 0.0
            .ok (.double zero.toBits.toNat, cur.skipWhile Char.isDigit)
        else doubleOfParts negative significand (if down then start - value else start + value) cur
      | [] => doubleOfParts negative significand (if down then start - value else start + value) cur

/-- What may follow the digits of a number that is a double: its exponent. -/
def readExponentPart (negative : Bool) (significand : Nat) (exponent : Int) (cur : Cursor) :
    Except Fault (Json × Cursor) :=
  match cur.rest with
  | 'e' :: _ | 'E' :: _ => readExponent negative significand exponent cur
  | _ => doubleOfParts negative significand exponent cur

/-- The decimal places of a number, from its dot on.  `exponent` counts the
    digits before the dot that the significand has no room for. -/
def readPlaces (negative : Bool) (significand : Nat) (exponent : Nat) (cur : Cursor) :
    Except Fault (Json × Cursor) :=
  let cur := cur.advance
  let (significand, count, rest) := readDigits greatestInteger significand 0 cur.rest
  let cur : Cursor := ⟨cur.offset + count, rest⟩
  match rest with
  | c :: _ =>
    if c.isDigit then
      -- There is no room for more digits.
      readExponentPart negative significand (exponent - count) (cur.skipWhile Char.isDigit)
    else if count = 0 then cur.faultAhead .invalidNumber
    else readExponentPart negative significand (exponent - count) cur
  | [] =>
    if count = 0 then cur.faultAhead .eofInValue
    else readExponentPart negative significand (exponent - count) cur

/-- An integer, or a double if it is negative zero or does not fit. -/
def integerOrDouble (negative : Bool) (n : Nat) : Json :=
  if !negative then .integer n
  else if n = 0 || Nat.pow 2 63 < n then .double (-(Float.ofNat n)).toBits.toNat
  else .integer (-(n : Int))

/-- What may follow the integer part of a number: its places, its exponent. -/
def readFraction (negative : Bool) (significand : Nat) (cur : Cursor) :
    Except Fault (Json × Cursor) :=
  match cur.rest with
  | '.' :: _ => readPlaces negative significand 0 cur
  | 'e' :: _ | 'E' :: _ => readExponent negative significand 0 cur
  | _ => .ok (integerOrDouble negative significand, cur)

/-- A number, from the digit after its sign on. -/
def readNumber (negative : Bool) (cur : Cursor) : Except Fault (Json × Cursor) :=
  match cur.rest with
  | [] => cur.fault .eofInValue
  | '0' :: rest =>
    let cur := cur.advance
    match rest with
    | c :: _ => if c.isDigit then cur.faultAhead .invalidNumber else readFraction negative 0 cur
    | [] => readFraction negative 0 cur
  | c :: _ =>
    if !c.isDigit then cur.faultAfter 1 .invalidNumber
    else
      let (significand, count, rest) := readDigits greatestInteger 0 0 cur.rest
      let cur : Cursor := ⟨cur.offset + count, rest⟩
      match rest with
      | d :: _ =>
        if d.isDigit then
          -- More digits than fit: each counts as a factor of ten.
          let after := cur.skipWhile Char.isDigit
          let dropped := after.offset - cur.offset
          match after.rest with
          | '.' :: _ => readPlaces negative significand dropped after
          | _ => readExponentPart negative significand dropped after
        else readFraction negative significand cur
      | [] => readFraction negative significand cur

/-! ## Strings -/

/-- The value of a hexadecimal digit. -/
def hexDigit? (c : Char) : Option Nat :=
  if c.isDigit then some (c.toNat - '0'.toNat)
  else if 'a' ≤ c && c ≤ 'f' then some (c.toNat - 'a'.toNat + 10)
  else if 'A' ≤ c && c ≤ 'F' then some (c.toNat - 'A'.toNat + 10)
  else none

/-- The four hexadecimal digits of an escape. -/
def readFourHexDigits (cur : Cursor) : Except Fault (Nat × Cursor) :=
  if cur.rest.size < 4 then cur.faultAfter cur.rest.size .eofInString
  else
    match (cur.rest.take 4).mapM hexDigit? with
    | some ds =>
      .ok (ds.foldl (fun n d => 16 * n + d) 0, ⟨cur.offset + 4, cur.rest.drop 4⟩)
    | none => cur.faultAfter 4 .invalidEscape

/-- The character of an escape by code unit, from its digits on.  A leading
    surrogate has to be followed by the escape of a trailing one. -/
def readUnicodeEscape (cur : Cursor) : Except Fault (Char × Cursor) := do
  let (unit, cur) ← readFourHexDigits cur
  if 0xDC00 ≤ unit && unit ≤ 0xDFFF then cur.fault .loneSurrogate
  else if unit < 0xD800 || 0xDBFF < unit then return (Char.ofNat unit, cur)
  else
    match cur.rest with
    | [] => cur.fault .eofInString
    | '\\' :: _ =>
      let cur := cur.advance
      match cur.rest with
      | [] => cur.fault .eofInString
      | 'u' :: _ => do
        let (second, cur) ← readFourHexDigits cur.advance
        if second < 0xDC00 || 0xDFFF < second then cur.fault .loneSurrogate
        else
          return (Char.ofNat (0x10000 + (unit - 0xD800) * 0x400 + (second - 0xDC00)), cur)
      | _ => cur.faultAfter 1 .unexpectedEndOfEscape
    | _ => cur.faultAfter 1 .unexpectedEndOfEscape

/-- The character of an escape, from after its backslash on. -/
def readEscape (cur : Cursor) : Except Fault (Char × Cursor) :=
  match cur.rest with
  | [] => cur.fault .eofInString
  | c :: _ =>
    let next := cur.advance
    match c with
    | '"' => .ok ('"', next)
    | '\\' => .ok ('\\', next)
    | '/' => .ok ('/', next)
    | 'b' => .ok ('\x08', next)
    | 'f' => .ok ('\x0c', next)
    | 'n' => .ok ('\n', next)
    | 'r' => .ok ('\r', next)
    | 't' => .ok ('\t', next)
    | 'u' => readUnicodeEscape next
    | _ => cur.faultAfter 1 .invalidEscape

/-- A string, from after its opening quote on. -/
def readString : Nat → Cursor → Except Fault (Text × Cursor)
  | 0, cur => cur.fault .eofInString
  | fuel + 1, cur =>
    match cur.rest with
    | [] => cur.fault .eofInString
    | c :: _ =>
      if c = '"' then .ok ([], cur.advance)
      else if c = '\\' then do
        let (decoded, cur) ← readEscape cur.advance
        let (more, cur) ← readString fuel cur
        return (decoded :: more, cur)
      else if c.toNat < 0x20 then cur.faultAfter 1 .controlCharacter
      else do
        let (more, cur) ← readString fuel cur.advance
        return (c :: more, cur)

/-! ## Values -/

mutual

/-- A value.  `levels` is one more than the number of arrays and objects that
    may still be entered. -/
def readValue : Nat → Nat → Cursor → Except Fault (Json × Cursor)
  | 0, _, cur => cur.faultAhead .eofInValue
  | fuel + 1, levels, cur =>
    let cur := cur.skipBlanks
    match cur.rest with
    | [] => cur.faultAhead .eofInValue
    | c :: _ =>
      match c with
      | 'n' => do return (.null, ← readWord cur.advance "ull".toList)
      | 't' => do return (.bool true, ← readWord cur.advance "rue".toList)
      | 'f' => do return (.bool false, ← readWord cur.advance "alse".toList)
      | '-' => readNumber true cur.advance
      | '"' => do
        let (s, cur) ← readString fuel cur.advance
        return (.string s, cur)
      | '[' =>
        if levels ≤ 1 then cur.faultAhead .recursionLimit
        else do
          let (elements, cur) ← readElements fuel (levels - 1) true cur.advance
          return (.array elements, cur)
      | '\x7b' =>
        if levels ≤ 1 then cur.faultAhead .recursionLimit
        else do
          let (members, cur) ← readMembers fuel (levels - 1) true cur.advance
          return (ofMembers members, cur)
      | c => if c.isDigit then readNumber false cur else cur.faultAhead .expectedValue

/-- The elements of an array and its closing bracket. -/
def readElements : Nat → Nat → Bool → Cursor → Except Fault (List Json × Cursor)
  | 0, _, _, cur => cur.faultAhead .eofInList
  | fuel + 1, levels, first, cur =>
    let cur := cur.skipBlanks
    match cur.rest with
    | [] => cur.faultAhead .eofInList
    | c :: _ =>
      if c = ']' then .ok ([], cur.advance)
      else if first then do
        let (element, cur) ← readValue fuel levels cur
        let (more, cur) ← readElements fuel levels false cur
        return (element :: more, cur)
      else if c = ',' then
        let cur := cur.advance.skipBlanks
        match cur.rest with
        | [] => cur.faultAhead .eofInValue
        | d :: _ =>
          if d = ']' then cur.faultAhead .trailingComma
          else do
            let (element, cur) ← readValue fuel levels cur
            let (more, cur) ← readElements fuel levels false cur
            return (element :: more, cur)
      else cur.faultAhead .expectedListCommaOrEnd

/-- The members of an object and its closing brace. -/
def readMembers : Nat → Nat → Bool → Cursor → Except Fault (List (Text × Json) × Cursor)
  | 0, _, _, cur => cur.faultAhead .eofInObject
  | fuel + 1, levels, first, cur =>
    let cur := cur.skipBlanks
    match cur.rest with
    | [] => cur.faultAhead .eofInObject
    | c :: _ =>
      if c = '\x7d' then .ok ([], cur.advance)
      else if first then
        if c = '"' then readMember fuel levels cur else cur.faultAhead .keyMustBeString
      else if c = ',' then
        let cur := cur.advance.skipBlanks
        match cur.rest with
        | [] => cur.faultAhead .eofInValue
        | d :: _ =>
          if d = '"' then readMember fuel levels cur
          else if d = '\x7d' then cur.faultAhead .trailingComma
          else cur.faultAhead .keyMustBeString
      else cur.faultAhead .expectedObjectCommaOrEnd

/-- A member, from the quote of its name on, and those that follow. -/
def readMember : Nat → Nat → Cursor → Except Fault (List (Text × Json) × Cursor)
  | 0, _, cur => cur.faultAhead .eofInObject
  | fuel + 1, levels, cur => do
    let (name, cur) ← readString fuel cur.advance
    let cur := cur.skipBlanks
    match cur.rest with
    | [] => cur.faultAhead .eofInObject
    | c :: _ =>
      if c = ':' then do
        let (value, cur) ← readValue fuel levels cur.advance
        let (more, cur) ← readMembers fuel levels false cur
        return ((name, value) :: more, cur)
      else cur.faultAhead .expectedColon

end

/-- One more than the number of arrays and objects that may be nested. -/
def nestingLevels : Nat := 128

/-! ## Texts -/

/-- A fault as it is reported: its line, and the number of bytes read on that
    line. -/
structure SyntaxError where
  cause : Cause
  line : Nat
  column : Nat
deriving DecidableEq, Repr

/-- The place of a fault in the text. -/
def Fault.locate (f : Fault) (t : Text) : SyntaxError :=
  let before := t.takeBytes f.offset
  let lineStart := (before.reverse.dropWhile (· != '\n')).reverse
  { cause := f.cause
    line := before.count '\n' + 1
    column := f.offset - Text.size lineStart }

namespace SyntaxError

/-- The wording of a syntax error. -/
def message (e : SyntaxError) : Text :=
  e.cause.message ++ " at line ".toList ++ Nat.toDigits 10 e.line
    ++ " column ".toList ++ Nat.toDigits 10 e.column

end SyntaxError

/-- The value of a text. -/
def read (t : Text) : Except SyntaxError Json :=
  let outcome : Except Fault Json := do
    -- The bound allows for one call per character and rule.
    let (value, cur) ← readValue (3 * t.length + 3) nestingLevels ⟨0, t⟩
    let cur := cur.skipBlanks
    if cur.rest.isEmpty then return value else cur.faultAhead .trailingCharacters
  match outcome with
  | .ok value => .ok value
  | .error fault => .error (fault.locate t)

end Sigil.Json
