import Sigil.Text.Basic

/-! # Faults of patterns

    What can be wrong with a regular expression, and how it is reported: the
    pattern is quoted, the place of the fault is marked below it, and the last
    line gives the description.

    * `Cause`, `Cause.description`: what can be wrong.
    * `Fault.report`: the report on a pattern. -/

namespace Sigil.Pattern

/-- How deeply groups, classes and operators may be nested. -/
def nestLimit : Nat := 250

/-- What can be wrong with a pattern. -/
inductive Cause where
  | classEscapeInvalid
  | classRangeInvalid
  | classRangeLiteral
  | classUnclosed
  | decimalInvalid
  | escapeHexEmpty
  | escapeHexInvalid
  | escapeHexInvalidDigit
  | escapeUnexpectedEnd
  | escapeUnrecognized
  | flagDanglingNegation
  | flagDuplicate
  | flagRepeatedNegation
  | flagUnexpectedEnd
  | flagUnrecognized
  | groupNameDuplicate
  | groupNameEmpty
  | groupNameInvalid
  | groupNameUnexpectedEnd
  | groupUnclosed
  | groupUnopened
  | nestLimitExceeded
  | repetitionCountInvalid
  | repetitionCountDecimalEmpty
  | repetitionCountUnclosed
  | repetitionMissing
  | specialWordBoundaryUnclosed
  | specialWordBoundaryUnrecognized
  | specialWordOrRepetitionUnexpectedEnd
  | unicodeClassInvalid
  | unsupportedBackreference
  | unsupportedLookAround
  | unicodeNotAllowed
  | invalidEncoding
  | unicodePropertyNotFound
  | unicodePropertyValueNotFound
deriving DecidableEq, Repr

namespace Cause

/-- The description of each cause. -/
def description : Cause → Text
  | classEscapeInvalid => "invalid escape sequence found in character class".toList
  | classRangeInvalid =>
    "invalid character class range, the start must be <= the end".toList
  | classRangeLiteral => "invalid range boundary, must be a literal".toList
  | classUnclosed => "unclosed character class".toList
  | decimalInvalid => "decimal literal invalid".toList
  | escapeHexEmpty => "hexadecimal literal empty".toList
  | escapeHexInvalid => "hexadecimal literal is not a Unicode scalar value".toList
  | escapeHexInvalidDigit => "invalid hexadecimal digit".toList
  | escapeUnexpectedEnd =>
    "incomplete escape sequence, reached end of pattern prematurely".toList
  | escapeUnrecognized => "unrecognized escape sequence".toList
  | flagDanglingNegation => "dangling flag negation operator".toList
  | flagDuplicate => "duplicate flag".toList
  | flagRepeatedNegation => "flag negation operator repeated".toList
  | flagUnexpectedEnd => "expected flag but got end of regex".toList
  | flagUnrecognized => "unrecognized flag".toList
  | groupNameDuplicate => "duplicate capture group name".toList
  | groupNameEmpty => "empty capture group name".toList
  | groupNameInvalid => "invalid capture group character".toList
  | groupNameUnexpectedEnd => "unclosed capture group name".toList
  | groupUnclosed => "unclosed group".toList
  | groupUnopened => "unopened group".toList
  | nestLimitExceeded =>
    "exceed the maximum number of nested parentheses/brackets (".toList
      ++ Nat.toDigits 10 nestLimit ++ ")".toList
  | repetitionCountInvalid =>
    "invalid repetition count range, the start must be <= the end".toList
  | repetitionCountDecimalEmpty => "repetition quantifier expects a valid decimal".toList
  | repetitionCountUnclosed => "unclosed counted repetition".toList
  | repetitionMissing => "repetition operator missing expression".toList
  | specialWordBoundaryUnclosed =>
    "special word boundary assertion is either unclosed or contains an invalid character".toList
  | specialWordBoundaryUnrecognized =>
    ("unrecognized special word boundary assertion, "
      ++ "valid choices are: start, end, start-half or end-half").toList
  | specialWordOrRepetitionUnexpectedEnd =>
    ("found either the beginning of a special word boundary or a bounded repetition "
      ++ "on a \\b with an opening brace, but no closing brace").toList
  | unicodeClassInvalid => "invalid Unicode character class".toList
  | unsupportedBackreference => "backreferences are not supported".toList
  | unsupportedLookAround =>
    "look-around, including look-ahead and look-behind, is not supported".toList
  | unicodeNotAllowed => "Unicode not allowed here".toList
  | invalidEncoding => "pattern can match invalid UTF-8".toList
  | unicodePropertyNotFound => "Unicode property not found".toList
  | unicodePropertyValueNotFound => "Unicode property value not found".toList

end Cause

/-- A cause and the number of characters before the place it concerns. -/
structure Fault where
  cause : Cause
  position : Nat
deriving DecidableEq, Repr

/-! ## Reports -/

/-- The line of a pattern that holds a position, counted from zero, and the
    number of characters before the position on that line. -/
def locate (pattern : Text) (position : Nat) : Nat × Nat :=
  let before := pattern.take position
  (before.count '\n', (before.reverse.takeWhile (· != '\n')).length)

/-- A number with spaces before it, up to `width` characters. -/
def padded (width n : Nat) : Text :=
  let ds := Nat.toDigits 10 n
  List.replicate (width - ds.length) ' ' ++ ds

/-- Quote the lines of a pattern, each after its `label`, and put a caret below
    the character at `column` of the line `row`. -/
def quoteLines (label : Nat → Text) (row column : Nat) : Nat → List Text → List Text
  | _, [] => []
  | i, line :: rest =>
    let quoted := label i ++ line
    if i = row then
      quoted :: (List.replicate ((label i).length + column) ' ' ++ ['^'])
        :: quoteLines label row column (i + 1) rest
    else quoted :: quoteLines label row column (i + 1) rest

/-- The pattern quoted: a pattern of one line is indented, the lines of a longer
    one are numbered and set between rules. -/
def quote (pattern : Text) (position : Nat) : List Text :=
  let (row, column) := locate pattern position
  if pattern.any (· == '\n') then
    let lines := Text.lines pattern
    let count := lines.length + (if pattern.getLast? = some '\n' then 1 else 0)
    let width := (Nat.toDigits 10 count).length
    let rule := List.replicate 79 '~'
    let label (i : Nat) : Text := padded width (i + 1) ++ ": ".toList
    rule :: quoteLines label row column 0 lines ++ [rule]
  else quoteLines (fun _ => "    ".toList) row column 0 (Text.lines pattern)

/-- The lines of the report on a fault of a pattern. -/
def Fault.report (f : Fault) (pattern : Text) : List Text :=
  "regex parse error:".toList :: quote pattern f.position
    ++ ["error: ".toList ++ f.cause.description]

end Sigil.Pattern
