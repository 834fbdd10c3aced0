import Sigil.Text.Basic

/-! # Findings

    What a check has to say about a text: a problem and the span it concerns.

    * `Problem`: the kinds of problem, with their severity and wording.
    * `Finding`: a problem at an offset, with the width of its span in bytes.
    * `Finding.sort`: the order in which findings are reported. -/

namespace Sigil

/-- How serious a problem is. -/
inductive Severity where
  | error
  | warning
  | info
deriving DecidableEq, Repr

/-- What can be wrong. -/
inductive Problem where
  /-- A `]` with no `[` before it to close. -/
  | unmatchedClosingBracket
  /-- A `[` that is never closed. -/
  | unclosedBracket
  /-- A time format where an arithmetic expression should stand. -/
  | timeFormatInMath
  /-- Words where an arithmetic expression should stand. -/
  | nonMathematicalContent
  /-- A single number where an arithmetic expression should stand. -/
  | noMathematicalOperations
  /-- An arithmetic expression that cannot be evaluated. -/
  | invalidMathExpression
  /-- The variable `name` needs a second argument, its default. -/
  | missingDefault (name : Text)
  /-- The variable `name` should no longer be used. -/
  | deprecatedVariable (name : Text) (replacement : Option Text)
  /-- A path that leaves its directory. -/
  | parentDirectoryPath
  /-- A path with characters that file names cannot have. -/
  | invalidPathCharacters
  /-- A look-ahead group that is never closed. -/
  | unclosedLookahead
  /-- A pattern that is not a regular expression. -/
  | invalidRegex (reason : Text)
  /-- Flags that a regular expression does not have. -/
  | invalidRegexFlags (flags : Text)
  /-- A style value whose unit is detached from its variable. -/
  | missingCssUnit
deriving DecidableEq, Repr

namespace Problem

/-- The severity of each problem. -/
def severity : Problem → Severity
  | noMathematicalOperations | missingDefault _ | deprecatedVariable _ _
  | parentDirectoryPath | missingCssUnit => .warning
  | _ => .error

/-- Is the problem about the matching of brackets? -/
def isStructural : Problem → Bool
  | unmatchedClosingBracket | unclosedBracket => true
  | _ => false

/-- The wording of each problem. -/
def message : Problem → Text
  | unmatchedClosingBracket => "Unmatched closing bracket".toList
  | unclosedBracket => "Unclosed bracket".toList
  | timeFormatInMath => "Time format string should not be wrapped in $math[]".toList
  | nonMathematicalContent =>
    "Invalid content in $math[], contains non-mathematical characters".toList
  | noMathematicalOperations => "No mathematical operations found in $math[]".toList
  | invalidMathExpression => "Invalid mathematical expression".toList
  | missingDefault name => name ++ " requires a default value".toList
  | deprecatedVariable name none => name ++ " is deprecated".toList
  | deprecatedVariable name (some replacement) =>
    name ++ " is deprecated, use ".toList ++ replacement ++ " instead".toList
  | parentDirectoryPath => "Path should not contain parent directory references".toList
  | invalidPathCharacters => "Path contains invalid characters".toList
  | unclosedLookahead => "Unclosed look-ahead".toList
  | invalidRegex reason => "Invalid regex pattern: ".toList ++ reason
  | invalidRegexFlags flags => "Invalid regex flags '".toList ++ flags ++ "'".toList
  | missingCssUnit => "CSS numeric values should include units".toList

end Problem

/-- A problem and where it is: `width` bytes from the byte `offset` on. -/
structure Finding where
  problem : Problem
  offset : Nat
  width : Nat
deriving DecidableEq, Repr

namespace Finding

/-- A `]` at `offset` with nothing to close. -/
def unmatchedClosing (offset : Nat) : Finding :=
  { problem := .unmatchedClosingBracket, offset, width := 1 }

/-- A `[` at `offset` that is never closed. -/
def unclosed (offset : Nat) : Finding :=
  { problem := .unclosedBracket, offset, width := 1 }

/-- The severity of the problem. -/
def severity (f : Finding) : Severity :=
  f.problem.severity

/-- The wording of the problem. -/
def message (f : Finding) : Text :=
  f.problem.message

/-- The same problem `distance` bytes further on. -/
def shift (distance : Nat) (f : Finding) : Finding :=
  { f with offset := f.offset + distance }

@[simp] theorem shift_zero (f : Finding) : f.shift 0 = f := rfl

@[simp] theorem shift_shift (a b : Nat) (f : Finding) :
    (f.shift a).shift b = f.shift (a + b) := by
  simp [shift, Nat.add_assoc]

/-- Findings in order of their offsets; those at one offset keep their order. -/
def sort (findings : List Finding) : List Finding :=
  findings.mergeSort (fun f g => decide (f.offset ≤ g.offset))

end Finding

end Sigil
