import Sigil.Arithmetic.Binary64
import Sigil.Finding
import Sigil.Reference

/-! # Content of an arithmetic variable

    What stands between the brackets of `$math` should be an arithmetic
    expression in which references stand for numbers.

    * `normalize`: the content without quotes and outer blanks.
    * `sanitize`: the same with `0` for every reference.
    * `contentProblem?`: what is wrong with a content. -/

namespace Sigil.Arithmetic

/-- The text without quotes, and without blanks around it. -/
def normalize (content : Text) : Text :=
  Text.trim (content.filter fun c => c != '"' && c != Char.ofNat 0x27)

/-- Hours, minutes, seconds and colons, and nothing but blanks beside them. -/
def isTimeFormat (t : Text) : Bool :=
  !t.isEmpty && t.all fun c => "Hhms:".toList.contains c || isBlank c

/-- Every reference stands for a number; which one does not matter. -/
def sanitize (t : Text) : Text :=
  Text.trim (replaceReferences ['0'] t)

/-- Does one of the operators occur? -/
def hasOperator (t : Text) : Bool :=
  t.any fun c => "+-*/%".toList.contains c

/-- Is the text a number in decimal notation, with at least one digit and at
    most one point? -/
def isDecimal (t : Text) : Bool :=
  t.all (fun c => c.isDigit || c == '.') && t.any Char.isDigit && t.count '.' ≤ 1

/-- Only these characters of a content are read as arithmetic. -/
def isArithmeticChar (c : Char) : Bool :=
  c.isDigit || "+-*/%.()".toList.contains c || isBlank c

/-- What is wrong with the content of `$math`, if anything is. -/
def contentProblem? (content : Text) : Option Problem :=
  let normalized := normalize content
  if isTimeFormat normalized then some .timeFormatInMath
  else
    let sanitized := sanitize normalized
    if hasOperator sanitized then
      match evaluate binary64 (sanitized.filter isArithmeticChar) with
      | .ok _ => none
      | .error _ => some .invalidMathExpression
    else if sanitized.any Char.isAlpha then some .nonMathematicalContent
    else if isDecimal sanitized then some .noMathematicalOperations
    else some .invalidMathExpression

/-- **Arithmetic checks.**  A finding on the content of `$math` spans all of it. -/
def checkContent (content : Text) : List Finding :=
  (contentProblem? content).toList.map fun problem =>
    { problem, offset := 0, width := content.size }

end Sigil.Arithmetic
