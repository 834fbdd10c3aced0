import Sigil.Finding
import Sigil.ReadFailure

/-! # Reports

    Findings and errors as they are shown in a terminal, in colour.

    * `Report.lineNumber`, `Report.columnNumber`: where an offset is.
    * `Report.concise`: a finding on one line.
    * `Report.full`: a finding with the line of the source, and a marker below. -/

namespace Sigil.Report

/-! ## Colours -/

/-- A text in a colour, given by its number. -/
def coloured (colour : String) (t : Text) : Text :=
  "\x1b[".toList ++ colour.toList ++ ['m'] ++ t ++ "\x1b[39m".toList

/-- A text in bright red. -/
def red (t : Text) : Text := coloured "91" t

/-- A text in bright yellow. -/
def yellow (t : Text) : Text := coloured "93" t

/-- A text in bright blue. -/
def blue (t : Text) : Text := coloured "94" t

/-- A text in bold type. -/
def bold (t : Text) : Text := "\x1b[1m".toList ++ t ++ "\x1b[0m".toList

/-- A text with spaces before it, up to `width` characters. -/
def alignRight (width : Nat) (t : Text) : Text :=
  List.replicate (width - t.length) ' ' ++ t

/-! ## Places -/

/-- The line that holds an offset, counted from zero. -/
def lineNumber (source : Text) (offset : Nat) : Nat :=
  (Text.takeBytes offset source).count '\n'

/-- The number of characters before an offset on its line. -/
def columnNumber (source : Text) (offset : Nat) : Nat :=
  ((Text.takeBytes offset source).reverse.takeWhile (· != '\n')).length

/-! ## Findings -/

/-- The severity of a finding, in its colour. -/
def label : Severity → Text
  | .error => red "error".toList
  | .warning => yellow "warning".toList
  | .info => blue "info".toList

/-- **Concise report.**  Severity, place and problem on one line. -/
def concise (filename source : Text) (f : Finding) : Text :=
  label f.severity ++ ": ".toList ++ filename
    ++ ':' :: Nat.toDigits 10 (lineNumber source f.offset + 1)
    ++ ':' :: Nat.toDigits 10 (columnNumber source f.offset + 1)
    ++ ' ' :: bold f.message

/-- The line of the source that a finding is shown with. -/
def sourceLine (source : Text) (f : Finding) : Text :=
  (Text.lines source)[lineNumber source f.offset]?.getD ['?']

/-- The number of marks below a finding: as many as its width, but at least one,
    and no more than are left on the line. -/
def markCount (source : Text) (f : Finding) : Nat :=
  let remaining := (sourceLine source f).length - columnNumber source f.offset
  max 1 (min f.width (max 1 remaining))

/-- The marks below a finding.  The first one is moved to its column. -/
def marker (source : Text) (f : Finding) : Text :=
  red (alignRight (columnNumber source f.offset + 1) ['^'])
    ++ red (List.replicate (markCount source f - 1) '^')

/-- **Full report.**  The concise report, the line of the source under its number,
    and marks below the finding. -/
def full (filename source : Text) (f : Finding) : Text :=
  let number := Nat.toDigits 10 (lineNumber source f.offset + 1)
  let width := max 3 number.length
  let margin := List.replicate width ' ' ++ ' ' :: blue ['|']
  concise filename source f ++ "\n\n".toList
    ++ margin ++ '\n' :: blue (alignRight width number) ++ ' ' :: blue ['|']
    ++ ' ' :: sourceLine source f ++ '\n' :: margin ++ ' ' :: marker source f

/-- A document that cannot be read, on one line. -/
def loadingError (e : LoadingError) : Text :=
  red "error".toList ++ ": ".toList ++ e.filename ++ ':' :: bold e.failure.problem

end Sigil.Report
