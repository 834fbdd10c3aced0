import Sigil.Argument.Basic
import Sigil.Finding
import Sigil.Pattern.Validity
import Sigil.Reference

/-! # Regular expressions

    A pattern and its flags, given as two arguments.  A pattern that mentions a
    variable cannot be judged.  Look-around and back-references are accepted,
    although the checker of patterns does not know them.

    * `patternProblem?`: what is wrong with a pattern.
    * `validFlags`: distinct letters, each one a flag.
    * `checkRegex`: both checks on arguments. -/

namespace Sigil.Argument

/-- Is the first occurrence of `opening` followed by no closing parenthesis? -/
def isLeftOpen (opening t : Text) : Bool :=
  match Text.find? opening t with
  | some offset => !(Text.dropBytes offset t).any (· == ')')
  | none => false

/-- Does a report say that the pattern uses what the checker does not know? -/
def isUnsupported (report : List Text) : Bool :=
  report.any fun line =>
    Text.contains "look-around".toList line || Text.contains "backreferences".toList line

/-- The line of a report that says what is wrong: the first that starts with
    `error: ` once it is trimmed. -/
def reason (report : List Text) : Text :=
  let label := "error: ".toList
  match report.find? fun line => label.isPrefixOf (Text.trim line) with
  | some line => (Text.trim line).drop label.length
  | none => "malformed pattern".toList

/-- What is wrong with a pattern, if anything is. -/
def patternProblem? (t : Text) : Option Problem :=
  if isLeftOpen "(?=".toList t || isLeftOpen "(?!".toList t then some .unclosedLookahead
  else
    match Pattern.parse t with
    | .ok _ => none
    | .error fault =>
      let report := fault.report t
      if isUnsupported report then none else some (.invalidRegex (reason report))

/-- The flags of a regular expression. -/
def regexFlags : Text := "dgimsuvy".toList

/-- Each letter is a flag and stands once. -/
def validFlags : Text → Bool
  | [] => true
  | c :: rest => regexFlags.any (· == c) && !rest.any (· == c) && validFlags rest

/-- What is wrong with flags, if anything is. -/
def flagsProblem? (t : Text) : Option Problem :=
  if validFlags t then none else some (.invalidRegexFlags t)

/-- Ask for the problem of an argument that can be judged: one that is not empty
    and mentions no variable. -/
def judge (problem? : Text → Option Problem) (a : Argument) : Option Finding :=
  if a.text.isEmpty || mentionsVariable a.text then none
  else (problem? a.text).map fun problem => { problem, offset := a.offset, width := a.width }

/-- Check a pattern and the flags after it. -/
def checkRegex (pattern : Argument) (flags : Option Argument) : List Finding :=
  (judge patternProblem? pattern).toList ++ (flags.bind (judge flagsProblem?)).toList

end Sigil.Argument
