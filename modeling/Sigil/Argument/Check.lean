import Sigil.Argument.Path
import Sigil.Argument.Regex

/-! # Argument checks

    Which argument of which variable is a path or a pattern. -/

namespace Sigil.Argument

/-- The variables whose first argument is a path. -/
def fileVariables : List Text :=
  ["$readFile", "$fileExists", "$filesInDirectory", "$fileLineCount", "$audioDuration",
    "$videoDuration"].map String.toList

/-- The variables whose second argument is a pattern and whose third are its
    flags. -/
def regexVariables : List Text :=
  ["$regexTest", "$regexExec", "$regexMatches", "$filesInDirectory"].map String.toList

/-- The path among the arguments of `owner`. -/
def path? (owner : Text) (arguments : List Argument) : Option Argument :=
  if fileVariables.contains owner then arguments[0]? else none

/-- The pattern and the flags among the arguments of `owner`.  The search text
    of `$replace` is a pattern if the fourth argument says so. -/
def regex? (owner : Text) (arguments : List Argument) : Option (Argument × Option Argument) :=
  if regexVariables.contains owner then arguments[1]?.map fun pattern => (pattern, arguments[2]?)
  else if owner = "$replace".toList ∧ arguments[3]?.map Argument.text = some "true".toList then
    arguments[1]?.map fun pattern => (pattern, arguments[4]?)
  else none

/-- **Argument checks.**  The findings on the arguments of `owner`, with offsets
    from the start of the list. -/
def check (owner content : Text) : List Finding :=
  let arguments := split content
  ((path? owner arguments).bind checkPath).toList ++
    match regex? owner arguments with
    | some (pattern, flags) => checkRegex pattern flags
    | none => []

end Sigil.Argument
