import Sigil.Argument.Basic
import Sigil.Finding
import Sigil.Reference

/-! # File paths

    The first argument of a variable that reads files is a path.  It must stay
    in its directory and use only characters that file names can have.  What a
    nested reference stands for is not known, so it is taken to be harmless. -/

namespace Sigil.Argument

/-- The text without one pair of equal quotes around it. -/
def unquote (t : Text) : Text :=
  let isQuotedBy (quote : Char) : Bool :=
    2 ≤ t.length && t.head? == some quote && t.getLast? == some quote
  if isQuotedBy '"' || isQuotedBy (Char.ofNat 0x27) then t.tail.dropLast else t

/-- Characters that no path has. -/
def isForbiddenInPath (c : Char) : Bool :=
  "<>\"|?*".toList.contains c

/-- Does a colon stand where it does not follow a drive letter? -/
def hasStrayColon (path : Text) : Bool :=
  match path with
  | letter :: ':' :: rest => !letter.isAlpha || rest.any (· == ':')
  | _ => path.any (· == ':')

/-- What is wrong with a path, if anything is.  An address with a scheme is not
    a path of the file system and is left alone. -/
def pathProblem? (t : Text) : Option Problem :=
  let path := unquote t
  if Text.contains "://".toList path then none
  else
    let path := replaceReferences "placeholder".toList path
    if Text.contains "..".toList path then some .parentDirectoryPath
    else if path.any isForbiddenInPath || hasStrayColon path then some .invalidPathCharacters
    else none

/-- Check the path in an argument. -/
def checkPath (a : Argument) : Option Finding :=
  (pathProblem? a.text).map fun problem => { problem, offset := a.offset, width := a.width }

end Sigil.Argument
