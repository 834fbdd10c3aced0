import Sigil.Text.Basic

/-! # Kinds of document

    Variable expressions are embedded in documents of three kinds.  The kind is
    known from a name given to it, from an editor's language identifier, or
    from the extension of a path. -/

namespace Sigil

/-- The kind of document that expressions are embedded in. -/
inductive DocumentKind where
  | markup
  | stylesheet
  | script
deriving DecidableEq, Repr

/-! ## Paths -/

/-- The components of a slash-separated path.  Empty components and `.` say
    nothing and are left out. -/
def pathComponents (path : Text) : List Text :=
  (path.splitOn '/').filter (fun part => !part.isEmpty && part != ['.'])

/-- The last component, if it names a file or directory. -/
def fileName? (path : Text) : Option Text :=
  match (pathComponents path).getLast? with
  | none => none
  | some name => if name = ['.', '.'] then none else some name

/-- What follows the last dot of the file name, unless that dot is its first
    character. -/
def extension? (path : Text) : Option Text := do
  let name ← fileName? path
  let after := name.reverse.takeWhile (· != '.')
  match name.reverse.dropWhile (· != '.') with
  | [] => none
  | [_] => none
  | _ => some after.reverse

namespace DocumentKind

/-- The kind with a given name. -/
def ofName? (name : Text) : Option DocumentKind :=
  if name = "markup".toList then some markup
  else if name = "stylesheet".toList then some stylesheet
  else if name = "script".toList then some script
  else none

/-- The name of a kind. -/
def name : DocumentKind → Text
  | markup => "markup".toList
  | stylesheet => "stylesheet".toList
  | script => "script".toList

/-- What is said of a name that no kind has. -/
def unknownName (name : Text) : Text :=
  "unknown document kind '".toList ++ name ++ "'".toList

/-- The kind of document that an editor calls `language`.  Other languages are
    not checked. -/
def ofLanguage? (language : Text) : Option DocumentKind :=
  if language = "html".toList then some markup
  else if language = "css".toList then some stylesheet
  else if language = "javascript".toList || language = "firebot-variables".toList then some script
  else none

/-- The kind that a file's extension stands for, in any case of ASCII letters. -/
def ofPath? (path : Text) : Option DocumentKind := do
  let extension := (← extension? path).map Char.toLower
  if ["html".toList, "htm".toList].contains extension then some markup
  else if extension = "css".toList then some stylesheet
  else if ["js".toList, "mjs".toList, "txt".toList, "fbv".toList].contains extension then
    some script
  else none

end DocumentKind

end Sigil
