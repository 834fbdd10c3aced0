import Sigil.ReadFailure

/-! # Folders

    A folder is a set of files with their bytes, named by their paths.  It answers
    requests to read a path as a file system does.

    * `Place`: where a path has led so far.
    * `Folder.read`: the text of the file at a path. -/

namespace Sigil

/-- Files, each with its path from the folder and its bytes. -/
structure Folder where
  files : List (Text × List UInt8)

/-- Where a path has led so far. -/
inductive Place where
  /-- A directory of the folder, by the names that lead to it, last name first. -/
  | directory (names : List Text)
  /-- A directory around the folder, of which nothing is known. -/
  | outside
  | file (content : List UInt8)

namespace Folder

/-- The path that consists of these names, last name first. -/
def joinNames (names : List Text) : Text :=
  List.intercalate ['/'] names.reverse

/-- The longest name that a file can have, in bytes. -/
def nameLimit : Nat := 255

/-- The longest path, in bytes. -/
def pathLimit : Nat := 4095

/-- What has a given name in a directory of the folder. -/
def enter (folder : Folder) (names : List Text) (name : Text) : Except ReadFailure Place :=
  let path := joinNames (name :: names)
  match folder.files.reverse.find? fun file => file.1 = path with
  | some (_, content) => .ok (.file content)
  | none =>
    if folder.files.any fun file => (path ++ ['/']).isPrefixOf file.1 then
      .ok (.directory (name :: names))
    else .error .notFound

/-- Follow one piece of a path.  An empty piece and a dot lead nowhere else, but
    only a directory can be left by them. -/
def follow (folder : Folder) (place : Place) (piece : Text) : Except ReadFailure Place :=
  match place with
  | .file _ => .error .notDirectory
  | .outside =>
    if piece = [] ∨ piece = ['.'] ∨ piece = ['.', '.'] then .ok .outside
    else if nameLimit < piece.size then .error .nameTooLong
    else .error .notFound
  | .directory names =>
    if piece = [] ∨ piece = ['.'] then .ok place
    else if piece = ['.', '.'] then
      match names with
      | [] => .ok .outside
      | _ :: parent => .ok (.directory parent)
    else if nameLimit < piece.size then .error .nameTooLong
    else folder.enter names piece

/-- The bytes of the file at a path. -/
def readBytes (folder : Folder) (path : Text) : Except ReadFailure (List UInt8) := do
  if path.any (·.toNat == 0) then .error .invalidName
  else if path.isEmpty then .error .notFound
  else if pathLimit < path.size then .error .nameTooLong
  else
    let start : Place := if path.head? = some '/' then .outside else .directory []
    match ← (path.splitOn '/').foldlM folder.follow start with
    | .file content => .ok content
    | .directory _ | .outside => .error .isDirectory

/-- **Reading.**  The text of the file at a path. -/
def read (folder : Folder) (path : Text) : Except ReadFailure Text := do
  Text.decode ⟨(← folder.readBytes path).toArray⟩

end Folder

end Sigil
