import Sigil.Text.Basic

/-! # Files that cannot be read

    * `ReadFailure`: why a file cannot be read.
    * `Text.decode`: the text that bytes stand for.
    * `LoadingError`: a document and why it cannot be read, with the wording. -/

namespace Sigil

/-- Why a file cannot be read. -/
inductive ReadFailure where
  | notFound
  | permissionDenied
  /-- The bytes are not UTF-8. -/
  | notText
  | isDirectory
  /-- Something on the way to the file is not a directory. -/
  | notDirectory
  | nameTooLong
  /-- The name holds a character that no name can hold. -/
  | invalidName
  | interrupted
  | unexpectedEnd
  | timedOut
deriving DecidableEq, Repr

namespace ReadFailure

/-- What is wrong, in a few words. -/
def problem : ReadFailure → Text
  | notFound => "File not found".toList
  | permissionDenied => "Permission denied".toList
  | notText => "File is not valid UTF-8 text".toList
  | _ => "Failed reading".toList

/-- What the problem leaves open; empty if it says everything. -/
def details : ReadFailure → Text
  | notFound | permissionDenied | notText => []
  | isDirectory => "is a directory".toList
  | notDirectory => "not a directory".toList
  | nameTooLong => "invalid filename".toList
  | invalidName => "invalid input parameter".toList
  | interrupted => "operation interrupted".toList
  | unexpectedEnd => "unexpected end of file".toList
  | timedOut => "timed out".toList

/-- The wording of the operating system. -/
def systemMessage : ReadFailure → Text
  | notFound => "No such file or directory (os error 2)".toList
  | permissionDenied => "Permission denied (os error 13)".toList
  | notText => "stream did not contain valid UTF-8".toList
  | isDirectory => "Is a directory (os error 21)".toList
  | notDirectory => "Not a directory (os error 20)".toList
  | nameTooLong => "File name too long (os error 36)".toList
  | invalidName => "file name contained an unexpected NUL byte".toList
  | interrupted => "Interrupted system call (os error 4)".toList
  | unexpectedEnd => "failed to fill whole buffer".toList
  | timedOut => "Connection timed out (os error 110)".toList

end ReadFailure

/-- The text of bytes that are UTF-8. -/
def Text.decode (bytes : ByteArray) : Except ReadFailure Text :=
  match String.fromUTF8? bytes with
  | some s => .ok s.toList
  | none => .error .notText

/-- A document that cannot be read, and why. -/
structure LoadingError where
  filename : Text
  failure : ReadFailure
deriving DecidableEq, Repr

/-- The wording of the error. -/
def LoadingError.message (e : LoadingError) : Text :=
  let details := e.failure.details
  e.filename ++ ": ".toList ++ e.failure.problem
    ++ (if details.isEmpty then [] else " (".toList ++ details ++ ")".toList)

end Sigil
