import Sigil.Json.Reader
import Sigil.Server.Message
import Sigil.Text.Blank

/-! # Messages on the wire

    A message is preceded by lines of the form `name: value`, one of which tells the
    number of its bytes, and by an empty line. -/

namespace Sigil.Wire

/-- The name of the line that tells the number of bytes. -/
def lengthName : Text := "content-length".toList

/-- The number in decimal digits. -/
def decimal? (t : Text) : Option Nat :=
  if t.isEmpty || !t.all Char.isDigit then none
  else some (t.foldl (fun n d => 10 * n + (d.toNat - '0'.toNat)) 0)

/-- The number of bytes, if this line tells it. -/
def contentLength? (line : Text) : Option Nat :=
  if (line.takeWhile (· != ':')).map Char.toLower = lengthName then
    decimal? (Text.trim (line.dropWhile (· != ':')).tail)
  else none

/-- The message in a text. -/
def message? (body : Text) : Option Message :=
  match Json.read body with
  | .ok value => Message.ofJson? value
  | .error _ => none

/-- A reply with the lines before it. -/
def encode (r : Reply) : Text :=
  let body := r.toEnvelope.render
  "Content-Length: ".toList ++ Nat.toDigits 10 body.size ++ "\r\n\r\n".toList ++ body

end Sigil.Wire
