import Sigil.Text.Blank
import Sigil.Pattern.Fault

/-! # Reading a pattern character by character

    A cursor stands before the characters of a pattern that are still to be
    read.  In verbose mode blanks and comments between the parts of a pattern
    have no meaning and are skipped. -/

namespace Sigil.Pattern

/-- The characters still to be read, the number of those before them, and
    whether verbose mode is on. -/
structure Cursor where
  rest : Text
  position : Nat
  verbose : Bool

/-- Skip blanks and comments; a comment runs from `#` to the end of its line.
    Also the number of characters skipped. -/
def skipBlanksAndComments (inComment : Bool) (skipped : Nat) : Text → Nat × Text
  | [] => (skipped, [])
  | c :: rest =>
    if inComment then skipBlanksAndComments (c != '\n') (skipped + 1) rest
    else if isBlank c then skipBlanksAndComments false (skipped + 1) rest
    else if c = '#' then skipBlanksAndComments true (skipped + 1) rest
    else (skipped, c :: rest)

namespace Cursor

/-- Is everything read? -/
def atEnd (cur : Cursor) : Bool :=
  cur.rest.isEmpty

/-- The next character. -/
def peek? (cur : Cursor) : Option Char :=
  cur.rest.head?

/-- Move past the next character. -/
def bump (cur : Cursor) : Cursor :=
  match cur.rest with
  | [] => cur
  | _ :: rest => { cur with rest, position := cur.position + 1 }

/-- Move past `n` characters. -/
def bumpBy (cur : Cursor) (n : Nat) : Cursor :=
  { cur with rest := cur.rest.drop n, position := cur.position + n }

/-- In verbose mode, skip blanks and comments. -/
def skipBlanks (cur : Cursor) : Cursor :=
  if cur.verbose then
    let (skipped, rest) := skipBlanksAndComments false 0 cur.rest
    { cur with rest, position := cur.position + skipped }
  else cur

/-- Move past the next character and the blanks after it. -/
def bumpAndSkip (cur : Cursor) : Cursor :=
  cur.bump.skipBlanks

/-- Move past characters with a property. -/
def skipWhile (cur : Cursor) (p : Char → Bool) : Cursor :=
  { cur with
    rest := cur.rest.dropWhile p
    position := cur.position + (cur.rest.takeWhile p).length }

/-- Does the rest start with `word`? -/
def startsWith (cur : Cursor) (word : String) : Bool :=
  word.toList.isPrefixOf cur.rest

/-- The first of these characters that is not blank; a `#` is passed over once.
    If there is none, the first character. -/
def significant? (t : Text) : Option Char :=
  match t.dropWhile isBlank with
  | '#' :: rest =>
    match rest.dropWhile isBlank with
    | c :: _ => some c
    | [] => t.head?
  | c :: _ => some c
  | [] => t.head?

/-- The character after the next one; in verbose mode the first that counts. -/
def peekSecond? (cur : Cursor) : Option Char :=
  let after := cur.rest.tail
  if cur.verbose then significant? after else after.head?

/-- A fault at the cursor. -/
def fault {α : Type} (cur : Cursor) (cause : Cause) : Except Fault α :=
  .error ⟨cause, cur.position⟩

end Cursor

/-- A fault at a position. -/
def faultAt {α : Type} (position : Nat) (cause : Cause) : Except Fault α :=
  .error ⟨cause, position⟩

end Sigil.Pattern
