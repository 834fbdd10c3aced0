import Sigil.Text.Basic

/-! # Positions

    An editor counts lines, and on a line units of 16 bits.

    * `Position.ofOffset`: the position of an offset in bytes.
    * `Position.toOffset`: the offset of a position. -/

namespace Sigil

/-- A line and the number of 16-bit units before a place on it, both counted from
    zero. -/
structure Position where
  line : Nat
  character : Nat
deriving DecidableEq, Repr

/-- Number of 16-bit units of a character. -/
def utf16Width (c : Char) : Nat :=
  if c.toNat < 0x10000 then 1 else 2

/-- Number of 16-bit units of a text. -/
def Text.utf16Size : Text → Nat
  | [] => 0
  | c :: rest => utf16Width c + utf16Size rest

@[simp] theorem Text.utf16Size_nil : Text.utf16Size [] = 0 := rfl

@[simp] theorem Text.utf16Size_cons (c : Char) (t : Text) :
    Text.utf16Size (c :: t) = utf16Width c + t.utf16Size := rfl

@[simp] theorem Text.utf16Size_append (s t : Text) :
    Text.utf16Size (s ++ t) = s.utf16Size + t.utf16Size := by
  induction s with
  | nil => simp
  | cons c s ih => simp [ih, Nat.add_assoc]

namespace Position

/-- A number as an editor is told it: 32 bits are kept. -/
def low32 (n : Nat) : Nat :=
  n % UInt32.size

/-- The position just after a text. -/
def after (t : Text) : Position where
  line := low32 (t.count '\n')
  character := low32 (Text.utf16Size (t.reverse.takeWhile (· != '\n')))

/-- The position of an offset.  An offset inside a character counts as the
    character's start, one beyond the text as its end. -/
def ofOffset (t : Text) (offset : Nat) : Position :=
  after (Text.takeBytes offset t)

/-- The offset of the place `line` lines further on and then `character` units
    further on.  A place beyond the end of a line counts as that end, one beyond
    the text as the end of the text. -/
def distance : (line character : Nat) → Text → Nat
  | _, _, [] => 0
  | line + 1, character, c :: rest =>
    c.utf8Size + distance (if c = '\n' then line else line + 1) character rest
  | 0, character, c :: rest =>
    if c = '\n' ∨ character = 0 then 0
    else c.utf8Size + distance 0 (character - utf16Width c) rest

/-- The offset of a position. -/
def toOffset (t : Text) (p : Position) : Nat :=
  distance p.line p.character t

end Position

end Sigil
