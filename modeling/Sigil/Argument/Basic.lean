import Sigil.Text.Blank

/-! # Arguments

    What stands between the brackets of a variable is a list of arguments
    divided by commas.  A comma inside nested brackets divides nothing.

    * `splitCommas`: the pieces between the dividing commas.
    * `Argument.split`: the arguments, trimmed, each with its offset. -/

namespace Sigil

/-- One argument, without the blanks around it. -/
structure Argument where
  /-- Offset of the argument from the start of the list. -/
  offset : Nat
  text : Text
deriving DecidableEq, Repr

/-- The bracket depth after a character.  At depth zero there is nothing to
    close, and a `]` leaves the depth as it is. -/
def depthAfter (depth : Nat) (c : Char) : Nat :=
  if c = '[' then depth + 1 else if c = ']' then depth - 1 else depth

/-- The pieces between the commas at depth zero, starting at the depth `depth`;
    at least one. -/
def splitCommas (depth : Nat) : Text → List Text
  | [] => [[]]
  | c :: rest =>
    if c = ',' ∧ depth = 0 then [] :: splitCommas 0 rest
    else
      match splitCommas (depthAfter depth c) rest with
      | [] => [[c]]
      | piece :: pieces => (c :: piece) :: pieces

namespace Argument

/-- The argument in a piece that starts at `start`. -/
def ofPiece (start : Nat) (piece : Text) : Argument where
  offset := start + (piece.size - piece.trimStart.size)
  text := piece.trim

/-- The arguments in pieces of which the first starts at `start`; there is one
    comma between two pieces. -/
def ofPieces (start : Nat) : List Text → List Argument
  | [] => []
  | piece :: rest => ofPiece start piece :: ofPieces (start + piece.size + 1) rest

/-- **Splitting.**  The arguments of a list, in order. -/
def split (content : Text) : List Argument :=
  ofPieces 0 (splitCommas 0 content)

/-- Number of bytes of the argument. -/
def width (a : Argument) : Nat :=
  a.text.size

end Argument

/-- There is at least one piece. -/
theorem splitCommas_ne_nil (depth : Nat) (t : Text) : splitCommas depth t ≠ [] := by
  cases t with
  | nil => simp [splitCommas]
  | cons c t =>
    simp only [splitCommas]
    split
    · simp
    · split <;> simp

@[simp] theorem Argument.length_ofPieces (start : Nat) (pieces : List Text) :
    (Argument.ofPieces start pieces).length = pieces.length := by
  induction pieces generalizing start with
  | nil => rfl
  | cons piece rest ih => simp [Argument.ofPieces, ih]

end Sigil
