import Sigil.Frame
import Sigil.Lexeme

/-! # Brackets

    Reading the lexemes of a text from left to right, each `[` opens a frame and
    each `]` closes the innermost one.  A frame belongs to the variable token that
    stands directly before its `[`.

    * `Event`: what a reader of brackets meets.
    * `Reading`, `Reading.step`: the state of such a reader, and one lexeme.
    * `brackets`: the events of a text, and the frames left open at its end. -/

namespace Sigil

/-- What is met in a text. -/
inductive Event where
  /-- A variable token at `offset`. -/
  | token (offset : Nat) (name : Text)
  /-- The `]` at `stop`, which closes `frame`. -/
  | closed (frame : Frame) (stop : Nat)
  /-- A `]` at `offset` with no frame to close. -/
  | unmatched (offset : Nat)
deriving DecidableEq, Repr

/-- How far a text has been read. -/
structure Reading where
  /-- Offset of the next lexeme. -/
  offset : Nat
  /-- The token that ends here: the owner of a `[` that comes next. -/
  owner : Option Text
  frames : Frames
deriving DecidableEq, Repr

namespace Reading

/-- Nothing has been read. -/
def start : Reading := { offset := 0, owner := none, frames := .empty }

/-- **Step.**  Read one lexeme. -/
def step (r : Reading) (lexeme : Lexeme) : Reading × Option Event :=
  let offset := r.offset + Text.size lexeme.text
  match lexeme with
  | .token name =>
    ({ offset, owner := some name, frames := r.frames.append name }, some (.token r.offset name))
  | .opening => ({ offset, owner := none, frames := r.frames.push r.owner r.offset }, none)
  | .closing =>
    match r.frames.pop? with
    | some (frame, frames) => ({ offset, owner := none, frames }, some (.closed frame r.offset))
    | none => ({ offset, owner := none, frames := r.frames }, some (.unmatched r.offset))
  | .plain c => ({ offset, owner := none, frames := r.frames.append [c] }, none)

/-- Read all lexemes: the events, and the frames left open. -/
def run (r : Reading) : List Lexeme → List Event × Frames
  | [] => ([], r.frames)
  | lexeme :: rest =>
    let (next, event?) := r.step lexeme
    let (events, frames) := next.run rest
    (event?.toList ++ events, frames)

end Reading

/-- The events of a text, and the frames left open at its end. -/
def brackets (t : Text) : List Event × Frames :=
  Reading.start.run (lexemes t)

/-- The frames left open at the end of a text. -/
def openFrames (t : Text) : Frames :=
  (brackets t).2

end Sigil
