import Sigil.Text.Basic

/-! # Frames

    A frame is one level of `[...]` that has been opened and not yet closed.
    The open frames form a stack; text met on the way belongs to the innermost
    one. -/

namespace Sigil

/-- One level of bracket nesting. -/
structure Frame where
  /-- The variable token directly before the opening bracket. -/
  owner : Option Text
  /-- Offset of the opening bracket. -/
  opened : Nat
  /-- The text met at this level; the text of nested frames is not part of it. -/
  content : Text
deriving DecidableEq, Repr

namespace Frame

/-- Offset just past the opening bracket. -/
def start (f : Frame) : Nat :=
  f.opened + 1

end Frame

/-- The open frames, innermost first. -/
structure Frames where
  stack : List Frame
deriving DecidableEq, Repr

namespace Frames

/-- No bracket is open. -/
def empty : Frames := ⟨[]⟩

/-- Number of brackets opened and not yet closed. -/
def depth (s : Frames) : Nat :=
  s.stack.length

/-- Open a frame at offset `opened`. -/
def push (s : Frames) (owner : Option Text) (opened : Nat) : Frames :=
  ⟨{ owner, opened, content := [] } :: s.stack⟩

/-- Close the innermost frame, if one is open. -/
def pop? (s : Frames) : Option (Frame × Frames) :=
  match s.stack with
  | [] => none
  | f :: rest => some (f, ⟨rest⟩)

/-- Add text to the innermost frame.  Text outside all brackets is kept nowhere. -/
def append (s : Frames) (text : Text) : Frames :=
  match s.stack with
  | [] => s
  | f :: rest => ⟨{ f with content := f.content ++ text } :: rest⟩

/-- The owners of the open frames, innermost first. -/
def owners (s : Frames) : List Text :=
  s.stack.filterMap Frame.owner

/-- The open frames in the order in which they were opened. -/
def unclosed (s : Frames) : List Frame :=
  s.stack.reverse

end Frames

end Sigil
