/-! # Texts and their UTF-8 measure

    A text is a list of characters.  Offsets and widths are counted in the
    bytes of its UTF-8 form, so every place where a text is cut is described
    by a number of bytes.

    * `Text.size`: the number of bytes a text takes.
    * `Text.takeBytes`, `Text.dropBytes`: cut at an offset; an offset inside a
      character is moved down to where that character starts.
    * `Text.slice`: the part between two offsets.
    * `Text.find?`, `Text.contains`, `Text.replaceAll`: search for a word.
    * `Text.lines`: the lines, without their terminators. -/

namespace Sigil

/-- A text, one character after the other. -/
abbrev Text : Type := List Char

namespace Text

/-! ## Measure -/

/-- The number of bytes of the UTF-8 form. -/
def size : Text → Nat
  | [] => 0
  | c :: rest => c.utf8Size + size rest

@[simp] theorem size_nil : size [] = 0 := rfl

@[simp] theorem size_cons (c : Char) (t : Text) : size (c :: t) = c.utf8Size + size t := rfl

@[simp] theorem size_append (s t : Text) : size (s ++ t) = size s + size t := by
  induction s with
  | nil => simp
  | cons c s ih => simp [ih, Nat.add_assoc]

theorem size_pos_of_ne_nil {t : Text} (h : t ≠ []) : 0 < size t := by
  cases t with
  | nil => exact absurd rfl h
  | cons c t => have := c.utf8Size_pos; simp; omega

/-! ## Cutting -/

/-- The longest beginning of the text that takes at most `budget` bytes. -/
def takeBytes (budget : Nat) : Text → Text
  | [] => []
  | c :: rest =>
    if c.utf8Size ≤ budget then c :: takeBytes (budget - c.utf8Size) rest else []

/-- What `takeBytes` leaves. -/
def dropBytes (budget : Nat) : Text → Text
  | [] => []
  | c :: rest =>
    if c.utf8Size ≤ budget then dropBytes (budget - c.utf8Size) rest else c :: rest

theorem takeBytes_append_dropBytes (n : Nat) (t : Text) :
    takeBytes n t ++ dropBytes n t = t := by
  induction t generalizing n with
  | nil => rfl
  | cons c t ih => simp only [takeBytes, dropBytes]; split <;> simp [ih]

theorem size_takeBytes_le (n : Nat) (t : Text) : size (takeBytes n t) ≤ n := by
  induction t generalizing n with
  | nil => simp [takeBytes]
  | cons c t ih =>
    simp only [takeBytes]
    split
    · have := ih (n - c.utf8Size); simp; omega
    · simp

@[simp] theorem takeBytes_size_append (s t : Text) : takeBytes (size s) (s ++ t) = s := by
  induction s with
  | nil =>
    cases t with
    | nil => rfl
    | cons c t => have := c.utf8Size_pos; simp [takeBytes]; omega
  | cons c s ih => simp [takeBytes, ih]

@[simp] theorem dropBytes_size_append (s t : Text) : dropBytes (size s) (s ++ t) = t := by
  induction s with
  | nil =>
    cases t with
    | nil => rfl
    | cons c t => have := c.utf8Size_pos; simp [dropBytes]; omega
  | cons c s ih => simp [dropBytes, ih]

/-- The offset moved down to where a character starts, and to the end of the
    text if it lies beyond. -/
def boundary (t : Text) (offset : Nat) : Nat :=
  size (takeBytes offset t)

/-- The part of the text from offset `start` up to offset `stop`. -/
def slice (t : Text) (start stop : Nat) : Text :=
  takeBytes (stop - start) (dropBytes start t)

/-! ## Searching -/

/-- Offset of the first occurrence of `word`. -/
def find? (word : Text) : Text → Option Nat
  | [] => if word.isEmpty then some 0 else none
  | c :: rest =>
    if word.isPrefixOf (c :: rest) then some 0
    else (find? word rest).map (c.utf8Size + ·)

/-- Does `word` occur in the text? -/
def contains (word : Text) (t : Text) : Bool :=
  (find? word t).isSome

/-- Every occurrence of `word`, from the left, replaced.  `skip` counts the
    characters of an occurrence that are still to be left out. -/
def replaceFrom (word replacement : Text) : Nat → Text → Text
  | _, [] => []
  | skip + 1, _ :: rest => replaceFrom word replacement skip rest
  | 0, c :: rest =>
    if word.isPrefixOf (c :: rest) then
      replacement ++ replaceFrom word replacement (word.length - 1) rest
    else c :: replaceFrom word replacement 0 rest

/-- Every occurrence of the non-empty `word`, from the left, replaced. -/
def replaceAll (word replacement : Text) (t : Text) : Text :=
  replaceFrom word replacement 0 t

/-! ## Lines -/

/-- The pieces between newline characters; at least one. -/
def splitLines : Text → List Text
  | [] => [[]]
  | '\n' :: rest => [] :: splitLines rest
  | c :: rest =>
    match splitLines rest with
    | [] => [[c]]
    | line :: lines => (c :: line) :: lines

/-- A line without one carriage return at its end. -/
def chompReturn (line : Text) : Text :=
  if line.getLast? = some '\r' then line.dropLast else line

/-- The lines of a text.  A line ends at a newline, or at a carriage return
    and a newline; what follows the last newline is a line only if it is not
    empty. -/
def lines (t : Text) : List Text :=
  let pieces := splitLines t
  let closed := pieces.dropLast.map chompReturn
  match pieces.getLast? with
  | none | some [] => closed
  | some last => closed ++ [last]

end Text

end Sigil
