import Mathlib.Data.Prod.Lex
import Sigil.Proofs.TextLines
import Sigil.Server.Position

/-! # Positions and offsets

    An offset counts bytes from the start of the text, a position counts newlines and then
    units of 16 bits on one line.

    * `Position.lt_iff`, `Position.le_iff`: the order of positions.
    * `distance_mono_line`, `distance_mono_character`: a later position is no earlier place.
    * `distance_lines_append`, `distance_units_append`: the two numbers of a position are
      used up one after the other.
    * `positions_are_exact`: between boundaries and positions nothing is lost. -/

namespace Sigil

/-! ## The order of positions -/

/-- Positions are ordered by their lines, and on one line by their units. -/
instance : LinearOrder Position :=
  LinearOrder.lift' (fun p => toLex (p.line, p.character)) <| by
    intro ⟨line, character⟩ ⟨line', character'⟩ h
    have hpair : (line, character) = (line', character') := toLex.injective h
    rw [Prod.mk.injEq] at hpair
    rw [hpair.1, hpair.2]

theorem Position.lt_iff {p q : Position} :
    p < q ↔ p.line < q.line ∨ p.line = q.line ∧ p.character < q.character :=
  Prod.Lex.toLex_lt_toLex

theorem Position.le_iff {p q : Position} :
    p ≤ q ↔ p.line < q.line ∨ p.line = q.line ∧ p.character ≤ q.character :=
  Prod.Lex.toLex_le_toLex

/-! ## Measures -/

namespace Text

/-- A character takes no more units of 16 bits than bytes. -/
theorem utf16Width_le_utf8Size (c : Char) : utf16Width c ≤ c.utf8Size := by
  have hpos := c.utf8Size_pos
  unfold utf16Width
  split
  · omega
  · next hwide =>
    -- Only the first 128 characters take a single byte.
    have hbytes : c.utf8Size ≠ 1 := by
      intro hone
      rw [Char.utf8Size_eq_one_iff, UInt32.le_iff_toNat_le] at hone
      have hval : c.toNat = c.val.toNat := rfl
      have hlast : (127 : UInt32).toNat = 127 := rfl
      omega
    omega

theorem utf16Size_le_size (t : Text) : t.utf16Size ≤ t.size := by
  induction t with
  | nil => exact Nat.le_refl 0
  | cons c t ih =>
    have hc := utf16Width_le_utf8Size c
    rw [utf16Size_cons, size_cons]
    omega

theorem utf16Size_reverse (t : Text) : Text.utf16Size t.reverse = t.utf16Size := by
  induction t with
  | nil => rfl
  | cons c t ih =>
    rw [List.reverse_cons, utf16Size_append, ih, utf16Size_cons, utf16Size_nil, utf16Size_cons]
    omega

theorem count_le_size (c : Char) (t : Text) : t.count c ≤ t.size := by
  induction t with
  | nil => exact Nat.le_refl 0
  | cons d t ih =>
    have hd := d.utf8Size_pos
    rw [List.count_cons, size_cons]
    split <;> omega

theorem IsBoundary.cons {t : Text} {i : Nat} (h : t.IsBoundary i) (c : Char) :
    IsBoundary (c :: t) (c.utf8Size + i) := by
  obtain ⟨before, after, rfl, rfl⟩ := h
  exact ⟨c :: before, after, rfl, rfl⟩

theorem isBoundary_zero (t : Text) : t.IsBoundary 0 :=
  ⟨[], t, rfl, rfl⟩

theorem IsBoundary.le_size {t : Text} {i : Nat} (h : t.IsBoundary i) : i ≤ t.size := by
  obtain ⟨before, after, rfl, rfl⟩ := h
  rw [size_append]
  omega

end Text

/-! ## From positions to offsets -/

namespace Position

@[simp] theorem distance_nil (n k : Nat) : distance n k [] = 0 := by
  cases n <;> rfl

@[simp] theorem distance_newline (n k : Nat) (t : Text) :
    distance (n + 1) k ('\n' :: t) = 1 + distance n k t := rfl

theorem distance_other {c : Char} (hc : c ≠ '\n') (n k : Nat) (t : Text) :
    distance (n + 1) k (c :: t) = c.utf8Size + distance (n + 1) k t := by
  rw [distance, if_neg hc]

@[simp] theorem distance_zero_newline (k : Nat) (t : Text) : distance 0 k ('\n' :: t) = 0 := by
  simp [distance]

@[simp] theorem distance_zero_zero (t : Text) : distance 0 0 t = 0 := by
  cases t <;> simp [distance]

theorem distance_zero_other {c : Char} (hc : c ≠ '\n') {k : Nat} (hk : k ≠ 0) (t : Text) :
    distance 0 k (c :: t) = c.utf8Size + distance 0 (k - utf16Width c) t := by
  rw [distance, if_neg (by simp [hc, hk])]

/-- A position is at a boundary. -/
theorem isBoundary_distance (n k : Nat) (t : Text) : t.IsBoundary (distance n k t) := by
  fun_induction distance n k t with
  | case1 => exact Text.isBoundary_zero _
  | case2 k n c rest ih => exact ih.cons c
  | case3 => exact Text.isBoundary_zero _
  | case4 k c rest _ ih => exact ih.cons c

/-- A position on a later line is no earlier place. -/
theorem distance_mono_line {n m : Nat} (h : n < m) (k k' : Nat) (t : Text) :
    distance n k t ≤ distance m k' t := by
  induction t generalizing n m k with
  | nil => simp
  | cons c t ih =>
    obtain ⟨m, rfl⟩ : ∃ m', m = m' + 1 := ⟨m - 1, by omega⟩
    by_cases hc : c = '\n'
    · subst hc
      cases n with
      | zero => simp
      | succ n =>
        have hle := ih (show n < m by omega) k
        rw [distance_newline, distance_newline]
        omega
    · rw [distance_other hc m]
      cases n with
      | zero =>
        by_cases hk : k = 0
        · simp [hk]
        · have hle := ih (show 0 < m + 1 by omega) (k - utf16Width c)
          rw [distance_zero_other hc hk]
          omega
      | succ n =>
        have hle := ih h k
        rw [distance_other hc n]
        omega

/-- A position further right on a line is no earlier place. -/
theorem distance_mono_character {k k' : Nat} (h : k ≤ k') (n : Nat) (t : Text) :
    distance n k t ≤ distance n k' t := by
  induction t generalizing n k k' with
  | nil => simp
  | cons c t ih =>
    by_cases hc : c = '\n'
    · subst hc
      cases n with
      | zero => simp
      | succ n =>
        have hle := ih h n
        rw [distance_newline, distance_newline]
        omega
    · cases n with
      | zero =>
        by_cases hk : k = 0
        · simp [hk]
        · have hle := ih (show k - utf16Width c ≤ k' - utf16Width c by omega) 0
          rw [distance_zero_other hc hk, distance_zero_other hc (by omega)]
          omega
      | succ n =>
        have hle := ih h (n + 1)
        rw [distance_other hc, distance_other hc]
        omega

/-- **Positions keep their order** as they become offsets. -/
theorem toOffset_mono (t : Text) {p q : Position} (h : p ≤ q) : p.toOffset t ≤ q.toOffset t := by
  rcases Position.le_iff.mp h with hline | ⟨hline, hcharacter⟩
  · exact distance_mono_line hline _ _ t
  · unfold toOffset
    rw [hline]
    exact distance_mono_character hcharacter _ t

/-- A line that does not exist counts as the end of the text. -/
theorem distance_of_count_lt {n : Nat} {t : Text} (h : t.count '\n' < n) (k : Nat) :
    distance n k t = t.size := by
  induction t generalizing n with
  | nil => simp
  | cons c t ih =>
    obtain ⟨n, rfl⟩ : ∃ n', n = n' + 1 := ⟨n - 1, by omega⟩
    by_cases hc : c = '\n'
    · subst hc
      rw [List.count_cons_self] at h
      rw [distance_newline, ih (by omega)]
      rfl
    · rw [List.count_cons_of_ne hc] at h
      rw [distance_other hc, ih h]
      rfl

/-- The lines of a position are passed first. -/
theorem distance_lines_append {before : Text} (h : before.IsLines) (k : Nat) (rest : Text) :
    distance (before.count '\n') k (before ++ rest) = before.size + distance 0 k rest := by
  induction before with
  | nil => simp
  | cons c before ih =>
    rcases h.tail with ⟨rfl, rfl⟩ | hlast
    · rfl
    · have hrest := ih (.inr hlast)
      -- There is a newline further on, so the number of lines is not used up here.
      obtain ⟨n, hn⟩ : ∃ n, before.count '\n' = n + 1 := by
        obtain ⟨earlier, rfl⟩ := hlast
        exact ⟨earlier.count '\n', by simp⟩
      by_cases hc : c = '\n'
      · subst hc
        rw [List.count_cons_self, List.cons_append, distance_newline, hrest, ← Nat.add_assoc]
        rfl
      · rw [List.count_cons_of_ne hc, List.cons_append, hn, distance_other hc, ← hn, hrest,
          ← Nat.add_assoc]
        rfl

/-- The units of a position are passed next. -/
theorem distance_units_append {line : Text} (h : '\n' ∉ line) (rest : Text) :
    distance 0 line.utf16Size (line ++ rest) = line.size := by
  induction line with
  | nil => simp
  | cons c line ih =>
    rw [List.mem_cons, not_or] at h
    have hpos : 0 < utf16Width c := by
      unfold utf16Width
      split <;> omega
    rw [Text.utf16Size_cons, List.cons_append, distance_zero_other (Ne.symm h.1) (by omega),
      Nat.add_sub_cancel_left, ih h.2]
    rfl

/-- No position lies behind the end of its line. -/
theorem distance_le_line {line after : Text} (hline : '\n' ∉ line)
    (hafter : after = [] ∨ ∃ later, after = '\n' :: later) (k : Nat) :
    distance 0 k (line ++ after) ≤ line.size := by
  induction line generalizing k with
  | nil =>
    rcases hafter with rfl | ⟨later, rfl⟩
    · simp
    · simp
  | cons c line ih =>
    rw [List.mem_cons, not_or] at hline
    by_cases hk : k = 0
    · simp [hk]
    · have hle := ih hline.2 (k - utf16Width c)
      rw [List.cons_append, distance_zero_other (Ne.symm hline.1) hk, Text.size_cons]
      omega

/-- A position on a line of the text lies between the ends of the line. -/
theorem toOffset_of_lineAt {t : Text} {p : Position} {start stop : Nat}
    (h : t.LineAt p.line start stop) : start ≤ p.toOffset t ∧ p.toOffset t ≤ stop := by
  obtain ⟨before, line, after, rfl, hbefore, hline, hafter, hn, rfl, rfl⟩ := h
  have hle := distance_le_line hline hafter p.character
  unfold toOffset
  rw [hn, distance_lines_append hbefore]
  omega

/-! ## From offsets to positions -/

theorem low32_of_le {n m : Nat} (hle : n ≤ m) (hlt : m < UInt32.size) : low32 n = n :=
  Nat.mod_eq_of_lt (Nat.lt_of_le_of_lt hle hlt)

/-- The position of a boundary: the lines before it, and the units between. -/
theorem exists_after {before : Text} (hsize : before.size < UInt32.size) :
    ∃ earlier line, before = earlier ++ line ∧ Text.IsLines earlier ∧ '\n' ∉ line
      ∧ after before = { line := earlier.count '\n', character := line.utf16Size } := by
  obtain ⟨earlier, hcut, hfree, hlines⟩ := Text.lastLine_eq_iff.mp (Eq.refl
    (before.reverse.takeWhile (· != '\n')).reverse)
  refine ⟨earlier, _, hcut, hlines, hfree, ?_⟩
  have hcount : before.count '\n' = earlier.count '\n' := by
    rw [hcut, List.count_append, List.count_eq_zero.mpr hfree, Nat.add_zero]
  have hunits := Text.utf16Size_reverse (before.reverse.takeWhile (· != '\n'))
  have hline := Text.utf16Size_le_size (before.reverse.takeWhile (· != '\n')).reverse
  have hle : Text.size (before.reverse.takeWhile (· != '\n')).reverse ≤ before.size := by
    have hsum := congrArg Text.size hcut
    rw [Text.size_append] at hsum
    omega
  unfold after
  rw [low32_of_le (Text.count_le_size '\n' before) hsize, hcount, ← hunits,
    low32_of_le (Nat.le_trans hline hle) hsize]

/-- **Round trip.**  A boundary is found again by its position. -/
theorem toOffset_ofOffset {t : Text} (hsize : t.size < UInt32.size) {i : Nat} (hi : t.IsBoundary i) :
    (ofOffset t i).toOffset t = i := by
  have hle := hi.le_size
  obtain ⟨before, rest, rfl, rfl⟩ := hi
  obtain ⟨earlier, line, rfl, hlines, hfree, hposition⟩ :=
    exists_after (Nat.lt_of_le_of_lt hle hsize)
  rw [ofOffset, Text.takeBytes_size_append, hposition, toOffset, List.append_assoc,
    distance_lines_append hlines, distance_units_append hfree, Text.size_append]

end Position

/-- **Positions are exact.**  In a text of less than 4 GiB each boundary is found again by its
    position, and later boundaries have later positions.  Every position denotes a boundary
    of its line if the text has that line and the end of the text if not, and a later
    position no earlier one. -/
theorem positions_are_exact (t : Text) :
    (t.size < UInt32.size →
      (∀ i, t.IsBoundary i → (Position.ofOffset t i).toOffset t = i)
      ∧ ∀ i j, t.IsBoundary i → t.IsBoundary j → i < j →
          Position.ofOffset t i < Position.ofOffset t j)
    ∧ (∀ p : Position, t.IsBoundary (p.toOffset t) ∧ p.toOffset t ≤ t.size
      ∧ (p.line ≤ t.count '\n' → ∃ start stop, t.LineAt p.line start stop)
      ∧ (∀ start stop, t.LineAt p.line start stop → start ≤ p.toOffset t ∧ p.toOffset t ≤ stop)
      ∧ (t.count '\n' < p.line → p.toOffset t = t.size))
    ∧ ∀ p q : Position, p ≤ q → p.toOffset t ≤ q.toOffset t := by
  refine ⟨?_, ?_, fun p q => Position.toOffset_mono t⟩
  · intro hsize
    have hround : ∀ i, t.IsBoundary i → (Position.ofOffset t i).toOffset t = i :=
      fun i hi => Position.toOffset_ofOffset hsize hi
    refine ⟨hround, ?_⟩
    intro i j hi hj hlt
    -- Otherwise the offsets would be in the wrong order too.
    by_contra hge
    have hle := Position.toOffset_mono t (not_lt.mp hge)
    rw [hround i hi, hround j hj] at hle
    omega
  · intro p
    have hboundary := Position.isBoundary_distance p.line p.character t
    exact ⟨hboundary, hboundary.le_size, Text.exists_lineAt,
      fun _ _ => Position.toOffset_of_lineAt, fun h => Position.distance_of_count_lt h _⟩

/-- A character of two units, with a position between them. -/
theorem positions_are_exact_surrogates :
    Text.size "a😀\nb".toList < UInt32.size
    ∧ Text.IsBoundary "a😀\nb".toList 1 ∧ Text.IsBoundary "a😀\nb".toList 5
    ∧ (Position.ofOffset "a😀\nb".toList 5).toOffset "a😀\nb".toList = 5
    ∧ Position.ofOffset "a😀\nb".toList 1 < Position.ofOffset "a😀\nb".toList 5
    ∧ (0 ≤ Position.toOffset "a😀\nb".toList ⟨0, 2⟩
      ∧ Position.toOffset "a😀\nb".toList ⟨0, 2⟩ ≤ 5)
    ∧ Position.toOffset "a😀\nb".toList ⟨2, 0⟩ = Text.size "a😀\nb".toList
    ∧ Position.toOffset "a😀\nb".toList ⟨0, 2⟩ ≤ Position.toOffset "a😀\nb".toList ⟨0, 3⟩ := by
  obtain ⟨hexact, hplace, hmono⟩ := positions_are_exact "a😀\nb".toList
  have hsize : Text.size "a😀\nb".toList < UInt32.size := by decide
  have hfirst : Text.IsBoundary "a😀\nb".toList 1 := ⟨"a".toList, "😀\nb".toList, rfl, rfl⟩
  have hsecond : Text.IsBoundary "a😀\nb".toList 5 := ⟨"a😀".toList, "\nb".toList, rfl, rfl⟩
  have hline : Text.LineAt "a😀\nb".toList 0 0 5 :=
    ⟨[], "a😀".toList, "\nb".toList, rfl, .inl rfl, by decide, .inr ⟨"b".toList, rfl⟩, rfl, rfl,
      rfl⟩
  obtain ⟨hround, hstrict⟩ := hexact hsize
  exact ⟨hsize, hfirst, hsecond, hround 5 hsecond, hstrict 1 5 hfirst hsecond (by decide),
    (hplace ⟨0, 2⟩).2.2.2.1 0 5 hline, (hplace ⟨2, 0⟩).2.2.2.2 (by decide),
    hmono ⟨0, 2⟩ ⟨0, 3⟩ (Position.le_iff.mpr (.inr ⟨rfl, by decide⟩))⟩

end Sigil
