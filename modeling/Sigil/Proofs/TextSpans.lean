import Mathlib.Data.List.DropRight
import Mathlib.Order.Bounds.Defs
import Sigil.Proofs.BracketMatching
import Sigil.Text.Blank

/-! # Places and spans in a text

    A text is cut between two characters and nowhere inside of one.

    * `Text.IsBoundary`: the offsets where a text can be cut.
    * `Text.isGreatest_boundary`: any offset is moved down to the last such place.
    * `Text.PartAt`: a part of a text and its offset.
    * `Text.PartAt.trans`, `Text.partAt_append_iff`: the offset of a part of a part.
    * `Text.PartAt.exists_cut`: a part that a place tears.
    * `Text.exists_trim`, `Text.trim_between`: what is cut off a text that is trimmed.
    * `Text.contains_iff`: the words that occur in a text.
    * `Text.find?_eq_some`, `Text.isLeast_of_find?`: the place where a word is found.
    * `Text.lastLine_eq_iff`: the line that a text ends with. -/

namespace Sigil.Text

/-- **Boundary.**  At this offset a character starts, or the text ends. -/
def IsBoundary (t : Text) (i : Nat) : Prop :=
  ∃ before after : Text, t = before ++ after ∧ i = before.size

/-- **Part.**  The text `part` stands at the offset `i`. -/
def PartAt (t : Text) (i : Nat) (part : Text) : Prop :=
  ∃ before after : Text, t = before ++ (part ++ after) ∧ i = before.size

/-! ## Bytes and characters -/

theorem length_le_size (t : Text) : t.length ≤ t.size := by
  induction t with
  | nil => exact Nat.le_refl 0
  | cons c t ih =>
    have hpos := c.utf8Size_pos
    rw [List.length_cons, size_cons]
    omega

/-- Bytes and characters are equally many if every character takes one byte. -/
theorem size_eq_length_iff (t : Text) : t.size = t.length ↔ ∀ c ∈ t, c.utf8Size = 1 := by
  induction t with
  | nil => simp
  | cons c t ih =>
    have hpos := c.utf8Size_pos
    have hle := length_le_size t
    rw [List.forall_mem_cons, ← ih, List.length_cons, size_cons]
    omega

/-! ## Moving an offset down to a boundary -/

theorem size_le_size_takeBytes_append {before : Text} {offset : Nat} (h : before.size ≤ offset)
    (after : Text) : before.size ≤ (takeBytes offset (before ++ after)).size := by
  induction before generalizing offset with
  | nil => exact Nat.zero_le _
  | cons c before ih =>
    rw [size_cons] at h
    have hfits : c.utf8Size ≤ offset := by omega
    have hrest := ih (show size before ≤ offset - c.utf8Size by omega)
    rw [List.cons_append, takeBytes, if_pos hfits, size_cons, size_cons]
    omega

/-- A text that fits is taken as a whole. -/
theorem takeBytes_of_size_le {t : Text} {n : Nat} (h : t.size ≤ n) : takeBytes n t = t := by
  induction t generalizing n with
  | nil => rfl
  | cons c t ih =>
    rw [size_cons] at h
    rw [takeBytes, if_pos (by omega), ih (by omega)]

/-- The boundary of an offset is the last one that does not lie behind it. -/
theorem isGreatest_boundary (t : Text) (offset : Nat) :
    IsGreatest {i | t.IsBoundary i ∧ i ≤ offset} (t.boundary offset) := by
  constructor
  · have hcut := takeBytes_append_dropBytes offset t
    exact ⟨⟨takeBytes offset t, dropBytes offset t, hcut.symm, rfl⟩, size_takeBytes_le offset t⟩
  · intro i hi
    obtain ⟨⟨before, after, rfl, rfl⟩, hle⟩ := hi
    exact size_le_size_takeBytes_append hle after

/-! ## Parts -/

theorem PartAt.isBoundary {t part : Text} {i : Nat} (h : t.PartAt i part) : t.IsBoundary i := by
  obtain ⟨before, after, ht, hi⟩ := h
  exact ⟨before, part ++ after, ht, hi⟩

theorem PartAt.isBoundary_end {t part : Text} {i : Nat} (h : t.PartAt i part) :
    t.IsBoundary (i + part.size) := by
  obtain ⟨before, after, ht, hi⟩ := h
  refine ⟨before ++ part, after, ?_, ?_⟩
  · rw [ht, List.append_assoc]
  · rw [hi, size_append]

theorem PartAt.add_size_le {t part : Text} {i : Nat} (h : t.PartAt i part) :
    i + part.size ≤ t.size := by
  obtain ⟨before, after, ht, hi⟩ := h
  rw [ht, hi, size_append, size_append]
  omega

/-- A part with characters in it does not start at the end of the text. -/
theorem PartAt.lt_size {t part : Text} {i : Nat} (h : t.PartAt i part) (hne : part ≠ []) :
    i < t.size := by
  have hle := h.add_size_le
  have hpos := size_pos_of_ne_nil hne
  omega

/-- **Parts of parts.**  Offsets in a part count from where the part starts. -/
theorem PartAt.trans {t s part : Text} {i j : Nat} (hs : t.PartAt i s) (hpart : s.PartAt j part) :
    t.PartAt (i + j) part := by
  obtain ⟨before, after, ht, hi⟩ := hs
  obtain ⟨before', after', hs, hj⟩ := hpart
  refine ⟨before ++ before', after' ++ after, ?_, ?_⟩
  · rw [ht, hs]
    simp only [List.append_assoc]
  · rw [hi, hj, size_append]

/-- Behind a text the parts are those of what follows it. -/
theorem partAt_append_iff {s t part : Text} {i : Nat} :
    (s ++ t).PartAt (s.size + i) part ↔ t.PartAt i part := by
  constructor
  · intro ⟨before, after, hcut, hsize⟩
    rcases List.append_eq_append_iff.mp hcut with ⟨m, rfl, ht⟩ | ⟨m, rfl, hpart⟩
    · rw [size_append] at hsize
      exact ⟨m, after, ht, by omega⟩
    · -- The part would start before its offset, unless both start where `t` does.
      rw [size_append] at hsize
      have hi : i = 0 := by omega
      have hm : m = [] := by
        by_contra hne
        have hpos := size_pos_of_ne_nil hne
        omega
      rw [hm, List.nil_append] at hpart
      exact ⟨[], after, hpart.symm, hi⟩
  · intro ⟨before, after, ht, hi⟩
    exact ⟨s ++ before, after, by rw [ht, List.append_assoc], by rw [hi, size_append]⟩

/-- Where two parts overlap, the second starts with a character of the first. -/
theorem PartAt.mem_of_overlap {t part u : Text} {b c : Char} {i j : Nat}
    (hpart : t.PartAt i (b :: part)) (hc : t.PartAt j (c :: u)) (hlt : i < j)
    (hlt' : j < i + size (b :: part)) : c ∈ part := by
  obtain ⟨before, after, rfl, rfl⟩ := hpart
  obtain ⟨before', after', hcut, rfl⟩ := hc
  rcases List.append_eq_append_iff.mp hcut with ⟨m, rfl, hm⟩ | ⟨m, rfl, -⟩
  · rw [size_append] at hlt hlt'
    rcases List.append_eq_append_iff.mp hm with ⟨n, rfl, -⟩ | ⟨n, hn, hrest⟩
    · rw [size_append] at hlt'
      omega
    · -- The first part is cut into `m` and `n`, neither of which is empty.
      cases n with
      | nil =>
        rw [List.append_nil] at hn
        rw [hn] at hlt'
        omega
      | cons d n =>
        rw [List.cons_append, List.cons_append, List.cons.injEq] at hrest
        cases m with
        | nil => exact absurd hlt (by simp)
        | cons e m =>
          rw [List.cons_append, List.cons.injEq] at hn
          rw [hn.2, hrest.1]
          simp
  · rw [size_append] at hlt
    omega

/-- A place inside a part cuts the part in two. -/
theorem PartAt.exists_cut {s u part : Text} {i : Nat} (h : (s ++ u).PartAt i part)
    (hlt : i < s.size) (hlt' : s.size < i + part.size) :
    ∃ x y : Text, part = x ++ y ∧ x ≠ [] ∧ y ≠ [] ∧ x <:+ s ∧ y <+: u := by
  obtain ⟨before, after, hcut, rfl⟩ := h
  rcases List.append_eq_append_iff.mp hcut with ⟨m, hbefore, -⟩ | ⟨x, hs, hrest⟩
  · rw [hbefore, size_append] at hlt
    omega
  · rw [hs, size_append] at hlt hlt'
    rcases List.append_eq_append_iff.mp hrest with ⟨m, hx, -⟩ | ⟨y, hpart, hu⟩
    · rw [hx, size_append] at hlt'
      omega
    · refine ⟨x, y, hpart, ?_, ?_, ⟨before, hs.symm⟩, ⟨after, hu.symm⟩⟩
      · rintro rfl
        exact absurd hlt (by simp)
      · rintro rfl
        rw [hpart, size_append] at hlt'
        exact absurd hlt' (by simp)

/-- Between two boundaries there is a part. -/
theorem exists_partAt {t : Text} {i j : Nat} (hi : t.IsBoundary i) (hj : t.IsBoundary j)
    (hle : i ≤ j) : ∃ part, t.PartAt i part ∧ j = i + part.size := by
  obtain ⟨before, after, ht, rfl⟩ := hi
  obtain ⟨before', after', ht', rfl⟩ := hj
  rcases List.append_eq_append_iff.mp (ht.symm.trans ht') with ⟨m, hm, hafter⟩ | ⟨m, hm, -⟩
  · refine ⟨m, ⟨before, after', by rw [ht, hafter], rfl⟩, ?_⟩
    rw [hm, size_append]
  · -- The second cut is not before the first, so the two are the same.
    have hsize : size m = 0 := by
      rw [hm, size_append] at hle
      omega
    refine ⟨[], ⟨before, after, ht, rfl⟩, ?_⟩
    rw [hm, size_append, hsize]
    rfl

/-- The whole text is a part of itself. -/
theorem partAt_self (t : Text) : t.PartAt 0 t :=
  ⟨[], [], by simp, rfl⟩

/-- A part is what stands between its ends. -/
theorem PartAt.slice_eq {t part : Text} {i : Nat} (h : t.PartAt i part) :
    slice t i (i + part.size) = part := by
  obtain ⟨before, after, ht, hi⟩ := h
  rw [slice, Nat.add_sub_cancel_left, ht, hi, dropBytes_size_append, takeBytes_size_append]

/-! ## Trimming -/

instance (t : Text) : Decidable t.IsTrimmed :=
  inferInstanceAs (Decidable (t.trim = t))

theorem isBlank_of_mem_takeWhile {t : Text} {c : Char} (h : c ∈ t.takeWhile isBlank) :
    isBlank c = true :=
  List.all_eq_true.mp List.all_takeWhile c h

/-- Of what starts with no blank, the end is cut off. -/
theorem exists_trimEnd (t : Text) :
    ∃ after : Text, t.trimStart = t.trim ++ after ∧ ∀ c ∈ after, isBlank c = true := by
  refine ⟨(t.trimStart.reverse.takeWhile isBlank).reverse, ?_, ?_⟩
  · rw [trim, trimEnd, ← List.reverse_append, List.takeWhile_append_dropWhile, List.reverse_reverse]
  · intro c hc
    exact isBlank_of_mem_takeWhile (List.mem_reverse.mp hc)

/-- **Trimming** cuts off the blanks at the beginning and at the end. -/
theorem exists_trim (t : Text) : ∃ before after : Text, t = before ++ (t.trim ++ after)
    ∧ before.size = t.size - t.trimStart.size
    ∧ (∀ c ∈ before, isBlank c = true) ∧ ∀ c ∈ after, isBlank c = true := by
  obtain ⟨after, hafter, hblank⟩ := t.exists_trimEnd
  have hcut : t.takeWhile isBlank ++ t.trimStart = t := List.takeWhile_append_dropWhile
  have hsize := congrArg size hcut
  rw [size_append] at hsize
  refine ⟨t.takeWhile isBlank, after, ?_, by omega, fun c => isBlank_of_mem_takeWhile, hblank⟩
  rw [← hafter, hcut]

theorem isTrimmed_trim (t : Text) : t.trim.IsTrimmed := by
  have hstart : t.trim.trimStart = t.trim := by
    cases htrim : t.trim with
    | nil => rfl
    | cons c rest =>
      obtain ⟨after, hafter, -⟩ := t.exists_trimEnd
      have hhead := List.head?_dropWhile_not isBlank t
      rw [show t.dropWhile isBlank = _ from hafter, htrim] at hhead
      have hc : isBlank c = false := by simpa using hhead
      rw [trimStart, List.dropWhile_cons_of_neg (by simp [hc])]
  have hend : t.trim.trimEnd = t.trim := by
    unfold trim trimEnd
    rw [List.reverse_reverse, List.dropWhile_idempotent]
  rw [IsTrimmed, trim, hstart, hend]

/-- A trimmed text starts with no blank. -/
theorem IsTrimmed.trimStart_eq {t : Text} (h : t.IsTrimmed) : t.trimStart = t := by
  obtain ⟨after, hafter, -⟩ := t.exists_trimEnd
  rw [show t.trim = t from h] at hafter
  have hsuffix : t.trimStart <:+ t := List.dropWhile_suffix isBlank
  apply hsuffix.eq_of_length_le
  rw [hafter, List.length_append]
  omega

theorem trimStart_append {c : Char} (hc : isBlank c = false) (s t : Text) :
    trimStart (s ++ c :: t) = trimStart s ++ c :: t := by
  unfold trimStart
  induction s with
  | nil => simp [hc]
  | cons d s ih =>
    rw [List.cons_append, List.dropWhile_cons, List.dropWhile_cons, ih]
    split
    · rfl
    · rfl

theorem trimEnd_append {c : Char} (hc : isBlank c = false) (s t : Text) :
    trimEnd (s ++ c :: t) = s ++ c :: trimEnd t := by
  have hstart := trimStart_append hc t.reverse s.reverse
  unfold trimStart at hstart
  unfold trimEnd
  rw [List.reverse_append, List.reverse_cons, List.append_assoc, List.singleton_append, hstart]
  simp

/-- Blanks before a text are cut off with its own. -/
theorem trim_blanks_append {s : Text} (hs : ∀ c ∈ s, isBlank c = true) (t : Text) :
    trim (s ++ t) = trim t := by
  have hstart : trimStart (s ++ t) = trimStart t := List.dropWhile_append_of_pos hs
  rw [trim, hstart, trim]

/-- Between two characters that are not blank everything stays. -/
theorem trim_between {c d : Char} (hc : isBlank c = false) (hd : isBlank d = false)
    (s m t : Text) : trim (s ++ c :: (m ++ d :: t))
      = trimStart s ++ c :: (m ++ d :: trimEnd t) := by
  have hmiddle : ∀ u : Text, trimStart s ++ c :: (m ++ d :: u)
      = (trimStart s ++ c :: m) ++ d :: u := by
    intro u
    rw [List.append_assoc, List.cons_append]
  rw [trim, trimStart_append hc, hmiddle, trimEnd_append hd, hmiddle]

/-! ## Searching -/

theorem contains_iff {word t : Text} : contains word t = true ↔ word <:+: t := by
  induction t with
  | nil =>
    rw [contains, find?, List.infix_nil]
    cases word <;> simp
  | cons c t ih =>
    rw [contains, find?, List.infix_cons_iff, ← List.isPrefixOf_iff_prefix, ← ih]
    by_cases hstarts : word.isPrefixOf (c :: t) = true
    · simp [hstarts]
    · simp [hstarts, contains]

/-- A word does not occur where one of its characters is missing. -/
theorem contains_eq_false {word t : Text} {c : Char} (hword : c ∈ word) (ht : c ∉ t) :
    contains word t = false := by
  rw [Bool.eq_false_iff, Ne, contains_iff]
  intro hoccurs
  exact ht (hoccurs.subset hword)

/-- A word is found where it occurs first. -/
theorem find?_eq_some {word t : Text} {i : Nat} (h : find? word t = some i) :
    ∃ before after : Text, t = before ++ (word ++ after) ∧ i = before.size
      ∧ ∀ s u : Text, t = s ++ (word ++ u) → before <+: s := by
  induction t generalizing i with
  | nil =>
    rw [find?, Option.ite_none_right_eq_some, List.isEmpty_iff] at h
    obtain ⟨rfl, hi⟩ := h
    exact ⟨[], [], rfl, (Option.some.inj hi).symm, fun s u _ => List.nil_prefix⟩
  | cons c t ih =>
    unfold find? at h
    split at h
    · next hstarts =>
      obtain ⟨after, hafter⟩ := List.isPrefixOf_iff_prefix.mp hstarts
      exact ⟨[], after, hafter.symm, (Option.some.inj h).symm, fun s u _ => List.nil_prefix⟩
    · next hstarts =>
      obtain ⟨j, hj, rfl⟩ := Option.map_eq_some_iff.mp h
      obtain ⟨before, after, rfl, rfl, hfirst⟩ := ih hj
      refine ⟨c :: before, after, rfl, rfl, ?_⟩
      intro s u hs
      cases s with
      | nil => exact absurd (List.isPrefixOf_iff_prefix.mpr ⟨u, hs.symm⟩) hstarts
      | cons d s =>
        rw [List.cons_append, List.cons.injEq] at hs
        rw [← hs.1]
        exact (List.prefix_cons_inj c).mpr (hfirst s u hs.2)

/-- The offset at which a word is found is the first of those at which it stands. -/
theorem isLeast_of_find? {word t : Text} {i : Nat} (h : find? word t = some i) :
    IsLeast {j | t.PartAt j word} i := by
  obtain ⟨before, after, ht, hi, hfirst⟩ := find?_eq_some h
  refine ⟨⟨before, after, ht, hi⟩, ?_⟩
  intro j hj
  obtain ⟨s, u, hs, rfl⟩ := hj
  obtain ⟨m, rfl⟩ := hfirst s u hs
  rw [hi, size_append]
  omega

/-- A word that is not found stands nowhere. -/
theorem not_partAt_of_find? {word t : Text} (h : find? word t = none) (j : Nat) :
    ¬ t.PartAt j word := by
  intro ⟨s, u, hs, _⟩
  have hoccurs : contains word t = true := by
    rw [contains_iff, hs]
    exact ⟨s, u, List.append_assoc s word u⟩
  rw [contains, h] at hoccurs
  cases hoccurs

/-- A word occurs on one side of a character that is not part of it. -/
theorem contains_append_cons {word : Text} {c : Char} (hc : c ∉ word) (s t : Text) :
    contains word (s ++ c :: t) = (contains word s || contains word t) := by
  rw [Bool.eq_iff_iff, Bool.or_eq_true, contains_iff, contains_iff, contains_iff]
  constructor
  · intro h
    obtain ⟨x, y, h⟩ := h
    -- The character stands behind the word, or before it, or in it.
    rcases List.append_eq_append_iff.mp h with ⟨m, hs, -⟩ | ⟨m, hx, hy⟩
    · exact .inl ⟨x, m, hs.symm⟩
    · cases m with
      | nil =>
        rw [List.append_nil] at hx
        exact .inl ⟨x, [], by rw [List.append_nil, hx]⟩
      | cons d m =>
        rw [List.cons_append, List.cons.injEq] at hy
        obtain ⟨rfl, rfl⟩ := hy
        rcases List.append_eq_append_iff.mp hx with ⟨k, -, hword⟩ | ⟨k, -, hword⟩
        · exact absurd (by simp [hword]) hc
        · cases k with
          | nil =>
            rw [List.nil_append] at hword
            exact absurd (hword ▸ List.mem_cons_self) hc
          | cons e k =>
            rw [List.cons_append, List.cons.injEq] at hword
            exact .inr ⟨k, y, by rw [hword.2]⟩
  · intro h
    rcases h with h | h
    · obtain ⟨x, y, rfl⟩ := h
      exact ⟨x, y ++ c :: t, by simp⟩
    · obtain ⟨x, y, rfl⟩ := h
      exact ⟨s ++ c :: x, y, by simp⟩

/-! ## Lines -/

/-- The end of a text that holds no newline and follows one, or is the whole text. -/
theorem lastLine_eq_iff {t line : Text} :
    (t.reverse.takeWhile (· != '\n')).reverse = line ↔ ∃ before, t = before ++ line
      ∧ '\n' ∉ line ∧ (before = [] ∨ ∃ earlier, before = earlier ++ ['\n']) := by
  constructor
  · intro hline
    have hcut := List.takeWhile_append_dropWhile (p := (· != '\n')) (l := t.reverse)
    have hfree : (t.reverse.takeWhile (· != '\n')).all (· != '\n') = true := List.all_takeWhile
    have hstop := List.head?_dropWhile_not (· != '\n') t.reverse
    refine ⟨(t.reverse.dropWhile (· != '\n')).reverse, ?_, ?_, ?_⟩
    · rw [← hline, ← List.reverse_append, hcut, List.reverse_reverse]
    · intro hnewline
      rw [← hline, List.mem_reverse] at hnewline
      simpa using List.all_eq_true.mp hfree _ hnewline
    · -- What is left out ends where the search backwards has stopped.
      cases hrest : t.reverse.dropWhile (· != '\n') with
      | nil => exact .inl rfl
      | cons c rest =>
        rw [hrest] at hstop
        have hc : c = '\n' := by simpa using hstop
        exact .inr ⟨rest.reverse, by rw [hc, List.reverse_cons]⟩
  · intro ⟨before, ht, hnewline, hbefore⟩
    have hall : ∀ c ∈ line.reverse, (c != '\n') = true := by
      intro c hc
      rw [List.mem_reverse] at hc
      simpa using fun heq : c = '\n' => hnewline (heq ▸ hc)
    have hstop : before.reverse.takeWhile (· != '\n') = [] := by
      rcases hbefore with rfl | ⟨earlier, rfl⟩
      · rfl
      · simp
    rw [ht, List.reverse_append, List.takeWhile_append_of_pos hall, hstop, List.append_nil,
      List.reverse_reverse]

end Sigil.Text
