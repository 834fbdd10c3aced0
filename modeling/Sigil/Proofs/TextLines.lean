import Sigil.Proofs.TextSpans

/-! # Lines of a text

    A line ends at a newline, or at a carriage return and a newline, or with the text.

    * `Text.IsLines`, `Text.LineAt`: whole lines, and a line with the place it has in a text.
    * `Text.line_induction`: a text is its first line and the text behind the newline.
    * `Text.lines_newline`: the lines of a text, one after the other.
    * `Text.getElem?_lines`: a line has the number of newlines before it.
    * `Text.any_contains_lines`: a word that spans no lines occurs in one of them. -/

namespace Sigil.Text

/-! ## Lines and their places -/

/-- The text is a number of whole lines, each with the newline that ends it. -/
def IsLines (t : Text) : Prop :=
  t = [] ∨ ∃ earlier, t = earlier ++ ['\n']

/-- **Line.**  The line `n` reaches from the offset `start` to the offset `stop`, where a
    newline stands or the text ends. -/
def LineAt (t : Text) (n start stop : Nat) : Prop :=
  ∃ before line after : Text, t = before ++ (line ++ after) ∧ before.IsLines ∧ '\n' ∉ line
    ∧ (after = [] ∨ ∃ later, after = '\n' :: later)
    ∧ n = before.count '\n' ∧ start = before.size ∧ stop = before.size + line.size

/-- Whole lines stay whole without their first character, if any are left. -/
theorem IsLines.tail {c : Char} {t : Text} (h : IsLines (c :: t)) :
    (c = '\n' ∧ t = []) ∨ ∃ earlier, t = earlier ++ ['\n'] := by
  rcases h with hnil | ⟨earlier, heq⟩
  · cases hnil
  · cases earlier with
    | nil =>
      rw [List.nil_append, List.cons.injEq] at heq
      exact .inl heq
    | cons d earlier =>
      rw [List.cons_append, List.cons.injEq] at heq
      exact .inr ⟨earlier, heq.2⟩

/-- A text starts with a line, perhaps an empty one. -/
theorem exists_firstLine (t : Text) : ∃ line after : Text, t = line ++ after ∧ '\n' ∉ line
    ∧ (after = [] ∨ ∃ later, after = '\n' :: later) := by
  induction t with
  | nil => exact ⟨[], [], rfl, by simp, .inl rfl⟩
  | cons c t ih =>
    by_cases hc : c = '\n'
    · exact ⟨[], c :: t, rfl, by simp, .inr ⟨t, by rw [hc]⟩⟩
    · obtain ⟨line, after, ht, hline, hafter⟩ := ih
      have hmem : '\n' ∉ c :: line := by
        rw [List.mem_cons, not_or]
        exact ⟨Ne.symm hc, hline⟩
      exact ⟨c :: line, after, by rw [ht]; rfl, hmem, hafter⟩

/-- A character before the lines moves those that it does not become part of. -/
theorem LineAt.cons {t : Text} {n start stop : Nat} (h : t.LineAt n start stop) {c : Char}
    (hc : c = '\n' ∨ 0 < n) :
    LineAt (c :: t) (if c = '\n' then n + 1 else n) (c.utf8Size + start) (c.utf8Size + stop) := by
  obtain ⟨before, line, after, rfl, hbefore, hline, hafter, rfl, rfl, rfl⟩ := h
  refine ⟨c :: before, line, after, rfl, .inr ?_, hline, hafter, ?_, rfl, ?_⟩
  · rcases hbefore with rfl | ⟨earlier, rfl⟩
    · rcases hc with rfl | hpos
      · exact ⟨[], rfl⟩
      · exact absurd hpos (by simp)
    · exact ⟨c :: earlier, rfl⟩
  · rw [List.count_cons]
    split <;> simp_all
  · rw [size_cons, Nat.add_assoc]

/-- A text has a line for each newline, and one more. -/
theorem exists_lineAt {t : Text} {n : Nat} (h : n ≤ t.count '\n') :
    ∃ start stop, t.LineAt n start stop := by
  induction t generalizing n with
  | nil =>
    have hn : n = 0 := by simpa using h
    exact ⟨0, 0, [], [], [], rfl, .inl rfl, by simp, .inl rfl, hn, rfl, rfl⟩
  | cons c t ih =>
    cases n with
    | zero =>
      obtain ⟨line, after, ht, hline, hafter⟩ := exists_firstLine (c :: t)
      exact ⟨_, _, [], line, after, ht, .inl rfl, hline, hafter, rfl, rfl, rfl⟩
    | succ n =>
      by_cases hc : c = '\n'
      · rw [hc, List.count_cons_self] at h
        obtain ⟨start, stop, hline⟩ := ih (show n ≤ t.count '\n' by omega)
        have hcons := hline.cons (.inl hc)
        rw [if_pos hc] at hcons
        exact ⟨_, _, hcons⟩
      · rw [List.count_cons_of_ne hc] at h
        obtain ⟨start, stop, hline⟩ := ih h
        have hcons := hline.cons (c := c) (.inr (Nat.succ_pos n))
        rw [if_neg hc] at hcons
        exact ⟨_, _, hcons⟩

/-- **Line by line.**  A text has one line, or is a line, a newline and another text. -/
theorem line_induction {motive : Text → Prop}
    (last : ∀ line, '\n' ∉ line → motive line)
    (next : ∀ line rest, '\n' ∉ line → motive rest → motive (line ++ '\n' :: rest))
    (t : Text) : motive t := by
  induction hlength : t.length using Nat.strongRecOn generalizing t with
  | _ length ih =>
    obtain ⟨line, after, rfl, hline, rfl | ⟨rest, rfl⟩⟩ := exists_firstLine t
    · rw [List.append_nil]
      exact last line hline
    · refine next line rest hline (ih rest.length ?_ rest rfl)
      rw [← hlength, List.length_append, List.length_cons]
      omega

/-- The end of whole lines is whole lines too, or nothing. -/
theorem IsLines.of_append {s t : Text} (h : IsLines (s ++ t)) : t.IsLines := by
  by_cases hnil : t = []
  · exact .inl hnil
  · rcases h with hempty | ⟨earlier, hearlier⟩
    · exact absurd (List.append_eq_nil_iff.mp hempty).2 hnil
    · have hlast := congrArg List.getLast? hearlier
      rw [List.getLast?_append_of_ne_nil _ hnil, List.getLast?_concat] at hlast
      exact .inr (List.getLast?_eq_some_iff.mp hlast)

/-- Whole lines without a newline are no lines. -/
theorem IsLines.eq_nil {t : Text} (h : t.IsLines) (hnewline : '\n' ∉ t) : t = [] := by
  rcases h with hnil | ⟨earlier, rfl⟩
  · exact hnil
  · exact absurd (by simp) hnewline

/-! ## Carriage returns -/

/-- Only the end of a line loses its carriage return. -/
theorem chompReturn_append {t : Text} (hne : t ≠ []) (s : Text) :
    chompReturn (s ++ t) = s ++ chompReturn t := by
  unfold chompReturn
  rw [List.getLast?_append_of_ne_nil _ hne, List.dropLast_append_of_ne_nil hne]
  split
  · rfl
  · rfl

theorem length_chompReturn_le (t : Text) : (chompReturn t).length ≤ t.length := by
  unfold chompReturn
  split
  · rw [List.length_dropLast]
    omega
  · exact Nat.le_refl _

/-! ## The list of lines -/

theorem splitLines_ne_nil (t : Text) : splitLines t ≠ [] := by
  fun_cases splitLines t <;> simp

/-- A text without a newline is part of the line that the rest starts with. -/
theorem splitLines_append {line : Text} (h : '\n' ∉ line) (t : Text) :
    splitLines (line ++ t) = (splitLines t).modifyHead (line ++ ·) := by
  induction line with
  | nil =>
    show splitLines t = (splitLines t).modifyHead id
    rw [List.modifyHead_id, id]
  | cons c line ih =>
    rw [List.mem_cons, not_or] at h
    obtain ⟨hc, hline⟩ := h
    have hstep : ∀ u : Text, splitLines (c :: u) = (splitLines u).modifyHead (c :: ·) := by
      intro u
      rw [splitLines]
      · cases hpieces : splitLines u with
        | nil => exact absurd hpieces (splitLines_ne_nil u)
        | cons piece pieces => rfl
      · exact Ne.symm hc
    rw [List.cons_append, hstep, ih hline, List.modifyHead_modifyHead]
    rfl

theorem splitLines_newline {line : Text} (h : '\n' ∉ line) (rest : Text) :
    splitLines (line ++ '\n' :: rest) = line :: splitLines rest := by
  rw [splitLines_append h, splitLines, List.modifyHead_cons, List.append_nil]

theorem splitLines_of_not_mem {line : Text} (h : '\n' ∉ line) : splitLines line = [line] := by
  have hsplit := splitLines_append h []
  rwa [List.append_nil, splitLines, List.modifyHead_cons, List.append_nil] at hsplit

/-- A text without a newline is one line. -/
theorem lines_of_not_mem {line : Text} (h : '\n' ∉ line) (hne : line ≠ []) :
    lines line = [line] := by
  unfold lines
  rw [splitLines_of_not_mem h]
  cases line with
  | nil => exact absurd rfl hne
  | cons c line => rfl

/-- **Lines** stand one after the other, with a newline behind each. -/
theorem lines_newline {line : Text} (h : '\n' ∉ line) (rest : Text) :
    lines (line ++ '\n' :: rest) = chompReturn line :: lines rest := by
  have hne := splitLines_ne_nil rest
  unfold lines
  dsimp only
  rw [splitLines_newline h, List.dropLast_cons_of_ne_nil hne, List.getLast?_cons_of_ne_nil hne,
    List.map_cons]
  split
  · rfl
  · rfl
  · rfl

/-- The lines behind whole lines are counted from where these end. -/
theorem getElem?_lines {before : Text} (h : before.IsLines) (t : Text) (n : Nat) :
    (lines (before ++ t))[before.count '\n' + n]? = (lines t)[n]? := by
  induction before using line_induction with
  | last line hline =>
    rw [h.eq_nil hline, List.nil_append, List.count_nil, Nat.zero_add]
  | next line rest hline ih =>
    have hrest : rest.IsLines := IsLines.of_append (s := line ++ ['\n']) (by simpa using h)
    have hcount : (line ++ '\n' :: rest).count '\n' + n = (rest.count '\n' + n) + 1 := by
      rw [List.count_append, List.count_eq_zero.mpr hline, List.count_cons_self]
      omega
    rw [List.append_assoc, List.cons_append, lines_newline hline, hcount,
      List.getElem?_cons_succ, ih hrest]

/-! ## Words on lines -/

theorem contains_chompReturn {word : Text} (hreturn : '\r' ∉ word) (hne : word ≠ []) (t : Text) :
    contains word (chompReturn t) = contains word t := by
  unfold chompReturn
  split
  · next hlast =>
    obtain ⟨line, rfl⟩ := List.getLast?_eq_some_iff.mp hlast
    have hempty : contains word [] = false := by
      rw [Bool.eq_false_iff, Ne, contains_iff, List.infix_nil]
      exact hne
    rw [contains_append_cons hreturn, hempty, Bool.or_false, List.dropLast_concat]
  · rfl

/-- **A word on one line** is found by searching the lines. -/
theorem any_contains_lines {word : Text} (hnewline : '\n' ∉ word) (hreturn : '\r' ∉ word)
    (hne : word ≠ []) (t : Text) : (lines t).any (contains word) = contains word t := by
  induction t using line_induction with
  | last line hline =>
    by_cases hnil : line = []
    · subst hnil
      rw [Bool.eq_iff_iff, contains_iff, List.infix_nil]
      simp [lines, splitLines, hne]
    · rw [lines_of_not_mem hline hnil, List.any_cons, List.any_nil, Bool.or_false]
  | next line rest hline ih =>
    rw [lines_newline hline, List.any_cons, ih, contains_chompReturn hreturn hne,
      contains_append_cons hnewline]

end Sigil.Text
