import Mathlib.Data.Prod.Lex
import Sigil.Proofs.TextLines
import Sigil.Report

/-! # Places in reports

    A report gives the line and the column of a finding, and shows the line.

    * `Text.restOfLine`: the characters before the end of a line.
    * `Text.LineAround`: the line that holds an offset.
    * `Report.place_lt`: a later place has a later line, or the same and a later column.
    * `Report.sourceLine_eq`: the line that is shown is the one of the offset.
    * `Report.length_sourceLine`: how much of that line is left behind the offset. -/

namespace Sigil

namespace Text

/-! ## The end of a line -/

/-- The characters before the end of the line that the text starts with. -/
def restOfLine : Text → Text
  | [] => []
  | c :: rest =>
    if c = '\n' ∨ c = '\r' ∧ rest.head? = some '\n' then [] else c :: restOfLine rest

/-- What follows a line: nothing, or a newline, or a carriage return and a newline. -/
def EndsLine (line after : Text) : Prop :=
  after = [] ∨ (line.getLast? ≠ some '\r' ∧ ∃ later, after = '\n' :: later)
    ∨ ∃ later, after = '\r' :: '\n' :: later

/-- **Line around an offset.**  The line `pre ++ rest` stands behind whole lines, and `rest` of it
    stands at the offset. -/
def LineAround (t : Text) (offset : Nat) (pre rest : Text) : Prop :=
  ∃ before after : Text, t = before ++ (pre ++ rest ++ after) ∧ offset = size (before ++ pre)
    ∧ before.IsLines ∧ '\n' ∉ pre ++ rest ∧ EndsLine (pre ++ rest) after

theorem restOfLine_cons {c : Char} {rest : Text} (hnewline : c ≠ '\n')
    (hreturn : c = '\r' → rest.head? ≠ some '\n') :
    restOfLine (c :: rest) = c :: restOfLine rest := by
  rw [restOfLine, if_neg]
  rintro (hc | ⟨hc, hhead⟩)
  · exact hnewline hc
  · exact hreturn hc hhead

theorem restOfLine_of_not_mem {line : Text} (h : '\n' ∉ line) : restOfLine line = line := by
  induction line with
  | nil => rfl
  | cons c line ih =>
    rw [List.mem_cons, not_or] at h
    have hhead : line.head? ≠ some '\n' := fun hhead => h.2 (List.mem_of_head? hhead)
    rw [restOfLine_cons (Ne.symm h.1) fun _ => hhead, ih h.2]

/-- Before a newline, a carriage return belongs to the end of the line. -/
theorem restOfLine_newline {line : Text} (h : '\n' ∉ line) (rest : Text) :
    restOfLine (line ++ '\n' :: rest) = chompReturn line := by
  induction line with
  | nil => rfl
  | cons c line ih =>
    rw [List.mem_cons, not_or] at h
    rw [List.cons_append]
    by_cases hnil : line = []
    · -- The character is the last one of its line.
      subst hnil
      by_cases hreturn : c = '\r'
      · subst hreturn
        rfl
      · have hchomp : chompReturn [c] = [c] := by
          rw [chompReturn, if_neg]
          simpa using hreturn
        rw [restOfLine_cons (Ne.symm h.1) fun hc => absurd hc hreturn, ih h.2, hchomp]
        rfl
    · have hhead : (line ++ '\n' :: rest).head? ≠ some '\n' := by
        rw [List.head?_append_of_ne_nil _ hnil]
        exact fun hhead => h.2 (List.mem_of_head? hhead)
      have hchomp : chompReturn (c :: line) = c :: chompReturn line := chompReturn_append hnil [c]
      rw [restOfLine_cons (Ne.symm h.1) fun _ => hhead, ih h.2, hchomp]

/-- **The rest of a line** is followed by the end of the line. -/
theorem exists_restOfLine (t : Text) : ∃ after : Text, t = restOfLine t ++ after
    ∧ '\n' ∉ restOfLine t ∧ EndsLine (restOfLine t) after := by
  induction t with
  | nil => exact ⟨[], rfl, List.not_mem_nil, .inl rfl⟩
  | cons c t ih =>
    rw [restOfLine]
    split
    · next hend =>
      refine ⟨c :: t, rfl, List.not_mem_nil, .inr ?_⟩
      rcases hend with rfl | ⟨rfl, hhead⟩
      · exact .inl ⟨by simp, t, rfl⟩
      · obtain ⟨later, rfl⟩ := List.head?_eq_some_iff.mp hhead
        exact .inr ⟨later, rfl⟩
    · next hend =>
      rw [not_or, not_and] at hend
      obtain ⟨after, ht, hnewline, hends⟩ := ih
      refine ⟨after, by rw [List.cons_append, ← ht], ?_, ?_⟩
      · rw [List.mem_cons, not_or]
        exact ⟨Ne.symm hend.1, hnewline⟩
      · rcases hends with hnil | ⟨hlast, later, hlater⟩ | hreturn
        · exact .inl hnil
        · refine .inr (.inl ⟨?_, later, hlater⟩)
          -- A carriage return right before the newline would have ended the line.
          by_cases hempty : restOfLine t = []
          · rw [hempty] at ht ⊢
            intro hc
            refine hend.2 (Option.some.inj hc) ?_
            rw [ht, hlater]
            rfl
          · rwa [← List.singleton_append, List.getLast?_append_of_ne_nil _ hempty]
        · exact .inr (.inr hreturn)

theorem EndsLine.prepend {line after : Text} (h : EndsLine line after) (hne : line ≠ [])
    (pre : Text) : EndsLine (pre ++ line) after := by
  unfold EndsLine
  rwa [List.getLast?_append_of_ne_nil _ hne]

end Text

namespace Report

/-! ## Lines and columns -/

/-- Later places come later on the same line, or on a later line. -/
theorem place_lt {source : Text} {i j : Nat} (hi : source.IsBoundary i) (hj : source.IsBoundary j)
    (hlt : i < j) : toLex (lineNumber source i, columnNumber source i)
      < toLex (lineNumber source j, columnNumber source j) := by
  obtain ⟨part, ⟨before, after, rfl, rfl⟩, rfl⟩ := Text.exists_partAt hi hj (Nat.le_of_lt hlt)
  have hfirst : Text.takeBytes before.size (before ++ (part ++ after)) = before :=
    Text.takeBytes_size_append before _
  have hsecond : Text.takeBytes (before.size + part.size) (before ++ (part ++ after))
      = before ++ part := by
    rw [← Text.size_append, ← List.append_assoc, Text.takeBytes_size_append]
  unfold lineNumber columnNumber
  rw [hfirst, hsecond, List.count_append, List.reverse_append, Prod.Lex.toLex_lt_toLex]
  dsimp only
  by_cases hnewline : '\n' ∈ part
  · have hpos := List.count_pos_iff.mpr hnewline
    exact .inl (by omega)
  · -- All characters between the places stand on the line of the first.
    have hline : ∀ c ∈ part.reverse, (c != '\n') = true := by
      intro c hc
      rw [List.mem_reverse] at hc
      simpa using fun heq : c = '\n' => hnewline (heq ▸ hc)
    have hpos : 0 < part.length := by
      rw [List.length_pos_iff]
      rintro rfl
      simp at hlt
    refine .inr ⟨?_, ?_⟩
    · rw [List.count_eq_zero.mpr hnewline, Nat.add_zero]
    · rw [List.takeWhile_append_of_pos hline, List.length_append, List.length_reverse]
      omega

/-- **Place.**  The offset stands behind the whole lines `before` and the characters `pre` of its
    own line. -/
structure Place (source : Text) (offset : Nat) (before pre rest : Text) : Prop where
  source_eq : source = before ++ (pre ++ rest)
  offset_eq : offset = Text.size (before ++ pre)
  isLines : before.IsLines
  newline : '\n' ∉ pre

/-- Every boundary has its place. -/
theorem exists_place (before rest : Text) :
    ∃ earlier pre, Place (before ++ rest) before.size earlier pre rest := by
  obtain ⟨earlier, hcut, hnewline, hlines⟩ := Text.lastLine_eq_iff.mp
    (Eq.refl (before.reverse.takeWhile (· != '\n')).reverse)
  refine ⟨earlier, _, ?_, ?_, hlines, hnewline⟩
  · rw [← List.append_assoc, ← hcut]
  · rw [← hcut]

namespace Place

variable {source before pre rest : Text} {offset : Nat} (h : Place source offset before pre rest)

include h

theorem takeBytes_eq : Text.takeBytes offset source = before ++ pre := by
  rw [h.offset_eq, h.source_eq, ← List.append_assoc, Text.takeBytes_size_append]

theorem dropBytes_eq : Text.dropBytes offset source = rest := by
  rw [h.offset_eq, h.source_eq, ← List.append_assoc, Text.dropBytes_size_append]

theorem lineNumber_eq : lineNumber source offset = before.count '\n' := by
  rw [lineNumber, h.takeBytes_eq, List.count_append, List.count_eq_zero.mpr h.newline, Nat.add_zero]

theorem columnNumber_eq : columnNumber source offset = pre.length := by
  have hline := Text.lastLine_eq_iff.mpr ⟨before, rfl, h.newline, h.isLines⟩
  rw [columnNumber, h.takeBytes_eq, ← List.length_reverse, hline]

end Place

/-- The place of a character gives the line around it. -/
theorem Place.lineAround {source before pre later : Text} {offset : Nat} {c : Char}
    (h : Place source offset before pre (c :: later)) (hnewline : c ≠ '\n') (hreturn : c ≠ '\r') :
    source.LineAround offset pre (c :: Text.restOfLine later) := by
  obtain ⟨after, hcut, hline, hends⟩ := Text.exists_restOfLine (c :: later)
  rw [Text.restOfLine_cons hnewline fun hc => absurd hc hreturn] at hcut hline hends
  refine ⟨before, after, ?_, h.offset_eq, h.isLines, ?_, hends.prepend (by simp) pre⟩
  · rw [h.source_eq, hcut, List.append_assoc]
  · rw [List.mem_append, not_or]
    exact ⟨h.newline, hline⟩

/-! ## The line that is shown -/

section SourceLine

variable {source before pre later : Text} {c : Char} {f : Finding}
  (h : Place source f.offset before pre (c :: later))

include h

/-- The line is looked up by the number of newlines before it. -/
theorem sourceLine_eq_head :
    sourceLine source f = (Text.lines (pre ++ c :: later))[0]?.getD ['?'] := by
  have hline := Text.getElem?_lines h.isLines (pre ++ c :: later) 0
  rw [Nat.add_zero, ← h.source_eq] at hline
  rw [sourceLine, h.lineNumber_eq, hline]

/-- **The line that is shown** is the one around the offset. -/
theorem sourceLine_eq (hc : c ≠ '\n') :
    sourceLine source f = pre ++ Text.restOfLine (c :: later) := by
  obtain ⟨line, after, hcut, hline, hafter⟩ := Text.exists_firstLine (c :: later)
  have hne : line ≠ [] := by
    rintro rfl
    rcases hafter with rfl | ⟨rest, rfl⟩
    · cases hcut
    · exact hc (List.cons.inj hcut).1
  have hall : '\n' ∉ pre ++ line := by
    rw [List.mem_append, not_or]
    exact ⟨h.newline, hline⟩
  rw [sourceLine_eq_head h, hcut]
  rcases hafter with rfl | ⟨rest, rfl⟩
  · have hsome : pre ++ line ≠ [] := by simp [hne]
    rw [List.append_nil, Text.lines_of_not_mem hall hsome, Text.restOfLine_of_not_mem hline]
    rfl
  · rw [← List.append_assoc, Text.lines_newline hall, Text.chompReturn_append hne,
      Text.restOfLine_newline hline]
    rfl

/-- Behind the offset as much is shown as is left of its line. -/
theorem length_sourceLine :
    (sourceLine source f).length - columnNumber source f.offset
      = (Text.restOfLine (c :: later)).length := by
  rw [h.columnNumber_eq]
  by_cases hc : c = '\n'
  · subst hc
    -- The offset is the end of the line that is shown.
    rw [sourceLine_eq_head h, Text.lines_newline h.newline]
    exact Nat.sub_eq_zero_of_le (Text.length_chompReturn_le pre)
  · rw [sourceLine_eq h hc, List.length_append, Nat.add_sub_cancel_left]

end SourceLine

end Report

end Sigil
