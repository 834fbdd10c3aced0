import Sigil.Proofs.FindingSpans
import Sigil.Proofs.ReportPlaces

/-! # Marks in reports

    The last row of a full report marks the span of a finding on the line above it.

    * `visible`: a text without its colour codes.
    * `full_eq`: the last two rows of a report.
    * `PointsAt`, `report_points_at_character`: the first mark stands below the character that
      the finding starts with.
    * `spanOnLine`: the characters that ought to be marked.
    * `marks_match_span_iff`: when there are as many marks. -/

namespace Sigil.Report

/-! ## Colour codes -/

/-- What is left of a text without colour codes, read from inside a code or from outside.  A
    code starts with an escape character and ends with the letter `m`. -/
def visibleFrom : Bool → Text → Text
  | _, [] => []
  | true, c :: rest => visibleFrom (c != 'm') rest
  | false, c :: rest => if c = '\x1b' then visibleFrom true rest else c :: visibleFrom false rest

/-- **Visible text**: all characters that do not belong to a colour code. -/
def visible (t : Text) : Text :=
  visibleFrom false t

theorem visible_cons {c : Char} (hc : c ≠ '\x1b') (t : Text) : visible (c :: t) = c :: visible t := by
  rw [visible, visibleFrom, if_neg hc, visible]

theorem visible_append {s : Text} (hs : '\x1b' ∉ s) (t : Text) :
    visible (s ++ t) = s ++ visible t := by
  induction s with
  | nil => rfl
  | cons c s ih =>
    rw [List.mem_cons, not_or] at hs
    rw [List.cons_append, visible_cons (Ne.symm hs.1), ih hs.2, List.cons_append]

theorem visible_code (code : Text) (hcode : 'm' ∉ code) (t : Text) :
    visible ('\x1b' :: (code ++ 'm' :: t)) = visible t := by
  have hinside : visibleFrom true (code ++ 'm' :: t) = visibleFrom false t := by
    induction code with
    | nil => rfl
    | cons c code ih =>
      rw [List.mem_cons, not_or] at hcode
      have hc : (c != 'm') = true := by simpa using Ne.symm hcode.1
      rw [List.cons_append, visibleFrom, hc, ih hcode.2]
  exact hinside

/-- Of a coloured text the text itself is seen. -/
theorem visible_coloured {colour : String} (hcolour : 'm' ∉ colour.toList) {s : Text}
    (hs : '\x1b' ∉ s) (t : Text) : visible (coloured colour s ++ t) = s ++ visible t := by
  have hcodes : coloured colour s ++ t
      = '\x1b' :: (('[' :: colour.toList) ++ 'm' :: (s ++ '\x1b' :: ("[39".toList ++ 'm' :: t))) := by
    simp [coloured]
  have hstart : 'm' ∉ '[' :: colour.toList := by simp [hcolour]
  rw [hcodes, visible_code _ hstart, visible_append hs, visible_code _ (by decide)]

/-! ## Rows -/

section Rows

variable (source : Text) (f : Finding)

/-- The number of the line that is shown. -/
def number : Text :=
  Nat.toDigits 10 (lineNumber source f.offset + 1)

/-- The number of characters that are kept for it. -/
def numberWidth : Nat :=
  max 3 (number source f).length

/-- What stands before the line of the source. -/
def gutter : Text :=
  blue (alignRight (numberWidth source f) (number source f)) ++ ' ' :: (blue ['|'] ++ [' '])

/-- What stands before the first mark. -/
def lead : Text :=
  List.replicate (numberWidth source f) ' ' ++ ' ' :: (blue ['|']
    ++ ' ' :: '\x1b' :: ("[91".toList ++ 'm' :: List.replicate (columnNumber source f.offset) ' '))

/-- What stands behind the first mark. -/
def laterMarks : Text :=
  "\x1b[39m".toList ++ red (List.replicate (markCount source f - 1) '^')

/-- **Rows of a report.**  The last row but one shows the line, the last one the marks. -/
theorem full_eq (filename : Text) : ∃ head, full filename source f
    = head ++ '\n' :: (gutter source f ++ sourceLine source f)
        ++ '\n' :: (lead source f ++ '^' :: laterMarks source f) := by
  refine ⟨concise filename source f ++ "\n\n".toList
    ++ (List.replicate (numberWidth source f) ' ' ++ ' ' :: blue ['|']), ?_⟩
  simp [full, gutter, lead, laterMarks, marker, number, numberWidth, red, coloured, alignRight]

/-- A number is written with digits. -/
theorem not_mem_number {c : Char} (hc : c.isDigit = false) : c ∉ number source f := by
  intro hmem
  rw [Nat.isDigit_of_mem_toDigits (by decide) (by decide) hmem] at hc
  cases hc

theorem newline_not_mem_gutter : '\n' ∉ gutter source f := by
  have hnumber := not_mem_number source f (c := '\n') (by decide)
  simp [gutter, blue, coloured, alignRight, hnumber]

theorem newline_not_mem_lead : '\n' ∉ lead source f := by
  simp [lead, blue, coloured]

theorem newline_not_mem_laterMarks : '\n' ∉ laterMarks source f := by
  simp [laterMarks, red, coloured]

theorem mark_not_mem_lead : '^' ∉ lead source f := by
  simp [lead, blue, coloured]

theorem count_laterMarks : (laterMarks source f).count '^' = markCount source f - 1 := by
  simp [laterMarks, red, coloured]

theorem length_visible_gutter : (visible (gutter source f)).length = numberWidth source f + 3 := by
  have hescape : '\x1b' ∉ alignRight (numberWidth source f) (number source f) := by
    have hnumber := not_mem_number source f (c := '\x1b') (by decide)
    simp [alignRight, hnumber]
  have hvisible : visible (gutter source f)
      = alignRight (numberWidth source f) (number source f) ++ " | ".toList := by
    unfold gutter blue
    rw [visible_coloured (by decide) hescape, visible_cons (by decide),
      visible_coloured (by decide) (by decide)]
    rfl
  have hwidth : (number source f).length ≤ numberWidth source f := Nat.le_max_right _ _
  have hright : (alignRight (numberWidth source f) (number source f)).length = numberWidth source f := by
    rw [alignRight, List.length_append, List.length_replicate]
    omega
  rw [hvisible, List.length_append, hright]
  rfl

theorem length_visible_lead :
    (visible (lead source f)).length = numberWidth source f + 3 + columnNumber source f.offset := by
  have hspaces : ∀ n, '\x1b' ∉ List.replicate n ' ' := by
    intro n hmem
    cases List.eq_of_mem_replicate hmem
  have hvisible : visible (lead source f) = List.replicate (numberWidth source f) ' '
      ++ ' ' :: '|' :: ' ' :: List.replicate (columnNumber source f.offset) ' ' := by
    have hend := visible_append (hspaces (columnNumber source f.offset)) []
    rw [List.append_nil] at hend
    unfold lead blue
    rw [visible_append (hspaces _), visible_cons (by decide), visible_coloured (by decide) (by decide),
      visible_cons (by decide), visible_code _ (by decide), hend]
    simp [visible, visibleFrom]
  rw [hvisible]
  simp only [List.length_append, List.length_cons, List.length_replicate]
  omega

end Rows

/-! ## The first mark -/

/-- **Pointing at a character.**  The last row but one of the report shows the line around the
    offset, behind a gutter, and the character stands at its column.  The first mark of the
    last row has as many characters before it, not counting the codes of colours.  (The
    characters of the source count one each, whatever they are.) -/
def PointsAt (source : Text) (offset : Nat) (c : Char) (report : Text) : Prop :=
  ∃ head gutter pre post lead marks : Text,
    report = head ++ '\n' :: (gutter ++ (pre ++ c :: post)) ++ '\n' :: (lead ++ '^' :: marks)
      ∧ source.LineAround offset pre (c :: post) ∧ pre.length = columnNumber source offset
      ∧ '\n' ∉ gutter ∧ '\n' ∉ lead ++ '^' :: marks ∧ '^' ∉ lead
      ∧ (visible gutter).length + pre.length = (visible lead).length

theorem newline_not_mem_marks (source : Text) (f : Finding) :
    '\n' ∉ lead source f ++ '^' :: laterMarks source f := by
  simp [newline_not_mem_lead, newline_not_mem_laterMarks]

theorem pointsAt_full {source : Text} {f : Finding} {c : Char} (h : Holds source f.offset c)
    (hnewline : c ≠ '\n') (hreturn : c ≠ '\r') (filename : Text) :
    PointsAt source f.offset c (full filename source f) := by
  obtain ⟨head, hfull⟩ := full_eq source f filename
  obtain ⟨before, later, rfl, hoffset⟩ := h
  obtain ⟨earlier, pre, hplace⟩ := exists_place before (c :: later)
  rw [← hoffset] at hplace
  have hline := sourceLine_eq hplace hnewline
  rw [Text.restOfLine_cons hnewline fun hc => absurd hc hreturn] at hline
  rw [hline] at hfull
  refine ⟨head, _, pre, _, _, _, hfull, hplace.lineAround hnewline hreturn,
    hplace.columnNumber_eq.symm, newline_not_mem_gutter _ _, newline_not_mem_marks _ _,
    mark_not_mem_lead _ _, ?_⟩
  rw [length_visible_gutter, length_visible_lead, hplace.columnNumber_eq]

/-- **Reports point at characters.**  A finding at a character that does not end a line is shown
    with the line around it, and the first mark is set below the character.  Of two places,
    the later one has the later line, or the later column on the same line. -/
theorem report_points_at_character (source : Text) :
    (∀ (filename : Text) (f : Finding) (c : Char), Holds source f.offset c → c ≠ '\n' → c ≠ '\r' →
      PointsAt source f.offset c (full filename source f))
    ∧ ∀ i j, source.IsBoundary i → source.IsBoundary j → i < j →
        toLex (lineNumber source i, columnNumber source i)
          < toLex (lineNumber source j, columnNumber source j) := by
  refine ⟨?_, fun i j => place_lt⟩
  intro filename f c hc hnewline hreturn
  exact pointsAt_full hc hnewline hreturn filename

/-- A line that ends with a carriage return and a newline, with a character of four bytes before
    the one that is marked; and two places on different lines. -/
theorem report_points_at_character_returns :
    Holds "é\n[a😀]\r\n".toList 9 ']'
      ∧ PointsAt "é\n[a😀]\r\n".toList 9 ']'
        (full "x".toList "é\n[a😀]\r\n".toList (.unmatchedClosing 9))
      ∧ Text.IsBoundary "é\n[a😀]\r\n".toList 2 ∧ Text.IsBoundary "é\n[a😀]\r\n".toList 3
      ∧ toLex (lineNumber "é\n[a😀]\r\n".toList 2, columnNumber "é\n[a😀]\r\n".toList 2)
        < toLex (lineNumber "é\n[a😀]\r\n".toList 3, columnNumber "é\n[a😀]\r\n".toList 3) := by
  have hholds : Holds "é\n[a😀]\r\n".toList 9 ']' := ⟨"é\n[a😀".toList, "\r\n".toList, rfl, rfl⟩
  have hfirst : Text.IsBoundary "é\n[a😀]\r\n".toList 2 := ⟨"é".toList, "\n[a😀]\r\n".toList, rfl, rfl⟩
  have hsecond : Text.IsBoundary "é\n[a😀]\r\n".toList 3 := ⟨"é\n".toList, "[a😀]\r\n".toList, rfl, rfl⟩
  obtain ⟨hpoints, hplaces⟩ := report_points_at_character "é\n[a😀]\r\n".toList
  exact ⟨hholds, hpoints "x".toList (.unmatchedClosing 9) ']' hholds (by decide) (by decide), hfirst,
    hsecond, hplaces 2 3 hfirst hsecond (by decide)⟩

/-! ## The number of marks -/

/-- The last row of a report. -/
def lastRow (report : Text) : Text :=
  (report.reverse.takeWhile (· != '\n')).reverse

/-- **Span on a line.**  The characters of the span of a finding that stand before the end of the
    line where the span starts. -/
def spanOnLine (source : Text) (f : Finding) : Text :=
  Text.takeBytes f.width (Text.restOfLine (Text.dropBytes f.offset source))

theorem lastRow_full (filename source : Text) (f : Finding) :
    lastRow (full filename source f) = lead source f ++ '^' :: laterMarks source f := by
  obtain ⟨head, hfull⟩ := full_eq source f filename
  refine Text.lastLine_eq_iff.mpr ⟨head ++ '\n' :: (gutter source f ++ sourceLine source f) ++ ['\n'], ?_,
    newline_not_mem_marks source f, .inr ⟨_, rfl⟩⟩
  rw [hfull, List.append_assoc _ ['\n'], List.singleton_append]

theorem one_le_markCount (source : Text) (f : Finding) : 1 ≤ markCount source f := by
  unfold markCount
  exact Nat.le_max_left 1 _

/-- All marks stand in the last row. -/
theorem count_lastRow_full (filename source : Text) (f : Finding) :
    (lastRow (full filename source f)).count '^' = markCount source f := by
  have hpos := one_le_markCount source f
  rw [lastRow_full, List.count_append, List.count_eq_zero.mpr (mark_not_mem_lead source f),
    List.count_cons_self, count_laterMarks]
  omega

/-- The marks are as many as the bytes of the span, or as the characters that are left on the
    line, and at least one. -/
theorem markCount_eq {source : Text} {f : Finding} {c : Char} (h : Holds source f.offset c) :
    markCount source f
      = max 1 (min f.width (Text.restOfLine (Text.dropBytes f.offset source)).length) := by
  obtain ⟨before, later, rfl, hoffset⟩ := h
  obtain ⟨earlier, pre, hplace⟩ := exists_place before (c :: later)
  rw [← hoffset] at hplace
  unfold markCount
  dsimp only
  rw [length_sourceLine hplace, hplace.dropBytes_eq]
  omega

/-- A span of the text, cut off where its line ends, is one of the two. -/
theorem marked_eq_iff {rest part after : Text} (h : rest = part ++ after) :
    max 1 (min part.size (Text.restOfLine rest).length)
        = max 1 (Text.takeBytes part.size (Text.restOfLine rest)).length
      ↔ Text.takeBytes part.size (Text.restOfLine rest) = Text.restOfLine rest
        ∨ ∀ c ∈ Text.takeBytes part.size (Text.restOfLine rest), c.utf8Size = 1 := by
  obtain ⟨ending, hcut, -, -⟩ := Text.exists_restOfLine rest
  generalize Text.restOfLine rest = line at hcut
  rcases List.append_eq_append_iff.mp (h.symm.trans hcut) with ⟨m, rfl, -⟩ | ⟨m, rfl, -⟩
  · -- The span ends on the line, and `m` is left of it.
    have hle := Text.length_le_size part
    have hempty : part.length = 0 → part.size = 0 := by
      intro hlength
      rw [List.length_eq_zero_iff.mp hlength]
      rfl
    have hwhole : part = part ++ m ↔ m.length = 0 := by simp
    rw [Text.takeBytes_size_append, ← Text.size_eq_length_iff, hwhole, List.length_append]
    omega
  · -- The line ends in the span, so all that is left of it is marked.
    have hle := Text.length_le_size line
    have hfits : line.size ≤ Text.size (line ++ m) := by
      rw [Text.size_append]
      omega
    rw [Text.takeBytes_of_size_le hfits]
    refine iff_of_true ?_ (.inl rfl)
    omega

/-- A finding on a document concerns a part of it, and some character stands where it starts. -/
theorem liesIn_of_mem_document {catalog : Catalog} {kind : DocumentKind} {t : Text} {f : Finding}
    (hf : f ∈ check catalog kind t) : f.LiesIn t ∧ ∃ c, Holds t f.offset c := by
  have hlies : f.LiesIn t ∧ f.offset < t.size := by
    rw [check, (Finding.stableSort_sort _).mem_iff, List.mem_append] at hf
    rcases hf with hf | hf
    · exact liesIn_of_mem_scan hf
    · exact liesIn_of_mem_styleFindings hf
  obtain ⟨⟨part, ⟨before, after, rfl, hoffset⟩, hwidth⟩, hlt⟩ := hlies
  refine ⟨⟨part, ⟨before, after, rfl, hoffset⟩, hwidth⟩, ?_⟩
  have hne : part ++ after ≠ [] := by
    intro hnil
    rw [hnil, List.append_nil, hoffset] at hlt
    exact Nat.lt_irrefl _ hlt
  obtain ⟨c, later, hrest⟩ := List.exists_cons_of_ne_nil hne
  exact ⟨c, before, later, by rw [hrest], hoffset⟩

/-- **Marks are counted in bytes.**  A finding gets as many marks as its span has bytes, but no
    more than characters are left on the line, and at least one.  So exactly the span is
    marked if and only if it reaches to the end of its line or has characters of one byte
    only. -/
theorem marks_match_span_iff {catalog : Catalog} {kind : DocumentKind} {source : Text} {f : Finding}
    (hf : f ∈ check catalog kind source) (filename : Text) :
    (lastRow (full filename source f)).count '^'
        = max 1 (min f.width (Text.restOfLine (Text.dropBytes f.offset source)).length)
      ∧ ((lastRow (full filename source f)).count '^' = max 1 (spanOnLine source f).length
        ↔ spanOnLine source f = Text.restOfLine (Text.dropBytes f.offset source)
          ∨ ∀ c ∈ spanOnLine source f, c.utf8Size = 1) := by
  obtain ⟨⟨part, ⟨before, after, hsource, hoffset⟩, hwidth⟩, c, hc⟩ := liesIn_of_mem_document hf
  have hrest : Text.dropBytes f.offset source = part ++ after := by
    rw [hsource, hoffset, Text.dropBytes_size_append]
  rw [count_lastRow_full, markCount_eq hc]
  refine ⟨rfl, ?_⟩
  unfold spanOnLine
  rw [hwidth]
  exact marked_eq_iff hrest

/-- The span reaches over the end of its line and has a character of two bytes. -/
theorem marks_match_span_iff_lines :
    ⟨.invalidMathExpression, 6, 5⟩ ∈ check .empty .script "$math[é\r\n+] y".toList
      ∧ (lastRow (full "x".toList "$math[é\r\n+] y".toList ⟨.invalidMathExpression, 6, 5⟩)).count '^' = 1
      ∧ (spanOnLine "$math[é\r\n+] y".toList ⟨.invalidMathExpression, 6, 5⟩).length = 1 := by
  have hf : ⟨.invalidMathExpression, 6, 5⟩ ∈ check .empty .script "$math[é\r\n+] y".toList := by
    decide +kernel
  have hspan : spanOnLine "$math[é\r\n+] y".toList ⟨.invalidMathExpression, 6, 5⟩ = ['é'] := by
    decide +kernel
  have hmarks := (marks_match_span_iff hf "x".toList).2.mpr (.inl (by decide +kernel))
  rw [hspan] at hmarks ⊢
  exact ⟨hf, hmarks, rfl⟩

/-- Three characters of two bytes each get six marks. -/
theorem marks_beyond_span :
    ⟨.invalidMathExpression, 6, 6⟩ ∈ check .empty .script "$math[ééé] abc".toList
      ∧ (lastRow (full "x".toList "$math[ééé] abc".toList ⟨.invalidMathExpression, 6, 6⟩)).count '^' = 6
      ∧ spanOnLine "$math[ééé] abc".toList ⟨.invalidMathExpression, 6, 6⟩ = "ééé".toList := by
  exact ⟨by decide +kernel, by decide +kernel, by decide +kernel⟩

end Sigil.Report
