import Sigil.Check
import Sigil.Proofs.ScanFindings
import Sigil.Proofs.TextSpans

/-! # Where findings are

    A finding is made in some part of a text: between two brackets, in one argument, in
    one declaration of a style element.  Its offset counts from the start of that part and
    is moved as the part is put back into its place.

    * `Finding.LiesIn`: the finding concerns a part of the text.
    * `Finding.LiesIn.shift`: so it does when the text is itself a part of another.
    * `Style.partAt_of_mem_declarationsFrom`, `Style.partAt_of_mem_regions`: the parts in which
      findings are made, beside arguments.
    * `check_ordered_and_within`: all findings on a document. -/

namespace Sigil

/-- The finding concerns a part of the text. -/
def Finding.LiesIn (t : Text) (f : Finding) : Prop :=
  ∃ part : Text, t.PartAt f.offset part ∧ f.width = part.size

theorem Finding.LiesIn.shift {t s : Text} {f : Finding} {i : Nat} (hs : t.PartAt i s)
    (hf : f.LiesIn s) : (f.shift i).LiesIn t := by
  obtain ⟨part, hpart, hwidth⟩ := hf
  have htrans := hs.trans hpart
  rw [Nat.add_comm] at htrans
  exact ⟨part, htrans, hwidth⟩

theorem Finding.LiesIn.offset_le {t : Text} {f : Finding} (hf : f.LiesIn t) :
    f.offset + f.width ≤ t.size := by
  obtain ⟨part, hpart, hwidth⟩ := hf
  rw [hwidth]
  exact hpart.add_size_le

/-! ## Arguments -/

theorem liesIn_of_mem_frameFindings {catalog : Catalog} {owner content : Text} {frame : Frame}
    {f : Finding} (h : f ∈ frameFindings catalog owner frame content) : f.LiesIn content := by
  rw [frameFindings, List.mem_append, List.mem_append] at h
  rcases h with (h | h) | h
  · split at h
    · obtain ⟨hoffset, hwidth, -⟩ := Arithmetic.mem_checkContent h
      refine ⟨content, ?_, hwidth⟩
      rw [hoffset]
      exact content.partAt_self
    · cases h
  · split at h
    · rw [List.mem_singleton] at h
      subst h
      exact ⟨content, content.partAt_self, rfl⟩
    · cases h
  · obtain ⟨a, ha, hoffset, hwidth, -⟩ := Argument.mem_check h
    refine ⟨a.text, ?_, hwidth⟩
    rw [hoffset]
    exact Argument.partAt_of_mem_split ha

/-! ## Tokens and brackets -/

theorem TokenAt.partAt {t name : Text} {i : Nat} (h : TokenAt t i name) : t.PartAt i name := by
  obtain ⟨before, after, hls, hi⟩ := tokenAt_iff.mp h
  exact ⟨textOf before, textOf after, eq_textOf_append hls, hi⟩

theorem TokenAt.ne_nil {t name : Text} {i : Nat} (h : TokenAt t i name) : name ≠ [] := by
  obtain ⟨before, after, hls, -⟩ := tokenAt_iff.mp h
  have hproper := isProper_of_mem_lexemes t (.token name) (by simp [hls])
  exact hproper.1

theorem Holds.partAt {t : Text} {i : Nat} {c : Char} (h : Holds t i c) : t.PartAt i [c] := by
  obtain ⟨before, after, ht, hi⟩ := h
  exact ⟨before, after, ht, hi⟩

/-- The text between the brackets of a pair is a part, and not the last one. -/
theorem Partners.partAt {t : Text} {i j : Nat} (h : Partners t i j) :
    t.PartAt (i + 1) (Text.slice t (i + 1) j) ∧ j < t.size := by
  obtain ⟨before, inside, after, ht, -, hi, hj⟩ := h
  have hpart : t.PartAt (i + 1) inside := by
    refine ⟨before ++ ['['], ']' :: after, ?_, ?_⟩
    · rw [ht]
      simp
    · rw [hi, Text.size_append]
      rfl
  have hj' : j = i + 1 + inside.size := by
    rw [hj, hi]
  constructor
  · rw [hj', hpart.slice_eq]
    exact hpart
  · rw [hj, ht, Text.size_append_opening, Text.size_append, Text.size_cons]
    have hpos := Char.utf8Size_pos ']'
    omega

/-- What is found at an event. -/
theorem liesIn_of_mem_eventFindings {catalog : Catalog} {t : Text} {e : Event} {f : Finding}
    (he : e ∈ (brackets t).1) (hf : f ∈ eventFindings catalog t e) :
    f.LiesIn t ∧ f.offset < t.size := by
  cases e with
  | token offset name =>
    have htoken := mem_events_token_iff.mp he
    simp only [eventFindings, deprecation?, Option.mem_toList] at hf
    split at hf
    · split at hf
      · cases hf
        exact ⟨⟨name, htoken.partAt, rfl⟩, htoken.partAt.lt_size htoken.ne_nil⟩
      · cases hf
    · cases hf
  | unmatched offset =>
    have hholds := (mem_events_unmatched_iff.mp he).1
    rw [eventFindings, List.mem_singleton] at hf
    subst hf
    exact ⟨⟨[']'], hholds.partAt, rfl⟩, hholds.partAt.lt_size (by simp)⟩
  | closed frame stop =>
    have hpair := (mem_events_closed_iff.mp he).1
    obtain ⟨hpart, hlt⟩ := hpair.partAt
    have hstop := hpair.size_slice
    simp only [eventFindings] at hf
    split at hf
    · obtain ⟨g, hg, rfl⟩ := List.mem_map.mp hf
      have hg := liesIn_of_mem_frameFindings hg
      refine ⟨hg.shift hpart, ?_⟩
      -- The closing bracket stands behind all that is found before it.
      have hle := hg.offset_le
      simp only [Finding.shift, Frame.start] at hle ⊢
      omega
    · cases hf

theorem liesIn_of_mem_scan {catalog : Catalog} {t : Text} {f : Finding}
    (hf : f ∈ scan catalog t) : f.LiesIn t ∧ f.offset < t.size := by
  rw [(stableSort_scan catalog t).mem_iff, scanned, List.mem_append] at hf
  rcases hf with hf | hf
  · obtain ⟨e, he, hf⟩ := List.mem_flatMap.mp hf
    exact liesIn_of_mem_eventFindings he hf
  · obtain ⟨frame, hframe, rfl⟩ := List.mem_map.mp hf
    have hopening := mem_unclosed_iff.mp (List.mem_map_of_mem hframe)
    have hpart := hopening.1.partAt
    exact ⟨⟨['['], hpart, rfl⟩, hpart.lt_size (by simp)⟩

/-! ## Styles -/

namespace Style

/-- Nothing is lost: a declaration and the rest make up the text. -/
theorem append_of_splitDeclaration? {t declaration rest : Text}
    (h : splitDeclaration? t = some (declaration, rest)) :
    declaration ++ rest = t ∧ declaration ≠ [] := by
  simp only [splitDeclaration?] at h
  split at h
  · cases h
  · split at h
    · next afterColon hcolon =>
      split at h
      · next afterSigil hsigil =>
        split at h
        · cases h
        · split at h
          · next tail hsemicolon =>
            cases h
            -- What each part is taken from is that part and what comes after it.
            have ht := List.takeWhile_append_dropWhile (p := isPropertyChar) (l := t)
            have hblanks := List.takeWhile_append_dropWhile (p := isBlank) (l := afterColon)
            have hvalue := List.takeWhile_append_dropWhile (p := (· != ';')) (l := afterSigil)
            rw [hcolon] at ht
            rw [hsigil] at hblanks
            rw [hsemicolon] at hvalue
            refine ⟨?_, by simp⟩
            simp only [List.append_assoc, List.cons_append, List.nil_append]
            rw [hvalue, hblanks, ht]
          · cases h
      · cases h
    · cases h

/-- The declarations of the text after `before` are parts of the whole text. -/
theorem partAt_of_mem_declarationsFrom (before : Text) {t rest declaration : Text}
    {offset i : Nat} (ht : t = before ++ rest) (hoffset : offset = before.size)
    (h : (i, declaration) ∈ declarationsFrom offset rest) :
    t.PartAt i declaration ∧ declaration ≠ [] := by
  fun_induction declarationsFrom offset rest generalizing before with
  | case1 offset rest first after hsplit ih =>
    obtain ⟨hcut, hne⟩ := append_of_splitDeclaration? hsplit
    rcases List.mem_cons.mp h with heq | h
    · cases heq
      exact ⟨⟨before, after, by rw [ht, hcut], hoffset⟩, hne⟩
    · refine ih (before ++ first) ?_ ?_ h
      · rw [ht, ← hcut, List.append_assoc]
      · rw [hoffset, Text.size_append]
  | case2 => cases h
  | case3 offset c rest hsplit ih =>
    refine ih (before ++ [c]) ?_ ?_ h
    · rw [ht, List.append_assoc]
      rfl
    · rw [hoffset, Text.size_append]
      rfl

/-- A finding on styles concerns one declaration. -/
theorem liesIn_of_mem_check {t : Text} {f : Finding} (h : f ∈ check t) :
    f.LiesIn t ∧ f.offset < t.size := by
  obtain ⟨⟨i, declaration⟩, hmem, hf⟩ := List.mem_filterMap.mp h
  obtain ⟨hpart, hne⟩ := partAt_of_mem_declarationsFrom [] rfl rfl hmem
  simp only [Option.ite_none_right_eq_some, Option.some.injEq] at hf
  obtain ⟨-, rfl⟩ := hf
  exact ⟨⟨declaration, hpart, rfl⟩, hpart.lt_size hne⟩

/-- The regions of the text after `done`.  A region that is open there has started at a
    boundary before. -/
theorem isBoundary_of_mem_regionsFrom (done : Text) {t rest : Text} {open? : Option Nat}
    {offset : Nat} {r : Region} (ht : t = done ++ rest) (hoffset : offset = done.size)
    (hopen : ∀ start, open? = some start → t.IsBoundary start ∧ start ≤ offset)
    (h : r ∈ regionsFrom open? offset rest) :
    t.IsBoundary r.start ∧ t.IsBoundary r.stop ∧ r.start ≤ r.stop := by
  have hhere : t.IsBoundary offset := ⟨done, rest, ht, hoffset⟩
  induction rest generalizing done open? offset with
  | nil =>
    rw [regionsFrom, Option.mem_toList, Option.map_eq_some_iff] at h
    obtain ⟨start, hstart, rfl⟩ := h
    obtain ⟨hboundary, hle⟩ := hopen start hstart
    exact ⟨hboundary, hhere, hle⟩
  | cons c rest ih =>
    have ht' : t = (done ++ [c]) ++ rest := by
      rw [ht, List.append_assoc]
      rfl
    have hoffset' : offset + c.utf8Size = Text.size (done ++ [c]) := by
      rw [hoffset, Text.size_append]
      rfl
    have hnext : t.IsBoundary (offset + c.utf8Size) := ⟨done ++ [c], rest, ht', hoffset'⟩
    -- A region that is open behind the character started before it or with it.
    have hrest : ∀ {o : Option Nat}, (∀ start, o = some start → t.IsBoundary start
        ∧ start ≤ offset) → r ∈ regionsFrom o (offset + c.utf8Size) rest →
        t.IsBoundary r.start ∧ t.IsBoundary r.stop ∧ r.start ≤ r.stop := by
      intro o ho hr
      refine ih (done ++ [c]) ht' hoffset' ?_ hr hnext
      intro start hstart
      obtain ⟨hboundary, hle⟩ := ho start hstart
      exact ⟨hboundary, by omega⟩
    cases open? with
    | none =>
      simp only [regionsFrom] at h
      split at h
      · refine hrest ?_ h
        intro start hstart
        cases hstart
        exact ⟨hhere, Nat.le_refl _⟩
      · exact hrest (by simp) h
    | some start =>
      simp only [regionsFrom] at h
      split at h
      · obtain ⟨hboundary, hle⟩ := hopen start rfl
        rcases List.mem_cons.mp h with rfl | h
        · exact ⟨hboundary, hhere, hle⟩
        · exact hrest (by simp) h
      · exact hrest hopen h

/-- **Regions are parts of the text.** -/
theorem partAt_of_mem_regions {t : Text} {r : Region} (h : r ∈ regions t) :
    t.PartAt r.start (Text.slice t r.start r.stop) := by
  obtain ⟨hstart, hstop, hle⟩ :=
    isBoundary_of_mem_regionsFrom [] (List.nil_append t).symm rfl (by simp) h
  obtain ⟨part, hpart, heq⟩ := Text.exists_partAt hstart hstop hle
  rw [heq, hpart.slice_eq]
  exact hpart

theorem liesIn_of_mem_checkRegions {t : Text} {f : Finding} (h : f ∈ checkRegions t) :
    f.LiesIn t ∧ f.offset < t.size := by
  obtain ⟨r, hr, hf⟩ := List.mem_flatMap.mp h
  obtain ⟨g, hg, rfl⟩ := List.mem_map.mp hf
  have hpart := partAt_of_mem_regions hr
  obtain ⟨hlies, hlt⟩ := liesIn_of_mem_check hg
  refine ⟨hlies.shift hpart, ?_⟩
  have hle := hpart.add_size_le
  simp only [Finding.shift]
  omega

end Style

/-! ## Documents -/

theorem liesIn_of_mem_styleFindings {kind : DocumentKind} {t : Text} {f : Finding}
    (h : f ∈ styleFindings kind t) : f.LiesIn t ∧ f.offset < t.size := by
  cases kind with
  | stylesheet => exact Style.liesIn_of_mem_check h
  | markup => exact Style.liesIn_of_mem_checkRegions h
  | script => cases h

/-- **Findings on a document** come in order of their offsets.  Each starts at a character
    of the text and ends at a boundary of it. -/
theorem check_ordered_and_within (catalog : Catalog) (kind : DocumentKind) (t : Text) :
    (check catalog kind t).Pairwise (fun f g => f.offset ≤ g.offset)
    ∧ ∀ f ∈ check catalog kind t, f.offset < t.size ∧ f.offset + f.width ≤ t.size
      ∧ t.IsBoundary f.offset ∧ t.IsBoundary (f.offset + f.width) := by
  have hsort := Finding.stableSort_sort (scan catalog t ++ styleFindings kind t)
  refine ⟨hsort.ordered, ?_⟩
  intro f hf
  rw [check, hsort.mem_iff, List.mem_append] at hf
  have hlies : f.LiesIn t ∧ f.offset < t.size := by
    rcases hf with hf | hf
    · exact liesIn_of_mem_scan hf
    · exact liesIn_of_mem_styleFindings hf
  obtain ⟨⟨part, hpart, hwidth⟩, hlt⟩ := hlies
  rw [hwidth]
  exact ⟨hlt, hpart.add_size_le, hpart.isBoundary, hpart.isBoundary_end⟩

end Sigil
