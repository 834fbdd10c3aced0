import Sigil.Proofs.FindingSpans

/-! # Styles beside the scan

    A document is scanned, its styles are checked, and the findings of both are put in one
    order.  Neither kind of finding disturbs the other.

    * `Style.check_ordered`, `Style.regions_ordered`, `Style.checkRegions_ordered`: styles
      are checked from left to right.
    * `Finding.filter_sort_append`: findings of two kinds in one order.
    * `check_separates_scan_and_styles`: what was found is found again in what is reported. -/

namespace Sigil

namespace Style

/-! ## Declarations from left to right -/

/-- No declaration starts before the text does. -/
theorem le_of_mem_declarationsFrom {offset i : Nat} {t declaration : Text}
    (h : (i, declaration) ∈ declarationsFrom offset t) : offset ≤ i := by
  fun_induction declarationsFrom offset t with
  | case1 offset t first rest hsplit ih =>
    rcases List.mem_cons.mp h with heq | h
    · cases heq
      exact Nat.le_refl _
    · have hle := ih h
      omega
  | case2 => cases h
  | case3 offset c rest hsplit ih =>
    have hle := ih h
    omega

theorem declarationsFrom_ordered (offset : Nat) (t : Text) :
    (declarationsFrom offset t).Pairwise fun d e => d.1 ≤ e.1 := by
  fun_induction declarationsFrom offset t with
  | case1 offset t first rest hsplit ih =>
    rw [List.pairwise_cons]
    refine ⟨?_, ih⟩
    intro later hlater
    have hle := le_of_mem_declarationsFrom hlater
    show offset ≤ later.1
    omega
  | case2 => exact .nil
  | case3 offset c rest hsplit ih => exact ih

/-- What is found on a declaration is found where the declaration starts. -/
theorem check_ordered (t : Text) : (check t).Pairwise fun f g => f.offset ≤ g.offset := by
  unfold check
  rw [List.pairwise_filterMap]
  refine (declarationsFrom_ordered 0 t).imp ?_
  intro ⟨i, first⟩ ⟨j, second⟩ hle f hf g hg
  simp only [Option.ite_none_right_eq_some, Option.some.injEq] at hf hg
  obtain ⟨-, rfl⟩ := hf
  obtain ⟨-, rfl⟩ := hg
  exact hle

theorem problem_of_mem_check {t : Text} {f : Finding} (h : f ∈ check t) :
    f.problem = .missingCssUnit := by
  obtain ⟨⟨i, declaration⟩, -, hf⟩ := List.mem_filterMap.mp h
  simp only [Option.ite_none_right_eq_some, Option.some.injEq] at hf
  obtain ⟨-, rfl⟩ := hf
  rfl

/-! ## Regions from left to right -/

/-- No region starts before the text does, or before the region that is open there. -/
theorem le_start_of_mem_regionsFrom {open? : Option Nat} {offset : Nat} {t : Text} {r : Region}
    (hopen : ∀ start, open? = some start → start ≤ offset)
    (h : r ∈ regionsFrom open? offset t) : open?.getD offset ≤ r.start := by
  induction t generalizing open? offset with
  | nil =>
    rw [regionsFrom, Option.mem_toList, Option.map_eq_some_iff] at h
    obtain ⟨start, rfl, rfl⟩ := h
    exact Nat.le_refl _
  | cons c t ih =>
    cases open? with
    | none =>
      simp only [regionsFrom] at h
      split at h
      · have hnext : ∀ start, some offset = some start → start ≤ offset + c.utf8Size := by
          intro start hstart
          cases hstart
          omega
        have hle := ih hnext h
        exact hle
      · have hle := ih (by simp) h
        simp only [Option.getD_none] at hle ⊢
        omega
    | some start =>
      have hstart := hopen start rfl
      simp only [regionsFrom] at h
      simp only [Option.getD_some]
      split at h
      · rcases List.mem_cons.mp h with rfl | h
        · exact Nat.le_refl _
        · have hle := ih (by simp) h
          simp only [Option.getD_none] at hle
          omega
      · refine ih ?_ h
        intro other hother
        cases hother
        omega

theorem regionsFrom_ordered (open? : Option Nat) (offset : Nat) (t : Text) :
    (regionsFrom open? offset t).Pairwise fun r r' => r.stop ≤ r'.start := by
  induction t generalizing open? offset with
  | nil => cases open? <;> simp [regionsFrom]
  | cons c t ih =>
    cases open? with
    | none =>
      simp only [regionsFrom]
      split
      · exact ih _ _
      · exact ih _ _
    | some start =>
      simp only [regionsFrom]
      split
      · -- The next region starts behind the tag that closes this one.
        rw [List.pairwise_cons]
        refine ⟨?_, ih _ _⟩
        intro r hr
        have hle := le_start_of_mem_regionsFrom (by simp) hr
        simp only [Option.getD_none] at hle
        show offset ≤ r.start
        omega
      · exact ih _ _

/-- **Regions** come one after the other. -/
theorem regions_ordered (t : Text) : (regions t).Pairwise fun r r' => r.stop ≤ r'.start :=
  regionsFrom_ordered none 0 t

/-- The part of a text that a region spans has the region's length. -/
theorem size_slice_of_mem_regions {t : Text} {r : Region} (h : r ∈ regions t) :
    r.start + (Text.slice t r.start r.stop).size = r.stop := by
  obtain ⟨hstart, hstop, hle⟩ :=
    isBoundary_of_mem_regionsFrom [] (List.nil_append t).symm rfl (by simp) h
  obtain ⟨part, hpart, heq⟩ := Text.exists_partAt hstart hstop hle
  rw [heq, hpart.slice_eq]

/-- What is found in a region concerns the region only. -/
theorem within_of_mem_region {t : Text} {r : Region} (hr : r ∈ regions t) {f : Finding}
    (hf : f ∈ (check (Text.slice t r.start r.stop)).map (Finding.shift r.start)) :
    r.start ≤ f.offset ∧ f.offset + f.width ≤ r.stop := by
  obtain ⟨g, hg, rfl⟩ := List.mem_map.mp hf
  have hle := (liesIn_of_mem_check hg).1.offset_le
  have hsize := size_slice_of_mem_regions hr
  simp only [Finding.shift]
  omega

theorem checkRegions_ordered (t : Text) :
    (checkRegions t).Pairwise fun f g => f.offset ≤ g.offset := by
  unfold checkRegions
  rw [List.pairwise_flatMap]
  constructor
  · intro r _
    rw [List.pairwise_map]
    refine (check_ordered (Text.slice t r.start r.stop)).imp ?_
    intro f g hle
    simp only [Finding.shift]
    omega
  · -- All that is found in one region lies before all that is found in a later one.
    refine List.Pairwise.imp_of_mem ?_ (regions_ordered t)
    intro r r' hr hr' hle f hf g hg
    have hfirst := within_of_mem_region hr hf
    have hsecond := within_of_mem_region hr' hg
    omega

end Style

/-! ## Scan and styles in one report -/

/-- Is the finding about styles? -/
def Finding.isStyle (f : Finding) : Bool :=
  decide (f.problem = .missingCssUnit)

theorem isStyle_of_mem_styleFindings {kind : DocumentKind} {t : Text} {f : Finding}
    (h : f ∈ styleFindings kind t) : f.isStyle = true := by
  unfold Finding.isStyle
  rw [decide_eq_true_eq]
  cases kind with
  | stylesheet => exact Style.problem_of_mem_check h
  | script => cases h
  | markup =>
    obtain ⟨r, -, hf⟩ := List.mem_flatMap.mp h
    obtain ⟨g, hg, rfl⟩ := List.mem_map.mp hf
    have hproblem := Style.problem_of_mem_check hg
    exact hproblem

theorem styleFindings_ordered (kind : DocumentKind) (t : Text) :
    (styleFindings kind t).Pairwise fun f g => f.offset ≤ g.offset := by
  cases kind with
  | stylesheet => exact Style.check_ordered t
  | script => exact .nil
  | markup => exact Style.checkRegions_ordered t

/-- A scan does not look at styles. -/
theorem not_isStyle_of_mem_scan {catalog : Catalog} {t : Text} {f : Finding}
    (h : f ∈ scan catalog t) : f.isStyle = false := by
  unfold Finding.isStyle
  rw [decide_eq_false_iff_not]
  rw [(stableSort_scan catalog t).mem_iff, scanned, List.mem_append] at h
  rcases h with h | h
  · obtain ⟨e, -, he⟩ := List.mem_flatMap.mp h
    cases e with
    | token offset name =>
      simp only [eventFindings, deprecation?, Option.mem_toList] at he
      split at he
      · split at he
        · cases he
          simp
        · cases he
      · cases he
    | unmatched offset =>
      rw [eventFindings, List.mem_singleton] at he
      subst he
      simp [Finding.unmatchedClosing]
    | closed frame stop =>
      simp only [eventFindings] at he
      split at he
      · obtain ⟨g, hg, rfl⟩ := List.mem_map.mp he
        have hinner := (mem_frameFindings hg).1
        intro hstyle
        rw [show g.problem = .missingCssUnit from hstyle] at hinner
        simp [Problem.isInner] at hinner
      · cases he
  · obtain ⟨frame, -, rfl⟩ := List.mem_map.mp h
    simp [Finding.unclosed]

/-- Findings of one kind and of another, each in order, are found again in their common
    order. -/
theorem Finding.filter_sort_append {p : Finding → Bool} {l l' : List Finding}
    (hl : ∀ f ∈ l, p f = false) (hl' : ∀ f ∈ l', p f = true)
    (hordered : l.Pairwise fun f g => f.offset ≤ g.offset)
    (hordered' : l'.Pairwise fun f g => f.offset ≤ g.offset) :
    (sort (l ++ l')).filter (fun f => !p f) = l ∧ (sort (l ++ l')).filter p = l' := by
  have hsort := stableSort_sort (l ++ l')
  -- A list that is in order is its own order of report.
  have hself : ∀ k : List Finding, (k.Pairwise fun f g => f.offset ≤ g.offset) → sort k = k :=
    fun k hk => (StableSort.unique ⟨hk, fun _ => rfl⟩).symm
  constructor
  · have hfilter : (l ++ l').filter (fun f => !p f) = l := by
      rw [List.filter_append, List.filter_eq_self.mpr (by simpa using hl),
        List.filter_eq_nil_iff.mpr (by simpa using hl'), List.append_nil]
    rw [(hsort.filter _).unique, hfilter, hself l hordered]
  · have hfilter : (l ++ l').filter p = l' := by
      rw [List.filter_append, List.filter_eq_nil_iff.mpr (by simpa using hl),
        List.filter_eq_self.mpr hl', List.nil_append]
    rw [(hsort.filter _).unique, hfilter, hself l' hordered']

/-- **Scan and styles.**  The report on a document without the findings about styles is that
    of the scan, and the findings about styles are those of the style check: on the whole of a
    stylesheet, on nothing of a script, and on the regions of a markup text one after the
    other, each of them within its region. -/
theorem check_separates_scan_and_styles (catalog : Catalog) (kind : DocumentKind) (t : Text) :
    (check catalog kind t).filter (fun f => f.problem ≠ .missingCssUnit) = scan catalog t
    ∧ (check catalog kind t).filter (fun f => f.problem = .missingCssUnit) = (match kind with
      | .stylesheet => Style.check t
      | .script => []
      | .markup => (Style.regions t).flatMap fun r =>
          (Style.check (Text.slice t r.start r.stop)).map (Finding.shift r.start))
    ∧ ∀ f ∈ check catalog .markup t, f.problem = .missingCssUnit →
        ∃ r ∈ Style.regions t, r.start ≤ f.offset ∧ f.offset + f.width ≤ r.stop := by
  have hseparate : ∀ k, (check catalog k t).filter (fun f => !f.isStyle) = scan catalog t
      ∧ (check catalog k t).filter Finding.isStyle = styleFindings k t := fun k =>
    Finding.filter_sort_append (fun f => not_isStyle_of_mem_scan)
      (fun f => isStyle_of_mem_styleFindings) (stableSort_scan catalog t).ordered
      (styleFindings_ordered k t)
  have hnot : (fun f : Finding => decide (f.problem ≠ .missingCssUnit)) = fun f => !f.isStyle := by
    funext f
    rw [Finding.isStyle, decide_not]
  refine ⟨?_, ?_, ?_⟩
  · rw [hnot]
    exact (hseparate kind).1
  · rw [show (fun f : Finding => decide (f.problem = .missingCssUnit)) = Finding.isStyle from rfl,
      (hseparate kind).2]
    cases kind with
    | stylesheet => rfl
    | script => rfl
    | markup => rfl
  · intro f hf hproblem
    have hmem : f ∈ (check catalog .markup t).filter Finding.isStyle :=
      List.mem_filter.mpr ⟨hf, decide_eq_true hproblem⟩
    rw [(hseparate .markup).2] at hmem
    obtain ⟨r, hr, hfr⟩ := List.mem_flatMap.mp hmem
    exact ⟨r, hr, Style.within_of_mem_region hr hfr⟩

/-- A detached unit in a style element, and an excess bracket behind it. -/
theorem check_separates_scan_and_styles_markup :
    { problem := .missingCssUnit, offset := 7, width := 11 }
        ∈ check .empty .markup "<style>b:$x[1] em;</style>]".toList
    ∧ (check .empty .markup "<style>b:$x[1] em;</style>]".toList).filter
        (fun f => f.problem ≠ .missingCssUnit)
      = scan .empty "<style>b:$x[1] em;</style>]".toList
    ∧ ∃ r ∈ Style.regions "<style>b:$x[1] em;</style>]".toList, r.start ≤ 7 ∧ 7 + 11 ≤ r.stop := by
  have hregions : Style.regions "<style>b:$x[1] em;</style>]".toList = [⟨0, 18⟩] := by decide
  have hslice : Text.slice "<style>b:$x[1] em;</style>]".toList 0 18
      = "<style>b:$x[1] em;".toList := by decide
  have hcheck : Style.check "<style>b:$x[1] em;".toList
      = [{ problem := .missingCssUnit, offset := 7, width := 11 }] := by decide +kernel
  have hmem : { problem := .missingCssUnit, offset := 7, width := 11 }
      ∈ check .empty .markup "<style>b:$x[1] em;</style>]".toList := by
    rw [check, (Finding.stableSort_sort _).mem_iff, List.mem_append, styleFindings,
      Style.checkRegions, hregions]
    right
    rw [List.flatMap_singleton, hslice, hcheck]
    simp
  obtain ⟨hscan, -, hwithin⟩ :=
    check_separates_scan_and_styles .empty .markup "<style>b:$x[1] em;</style>]".toList
  exact ⟨hmem, hscan, hwithin _ hmem rfl⟩

end Sigil
