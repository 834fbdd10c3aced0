import Sigil.Finding

/-! # The order of findings

    Findings are reported in order of their offsets, and those at one offset in the
    order in which they were found.

    * `StableSort`: what it means that one list is another one put in order.
    * `stableSort_sort`, `StableSort.unique`: sorting gives such a list, and there is
      only one.
    * `sort_append`, `sort_shift`, `StableSort.filter`, `StableSort.sublist`: findings on
      one part of a text after those on another, findings moved together, and some of the
      findings. -/

namespace Sigil.Finding

/-- **Order of report.**  The findings `sorted` are `found` in order of their offsets,
    those at one offset in their old order. -/
structure StableSort (found sorted : List Finding) : Prop where
  /-- The offsets never decrease. -/
  ordered : sorted.Pairwise fun f g => f.offset ≤ g.offset
  /-- At each offset there are the same findings in the same order. -/
  same : ∀ i, sorted.filter (·.offset == i) = found.filter (·.offset == i)

theorem stableSort_sort (found : List Finding) : StableSort found (sort found) := by
  have htrans : ∀ f g h : Finding, decide (f.offset ≤ g.offset) = true →
      decide (g.offset ≤ h.offset) = true → decide (f.offset ≤ h.offset) = true := by
    intro f g h hfg hgh
    simp only [decide_eq_true_eq] at *
    omega
  have htotal : ∀ f g : Finding,
      (decide (f.offset ≤ g.offset) || decide (g.offset ≤ f.offset)) = true := by
    intro f g
    simp only [Bool.or_eq_true, decide_eq_true_eq]
    omega
  constructor
  · exact (List.pairwise_mergeSort htrans htotal found).imp (by simp)
  · intro i
    -- The findings at one offset are in order already, so sorting keeps them as they
    -- are; there are as many of them afterwards.
    have hpair : (found.filter (·.offset == i)).Pairwise
        fun f g => decide (f.offset ≤ g.offset) = true := by
      rw [List.pairwise_filter]
      refine List.pairwise_iff_forall_sublist.mpr ?_
      intro f g _ hf hg
      simp only [beq_iff_eq] at hf hg
      simp [hf, hg]
    have hsub := List.sublist_mergeSort htrans htotal hpair List.filter_sublist
    have hsub' := hsub.filter (·.offset == i)
    rw [List.filter_filter] at hsub'
    simp only [Bool.and_self] at hsub'
    have hlen := ((List.mergeSort_perm found fun f g => decide (f.offset ≤ g.offset)).filter
      (·.offset == i)).length_eq
    exact (hsub'.eq_of_length hlen.symm).symm

/-- Lists that agree at each offset hold the same findings, each as often. -/
theorem count_eq_of_same {l l' : List Finding}
    (same : ∀ i, l.filter (·.offset == i) = l'.filter (·.offset == i)) (f : Finding) :
    l.count f = l'.count f := by
  have hcount : ∀ k : List Finding, (k.filter (·.offset == f.offset)).count f = k.count f :=
    fun k => List.count_filter (by simp)
  calc l.count f = (l.filter (·.offset == f.offset)).count f := (hcount l).symm
    _ = (l'.filter (·.offset == f.offset)).count f := by rw [same]
    _ = l'.count f := hcount l'

theorem mem_iff_of_same {l l' : List Finding}
    (same : ∀ i, l.filter (·.offset == i) = l'.filter (·.offset == i)) (f : Finding) :
    f ∈ l ↔ f ∈ l' := by
  rw [← List.count_pos_iff, count_eq_of_same same, List.count_pos_iff]

theorem StableSort.count_eq {found sorted : List Finding} (h : StableSort found sorted)
    (f : Finding) : sorted.count f = found.count f :=
  count_eq_of_same h.same f

theorem StableSort.mem_iff {found sorted : List Finding} (h : StableSort found sorted)
    (f : Finding) : f ∈ sorted ↔ f ∈ found :=
  mem_iff_of_same h.same f

theorem mem_of_sublists {l l' : List Finding}
    (hsub : ∀ i, (l.filter (·.offset == i)).Sublist (l'.filter (·.offset == i))) {f : Finding}
    (hf : f ∈ l) : f ∈ l' := by
  have hat : f ∈ l.filter (·.offset == f.offset) := List.mem_filter.mpr ⟨hf, by simp⟩
  exact (List.mem_filter.mp ((hsub f.offset).subset hat)).1

/-- **Comparison offset by offset.**  Of two lists in order, one is a sublist of the other if
    it is one at each offset. -/
theorem sublist_of_ordered {l l' : List Finding}
    (hl : l.Pairwise fun f g => f.offset ≤ g.offset)
    (hl' : l'.Pairwise fun f g => f.offset ≤ g.offset)
    (hsub : ∀ i, (l.filter (·.offset == i)).Sublist (l'.filter (·.offset == i))) :
    l.Sublist l' := by
  induction l' generalizing l with
  | nil =>
    have hnil : l = [] :=
      List.eq_nil_iff_forall_not_mem.mpr fun f hf => List.not_mem_nil (mem_of_sublists hsub hf)
    subst hnil
    exact List.nil_sublist _
  | cons g l' ih =>
    cases l with
    | nil => exact List.nil_sublist _
    | cons f l =>
      have hf := List.pairwise_cons.mp hl
      have hg := List.pairwise_cons.mp hl'
      by_cases hfg : f = g
      · -- Both lists start with the same finding, and it is taken off both.
        subst hfg
        apply List.Sublist.cons_cons
        apply ih hf.2 hg.2
        intro i
        have hi := hsub i
        by_cases hfi : f.offset = i
        · rw [List.filter_cons_of_pos (by simp [hfi]),
            List.filter_cons_of_pos (by simp [hfi])] at hi
          exact List.cons_sublist_cons.mp hi
        · rw [List.filter_cons_of_neg (by simp [hfi]),
            List.filter_cons_of_neg (by simp [hfi])] at hi
          exact hi
      · -- The longer list starts with a finding that the shorter one does without.
        apply List.Sublist.cons
        apply ih hl hg.2
        intro i
        have hi := hsub i
        by_cases hgi : g.offset = i
        · rw [List.filter_cons_of_pos (a := g) (by simp [hgi])] at hi
          by_cases hfi : f.offset = i
          · rw [List.filter_cons_of_pos (by simp [hfi])] at hi ⊢
            cases hi with
            | cons _ hi => exact hi
            | cons_cons => exact absurd rfl hfg
          · -- Then all of the shorter list stands behind `g`.
            have hmem : f ∈ l' := by
              rcases List.mem_cons.mp (mem_of_sublists hsub (List.mem_cons_self ..)) with h | h
              · exact absurd h hfg
              · exact h
            have hle := hg.1 f hmem
            have hnil : (f :: l).filter (·.offset == i) = [] := by
              rw [List.filter_eq_nil_iff]
              intro x hx
              have hfx : f.offset ≤ x.offset := by
                rcases List.mem_cons.mp hx with rfl | hx
                · exact Nat.le_refl _
                · exact hf.1 x hx
              simp only [beq_iff_eq]
              omega
            rw [hnil]
            exact List.nil_sublist _
        · rw [List.filter_cons_of_neg (a := g) (by simp [hgi])] at hi
          exact hi

/-- Two lists in order that agree at each offset are equal. -/
theorem eq_of_ordered {l l' : List Finding} (hl : l.Pairwise fun f g => f.offset ≤ g.offset)
    (hl' : l'.Pairwise fun f g => f.offset ≤ g.offset)
    (same : ∀ i, l.filter (·.offset == i) = l'.filter (·.offset == i)) : l = l' := by
  have hsub : l.Sublist l' := sublist_of_ordered hl hl' fun i => same i ▸ .refl _
  have hsub' : l'.Sublist l := sublist_of_ordered hl' hl fun i => same i ▸ .refl _
  exact hsub.eq_of_length_le hsub'.length_le

/-- There is one order of report. -/
theorem StableSort.unique {found sorted : List Finding} (h : StableSort found sorted) :
    sorted = sort found := by
  have hsort := stableSort_sort found
  refine eq_of_ordered h.ordered hsort.ordered ?_
  intro i
  rw [h.same, hsort.same]

/-- Some of the findings are in order if all are. -/
theorem StableSort.filter {found sorted : List Finding} (h : StableSort found sorted)
    (p : Finding → Bool) : StableSort (found.filter p) (sorted.filter p) := by
  refine ⟨h.ordered.filter p, ?_⟩
  intro i
  rw [List.filter_filter, List.filter_filter]
  simp only [Bool.and_comm (_ == i)]
  rw [← List.filter_filter, ← List.filter_filter, h.same]

/-- Leaving out findings does not change the order of the others. -/
theorem StableSort.sublist {found found' sorted sorted' : List Finding}
    (h : StableSort found sorted) (h' : StableSort found' sorted') (hsub : found.Sublist found') :
    sorted.Sublist sorted' := by
  refine sublist_of_ordered h.ordered h'.ordered ?_
  intro i
  rw [h.same, h'.same]
  exact hsub.filter _

/-- Findings that all stand before others are reported before them. -/
theorem sort_append {l l' : List Finding}
    (h : ∀ f ∈ l, ∀ g ∈ l', f.offset ≤ g.offset) : sort (l ++ l') = sort l ++ sort l' := by
  have hl := stableSort_sort l
  have hl' := stableSort_sort l'
  -- The two sorted lists in a row are an order of report, and there is only one.
  refine (StableSort.unique ⟨?_, ?_⟩).symm
  · rw [List.pairwise_append]
    refine ⟨hl.ordered, hl'.ordered, ?_⟩
    intro f hf g hg
    exact h f ((hl.mem_iff f).mp hf) g ((hl'.mem_iff g).mp hg)
  · intro i
    rw [List.filter_append, List.filter_append, hl.same, hl'.same]

/-- Findings that are moved together keep their order. -/
theorem sort_shift (distance : Nat) (l : List Finding) :
    sort (l.map (shift distance)) = (sort l).map (shift distance) := by
  refine (List.map_mergeSort ?_).symm
  intro f _ g _
  simp [shift]

end Sigil.Finding
