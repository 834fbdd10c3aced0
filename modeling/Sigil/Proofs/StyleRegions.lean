import Sigil.Proofs.StyleFindings

/-! # Where a markup text holds styles

    A region is open from an opening tag up to the next closing tag.  Tags may be repeated,
    nested or left open; still no opening tag is missed and no part of the text is taken twice.

    * `regionsFrom_none`, `regionsFrom_some`: outside a region the next opening tag is looked
      for, and inside of one the next closing tag.
    * `Elements`: what is to be known of regions; `elements_regionsFrom` is by induction on
      the passes.
    * `regions_are_style_elements`: the regions of a text. -/

namespace Sigil.Style

/-- What a style element starts with. -/
def openingTag : Text := "<style".toList

/-- What a style element ends with. -/
def closingTag : Text := "</style>".toList

/-- The two tags do not start alike. -/
theorem not_prefix_both {t : Text} (hopening : openingTag <+: t) (hclosing : closingTag <+: t) :
    False := by
  rcases List.prefix_or_prefix_of_prefix hopening hclosing with h | h
  · exact absurd h (by decide)
  · exact absurd h (by decide)

theorem not_partAt_both {t : Text} {i : Nat} (hopening : t.PartAt i openingTag)
    (hclosing : t.PartAt i closingTag) : False := by
  obtain ⟨before, after, rfl, rfl⟩ := hopening
  obtain ⟨before', after', hcut, hsize⟩ := hclosing
  obtain ⟨-, htags⟩ := Text.append_inj_of_size hcut hsize
  apply not_prefix_both (List.prefix_append openingTag after)
  rw [htags]
  exact List.prefix_append closingTag after'

/-! ## Passes -/

theorem regionsFrom_none_cons (offset : Nat) (c : Char) (t : Text) :
    regionsFrom none offset (c :: t) =
      if openingTag.isPrefixOf (c :: t) then regionsFrom (some offset) (offset + c.utf8Size) t
      else regionsFrom none (offset + c.utf8Size) t :=
  rfl

theorem regionsFrom_some_cons (start offset : Nat) (c : Char) (t : Text) :
    regionsFrom (some start) offset (c :: t) =
      if closingTag.isPrefixOf (c :: t) then
        ⟨start, offset⟩ :: regionsFrom none (offset + c.utf8Size) t
      else regionsFrom (some start) (offset + c.utf8Size) t :=
  rfl

theorem dropBytes_zero (t : Text) : Text.dropBytes 0 t = t :=
  Text.dropBytes_size_append [] t

theorem dropBytes_utf8Size_add (c : Char) (n : Nat) (t : Text) :
    Text.dropBytes (c.utf8Size + n) (c :: t) = Text.dropBytes n t := by
  rw [Text.dropBytes, if_pos (Nat.le_add_right _ _), Nat.add_sub_cancel_left]

/-- Outside a region. -/
theorem regionsFrom_none (offset : Nat) (t : Text) :
    regionsFrom none offset t = match Text.find? openingTag t with
      | none => []
      | some i => regionsFrom (some (offset + i)) (offset + i) (t.dropBytes i) := by
  induction t generalizing offset with
  | nil => rfl
  | cons c t ih =>
    rw [regionsFrom_none_cons, Text.find?]
    by_cases htag : openingTag.isPrefixOf (c :: t) = true
    · -- No closing tag stands here, so nothing but the opening tag is passed.
      have hclosing : ¬ closingTag.isPrefixOf (c :: t) = true := by
        rw [List.isPrefixOf_iff_prefix] at htag ⊢
        exact not_prefix_both htag
      rw [if_pos htag, if_pos htag]
      show _ = regionsFrom (some (offset + 0)) (offset + 0) (Text.dropBytes 0 (c :: t))
      rw [dropBytes_zero, Nat.add_zero, regionsFrom_some_cons, if_neg hclosing]
    · rw [if_neg htag, if_neg htag, ih]
      cases Text.find? openingTag t with
      | none => rfl
      | some i =>
        show _ = regionsFrom (some (offset + (c.utf8Size + i))) (offset + (c.utf8Size + i))
          (Text.dropBytes (c.utf8Size + i) (c :: t))
        rw [dropBytes_utf8Size_add, ← Nat.add_assoc]

/-- Inside a region. -/
theorem regionsFrom_some (start offset : Nat) (t : Text) :
    regionsFrom (some start) offset t = match Text.find? closingTag t with
      | none => [⟨start, offset + t.size⟩]
      | some j => ⟨start, offset + j⟩ ::
          regionsFrom none (offset + j + 1) (t.dropBytes (j + 1)) := by
  induction t generalizing offset with
  | nil => rfl
  | cons c t ih =>
    rw [regionsFrom_some_cons, Text.find?]
    by_cases htag : closingTag.isPrefixOf (c :: t) = true
    · have hc : c = '<' := by
        rw [List.isPrefixOf_iff_prefix] at htag
        exact (List.cons_prefix_cons.mp htag).1.symm
      rw [if_pos htag, if_pos htag, hc]
      show _ = ⟨start, offset + 0⟩ :: regionsFrom none (offset + 0 + 1)
        (Text.dropBytes ('<'.utf8Size + 0) ('<' :: t))
      rw [dropBytes_utf8Size_add, dropBytes_zero]
      rfl
    · rw [if_neg htag, if_neg htag, ih]
      cases Text.find? closingTag t with
      | none =>
        show _ = [(⟨start, offset + (c.utf8Size + Text.size t)⟩ : Region)]
        rw [← Nat.add_assoc]
      | some j =>
        show _ = ⟨start, offset + (c.utf8Size + j)⟩ ::
          regionsFrom none (offset + (c.utf8Size + j) + 1)
            (Text.dropBytes (c.utf8Size + j + 1) (c :: t))
        rw [Nat.add_assoc c.utf8Size, dropBytes_utf8Size_add, ← Nat.add_assoc offset]

/-! ## Elements -/

/-- **Element.**  The region starts with an opening tag and ends where the first closing tag
    behind it starts, or with the text if there is no such tag. -/
def IsElement (t : Text) (r : Region) : Prop :=
  t.PartAt r.start openingTag
    ∧ (IsLeast {j | r.start ≤ j ∧ t.PartAt j closingTag} r.stop
      ∨ (∀ j, r.start ≤ j → ¬ t.PartAt j closingTag) ∧ r.stop = t.size)

/-- The regions are elements, and they hold all opening tags from the offset on. -/
structure Elements (t : Text) (offset : Nat) (regions : List Region) : Prop where
  isElement : ∀ r ∈ regions, IsElement t r
  covered : ∀ i, offset ≤ i → t.PartAt i openingTag → ∃ r ∈ regions, r.start ≤ i ∧ i < r.stop

/-- An opening tag does not stand where an element ends. -/
theorem IsElement.ne_stop {t : Text} {r : Region} (h : IsElement t r) {i : Nat}
    (htag : t.PartAt i openingTag) : i ≠ r.stop := by
  intro heq
  rcases h.2 with ⟨⟨-, hclosing⟩, -⟩ | ⟨-, hstop⟩
  · rw [← heq] at hclosing
    exact not_partAt_both htag hclosing
  · have hlt := htag.lt_size (by decide)
    omega

/-- Behind the last opening tag there is nothing to cover. -/
theorem elements_nil {t : Text} {offset : Nat}
    (h : ∀ i, offset ≤ i → ¬ t.PartAt i openingTag) : Elements t offset [] := by
  refine ⟨by simp, ?_⟩
  intro i hle htag
  exact absurd htag (h i hle)

/-- An element holds the opening tags up to its end, and others those behind it. -/
theorem Elements.cons {t : Text} {r : Region} {rest : List Region} (hr : IsElement t r)
    (hrest : Elements t (r.stop + 1) rest) : Elements t r.start (r :: rest) := by
  constructor
  · intro r' hr'
    rcases List.mem_cons.mp hr' with rfl | hr'
    · exact hr
    · exact hrest.isElement r' hr'
  · intro i hle htag
    have hne := hr.ne_stop htag
    by_cases hlt : i < r.stop
    · exact ⟨r, List.mem_cons_self, hle, hlt⟩
    · obtain ⟨r', hr', hholds⟩ := hrest.covered i (by omega) htag
      exact ⟨r', List.mem_cons_of_mem r hr', hholds⟩

/-- What is not found behind a text does not stand there. -/
theorem not_partAt_behind {s t word : Text} (h : Text.find? word t = none) {i : Nat}
    (hle : s.size ≤ i) : ¬ (s ++ t).PartAt i word := by
  obtain ⟨k, rfl⟩ := Nat.exists_eq_add_of_le hle
  rw [Text.partAt_append_iff]
  exact Text.not_partAt_of_find? h k

/-- What is found behind a text stands there first. -/
theorem isLeast_behind {t word : Text} {i : Nat} (h : Text.find? word t = some i) (s : Text) :
    IsLeast {j | s.size ≤ j ∧ (s ++ t).PartAt j word} (s.size + i) := by
  obtain ⟨hfound, hfirst⟩ := Text.isLeast_of_find? h
  refine ⟨⟨Nat.le_add_right _ _, Text.partAt_append_iff.mpr hfound⟩, ?_⟩
  intro j hj
  obtain ⟨k, rfl⟩ := Nat.exists_eq_add_of_le hj.1
  have hle := hfirst (Text.partAt_append_iff.mp hj.2)
  omega

/-- A region opened behind the text `s` is an element, and the search goes on in what follows
    the first character of its closing tag. -/
theorem elements_opened {s t : Text} (htag : (s ++ t).PartAt s.size openingTag)
    (hrest : ∀ done rest, rest.length < t.length →
      Elements (done ++ rest) done.size (regionsFrom none done.size rest)) :
    Elements (s ++ t) s.size (regionsFrom (some s.size) s.size t) := by
  rw [regionsFrom_some]
  cases hclosing : Text.find? closingTag t with
  | none =>
    have helement : IsElement (s ++ t) ⟨s.size, s.size + t.size⟩ :=
      ⟨htag, .inr ⟨fun j hle => not_partAt_behind hclosing hle, (Text.size_append s t).symm⟩⟩
    refine .cons helement (elements_nil ?_)
    intro i hle hi
    have hlt := hi.lt_size (by decide)
    rw [Text.size_append] at hlt
    have hend : s.size + t.size + 1 ≤ i := hle
    omega
  | some j =>
    have helement : IsElement (s ++ t) ⟨s.size, s.size + j⟩ :=
      ⟨htag, .inl (isLeast_behind hclosing s)⟩
    refine .cons helement ?_
    -- The text up to the first character of the closing tag is done.
    obtain ⟨inside, after, ht, rfl, -⟩ := Text.find?_eq_some hclosing
    have hcut : t = (inside ++ ['<']) ++ ("/style>".toList ++ after) := by
      rw [ht, List.append_assoc]
      rfl
    have hsize : inside.size + 1 = Text.size (inside ++ ['<']) := by
      rw [Text.size_append]
      rfl
    have hshorter : ("/style>".toList ++ after).length < t.length := by
      rw [hcut]
      simp only [List.length_append, List.length_singleton]
      omega
    have hdone := hrest (s ++ (inside ++ ['<'])) ("/style>".toList ++ after) hshorter
    rw [List.append_assoc, ← hcut, Text.size_append, ← hsize, ← Nat.add_assoc] at hdone
    show Elements (s ++ t) (s.size + inside.size + 1)
      (regionsFrom none (s.size + inside.size + 1) (Text.dropBytes (inside.size + 1) t))
    rw [hsize, hcut, Text.dropBytes_size_append, ← hcut]
    exact hdone

/-- **Regions are elements**, by induction on the text that is left for each search. -/
theorem elements_regionsFrom (done t : Text) :
    Elements (done ++ t) done.size (regionsFrom none done.size t) := by
  induction hn : t.length using Nat.strong_induction_on generalizing done t with
  | _ n ih =>
    rw [regionsFrom_none]
    cases hopening : Text.find? openingTag t with
    | none => exact elements_nil fun i hle => not_partAt_behind hopening hle
    | some i =>
      obtain ⟨hfound, hfirst⟩ := isLeast_behind hopening done
      obtain ⟨before, after, ht, rfl, -⟩ := Text.find?_eq_some hopening
      have hcut : done ++ t = (done ++ before) ++ (openingTag ++ after) := by
        rw [ht, List.append_assoc]
      have hopened : Elements (done ++ t) (done.size + before.size)
          (regionsFrom (some (done.size + before.size)) (done.size + before.size)
            (openingTag ++ after)) := by
        rw [hcut, ← Text.size_append]
        apply elements_opened ⟨done ++ before, after, rfl, rfl⟩
        intro done' rest hlt
        refine ih rest.length ?_ done' rest rfl
        rw [← hn, ht, List.length_append]
        omega
      show Elements (done ++ t) done.size
        (regionsFrom (some (done.size + before.size)) (done.size + before.size)
          (Text.dropBytes before.size t))
      rw [ht, Text.dropBytes_size_append, ← ht]
      -- No opening tag stands before the one that was found.
      refine ⟨hopened.isElement, ?_⟩
      intro i hle htag
      exact hopened.covered i (hfirst ⟨hle, htag⟩) htag

/-! ## All regions of a text -/

theorem elements_regions (t : Text) : Elements t 0 (regions t) :=
  elements_regionsFrom [] t

/-- The letters of an opening tag do not start a closing tag, so an opening tag that starts in
    an element ends in it. -/
theorem IsElement.add_size_le_stop {t : Text} {r : Region} (h : IsElement t r) {i : Nat}
    (htag : t.PartAt i openingTag) (hlt : i < r.stop) : i + openingTag.size ≤ r.stop := by
  rcases h.2 with ⟨⟨-, hclosing⟩, -⟩ | ⟨-, hstop⟩
  · by_contra hover
    have hmem : '<' ∈ "style".toList :=
      htag.mem_of_overlap hclosing hlt (Nat.lt_of_not_le hover)
    exact absurd hmem (by decide)
  · rw [hstop]
    exact htag.add_size_le

/-- Both ends of an element are boundaries, and it is not empty. -/
theorem IsElement.ends {t : Text} {r : Region} (h : IsElement t r) :
    t.IsBoundary r.start ∧ t.IsBoundary r.stop ∧ r.start < r.stop ∧ r.stop ≤ t.size := by
  have hne := h.ne_stop h.1
  rcases h.2 with ⟨⟨hle, hclosing⟩, -⟩ | ⟨-, hstop⟩
  · have hlt := hclosing.lt_size (by decide)
    exact ⟨h.1.isBoundary, hclosing.isBoundary, by omega, by omega⟩
  · have hlt := h.1.lt_size (by decide)
    exact ⟨h.1.isBoundary, ⟨t, [], by simp, hstop⟩, by omega, by omega⟩

/-- The next region starts behind the end of this one, since no opening tag stands there. -/
theorem regions_disjoint (t : Text) : (regions t).Pairwise fun r r' => r.stop < r'.start := by
  refine List.Pairwise.imp_of_mem ?_ (regions_ordered t)
  intro r r' hr hr' hle
  have helements := elements_regions t
  have hne := (helements.isElement r hr).ne_stop (helements.isElement r' hr').1
  omega

/-- Only the last region goes on to the end of the text. -/
theorem getLast?_regions {t : Text} {r : Region} (hr : r ∈ regions t) (hstop : r.stop = t.size) :
    (regions t).getLast? = some r := by
  obtain ⟨before, after, hregions⟩ := List.append_of_mem hr
  cases after with
  | nil => rw [hregions, List.getLast?_concat]
  | cons r' after =>
    -- Another region would have to start behind the end of the text.
    have hdisjoint := regions_disjoint t
    rw [hregions, List.pairwise_append, List.pairwise_cons] at hdisjoint
    have hlt : r.stop < r'.start := hdisjoint.2.1.1 r' List.mem_cons_self
    have hr' : r' ∈ regions t := by
      rw [hregions]
      simp
    have hends := ((elements_regions t).isElement r' hr').ends
    omega

/-- No place lies in two regions. -/
theorem eq_of_mem_regions {t : Text} {r r' : Region} (hr : r ∈ regions t) (hr' : r' ∈ regions t)
    {i : Nat} (h : r.start ≤ i ∧ i < r.stop) (h' : r'.start ≤ i ∧ i < r'.stop) : r = r' := by
  have hdisjoint := List.pairwise_iff_getElem.mp (regions_disjoint t)
  obtain ⟨m, hm, rfl⟩ := List.getElem_of_mem hr
  obtain ⟨n, hn, rfl⟩ := List.getElem_of_mem hr'
  rcases Nat.lt_trichotomy m n with hlt | rfl | hlt
  · have hbefore := hdisjoint m n hm hn hlt
    omega
  · rfl
  · have hbefore := hdisjoint n m hn hm hlt
    omega

/-- **Style elements.**  The regions of a text lie in the text, start and end between two
    characters, and come one after the other without touching.  Each starts with an opening tag
    and ends where the first closing tag behind its start stands, or with the text if there is
    none, and then it is the last.  Every opening tag lies in one region and in no other. -/
theorem regions_are_style_elements (t : Text) :
    (∀ r ∈ regions t,
        t.IsBoundary r.start ∧ t.IsBoundary r.stop ∧ r.start < r.stop ∧ r.stop ≤ t.size)
      ∧ (regions t).Pairwise (fun r r' => r.stop < r'.start)
      ∧ (∀ r ∈ regions t, t.PartAt r.start "<style".toList
          ∧ (IsLeast {j | r.start ≤ j ∧ t.PartAt j "</style>".toList} r.stop
            ∨ (∀ j, r.start ≤ j → ¬ t.PartAt j "</style>".toList) ∧ r.stop = t.size))
      ∧ (∀ r ∈ regions t, r.stop = t.size → (regions t).getLast? = some r)
      ∧ ∀ i, t.PartAt i "<style".toList →
          ∃ r ∈ regions t, (r.start ≤ i ∧ i + 6 ≤ r.stop)
            ∧ ∀ r' ∈ regions t, r'.start ≤ i → i < r'.stop → r' = r := by
  have helements := elements_regions t
  refine ⟨?_, regions_disjoint t, helements.isElement, fun r hr => getLast?_regions hr, ?_⟩
  · intro r hr
    exact (helements.isElement r hr).ends
  · intro i htag
    obtain ⟨r, hr, hstart, hlt⟩ := helements.covered i (Nat.zero_le i) htag
    refine ⟨r, hr, ⟨hstart, (helements.isElement r hr).add_size_le_stop htag hlt⟩, ?_⟩
    intro r' hr' hstart' hlt'
    exact eq_of_mem_regions hr' hr ⟨hstart', hlt'⟩ ⟨hstart, hlt⟩

/-- An opening tag inside an element belongs to that element, and an element that is not closed
    is the last. -/
theorem regions_are_style_elements_nested :
    (Text.PartAt "é<style><style></style><style>".toList 9 "<style".toList
      ∧ ∃ r ∈ regions "é<style><style></style><style>".toList, (r.start ≤ 9 ∧ 9 + 6 ≤ r.stop)
        ∧ ∀ r' ∈ regions "é<style><style></style><style>".toList,
            r'.start ≤ 9 → 9 < r'.stop → r' = r)
    ∧ ⟨24, 31⟩ ∈ regions "é<style><style></style><style>".toList
      ∧ (regions "é<style><style></style><style>".toList).getLast? = some ⟨24, 31⟩ := by
  obtain ⟨-, -, -, hlast, hholds⟩ :=
    regions_are_style_elements "é<style><style></style><style>".toList
  have htag : Text.PartAt "é<style><style></style><style>".toList 9 "<style".toList :=
    ⟨"é<style>".toList, "></style><style>".toList, by decide +kernel, by decide +kernel⟩
  have hmem : ⟨24, 31⟩ ∈ regions "é<style><style></style><style>".toList := by
    decide +kernel
  exact ⟨⟨htag, hholds 9 htag⟩, hmem, hlast _ hmem rfl⟩

end Sigil.Style
