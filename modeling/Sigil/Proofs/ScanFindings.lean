import Mathlib.Data.List.Basic
import Sigil.Proofs.ArgumentFindings
import Sigil.Proofs.BracketEvents
import Sigil.Proofs.FindingOrder
import Sigil.Scan

/-! # What a scan finds

    A scan is one pass with a stack of frames.  What it finds can be said without the
    pass: of each bracket, whether it has a partner; of each token, whether its variable
    is deprecated; of each pair after a token, what is wrong with the text between.

    * `structural_scan_iff_unpaired`: the findings about brackets.
    * `Discovery`: what there is to be found at an offset.
    * `scan_reports_discoveries`: all findings, and their order. -/

namespace Sigil

/-- The findings of a scan in the order in which they are made. -/
def scanned (catalog : Catalog) (t : Text) : List Finding :=
  (brackets t).1.flatMap (eventFindings catalog t)
    ++ (openFrames t).unclosed.map fun frame => .unclosed frame.opened

/-- A scan puts its findings in order. -/
theorem stableSort_scan (catalog : Catalog) (t : Text) :
    Finding.StableSort (scanned catalog t) (scan catalog t) :=
  Finding.stableSort_sort _

/-- A finding on the content of a frame is about the content, or about the lack of a
    default. -/
theorem mem_frameFindings {catalog : Catalog} {owner content : Text} {frame : Frame}
    {f : Finding} (h : f ∈ frameFindings catalog owner frame content) :
    (f.problem.isInner = true ∨ f.problem = .missingDefault owner)
      ∧ f.offset ≤ content.size := by
  rw [frameFindings, List.mem_append, List.mem_append] at h
  rcases h with (h | h) | h
  · split at h
    · obtain ⟨hoffset, _, hproblem⟩ := Arithmetic.mem_checkContent h
      exact ⟨.inl hproblem, by omega⟩
    · cases h
  · split at h
    · rw [List.mem_singleton] at h
      subst h
      exact ⟨.inr rfl, Nat.zero_le _⟩
    · cases h
  · obtain ⟨a, ha, hoffset, _, hproblem⟩ := Argument.mem_check h
    have hle := Argument.offset_le_of_mem_split ha
    exact ⟨.inl hproblem, by omega⟩

/-! ## Brackets without a partner -/

/-- The findings about the matching of brackets. -/
def structural (findings : List Finding) : List Finding :=
  findings.filter fun f => f.problem.isStructural

/-- What is wrong between brackets is not wrong with brackets. -/
theorem Problem.isStructural_of_isInner {p : Problem} {name : Text}
    (h : p.isInner = true ∨ p = .missingDefault name) : p.isStructural = false := by
  cases p <;> simp_all [Problem.isInner, Problem.isStructural]

theorem structural_append (l l' : List Finding) :
    structural (l ++ l') = structural l ++ structural l' :=
  List.filter_append l l'

/-- What an event has to do with the matching of brackets. -/
def Event.bracketFindings : Event → List Finding
  | .unmatched offset => [.unmatchedClosing offset]
  | _ => []

/-- Such a finding concerns the place of its event. -/
theorem Event.offset_of_mem_bracketFindings (e : Event) {f : Finding}
    (hf : f ∈ e.bracketFindings) : f.offset = e.place := by
  cases e with
  | unmatched j =>
    rw [Event.bracketFindings, List.mem_singleton] at hf
    rw [hf]
    rfl
  | token offset name => cases hf
  | closed frame stop => cases hf

/-- The findings about the brackets of a text, in the order in which they are made. -/
def bracketFindings (t : Text) : List Finding :=
  (brackets t).1.flatMap Event.bracketFindings
    ++ (openFrames t).unclosed.map fun frame => .unclosed frame.opened

theorem structural_eventFindings (catalog : Catalog) (t : Text) (e : Event) :
    structural (eventFindings catalog t e) = e.bracketFindings := by
  cases e with
  | token offset name =>
    simp only [eventFindings, deprecation?, Event.bracketFindings, structural]
    split
    · split
      · simp [Problem.isStructural]
      · rfl
    · rfl
  | unmatched offset => rfl
  | closed frame stop =>
    simp only [eventFindings, Event.bracketFindings]
    split
    · next owner _ =>
      unfold structural
      rw [List.filter_eq_nil_iff]
      intro f hf
      obtain ⟨g, hg, rfl⟩ := List.mem_map.mp hf
      have hinner := (mem_frameFindings hg).1
      simp [Finding.shift, Problem.isStructural_of_isInner hinner]
    · rfl

/-- No event is a bracket that is never closed. -/
theorem ne_unclosedBracket_of_mem_eventFindings {catalog : Catalog} {t : Text} {e : Event}
    {f : Finding} (hf : f ∈ eventFindings catalog t e) : f.problem ≠ .unclosedBracket := by
  intro hproblem
  have hstructural : f ∈ structural (eventFindings catalog t e) :=
    List.mem_filter.mpr ⟨hf, by rw [hproblem]; rfl⟩
  rw [structural_eventFindings] at hstructural
  cases e with
  | unmatched offset =>
    rw [Event.bracketFindings, List.mem_singleton] at hstructural
    rw [hstructural] at hproblem
    cases hproblem
  | token offset name => cases hstructural
  | closed frame stop => cases hstructural

theorem structural_scanned (catalog : Catalog) (t : Text) :
    structural (scanned catalog t) = bracketFindings t := by
  have hevents : structural ((brackets t).1.flatMap (eventFindings catalog t))
      = (brackets t).1.flatMap Event.bracketFindings := by
    rw [← funext (structural_eventFindings catalog t)]
    exact List.filter_flatMap
  have hunclosed : structural ((openFrames t).unclosed.map fun frame => .unclosed frame.opened)
      = (openFrames t).unclosed.map fun frame => .unclosed frame.opened := by
    unfold structural
    rw [List.filter_eq_self]
    intro f hf
    obtain ⟨frame, _, rfl⟩ := List.mem_map.mp hf
    rfl
  rw [scanned, structural_append, hevents, hunclosed]
  rfl

/-- The findings about brackets are known without the catalog. -/
theorem structural_scan (catalog : Catalog) (t : Text) :
    structural (scan catalog t) = Finding.sort (bracketFindings t) := by
  rw [← structural_scanned catalog t]
  exact ((stableSort_scan catalog t).filter _).unique

/-- There is one finding about each bracket without a partner. -/
theorem mem_bracketFindings_iff {t : Text} {f : Finding} :
    f ∈ bracketFindings t ↔ (∃ j, UnpairedClosing t j ∧ f = .unmatchedClosing j)
      ∨ ∃ i, UnpairedOpening t i ∧ f = .unclosed i := by
  rw [bracketFindings, List.mem_append]
  refine or_congr ?_ ?_
  · rw [List.mem_flatMap]
    constructor
    · intro ⟨e, he, hf⟩
      cases e with
      | unmatched j =>
        rw [Event.bracketFindings, List.mem_singleton] at hf
        exact ⟨j, mem_events_unmatched_iff.mp he, hf⟩
      | token offset name => cases hf
      | closed frame stop => cases hf
    · intro ⟨j, hj, hf⟩
      exact ⟨.unmatched j, mem_events_unmatched_iff.mpr hj, by simp [Event.bracketFindings, hf]⟩
  · simp only [← mem_unclosed_iff, List.mem_map]
    constructor
    · intro ⟨frame, hframe, hf⟩
      exact ⟨frame.opened, ⟨frame, hframe, rfl⟩, hf.symm⟩
    · intro ⟨i, ⟨frame, hframe, hi⟩, hf⟩
      exact ⟨frame, hframe, by rw [hi, hf]⟩

/-- Of a balanced text there is nothing to be said about brackets. -/
theorem structural_scan_of_balanced (catalog : Catalog) {t : Text} (h : Balanced t) :
    structural (scan catalog t) = [] := by
  obtain ⟨hopening, hclosing⟩ := balanced_iff_no_unpaired.mp h
  rw [structural_scan, List.eq_nil_iff_forall_not_mem]
  intro f hf
  rw [(Finding.stableSort_sort _).mem_iff, mem_bracketFindings_iff] at hf
  rcases hf with ⟨j, hj, -⟩ | ⟨i, hi, -⟩
  · exact hclosing j hj
  · exact hopening i hi

theorem nodup_bracketFindings (t : Text) : (bracketFindings t).Nodup := by
  rw [bracketFindings, List.nodup_append]
  refine ⟨?_, ?_, ?_⟩
  · rw [List.Nodup, List.pairwise_flatMap]
    constructor
    · intro e _
      cases e <;> simp [Event.bracketFindings]
    · refine (events_ordered t).imp ?_
      intro e e' hlt f hf g hg heq
      have hfe := e.offset_of_mem_bracketFindings hf
      have hge := e'.offset_of_mem_bracketFindings hg
      rw [heq] at hfe
      omega
  · rw [List.Nodup, List.pairwise_map]
    refine (unclosed_ordered t).imp ?_
    intro frame frame' hlt heq
    have hoffset : frame.opened = frame'.opened := congrArg Finding.offset heq
    omega
  · intro f hf g hg heq
    obtain ⟨e, _, hfe⟩ := List.mem_flatMap.mp hf
    obtain ⟨frame, _, rfl⟩ := List.mem_map.mp hg
    cases e with
    | unmatched j =>
      rw [Event.bracketFindings, List.mem_singleton] at hfe
      rw [hfe] at heq
      cases congrArg Finding.problem heq
    | token offset name => cases hfe
    | closed frame stop => cases hfe

/-- **Findings about brackets.**  A scan reports each `]` and each `[` without a partner
    once, and nothing else about brackets.  So it has nothing to report if the brackets of
    the text are balanced, and only then, and what it reports does not depend on the
    catalog. -/
theorem structural_scan_iff_unpaired (catalog : Catalog) (t : Text) :
    (∀ f, f ∈ structural (scan catalog t) ↔
      (∃ j, UnpairedClosing t j ∧ f = .unmatchedClosing j)
        ∨ ∃ i, UnpairedOpening t i ∧ f = .unclosed i)
    ∧ (structural (scan catalog t)).Nodup
    ∧ (structural (scan catalog t) = [] ↔ Balanced (t.filter isBracket))
    ∧ ∀ other, structural (scan other t) = structural (scan catalog t) := by
  have hsort := Finding.stableSort_sort (bracketFindings t)
  rw [structural_scan]
  have hmem : ∀ f, f ∈ Finding.sort (bracketFindings t) ↔
      (∃ j, UnpairedClosing t j ∧ f = .unmatchedClosing j)
        ∨ ∃ i, UnpairedOpening t i ∧ f = .unclosed i := by
    intro f
    rw [hsort.mem_iff, mem_bracketFindings_iff]
  refine ⟨hmem, ?_, ?_, ?_⟩
  · rw [List.nodup_iff_count]
    intro f
    rw [hsort.count_eq]
    exact List.nodup_iff_count.mp (nodup_bracketFindings t) f
  · rw [balanced_filter_iff, balanced_iff_no_unpaired, List.eq_nil_iff_forall_not_mem]
    constructor
    · intro hnone
      constructor
      · intro i hi
        exact hnone _ ((hmem _).mpr (.inr ⟨i, hi, rfl⟩))
      · intro j hj
        exact hnone _ ((hmem _).mpr (.inl ⟨j, hj, rfl⟩))
    · intro ⟨hopening, hclosing⟩ f hf
      rcases (hmem f).mp hf with ⟨j, hj, -⟩ | ⟨i, hi, -⟩
      · exact hclosing j hj
      · exact hopening i hi
  · intro other
    exact structural_scan other t

/-! ## All findings -/

/-- A comma stands outside the brackets of the text. -/
def CommaOutside (t : Text) : Prop :=
  ∃ before after : Text, t = before ++ ',' :: after ∧ Balanced before

theorem commaOutside_iff_take {t : Text} :
    CommaOutside t ↔ ∃ n, n < t.length ∧ t[n]? = some ',' ∧ Balanced (t.take n) := by
  constructor
  · intro ⟨before, after, ht, hbefore⟩
    subst ht
    exact ⟨before.length, by simp, by simp, by simpa using hbefore⟩
  · intro ⟨n, _, hn, htake⟩
    obtain ⟨hlt, hn⟩ := List.getElem?_eq_some_iff.mp hn
    refine ⟨t.take n, t.drop (n + 1), ?_, htake⟩
    rw [← hn, List.getElem_cons_drop, List.take_append_drop]

instance (t : Text) : Decidable (CommaOutside t) :=
  decidable_of_iff _ commaOutside_iff_take.symm

/-- In a balanced text the comma may be sought among the characters outside brackets. -/
theorem commaOutside_iff_outside {t : Text} (h : Balanced t) :
    CommaOutside t ↔ ',' ∈ outside 0 t := by
  rw [mem_outside_iff rfl (h.depthFrom? 0)]
  simp only [CommaOutside, balanced_iff]

/-- Must the variable be given a default? -/
def needsDefault (catalog : Catalog) (name : Text) : Bool :=
  (catalog.resolve name).any Definition.requiresDefault

/-- **Arguments.**  What is wrong with the text `raw` between the brackets of the
    variable `name`, if the text starts at the offset `start`. -/
def argumentFindings (catalog : Catalog) (name raw : Text) (start : Nat) : List Finding :=
  (if name = "$math".toList then
      (Arithmetic.checkContent raw).map fun f => { f with offset := f.offset + start } else [])
  ++ (if needsDefault catalog name = true ∧ ¬ CommaOutside raw then
      [{ problem := .missingDefault name, offset := start, width := raw.size }] else [])
  ++ (Argument.check name raw).map fun f => { f with offset := f.offset + start }

/-- **Discoveries.**  What there is to be found at an offset of a text. -/
inductive Discovery (catalog : Catalog) (t : Text) : Nat → List Finding → Prop where
  /-- A token whose variable is deprecated. -/
  | deprecated {i : Nat} {name : Text} {definition : Definition} : TokenAt t i name →
      catalog.resolve name = some definition → definition.deprecated = true →
      Discovery catalog t i
        [{ problem := .deprecatedVariable name definition.replacedBy, offset := i,
           width := name.size }]
  /-- The end of a pair that follows a token. -/
  | arguments {i j : Nat} {name : Text} : Partners t i j → TokenBefore t name i →
      Discovery catalog t j (argumentFindings catalog name (Text.slice t (i + 1) j) (i + 1))
  /-- A `]` without a partner. -/
  | unmatched {j : Nat} : UnpairedClosing t j →
      Discovery catalog t j [{ problem := .unmatchedClosingBracket, offset := j, width := 1 }]

/-- The frame that a pair closes tells whether a default is given, and what is wrong between
    the brackets is reported where it stands in the text. -/
theorem shift_frameFindings (catalog : Catalog) (name : Text) (frame : Frame) {t : Text} {j : Nat}
    (hpair : Partners t frame.opened j)
    (hcontent : frame.content = outside 0 (Text.slice t frame.start j)) :
    (frameFindings catalog name frame (Text.slice t frame.start j)).map (Finding.shift frame.start)
      = argumentFindings catalog name (Text.slice t frame.start j) frame.start := by
  have hcomma : frame.content.any (· == ',') = true
      ↔ CommaOutside (Text.slice t frame.start j) := by
    rw [Frame.start, commaOutside_iff_outside hpair.balanced_slice, hcontent, Frame.start]
    simp
  have hlacks : lacksDefault catalog name frame = true
      ↔ needsDefault catalog name = true ∧ ¬ CommaOutside (Text.slice t frame.start j) := by
    rw [← hcomma]
    unfold lacksDefault needsDefault
    cases catalog.resolve name with
    | none => simp
    | some definition => simp only [Bool.and_eq_true, Bool.not_eq_true', Option.any_some,
        Bool.not_eq_true]
  have hshift : Finding.shift frame.start
      = fun f => { f with offset := f.offset + frame.start } := rfl
  unfold frameFindings argumentFindings
  rw [List.map_append, List.map_append, apply_ite (List.map _), apply_ite (List.map _), hshift]
  simp only [hlacks, List.map_nil, List.map_cons, Nat.zero_add]

/-- The frame of a pair after a token. -/
def frameBetween (t name : Text) (i j : Nat) : Frame where
  owner := some name
  opened := i
  content := outside 0 (Text.slice t (i + 1) j)

/-- A pair after a token closes its frame. -/
theorem closed_of_partners {t name : Text} {i j : Nat} (hpair : Partners t i j)
    (htoken : TokenBefore t name i) : .closed (frameBetween t name i j) j ∈ (brackets t).1 := by
  refine mem_events_closed_iff.mpr ⟨hpair, ?_, rfl⟩
  intro other
  obtain ⟨before, inside, after, hls, -, hi, -⟩ := partners_iff.mp hpair
  rw [show (frameBetween t name i j).opened = (textOf before).size from hi]
  rw [hi] at htoken
  rw [tokenBefore_iff hls] at htoken ⊢
  rw [htoken]
  rfl

/-- What an event adds to the discoveries, with the place where it does so. -/
def discovery? (catalog : Catalog) (t : Text) : Event → Option (Nat × List Finding)
  | .token offset name => (deprecation? catalog offset name).map fun f => (offset, [f])
  | .unmatched offset => some (offset, [.unmatchedClosing offset])
  | .closed frame stop => frame.owner.map fun owner =>
    (stop, (frameFindings catalog owner frame (Text.slice t frame.start stop)).map
      (Finding.shift frame.start))

theorem place_of_discovery? {catalog : Catalog} {t : Text} {e : Event} {i : Nat}
    {findings : List Finding} (h : discovery? catalog t e = some (i, findings)) :
    i = e.place := by
  cases e with
  | token offset name =>
    obtain ⟨f, -, hf⟩ := Option.map_eq_some_iff.mp h
    cases hf
    rfl
  | unmatched offset =>
    cases h
    rfl
  | closed frame stop =>
    obtain ⟨owner, -, ho⟩ := Option.map_eq_some_iff.mp h
    cases ho
    rfl

theorem flatMap_discovery? (catalog : Catalog) (t : Text) (events : List Event) :
    (events.filterMap (discovery? catalog t)).flatMap Prod.snd
      = events.flatMap (eventFindings catalog t) := by
  have hevent : ∀ e, (discovery? catalog t e).toList.flatMap Prod.snd
      = eventFindings catalog t e := by
    intro e
    cases e with
    | token offset name =>
      simp only [discovery?, eventFindings]
      cases deprecation? catalog offset name with
      | none => rfl
      | some f => rfl
    | unmatched offset => rfl
    | closed frame stop =>
      simp only [discovery?, eventFindings]
      cases frame.owner with
      | none => rfl
      | some owner => simp
  rw [List.filterMap_eq_flatMap_toList, List.flatMap_assoc, funext hevent]

/-- The events of a text are what there is to be discovered. -/
theorem mem_discoveries_iff {catalog : Catalog} {t : Text} {place : Nat}
    {findings : List Finding} :
    (place, findings) ∈ (brackets t).1.filterMap (discovery? catalog t)
      ↔ Discovery catalog t place findings := by
  rw [List.mem_filterMap]
  constructor
  · intro ⟨e, he, hd⟩
    cases e with
    | token offset name =>
      obtain ⟨f, hf, heq⟩ := Option.map_eq_some_iff.mp hd
      cases heq
      unfold deprecation? at hf
      split at hf
      · next definition hresolve =>
        split at hf
        · next hdeprecated =>
          cases hf
          exact .deprecated (mem_events_token_iff.mp he) hresolve hdeprecated
        · cases hf
      · cases hf
    | unmatched offset =>
      cases hd
      exact .unmatched (mem_events_unmatched_iff.mp he)
    | closed frame stop =>
      obtain ⟨owner, ho, heq⟩ := Option.map_eq_some_iff.mp hd
      cases heq
      obtain ⟨hpair, howner, hcontent⟩ := mem_events_closed_iff.mp he
      rw [shift_frameFindings catalog owner frame hpair hcontent]
      exact .arguments hpair ((howner owner).mp ho)
  · intro hd
    cases hd with
    | @deprecated _ name definition htoken hresolve hdeprecated =>
      refine ⟨.token place name, mem_events_token_iff.mpr htoken, ?_⟩
      simp [discovery?, deprecation?, hresolve, hdeprecated]
    | unmatched hj => exact ⟨.unmatched place, mem_events_unmatched_iff.mpr hj, rfl⟩
    | @arguments i _ name hpair htoken =>
      refine ⟨.closed (frameBetween t name i place) place, closed_of_partners hpair htoken, ?_⟩
      have hfindings := shift_frameFindings catalog name (frameBetween t name i place) hpair rfl
      show some (place, _) = some (place, _)
      rw [hfindings]
      rfl

/-- **Findings of a scan.**  A scan reports what there is to be discovered at the offsets of
    the text, taken in increasing order, and after it each `[` without a partner; all this
    put in order of the offsets that the findings concern, with findings at one offset in
    the order of discovery. -/
theorem scan_reports_discoveries (catalog : Catalog) (t : Text) :
    ∃ (discoveries : List (Nat × List Finding)) (openings : List Nat),
      discoveries.Pairwise (fun d e => d.1 < e.1)
      ∧ (∀ i findings, (i, findings) ∈ discoveries ↔ Discovery catalog t i findings)
      ∧ openings.Pairwise (· < ·)
      ∧ (∀ i, i ∈ openings ↔ UnpairedOpening t i)
      ∧ Finding.StableSort
          (discoveries.flatMap Prod.snd
            ++ openings.map fun i => { problem := .unclosedBracket, offset := i, width := 1 })
          (scan catalog t) := by
  refine ⟨(brackets t).1.filterMap (discovery? catalog t),
    (openFrames t).unclosed.map Frame.opened, ?_, ?_, ?_, ?_, ?_⟩
  · rw [List.pairwise_filterMap]
    refine (events_ordered t).imp ?_
    intro e e' hlt d hd d' hd'
    rw [place_of_discovery? hd, place_of_discovery? hd']
    exact hlt
  · intro i findings
    exact mem_discoveries_iff
  · rw [List.pairwise_map]
    exact unclosed_ordered t
  · intro i
    exact mem_unclosed_iff
  · rw [flatMap_discovery?, List.map_map]
    exact stableSort_scan catalog t

/-- A path without its default, inside of what should be arithmetic, and a deprecated variable
    behind a bracket that is never closed. -/
def nestedText : Text := "$math[two $readFile[..]] [$old".toList

/-- What is known of the variables there. -/
def nestedCatalog : Catalog :=
  .ofDefinitions
    [{ name := "$readFile".toList, description := [], requiresDefault := true },
      { name := "$old".toList, description := [], deprecated := true,
        replacedBy := some "$new".toList }]

/-- What there is to be discovered at the two closing brackets and at the last token. -/
def nestedDiscoveries : List (Nat × List Finding) :=
  [(22, [{ problem := .missingDefault "$readFile".toList, offset := 20, width := 2 },
      { problem := .parentDirectoryPath, offset := 20, width := 2 }]),
    (23, [{ problem := .nonMathematicalContent, offset := 6, width := 17 }]),
    (26, [{ problem := .deprecatedVariable "$old".toList (some "$new".toList), offset := 26,
            width := 4 }])]

/-- The brackets of the path are closed first, but what is wrong with the arithmetic around them
    is reported before it. -/
theorem scan_reports_discoveries_nested :
    ∃ (discoveries : List (Nat × List Finding)) (openings : List Nat),
      (∀ i findings, (i, findings) ∈ discoveries ↔ (i, findings) ∈ nestedDiscoveries)
      ∧ (∀ i, i ∈ openings ↔ i = 25)
      ∧ Finding.StableSort
          (discoveries.flatMap Prod.snd
            ++ openings.map fun i => { problem := .unclosedBracket, offset := i, width := 1 })
          (scan nestedCatalog nestedText)
      ∧ scan nestedCatalog nestedText
        = [{ problem := .nonMathematicalContent, offset := 6, width := 17 },
          { problem := .missingDefault "$readFile".toList, offset := 20, width := 2 },
          { problem := .parentDirectoryPath, offset := 20, width := 2 },
          { problem := .unclosedBracket, offset := 25, width := 1 },
          { problem := .deprecatedVariable "$old".toList (some "$new".toList), offset := 26,
            width := 4 }] := by
  have hfound : (brackets nestedText).1.filterMap (discovery? nestedCatalog nestedText)
      = nestedDiscoveries := by decide +kernel
  have hunclosed : (openFrames nestedText).unclosed.map Frame.opened = [25] := by decide +kernel
  obtain ⟨discoveries, openings, -, hdiscoveries, -, hopenings, hsort⟩ :=
    scan_reports_discoveries nestedCatalog nestedText
  refine ⟨discoveries, openings, ?_, ?_, hsort, ?_⟩
  · intro i findings
    rw [hdiscoveries, ← mem_discoveries_iff, hfound]
  · intro i
    rw [hopenings, ← mem_unclosed_iff, hunclosed, List.mem_singleton]
  · have hscan : scan nestedCatalog nestedText = Finding.sort
        ((brackets nestedText).1.flatMap (eventFindings nestedCatalog nestedText)
          ++ ((openFrames nestedText).unclosed.map Frame.opened).map .unclosed) := by
      rw [List.map_map]
      rfl
    rw [hscan, ← flatMap_discovery?, hfound, hunclosed]
    simp [nestedDiscoveries, Finding.sort, Finding.unclosed, List.mergeSort,
      List.MergeSort.Internal.splitInTwo]

end Sigil
