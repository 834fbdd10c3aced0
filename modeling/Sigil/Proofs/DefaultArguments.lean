import Sigil.Proofs.ScanFindings

/-! # Arguments and defaults

    A comma outside nested brackets divides two arguments.  It is looked for twice: in the
    text that a frame collects while the brackets are read, and in the list of arguments once
    its end is known.

    * `WithoutGroups`: a text with its bracketed groups deleted.
    * `missingDefaults_of_closed`: what is said about the default of one closed frame.
    * `closed_frame_collects_arguments`: a frame and its list of arguments agree. -/

namespace Sigil

/-! ## Deleting bracketed groups -/

/-- **Deletion.**  The second text is the first one without its bracketed groups. -/
inductive WithoutGroups : Text → Text → Prop where
  | nil : WithoutGroups [] []
  | plain {c : Char} {t s : Text} : isBracket c = false → WithoutGroups t s →
      WithoutGroups (c :: t) (c :: s)
  | group {inside t s : Text} : Balanced inside → WithoutGroups t s →
      WithoutGroups ('[' :: (inside ++ ']' :: t)) s

/-- Without its groups a balanced text is what it holds outside brackets. -/
theorem withoutGroups_iff {t s : Text} : WithoutGroups t s ↔ Balanced t ∧ s = outside 0 t := by
  constructor
  · intro h
    induction h with
    | nil => exact ⟨.nil, rfl⟩
    | plain hc _ ih =>
      refine ⟨.plain hc ih.1, ?_⟩
      rw [outside_plain hc, if_pos rfl, ← ih.2]
    | group hinside _ ih =>
      refine ⟨.pair hinside ih.1, ?_⟩
      rw [outside_group hinside, ← ih.2]
  · intro ⟨ht, hs⟩
    subst hs
    induction ht with
    | nil => exact .nil
    | plain hc _ ih =>
      rw [outside_plain hc, if_pos rfl]
      exact .plain hc ih
    | pair hinside _ _ ih =>
      rw [outside_group hinside]
      exact .group hinside ih

/-! ## Findings on a lack of a default -/

/-- Does the finding say that a default is missing? -/
def Finding.isMissingDefault (f : Finding) : Bool :=
  match f.problem with
  | .missingDefault _ => true
  | _ => false

theorem isMissingDefault_of_isInner {f : Finding} (h : f.problem.isInner = true) :
    f.isMissingDefault = false := by
  unfold Finding.isMissingDefault
  cases hp : f.problem <;> simp_all [Problem.isInner]

theorem missingDefaults_frameFindings (catalog : Catalog) (owner : Text) (frame : Frame)
    (content : Text) :
    (frameFindings catalog owner frame content).filter Finding.isMissingDefault
      = if lacksDefault catalog owner frame then
          [{ problem := .missingDefault owner, offset := 0, width := content.size }]
        else [] := by
  have hexpression : (if owner = "$math".toList then Arithmetic.checkContent content
      else []).filter Finding.isMissingDefault = [] := by
    rw [List.filter_eq_nil_iff]
    intro f hf
    split at hf
    · rw [isMissingDefault_of_isInner (Arithmetic.mem_checkContent hf).2.2]
      decide
    · cases hf
  have harguments : (Argument.check owner content).filter Finding.isMissingDefault = [] := by
    rw [List.filter_eq_nil_iff]
    intro f hf
    obtain ⟨a, -, -, -, hinner⟩ := Argument.mem_check hf
    rw [isMissingDefault_of_isInner hinner]
    decide
  rw [frameFindings, List.filter_append, List.filter_append, hexpression, harguments,
    List.nil_append, List.append_nil]
  split <;> rfl

/-- What an event has to say about a default. -/
def Event.missingDefault? (catalog : Catalog) (t : Text) : Event → Option Finding
  | .closed frame stop => frame.owner.bind fun name =>
    if lacksDefault catalog name frame then
      some { problem := .missingDefault name, offset := frame.start,
             width := (Text.slice t frame.start stop).size }
    else none
  | _ => none

theorem missingDefaults_eventFindings (catalog : Catalog) (t : Text) (e : Event) :
    (eventFindings catalog t e).filter Finding.isMissingDefault
      = (e.missingDefault? catalog t).toList := by
  cases e with
  | token offset name =>
    simp only [eventFindings, deprecation?, Event.missingDefault?]
    split
    · split <;> rfl
    · rfl
  | unmatched offset => rfl
  | closed frame stop =>
    simp only [eventFindings, Event.missingDefault?]
    cases frame.owner with
    | none => rfl
    | some name =>
      -- Moving a finding does not change what it says.
      have hshift : ∀ l : List Finding, (l.map (Finding.shift frame.start)).filter
          Finding.isMissingDefault = (l.filter Finding.isMissingDefault).map
            (Finding.shift frame.start) := fun l => List.filter_map
      simp only [hshift, missingDefaults_frameFindings, Option.bind_some]
      split
      · simp [Finding.shift]
      · rfl

/-- A scan says of the closed frames which ones lack a default. -/
theorem missingDefaults_scanned (catalog : Catalog) (t : Text) :
    (scanned catalog t).filter Finding.isMissingDefault
      = (brackets t).1.filterMap (Event.missingDefault? catalog t) := by
  have hunclosed : ((openFrames t).unclosed.map fun frame => Finding.unclosed frame.opened).filter
      Finding.isMissingDefault = [] := by
    rw [List.filter_eq_nil_iff]
    intro f hf
    obtain ⟨frame, -, rfl⟩ := List.mem_map.mp hf
    simp [Finding.isMissingDefault, Finding.unclosed]
  rw [scanned, List.filter_append, hunclosed, List.append_nil, List.filter_flatMap,
    funext (missingDefaults_eventFindings catalog t), List.filterMap_eq_flatMap_toList]

/-! ### One frame -/

/-- A balanced text does not go on after a `]` that closes nothing in it. -/
theorem Balanced.not_append_closing {s : Text} (h : Balanced s) (u : Text) :
    ¬ Balanced (s ++ ']' :: u) := by
  intro hlong
  have hnone := depthFrom?_eq_none_iff.mpr ⟨s, u, rfl, h.depthFrom? 0⟩
  rw [hlong.depthFrom? 0] at hnone
  cases hnone

/-- The `]` after a balanced text can be found in one way only. -/
theorem Balanced.eq_of_append_closing {s t u v : Text} (hs : Balanced s) (ht : Balanced t)
    (h : s ++ ']' :: u = t ++ ']' :: v) : s = t := by
  rcases List.append_eq_append_iff.mp h with ⟨m, rfl, hm⟩ | ⟨m, rfl, hm⟩
  · cases m with
    | nil => rw [List.append_nil]
    | cons c m =>
      rw [List.cons_append, List.cons.injEq] at hm
      rw [← hm.1] at ht
      exact absurd ht (hs.not_append_closing m)
  · cases m with
    | nil => rw [List.append_nil]
    | cons c m =>
      rw [List.cons_append, List.cons.injEq] at hm
      rw [← hm.1] at hs
      exact absurd hs (ht.not_append_closing m)

/-- A `[` has one partner. -/
theorem Partners.stop_unique {t : Text} {i j j' : Nat} (h : Partners t i j)
    (h' : Partners t i j') : j = j' := by
  obtain ⟨before, inside, after, ht, hin, hi, hj⟩ := h
  obtain ⟨before', inside', after', ht', hin', hi', hj'⟩ := h'
  obtain ⟨rfl, hrest⟩ := Text.append_inj_of_size (ht.symm.trans ht') (hi.symm.trans hi')
  rw [List.cons.injEq] at hrest
  have hinside := hin.eq_of_append_closing hin' hrest.2
  rw [hj, hj', hinside]

/-- Of the frames that a text closes only one was opened at a given place. -/
theorem exists_closed_cut {t : Text} {f : Frame} {stop : Nat}
    (h : .closed f stop ∈ (brackets t).1) : ∃ before after,
      (brackets t).1 = before ++ .closed f stop :: after
      ∧ ∀ g stop', .closed g stop' ∈ before ++ after → g.opened ≠ f.opened := by
  obtain ⟨before, after, hevents⟩ := List.append_of_mem h
  refine ⟨before, after, hevents, ?_⟩
  intro g stop' hg hopened
  have hmem : .closed g stop' ∈ (brackets t).1 := by
    rw [hevents]
    rcases List.mem_append.mp hg with hg | hg
    · exact List.mem_append_left _ hg
    · exact List.mem_append_right _ (List.mem_cons_of_mem _ hg)
  -- Both frames end at the partner of one bracket, but no two events have one place.
  have hpair := (mem_events_closed_iff.mp h).1
  have hpair' := (mem_events_closed_iff.mp hmem).1
  rw [hopened] at hpair'
  have hstop : stop = stop' := hpair.stop_unique hpair'
  have hordered := events_ordered t
  rw [hevents, List.pairwise_append, List.pairwise_cons] at hordered
  obtain ⟨-, ⟨hafter, -⟩, hbefore⟩ := hordered
  rcases List.mem_append.mp hg with hg | hg
  · have hlt : stop' < stop := hbefore _ hg _ List.mem_cons_self
    omega
  · have hlt : stop < stop' := hafter _ hg
    omega

theorem offset_of_missingDefault? {catalog : Catalog} {t : Text} {f : Frame} {stop : Nat}
    {g : Finding} (h : Event.missingDefault? catalog t (.closed f stop) = some g) :
    g.offset = f.start := by
  obtain ⟨name, -, hg⟩ := Option.bind_eq_some_iff.mp h
  split at hg
  · cases hg
    rfl
  · cases hg

/-- Nothing is said at `i` about a default if no frame was opened just before `i`. -/
theorem missingDefaults_elsewhere (catalog : Catalog) (t : Text) {i : Nat} {events : List Event}
    (h : ∀ g stop, .closed g stop ∈ events → g.start ≠ i) :
    (events.filterMap (Event.missingDefault? catalog t)).filter (·.offset == i) = [] := by
  rw [List.filter_eq_nil_iff]
  intro x hx
  obtain ⟨e, he, hsome⟩ := List.mem_filterMap.mp hx
  cases e with
  | token offset name => cases hsome
  | unmatched offset => cases hsome
  | closed g stop =>
    rw [offset_of_missingDefault? hsome, beq_iff_eq]
    exact h g stop he

/-- **Defaults.**  What a scan says about the default of a closed frame. -/
theorem missingDefaults_of_closed (catalog : Catalog) {t : Text} {f : Frame} {stop : Nat}
    (h : .closed f stop ∈ (brackets t).1) :
    (scan catalog t).filter (fun g => g.offset == f.start && g.isMissingDefault)
      = (Event.missingDefault? catalog t (.closed f stop)).toList := by
  obtain ⟨before, after, hevents, hother⟩ := exists_closed_cut h
  have hsort := (stableSort_scan catalog t).filter Finding.isMissingDefault
  have hstart : ∀ g stop', .closed g stop' ∈ before ++ after → g.start ≠ f.start := by
    intro g stop' hg heq
    exact hother g stop' hg (Nat.succ.inj heq)
  have hbefore : (before.filterMap (Event.missingDefault? catalog t)).filter
      (·.offset == f.start) = [] :=
    missingDefaults_elsewhere catalog t fun g stop' hg => hstart g stop' (List.mem_append_left _ hg)
  have hafter : (after.filterMap (Event.missingDefault? catalog t)).filter
      (·.offset == f.start) = [] :=
    missingDefaults_elsewhere catalog t fun g stop' hg =>
      hstart g stop' (List.mem_append_right _ hg)
  have hself : (Event.missingDefault? catalog t (.closed f stop)).toList.filter
      (·.offset == f.start) = (Event.missingDefault? catalog t (.closed f stop)).toList := by
    rw [List.filter_eq_self]
    intro g hg
    rw [offset_of_missingDefault? (Option.mem_toList.mp hg), beq_self_eq_true]
  have hcons : before ++ .closed f stop :: after = before ++ ([.closed f stop] ++ after) := rfl
  have hsingle : [Event.closed f stop].filterMap (Event.missingDefault? catalog t)
      = (Event.missingDefault? catalog t (.closed f stop)).toList := by
    cases hsome : Event.missingDefault? catalog t (.closed f stop) <;> simp [hsome]
  rw [← List.filter_filter, hsort.same, missingDefaults_scanned, hevents, hcons,
    List.filterMap_append, List.filterMap_append, List.filter_append, List.filter_append, hbefore,
    hafter, hsingle, hself, List.nil_append, List.append_nil]

/-- Nothing is said about the default of a frame with a comma in it. -/
theorem missingDefaults_of_comma (catalog : Catalog) {t : Text} {f : Frame} {stop : Nat}
    (h : .closed f stop ∈ (brackets t).1) (hcomma : ',' ∈ f.content) :
    (scan catalog t).filter (fun g => g.offset == f.start && g.isMissingDefault) = [] := by
  have hany : f.content.any (· == ',') = true := by
    simpa using hcomma
  have hlacks : ∀ owner, lacksDefault catalog owner f = false := by
    intro owner
    unfold lacksDefault
    split
    · rw [hany, Bool.not_true, Bool.and_false]
    · rfl
  rw [missingDefaults_of_closed catalog h, Event.missingDefault?]
  cases f.owner with
  | none => rfl
  | some name =>
    rw [Option.bind_some, hlacks]
    rfl

/-- **Frames and arguments.**  A frame collects the text between its brackets without the
    groups nested in it.  A comma in what it has collected divides two arguments, and if the
    variable of the frame needs a default, its lack is reported once if there is a single
    argument, and else not at all. -/
theorem closed_frame_collects_arguments (t : Text) (f : Frame) (stop : Nat)
    (h : .closed f stop ∈ (brackets t).1) :
    (∀ s, WithoutGroups (Text.slice t (f.opened + 1) stop) s ↔ s = f.content)
    ∧ (',' ∈ f.content ↔ 2 ≤ (Argument.split (Text.slice t (f.opened + 1) stop)).length)
    ∧ ∀ (catalog : Catalog) (name : Text) (definition : Definition), f.owner = some name →
        catalog.resolve name = some definition → definition.requiresDefault = true →
        (scan catalog t).filter (fun g => g.offset == f.opened + 1 && g.isMissingDefault)
          = if (Argument.split (Text.slice t (f.opened + 1) stop)).length = 1 then
              [{ problem := .missingDefault name, offset := f.opened + 1,
                 width := (Text.slice t (f.opened + 1) stop).size }]
            else [] := by
  obtain ⟨hpair, -, hcontent⟩ := mem_events_closed_iff.mp h
  have hbalanced := hpair.balanced_slice
  rw [Frame.start] at hcontent
  have hlength := length_split (Text.slice t (f.opened + 1) stop)
  rw [← hcontent] at hlength
  have hcomma : ',' ∈ f.content
      ↔ 2 ≤ (Argument.split (Text.slice t (f.opened + 1) stop)).length := by
    rw [hlength, ← List.count_pos_iff]
    omega
  refine ⟨?_, hcomma, ?_⟩
  · intro s
    rw [withoutGroups_iff, hcontent]
    exact and_iff_right hbalanced
  · intro catalog name definition howner hresolve hrequires
    have hlacks : lacksDefault catalog name f = true
        ↔ (Argument.split (Text.slice t (f.opened + 1) stop)).length = 1 := by
      have hany : f.content.any (· == ',') = true ↔ ',' ∈ f.content := by simp
      rw [lacksDefault, hresolve]
      simp only [hrequires, Bool.true_and, Bool.not_eq_true', ← Bool.not_eq_true, hany, hcomma]
      omega
    have hfindings := missingDefaults_of_closed catalog h
    rw [Frame.start] at hfindings
    rw [hfindings, Event.missingDefault?, howner, Option.bind_some]
    simp only [hlacks, Frame.start]
    split <;> rfl

/-- A comma in a nested group gives no default. -/
theorem closed_frame_collects_arguments_nested :
    .closed { owner := some "$d".toList, opened := 2, content := "$a".toList } 10
        ∈ (brackets "$d[$a[1,2]]".toList).1
    ∧ (',' ∈ "$a".toList
      ↔ 2 ≤ (Argument.split (Text.slice "$d[$a[1,2]]".toList 3 10)).length)
    ∧ (scan (.ofDefinitions [{ name := "$d".toList, description := [], requiresDefault := true }])
        "$d[$a[1,2]]".toList).filter (fun g => g.offset == 3 && g.isMissingDefault)
      = if (Argument.split (Text.slice "$d[$a[1,2]]".toList 3 10)).length = 1 then
          [{ problem := .missingDefault "$d".toList, offset := 3,
             width := (Text.slice "$d[$a[1,2]]".toList 3 10).size }]
        else [] := by
  have hclosed : .closed { owner := some "$d".toList, opened := 2, content := "$a".toList } 10
      ∈ (brackets "$d[$a[1,2]]".toList).1 := by
    have hpair : Partners "$d[$a[1,2]]".toList 2 10 :=
      ⟨"$d".toList, "$a[1,2]".toList, [], by decide, by decide, rfl, rfl⟩
    have hsplit : splitToken? "$d[$a[1,2]]".toList = some ("$d".toList, "[$a[1,2]]".toList) := by
      decide
    exact closed_of_partners hpair ⟨0, .here hsplit, rfl⟩
  obtain ⟨-, hcomma, hdefault⟩ := closed_frame_collects_arguments _ _ _ hclosed
  exact ⟨hclosed, hcomma, hdefault _ _
    { name := "$d".toList, description := [], requiresDefault := true } rfl (by decide) rfl⟩

end Sigil
