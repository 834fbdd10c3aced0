import Sigil.Proofs.ScanFindings

/-! # Scanning a text in parts

    Where no bracket is open, a character that belongs to no token cuts a text into two
    parts that do not know of each other: each is scanned as if it stood alone, the second
    one with all its offsets moved.

    * `run_append`: reading lexemes in two runs.
    * `step_shift`, `run_shift`: reading further on in a text.
    * `scanned_cut`: the findings on a text that is cut.
    * `scan_append_closing_and_separator`: the same for the findings in order.

    Where brackets are open, the second part can add findings on the first, but it cannot
    take any back except those on the brackets that it closes.

    * `settled`: the findings that stay.
    * `scan_append_keeps_settled`: a text that grows. -/

namespace Sigil

/-! ## Reading in two runs -/

theorem Reading.run_append (r : Reading) (ls ls' : List Lexeme) :
    r.run (ls ++ ls') = ((r.run ls).1 ++ ((r.after ls).run ls').1, ((r.after ls).run ls').2) := by
  induction ls generalizing r with
  | nil => rfl
  | cons l ls ih =>
    simp only [List.cons_append, Reading.run, Reading.after, List.foldl_cons, List.append_assoc]
    rw [ih]
    rfl

/-! ## Reading further on -/

/-- The same frame `distance` bytes further on. -/
def Frame.shift (distance : Nat) (f : Frame) : Frame :=
  { f with opened := f.opened + distance }

/-- The same frames `distance` bytes further on. -/
def Frames.shift (distance : Nat) (s : Frames) : Frames :=
  ⟨s.stack.map (Frame.shift distance)⟩

/-- The same event `distance` bytes further on. -/
def Event.shift (distance : Nat) : Event → Event
  | .token offset name => .token (offset + distance) name
  | .closed frame stop => .closed (frame.shift distance) (stop + distance)
  | .unmatched offset => .unmatched (offset + distance)

/-- The same state `distance` bytes further on. -/
def Reading.shift (distance : Nat) (r : Reading) : Reading where
  offset := r.offset + distance
  owner := r.owner
  frames := r.frames.shift distance

theorem Frames.shift_append (distance : Nat) (s : Frames) (text : Text) :
    (s.shift distance).append text = (s.append text).shift distance := by
  obtain ⟨stack⟩ := s
  cases stack with
  | nil => rfl
  | cons f rest => rfl

theorem Frames.shift_pop? (distance : Nat) (s : Frames) :
    (s.shift distance).pop?
      = s.pop?.map fun (f, rest) => (f.shift distance, rest.shift distance) := by
  obtain ⟨stack⟩ := s
  cases stack with
  | nil => rfl
  | cons f rest => rfl

/-- What one lexeme does does not depend on where it stands. -/
theorem Reading.step_shift (distance : Nat) (r : Reading) (l : Lexeme) :
    (r.shift distance).step l
      = ((r.step l).1.shift distance, (r.step l).2.map (Event.shift distance)) := by
  have hoffset : r.offset + distance + l.text.size = r.offset + l.text.size + distance := by
    omega
  cases l with
  | token name =>
    simp only [Reading.step, Reading.shift, Frames.shift_append, hoffset]
    rfl
  | opening =>
    simp only [Reading.step, Reading.shift, hoffset]
    rfl
  | plain c =>
    simp only [Reading.step, Reading.shift, Frames.shift_append, hoffset]
    rfl
  | closing =>
    simp only [Reading.step, Reading.shift, Frames.shift_pop?, hoffset]
    cases r.frames.pop? with
    | none => rfl
    | some popped => rfl

/-- Nor does what a run does depend on where it starts. -/
theorem Reading.run_shift (distance : Nat) (r : Reading) (ls : List Lexeme) :
    (r.shift distance).run ls
      = ((r.run ls).1.map (Event.shift distance), (r.run ls).2.shift distance) := by
  induction ls generalizing r with
  | nil => rfl
  | cons l ls ih =>
    simp only [Reading.run]
    rw [Reading.step_shift, ih]
    cases (r.step l).2 with
    | none => rfl
    | some e => rfl

/-! ## Cutting a text where no bracket is open -/

/-- What is met when the character `c` is read at `offset` and no bracket is open. -/
def cutEvents (offset : Nat) (c : Char) : List Event :=
  if c = ']' then [.unmatched offset] else []

/-- After a separator at which no bracket is open, reading starts anew. -/
theorem step_cut {r : Reading} (hr : r.frames = .empty) {c : Char} (hc : c ≠ '[') :
    r.step (.ofChar c) = (Reading.start.shift (r.offset + c.utf8Size),
      (cutEvents r.offset c).head?) := by
  have hoffset : r.offset + Text.size [c] = 0 + (r.offset + c.utf8Size) := by
    simp
  by_cases hclosing : c = ']'
  · subst hclosing
    rw [show Lexeme.ofChar ']' = .closing from rfl]
    simp only [Reading.step, hr, Lexeme.text, hoffset]
    rfl
  · rw [show Lexeme.ofChar c = .plain c from by simp [Lexeme.ofChar, hc, hclosing]]
    simp only [Reading.step, hr, Lexeme.text, hoffset, cutEvents, if_neg hclosing]
    rfl

/-- **Events of a text that is cut.** -/
theorem brackets_cut {s t : Text} {c : Char} (hsep : isSeparator c = true) (hc : c ≠ '[')
    (hs : openFrames s = .empty) :
    brackets (s ++ c :: t) = ((brackets s).1 ++ (cutEvents s.size c
        ++ (brackets t).1.map (Event.shift (s.size + c.utf8Size))),
      (brackets t).2.shift (s.size + c.utf8Size)) := by
  -- The first part leaves the reader at its end with no frame open; the token that may
  -- stand there is forgotten at the separator.
  have htracks := tracks_start.after (isProper_of_mem_lexemes s)
  have hoffset : (Reading.start.after (lexemes s)).offset = s.size := by
    rw [htracks.offset, List.nil_append, textOf_lexemes]
  have hframes : (Reading.start.after (lexemes s)).frames = .empty := by
    rw [Reading.frames_after]
    exact hs
  have hevents : (cutEvents s.size c).head?.toList = cutEvents s.size c := by
    unfold cutEvents
    split <;> rfl
  unfold brackets
  rw [lexemes_append_separator hsep, Reading.run_append]
  simp only [Reading.run]
  rw [step_cut hframes hc, hoffset, Reading.run_shift]
  simp only [hevents]

/-! ## Findings on a text that is cut -/

/-- What is found at an event is about the text up to the event. -/
theorem eventFindings_append {catalog : Catalog} {s : Text} {e : Event}
    (he : e ∈ (brackets s).1) (t : Text) :
    eventFindings catalog (s ++ t) e = eventFindings catalog s e := by
  cases e with
  | token offset name => rfl
  | unmatched offset => rfl
  | closed frame stop =>
    have hpair := (mem_events_closed_iff.mp he).1
    simp only [eventFindings, Frame.start, hpair.slice_append t]

/-- What is found at an event does not depend on where its text starts. -/
theorem eventFindings_shift {catalog : Catalog} {t : Text} {e : Event}
    (he : e ∈ (brackets t).1) (s : Text) :
    eventFindings catalog (s ++ t) (e.shift s.size)
      = (eventFindings catalog t e).map (Finding.shift s.size) := by
  cases e with
  | token offset name =>
    simp only [eventFindings, Event.shift, deprecation?]
    split
    · split <;> rfl
    · rfl
  | unmatched offset => rfl
  | closed frame stop =>
    have hpair := (mem_events_closed_iff.mp he).1
    have hstart : (frame.shift s.size).start = frame.opened + s.size + 1 := rfl
    -- The findings on the content of a frame do not look at where it was opened.
    have hfindings : ∀ owner content, frameFindings catalog owner (frame.shift s.size) content
        = frameFindings catalog owner frame content := fun _ _ => rfl
    simp only [eventFindings, Event.shift, hstart, hpair.slice_prepend s]
    rw [show (frame.shift s.size).owner = frame.owner from rfl]
    cases frame.owner with
    | none => rfl
    | some owner =>
      simp only [hfindings, List.map_map]
      refine List.map_congr_left fun f _ => ?_
      rw [Function.comp, Finding.shift_shift, Frame.start]
      congr 1
      omega

/-- What is found when the character `c` is read at `offset` and no bracket is open. -/
def cutFindings (offset : Nat) (c : Char) : List Finding :=
  if c = ']' then [.unmatchedClosing offset] else []

theorem flatMap_cutEvents (catalog : Catalog) (t : Text) (offset : Nat) (c : Char) :
    (cutEvents offset c).flatMap (eventFindings catalog t) = cutFindings offset c := by
  unfold cutEvents cutFindings
  split <;> rfl

/-- **Findings on a text that is cut**, in the order in which they are made. -/
theorem scanned_cut (catalog : Catalog) {s t : Text} {c : Char} (hsep : isSeparator c = true)
    (hc : c ≠ '[') (hs : openFrames s = .empty) :
    scanned catalog (s ++ c :: t) = scanned catalog s ++ (cutFindings s.size c
      ++ (scanned catalog t).map (Finding.shift (s.size + c.utf8Size))) := by
  have hbrackets := brackets_cut (t := t) hsep hc hs
  have hsize : Text.size (s ++ [c]) = s.size + c.utf8Size := by
    simp
  have hleft : (brackets s).1.flatMap (eventFindings catalog (s ++ c :: t))
      = (brackets s).1.flatMap (eventFindings catalog s) := by
    rw [List.flatMap_def, List.flatMap_def]
    congr 1
    exact List.map_congr_left fun e he => eventFindings_append he (c :: t)
  have hright : ((brackets t).1.map (Event.shift (s.size + c.utf8Size))).flatMap
        (eventFindings catalog (s ++ c :: t))
      = ((brackets t).1.flatMap (eventFindings catalog t)).map
        (Finding.shift (s.size + c.utf8Size)) := by
    rw [List.flatMap_map, List.map_flatMap, List.flatMap_def, List.flatMap_def]
    congr 1
    refine List.map_congr_left fun e he => ?_
    rw [← hsize, ← eventFindings_shift he (s ++ [c]), List.append_assoc, List.singleton_append]
  have hunclosed : ((openFrames t).shift (s.size + c.utf8Size)).unclosed.map
        (fun frame => Finding.unclosed frame.opened)
      = ((openFrames t).unclosed.map fun frame => Finding.unclosed frame.opened).map
        (Finding.shift (s.size + c.utf8Size)) := by
    simp only [Frames.unclosed, Frames.shift, ← List.map_reverse, List.map_map]
    rfl
  have hopen : openFrames (s ++ c :: t) = (openFrames t).shift (s.size + c.utf8Size) := by
    rw [openFrames, hbrackets, openFrames]
  unfold scanned
  rw [hopen, hunclosed, hbrackets]
  simp only [List.flatMap_append, hleft, flatMap_cutEvents, hright, hs]
  simp [Frames.unclosed, Frames.empty]

/-! ## The order of findings -/

theorem place_lt_size {t : Text} {e : Event} (he : e ∈ (brackets t).1) : e.place < t.size := by
  obtain ⟨before, l, after, hls, hl⟩ := mem_events_iff.mp he
  have hpos := l.size_text_pos (isProper_of_mem_lexemes t l (by simp [hls]))
  have hsize : t.size = (textOf before).size + (l.text.size + (textOf after).size) := by
    rw [← textOf_lexemes t, hls]
    simp
  rw [hl.place_eq]
  omega

/-- What is found at an event concerns nothing behind it. -/
theorem offset_le_place {catalog : Catalog} {t : Text} {e : Event} {f : Finding}
    (he : e ∈ (brackets t).1) (hf : f ∈ eventFindings catalog t e) : f.offset ≤ e.place := by
  cases e with
  | token offset name =>
    simp only [eventFindings, deprecation?, Option.mem_toList] at hf
    split at hf
    · split at hf
      · cases hf
        exact Nat.le_refl _
      · cases hf
    · cases hf
  | unmatched offset =>
    rw [eventFindings, List.mem_singleton] at hf
    rw [hf]
    exact Nat.le_refl _
  | closed frame stop =>
    have hsize := (mem_events_closed_iff.mp he).1.size_slice
    simp only [eventFindings] at hf
    split at hf
    · obtain ⟨g, hg, rfl⟩ := List.mem_map.mp hf
      have hle := (mem_frameFindings hg).2
      simp only [Finding.shift, Frame.start, Event.place] at hle ⊢
      omega
    · cases hf

/-- Where no bracket is left open, all findings lie within the text. -/
theorem offset_lt_of_mem_scanned {catalog : Catalog} {t : Text} (ht : openFrames t = .empty)
    {f : Finding} (hf : f ∈ scanned catalog t) : f.offset < t.size := by
  rw [scanned, ht, show Frames.empty.unclosed = [] from rfl, List.map_nil, List.append_nil,
    List.mem_flatMap] at hf
  obtain ⟨e, he, hfe⟩ := hf
  exact Nat.lt_of_le_of_lt (offset_le_place he hfe) (place_lt_size he)

/-- A `[` is reported if it has no partner. -/
theorem unclosed_mem_scan_iff {catalog : Catalog} {t : Text} {i : Nat} :
    Finding.unclosed i ∈ scan catalog t ↔ UnpairedOpening t i := by
  have hstructural : Finding.unclosed i ∈ scan catalog t
      ↔ Finding.unclosed i ∈ structural (scan catalog t) := by
    rw [structural, List.mem_filter]
    exact ⟨fun h => ⟨h, rfl⟩, And.left⟩
  rw [hstructural, structural_scan, (Finding.stableSort_sort _).mem_iff, mem_bracketFindings_iff]
  constructor
  · intro h
    rcases h with ⟨j, -, hf⟩ | ⟨j, hj, hf⟩
    · cases congrArg Finding.problem hf
    · rw [show i = j from congrArg Finding.offset hf]
      exact hj
  · intro hi
    exact .inr ⟨i, hi, rfl⟩

/-- No bracket is left open if none is reported. -/
theorem openFrames_eq_empty {catalog : Catalog} {t : Text}
    (h : ∀ i, Finding.unclosed i ∉ scan catalog t) : openFrames t = .empty := by
  have hnone : (openFrames t).unclosed.map Frame.opened = [] := by
    rw [List.eq_nil_iff_forall_not_mem]
    intro i hi
    exact h i (unclosed_mem_scan_iff.mpr (mem_unclosed_iff.mp hi))
  rw [List.map_eq_nil_iff, Frames.unclosed, List.reverse_eq_nil_iff] at hnone
  show Frames.mk (openFrames t).stack = _
  rw [hnone]
  rfl

/-- **Cutting a scan.** -/
theorem scan_cut (catalog : Catalog) {s t : Text} {c : Char} (hsep : isSeparator c = true)
    (hc : c ≠ '[') (hs : openFrames s = .empty) :
    scan catalog (s ++ c :: t) = scan catalog s ++ (cutFindings s.size c
      ++ (scan catalog t).map (Finding.shift (s.size + c.utf8Size))) := by
  have hscan : ∀ u, scan catalog u = Finding.sort (scanned catalog u) := fun _ => rfl
  have hcut : ∀ f ∈ cutFindings s.size c, f.offset = s.size := by
    intro f hf
    unfold cutFindings at hf
    split at hf
    · rw [List.mem_singleton.mp hf]
      rfl
    · cases hf
  have hshifted : ∀ f ∈ (scanned catalog t).map (Finding.shift (s.size + c.utf8Size)),
      s.size ≤ f.offset := by
    intro f hf
    obtain ⟨g, _, rfl⟩ := List.mem_map.mp hf
    simp only [Finding.shift]
    omega
  have hsorted : Finding.sort (cutFindings s.size c) = cutFindings s.size c := by
    unfold cutFindings
    split
    · exact List.mergeSort_singleton _
    · exact List.mergeSort_nil
  -- The findings on the first part lie before the cut and those on the second behind it,
  -- so each part is sorted by itself.
  rw [hscan, hscan, hscan, scanned_cut catalog hsep hc hs, Finding.sort_append,
    Finding.sort_append, Finding.sort_shift, hsorted]
  · intro f hf g hg
    rw [hcut f hf]
    exact hshifted g hg
  · intro f hf g hg
    have hlt := offset_lt_of_mem_scanned hs hf
    rcases List.mem_append.mp hg with hg | hg
    · rw [hcut g hg]
      omega
    · exact Nat.le_trans (Nat.le_of_lt hlt) (hshifted g hg)

/-- **Cuts.**  Where a text has left no bracket open, neither an excess `]` nor a character
    that belongs to no token and is no bracket lets what stands before it and what stands
    after it disturb each other. -/
theorem scan_append_closing_and_separator (catalog : Catalog) (a b : Text)
    (h : ∀ i, Finding.unclosed i ∉ scan catalog a) :
    scan catalog (a ++ ']' :: b) = scan catalog a ++ [.unmatchedClosing a.size]
        ++ (scan catalog b).map (Finding.shift (a.size + 1))
    ∧ ∀ s : Char, isBracket s = false → isSigil s = false → isIdentifierChar s = false →
      scan catalog (a ++ s :: b)
        = scan catalog a ++ (scan catalog b).map (Finding.shift (a.size + s.utf8Size)) := by
  have ha := openFrames_eq_empty h
  constructor
  · rw [scan_cut catalog (by decide) (by decide) ha, List.append_assoc]
    rfl
  · intro s hbracket hsigil hident
    have hsep : isSeparator s = true := by
      simp [isSeparator, hsigil, hident]
    have hopening : s ≠ '[' := by
      intro hs
      rw [hs] at hbracket
      cases hbracket
    have hclosing : s ≠ ']' := by
      intro hs
      rw [hs] at hbracket
      cases hbracket
    rw [scan_cut catalog hsep hopening ha, cutFindings, if_neg hclosing, List.nil_append]

theorem scan_append_after_nested_pairs :
    (∀ i, Finding.unclosed i ∉ scan .empty "$math[a[1],[é]]".toList)
    ∧ scan .empty "$math[a[1],[é]]][$b".toList
      = scan .empty "$math[a[1],[é]]".toList ++ [.unmatchedClosing 16]
        ++ (scan .empty "[$b".toList).map (Finding.shift 17)
    ∧ scan .empty "$math[a[1],[é]]→[$b".toList
      = scan .empty "$math[a[1],[é]]".toList
        ++ (scan .empty "[$b".toList).map (Finding.shift 19) := by
  have h : ∀ i, Finding.unclosed i ∉ scan .empty "$math[a[1],[é]]".toList := by
    intro i hi
    have hbalanced : Balanced "$math[a[1],[é]]".toList := by decide
    exact (balanced_iff_no_unpaired.mp hbalanced).1 i (unclosed_mem_scan_iff.mp hi)
  obtain ⟨hclosing, hseparator⟩ := scan_append_closing_and_separator .empty _ "[$b".toList h
  exact ⟨h, hclosing, hseparator '→' (by decide) (by decide) (by decide)⟩

/-! ## A text that grows -/

/-- What has been met in a text is met first when the text goes on. -/
theorem events_append {s t : Text} (ht : ∀ c ∈ t.head?, isSeparator c = true) :
    (brackets s).1 <+: (brackets (s ++ t)).1 := by
  unfold brackets
  rw [lexemes_append ht, Reading.run_append]
  exact List.prefix_append _ _

/-- The findings that do not wait for a bracket to be closed. -/
def settled (findings : List Finding) : List Finding :=
  findings.filter fun f => f.problem ≠ .unclosedBracket

/-- What is settled is what was found at the events of the text. -/
theorem settled_scanned (catalog : Catalog) (t : Text) :
    settled (scanned catalog t) = (brackets t).1.flatMap (eventFindings catalog t) := by
  have hevents : settled ((brackets t).1.flatMap (eventFindings catalog t))
      = (brackets t).1.flatMap (eventFindings catalog t) := by
    unfold settled
    rw [List.filter_eq_self]
    intro f hf
    obtain ⟨e, -, hfe⟩ := List.mem_flatMap.mp hf
    simpa using ne_unclosedBracket_of_mem_eventFindings hfe
  have hopen : settled ((openFrames t).unclosed.map fun frame => .unclosed frame.opened) = [] := by
    unfold settled
    rw [List.filter_eq_nil_iff]
    intro f hf
    obtain ⟨frame, -, rfl⟩ := List.mem_map.mp hf
    simp [Finding.unclosed]
  have happend : ∀ l l', settled (l ++ l') = settled l ++ settled l' :=
    fun l l' => List.filter_append l l'
  rw [scanned, happend, hevents, hopen, List.append_nil]

/-- What is settled is found again, in the same order and before all else. -/
theorem settled_scanned_append (catalog : Catalog) {s t : Text}
    (ht : ∀ c ∈ t.head?, isSeparator c = true) :
    settled (scanned catalog s) <+: scanned catalog (s ++ t) := by
  obtain ⟨more, hmore⟩ := events_append (s := s) ht
  -- The events of the first part look at nothing behind it.
  have hsame : (brackets s).1.flatMap (eventFindings catalog (s ++ t))
      = (brackets s).1.flatMap (eventFindings catalog s) := by
    rw [List.flatMap_def, List.flatMap_def]
    congr 1
    exact List.map_congr_left fun e he => eventFindings_append he t
  rw [settled_scanned, scanned, ← hmore, List.flatMap_append, hsame, List.append_assoc]
  exact List.prefix_append _ _

/-- **Growth.**  When a text goes on with a character that can be no part of its last token,
    a scan still reports what it has reported, in the same order, except for brackets that
    were open. -/
theorem scan_append_keeps_settled (catalog : Catalog) (a b : Text)
    (hb : ∀ c ∈ b.head?, isSigil c = false ∧ isIdentifierChar c = false) :
    ((scan catalog a).filter fun f => f.problem ≠ .unclosedBracket).Sublist
      (scan catalog (a ++ b)) := by
  have hsep : ∀ c ∈ b.head?, isSeparator c = true := by
    intro c hc
    obtain ⟨hsigil, hident⟩ := hb c hc
    simp [isSeparator, hsigil, hident]
  have hsettled := (stableSort_scan catalog a).filter fun f => f.problem ≠ .unclosedBracket
  apply hsettled.sublist (stableSort_scan catalog (a ++ b))
  exact (settled_scanned_append catalog hsep).sublist

/-- A bracket is closed over a deprecated variable, and so there is a finding on the content,
    too, at the offset of the one on the variable. -/
theorem scan_append_keeps_settled_tie :
    (∀ c ∈ "] b".toList.head?, isSigil c = false ∧ isIdentifierChar c = false)
    ∧ [{ problem := .deprecatedVariable "$old".toList none, offset := 6, width := 4 }].Sublist
      (scan (.ofDefinitions [{ name := "$old".toList, description := [], deprecated := true }])
        ("$math[$old".toList ++ "] b".toList)) := by
  let catalog : Catalog :=
    .ofDefinitions [{ name := "$old".toList, description := [], deprecated := true }]
  have hb : ∀ c ∈ "] b".toList.head?, isSigil c = false ∧ isIdentifierChar c = false := by
    intro c hc
    have hhead : "] b".toList.head? = some ']' := rfl
    rw [hhead, Option.mem_some_iff] at hc
    subst hc
    exact ⟨by decide, by decide⟩
  have hlexemes : lexemes "$math[$old".toList
      = [.token "$math".toList, .opening, .token "$old".toList] := by
    have hmath : splitToken? "$math[$old".toList = some ("$math".toList, '[' :: "$old".toList) := by
      decide
    have hold : splitToken? "$old".toList = some ("$old".toList, []) := by decide
    rw [lexemes_of_some hmath, lexemes_of_none (by decide), lexemes_of_some hold, lexemes_nil]
    rfl
  have hsettled : (scan catalog "$math[$old".toList).filter (fun f => f.problem ≠ .unclosedBracket)
      = [{ problem := .deprecatedVariable "$old".toList none, offset := 6, width := 4 }] := by
    have hfound : settled (scanned catalog "$math[$old".toList)
        = [{ problem := .deprecatedVariable "$old".toList none, offset := 6, width := 4 }] := by
      rw [settled_scanned, brackets, hlexemes]
      decide
    rw [((stableSort_scan catalog _).filter _).unique]
    show Finding.sort (settled (scanned catalog "$math[$old".toList)) = _
    rw [hfound]
    exact List.mergeSort_singleton _
  have hsub := scan_append_keeps_settled catalog "$math[$old".toList "] b".toList hb
  rw [hsettled] at hsub
  exact ⟨hb, hsub⟩

end Sigil
