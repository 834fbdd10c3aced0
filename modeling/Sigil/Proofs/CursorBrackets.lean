import Sigil.Cursor
import Sigil.Proofs.ScanFindings
import Sigil.Proofs.TextSpans

/-! # The brackets around a cursor

    A cursor is classified by the brackets that its line has open.  They are found by a
    replay of the line that keeps no content; a scan of the line finds the same ones.

    * `Frames.outline`: frames without their content.
    * `Cursor.InStep`: how far the replay and the reader of a scan agree while both are
      under way; `InStep.token` and `InStep.char` are what one step preserves, and
      `InStep.outline_replay` what a run does.
    * `OwnedOpening`: the open brackets that belong to a variable, by the text alone.
    * `Cursor.IsLineBefore`: the line of a cursor.
    * `classify_agrees_with_scan`: what is said of a cursor. -/

namespace Sigil

/-! ## Frames without their content -/

/-- **Outline.**  Where the frames were opened and to which token each belongs, in the
    order of opening. -/
def Frames.outline (s : Frames) : List (Nat × Option Text) :=
  s.unclosed.map fun f => (f.opened, f.owner)

@[simp] theorem Frames.outline_push (s : Frames) (owner : Option Text) (opened : Nat) :
    (s.push owner opened).outline = s.outline ++ [(opened, owner)] := by
  simp [Frames.outline, Frames.unclosed, Frames.push]

@[simp] theorem Frames.outline_append (s : Frames) (text : Text) :
    (s.append text).outline = s.outline := by
  obtain ⟨stack⟩ := s
  cases stack with
  | nil => rfl
  | cons f rest => simp [Frames.outline, Frames.unclosed, Frames.append]

/-- Closing the innermost frame, if there is one. -/
@[simp] theorem Frames.outline_pop (s : Frames) :
    ((s.pop?.map Prod.snd).getD s).outline = s.outline.dropLast := by
  obtain ⟨stack⟩ := s
  cases stack with
  | nil => rfl
  | cons f rest => simp [Frames.outline, Frames.unclosed, Frames.pop?]

theorem Frames.owners_eq_outline (s : Frames) :
    s.owners = s.outline.reverse.filterMap Prod.snd := by
  simp only [Frames.owners, Frames.outline, Frames.unclosed, List.map_reverse,
    List.reverse_reverse, List.filterMap_map]
  rfl

/-- The reader closes its innermost frame at a `]`. -/
theorem Reading.step_closing (r : Reading) :
    (r.step .closing).1 =
      { offset := r.offset + 1
        owner := none
        frames := (r.frames.pop?.map Prod.snd).getD r.frames } := by
  simp only [Reading.step]
  cases r.frames.pop? with
  | none => rfl
  | some popped => rfl

/-! ## Replay and scan in step -/

namespace Cursor

/-- **In step.**  A replay that goes on with the text `t` and the reader `r` of the same
    text have seen the same brackets.  The reader remembers every token until the next
    lexeme, the replay only one before a `[`. -/
structure InStep (frames : Frames) (owner : Option Text) (offset : Nat) (t : Text)
    (r : Reading) : Prop where
  offset_eq : offset = r.offset
  owner_eq : t.head? = some '[' → owner = r.owner
  outline_eq : frames.outline = r.frames.outline

variable {frames : Frames} {owner : Option Text} {offset : Nat} {r : Reading}

theorem InStep.token {t name : Text} (h : InStep frames owner offset t r) (rest : Text) :
    InStep frames (if rest.head? = some '[' then some name else none) (offset + name.size) rest
      (r.step (.token name)).1 where
  offset_eq := by
    rw [h.offset_eq]
    rfl
  owner_eq := by
    intro hhead
    rw [if_pos hhead]
    rfl
  outline_eq := by
    rw [h.outline_eq]
    exact (r.frames.outline_append name).symm

theorem InStep.char {c : Char} {rest : Text} (h : InStep frames owner offset (c :: rest) r) :
    InStep (framesAfter frames owner offset c) none (offset + c.utf8Size) rest
      (r.step (.ofChar c)).1 := by
  by_cases hopening : c = '['
  · subst hopening
    -- Only here does it matter which token each of the two remembers.
    have howner := h.owner_eq rfl
    refine ⟨by rw [h.offset_eq]; rfl, fun _ => rfl, ?_⟩
    show (frames.push owner offset).outline = (r.frames.push r.owner r.offset).outline
    rw [Frames.outline_push, Frames.outline_push, h.outline_eq, howner, h.offset_eq]
  · by_cases hclosing : c = ']'
    · subst hclosing
      rw [show Lexeme.ofChar ']' = .closing from rfl, Reading.step_closing]
      refine ⟨by rw [h.offset_eq]; rfl, fun _ => rfl, ?_⟩
      show ((frames.pop?.map Prod.snd).getD frames).outline = _
      rw [Frames.outline_pop, Frames.outline_pop, h.outline_eq]
    · have hplain : Lexeme.ofChar c = .plain c := by
        simp [Lexeme.ofChar, hopening, hclosing]
      have hframes : framesAfter frames owner offset c = frames := by
        simp [framesAfter, hopening, hclosing]
      rw [hplain, hframes]
      refine ⟨by rw [h.offset_eq]; rfl, fun _ => rfl, ?_⟩
      rw [h.outline_eq]
      exact (r.frames.outline_append [c]).symm

/-- **Run.**  Replay and scan of a text leave the same brackets open. -/
theorem InStep.outline_replay {t : Text} (h : InStep frames owner offset t r) :
    (replay frames owner offset t).outline = (r.run (lexemes t)).2.outline := by
  fun_induction replay frames owner offset t generalizing r with
  | case1 frames owner offset t name rest hs ih =>
    rw [lexemes_of_some hs]
    exact ih (h.token rest)
  | case2 frames owner offset hs =>
    rw [lexemes_nil]
    exact h.outline_eq
  | case3 frames owner offset c rest hs ih =>
    rw [lexemes_of_none hs]
    exact ih h.char

theorem outline_openBrackets (line : Text) :
    (openBrackets line).outline = (openFrames line).outline := by
  have hstart : InStep .empty none 0 line .start := ⟨rfl, fun _ => rfl, rfl⟩
  exact hstart.outline_replay

end Cursor

/-! ## Open brackets, in terms of the text -/

/-- **Owned opening.**  The `[` at the offset `i` has no partner and follows the token
    `name`. -/
def OwnedOpening (t : Text) (i : Nat) (name : Text) : Prop :=
  UnpairedOpening t i ∧ TokenBefore t name i

/-- The owner of an open frame is the token before its bracket. -/
theorem owner_eq_some_iff {t : Text} {f : Frame} (h : f ∈ (openFrames t).unclosed)
    (name : Text) : f.owner = some name ↔ TokenBefore t name f.opened := by
  rw [Frames.unclosed, List.mem_reverse] at h
  obtain ⟨k, hk⟩ := List.mem_iff_getElem?.mp h
  obtain ⟨before, inside, hls, -, hf⟩ := (represents_openFrames t k f).mp hk
  rw [hf]
  exact (tokenBefore_iff hls).symm

theorem ownedOpening_iff {t name : Text} {i : Nat} :
    OwnedOpening t i name ↔ (i, some name) ∈ (openFrames t).outline := by
  rw [Frames.outline, List.mem_map, OwnedOpening, ← mem_unclosed_iff, List.mem_map]
  constructor
  · intro ⟨⟨f, hf, hi⟩, hbefore⟩
    subst hi
    exact ⟨f, hf, by rw [(owner_eq_some_iff hf name).mpr hbefore]⟩
  · intro ⟨f, hf, heq⟩
    rw [Prod.mk.injEq] at heq
    obtain ⟨hi, hname⟩ := heq
    have hbefore := (owner_eq_some_iff hf name).mp hname
    rw [hi] at hbefore
    exact ⟨⟨f, hf, hi⟩, hbefore⟩

/-- The frames of an outline come in the order of their brackets. -/
theorem outline_ordered (t : Text) :
    (openFrames t).outline.Pairwise fun a b => a.1 < b.1 := by
  rw [Frames.outline, List.pairwise_map]
  exact unclosed_ordered t

theorem mem_owners_iff {t name : Text} :
    name ∈ (openFrames t).owners ↔ ∃ i, OwnedOpening t i name := by
  rw [Frames.owners_eq_outline, List.mem_filterMap]
  simp only [ownedOpening_iff, List.mem_reverse]
  constructor
  · intro ⟨⟨i, owner⟩, hmem, howner⟩
    subst howner
    exact ⟨i, hmem⟩
  · intro ⟨i, hmem⟩
    exact ⟨(i, some name), hmem, rfl⟩

/-- **Innermost owner.**  The first owner is that of the last open bracket that has one. -/
theorem head?_owners_eq_some_iff {t name : Text} :
    (openFrames t).owners.head? = some name ↔ ∃ i, OwnedOpening t i name
      ∧ ∀ j other, OwnedOpening t j other → j ≤ i := by
  have hordered : (openFrames t).outline.reverse.Pairwise fun a b => b.1 < a.1 :=
    List.pairwise_reverse.mpr (outline_ordered t)
  have hmem : ∀ {i : Nat} {owner : Text}, OwnedOpening t i owner
      ↔ (i, some owner) ∈ (openFrames t).outline.reverse := by
    intro i owner
    rw [ownedOpening_iff, List.mem_reverse]
  rw [Frames.owners_eq_outline, List.head?_filterMap, List.findSome?_eq_some_iff]
  constructor
  · intro ⟨inner, ⟨i, owner⟩, outer, houtline, hname, hinner⟩
    subst hname
    refine ⟨i, hmem.mpr (by rw [houtline]; simp), ?_⟩
    intro j other hother
    -- Brackets further in have no owner, and brackets further out stand before this one.
    rw [hmem, houtline, List.mem_append, List.mem_cons] at hother
    rw [houtline, List.pairwise_append, List.pairwise_cons] at hordered
    rcases hother with hother | hother | hother
    · cases hinner _ hother
    · cases hother
      exact Nat.le_refl _
    · exact Nat.le_of_lt (hordered.2.1.1 _ hother)
  · intro ⟨i, hi, hlast⟩
    obtain ⟨inner, outer, houtline⟩ := List.append_of_mem (hmem.mp hi)
    refine ⟨inner, (i, some name), outer, houtline, rfl, ?_⟩
    intro ⟨j, owner⟩ hj
    cases owner with
    | none => rfl
    | some other =>
      -- A bracket further in with an owner would stand behind the last one.
      have hle := hlast j other (hmem.mpr (by rw [houtline]; simp [hj]))
      rw [houtline, List.pairwise_append] at hordered
      have hlt := hordered.2.2 _ hj (i, some name) (by simp)
      exact absurd hle (Nat.not_le_of_lt hlt)

/-! ## Reports of open brackets -/

/-- Where a list of findings reports a bracket that is never closed. -/
def unclosedOffsets (findings : List Finding) : List Nat :=
  (findings.filter fun f => f.problem = .unclosedBracket).map Finding.offset

/-- **Unclosed brackets.**  A scan reports the frames that are left open, in order. -/
theorem unclosedOffsets_scan (catalog : Catalog) (t : Text) :
    unclosedOffsets (scan catalog t) = (openFrames t).unclosed.map Frame.opened := by
  let isUnclosed : Finding → Bool := fun f => f.problem = .unclosedBracket
  let reports := (openFrames t).unclosed.map fun frame => Finding.unclosed frame.opened
  have hevents : ((brackets t).1.flatMap (eventFindings catalog t)).filter isUnclosed = [] := by
    rw [List.filter_eq_nil_iff]
    intro f hf
    obtain ⟨e, -, hf⟩ := List.mem_flatMap.mp hf
    simpa [isUnclosed] using ne_unclosedBracket_of_mem_eventFindings hf
  have hreports : reports.filter isUnclosed = reports := by
    rw [List.filter_eq_self]
    intro f hf
    obtain ⟨frame, -, rfl⟩ := List.mem_map.mp hf
    rfl
  have hscanned : (scanned catalog t).filter isUnclosed = reports := by
    rw [scanned, List.filter_append, hevents, hreports, List.nil_append]
  -- The reports are made in order, so sorting leaves them as they are.
  have hordered : reports.Pairwise fun f g => f.offset ≤ g.offset := by
    rw [List.pairwise_map]
    exact (unclosed_ordered t).imp Nat.le_of_lt
  have hsorted : reports = Finding.sort reports :=
    Finding.StableSort.unique ⟨hordered, fun _ => rfl⟩
  have hscan : (scan catalog t).filter isUnclosed = reports := by
    rw [((stableSort_scan catalog t).filter isUnclosed).unique, hscanned, ← hsorted]
  rw [unclosedOffsets, hscan, List.map_map]
  rfl

/-! ## The line of a cursor -/

/-- **Line of a cursor.**  The part of the text from behind the last newline up to the
    last boundary that does not lie behind the cursor. -/
def Cursor.IsLineBefore (t : Text) (cursor : Nat) (line : Text) : Prop :=
  ∃ before after : Text, t = before ++ (line ++ after)
    ∧ IsGreatest {i | t.IsBoundary i ∧ i ≤ cursor} (before.size + line.size)
    ∧ '\n' ∉ line ∧ (before = [] ∨ ∃ earlier, before = earlier ++ ['\n'])

theorem isLineBefore_iff {t line : Text} {cursor : Nat} :
    Cursor.IsLineBefore t cursor line ↔ line = Cursor.lineBefore t cursor := by
  have hgreatest := Text.isGreatest_boundary t cursor
  have hcut := Text.takeBytes_append_dropBytes cursor t
  rw [eq_comm, Cursor.lineBefore, Text.lastLine_eq_iff]
  constructor
  · intro ⟨before, after, ht, hend, hline⟩
    -- Both cuts are made at the last boundary before the cursor.
    have hsize : Text.size (before ++ line) = (Text.takeBytes cursor t).size := by
      rw [Text.size_append]
      exact Nat.le_antisymm (hgreatest.2 hend.1) (hend.2 hgreatest.1)
    have hsame : (before ++ line) ++ after
        = Text.takeBytes cursor t ++ Text.dropBytes cursor t := by
      rw [hcut, ht, List.append_assoc]
    exact ⟨before, (Text.append_inj_of_size hsame hsize).1.symm, hline⟩
  · intro ⟨before, htake, hline⟩
    refine ⟨before, Text.dropBytes cursor t, ?_, ?_, hline⟩
    · rw [← List.append_assoc, ← htake, hcut]
    · rw [← Text.size_append, ← htake]
      exact hgreatest

/-! ## Cursors -/

open Cursor in
/-- **Classification.**  A cursor is classified by its line.  The brackets that the line
    has open are those that a scan of it leaves open and reports, with the same owners; the
    parent is the owner of the last of them that has one; and nothing but the line decides
    about brackets and patterns. -/
theorem classify_agrees_with_scan (catalog : Catalog) (kind : DocumentKind) (t : Text)
    (cursor : Nat) : ∃ line, (∀ part, IsLineBefore t cursor part ↔ part = line)
      ∧ (classify kind t cursor).line = line
      ∧ (openBrackets line).outline = (brackets line).2.outline
      ∧ (openBrackets line).unclosed.map Frame.opened = unclosedOffsets (scan catalog line)
      ∧ (∀ name, (classify kind t cursor).parent = some name ↔ ∃ i, OwnedOpening line i name
          ∧ ∀ j other, OwnedOpening line j other → j ≤ i)
      ∧ (classify kind t cursor).isNested = (classify kind t cursor).parent.isSome
      ∧ ((classify kind t cursor).inMath = true ↔ ∃ i, OwnedOpening line i "$math".toList)
      ∧ ∀ kind' t' cursor', IsLineBefore t' cursor' line →
          (classify kind' t' cursor').isNested = (classify kind t cursor).isNested
          ∧ (classify kind' t' cursor').inMath = (classify kind t cursor).inMath
          ∧ (classify kind' t' cursor').parent = (classify kind t cursor).parent
          ∧ (classify kind' t' cursor').inRegexArgument
              = (classify kind t cursor).inRegexArgument := by
  have houtline := outline_openBrackets (lineBefore t cursor)
  have howners : (openBrackets (lineBefore t cursor)).owners
      = (openFrames (lineBefore t cursor)).owners := by
    rw [Frames.owners_eq_outline, houtline, ← Frames.owners_eq_outline]
  refine ⟨lineBefore t cursor, fun part => isLineBefore_iff, rfl, houtline, ?_, ?_, rfl, ?_, ?_⟩
  · have hopened : ∀ s : Frames, s.unclosed.map Frame.opened = s.outline.map Prod.fst := by
      intro s
      rw [Frames.outline, List.map_map]
      rfl
    rw [unclosedOffsets_scan, hopened, hopened, houtline]
  · intro name
    rw [← head?_owners_eq_some_iff, ← howners]
    rfl
  · rw [← mem_owners_iff, ← howners]
    exact List.contains_iff_mem
  · intro kind' t' cursor' hline
    have hsame := isLineBefore_iff.mp hline
    simp only [classify, ← hsame, and_self]

end Sigil
