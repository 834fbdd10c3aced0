import Sigil.Proofs.BracketOwners
import Sigil.Proofs.References
import Sigil.Proofs.ScanComposition

/-! # Groups and frames

    Brackets are matched in two ways.  Whoever passes over an argument list counts the open
    brackets from its `[` on and knows nothing of what stands before.  A scan keeps a stack of
    frames over the whole text, passes over tokens and puts up with any `]` in excess.  The two
    agree on every `[`.

    * `splitGroup_closed`, `splitGroup_open`: the counter comes to rest behind the partner of
      its bracket, or else at the end of the text.
    * `Partners.groupSize_eq`, `UnpairedOpening.groupSize_eq`: how many bytes it has passed.
    * `groupSize_agrees_with_frames`: these are the bytes of the frame. -/

namespace Sigil

/-! ## The counter -/

/-- A group and what follows it are the whole text. -/
theorem groupSize_add_size (t : Text) : groupSize t + (splitGroup 0 t).2.size = t.size := by
  rw [groupSize, ← Text.size_append, splitGroup_append]

/-- The first bracket is the one to be closed. -/
theorem splitGroup_opening (t : Text) : (splitGroup 0 ('[' :: t)).2 = (splitGroup (0 + 1) t).2 := by
  rw [splitGroup, if_pos rfl]

/-- A closed group ends behind the partner of its bracket. -/
theorem splitGroup_closed {inside : Text} (h : Balanced inside) (after : Text) :
    (splitGroup 0 ('[' :: (inside ++ ']' :: after))).2 = after := by
  rw [splitGroup_opening, splitGroup_append_of_depth (h.depthFrom? 0)]
  rfl

/-- A group that is not closed leaves nothing. -/
theorem splitGroup_open {inside : Text} {k : Nat} (h : depthFrom? 0 inside = some k) :
    (splitGroup 0 ('[' :: inside)).2 = [] := by
  have hend := splitGroup_append_of_depth h []
  rw [List.append_nil] at hend
  rw [splitGroup_opening, hend]
  rfl

/-! ## The counter and the pairs of a text -/

/-- Started at a bracket with a partner, the counter passes both and all between them. -/
theorem Partners.groupSize_eq {t : Text} {i j : Nat} (h : Partners t i j) :
    groupSize (t.dropBytes i) = j - i + 1 := by
  obtain ⟨before, inside, after, rfl, hin, rfl, rfl⟩ := h
  have hsize := groupSize_add_size ('[' :: (inside ++ ']' :: after))
  have hbytes : Text.size ('[' :: (inside ++ ']' :: after))
      = 1 + (inside.size + (1 + after.size)) := by
    rw [Text.size_cons, Text.size_append, Text.size_cons]
    rfl
  rw [splitGroup_closed hin, hbytes] at hsize
  rw [Text.dropBytes_size_append]
  omega

/-- Started at a bracket without a partner, it passes the rest of the text. -/
theorem UnpairedOpening.groupSize_eq {t : Text} {i : Nat} (h : UnpairedOpening t i) :
    groupSize (t.dropBytes i) = t.size - i := by
  obtain ⟨before, inside, rfl, rfl, k, hk⟩ := unpairedOpening_iff.mp h
  have hsize := groupSize_add_size ('[' :: inside)
  rw [splitGroup_open hk, Text.size_nil] at hsize
  rw [Text.dropBytes_size_append, Text.size_append]
  omega

/-- **The two matchers agree.**  Counted from any `[` on, its group has the bytes from the `[`
    up to the `]` with which a scan closes the frame, or all bytes that are left if the scan
    reports the `[`.  A scan does one of the two. -/
theorem groupSize_agrees_with_frames (catalog : Catalog) (t : Text) (i : Nat)
    (h : Holds t i '[') :
    (∀ f stop, .closed f stop ∈ (brackets t).1 → f.opened = i →
        groupSize (t.dropBytes i) = stop - i + 1)
      ∧ (.unclosed i ∈ scan catalog t → groupSize (t.dropBytes i) = t.size - i)
      ∧ ((∃ f stop, .closed f stop ∈ (brackets t).1 ∧ f.opened = i)
          ↔ .unclosed i ∉ scan catalog t) := by
  refine ⟨?_, ?_, ?_⟩
  · intro f stop hclosed hopened
    have hpair := (mem_events_closed_iff.mp hclosed).1
    rw [hopened] at hpair
    exact hpair.groupSize_eq
  · intro hreported
    exact (unclosed_mem_scan_iff.mp hreported).groupSize_eq
  · rw [unclosed_mem_scan_iff]
    constructor
    · intro ⟨f, stop, hclosed, hopened⟩ hunpaired
      have hpair := (mem_events_closed_iff.mp hclosed).1
      rw [hopened] at hpair
      exact hunpaired.2 stop hpair
    · intro hpaired
      -- A bracket that is not reported has a partner, which closes its frame.
      by_contra hnone
      apply hpaired
      refine ⟨h, ?_⟩
      intro j hpair
      obtain ⟨f, hclosed, hopened⟩ := exists_closed_iff.mpr hpair
      exact hnone ⟨f, j, hclosed, hopened⟩

/-- Neither a `]` in excess before a group nor a group inside it misleads the counter, and the
    last bracket is open to the end. -/
theorem groupSize_agrees_with_frames_excess :
    (Holds "é]$a[x[1]][b".toList 5 '['
      ∧ (∃ f, .closed f 10 ∈ (brackets "é]$a[x[1]][b".toList).1 ∧ f.opened = 5)
      ∧ groupSize (Text.dropBytes 5 "é]$a[x[1]][b".toList) = 6)
    ∧ Holds "é]$a[x[1]][b".toList 11 '['
      ∧ .unclosed 11 ∈ scan .empty "é]$a[x[1]][b".toList
      ∧ groupSize (Text.dropBytes 11 "é]$a[x[1]][b".toList) = 2 := by
  constructor
  · have hpair : Partners "é]$a[x[1]][b".toList 5 10 :=
      ⟨"é]$a".toList, "x[1]".toList, "[b".toList, rfl, by decide, rfl, rfl⟩
    have hholds : Holds "é]$a[x[1]][b".toList 5 '[' :=
      ⟨"é]$a".toList, "x[1]][b".toList, rfl, rfl⟩
    obtain ⟨f, hclosed, hopened⟩ := exists_closed_iff.mpr hpair
    exact ⟨hholds, ⟨f, hclosed, hopened⟩,
      (groupSize_agrees_with_frames .empty _ 5 hholds).1 f 10 hclosed hopened⟩
  · have hopen : UnpairedOpening "é]$a[x[1]][b".toList 11 :=
      unpairedOpening_iff.mpr ⟨"é]$a[x[1]]".toList, "b".toList, rfl, rfl, 0, by decide⟩
    have hreported : .unclosed 11 ∈ scan .empty "é]$a[x[1]][b".toList :=
      unclosed_mem_scan_iff.mpr hopen
    exact ⟨hopen.1, hreported,
      (groupSize_agrees_with_frames .empty _ 11 hopen.1).2.1 hreported⟩

end Sigil
