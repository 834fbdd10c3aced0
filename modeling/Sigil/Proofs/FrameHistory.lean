import Mathlib.Data.List.Infix
import Sigil.Proofs.BracketEvents

/-! # The history of the frames

    Frames are pushed, given text and popped.  Which of them are open after any number of such
    operations, and what they hold, is decided by following each frame for itself.

    * `Frames.Operation`, `Frames.perform`, `Frames.after`: a history of operations, one at a time
      and from no frame on.
    * `Frames.above?`: how many frames lie above a frame, until it is popped.
    * `Frames.ownTexts`: the texts appended while a frame is innermost.
    * `Frames.stillOpen`: the frames whose push has not been answered by a pop.
    * `Frames.remaining_perform`, `Frames.stack_foldl_perform`: what one operation does to the
      frames that are open, and what a run does.
    * `Frames.frames_follow_operations`: all that can be seen of the frames.
    * `Levels`, `Levels.Refines`: the frames above a root that holds the text outside all
      brackets; `Levels.after_agrees` says that the root is never seen. -/

namespace Sigil

theorem Frame.add_append (f : Frame) (s t : Text) : f.add (s ++ t) = (f.add s).add t := by
  unfold Frame.add
  rw [List.append_assoc]

namespace Frames

/-! ## Operations -/

/-- What is done to the frames. -/
inductive Operation where
  | push (owner : Option Text) (opened : Nat)
  | append (text : Text)
  | pop
deriving DecidableEq, Repr

namespace Operation

/-- The text that is appended. -/
def text? : Operation → Option Text
  | append text => some text
  | _ => none

def isPush : Operation → Bool
  | push _ _ => true
  | _ => false

end Operation

/-- **Step.**  The frames after one operation.  A pop that finds no frame leaves them as they
    are. -/
def perform (s : Frames) : Operation → Frames
  | .push owner opened => s.push owner opened
  | .append text => s.append text
  | .pop => (s.pop?.map Prod.snd).getD s

/-- **Run.**  The frames after a history of operations. -/
def after (ops : List Operation) : Frames :=
  ops.foldl perform empty

theorem after_concat (ops : List Operation) (op : Operation) :
    after (ops ++ [op]) = (after ops).perform op := by
  unfold after
  rw [List.foldl_append]
  rfl

/-- Each operation of a history, with those before it. -/
def steps (ops : List Operation) : List (List Operation × Operation) :=
  ops.inits.zip ops

theorem steps_cons (op : Operation) (ops : List Operation) :
    steps (op :: ops) = ([], op) :: (steps ops).map fun step => (op :: step.1, step.2) := by
  unfold steps
  rw [List.inits_cons, List.zip_cons_cons, List.zip_map_left]
  rfl

theorem steps_concat (ops : List Operation) (op : Operation) :
    steps (ops ++ [op]) = steps ops ++ [(ops, op)] := by
  induction ops with
  | nil => rfl
  | cons first ops ih =>
    rw [List.cons_append, steps_cons, ih, steps_cons, List.map_append, List.cons_append]
    rfl

/-- What the pops of a history return. -/
def returned (ops : List Operation) : List (Option Frame) :=
  (steps ops).filterMap fun step =>
    if step.2 = .pop then some ((after step.1).pop?.map Prod.fst) else none

theorem returned_concat (ops : List Operation) (op : Operation) :
    returned (ops ++ [op]) = returned ops
      ++ if op = .pop then [(after ops).pop?.map Prod.fst] else [] := by
  unfold returned
  rw [steps_concat, List.filterMap_append]
  by_cases hop : op = .pop
  · simp [hop]
  · simp [hop]

/-! ## One frame by itself -/

/-- The number of frames above a frame that has `above` of them at first; nothing once the frame
    itself has been popped. -/
def above? : Nat → List Operation → Option Nat
  | above, [] => some above
  | above, .push _ _ :: ops => above? (above + 1) ops
  | above, .append _ :: ops => above? above ops
  | 0, .pop :: _ => none
  | above + 1, .pop :: ops => above? above ops

/-- The texts appended while a frame is innermost that has `above` frames above it at first. -/
def ownTexts (above : Nat) (ops : List Operation) : List Text :=
  (steps ops).filterMap fun step => if above? above step.1 = some 0 then step.2.text? else none

theorem ownTexts_cons (above : Nat) (op : Operation) (ops : List Operation) :
    ownTexts above (op :: ops) = (if above = 0 then op.text? else none).toList
      ++ (steps ops).filterMap fun step =>
        if above? above (op :: step.1) = some 0 then step.2.text? else none := by
  unfold ownTexts
  rw [steps_cons, List.filterMap_cons, List.filterMap_map]
  simp only [above?, Option.some.injEq]
  cases hfirst : (if above = 0 then op.text? else none) <;> rfl

theorem ownTexts_push (above : Nat) (owner : Option Text) (opened : Nat) (ops : List Operation) :
    ownTexts above (.push owner opened :: ops) = ownTexts (above + 1) ops := by
  have hno : (if above = 0 then (Operation.push owner opened).text? else none) = none := ite_self _
  rw [ownTexts_cons, hno]
  rfl

theorem ownTexts_append_innermost (text : Text) (ops : List Operation) :
    ownTexts 0 (.append text :: ops) = text :: ownTexts 0 ops := by
  rw [ownTexts_cons]
  rfl

theorem ownTexts_append_below (above : Nat) (text : Text) (ops : List Operation) :
    ownTexts (above + 1) (.append text :: ops) = ownTexts (above + 1) ops := by
  rw [ownTexts_cons]
  rfl

theorem ownTexts_pop_below (above : Nat) (ops : List Operation) :
    ownTexts (above + 1) (.pop :: ops) = ownTexts above ops := by
  rw [ownTexts_cons]
  rfl

/-- What the frame `f`, with `above` frames above it, has become after the operations. -/
def later? (above : Nat) (f : Frame) (ops : List Operation) : Option Frame :=
  if (above? above ops).isSome then some (f.add (ownTexts above ops).flatten) else none

theorem later?_push (above : Nat) (f : Frame) (owner : Option Text) (opened : Nat)
    (ops : List Operation) :
    later? above f (.push owner opened :: ops) = later? (above + 1) f ops := by
  unfold later?
  rw [ownTexts_push]
  rfl

theorem later?_append_innermost (f : Frame) (text : Text) (ops : List Operation) :
    later? 0 f (.append text :: ops) = later? 0 (f.add text) ops := by
  unfold later?
  rw [ownTexts_append_innermost, List.flatten_cons, Frame.add_append]
  rfl

theorem later?_append_below (above : Nat) (f : Frame) (text : Text) (ops : List Operation) :
    later? (above + 1) f (.append text :: ops) = later? (above + 1) f ops := by
  unfold later?
  rw [ownTexts_append_below]
  rfl

theorem later?_pop_below (above : Nat) (f : Frame) (ops : List Operation) :
    later? (above + 1) f (.pop :: ops) = later? above f ops := by
  unfold later?
  rw [ownTexts_pop_below]
  rfl

/-- The frame that the first of the operations pushes, unless one of the others pops it. -/
def pushed? : List Operation → Option Frame
  | .push owner opened :: since =>
    if (above? 0 since).isSome then
      some { owner, opened, content := (ownTexts 0 since).flatten }
    else none
  | _ => none

theorem pushed?_eq_some_iff {ops : List Operation} {f : Frame} :
    pushed? ops = some f ↔ ∃ since, ops = .push f.owner f.opened :: since
      ∧ (above? 0 since).isSome = true ∧ f.content = (ownTexts 0 since).flatten := by
  constructor
  · intro h
    unfold pushed? at h
    split at h
    · split at h
      · rename_i owner opened since hopen
        cases h
        exact ⟨since, rfl, hopen, rfl⟩
      · cases h
    · cases h
  · intro h
    obtain ⟨since, hops, hopen, hcontent⟩ := h
    rw [hops, pushed?, if_pos hopen, ← hcontent]

/-- The frames pushed and not popped, in the order in which they were pushed. -/
def stillOpen (ops : List Operation) : List Frame :=
  ops.tails.filterMap pushed?

theorem stillOpen_cons (op : Operation) (ops : List Operation) :
    stillOpen (op :: ops) = (pushed? (op :: ops)).toList ++ stillOpen ops := by
  unfold stillOpen
  rw [List.tails_cons, List.filterMap_cons]
  cases pushed? (op :: ops) <;> rfl

/-! ## All frames together -/

/-- What the operations leave of the frames `fs`, the first of which has `above` frames above
    it. -/
def remaining (above : Nat) (fs : List Frame) (ops : List Operation) : List Frame :=
  (fs.zipIdx above).filterMap fun e => later? e.2 e.1 ops

theorem remaining_cons (above : Nat) (f : Frame) (fs : List Frame) (ops : List Operation) :
    remaining above (f :: fs) ops
      = (later? above f ops).toList ++ remaining (above + 1) fs ops := by
  unfold remaining
  rw [List.zipIdx_cons, List.filterMap_cons]
  cases later? above f ops <;> rfl

/-- Without operations all frames remain. -/
theorem remaining_nil (above : Nat) (fs : List Frame) : remaining above fs [] = fs := by
  induction fs generalizing above with
  | nil => rfl
  | cons f fs ih =>
    have hlater : later? above f [] = some (f.add []) := rfl
    rw [remaining_cons, hlater, Frame.add_nil, ih]
    rfl

theorem remaining_succ (above : Nat) (fs : List Frame) (ops : List Operation) :
    remaining (above + 1) fs ops
      = (fs.zipIdx above).filterMap fun e => later? (e.2 + 1) e.1 ops := by
  unfold remaining
  rw [List.zipIdx_succ, List.filterMap_map]
  rfl

theorem remaining_push (above : Nat) (fs : List Frame) (owner : Option Text) (opened : Nat)
    (ops : List Operation) :
    remaining above fs (.push owner opened :: ops) = remaining (above + 1) fs ops := by
  rw [remaining_succ, remaining]
  simp only [later?_push]

theorem remaining_append_below (above : Nat) (fs : List Frame) (text : Text)
    (ops : List Operation) :
    remaining (above + 1) fs (.append text :: ops) = remaining (above + 1) fs ops := by
  rw [remaining_succ, remaining_succ]
  simp only [later?_append_below]

theorem remaining_pop_below (above : Nat) (fs : List Frame) (ops : List Operation) :
    remaining (above + 1) fs (.pop :: ops) = remaining above fs ops := by
  rw [remaining_succ, remaining]
  simp only [later?_pop_below]

/-- **One operation.**  Following the frames from after the operation is following them from
    before it, and the frame that the operation pushes beside them. -/
theorem remaining_perform (s : Frames) (op : Operation) (ops : List Operation) :
    remaining 0 (s.perform op).stack ops
      = (pushed? (op :: ops)).toList ++ remaining 0 s.stack (op :: ops) := by
  obtain ⟨fs⟩ := s
  cases op with
  | push owner opened =>
    show remaining 0 ({ owner, opened, content := [] } :: fs) ops = _
    rw [remaining_cons, remaining_push]
    rfl
  | append text =>
    cases fs with
    | nil => rfl
    | cons f fs =>
      show remaining 0 (f.add text :: fs) ops = remaining 0 (f :: fs) (.append text :: ops)
      rw [remaining_cons, remaining_cons, later?_append_innermost, remaining_append_below]
  | pop =>
    cases fs with
    | nil => rfl
    | cons f fs =>
      show remaining 0 fs ops = remaining 0 (f :: fs) (.pop :: ops)
      rw [remaining_cons, remaining_pop_below]
      rfl

/-- **A run.**  The frames are what is left of those at first, and above them the frames that
    the operations have pushed and not popped. -/
theorem stack_foldl_perform (s : Frames) (ops : List Operation) :
    (ops.foldl perform s).stack = (stillOpen ops).reverse ++ remaining 0 s.stack ops := by
  -- The history is taken from its front: a frame that the first operation pushes is one of those
  -- that the others find open.
  induction ops generalizing s with
  | nil =>
    show s.stack = remaining 0 s.stack []
    rw [remaining_nil]
  | cons op ops ih =>
    rw [List.foldl_cons, ih, remaining_perform, stillOpen_cons, List.reverse_append,
      List.append_assoc]
    cases pushed? (op :: ops) <;> rfl

theorem stack_after (ops : List Operation) : (after ops).stack = (stillOpen ops).reverse := by
  unfold after
  rw [stack_foldl_perform]
  exact List.append_nil _

theorem depth_after (ops : List Operation) : (after ops).depth = (stillOpen ops).length := by
  rw [depth, stack_after, List.length_reverse]

theorem unclosed_after (ops : List Operation) : (after ops).unclosed = stillOpen ops := by
  rw [unclosed, stack_after, List.reverse_reverse]

theorem pop?_eq_none_iff (s : Frames) : s.pop? = none ↔ s.depth = 0 := by
  obtain ⟨fs⟩ := s
  cases fs <;> simp [pop?, depth]

/-- A pop takes the frame that was pushed last. -/
theorem pop?_after (ops : List Operation) :
    (after ops).pop?.map Prod.fst = (stillOpen ops).getLast? := by
  rw [← List.head?_reverse, ← stack_after]
  unfold pop?
  cases (after ops).stack <;> rfl

/-- The frame pushed last comes from a push after which every other one has been popped. -/
theorem exists_push_of_getLast? {ops : List Operation} {f : Frame}
    (h : (stillOpen ops).getLast? = some f) :
    ∃ before since, ops = before ++ .push f.owner f.opened :: since ∧ (above? 0 since).isSome = true
      ∧ stillOpen since = [] ∧ f.content = (ownTexts 0 since).flatten := by
  induction ops with
  | nil => cases h
  | cons op ops ih =>
    rw [stillOpen_cons] at h
    -- The first push counts only if no later one is left open.
    by_cases hlater : stillOpen ops = []
    · rw [hlater, List.append_nil] at h
      have hpushed : pushed? (op :: ops) = some f := by
        cases hfirst : pushed? (op :: ops) with
        | none => simp [hfirst] at h
        | some g => simpa [hfirst] using h
      obtain ⟨since, hops, hopen, hcontent⟩ := pushed?_eq_some_iff.mp hpushed
      cases hops
      exact ⟨[], ops, rfl, hopen, hlater, hcontent⟩
    · rw [List.getLast?_append_of_ne_nil _ hlater] at h
      obtain ⟨before, since, hops, hsince⟩ := ih h
      exact ⟨op :: before, since, by rw [hops, List.cons_append], hsince⟩

/-- Every frame that is open has been pushed. -/
theorem push_mem_of_mem_stillOpen {ops : List Operation} {f : Frame} (h : f ∈ stillOpen ops) :
    .push f.owner f.opened ∈ ops := by
  obtain ⟨last, hlast, hpushed⟩ := List.mem_filterMap.mp h
  obtain ⟨since, rfl, -⟩ := pushed?_eq_some_iff.mp hpushed
  exact ((List.mem_tails _ _).mp hlast).mem List.mem_cons_self

theorem depth_append (s : Frames) (text : Text) : (s.append text).depth = s.depth := by
  obtain ⟨fs⟩ := s
  cases fs <;> rfl

/-- **Pushes and pops.**  Every pop that returns a frame makes up for one push. -/
theorem depth_add_returned (ops : List Operation) :
    (after ops).depth + (returned ops).countP Option.isSome = ops.countP Operation.isPush := by
  induction ops using List.reverseRecOn with
  | nil => rfl
  | append_singleton ops op ih =>
    rw [after_concat, returned_concat, List.countP_append, List.countP_append, ← ih]
    cases op with
    | push owner opened =>
      show (after ops).depth + 1 + (_ + 0) = (after ops).depth + _ + 1
      omega
    | append text =>
      rw [perform, depth_append]
      rfl
    | pop =>
      obtain ⟨fs⟩ := after ops
      cases fs with
      | nil => rfl
      | cons f fs =>
        show fs.length + (_ + 1) = fs.length + 1 + _ + 0
        omega

/-- **Frames of a history.**  After any operations the depth is the number of pushes that no pop
    has answered.  A pop returns nothing exactly if there is none of these, and then changes
    nothing; else it returns the frame of the last of them, with its own owner and offset, and
    with the texts that were appended while it was innermost.  The owners are those of the open
    frames from the innermost on, and the unclosed frames are in the order of their pushes; each
    of them has been pushed. -/
theorem frames_follow_operations (ops : List Operation) :
    ((after ops).depth = (stillOpen ops).length
      ∧ (after ops).depth + (returned ops).countP Option.isSome = ops.countP Operation.isPush)
    ∧ ((after ops).pop? = none ↔ (after ops).depth = 0)
    ∧ ((after ops).pop? = none → after (ops ++ [.pop]) = after ops)
    ∧ (∀ f rest, (after ops).pop? = some (f, rest) →
        after (ops ++ [.pop]) = rest ∧ f.start = f.opened + 1
        ∧ ∃ before since, ops = before ++ .push f.owner f.opened :: since
          ∧ (above? 0 since).isSome = true ∧ stillOpen since = []
          ∧ f.content = (ownTexts 0 since).flatten)
    ∧ (after ops).owners = (stillOpen ops).reverse.filterMap Frame.owner
    ∧ (after ops).unclosed = stillOpen ops
    ∧ (∀ name ∈ (after ops).owners, ∃ opened, .push (some name) opened ∈ ops)
    ∧ ∀ f ∈ (after ops).unclosed, .push f.owner f.opened ∈ ops := by
  have howners : (after ops).owners = (stillOpen ops).reverse.filterMap Frame.owner := by
    rw [owners, stack_after]
  refine ⟨⟨depth_after ops, depth_add_returned ops⟩, pop?_eq_none_iff _, ?_, ?_, howners,
    unclosed_after ops, ?_, ?_⟩
  · intro hnone
    rw [after_concat, perform, hnone]
    rfl
  · intro f rest hsome
    have hlast : (stillOpen ops).getLast? = some f := by rw [← pop?_after, hsome]; rfl
    refine ⟨?_, rfl, exists_push_of_getLast? hlast⟩
    rw [after_concat, perform, hsome]
    rfl
  · intro name hname
    rw [howners] at hname
    obtain ⟨f, hf, howner⟩ := List.mem_filterMap.mp hname
    have hpush := push_mem_of_mem_stillOpen (List.mem_reverse.mp hf)
    rw [howner] at hpush
    exact ⟨f.opened, hpush⟩
  · intro f hf
    rw [unclosed_after] at hf
    exact push_mem_of_mem_stillOpen hf

/-- A pop and a text without a frame, then a text on either side of a nested frame. -/
theorem frames_follow_operations_interleaved :
    let ops : List Operation := [.pop, .append "a".toList, .push (some "$math".toList) 5,
      .append "2 + ".toList, .push none 10, .append "x".toList, .pop, .append "2".toList]
    (after (ops.take 2)).pop? = none ∧ (after (ops.take 3)).depth = 1
      ∧ ∃ f rest, (after ops).pop? = some (f, rest) ∧ f.owner = some "$math".toList
        ∧ f.start = 6 ∧ f.content = "2 + 2".toList ∧ rest.unclosed = [] := by
  intro ops
  have hdepth := (frames_follow_operations (ops.take 3)).1.1
  have hnone := (frames_follow_operations (ops.take 2)).2.1.mpr rfl
  refine ⟨hnone, hdepth, _, _, rfl, rfl, ?_, rfl, rfl⟩
  exact ((frames_follow_operations ops).2.2.2.1 _ _ rfl).2.1

end Frames

/-! ## Frames above a root -/

/-- A level of nesting that keeps where its text starts. -/
structure Level where
  owner : Option Text
  opened : Nat
  start : Nat
  content : Text
deriving DecidableEq, Repr

def Frame.level (f : Frame) : Level :=
  { owner := f.owner, opened := f.opened, start := f.start, content := f.content }

/-- The levels of nesting, outermost first.  The first one is the root: it holds the text outside
    all brackets, and is never popped. -/
structure Levels where
  stack : List Level
deriving DecidableEq, Repr

namespace Levels

/-- The root, with the text outside all brackets. -/
def root (text : Text) : Level := { owner := none, opened := 0, start := 0, content := text }

def initial : Levels := ⟨[root []]⟩

/-- Number of levels above the root. -/
def depth (s : Levels) : Nat :=
  s.stack.length - 1

def push (s : Levels) (owner : Option Text) (opened : Nat) : Levels :=
  ⟨s.stack ++ [{ owner, opened, start := opened + 1, content := [] }]⟩

/-- The innermost level, unless it is the root. -/
def pop? (s : Levels) : Option (Level × Levels) :=
  if s.depth = 0 then none
  else s.stack.getLast?.map fun level => (level, ⟨s.stack.dropLast⟩)

/-- Text is always added to some level, perhaps to the root. -/
def append (s : Levels) (text : Text) : Levels :=
  match s.stack.getLast? with
  | some level => ⟨s.stack.dropLast ++ [{ level with content := level.content ++ text }]⟩
  | none => s

def owners (s : Levels) : List Text :=
  s.stack.reverse.filterMap Level.owner

/-- All levels but the root. -/
def unclosed (s : Levels) : List Level :=
  s.stack.tail

def perform (s : Levels) : Frames.Operation → Levels
  | .push owner opened => s.push owner opened
  | .append text => s.append text
  | .pop => (s.pop?.map Prod.snd).getD s

def after (ops : List Frames.Operation) : Levels :=
  ops.foldl perform initial

/-- **Refinement.**  The levels are a root, and above it the frames. -/
def Refines (s : Levels) (frames : Frames) : Prop :=
  ∃ text, s.stack = root text :: frames.unclosed.map Frame.level

theorem refines_initial : initial.Refines .empty := ⟨[], rfl⟩

namespace Refines

/-- The innermost frame is the innermost level. -/
theorem stack_eq_concat {s : Levels} {f : Frame} {fs : List Frame} (h : s.Refines ⟨f :: fs⟩) :
    ∃ text, s.stack = (root text :: fs.reverse.map Frame.level) ++ [f.level] := by
  obtain ⟨text, hstack⟩ := h
  refine ⟨text, ?_⟩
  rw [hstack, Frames.unclosed, List.reverse_cons, List.map_append]
  rfl

theorem depth_eq {s : Levels} {frames : Frames} (h : s.Refines frames) :
    s.depth = frames.depth := by
  obtain ⟨text, hstack⟩ := h
  rw [depth, hstack, List.length_cons, List.length_map, Frames.unclosed, List.length_reverse]
  rfl

theorem unclosed_eq {s : Levels} {frames : Frames} (h : s.Refines frames) :
    s.unclosed = frames.unclosed.map Frame.level := by
  obtain ⟨text, hstack⟩ := h
  rw [unclosed, hstack]
  rfl

/-- The root has no owner. -/
theorem owners_eq {s : Levels} {frames : Frames} (h : s.Refines frames) :
    s.owners = frames.owners := by
  obtain ⟨text, hstack⟩ := h
  rw [owners, hstack, List.reverse_cons, List.filterMap_append, ← List.map_reverse,
    Frames.unclosed, List.reverse_reverse, List.filterMap_map]
  exact List.append_nil _

/-- A pop that finds a frame leaves the levels of the frames below it. -/
theorem pop?_some {s : Levels} {f : Frame} {fs : List Frame} (h : s.Refines ⟨f :: fs⟩) :
    ∃ rest : Levels, s.pop? = some (f.level, rest) ∧ rest.Refines ⟨fs⟩ := by
  have hdepth : s.depth ≠ 0 := by
    rw [h.depth_eq]
    exact Nat.succ_ne_zero _
  obtain ⟨text, hstack⟩ := h.stack_eq_concat
  refine ⟨⟨root text :: fs.reverse.map Frame.level⟩, ?_, text, rfl⟩
  rw [pop?, if_neg hdepth, hstack, List.getLast?_concat, List.dropLast_concat]
  rfl

/-- The root is not popped. -/
theorem pop?_none {s : Levels} (h : s.Refines .empty) : s.pop? = none := by
  have hdepth : s.depth = 0 := h.depth_eq
  rw [pop?, if_pos hdepth]

theorem pop?_eq {s : Levels} {frames : Frames} (h : s.Refines frames) :
    s.pop?.map Prod.fst = (frames.pop?.map Prod.fst).map Frame.level := by
  obtain ⟨fs⟩ := frames
  cases fs with
  | nil =>
    rw [h.pop?_none]
    rfl
  | cons f fs =>
    obtain ⟨rest, hpop, -⟩ := h.pop?_some
    rw [hpop]
    rfl

/-- What one operation preserves. -/
theorem perform {s : Levels} {frames : Frames} (h : s.Refines frames) (op : Frames.Operation) :
    (s.perform op).Refines (frames.perform op) := by
  obtain ⟨fs⟩ := frames
  cases op with
  | push owner opened =>
    obtain ⟨text, hstack⟩ := h
    refine ⟨text, ?_⟩
    show s.stack ++ _ = root text :: List.map Frame.level (_ :: fs).reverse
    rw [hstack, List.reverse_cons, List.map_append]
    rfl
  | append more =>
    cases fs with
    | nil =>
      -- The text goes to the root, and to no frame.
      obtain ⟨text, hstack⟩ := h
      refine ⟨text ++ more, ?_⟩
      rw [Levels.perform, Levels.append, hstack]
      rfl
    | cons f fs =>
      obtain ⟨text, hstack⟩ := h.stack_eq_concat
      refine ⟨text, ?_⟩
      show _ = root text :: List.map Frame.level (f.add more :: fs).reverse
      rw [Levels.perform, Levels.append, hstack, List.getLast?_concat, List.dropLast_concat,
        List.reverse_cons, List.map_append]
      rfl
  | pop =>
    cases fs with
    | nil =>
      rw [Levels.perform, h.pop?_none]
      exact h
    | cons f fs =>
      obtain ⟨rest, hpop, hrest⟩ := h.pop?_some
      rw [Levels.perform, hpop]
      exact hrest

/-- What a run preserves. -/
theorem foldl_perform {s : Levels} {frames : Frames} (h : s.Refines frames)
    (ops : List Frames.Operation) :
    (ops.foldl Levels.perform s).Refines (ops.foldl Frames.perform frames) := by
  induction ops generalizing s frames with
  | nil => exact h
  | cons op ops ih => exact ih (h.perform op)

end Refines

/-- **Frames above a root.**  With or without a root, the same can be seen after any operations:
    the root does not count, is not popped, has no owner, and is not left unclosed. -/
theorem after_agrees (ops : List Frames.Operation) :
    (after ops).depth = (Frames.after ops).depth
    ∧ (after ops).pop?.map Prod.fst = ((Frames.after ops).pop?.map Prod.fst).map Frame.level
    ∧ (after ops).owners = (Frames.after ops).owners
    ∧ (after ops).unclosed = (Frames.after ops).unclosed.map Frame.level
    ∧ ∀ text, root text ∉ (after ops).unclosed := by
  have hrefines := refines_initial.foldl_perform ops
  have hunclosed : (after ops).unclosed = (Frames.after ops).unclosed.map Frame.level :=
    hrefines.unclosed_eq
  refine ⟨hrefines.depth_eq, hrefines.pop?_eq, hrefines.owners_eq, hunclosed, ?_⟩
  intro text hroot
  -- A frame starts behind its bracket, and the root has none.
  rw [hunclosed] at hroot
  obtain ⟨f, -, hf⟩ := List.mem_map.mp hroot
  have hstart : f.opened + 1 = 0 := congrArg Level.start hf
  omega

end Levels

/-! ## Reading a text -/

namespace Reading

/-- What a reader does to its frames when it meets a lexeme. -/
def operation (r : Reading) : Lexeme → Frames.Operation
  | .token name => .append name
  | .opening => .push r.owner r.offset
  | .closing => .pop
  | .plain c => .append [c]

theorem frames_step (r : Reading) (lexeme : Lexeme) :
    (r.step lexeme).1.frames = r.frames.perform (r.operation lexeme) := by
  cases lexeme with
  | closing =>
    rw [operation, Frames.perform, step]
    cases r.frames.pop? <;> rfl
  | _ => rfl

/-- What a reader does to its frames when it meets one lexeme after the other. -/
def operations (r : Reading) : List Lexeme → List Frames.Operation
  | [] => []
  | lexeme :: rest => r.operation lexeme :: (r.step lexeme).1.operations rest

theorem frames_run (r : Reading) (ls : List Lexeme) :
    (r.run ls).2 = (r.operations ls).foldl Frames.perform r.frames := by
  induction ls generalizing r with
  | nil => rfl
  | cons lexeme ls ih =>
    show ((r.step lexeme).1.run ls).2 = _
    rw [ih, frames_step]
    rfl

end Reading

/-- **Frames of a text.**  Reading a text is such a history. -/
theorem openFrames_eq_after (t : Text) :
    openFrames t = Frames.after (Reading.start.operations (lexemes t)) :=
  Reading.start.frames_run (lexemes t)

end Sigil
