import Sigil.Brackets
import Sigil.Proofs.Tokenization

/-! # What a reader of brackets meets

    A reader keeps a stack of frames.  After any lexemes the stack holds exactly the
    `[` that these have not closed, and so each `]` closes the `[` that it is paired
    with by the text alone.

    * `Represents`: the frames that belong to the lexemes read so far, with one lemma
      for each thing that happens to the frames.
    * `Tracks`: the same for the whole state of the reader; `Tracks.step` is what one
      lexeme preserves, and `Tracks.after` what a run does.
    * `EventAt`: the event of a lexeme in terms of the lexemes before it.
    * `mem_events_iff`, `events_ordered`: the events of a text. -/

namespace Sigil

/-- The token that the lexemes end with. -/
def trailingToken (ls : List Lexeme) : Option Text :=
  match ls.getLast? with
  | some (.token name) => some name
  | _ => none

@[simp] theorem trailingToken_concat (ls : List Lexeme) (l : Lexeme) :
    trailingToken (ls ++ [l]) = match l with
      | .token name => some name
      | _ => none := by
  cases l <;> simp [trailingToken]

/-- The frame of a `[` that stands after the lexemes `before` and is followed by the
    lexemes `inside`. -/
def frameOf (before inside : List Lexeme) : Frame where
  owner := trailingToken before
  opened := (textOf before).size
  content := outside 0 (textOf inside)

/-! ## Frames -/

/-- **Invariant of the frames.**  The `k`-th frame, from the innermost on, belongs to
    the `[` after which `k` more brackets are open. -/
def Represents (s : Frames) (done : List Lexeme) : Prop :=
  ∀ k f, s.stack[k]? = some f ↔ ∃ before inside, done = before ++ .opening :: inside
    ∧ depthFrom? 0 (textOf inside) = some k ∧ f = frameOf before inside

/-- Where a `[` can stand when one more lexeme has been read. -/
theorem concat_eq_append_opening_iff {done before inside : List Lexeme} {l : Lexeme} :
    done ++ [l] = before ++ .opening :: inside ↔
      (l = .opening ∧ before = done ∧ inside = [])
        ∨ ∃ inside', inside = inside' ++ [l] ∧ done = before ++ .opening :: inside' := by
  constructor
  · intro h
    -- Compare the last lexemes of the two sides.
    rcases List.eq_nil_or_concat inside with rfl | ⟨inside', l', hlast⟩
    · obtain ⟨rfl, hl⟩ := List.append_inj' h rfl
      rw [List.cons.injEq] at hl
      exact .inl ⟨hl.1, rfl, rfl⟩
    · rw [List.concat_eq_append] at hlast
      have h' : done ++ [l] = (before ++ .opening :: inside') ++ [l'] := by
        rw [h, hlast]; simp
      obtain ⟨rfl, hl⟩ := List.append_inj' h' rfl
      rw [List.cons.injEq] at hl
      exact .inr ⟨inside', by rw [hlast, hl.1], rfl⟩
  · intro h
    rcases h with ⟨rfl, rfl, rfl⟩ | ⟨inside', rfl, rfl⟩
    · rfl
    · simp

theorem size_textOf_append_opening (before inside : List Lexeme) :
    (textOf (before ++ .opening :: inside)).size
      = (textOf before).size + 1 + (textOf inside).size := by
  rw [textOf_append, textOf_cons]
  exact Text.size_append_opening _ _

theorem textOf_concat (ls : List Lexeme) (l : Lexeme) :
    textOf (ls ++ [l]) = textOf ls ++ l.text := by
  simp

/-- The frame with more text in it. -/
def Frame.add (f : Frame) (text : Text) : Frame :=
  { f with content := f.content ++ text }

@[simp] theorem Frame.add_nil (f : Frame) : f.add [] = f := by
  simp [Frame.add]

/-- A lexeme adds to a frame what lies outside the brackets opened in the frame. -/
theorem frameOf_concat {before inside : List Lexeme} {l : Lexeme} {e : Nat}
    (he : depthFrom? 0 (textOf inside) = some e) :
    frameOf before (inside ++ [l]) = (frameOf before inside).add (outside e l.text) := by
  simp only [frameOf, Frame.add, textOf_concat, outside_append he]

theorem represents_empty : Represents .empty [] := by
  intro k f
  simp [Frames.empty]

/-- **One more lexeme.**  A `[` that is open after it is the lexeme itself or was open
    before, at a depth that the lexeme changes, in a frame that it adds to. -/
theorem Represents.concat_iff {s : Frames} {done : List Lexeme} (h : Represents s done)
    (l : Lexeme) (k : Nat) (f : Frame) :
    (∃ before inside, done ++ [l] = before ++ .opening :: inside
      ∧ depthFrom? 0 (textOf inside) = some k ∧ f = frameOf before inside)
    ↔ (l = .opening ∧ k = 0 ∧ f = frameOf done [])
      ∨ ∃ e g, s.stack[e]? = some g ∧ depthFrom? e l.text = some k
        ∧ f = g.add (outside e l.text) := by
  constructor
  · intro ⟨before, inside, hdone, hdepth, hf⟩
    rcases concat_eq_append_opening_iff.mp hdone with ⟨hl, rfl, rfl⟩ | ⟨inside', rfl, hin⟩
    · rw [textOf_nil, depthFrom?_nil, Option.some.injEq] at hdepth
      exact .inl ⟨hl, hdepth.symm, hf⟩
    · rw [textOf_concat, depthFrom?_append] at hdepth
      obtain ⟨e, he, hk⟩ := Option.bind_eq_some_iff.mp hdepth
      have hstack := (h e _).mpr ⟨before, inside', hin, he, rfl⟩
      exact .inr ⟨e, frameOf before inside', hstack, hk, by rw [hf, frameOf_concat he]⟩
  · intro hor
    rcases hor with ⟨rfl, rfl, hf⟩ | ⟨e, g, hg, hk, hf⟩
    · exact ⟨done, [], rfl, rfl, hf⟩
    · obtain ⟨before, inside, hdone, he, rfl⟩ := (h e g).mp hg
      refine ⟨before, inside ++ [l], by rw [hdone]; simp, ?_, ?_⟩
      · rw [textOf_concat, depthFrom?_append, he]
        exact hk
      · rw [hf, frameOf_concat he]

/-- Opening a frame. -/
theorem Represents.push {s : Frames} {done : List Lexeme} (h : Represents s done) :
    Represents (s.push (trailingToken done) (textOf done).size) (done ++ [.opening]) := by
  intro k f
  rw [h.concat_iff, Frames.push]
  cases k with
  | zero =>
    rw [List.getElem?_cons_zero, Option.some.injEq]
    constructor
    · intro hf
      exact .inl ⟨rfl, rfl, hf.symm⟩
    · intro hor
      rcases hor with ⟨-, -, hf⟩ | ⟨e, g, -, he, -⟩
      · exact hf.symm
      · cases he
  | succ k =>
    rw [List.getElem?_cons_succ]
    constructor
    · intro hf
      exact .inr ⟨k, f, hf, rfl, by simp [Lexeme.text, outside]⟩
    · intro hor
      rcases hor with ⟨-, hk, -⟩ | ⟨e, g, hg, he, hf⟩
      · cases hk
      · cases he
        rw [hf, hg]
        simp [Lexeme.text, outside]

/-- Reading a `]`, as far as the frames are concerned that it does not close. -/
theorem represents_closing_iff {s : Frames} {done : List Lexeme} (h : Represents s done)
    (k : Nat) (f : Frame) :
    (∃ before inside, done ++ [.closing] = before ++ .opening :: inside
      ∧ depthFrom? 0 (textOf inside) = some k ∧ f = frameOf before inside)
      ↔ s.stack[k + 1]? = some f := by
  rw [h.concat_iff]
  constructor
  · intro hor
    rcases hor with ⟨hl, -, -⟩ | ⟨e, g, hg, he, hf⟩
    · cases hl
    · cases e with
      | zero => cases he
      | succ e =>
        cases he
        rw [hf, hg]
        simp [Lexeme.text, outside]
  · intro hf
    exact .inr ⟨k + 1, f, hf, rfl, by simp [Lexeme.text, outside]⟩

/-- Closing the innermost frame. -/
theorem Represents.pop {s rest : Frames} {f : Frame} {done : List Lexeme}
    (h : Represents s done) (hpop : s.pop? = some (f, rest)) :
    Represents rest (done ++ [.closing]) := by
  intro k g
  rw [represents_closing_iff h]
  unfold Frames.pop? at hpop
  split at hpop
  · cases hpop
  · next top tail hstack =>
    cases hpop
    rw [hstack, List.getElem?_cons_succ]

/-- A `]` when no frame is open. -/
theorem Represents.unmatched {s : Frames} {done : List Lexeme}
    (h : Represents s done) (hpop : s.pop? = none) :
    Represents s (done ++ [.closing]) := by
  intro k g
  rw [represents_closing_iff h]
  unfold Frames.pop? at hpop
  split at hpop
  · next hstack => simp [hstack]
  · cases hpop

/-- Only the innermost frame takes up text. -/
theorem Frames.getElem?_append (s : Frames) (text : Text) (k : Nat) :
    (s.append text).stack[k]? = s.stack[k]?.map fun f => f.add (if k = 0 then text else []) := by
  obtain ⟨stack⟩ := s
  cases stack with
  | nil => rfl
  | cons top rest =>
    cases k with
    | zero => rfl
    | succ k => simp [Frames.append]

/-- Adding text to the innermost frame. -/
theorem Represents.append {s : Frames} {done : List Lexeme} (h : Represents s done)
    {l : Lexeme} (hl : ∀ c ∈ l.text, isBracket c = false) :
    Represents (s.append l.text) (done ++ [l]) := by
  have hne : l ≠ .opening := by
    intro hopening
    rw [hopening] at hl
    exact absurd (hl '[' (by simp [Lexeme.text])) (by decide)
  have hdepth : ∀ e, depthFrom? e l.text = some e := (balanced_of_forall hl).depthFrom?
  intro k f
  rw [h.concat_iff, Frames.getElem?_append, Option.map_eq_some_iff]
  constructor
  · intro hex
    obtain ⟨g, hg, hf⟩ := hex
    exact .inr ⟨k, g, hg, hdepth k, by rw [← hf, outside_of_forall hl]⟩
  · intro hor
    rcases hor with ⟨hopening, -, -⟩ | ⟨e, g, hg, he, hf⟩
    · exact absurd hopening hne
    · rw [hdepth e, Option.some.injEq] at he
      subst he
      exact ⟨g, hg, by rw [hf, outside_of_forall hl]⟩

/-! ## The reader -/

/-- **Event of a lexeme** that stands after the lexemes `done`. -/
inductive EventAt (done : List Lexeme) : Lexeme → Event → Prop where
  | token {name : Text} : EventAt done (.token name) (.token (textOf done).size name)
  | closed {before inside : List Lexeme} : done = before ++ .opening :: inside →
      Balanced (textOf inside) →
      EventAt done .closing (.closed (frameOf before inside) (textOf done).size)
  | unmatched : (∀ before inside, done = before ++ .opening :: inside →
      ¬ Balanced (textOf inside)) → EventAt done .closing (.unmatched (textOf done).size)

/-- **Invariant of reading.**  The state after the lexemes `done`. -/
structure Tracks (done : List Lexeme) (r : Reading) : Prop where
  offset : r.offset = (textOf done).size
  owner : r.owner = trailingToken done
  frames : Represents r.frames done

theorem tracks_start : Tracks [] .start where
  offset := rfl
  owner := rfl
  frames := represents_empty

/-- The innermost frame is the one that a `]` closes. -/
theorem Represents.pop?_eq_some_iff {s : Frames} {done : List Lexeme} (h : Represents s done)
    (f : Frame) : (∃ rest, s.pop? = some (f, rest)) ↔ ∃ before inside,
      done = before ++ .opening :: inside ∧ Balanced (textOf inside)
        ∧ f = frameOf before inside := by
  simp only [balanced_iff]
  rw [← h 0 f]
  unfold Frames.pop?
  split
  · next hnil => simp [hnil]
  · next top tail hcons => simp [hcons]

/-- What one lexeme preserves. -/
theorem Tracks.step {done : List Lexeme} {r : Reading} (h : Tracks done r) {l : Lexeme}
    (hl : l.IsProper) : Tracks (done ++ [l]) (r.step l).1 := by
  have hsize : r.offset + l.text.size = (textOf (done ++ [l])).size := by
    rw [h.offset, textOf_concat, Text.size_append]
  cases l with
  | token name =>
    exact ⟨hsize, by simp [Reading.step], h.frames.append (l := .token name) hl.2⟩
  | opening =>
    refine ⟨hsize, by simp [Reading.step], ?_⟩
    have hpush := h.frames.push
    rw [← h.owner, ← h.offset] at hpush
    exact hpush
  | closing =>
    simp only [Reading.step]
    split
    · next f rest hpop => exact ⟨hsize, by simp, h.frames.pop hpop⟩
    · next hpop => exact ⟨hsize, by simp, h.frames.unmatched hpop⟩
  | plain c =>
    refine ⟨hsize, by simp [Reading.step], h.frames.append (l := .plain c) ?_⟩
    intro d hd
    rw [show d = c from by simpa [Lexeme.text] using hd]
    exact hl

/-- What one lexeme makes known. -/
theorem Tracks.event_iff {done : List Lexeme} {r : Reading} (h : Tracks done r) {l : Lexeme}
    {e : Event} : (r.step l).2 = some e ↔ EventAt done l e := by
  cases l with
  | token name =>
    simp only [Reading.step, h.offset, Option.some.injEq]
    constructor
    · intro he
      subst he
      exact .token
    · intro he
      cases he
      rfl
  | opening => exact ⟨nofun, nofun⟩
  | plain c => exact ⟨nofun, nofun⟩
  | closing =>
    have hframe := h.frames.pop?_eq_some_iff
    simp only [Reading.step]
    split
    · next f rest hpop =>
      -- The frame on top belongs to the `[` that is followed by a balanced text.
      simp only [h.offset, Option.some.injEq]
      constructor
      · intro he
        subst he
        obtain ⟨before, inside, hdone, hin, rfl⟩ := (hframe f).mp ⟨rest, hpop⟩
        exact .closed hdone hin
      · intro he
        cases he with
        | @closed before inside hdone hin =>
          obtain ⟨rest', hpop'⟩ := (hframe _).mpr ⟨before, inside, hdone, hin, rfl⟩
          rw [hpop] at hpop'
          cases hpop'
          rfl
        | unmatched hnone =>
          obtain ⟨before, inside, hdone, hin, _⟩ := (hframe f).mp ⟨rest, hpop⟩
          exact absurd hin (hnone before inside hdone)
    · next hpop =>
      simp only [h.offset, Option.some.injEq]
      -- With no frame to close, no `[` is followed by a balanced text.
      have hnone : ∀ before inside, done = before ++ .opening :: inside →
          ¬ Balanced (textOf inside) := by
        intro before inside hdone hin
        obtain ⟨rest, hsome⟩ := (hframe _).mpr ⟨before, inside, hdone, hin, rfl⟩
        rw [hpop] at hsome
        cases hsome
      constructor
      · intro he
        subst he
        exact .unmatched hnone
      · intro he
        cases he with
        | @closed before inside hdone hin => exact absurd hin (hnone before inside hdone)
        | unmatched _ => rfl

/-! ## Runs -/

/-- The offset at which an event becomes known. -/
def Event.place : Event → Nat
  | .token offset _ => offset
  | .closed _ stop => stop
  | .unmatched offset => offset

theorem EventAt.place_eq {done : List Lexeme} {l : Lexeme} {e : Event} (h : EventAt done l e) :
    e.place = (textOf done).size := by
  cases h <;> rfl

/-- The state after reading some lexemes. -/
def Reading.after (r : Reading) (ls : List Lexeme) : Reading :=
  ls.foldl (fun r l => (r.step l).1) r

theorem Reading.frames_after (r : Reading) (ls : List Lexeme) :
    (r.after ls).frames = (r.run ls).2 := by
  induction ls generalizing r with
  | nil => rfl
  | cons l ls ih => exact ih (r.step l).1

/-- What a run preserves. -/
theorem Tracks.after {done todo : List Lexeme} {r : Reading} (h : Tracks done r)
    (hp : ∀ l ∈ todo, l.IsProper) : Tracks (done ++ todo) (r.after todo) := by
  induction todo generalizing done r with
  | nil =>
    rw [List.append_nil]
    exact h
  | cons l todo ih =>
    have hstep := ih (h.step (hp l (by simp))) fun x hx => hp x (by simp [hx])
    rw [List.append_assoc] at hstep
    exact hstep

/-- A run makes known the events of its lexemes and nothing else. -/
theorem Tracks.mem_run_iff {done todo : List Lexeme} {r : Reading} (h : Tracks done r)
    (hp : ∀ l ∈ todo, l.IsProper) {e : Event} :
    e ∈ (r.run todo).1 ↔ ∃ before l after, todo = before ++ l :: after
      ∧ EventAt (done ++ before) l e := by
  induction todo generalizing done r with
  | nil => simp [Reading.run]
  | cons l todo ih =>
    have hstep := h.step (hp l (by simp))
    have hrest := ih hstep fun x hx => hp x (by simp [hx])
    simp only [Reading.run, List.mem_append, Option.mem_toList, hrest, h.event_iff]
    constructor
    · intro hor
      rcases hor with he | ⟨before, x, after, rfl, he⟩
      · exact ⟨[], l, todo, rfl, by rwa [List.append_nil]⟩
      · refine ⟨l :: before, x, after, rfl, ?_⟩
        rw [List.append_assoc] at he
        exact he
    · intro ⟨before, x, after, heq, he⟩
      cases before with
      | nil =>
        rw [List.nil_append, List.cons.injEq] at heq
        obtain ⟨rfl, -⟩ := heq
        exact .inl (by rwa [List.append_nil] at he)
      | cons y before =>
        rw [List.cons_append, List.cons.injEq] at heq
        obtain ⟨rfl, rfl⟩ := heq
        refine .inr ⟨before, x, after, rfl, ?_⟩
        rw [List.append_assoc]
        exact he

/-- A run makes its events known in the order of their places. -/
theorem Tracks.run_ordered {done todo : List Lexeme} {r : Reading} (h : Tracks done r)
    (hp : ∀ l ∈ todo, l.IsProper) :
    (r.run todo).1.Pairwise fun e e' => e.place < e'.place := by
  induction todo generalizing done r with
  | nil => exact .nil
  | cons l todo ih =>
    have hl := hp l (by simp)
    have htodo : ∀ x ∈ todo, x.IsProper := fun x hx => hp x (by simp [hx])
    have hstep := h.step hl
    simp only [Reading.run]
    rw [List.pairwise_append]
    refine ⟨?_, ih hstep htodo, ?_⟩
    · cases (r.step l).2 <;> simp
    · intro e he e' he'
      rw [Option.mem_toList, h.event_iff] at he
      -- The later event comes at least one lexeme later.
      obtain ⟨before, x, after, -, hx⟩ := (hstep.mem_run_iff htodo).mp he'
      have hpos : 0 < l.text.size := l.size_text_pos hl
      rw [he.place_eq, hx.place_eq]
      simp only [textOf_append, textOf_cons, Text.size_append]
      omega

/-! ## The events of a text -/

/-- **Events.**  The events of a text are those of its lexemes. -/
theorem mem_events_iff {t : Text} {e : Event} :
    e ∈ (brackets t).1 ↔ ∃ before l after, lexemes t = before ++ l :: after
      ∧ EventAt before l e :=
  tracks_start.mem_run_iff (isProper_of_mem_lexemes t)

/-- The events of a text are known in the order of their places. -/
theorem events_ordered (t : Text) :
    (brackets t).1.Pairwise fun e e' => e.place < e'.place :=
  tracks_start.run_ordered (isProper_of_mem_lexemes t)

/-- **Open frames.**  The frames left open by a text belong to all its lexemes. -/
theorem represents_openFrames (t : Text) : Represents (openFrames t) (lexemes t) := by
  have hframes := (tracks_start.after (isProper_of_mem_lexemes t)).frames
  rw [Reading.frames_after] at hframes
  exact hframes

/-! ### Events in terms of the text -/

/-- The token `name` ends at the offset `i`. -/
def TokenBefore (t name : Text) (i : Nat) : Prop :=
  ∃ j, TokenAt t j name ∧ j + name.size = i

theorem tokenBefore_iff {t name : Text} {before after : List Lexeme}
    (h : lexemes t = before ++ after) :
    TokenBefore t name (textOf before).size ↔ trailingToken before = some name := by
  constructor
  · intro ⟨j, hj, hsize⟩
    obtain ⟨b, a, hls, rfl⟩ := tokenAt_iff.mp hj
    -- The lexemes up to the token and the lexemes `before` end at one offset.
    have hcut : (b ++ [.token name]) ++ a = before ++ after := by
      rw [← h, hls]; simp
    have hp : ∀ l ∈ (b ++ [.token name]) ++ a, l.IsProper := by
      rw [hcut, ← h]
      exact isProper_of_mem_lexemes t
    have hend : (textOf (b ++ [.token name])).size = (textOf before).size := by
      rw [textOf_concat, Text.size_append]
      exact hsize
    obtain ⟨rfl, -⟩ := append_inj_of_size_textOf hcut hp hend
    exact trailingToken_concat b (.token name)
  · intro htoken
    rcases List.eq_nil_or_concat before with rfl | ⟨b, l, hbefore⟩
    · simp [trailingToken] at htoken
    · rw [List.concat_eq_append] at hbefore
      subst hbefore
      rw [trailingToken_concat] at htoken
      cases l with
      | token n =>
        cases htoken
        refine ⟨(textOf b).size, tokenAt_iff.mpr ⟨b, after, by rw [h]; simp, rfl⟩, ?_⟩
        rw [textOf_concat, Text.size_append]
        rfl
      | opening => cases htoken
      | closing => cases htoken
      | plain c => cases htoken

/-- What stands between two brackets. -/
theorem slice_between (before inside after : Text) :
    Text.slice (before ++ '[' :: (inside ++ ']' :: after)) (before.size + 1)
      (before.size + 1 + inside.size) = inside := by
  have hsize : before.size + 1 = Text.size (before ++ ['[']) := by
    rw [Text.size_append]
    rfl
  have hcut : before ++ '[' :: (inside ++ ']' :: after)
      = (before ++ ['[']) ++ (inside ++ ']' :: after) := by simp
  rw [Text.slice, Nat.add_sub_cancel_left, hsize, hcut, Text.dropBytes_size_append,
    Text.takeBytes_size_append]

/-- Between the brackets of a pair all brackets are paired. -/
theorem Partners.balanced_slice {t : Text} {i j : Nat} (h : Partners t i j) :
    Balanced (Text.slice t (i + 1) j) := by
  obtain ⟨before, inside, after, ht, hin, hi, hj⟩ := h
  subst ht hi hj
  rw [slice_between]
  exact hin

/-- The text between the brackets of a pair ends where the pair does. -/
theorem Partners.size_slice {t : Text} {i j : Nat} (h : Partners t i j) :
    i + 1 + (Text.slice t (i + 1) j).size = j := by
  obtain ⟨before, inside, after, ht, _, hi, hj⟩ := h
  subst ht hi hj
  rw [slice_between]

/-- What follows a pair does not change the text between its brackets. -/
theorem Partners.slice_append {s : Text} {i j : Nat} (h : Partners s i j) (t : Text) :
    Text.slice (s ++ t) (i + 1) j = Text.slice s (i + 1) j := by
  obtain ⟨before, inside, after, hs, _, hi, hj⟩ := h
  subst hs hi hj
  rw [slice_between, List.append_assoc, List.cons_append, List.append_assoc, List.cons_append,
    slice_between]

/-- Nor does what stands before the pair. -/
theorem Partners.slice_prepend {t : Text} {i j : Nat} (h : Partners t i j) (s : Text) :
    Text.slice (s ++ t) (i + s.size + 1) (j + s.size) = Text.slice t (i + 1) j := by
  obtain ⟨before, inside, after, ht, _, hi, hj⟩ := h
  subst ht hi hj
  have hstart : before.size + s.size = Text.size (s ++ before) := by
    rw [Text.size_append, Nat.add_comm]
  have hstop : before.size + 1 + inside.size + s.size
      = before.size + s.size + 1 + inside.size := by
    omega
  rw [slice_between, hstop, hstart, ← List.append_assoc, slice_between]

theorem mem_events_token_iff {t name : Text} {i : Nat} :
    .token i name ∈ (brackets t).1 ↔ TokenAt t i name := by
  rw [mem_events_iff, tokenAt_iff]
  constructor
  · intro ⟨before, l, after, hls, he⟩
    cases he
    exact ⟨before, after, hls, rfl⟩
  · intro ⟨before, after, hls, hi⟩
    subst hi
    exact ⟨before, .token name, after, hls, .token⟩

theorem mem_events_unmatched_iff {t : Text} {j : Nat} :
    .unmatched j ∈ (brackets t).1 ↔ UnpairedClosing t j := by
  rw [mem_events_iff, unpairedClosing_iff_lexemes]
  constructor
  · intro ⟨before, l, after, hls, he⟩
    cases he with
    | unmatched hnone => exact ⟨before, after, hls, rfl, hnone⟩
  · intro ⟨before, after, hls, hj, hnone⟩
    subst hj
    exact ⟨before, .closing, after, hls, .unmatched hnone⟩

/-- **Closed frames.**  A `]` closes the frame of its partner; the frame belongs to the
    token before the partner and holds what stands outside nested brackets. -/
theorem mem_events_closed_iff {t : Text} {f : Frame} {j : Nat} :
    .closed f j ∈ (brackets t).1 ↔ Partners t f.opened j
      ∧ (∀ name, f.owner = some name ↔ TokenBefore t name f.opened)
      ∧ f.content = outside 0 (Text.slice t f.start j) := by
  -- The text between the brackets, given the lexemes around and between them.
  have hslice : ∀ {before inside after : List Lexeme},
      lexemes t = before ++ .opening :: (inside ++ .closing :: after) →
      Text.slice t ((textOf before).size + 1) ((textOf before).size + 1 + (textOf inside).size)
        = textOf inside := by
    intro before inside after hls
    have ht := eq_textOf_append hls
    rw [textOf_append] at ht
    rw [ht]
    exact slice_between _ _ _
  rw [mem_events_iff, partners_iff]
  constructor
  · intro ⟨done, l, after, hls, he⟩
    cases he with
    | @closed before inside hdone hin =>
      subst hdone
      rw [List.append_assoc, List.cons_append] at hls
      have hj := size_textOf_append_opening before inside
      refine ⟨⟨before, inside, after, hls, hin, rfl, hj⟩, ?_, ?_⟩
      · intro name
        exact (tokenBefore_iff hls).symm
      · rw [hj]
        show outside 0 (textOf inside) = outside 0 (Text.slice t ((textOf before).size + 1) _)
        rw [hslice hls]
  · intro ⟨⟨before, inside, after, hls, hin, hopened, hj⟩, howner, hcontent⟩
    -- What is said of the frame determines all its fields.
    have hf : f = frameOf before inside := by
      obtain ⟨owner, opened, content⟩ := f
      simp only at hopened howner hcontent
      subst hopened
      have ho : owner = trailingToken before := by
        apply Option.ext
        intro name
        rw [howner name, tokenBefore_iff hls]
      rw [Frame.start, hj, hslice hls] at hcontent
      rw [ho, hcontent]
      rfl
    refine ⟨before ++ .opening :: inside, .closing, after, by rw [hls]; simp, ?_⟩
    rw [hf, hj, ← size_textOf_append_opening]
    exact .closed rfl hin

/-! ### Frames left open, in terms of the text -/

/-- Of two open brackets the one with more open brackets after it comes first. -/
theorem size_lt_of_depth_lt {before inside before' inside' : List Lexeme} {k k' : Nat}
    (h : before ++ .opening :: inside = before' ++ .opening :: inside')
    (hk : depthFrom? 0 (textOf inside) = some k)
    (hk' : depthFrom? 0 (textOf inside') = some k') (hlt : k < k') :
    (textOf before').size < (textOf before).size := by
  rcases List.append_eq_append_iff.mp h with ⟨m, rfl, hm⟩ | ⟨m, rfl, hm⟩
  · -- Then the second bracket is one of those open after the first.
    cases m with
    | nil =>
      rw [List.nil_append, List.cons.injEq] at hm
      rw [hm.2, hk', Option.some.injEq] at hk
      omega
    | cons l m =>
      -- So fewer brackets would be open after the second than after the first.
      rw [List.cons_append, List.cons.injEq] at hm
      rw [hm.2, textOf_append, depthFrom?_append] at hk
      obtain ⟨e, -, he⟩ := Option.bind_eq_some_iff.mp hk
      have hadd := depthFrom?_add hk' (e + 1)
      rw [Nat.zero_add] at hadd
      rw [textOf_cons, Lexeme.text, List.singleton_append, depthFrom?_opening, hadd,
        Option.some.injEq] at he
      omega
  · cases m with
    | nil =>
      rw [List.nil_append, List.cons.injEq] at hm
      rw [← hm.2, hk', Option.some.injEq] at hk
      omega
    | cons l m =>
      rw [List.cons_append, List.cons.injEq] at hm
      rw [← hm.1, size_textOf_append_opening]
      omega

/-- The frames left open come in the order of their brackets. -/
theorem unclosed_ordered (t : Text) :
    (openFrames t).unclosed.Pairwise fun f g => f.opened < g.opened := by
  have hrep := represents_openFrames t
  rw [Frames.unclosed, List.pairwise_reverse, List.pairwise_iff_getElem]
  intro k k' hk hk' hlt
  obtain ⟨before, inside, hdone, hdepth, hf⟩ :=
    (hrep k _).mp (List.getElem?_eq_getElem hk)
  obtain ⟨before', inside', hdone', hdepth', hf'⟩ :=
    (hrep k' _).mp (List.getElem?_eq_getElem hk')
  rw [hf, hf']
  exact size_lt_of_depth_lt (hdone.symm.trans hdone') hdepth hdepth' hlt

/-- **Open brackets.**  The frames left open are those of the `[` without a partner. -/
theorem mem_unclosed_iff {t : Text} {i : Nat} :
    i ∈ (openFrames t).unclosed.map Frame.opened ↔ UnpairedOpening t i := by
  have hrep := represents_openFrames t
  rw [unpairedOpening_iff_lexemes, List.mem_map]
  simp only [Frames.unclosed, List.mem_reverse]
  constructor
  · intro ⟨f, hf, hi⟩
    obtain ⟨k, hk⟩ := List.mem_iff_getElem?.mp hf
    obtain ⟨before, inside, hls, hdepth, rfl⟩ := (hrep k f).mp hk
    exact ⟨before, inside, hls, hi.symm, k, hdepth⟩
  · intro ⟨before, inside, hls, hi, k, hdepth⟩
    have hk := (hrep k _).mpr ⟨before, inside, hls, hdepth, rfl⟩
    exact ⟨_, List.mem_of_getElem? hk, hi.symm⟩

end Sigil
