import Sigil.Text.Basic

/-! # Matching brackets

    Which `[` and `]` of a text belong together is decided by the text alone: the
    two brackets of a pair enclose a text in which every bracket has its partner.

    * `Balanced`: the texts in which every bracket has its partner.
    * `Partners`: a pair of brackets, given by the offsets of the two characters.
    * `UnpairedOpening`, `UnpairedClosing`: the brackets without a partner.
    * `outside`: what a text holds outside its brackets.

    The facts about pairs come from counting: `depthFrom?` is the number of brackets
    left open by a text, as long as it closes no bracket that it has not opened. -/

namespace Sigil

/-! ## Balanced texts and pairs -/

/-- Is the character a bracket? -/
def isBracket (c : Char) : Bool :=
  c == '[' || c == ']'

/-- The texts in which every bracket has its partner. -/
inductive Balanced : Text → Prop where
  | nil : Balanced []
  | plain {c : Char} {t : Text} : isBracket c = false → Balanced t → Balanced (c :: t)
  | pair {s t : Text} : Balanced s → Balanced t → Balanced ('[' :: (s ++ ']' :: t))

/-- The character `c` stands at the offset `i`. -/
def Holds (t : Text) (i : Nat) (c : Char) : Prop :=
  ∃ before after : Text, t = before ++ c :: after ∧ i = before.size

/-- The `[` at the offset `i` and the `]` at the offset `j` are a pair. -/
def Partners (t : Text) (i j : Nat) : Prop :=
  ∃ before inside after : Text, t = before ++ '[' :: (inside ++ ']' :: after)
    ∧ Balanced inside ∧ i = before.size ∧ j = before.size + 1 + inside.size

/-- The `[` at the offset `i` has no partner. -/
def UnpairedOpening (t : Text) (i : Nat) : Prop :=
  Holds t i '[' ∧ ∀ j, ¬ Partners t i j

/-- The `]` at the offset `j` has no partner. -/
def UnpairedClosing (t : Text) (j : Nat) : Prop :=
  Holds t j ']' ∧ ∀ i, ¬ Partners t i j

/-- The characters outside all brackets, when `depth` brackets are open at the
    start of the text. -/
def outside (depth : Nat) : Text → Text
  | [] => []
  | c :: rest =>
    if c = '[' then outside (depth + 1) rest
    else if c = ']' then outside (depth - 1) rest
    else if depth = 0 then c :: outside depth rest
    else outside depth rest

theorem Balanced.append {s t : Text} (hs : Balanced s) (ht : Balanced t) :
    Balanced (s ++ t) := by
  induction hs with
  | nil => exact ht
  | plain hc _ ih => exact .plain hc ih
  | @pair s u hs _ _ ih =>
    rw [List.cons_append, List.append_assoc, List.cons_append]
    exact .pair hs ih

/-- A text without brackets is balanced. -/
theorem balanced_of_forall {t : Text} (h : ∀ c ∈ t, isBracket c = false) : Balanced t := by
  induction t with
  | nil => exact .nil
  | cons c t ih =>
    exact .plain (h c (by simp)) (ih fun d hd => h d (by simp [hd]))

/-! ## Counting open brackets -/

/-- **Depth.**  The number of open brackets after the text, when `depth` are open
    before it; nothing if a `]` is met when no bracket is open. -/
def depthFrom? (depth : Nat) : Text → Option Nat
  | [] => some depth
  | c :: rest =>
    if c = '[' then depthFrom? (depth + 1) rest
    else if c = ']' then
      match depth with
      | 0 => none
      | outer + 1 => depthFrom? outer rest
    else depthFrom? depth rest

@[simp] theorem depthFrom?_nil (d : Nat) : depthFrom? d [] = some d := rfl

@[simp] theorem depthFrom?_opening (d : Nat) (t : Text) :
    depthFrom? d ('[' :: t) = depthFrom? (d + 1) t := by
  simp [depthFrom?]

@[simp] theorem depthFrom?_closing_zero (t : Text) : depthFrom? 0 (']' :: t) = none := by
  simp [depthFrom?]

@[simp] theorem depthFrom?_closing_succ (d : Nat) (t : Text) :
    depthFrom? (d + 1) (']' :: t) = depthFrom? d t := by
  simp [depthFrom?]

theorem depthFrom?_plain {c : Char} (hc : isBracket c = false) (d : Nat) (t : Text) :
    depthFrom? d (c :: t) = depthFrom? d t := by
  simp only [isBracket, Bool.or_eq_false_iff, beq_eq_false_iff_ne] at hc
  simp [depthFrom?, hc.1, hc.2]

/-- A character is `[`, `]` or no bracket. -/
theorem bracket_cases (c : Char) : c = '[' ∨ c = ']' ∨ isBracket c = false := by
  by_cases ho : c = '['
  · exact .inl ho
  · by_cases hc : c = ']'
    · exact .inr (.inl hc)
    · exact .inr (.inr (by simp [isBracket, ho, hc]))

theorem depthFrom?_append (d : Nat) (s t : Text) :
    depthFrom? d (s ++ t) = (depthFrom? d s).bind fun e => depthFrom? e t := by
  induction s generalizing d with
  | nil => rfl
  | cons c s ih =>
    rw [List.cons_append]
    rcases bracket_cases c with rfl | rfl | hc
    · rw [depthFrom?_opening, depthFrom?_opening, ih]
    · cases d with
      | zero => rw [depthFrom?_closing_zero, depthFrom?_closing_zero]; rfl
      | succ d => rw [depthFrom?_closing_succ, depthFrom?_closing_succ, ih]
    · rw [depthFrom?_plain hc, depthFrom?_plain hc, ih]

/-- More open brackets at the start stay open. -/
theorem depthFrom?_add {d e : Nat} {t : Text} (h : depthFrom? d t = some e) (k : Nat) :
    depthFrom? (d + k) t = some (e + k) := by
  induction t generalizing d with
  | nil => simp only [depthFrom?_nil, Option.some.injEq] at h ⊢; omega
  | cons c t ih =>
    rcases bracket_cases c with rfl | rfl | hc
    · rw [depthFrom?_opening] at h ⊢
      rw [show d + k + 1 = d + 1 + k from by omega]
      exact ih h
    · cases d with
      | zero => simp at h
      | succ d =>
        rw [depthFrom?_closing_succ] at h
        rw [show d + 1 + k = d + k + 1 from by omega, depthFrom?_closing_succ]
        exact ih h
    · rw [depthFrom?_plain hc] at h ⊢
      exact ih h

/-- A balanced text leaves the depth as it is. -/
theorem Balanced.depthFrom? {t : Text} (h : Balanced t) (d : Nat) :
    depthFrom? d t = some d := by
  induction h generalizing d with
  | nil => rfl
  | plain hc _ ih => rw [depthFrom?_plain hc]; exact ih d
  | pair _ _ ihs iht =>
    rw [depthFrom?_opening, depthFrom?_append, ihs]
    simpa using iht d

/-- Only brackets are counted. -/
theorem depthFrom?_filter (d : Nat) (t : Text) :
    depthFrom? d (t.filter isBracket) = depthFrom? d t := by
  induction t generalizing d with
  | nil => rfl
  | cons c t ih =>
    rcases bracket_cases c with rfl | rfl | hc
    · rw [List.filter_cons_of_pos (by decide), depthFrom?_opening, depthFrom?_opening, ih]
    · rw [List.filter_cons_of_pos (by decide)]
      cases d with
      | zero => rw [depthFrom?_closing_zero, depthFrom?_closing_zero]
      | succ d => rw [depthFrom?_closing_succ, depthFrom?_closing_succ, ih]
    · rw [List.filter_cons_of_neg (by simp [hc]), depthFrom?_plain hc, ih]

/-! ### Cutting a text at its open and closed brackets -/

/-- The text closes `depth` brackets opened before it, and is balanced between
    and after these. -/
def Closes : Nat → Text → Prop
  | 0, t => Balanced t
  | depth + 1, t => ∃ s u, t = s ++ ']' :: u ∧ Balanced s ∧ Closes depth u

theorem Closes.prepend {d : Nat} {s t : Text} (hs : Balanced s) (ht : Closes d t) :
    Closes d (s ++ t) := by
  cases d with
  | zero => exact hs.append ht
  | succ d =>
    obtain ⟨v, u, rfl, hv, hu⟩ := ht
    exact ⟨s ++ v, u, by rw [List.append_assoc], hs.append hv, hu⟩

/-- A text that goes from depth `d` to depth `e` either leaves one of its own
    brackets open, with a balanced text after the last such bracket, or closes
    `d - e` of the brackets opened before it and pairs all its own. -/
theorem open_or_closes {d e : Nat} {t : Text} (h : depthFrom? d t = some e) :
    (∃ before inside, t = before ++ '[' :: inside ∧ Balanced inside)
      ∨ (e ≤ d ∧ Closes (d - e) t) := by
  -- The induction is over the text from its start, so the depth has to vary.
  induction t generalizing d with
  | nil =>
    rw [depthFrom?_nil, Option.some.injEq] at h
    subst h
    rw [Nat.sub_self]
    exact .inr ⟨Nat.le_refl d, .nil⟩
  | cons c t ih =>
    rcases bracket_cases c with rfl | rfl | hc
    · rw [depthFrom?_opening] at h
      rcases ih h with ⟨before, inside, rfl, hin⟩ | ⟨hle, hcl⟩
      · exact .inl ⟨'[' :: before, inside, rfl, hin⟩
      · -- The new bracket is open at the end, or the first that `t` closes.
        by_cases he : e = d + 1
        · subst he
          rw [Nat.sub_self] at hcl
          exact .inl ⟨[], t, rfl, hcl⟩
        · rw [show d + 1 - e = d - e + 1 from by omega] at hcl
          obtain ⟨s, u, rfl, hs, hu⟩ := hcl
          have hpair : Balanced ('[' :: (s ++ [']'])) := .pair hs .nil
          have hcl := hu.prepend hpair
          simp only [List.cons_append, List.append_assoc, List.nil_append] at hcl
          exact .inr ⟨by omega, hcl⟩
    · cases d with
      | zero => simp at h
      | succ d =>
        rw [depthFrom?_closing_succ] at h
        rcases ih h with ⟨before, inside, rfl, hin⟩ | ⟨hle, hcl⟩
        · exact .inl ⟨']' :: before, inside, rfl, hin⟩
        · rw [show d + 1 - e = d - e + 1 from by omega]
          exact .inr ⟨by omega, [], t, rfl, .nil, hcl⟩
    · rw [depthFrom?_plain hc] at h
      rcases ih h with ⟨before, inside, rfl, hin⟩ | ⟨hle, hcl⟩
      · exact .inl ⟨c :: before, inside, rfl, hin⟩
      · exact .inr ⟨hle, hcl.prepend (.plain hc .nil)⟩

/-- If a bracket is left open, a balanced text follows the last such bracket. -/
theorem exists_innermost {d : Nat} {t : Text} (h : depthFrom? 0 t = some (d + 1)) :
    ∃ before inside, t = before ++ '[' :: inside ∧ Balanced inside := by
  rcases open_or_closes h with hopen | ⟨hle, _⟩
  · exact hopen
  · omega

/-- A bracket that the text after it never closes is still open at the end. -/
theorem depthFrom?_append_opening_ne_zero {d k : Nat} {t : Text} (s : Text)
    (ht : depthFrom? 0 t = some k) : depthFrom? d (s ++ '[' :: t) ≠ some 0 := by
  rw [depthFrom?_append]
  intro h
  obtain ⟨e, _, he⟩ := Option.bind_eq_some_iff.mp h
  have hadd := depthFrom?_add ht (e + 1)
  rw [Nat.zero_add] at hadd
  rw [depthFrom?_opening, hadd, Option.some.injEq] at he
  omega

/-- **Counting decides balance.** -/
theorem balanced_iff {t : Text} : Balanced t ↔ depthFrom? 0 t = some 0 := by
  constructor
  · intro h
    exact h.depthFrom? 0
  · intro h
    rcases open_or_closes h with ⟨before, inside, rfl, hin⟩ | ⟨_, hcl⟩
    · exact absurd h (depthFrom?_append_opening_ne_zero before (hin.depthFrom? 0))
    · exact hcl

instance (t : Text) : Decidable (Balanced t) :=
  decidable_of_iff _ balanced_iff.symm

/-- The brackets of a text decide its balance. -/
theorem balanced_filter_iff {t : Text} : Balanced (t.filter isBracket) ↔ Balanced t := by
  rw [balanced_iff, balanced_iff, depthFrom?_filter]

/-- A `]` is met at depth zero exactly if it follows a text that closes all open
    brackets. -/
theorem depthFrom?_eq_none_iff {d : Nat} {t : Text} :
    depthFrom? d t = none ↔ ∃ s u, t = s ++ ']' :: u ∧ depthFrom? d s = some 0 := by
  constructor
  · intro h
    induction t generalizing d with
    | nil => simp at h
    | cons c t ih =>
      rcases bracket_cases c with rfl | rfl | hc
      · rw [depthFrom?_opening] at h
        obtain ⟨s, u, rfl, hs⟩ := ih h
        exact ⟨'[' :: s, u, rfl, by rwa [depthFrom?_opening]⟩
      · cases d with
        | zero => exact ⟨[], t, rfl, rfl⟩
        | succ d =>
          rw [depthFrom?_closing_succ] at h
          obtain ⟨s, u, rfl, hs⟩ := ih h
          exact ⟨']' :: s, u, rfl, by rwa [depthFrom?_closing_succ]⟩
      · rw [depthFrom?_plain hc] at h
        obtain ⟨s, u, rfl, hs⟩ := ih h
        exact ⟨c :: s, u, rfl, by rwa [depthFrom?_plain hc]⟩
  · intro h
    obtain ⟨s, u, rfl, hs⟩ := h
    rw [depthFrom?_append, hs]
    simp

/-! ## Pairs -/

theorem Text.size_append_opening (s u : Text) :
    Text.size (s ++ '[' :: u) = s.size + 1 + u.size := by
  rw [Text.size_append, Text.size_cons, Nat.add_assoc]
  rfl

/-- An offset cuts a text in one way only. -/
theorem Text.append_inj_of_size {s t u v : Text} (h : s ++ t = u ++ v)
    (hsize : s.size = u.size) : s = u ∧ t = v := by
  induction s generalizing u with
  | nil =>
    cases u with
    | nil => exact ⟨rfl, h⟩
    | cons d u =>
      have := d.utf8Size_pos
      simp only [size_nil, size_cons] at hsize
      omega
  | cons c s ih =>
    cases u with
    | nil =>
      have := c.utf8Size_pos
      simp only [size_nil, size_cons] at hsize
      omega
    | cons d u =>
      rw [List.cons_append, List.cons_append, List.cons.injEq] at h
      obtain ⟨rfl, h⟩ := h
      obtain ⟨rfl, rfl⟩ := ih h (by simpa using hsize)
      exact ⟨rfl, rfl⟩

/-- A `[` has no partner exactly if the rest of the text never closes it. -/
theorem unpairedOpening_iff {t : Text} {i : Nat} :
    UnpairedOpening t i ↔ ∃ before inside : Text, t = before ++ '[' :: inside
      ∧ i = before.size ∧ ∃ k, depthFrom? 0 inside = some k := by
  constructor
  · intro h
    obtain ⟨⟨before, inside, rfl, rfl⟩, hnone⟩ := h
    refine ⟨before, inside, rfl, rfl, ?_⟩
    cases hd : depthFrom? 0 inside with
    | some k => exact ⟨k, rfl⟩
    | none =>
      -- The first `]` met at depth zero would be the partner.
      obtain ⟨s, u, rfl, hs⟩ := depthFrom?_eq_none_iff.mp hd
      exact absurd ⟨before, s, u, rfl, balanced_iff.mpr hs, rfl, rfl⟩ (hnone _)
  · intro h
    obtain ⟨before, inside, rfl, rfl, k, hk⟩ := h
    refine ⟨⟨before, inside, rfl, rfl⟩, ?_⟩
    intro j hj
    obtain ⟨before', s, u, ht, hs, hi, _⟩ := hj
    -- A partner would be a `]` met at depth zero.
    obtain ⟨rfl, hrest⟩ := Text.append_inj_of_size ht hi
    rw [List.cons.injEq] at hrest
    have hnone := depthFrom?_eq_none_iff.mpr ⟨s, u, hrest.2, hs.depthFrom? 0⟩
    rw [hk] at hnone
    simp at hnone

/-- A `]` has no partner exactly if no `[` before it is followed by a balanced
    text up to it. -/
theorem unpairedClosing_iff {t : Text} {j : Nat} :
    UnpairedClosing t j ↔ ∃ before after : Text, t = before ++ ']' :: after
      ∧ j = before.size ∧ ∀ s u, before = s ++ '[' :: u → ¬ Balanced u := by
  constructor
  · intro h
    obtain ⟨⟨before, after, rfl, rfl⟩, hnone⟩ := h
    refine ⟨before, after, rfl, rfl, ?_⟩
    intro s u hbefore hu
    subst hbefore
    exact hnone s.size ⟨s, u, after, by simp, hu, rfl, Text.size_append_opening s u⟩
  · intro h
    obtain ⟨before, after, rfl, rfl, hnone⟩ := h
    refine ⟨⟨before, after, rfl, rfl⟩, ?_⟩
    intro i hi
    obtain ⟨s, u, after', ht, hu, _, hj⟩ := hi
    have hcut : before ++ ']' :: after = (s ++ '[' :: u) ++ ']' :: after' := by
      rw [ht]; simp
    have hsize : before.size = Text.size (s ++ '[' :: u) := by
      rw [hj, Text.size_append_opening]
    exact hnone s u (Text.append_inj_of_size hcut hsize).1 hu

/-- **All brackets are paired exactly in balanced texts.** -/
theorem balanced_iff_no_unpaired {t : Text} :
    Balanced t ↔ (∀ i, ¬ UnpairedOpening t i) ∧ ∀ j, ¬ UnpairedClosing t j := by
  constructor
  · intro h
    have hd := h.depthFrom? 0
    constructor
    · intro i hi
      obtain ⟨before, inside, rfl, _, k, hk⟩ := unpairedOpening_iff.mp hi
      exact depthFrom?_append_opening_ne_zero before hk hd
    · intro j hj
      obtain ⟨before, after, rfl, _, hnone⟩ := unpairedClosing_iff.mp hj
      rw [depthFrom?_append] at hd
      obtain ⟨e, he, hafter⟩ := Option.bind_eq_some_iff.mp hd
      -- Some bracket is open before the `]`, and the innermost one is its partner.
      cases e with
      | zero => simp at hafter
      | succ e =>
        obtain ⟨s, u, rfl, hu⟩ := exists_innermost he
        exact hnone s u rfl hu
  · intro ⟨hopen, hclose⟩
    rw [balanced_iff]
    -- Otherwise the count fails at a `]`, or ends with a `[` left open.
    cases hd : depthFrom? 0 t with
    | none =>
      obtain ⟨s, u, rfl, hs⟩ := depthFrom?_eq_none_iff.mp hd
      refine absurd (unpairedClosing_iff.mpr ⟨s, u, rfl, rfl, ?_⟩) (hclose _)
      intro before inside hbefore hin
      subst hbefore
      exact depthFrom?_append_opening_ne_zero before (hin.depthFrom? 0) hs
    | some e =>
      cases e with
      | zero => rfl
      | succ e =>
        obtain ⟨before, inside, rfl, hin⟩ := exists_innermost hd
        have hi := unpairedOpening_iff.mpr ⟨before, inside, rfl, rfl, 0, hin.depthFrom? 0⟩
        exact absurd hi (hopen _)

/-! ## Text outside brackets -/

@[simp] theorem outside_opening (d : Nat) (t : Text) :
    outside d ('[' :: t) = outside (d + 1) t := by
  simp [outside]

@[simp] theorem outside_closing (d : Nat) (t : Text) :
    outside d (']' :: t) = outside (d - 1) t := by
  simp [outside]

theorem outside_plain {c : Char} (hc : isBracket c = false) (d : Nat) (t : Text) :
    outside d (c :: t) = if d = 0 then c :: outside d t else outside d t := by
  simp only [isBracket, Bool.or_eq_false_iff, beq_eq_false_iff_ne] at hc
  simp [outside, hc.1, hc.2]

theorem outside_append {d e : Nat} {s : Text} (h : depthFrom? d s = some e) (t : Text) :
    outside d (s ++ t) = outside d s ++ outside e t := by
  induction s generalizing d with
  | nil =>
    rw [depthFrom?_nil, Option.some.injEq] at h
    subst h
    rfl
  | cons c s ih =>
    rw [List.cons_append]
    rcases bracket_cases c with rfl | rfl | hc
    · rw [depthFrom?_opening] at h
      rw [outside_opening, outside_opening, ih h]
    · cases d with
      | zero => simp at h
      | succ d =>
        rw [depthFrom?_closing_succ] at h
        rw [outside_closing, outside_closing, Nat.add_sub_cancel, ih h]
    · rw [depthFrom?_plain hc] at h
      rw [outside_plain hc, outside_plain hc, ih h]
      split <;> rfl

/-- A text without brackets lies outside all brackets, or inside those opened
    before it. -/
theorem outside_of_forall {t : Text} (h : ∀ c ∈ t, isBracket c = false) (d : Nat) :
    outside d t = if d = 0 then t else [] := by
  induction t with
  | nil => simp [outside]
  | cons c t ih =>
    have ht := ih fun x hx => h x (by simp [hx])
    rw [outside_plain (h c (by simp)), ht]
    split <;> rfl

/-- Nothing of a balanced text lies outside brackets opened before it. -/
theorem Balanced.outside_succ {t : Text} (h : Balanced t) (d : Nat) : outside (d + 1) t = [] := by
  induction h generalizing d with
  | nil => rfl
  | plain hc _ ih =>
    rw [outside_plain hc, if_neg (Nat.succ_ne_zero d)]
    exact ih d
  | pair hs _ ihs iht =>
    rw [outside_opening, outside_append (hs.depthFrom? _), ihs, List.nil_append, outside_closing,
      Nat.add_sub_cancel]
    exact iht d

/-- A group does not count. -/
theorem outside_group {inside : Text} (h : Balanced inside) (t : Text) :
    outside 0 ('[' :: (inside ++ ']' :: t)) = outside 0 t := by
  rw [outside_opening, outside_append (h.depthFrom? _), h.outside_succ, List.nil_append,
    outside_closing]

/-- A character lies outside all brackets if the text before it closes them. -/
theorem mem_outside_iff {c : Char} (hc : isBracket c = false) {d e : Nat} {t : Text}
    (h : depthFrom? d t = some e) :
    c ∈ outside d t ↔ ∃ s u, t = s ++ c :: u ∧ depthFrom? d s = some 0 := by
  constructor
  · intro hmem
    induction t generalizing d with
    | nil => simp [outside] at hmem
    | cons b t ih =>
      rcases bracket_cases b with rfl | rfl | hb
      · rw [depthFrom?_opening] at h
        rw [outside_opening] at hmem
        obtain ⟨s, u, rfl, hs⟩ := ih h hmem
        exact ⟨'[' :: s, u, rfl, by rwa [depthFrom?_opening]⟩
      · cases d with
        | zero => simp at h
        | succ d =>
          rw [depthFrom?_closing_succ] at h
          rw [outside_closing, Nat.add_sub_cancel] at hmem
          obtain ⟨s, u, rfl, hs⟩ := ih h hmem
          exact ⟨']' :: s, u, rfl, by rwa [depthFrom?_closing_succ]⟩
      · rw [depthFrom?_plain hb] at h
        rw [outside_plain hb] at hmem
        -- The character `b` may be the one sought, but only outside all brackets.
        have hrec : c ∈ outside d t → ∃ s u, b :: t = s ++ c :: u ∧ depthFrom? d s = some 0 := by
          intro hin
          obtain ⟨s, u, rfl, hs⟩ := ih h hin
          exact ⟨b :: s, u, rfl, by rwa [depthFrom?_plain hb]⟩
        by_cases hd : d = 0
        · rw [if_pos hd] at hmem
          rcases List.mem_cons.mp hmem with rfl | hin
          · exact ⟨[], t, rfl, by rw [hd]; rfl⟩
          · exact hrec hin
        · rw [if_neg hd] at hmem
          exact hrec hmem
  · intro hex
    obtain ⟨s, u, rfl, hs⟩ := hex
    rw [outside_append hs, outside_plain hc, if_pos rfl]
    simp

end Sigil
