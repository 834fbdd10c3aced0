import Sigil.Proofs.Arithmetic.Grammar

/-! # Evaluation follows the grammar

    The evaluator reads a rule from one state to another exactly if the tokens between the
    two states have a derivation of the rule that is not nested too deeply.

    * `Spans`: what lies between two states.
    * `chain_ok_iff`, `more_ok_iff`, `exponent_ok_iff`, `unary_ok_iff`, `primary_ok_iff`: when
      a rule can be read.
    * `sound`: what is read has a derivation.
    * `complete`: what has a derivation is read, and the fuel lasts.
    * `evaluate_ok_iff_derivation`: the two together. -/

namespace Sigil.Arithmetic

theorem bind_eq_ok_iff {ε α β : Type} {x : Except ε α} {f : α → Except ε β} {b : β} :
    x >>= f = .ok b ↔ ∃ a, x = .ok a ∧ f a = .ok b := by
  cases x with
  | error e => exact ⟨nofun, nofun⟩
  | ok a =>
    constructor
    · intro h
      exact ⟨a, rfl, h⟩
    · intro ⟨a', ha, h⟩
      cases ha
      exact h

/-! ## What lies between two states -/

/-- From the state `s` the `tokens` lead to the state `s'`, which is on the same level of
    nesting, and `nesting` more levels are allowed between the two. -/
structure Spans (tokens : List Token) (nesting : Nat) (s s' : State) : Prop where
  read : ∃ placed, placed.map Placed.token = tokens ∧ s.rest = placed ++ s'.rest
  depth : s'.depth = s.depth
  allowed : s.depth + nesting ≤ maximumDepth

theorem Spans.peek? {ts : List Token} {n : Nat} {s s' : State} (h : Spans ts n s s') :
    s.peek? = (ts ++ s'.rest.map Placed.token).head? := by
  obtain ⟨placed, rfl, hrest⟩ := h.read
  rw [State.peek?, hrest, ← List.map_append, List.head?_map]

theorem spans_nil_iff {n : Nat} {s s' : State} :
    Spans [] n s s' ↔ s' = s ∧ s.depth + n ≤ maximumDepth := by
  constructor
  · intro ⟨⟨placed, hplaced, hrest⟩, hdepth, hallowed⟩
    rw [List.map_eq_nil_iff] at hplaced
    subst hplaced
    obtain ⟨rest, depth⟩ := s
    obtain ⟨rest', depth'⟩ := s'
    exact ⟨by rw [show depth' = depth from hdepth, show rest = rest' from hrest], hallowed⟩
  · intro ⟨heq, hallowed⟩
    subst heq
    exact ⟨⟨[], rfl, rfl⟩, rfl, hallowed⟩

theorem spans_cons_iff {t : Token} {ts : List Token} {n : Nat} {s s' : State} :
    Spans (t :: ts) n s s' ↔ s.peek? = some t ∧ Spans ts n s.advance s' := by
  constructor
  · intro h
    refine ⟨h.peek?, ?_, h.depth, h.allowed⟩
    obtain ⟨placed, hplaced, hrest⟩ := h.read
    obtain ⟨p, placed', rfl, -, hplaced'⟩ := List.map_eq_cons_iff.mp hplaced
    exact ⟨placed', hplaced', by rw [State.advance, hrest]; rfl⟩
  · intro ⟨hpeek, h⟩
    refine ⟨?_, h.depth, h.allowed⟩
    obtain ⟨p, hp, rfl⟩ := Option.map_eq_some_iff.mp hpeek
    obtain ⟨rest, hs⟩ := List.head?_eq_some_iff.mp hp
    obtain ⟨placed, hplaced, hrest⟩ := h.read
    refine ⟨p :: placed, by rw [List.map_cons, hplaced], ?_⟩
    rw [List.cons_append, ← hrest, State.advance, hs]
    rfl

theorem spans_append_iff {ts ts' : List Token} {n n' : Nat} {s s'' : State} :
    Spans (ts ++ ts') (max n n') s s'' ↔ ∃ s', Spans ts n s s' ∧ Spans ts' n' s' s'' := by
  constructor
  · intro ⟨⟨placed, hplaced, hrest⟩, hdepth, hallowed⟩
    -- The state between the two parts is on the level of both ends.
    obtain ⟨left, right, rfl, hleft, hright⟩ := List.map_eq_append_iff.mp hplaced
    refine ⟨⟨right ++ s''.rest, s.depth⟩, ⟨⟨left, hleft, ?_⟩, rfl, ?_⟩,
      ⟨⟨right, hright, rfl⟩, hdepth, ?_⟩⟩
    · rw [hrest, List.append_assoc]
    · omega
    · show s.depth + n' ≤ maximumDepth
      omega
  · intro ⟨s', ⟨⟨left, hleft, hrest⟩, hdepth, hallowed⟩, ⟨⟨right, hright, hrest'⟩, hdepth',
      hallowed'⟩⟩
    refine ⟨⟨left ++ right, by rw [List.map_append, hleft, hright], ?_⟩, ?_, ?_⟩
    · rw [hrest, hrest', List.append_assoc]
    · rw [hdepth', hdepth]
    · rw [hdepth] at hallowed'
      omega

theorem spans_concat_iff {ts : List Token} {t : Token} {n : Nat} {s s'' : State} :
    Spans (ts ++ [t]) n s s'' ↔
      ∃ s', Spans ts n s s' ∧ s'.peek? = some t ∧ s'.advance = s'' := by
  have happend : Spans (ts ++ [t]) (max n 0) s s'' ↔ _ := spans_append_iff
  rw [← Nat.max_zero n, happend, Nat.max_zero]
  refine exists_congr fun s' => and_congr_right fun hspans => ?_
  have hallowed : s'.advance.depth + 0 ≤ maximumDepth := by
    have hdepth : s'.advance.depth = s.depth := hspans.depth
    have hle := hspans.allowed
    omega
  rw [spans_cons_iff, spans_nil_iff, and_iff_left hallowed, eq_comm (a := s'')]

/-- A level is entered before the tokens on it and left after them. -/
theorem spans_nested_iff {ts : List Token} {n : Nat} {s s' : State} :
    Spans ts (n + 1) s s' ↔ ∃ s₁ s₂, s.descend = .ok s₁ ∧ Spans ts n s₁ s₂ ∧ s₂.ascend = s' := by
  constructor
  · intro ⟨hread, hdepth, hallowed⟩
    -- Inside, the same tokens are read one level deeper.
    refine ⟨{ s with depth := s.depth + 1 }, { s' with depth := s'.depth + 1 }, ?_,
      ⟨hread, ?_, ?_⟩, rfl⟩
    · rw [State.descend, if_neg (by omega)]
    · show s'.depth + 1 = s.depth + 1
      rw [hdepth]
    · show s.depth + 1 + n ≤ maximumDepth
      omega
  · intro ⟨s₁, s₂, hdescend, ⟨hread, hdepth, hallowed⟩, hascend⟩
    unfold State.descend at hdescend
    split at hdescend
    · cases hdescend
    · cases hdescend
      subst hascend
      have hdepth : s₂.depth = s.depth + 1 := hdepth
      have hallowed : s.depth + 1 + n ≤ maximumDepth := hallowed
      refine ⟨hread, ?_, by omega⟩
      show s₂.depth - 1 = s.depth
      omega

theorem State.depth_le_of_descend {s s₁ : State} (h : s.descend = .ok s₁) :
    s₁.depth ≤ maximumDepth := by
  unfold State.descend at h
  split at h
  · cases h
  · cases h
    show s.depth + 1 ≤ maximumDepth
    omega

/-! ## When a rule can be read -/

/-- Where an operator comes next, what is said of operators is said of this one. -/
theorem operator_or_iff_of_some {next : Option Token} {level : Level} {op : Operator level}
    {p : Operator level → Prop} {q : Prop} (h : next = some op.token) :
    ((∃ op, next = some op.token ∧ p op) ∨ (∀ op : Operator level, next ≠ some op.token) ∧ q)
      ↔ p op := by
  constructor
  · intro hor
    rcases hor with ⟨op', hop', hp⟩ | ⟨hnone, -⟩
    · rw [h, Option.some.injEq] at hop'
      rw [Operator.token_inj hop']
      exact hp
    · exact absurd h (hnone op)
  · intro hp
    exact .inl ⟨op, h, hp⟩

theorem operator_or_iff_of_none {next : Option Token} {level : Level}
    {p : Operator level → Prop} {q : Prop} (h : ∀ op : Operator level, next ≠ some op.token) :
    ((∃ op, next = some op.token ∧ p op) ∨ (∀ op : Operator level, next ≠ some op.token) ∧ q)
      ↔ q := by
  constructor
  · intro hor
    rcases hor with ⟨op, hop, -⟩ | ⟨-, hq⟩
    · exact absurd hop (h op)
    · exact hq
  · intro hq
    exact .inr ⟨h, hq⟩

section

variable {α : Type} (ops : Operations α)

/-- The function that reads a rule. -/
def readRule : Rule → Nat → State → Except ArithmeticError (α × State)
  | .chain .sum => expression ops
  | .chain .product => term ops
  | .exponent => exponent ops
  | .unary => unary ops
  | .primary => primary ops

/-- The function that reads the part of a chain that is repeated. -/
def readMore : Level → Nat → α → State → Except ArithmeticError (α × State)
  | .sum => sumFrom ops
  | .product => productFrom ops

variable {ops} {fuel : Nat} {s s' : State} {v : α}

theorem chain_ok_iff {level : Level} :
    readRule ops (.chain level) (fuel + 1) s = .ok (v, s') ↔
      ∃ w s₁, readRule ops level.operand fuel s = .ok (w, s₁)
        ∧ readMore ops level fuel w s₁ = .ok (v, s') := by
  cases level with
  | sum =>
    show expression ops (fuel + 1) s = .ok (v, s') ↔ _
    rw [expression, bind_eq_ok_iff, Prod.exists]
    rfl
  | product =>
    show term ops (fuel + 1) s = .ok (v, s') ↔ _
    rw [term, bind_eq_ok_iff, Prod.exists]
    rfl

theorem readMore_operator {level : Level} {op : Operator level} (left : α)
    (h : s.peek? = some op.token) :
    readMore ops level (fuel + 1) left s = (do
      let (w, s₁) ← readRule ops level.operand fuel s.advance
      readMore ops level fuel (ops.binary op left w) s₁) := by
  cases op with
  | plus | minus =>
    show sumFrom ops (fuel + 1) left s = _
    simp only [sumFrom, h, Operator.token]
    rfl
  | times | divide | remainder =>
    show productFrom ops (fuel + 1) left s = _
    simp only [productFrom, h, Operator.token]
    rfl

theorem readMore_stop {level : Level} (left : α)
    (h : ∀ op : Operator level, s.peek? ≠ some op.token) :
    readMore ops level (fuel + 1) left s = .ok (left, s) := by
  cases level with
  | sum =>
    show sumFrom ops (fuel + 1) left s = _
    rw [sumFrom]
    split
    · next hpeek => exact absurd hpeek (h .plus)
    · next hpeek => exact absurd hpeek (h .minus)
    · rfl
  | product =>
    show productFrom ops (fuel + 1) left s = _
    rw [productFrom]
    split
    · next hpeek => exact absurd hpeek (h .times)
    · next hpeek => exact absurd hpeek (h .divide)
    · next hpeek => exact absurd hpeek (h .remainder)
    · rfl

/-- The next token is an operator of the chain, and an operand follows; or it is none. -/
theorem more_ok_iff {level : Level} {left : α} :
    readMore ops level (fuel + 1) left s = .ok (v, s') ↔
      (∃ op : Operator level, s.peek? = some op.token
        ∧ ∃ w s₁, readRule ops level.operand fuel s.advance = .ok (w, s₁)
          ∧ readMore ops level fuel (ops.binary op left w) s₁ = .ok (v, s'))
      ∨ (∀ op : Operator level, s.peek? ≠ some op.token) ∧ left = v ∧ s = s' := by
  by_cases hop : ∃ op : Operator level, s.peek? = some op.token
  · obtain ⟨op, hop⟩ := hop
    rw [operator_or_iff_of_some hop, readMore_operator left hop, bind_eq_ok_iff, Prod.exists]
  · rw [not_exists] at hop
    rw [operator_or_iff_of_none hop, readMore_stop left hop, Except.ok.injEq, Prod.mk.injEq]

theorem unary_sign {sign : Sign} (h : s.peek? = some sign.token) :
    unary ops (fuel + 1) s = (do
      let s₁ ← s.advance.descend
      let (w, s₂) ← unary ops fuel s₁
      .ok (ops.signed sign w, s₂.ascend)) := by
  cases sign with
  | plus | minus =>
    simp only [unary, h, Operator.token]
    rfl

theorem unary_no_sign (h : ∀ sign : Sign, s.peek? ≠ some sign.token) :
    unary ops (fuel + 1) s = primary ops fuel s := by
  rw [unary]
  split
  · next hpeek => exact absurd hpeek (h .plus)
  · next hpeek => exact absurd hpeek (h .minus)
  · rfl

theorem unary_ok_iff :
    unary ops (fuel + 1) s = .ok (v, s') ↔
      (∃ sign : Sign, s.peek? = some sign.token ∧ ∃ s₁ w s₂, s.advance.descend = .ok s₁
        ∧ unary ops fuel s₁ = .ok (w, s₂) ∧ ops.signed sign w = v ∧ s₂.ascend = s')
      ∨ (∀ sign : Sign, s.peek? ≠ some sign.token) ∧ primary ops fuel s = .ok (v, s') := by
  by_cases hsign : ∃ sign : Sign, s.peek? = some sign.token
  · obtain ⟨sign, hsign⟩ := hsign
    rw [operator_or_iff_of_some hsign, unary_sign hsign]
    simp only [bind_eq_ok_iff, Prod.exists, Except.ok.injEq, Prod.mk.injEq, exists_and_left]
  · rw [not_exists] at hsign
    rw [operator_or_iff_of_none hsign, unary_no_sign hsign]

theorem exponent_sign {sign : Sign} (h : s.peek? = some sign.token) :
    exponent ops (fuel + 1) s = (do
      let (w, s₁) ← unary ops fuel s
      if s₁.peek? = some .doubleStar then .error (.ambiguousExponent (s₁.offset?.getD 0))
      else .ok (w, s₁)) := by
  cases sign with
  | plus | minus =>
    simp only [exponent, h, Operator.token]

theorem exponent_no_sign (h : ∀ sign : Sign, s.peek? ≠ some sign.token) :
    exponent ops (fuel + 1) s = (do
      let (base, s₁) ← primary ops fuel s
      if s₁.peek? = some .doubleStar then do
        let s₂ ← s₁.advance.descend
        let (power, s₃) ← exponent ops fuel s₂
        .ok (ops.pow base power, s₃.ascend)
      else .ok (base, s₁)) := by
  rw [exponent]
  split
  · next hpeek => exact absurd hpeek (h .plus)
  · next hpeek => exact absurd hpeek (h .minus)
  · rfl

theorem exponent_ok_iff :
    exponent ops (fuel + 1) s = .ok (v, s') ↔
      (∃ sign : Sign, s.peek? = some sign.token ∧ unary ops fuel s = .ok (v, s')
        ∧ s'.peek? ≠ some .doubleStar)
      ∨ (∀ sign : Sign, s.peek? ≠ some sign.token)
        ∧ ∃ base s₁, primary ops fuel s = .ok (base, s₁)
          ∧ ((s₁.peek? ≠ some .doubleStar ∧ base = v ∧ s₁ = s')
            ∨ s₁.peek? = some .doubleStar ∧ ∃ s₂ power s₃, s₁.advance.descend = .ok s₂
              ∧ exponent ops fuel s₂ = .ok (power, s₃) ∧ ops.pow base power = v
              ∧ s₃.ascend = s') := by
  by_cases hsign : ∃ sign : Sign, s.peek? = some sign.token
  · obtain ⟨sign, hsign⟩ := hsign
    rw [operator_or_iff_of_some hsign, exponent_sign hsign, bind_eq_ok_iff, Prod.exists]
    constructor
    · intro ⟨w, s₁, hw, hend⟩
      dsimp only at hend
      split at hend
      · cases hend
      · next hstar =>
        cases hend
        exact ⟨hw, hstar⟩
    · intro ⟨hv, hstar⟩
      exact ⟨v, s', hv, if_neg hstar⟩
  · rw [not_exists] at hsign
    rw [operator_or_iff_of_none hsign, exponent_no_sign hsign, bind_eq_ok_iff, Prod.exists]
    refine exists_congr fun base => exists_congr fun s₁ => and_congr_right fun _ => ?_
    by_cases hstar : s₁.peek? = some .doubleStar
    · simp only [hstar, if_true, bind_eq_ok_iff, Prod.exists, Except.ok.injEq, Prod.mk.injEq,
        exists_and_left, ne_eq, not_true, false_and, false_or, true_and]
    · simp only [hstar, if_false, Except.ok.injEq, Prod.mk.injEq, ne_eq, not_false_eq_true,
        true_and, false_and, or_false]

theorem primary_ok_iff :
    primary ops (fuel + 1) s = .ok (v, s') ↔
      (∃ literal, s.peek? = some (.number literal) ∧ ops.literal literal = v ∧ s.advance = s')
      ∨ s.peek? = some .leftParen ∧ ∃ s₁ s₂, s.advance.descend = .ok s₁
        ∧ expression ops fuel s₁ = .ok (v, s₂) ∧ s₂.ascend.peek? = some .rightParen
        ∧ s₂.ascend.advance = s' := by
  rw [primary]
  split
  · next literal hpeek => simp [hpeek]
  · next hpeek =>
    constructor
    · intro h
      obtain ⟨s₁, hs₁, h⟩ := bind_eq_ok_iff.mp h
      obtain ⟨⟨w, s₂⟩, hw, h⟩ := bind_eq_ok_iff.mp h
      dsimp only at h
      split at h
      · next hclose =>
        cases h
        exact .inr ⟨hpeek, s₁, s₂, hs₁, hw, hclose, rfl⟩
      · cases h
      · cases h
    · intro h
      rcases h with ⟨literal, hliteral, -⟩ | ⟨-, s₁, s₂, hs₁, hv, hclose, hs'⟩
      · rw [hpeek] at hliteral
        cases hliteral
      · refine bind_eq_ok_iff.mpr ⟨s₁, hs₁, bind_eq_ok_iff.mpr ⟨(v, s₂), hv, ?_⟩⟩
        simp only [hclose, hs']
  · next t hnumber hparen hpeek =>
    refine ⟨nofun, ?_⟩
    intro h
    rcases h with ⟨literal, hliteral, -⟩ | ⟨hleft, -⟩
    · rw [hpeek] at hliteral
      exact (hnumber literal (Option.some.inj hliteral)).elim
    · rw [hpeek] at hleft
      exact (hparen (Option.some.inj hleft)).elim
  · next hpeek => simp [hpeek]

/-! ## What is read has a derivation -/

/-- A primary does not start with a sign. -/
theorem Spans.peek?_ne_sign {d : Tree (.rule .primary)} {n : Nat} (h : Spans d.tokens n s s')
    (sign : Sign) : s.peek? ≠ some sign.token := by
  obtain ⟨t, ts, htokens, hne⟩ := d.primary_head
  rw [h.peek?, htokens, List.cons_append, List.head?_cons]
  intro heq
  exact hne sign (Option.some.inj heq).symm

variable (ops fuel) in
/-- With this much fuel only what has a derivation is read. -/
structure Sound : Prop where
  rule : ∀ (rule : Rule) {s s' : State} {v : α}, s.depth ≤ maximumDepth →
    readRule ops rule fuel s = .ok (v, s') →
    ∃ d : Tree (.rule rule), Spans d.tokens d.nesting s s' ∧ d.value ops = v
  more : ∀ (level : Level) {left : α} {s s' : State} {v : α}, s.depth ≤ maximumDepth →
    readMore ops level fuel left s = .ok (v, s') →
    ∃ d : Tree (.more level), Spans d.tokens d.nesting s s' ∧ d.value ops left = v

namespace Sound

theorem chain_succ (h : Sound ops fuel) {level : Level} (hs : s.depth ≤ maximumDepth)
    (hread : readRule ops (.chain level) (fuel + 1) s = .ok (v, s')) :
    ∃ d : Tree (.rule (.chain level)), Spans d.tokens d.nesting s s' ∧ d.value ops = v := by
  obtain ⟨w, s₁, hw, hv⟩ := chain_ok_iff.mp hread
  obtain ⟨first, hfirst, rfl⟩ := h.rule _ hs hw
  have hs₁ : s₁.depth ≤ maximumDepth := by
    rw [hfirst.depth]
    exact hs
  obtain ⟨rest, hrest, rfl⟩ := h.more _ hs₁ hv
  exact ⟨.chain first rest, spans_append_iff.mpr ⟨s₁, hfirst, hrest⟩, rfl⟩

theorem more_succ (h : Sound ops fuel) {level : Level} {left : α} (hs : s.depth ≤ maximumDepth)
    (hread : readMore ops level (fuel + 1) left s = .ok (v, s')) :
    ∃ d : Tree (.more level), Spans d.tokens d.nesting s s' ∧ d.value ops left = v := by
  rcases more_ok_iff.mp hread with ⟨op, hop, w, s₁, hw, hv⟩ | ⟨-, rfl, rfl⟩
  · obtain ⟨operand, hoperand, rfl⟩ := h.rule _ (s := s.advance) hs hw
    have hs₁ : s₁.depth ≤ maximumDepth := by
      rw [hoperand.depth]
      exact hs
    obtain ⟨rest, hrest, rfl⟩ := h.more _ hs₁ hv
    have hspans := spans_append_iff.mpr ⟨s₁, hoperand, hrest⟩
    exact ⟨.more op operand rest, spans_cons_iff.mpr ⟨hop, hspans⟩, rfl⟩
  · exact ⟨.stop, spans_nil_iff.mpr ⟨rfl, hs⟩, rfl⟩

theorem exponent_succ (h : Sound ops fuel) (hs : s.depth ≤ maximumDepth)
    (hread : exponent ops (fuel + 1) s = .ok (v, s')) :
    ∃ d : Tree (.rule .exponent), Spans d.tokens d.nesting s s' ∧ d.value ops = v := by
  rcases exponent_ok_iff.mp hread with ⟨sign, hsign, hv, -⟩ | ⟨-, base, s₁, hbase, hend⟩
  · -- What the rule for signs reads here starts with a sign, so it is a signed operand.
    obtain ⟨d, hd, rfl⟩ := h.rule .unary hs hv
    cases d with
    | unarySigned sign' operand => exact ⟨.signed sign' operand, hd, rfl⟩
    | unaryBare operand => exact absurd hsign (hd.peek?_ne_sign sign)
  · obtain ⟨b, hb, rfl⟩ := h.rule .primary hs hbase
    rcases hend with ⟨-, rfl, rfl⟩ | ⟨hstar, s₂, power, s₃, hs₂, hpower, rfl, rfl⟩
    · exact ⟨.unsigned b, hb, rfl⟩
    · obtain ⟨x, hx, rfl⟩ := h.rule .exponent (State.depth_le_of_descend hs₂) hpower
      have hnested := spans_nested_iff.mpr ⟨s₂, s₃, hs₂, hx, rfl⟩
      have hright := spans_cons_iff.mpr ⟨hstar, hnested⟩
      exact ⟨.power b x, spans_append_iff.mpr ⟨s₁, hb, hright⟩, rfl⟩

theorem unary_succ (h : Sound ops fuel) (hs : s.depth ≤ maximumDepth)
    (hread : unary ops (fuel + 1) s = .ok (v, s')) :
    ∃ d : Tree (.rule .unary), Spans d.tokens d.nesting s s' ∧ d.value ops = v := by
  rcases unary_ok_iff.mp hread with ⟨sign, hsign, s₁, w, s₂, hs₁, hw, rfl, rfl⟩ | ⟨-, hv⟩
  · obtain ⟨operand, hoperand, rfl⟩ := h.rule .unary (State.depth_le_of_descend hs₁) hw
    have hnested := spans_nested_iff.mpr ⟨s₁, s₂, hs₁, hoperand, rfl⟩
    exact ⟨.unarySigned sign operand, spans_cons_iff.mpr ⟨hsign, hnested⟩, rfl⟩
  · obtain ⟨operand, hoperand, rfl⟩ := h.rule .primary hs hv
    exact ⟨.unaryBare operand, hoperand, rfl⟩

theorem primary_succ (h : Sound ops fuel) (hs : s.depth ≤ maximumDepth)
    (hread : primary ops (fuel + 1) s = .ok (v, s')) :
    ∃ d : Tree (.rule .primary), Spans d.tokens d.nesting s s' ∧ d.value ops = v := by
  rcases primary_ok_iff.mp hread with ⟨literal, hliteral, rfl, rfl⟩
    | ⟨hopen, s₁, s₂, hs₁, hv, hclose, rfl⟩
  · have hnil : Spans [] 0 s.advance s.advance := spans_nil_iff.mpr ⟨rfl, hs⟩
    exact ⟨.number literal, spans_cons_iff.mpr ⟨hliteral, hnil⟩, rfl⟩
  · obtain ⟨inside, hinside, rfl⟩ := h.rule .expression (State.depth_le_of_descend hs₁) hv
    have hnested := spans_nested_iff.mpr ⟨s₁, s₂, hs₁, hinside, rfl⟩
    have hclosed := spans_concat_iff.mpr ⟨s₂.ascend, hnested, hclose, rfl⟩
    exact ⟨.group inside, spans_cons_iff.mpr ⟨hopen, hclosed⟩, rfl⟩

end Sound

variable (ops fuel) in
/-- **Soundness**, by induction on the fuel. -/
theorem sound : Sound ops fuel := by
  induction fuel with
  | zero =>
    constructor
    · intro rule s s' v _ hread
      cases rule with
      | chain level => cases level <;> cases hread
      | exponent => cases hread
      | unary => cases hread
      | primary => cases hread
    · intro level left s s' v _ hread
      cases level <;> cases hread
  | succ fuel ih =>
    constructor
    · intro rule s s' v hs hread
      cases rule with
      | chain level => exact ih.chain_succ hs hread
      | exponent => exact ih.exponent_succ hs hread
      | unary => exact ih.unary_succ hs hread
      | primary => exact ih.primary_succ hs hread
    · intro level left s s' v hs hread
      exact ih.more_succ hs hread

/-! ## What has a derivation is read -/

variable (ops) in
/-- The part can be read from `s` to `s'`, with the meaning `v`. -/
def Reads : (part : Part) → Nat → State → part.Meaning α → State → Prop
  | .rule rule, fuel, s, v, s' => readRule ops rule fuel s = .ok (v, s')
  | .more level, fuel, s, v, s' => ∀ left, readMore ops level fuel left s = .ok (v left, s')

/-- The calls from rule to rule before a token has to be read. -/
def Part.height : Part → Nat
  | .rule .primary | .more _ => 1
  | .rule .unary => 2
  | .rule .exponent => 3
  | .rule (.chain .product) => 4
  | .rule (.chain .sum) => 5

theorem Part.height_operand (level : Level) :
    (Part.rule level.operand).height < (Part.rule (.chain level)).height
      ∧ (Part.rule level.operand).height ≤ 6 := by
  cases level <;> decide

/-- An operand can end where the rest of its chain starts. -/
theorem Spans.ends_operand {level : Level} {rest : Tree (.more level)} {n : Nat}
    (h : Spans rest.tokens n s s') (hend : (Part.more level).Ends s'.peek?) :
    (Part.rule level.operand).Ends s.peek? := by
  rw [State.peek?, ← List.head?_map] at hend
  rw [h.peek?]
  exact hend.operand rest

namespace Tree

variable (ops) in
/-- The derivation is read wherever its tokens stand and it can end, if it is not nested
    too deeply there.  Between two tokens there are at most six calls, so the fuel lasts. -/
def Complete {part : Part} (d : Tree part) : Prop :=
  ∀ (fuel : Nat) (s s' : State), 6 * d.tokens.length + part.height ≤ fuel →
    part.Ends s'.peek? → Spans d.tokens d.nesting s s' → Reads ops part fuel s (d.value ops) s'

theorem Complete.chain {level : Level} {first : Tree (.rule level.operand)}
    {rest : Tree (.more level)} (hfirst : first.Complete ops) (hrest : rest.Complete ops) :
    (Tree.chain first rest).Complete ops := by
  intro fuel s s' hfuel hend hspans
  obtain ⟨s₁, hs₁, hs'⟩ := spans_append_iff.mp hspans
  have hnext := hs'.ends_operand hend.more
  have hheight := Part.height_operand level
  rw [tokens_chain, List.length_append] at hfuel
  cases fuel with
  | zero => omega
  | succ fuel =>
    have hread := hfirst fuel s s₁ (by omega) hnext hs₁
    -- A chain is higher than its operands, so there is fuel left for the rest of it.
    have hpos : 1 ≤ (Part.rule level.operand).height := by
      cases level <;> decide
    have hreadMore := hrest fuel s₁ s' (by simp only [Part.height]; omega) hend.more hs'
    exact chain_ok_iff.mpr ⟨_, s₁, hread, hreadMore _⟩

theorem Complete.stop {level : Level} : (Tree.stop : Tree (.more level)).Complete ops := by
  intro fuel s s' hfuel hend hspans left
  obtain ⟨rfl, -⟩ := spans_nil_iff.mp hspans
  cases fuel with
  | zero => cases hfuel
  | succ fuel => exact readMore_stop left hend.ne_operator

theorem Complete.more {level : Level} {op : Operator level}
    {operand : Tree (.rule level.operand)} {rest : Tree (.more level)}
    (hoperand : operand.Complete ops) (hrest : rest.Complete ops) :
    (Tree.more op operand rest).Complete ops := by
  intro fuel s s' hfuel hend hspans left
  obtain ⟨hop, hspans⟩ := spans_cons_iff.mp hspans
  obtain ⟨s₁, hs₁, hs'⟩ := spans_append_iff.mp hspans
  have hnext := hs'.ends_operand hend
  have hheight := Part.height_operand level
  simp only [tokens_more, List.length_cons, List.length_append, Part.height] at hfuel
  cases fuel with
  | zero => omega
  | succ fuel =>
    have hread := hoperand fuel s.advance s₁ (by omega) hnext hs₁
    have hreadMore := hrest fuel s₁ s' (by simp only [Part.height]; omega) hend hs'
    exact more_ok_iff.mpr (.inl ⟨op, hop, _, s₁, hread, hreadMore _⟩)

theorem Complete.unarySigned {sign : Sign} {operand : Tree (.rule .unary)}
    (hoperand : operand.Complete ops) : (Tree.unarySigned sign operand).Complete ops := by
  intro fuel s s' hfuel _ hspans
  obtain ⟨hsign, hspans⟩ := spans_cons_iff.mp hspans
  obtain ⟨s₁, s₂, hs₁, hs₂, hs'⟩ := spans_nested_iff.mp hspans
  simp only [tokens_unarySigned, List.length_cons, Part.height] at hfuel
  cases fuel with
  | zero => omega
  | succ fuel =>
    have hread := hoperand fuel s₁ s₂ (by simp only [Part.height]; omega) (Part.ends_unary _) hs₂
    exact unary_ok_iff.mpr (.inl ⟨sign, hsign, s₁, _, s₂, hs₁, hread, rfl, hs'⟩)

theorem Complete.unaryBare {operand : Tree (.rule .primary)} (hoperand : operand.Complete ops) :
    (Tree.unaryBare operand).Complete ops := by
  intro fuel s s' hfuel _ hspans
  simp only [tokens_unaryBare, Part.height] at hfuel
  cases fuel with
  | zero => omega
  | succ fuel =>
    have hread := hoperand fuel s s' (by simp only [Part.height]; omega) (Part.ends_primary _)
      hspans
    exact unary_ok_iff.mpr (.inr ⟨fun sign => Spans.peek?_ne_sign hspans sign, hread⟩)

theorem Complete.signed {sign : Sign} {operand : Tree (.rule .unary)}
    (hoperand : operand.Complete ops) : (Tree.signed sign operand).Complete ops := by
  intro fuel s s' hfuel hend hspans
  obtain ⟨hsign, -⟩ := spans_cons_iff.mp hspans
  simp only [tokens_signed, List.length_cons, Part.height] at hfuel
  cases fuel with
  | zero => omega
  | succ fuel =>
    -- The sign is not consumed here, but by the rule for signs.
    have hunary : (Tree.unarySigned sign operand).Complete ops := hoperand.unarySigned
    have hread := hunary fuel s s'
      (by simp only [tokens_unarySigned, List.length_cons, Part.height]; omega)
      (Part.ends_unary _) hspans
    exact exponent_ok_iff.mpr (.inl ⟨sign, hsign, hread, Part.ends_exponent_iff.mp hend⟩)

theorem Complete.unsigned {operand : Tree (.rule .primary)} (hoperand : operand.Complete ops) :
    (Tree.unsigned operand).Complete ops := by
  intro fuel s s' hfuel hend hspans
  simp only [tokens_unsigned, Part.height] at hfuel
  cases fuel with
  | zero => omega
  | succ fuel =>
    have hread := hoperand fuel s s' (by simp only [Part.height]; omega) (Part.ends_primary _)
      hspans
    have hstar := Part.ends_exponent_iff.mp hend
    exact exponent_ok_iff.mpr (.inr ⟨fun sign => Spans.peek?_ne_sign hspans sign, _, s', hread,
      .inl ⟨hstar, rfl, rfl⟩⟩)

theorem Complete.power {base : Tree (.rule .primary)} {exponent : Tree (.rule .exponent)}
    (hbase : base.Complete ops) (hexponent : exponent.Complete ops) :
    (Tree.power base exponent).Complete ops := by
  intro fuel s s' hfuel hend hspans
  obtain ⟨s₁, hs₁, hspans⟩ := spans_append_iff.mp hspans
  obtain ⟨hstar, hspans⟩ := spans_cons_iff.mp hspans
  obtain ⟨s₂, s₃, hs₂, hs₃, rfl⟩ := spans_nested_iff.mp hspans
  simp only [tokens_power, List.length_cons, List.length_append, Part.height] at hfuel
  cases fuel with
  | zero => omega
  | succ fuel =>
    have hread := hbase fuel s s₁ (by simp only [Part.height]; omega) (Part.ends_primary _) hs₁
    have hreadPower := hexponent fuel s₂ s₃ (by simp only [Part.height]; omega) hend hs₃
    exact exponent_ok_iff.mpr (.inr ⟨fun sign => Spans.peek?_ne_sign hs₁ sign, _, s₁, hread,
      .inr ⟨hstar, s₂, _, s₃, hs₂, hreadPower, rfl, rfl⟩⟩)

theorem Complete.number {literal : Text} : (Tree.number literal).Complete ops := by
  intro fuel s s' hfuel _ hspans
  obtain ⟨hliteral, hspans⟩ := spans_cons_iff.mp hspans
  obtain ⟨hs', -⟩ := spans_nil_iff.mp hspans
  cases fuel with
  | zero => cases hfuel
  | succ fuel => exact primary_ok_iff.mpr (.inl ⟨literal, hliteral, rfl, hs'.symm⟩)

theorem Complete.group {inside : Tree (.rule .expression)} (hinside : inside.Complete ops) :
    (Tree.group inside).Complete ops := by
  intro fuel s s' hfuel _ hspans
  obtain ⟨hopen, hspans⟩ := spans_cons_iff.mp hspans
  obtain ⟨s₃, hspans, hclose, hs'⟩ := spans_concat_iff.mp hspans
  obtain ⟨s₁, s₂, hs₁, hs₂, rfl⟩ := spans_nested_iff.mp hspans
  simp only [tokens_group, List.length_cons, List.length_append, Part.height] at hfuel
  -- Leaving a level does not move past a token, so `)` is next already inside.
  have hend : (Part.rule .expression).Ends s₂.peek? := by
    rw [show s₂.peek? = some .rightParen from hclose]
    exact Part.ends_rightParen _
  cases fuel with
  | zero => omega
  | succ fuel =>
    have hread := hinside fuel s₁ s₂ (by simp only [Part.height]; omega) hend hs₂
    exact primary_ok_iff.mpr (.inr ⟨hopen, s₁, s₂, hs₁, hread, hclose, hs'⟩)

variable (ops) in
/-- **Completeness**, by induction on the derivation. -/
theorem complete {part : Part} (d : Tree part) : d.Complete ops := by
  induction d with
  | chain first rest ihfirst ihrest => exact ihfirst.chain ihrest
  | stop => exact .stop
  | more op operand rest ihoperand ihrest => exact ihoperand.more ihrest
  | signed sign operand ih => exact ih.signed
  | unsigned operand ih => exact ih.unsigned
  | power base exponent ihbase ihexponent => exact ihbase.power ihexponent
  | unarySigned sign operand ih => exact ih.unarySigned
  | unaryBare operand ih => exact ih.unaryBare
  | number literal => exact .number
  | group inside ih => exact ih.group

end Tree

/-! ## Whole expressions -/

theorem evaluateTokens_ok_iff_read {placed : List Placed} :
    evaluateTokens ops placed = .ok v ↔ placed ≠ [] ∧ ∃ depth,
      expression ops (fuelFor placed) ⟨placed, 0⟩ = .ok (v, ⟨[], depth⟩) := by
  cases placed with
  | nil => exact ⟨nofun, fun h => absurd rfl h.1⟩
  | cons p rest =>
    rw [evaluateTokens, List.isEmpty_cons, if_neg (by decide), bind_eq_ok_iff, Prod.exists]
    constructor
    · intro ⟨w, ⟨left, depth⟩, hread, hend⟩
      cases left with
      | nil =>
        cases hend
        exact ⟨nofun, depth, hread⟩
      | cons next left => cases hend
    · intro ⟨_, depth, hread⟩
      exact ⟨v, ⟨[], depth⟩, hread, rfl⟩

/-- Tokens have a value exactly if they have a derivation that is not nested too deeply. -/
theorem evaluateTokens_ok_iff {placed : List Placed} :
    evaluateTokens ops placed = .ok v ↔ ∃ d : Tree (.rule .expression),
      d.tokens = placed.map Placed.token ∧ d.nesting ≤ maximumDepth ∧ d.value ops = v := by
  rw [evaluateTokens_ok_iff_read]
  constructor
  · intro ⟨_, depth, hread⟩
    obtain ⟨d, ⟨⟨read, htokens, hrest⟩, -, hnesting⟩, hv⟩ :=
      (sound ops (fuelFor placed)).rule .expression (s := ⟨placed, 0⟩) (Nat.zero_le _) hread
    have hplaced : placed = read ++ [] := hrest
    rw [List.append_nil] at hplaced
    rw [Nat.zero_add] at hnesting
    exact ⟨d, by rw [hplaced, htokens], hnesting, hv⟩
  · intro ⟨d, htokens, hnesting, hv⟩
    have hne : placed ≠ [] := by
      intro hnil
      rw [hnil] at htokens
      exact d.tokens_ne_nil htokens
    have hspans : Spans d.tokens d.nesting ⟨placed, 0⟩ ⟨[], 0⟩ := by
      refine ⟨⟨placed, htokens.symm, (List.append_nil _).symm⟩, rfl, ?_⟩
      show 0 + d.nesting ≤ maximumDepth
      omega
    have hfuel : 6 * d.tokens.length + (Part.rule .expression).height ≤ fuelFor placed := by
      rw [htokens, List.length_map, fuelFor, Part.height]
      omega
    rw [← hv]
    exact ⟨hne, 0, d.complete ops _ _ _ hfuel (Part.ends_none _) hspans⟩

/-- **Evaluation.**  A text has a value exactly if it can be cut into tokens and they have a
    derivation that is nested in at most 256 levels; the value is that of the derivation.
    There is never more than one derivation. -/
theorem evaluate_ok_iff_derivation {α : Type} (ops : Operations α) (t : Text) :
    (∀ v, evaluate ops t = .ok v ↔ ∃ placed, tokenize t = .ok placed
      ∧ ∃ d : Tree (.rule .expression), d.tokens = placed.map Placed.token
        ∧ d.nesting ≤ 256 ∧ d.value ops = v)
    ∧ ∀ d d' : Tree (.rule .expression), d.tokens = d'.tokens → d = d' := by
  constructor
  · intro v
    rw [evaluate, bind_eq_ok_iff]
    simp only [evaluateTokens_ok_iff]
    rfl
  · intro d d' h
    exact Tree.eq_of_tokens_eq h

end

end Sigil.Arithmetic
