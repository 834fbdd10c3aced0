import Sigil.Proofs.Arithmetic.Evaluation

/-! # Runs of the evaluator

    The evaluator hands a state from rule to rule and forgets it when it fails.  To speak of a
    whole run, also of one that fails, its steps are written down once more over a memory that
    is changed in place, together with all contents that the memory has had.

    * `Memory`, `Trace`: the memory, and its history.
    * `Machine`: computations that change the memory.
    * `Machine.rule`, `Machine.more`: the rules of the grammar.
    * `Machine.run`: the evaluation of tokens.
    * `Follows`: a computation does what the evaluator does. -/

namespace Sigil.Arithmetic

/-! ## Memory -/

/-- What is kept while tokens are evaluated. -/
structure Memory where
  /-- The number of tokens that have been passed. -/
  position : Nat
  /-- The level of nesting.  It is below zero if more levels are left than were entered. -/
  depth : Int
  /-- The number of rules that have been called and have not returned. -/
  calls : Nat
  /-- Has the offset of a token been taken for 0 because there is no such token? -/
  fallback : Bool
deriving DecidableEq, Repr

/-- The memory, and all that it has held before, latest first. -/
structure Trace where
  now : Memory
  past : List Memory
deriving DecidableEq, Repr

namespace Trace

/-- Nothing has been done. -/
def start : Trace where
  now := { position := 0, depth := 0, calls := 0, fallback := false }
  past := []

/-- Everything that the memory has held. -/
def contents (trace : Trace) : List Memory :=
  trace.now :: trace.past

/-- Change the memory. -/
def write (trace : Trace) (m : Memory) : Trace where
  now := m
  past := trace.contents

end Trace

/-! ## Computations -/

/-- **Computations** on the memory.  One that fails leaves the memory as it is then. -/
abbrev Machine : Type → Type :=
  ExceptT ArithmeticError (StateM Trace)

namespace Machine

/-- The result of a computation, and the trace with what it has written. -/
def exec {β : Type} (x : Machine β) (trace : Trace) : Except ArithmeticError β × Trace :=
  x.run.run trace

section

variable {β γ : Type} {x : Machine β} {f : β → Machine γ} {trace trace' : Trace}

theorem exec_bind_ok {b : β} (h : x.exec trace = (.ok b, trace')) :
    (x >>= f).exec trace = (f b).exec trace' := by
  show (ExceptT.bindCont f (x.exec trace).1).run (x.exec trace).2 = _
  rw [h]
  rfl

theorem exec_bind_error {e : ArithmeticError} (h : x.exec trace = (.error e, trace')) :
    (x >>= f).exec trace = (.error e, trace') := by
  show (ExceptT.bindCont f (x.exec trace).1).run (x.exec trace).2 = _
  rw [h]
  rfl

end

/-- Change the memory. -/
def update (f : Memory → Memory) : Machine Unit :=
  modify fun trace => trace.write (f trace.now)

/-- Call a rule. -/
def call {β : Type} (x : Machine β) : Machine β := do
  update fun m => { m with calls := m.calls + 1 }
  let value ← x
  -- A rule that fails is never left.
  update fun m => { m with calls := m.calls - 1 }
  return value

/-- Move past the next token. -/
def advance : Machine Unit :=
  update fun m => { m with position := m.position + 1 }

/-- Leave a level of nesting. -/
def ascend : Machine Unit :=
  update fun m => { m with depth := m.depth - 1 }

/-- Fail at an offset, or at 0 if there is none. -/
def failAt {β : Type} (error : Nat → ArithmeticError) : Option Nat → Machine β
  | some offset => throw (error offset)
  | none => do
    update fun m => { m with fallback := true }
    throw (error 0)

section

variable (tokens : List Placed)

/-- The next token, with its offset. -/
def next? : Machine (Option Placed) := do
  return tokens[(← get).now.position]?

/-- The next token. -/
def peek? : Machine (Option Token) := do
  return (← next? tokens).map Placed.token

/-- The offset of the next token. -/
def offset? : Machine (Option Nat) := do
  return (← next? tokens).map Placed.offset

/-- Enter a level of nesting. -/
def descend : Machine Unit := do
  -- The level is counted before it is refused.
  update fun m => { m with depth := m.depth + 1 }
  if (← get).now.depth > maximumDepth then failAt .tooDeep (← offset? tokens)
  else return ()

end

end Machine

/-- The operator of a chain that a token stands for. -/
def Level.operator? : (level : Level) → Option Token → Option (Operator level)
  | .sum, some .plus => some .plus
  | .sum, some .minus => some .minus
  | .product, some .star => some .times
  | .product, some .slash => some .divide
  | .product, some .percent => some .remainder
  | _, _ => none

theorem Level.operator?_token {level : Level} (op : Operator level) :
    level.operator? (some op.token) = some op := by
  cases op <;> rfl

theorem Level.operator?_eq_none {level : Level} {next : Option Token}
    (h : ∀ op : Operator level, next ≠ some op.token) : level.operator? next = none := by
  unfold Level.operator?
  split
  · exact absurd rfl (h .plus)
  · exact absurd rfl (h .minus)
  · exact absurd rfl (h .times)
  · exact absurd rfl (h .divide)
  · exact absurd rfl (h .remainder)
  · rfl

namespace Machine

variable {α : Type} (ops : Operations α) (tokens : List Placed)

mutual

/-- Follow a rule of the grammar. -/
def rule : Nat → Rule → Machine α
  | 0, _ => throw .unexpectedEnd
  | fuel + 1, .chain level => do
    let first ← call (rule fuel level.operand)
    more fuel level first
  | fuel + 1, .exponent => do
    match Level.sum.operator? (← peek? tokens) with
    | some _ =>
      let value ← call (rule fuel .unary)
      if (← peek? tokens) = some .doubleStar then
        failAt .ambiguousExponent (← offset? tokens)
      else return value
    | none =>
      let base ← call (rule fuel .primary)
      if (← peek? tokens) = some .doubleStar then
        advance
        descend tokens
        let power ← call (rule fuel .exponent)
        ascend
        return ops.pow base power
      else return base
  | fuel + 1, .unary => do
    match Level.sum.operator? (← peek? tokens) with
    | some sign =>
      advance
      descend tokens
      let value ← call (rule fuel .unary)
      ascend
      return ops.signed sign value
    | none => call (rule fuel .primary)
  | fuel + 1, .primary => do
    -- Behind the parenthesis this would be the offset of another token.
    let offset ← offset? tokens
    match ← peek? tokens with
    | some (.number literal) =>
      advance
      return ops.literal literal
    | some .leftParen =>
      advance
      descend tokens
      let value ← call (rule fuel .expression)
      ascend
      match ← peek? tokens with
      | some .rightParen =>
        advance
        return value
      | some _ => failAt .unexpectedToken (← offset? tokens)
      | none => failAt .unclosedParenthesis offset
    | some _ => failAt .unexpectedToken offset
    | none => throw .unexpectedEnd

/-- The operands that follow in a chain, one in each turn of a loop. -/
def more : Nat → Level → α → Machine α
  | 0, _, _ => throw .unexpectedEnd
  | fuel + 1, level, left => do
    match level.operator? (← peek? tokens) with
    | some op =>
      advance
      let operand ← call (rule fuel level.operand)
      more fuel level (ops.binary op left operand)
    | none => return left

end

/-- The value of all tokens. -/
def run : Machine α := do
  if tokens.isEmpty then throw .empty
  else
    let value ← call (rule ops tokens (fuelFor tokens) .expression)
    match ← offset? tokens with
    | some offset => throw (.unexpectedToken offset)
    | none => return value

end Machine

/-! ## What a computation does -/

/-- **Bounds** on the memory. -/
structure Memory.Bounded (tokens : List Placed) (m : Memory) : Prop where
  depth_nonneg : 0 ≤ m.depth
  depth_le : m.depth ≤ maximumDepth + 1
  calls_le : m.calls ≤ 5 * (m.depth + 1)
  position_le : m.position ≤ tokens.length

/-- The memory is that of an evaluator in the state `s`. -/
structure Memory.Holds (tokens : List Placed) (m : Memory) (s : State) : Prop where
  rest : s.rest = tokens.drop m.position
  position_le : m.position ≤ tokens.length
  depth : m.depth = s.depth
  depth_le : s.depth ≤ maximumDepth
  calls_le : m.calls ≤ 5 * (s.depth + 1)
  fallback : m.fallback = false

/-- The tokens behind which a level of nesting is entered. -/
def Token.OpensLevel (token : Token) : Prop :=
  token = .leftParen ∨ token = .doubleStar ∨ ∃ sign : Sign, token = sign.token

/-- **Blame.**  The memory in which an evaluation fails, and the error.  No error but that of a
    nesting too deep is ever placed where there is no token. -/
def Memory.Explains (tokens : List Placed) (m : Memory) : ArithmeticError → Prop
  | .unexpectedToken k => m.fallback = false ∧ ∃ token, tokens[m.position]? = some ⟨k, token⟩
  | .unexpectedEnd => m.fallback = false ∧ m.position = tokens.length
  | .unclosedParenthesis k => m.fallback = false ∧ ∃ before after,
      tokens = before ++ ⟨k, .leftParen⟩ :: after
        ∧ ∃ d : Tree (.rule .expression), d.tokens = after.map Placed.token
  | .ambiguousExponent k => m.fallback = false ∧ tokens[m.position]? = some ⟨k, .doubleStar⟩
  | .tooDeep k => m.depth = maximumDepth + 1 ∧ ∃ before opener after,
      tokens = before ++ opener :: after ∧ m.position = before.length + 1
        ∧ opener.token.OpensLevel
        ∧ (m.fallback = false ∧ (∃ token, after.head? = some ⟨k, token⟩)
          ∨ m.fallback = true ∧ after = [] ∧ k = 0)
  | .empty | .invalidNumber _ | .invalidCharacter _ _ | .incrementOperator _ => False

/-- Everything that has been written is within the bounds. -/
def Trace.Extends (tokens : List Placed) (trace trace' : Trace) : Prop :=
  ∀ m ∈ trace'.contents, m ∈ trace.contents ∨ m.Bounded tokens

/-- **Following the evaluator.**  A computation and the evaluator return the same value, the one
    with the memory of the state that the other returns; or both fail with the same error, which
    the memory explains. -/
inductive Follows (tokens : List Placed) (trace : Trace) {β : Type} :
    Except ArithmeticError β × Trace → Except ArithmeticError (β × State) → Prop where
  | returned {value : β} {s : State} {trace' : Trace} : trace.Extends tokens trace' →
      trace'.now.Holds tokens s → trace'.now.calls = trace.now.calls →
      Follows tokens trace (.ok value, trace') (.ok (value, s))
  | failed {e : ArithmeticError} {trace' : Trace} : trace.Extends tokens trace' →
      trace'.now.Explains tokens e → Follows tokens trace (.error e, trace') (.error e)

section

variable {tokens : List Placed} {m : Memory} {s : State} {trace trace' trace'' : Trace}
  {β γ : Type}

theorem Memory.Holds.bounded (h : m.Holds tokens s) : m.Bounded tokens where
  depth_nonneg := by
    rw [h.depth]
    omega
  depth_le := by
    have hle := h.depth_le
    rw [h.depth]
    omega
  calls_le := by
    have hle := h.calls_le
    rw [h.depth]
    omega
  position_le := h.position_le

theorem Memory.Holds.head? (h : m.Holds tokens s) : s.rest.head? = tokens[m.position]? := by
  rw [h.rest, List.head?_drop]

/-- Where a token comes next, it has an offset. -/
theorem Memory.Holds.exists_offset {token : Token} (h : m.Holds tokens s)
    (hnext : s.peek? = some token) :
    ∃ k, tokens[m.position]? = some ⟨k, token⟩ ∧ s.offset? = some k := by
  obtain ⟨p, hp, rfl⟩ := Option.map_eq_some_iff.mp hnext
  refine ⟨p.offset, ?_, ?_⟩
  · rw [← h.head?, hp]
  · rw [State.offset?, hp]
    rfl

/-- The tokens that have been passed, the next one, and those behind it. -/
theorem Memory.Holds.eq_append_cons {p : Placed} (h : m.Holds tokens s)
    (hnext : tokens[m.position]? = some p) :
    tokens = tokens.take m.position ++ p :: s.advance.rest := by
  obtain ⟨hlt, hget⟩ := List.getElem?_eq_some_iff.mp hnext
  rw [State.advance, h.rest, List.tail_drop, ← hget, List.getElem_cons_drop,
    List.take_append_drop]

/-- Where none comes next, all have been passed. -/
theorem Memory.Holds.position_eq (h : m.Holds tokens s) (hnext : s.peek? = none) :
    m.position = tokens.length := by
  rw [State.peek?, h.head?, Option.map_eq_none_iff, List.getElem?_eq_none_iff] at hnext
  exact Nat.le_antisymm h.position_le hnext

theorem Trace.Extends.refl (trace : Trace) : trace.Extends tokens trace :=
  fun _ hm => .inl hm

theorem Trace.Extends.trans (h : trace.Extends tokens trace')
    (h' : trace'.Extends tokens trace'') : trace.Extends tokens trace'' := by
  intro m hm
  rcases h' m hm with hm' | hbounded
  · exact h m hm'
  · exact .inr hbounded

theorem Trace.extends_write (hm : m.Bounded tokens) : trace.Extends tokens (trace.write m) := by
  intro m' hm'
  rcases List.mem_cons.mp hm' with rfl | hm'
  · exact .inr hm
  · exact .inl hm'

namespace Follows

variable {result : Except ArithmeticError β × Trace} {y : Except ArithmeticError (β × State)}

theorem result_eq (h : Follows tokens trace result y) : result.1 = y.map Prod.fst := by
  cases h with
  | returned => rfl
  | failed => rfl

theorem extends_trace (h : Follows tokens trace result y) : trace.Extends tokens result.2 := by
  cases h with
  | returned hextends => exact hextends
  | failed hextends => exact hextends

theorem holds {value : β} (h : Follows tokens trace result y) (hresult : result.1 = .ok value) :
    ∃ s, result.2.now.Holds tokens s := by
  cases h with
  | returned _ hholds => exact ⟨_, hholds⟩
  | failed => cases hresult

theorem explains {e : ArithmeticError} (h : Follows tokens trace result y)
    (he : result.1 = .error e) : result.2.now.Explains tokens e := by
  cases h with
  | returned => cases he
  | failed _ hexplains =>
    cases he
    exact hexplains

/-- What has been written before does not matter. -/
theorem extend (h : Follows tokens trace' result y) (hextends : trace.Extends tokens trace')
    (hcalls : trace'.now.calls = trace.now.calls) : Follows tokens trace result y := by
  cases h with
  | returned hext hholds hsame => exact .returned (hextends.trans hext) hholds (hsame.trans hcalls)
  | failed hext hexplains => exact .failed (hextends.trans hext) hexplains

theorem bind {x : Machine β} {f : β → Machine γ}
    {g : β × State → Except ArithmeticError (γ × State)}
    (hx : Follows tokens trace (x.exec trace) y)
    (hf : ∀ value s trace', y = .ok (value, s) → trace'.now.Holds tokens s →
      trace'.now.calls = trace.now.calls →
      Follows tokens trace' ((f value).exec trace') (g (value, s))) :
    Follows tokens trace ((x >>= f).exec trace) (y >>= g) := by
  generalize hresult : x.exec trace = result at hx
  cases hx with
  | returned hext hholds hcalls =>
    rw [Machine.exec_bind_ok hresult]
    exact (hf _ _ _ rfl hholds hcalls).extend hext hcalls
  | failed hext hexplains =>
    rw [Machine.exec_bind_error hresult]
    exact .failed hext hexplains

/-- A computation that returns at once. -/
theorem pure (h : trace.now.Holds tokens s) (value : β) :
    Follows tokens trace ((Pure.pure value : Machine β).exec trace) (.ok (value, s)) :=
  .returned (.refl trace) h rfl

/-- A computation that fails at once. -/
theorem throw {e : ArithmeticError} (h : trace.now.Explains tokens e) :
    Follows tokens trace ((MonadExcept.throw e : Machine β).exec trace)
      (.error e : Except ArithmeticError (β × State)) :=
  .failed (.refl trace) h

/-- The memory is changed to that of another state, on which the computation goes on. -/
theorem update {f : Memory → Memory} {k : Unit → Machine β}
    (h : (f trace.now).Holds tokens s) (hcalls : (f trace.now).calls = trace.now.calls)
    (hk : ∀ trace', trace'.now.Holds tokens s → trace'.now.calls = trace.now.calls →
      Follows tokens trace' ((k ()).exec trace') y) :
    Follows tokens trace ((Machine.update f >>= k).exec trace) y := by
  show Follows tokens trace ((k ()).exec (trace.write (f trace.now))) y
  exact (hk _ h hcalls).extend (Trace.extends_write h.bounded) hcalls

/-- Moving past the next token. -/
theorem advance {token : Token} {k : Unit → Machine β} (h : trace.now.Holds tokens s)
    (hnext : s.peek? = some token)
    (hk : ∀ trace', trace'.now.Holds tokens s.advance → trace'.now.calls = trace.now.calls →
      Follows tokens trace' ((k ()).exec trace') y) :
    Follows tokens trace ((Machine.advance >>= k).exec trace) y := by
  have hlt : trace.now.position < tokens.length := by
    rw [State.peek?, h.head?] at hnext
    obtain ⟨p, hp, -⟩ := Option.map_eq_some_iff.mp hnext
    exact (List.getElem?_eq_some_iff.mp hp).1
  refine update ?_ rfl hk
  refine ⟨?_, hlt, h.depth, h.depth_le, h.calls_le, h.fallback⟩
  rw [State.advance, h.rest, List.tail_drop]

/-- Leaving a level that was entered. -/
theorem ascend {k : Unit → Machine β} (h : trace.now.Holds tokens s) (hpos : 0 < s.depth)
    (hcalls : trace.now.calls ≤ 5 * s.depth)
    (hk : ∀ trace', trace'.now.Holds tokens s.ascend → trace'.now.calls = trace.now.calls →
      Follows tokens trace' ((k ()).exec trace') y) :
    Follows tokens trace ((Machine.ascend >>= k).exec trace) y := by
  refine update ?_ rfl hk
  have hdepth := h.depth
  have hle := h.depth_le
  refine ⟨h.rest, h.position_le, ?_, ?_, ?_, h.fallback⟩
  · show trace.now.depth - 1 = ((s.depth - 1 : Nat) : Int)
    omega
  · show s.depth - 1 ≤ maximumDepth
    omega
  · show trace.now.calls ≤ 5 * (s.depth - 1 + 1)
    omega

end Follows

/-- The next token is that of the state. -/
theorem Machine.exec_peek? (h : trace.now.Holds tokens s) (k : Option Token → Machine β) :
    (Machine.peek? tokens >>= k).exec trace = (k s.peek?).exec trace := by
  show (k (tokens[trace.now.position]?.map Placed.token)).exec trace = _
  rw [State.peek?, h.head?]

theorem Machine.exec_offset? (h : trace.now.Holds tokens s) (k : Option Nat → Machine β) :
    (Machine.offset? tokens >>= k).exec trace = (k s.offset?).exec trace := by
  show (k (tokens[trace.now.position]?.map Placed.offset)).exec trace = _
  rw [State.offset?, h.head?]

/-- The memory is changed before the level is looked at. -/
theorem Machine.exec_descend (tokens : List Placed) (trace : Trace) :
    (Machine.descend tokens).exec trace =
      if trace.now.depth + 1 > maximumDepth then
        (Machine.failAt .tooDeep (tokens[trace.now.position]?.map Placed.offset)).exec
          (trace.write { trace.now with depth := trace.now.depth + 1 })
      else (.ok (), trace.write { trace.now with depth := trace.now.depth + 1 }) := by
  show Machine.exec (if trace.now.depth + 1 > maximumDepth then _ else _) _ = _
  split
  · rfl
  · rfl

namespace Follows

variable {result : Except ArithmeticError β × Trace} {y : Except ArithmeticError (β × State)}

/-- Calling a rule.  While it runs there is one call more. -/
theorem call {x : Machine β} (h : trace.now.Holds tokens s)
    (hcalls : trace.now.calls + 1 ≤ 5 * (s.depth + 1))
    (hx : ∀ trace', trace'.now.Holds tokens s → trace'.now.calls = trace.now.calls + 1 →
      Follows tokens trace' (x.exec trace') y) :
    Follows tokens trace ((Machine.call x).exec trace) y := by
  let entered : Memory := { trace.now with calls := trace.now.calls + 1 }
  have hentered : entered.Holds tokens s :=
    ⟨h.rest, h.position_le, h.depth, h.depth_le, hcalls, h.fallback⟩
  have hextends : trace.Extends tokens (trace.write entered) :=
    Trace.extends_write hentered.bounded
  show Follows tokens trace ((x >>= fun value => do
    Machine.update fun m => { m with calls := m.calls - 1 }
    return value).exec (trace.write entered)) y
  -- What follows on the call depends on how it ends.
  have hinside := hx (trace.write entered) hentered rfl
  generalize hresult : x.exec (trace.write entered) = result at hinside
  cases hinside with
  | @returned value s' trace' hext hholds hsame =>
    have hsame : trace'.now.calls = trace.now.calls + 1 := hsame
    have hleft : Memory.Holds tokens { trace'.now with calls := trace'.now.calls - 1 } s' :=
      ⟨hholds.rest, hholds.position_le, hholds.depth, hholds.depth_le,
        Nat.le_trans (Nat.sub_le _ _) hholds.calls_le, hholds.fallback⟩
    rw [Machine.exec_bind_ok hresult]
    refine .returned ((hextends.trans hext).trans (Trace.extends_write hleft.bounded)) hleft ?_
    show trace'.now.calls - 1 = trace.now.calls
    omega
  | failed hext hexplains =>
    rw [Machine.exec_bind_error hresult]
    exact .failed (hextends.trans hext) hexplains

/-- Entering a level.  Where there are too many, this fails at the next token or at none. -/
theorem descend {k : Unit → Machine β} {g : State → Except ArithmeticError (β × State)}
    {before : List Placed} {opener : Placed} (h : trace.now.Holds tokens s)
    (htokens : tokens = before ++ opener :: s.rest) (hopens : opener.token.OpensLevel)
    (hk : ∀ s₁ trace', s.descend = .ok s₁ → trace'.now.Holds tokens s₁ →
      trace'.now.calls = trace.now.calls → Follows tokens trace' ((k ()).exec trace') (g s₁)) :
    Follows tokens trace ((Machine.descend tokens >>= k).exec trace) (s.descend >>= g) := by
  have hdepth := h.depth
  have hle := h.depth_le
  have hcalls := h.calls_le
  let deeper : Memory := { trace.now with depth := trace.now.depth + 1 }
  have hbounded : deeper.Bounded tokens := by
    refine ⟨?_, ?_, ?_, h.position_le⟩
    · show 0 ≤ trace.now.depth + 1
      omega
    · show trace.now.depth + 1 ≤ maximumDepth + 1
      omega
    · show trace.now.calls ≤ 5 * (trace.now.depth + 1 + 1)
      omega
  have hextends : trace.Extends tokens (trace.write deeper) := Trace.extends_write hbounded
  have hexec := Machine.exec_descend tokens trace
  by_cases hdeep : s.depth + 1 > maximumDepth
  · have hdescend : s.descend = .error (.tooDeep (s.offset?.getD 0)) := if_pos hdeep
    have hlast : deeper.depth = maximumDepth + 1 := by
      show trace.now.depth + 1 = maximumDepth + 1
      omega
    have hposition : trace.now.position = before.length + 1 := by
      have hle := h.position_le
      have hlength := congrArg List.length htokens
      rw [h.rest, List.length_append, List.length_cons, List.length_drop] at hlength
      omega
    rw [if_pos (by omega), ← h.head?] at hexec
    rw [hdescend, State.offset?]
    cases hnext : s.rest with
    | cons p after =>
      rw [hnext] at hexec htokens
      rw [Machine.exec_bind_error hexec]
      exact .failed hextends ⟨hlast, before, opener, p :: after, htokens, hposition, hopens,
        .inl ⟨h.fallback, p.token, rfl⟩⟩
    | nil =>
      -- There is no token to blame.
      rw [hnext] at hexec htokens
      rw [Machine.exec_bind_error hexec]
      refine .failed (hextends.trans (Trace.extends_write ?_)) ⟨hlast, before, opener, [], htokens,
        hposition, hopens, .inr ⟨rfl, rfl, rfl⟩⟩
      exact ⟨hbounded.depth_nonneg, hbounded.depth_le, hbounded.calls_le, hbounded.position_le⟩
  · have hdescend : s.descend = .ok { s with depth := s.depth + 1 } := if_neg hdeep
    have hholds : deeper.Holds tokens { s with depth := s.depth + 1 } := by
      refine ⟨h.rest, h.position_le, ?_, ?_, ?_, h.fallback⟩
      · show trace.now.depth + 1 = ((s.depth + 1 : Nat) : Int)
        omega
      · show s.depth + 1 ≤ maximumDepth
        omega
      · show trace.now.calls ≤ 5 * (s.depth + 1 + 1)
        omega
    rw [if_neg (by omega)] at hexec
    rw [Machine.exec_bind_ok hexec, hdescend]
    exact (hk _ (trace.write deeper) hdescend hholds rfl).extend hextends rfl

end Follows

end

end Sigil.Arithmetic
