import Sigil.Arithmetic.Binary64
import Sigil.Proofs.Arithmetic.Machine

/-! # Bounds of the evaluator

    What is read is never more than there is, and what is opened is closed again.  The machine
    follows the evaluator step by step, so that the same can be said of everything between the
    start and the end of a run.

    * `readRule_advances`, `readRule_position`: what a rule passes.
    * `Simulates`, `simulates`: the machine follows the evaluator.
    * `run_result`, `run_bounded`, `run_explains`: a whole run.
    * `evaluator_bounds`: the bounds together. -/

namespace Sigil.Arithmetic

section

variable {α : Type} {ops : Operations α} {tokens : List Placed} {fuel : Nat} {s s' : State}
  {trace : Trace} {v : α}

/-! ## What a rule passes -/

/-- A rule that is read leaves the level as it was and passes a token. -/
theorem readRule_advances {rule : Rule} (hs : s.depth ≤ maximumDepth)
    (h : readRule ops rule fuel s = .ok (v, s')) :
    s'.depth = s.depth ∧ ∃ placed, placed ≠ [] ∧ s.rest = placed ++ s'.rest := by
  obtain ⟨d, hspans, -⟩ := (sound ops fuel).rule rule hs h
  obtain ⟨placed, hplaced, hrest⟩ := hspans.read
  refine ⟨hspans.depth, placed, ?_, hrest⟩
  intro hnil
  rw [hnil] at hplaced
  exact d.tokens_ne_nil hplaced.symm

theorem readRule_length_lt {rule : Rule} (hs : s.depth ≤ maximumDepth)
    (h : readRule ops rule fuel s = .ok (v, s')) :
    s'.depth = s.depth ∧ s'.rest.length < s.rest.length := by
  obtain ⟨hdepth, placed, hne, hrest⟩ := readRule_advances hs h
  have hpos := List.length_pos_iff.mpr hne
  rw [hrest, List.length_append]
  exact ⟨hdepth, by omega⟩

/-- A rule that is read moves on among the tokens, and not behind the last. -/
theorem readRule_position {rule : Rule} {position depth : Nat} (hdepth : depth ≤ maximumDepth)
    (h : readRule ops rule fuel ⟨tokens.drop position, depth⟩ = .ok (v, s)) :
    ∃ position', position + 1 ≤ position' ∧ position' ≤ tokens.length
      ∧ s = ⟨tokens.drop position', depth⟩ := by
  obtain ⟨hsame, placed, hne, hrest⟩ := readRule_advances hdepth h
  have hrest : tokens.drop position = placed ++ s.rest := hrest
  have hsame : s.depth = depth := hsame
  have hpos := List.length_pos_iff.mpr hne
  have hlength := congrArg List.length hrest
  rw [List.length_drop, List.length_append] at hlength
  refine ⟨position + placed.length, by omega, by omega, ?_⟩
  rw [← List.drop_drop, hrest, List.drop_left, ← hsame]

/-! ## Step by step -/

variable (ops tokens fuel) in
/-- With this much fuel the machine follows the evaluator, where the fuel lasts for the tokens
    that are left and no more rules have been called than the level of nesting allows. -/
structure Simulates : Prop where
  rule : ∀ (rule : Rule) {s : State} {trace : Trace}, trace.now.Holds tokens s →
    trace.now.calls + (Part.rule rule).height ≤ 5 * s.depth + 6 →
    6 * s.rest.length + (Part.rule rule).height ≤ fuel →
    Follows tokens trace ((Machine.rule ops tokens fuel rule).exec trace)
      (readRule ops rule fuel s)
  more : ∀ (level : Level) (left : α) {s : State} {trace : Trace}, trace.now.Holds tokens s →
    trace.now.calls + (Part.rule (.chain level)).height ≤ 5 * s.depth + 6 →
    6 * s.rest.length + (Part.more level).height ≤ fuel →
    Follows tokens trace ((Machine.more ops tokens fuel level left).exec trace)
      (readMore ops level fuel left s)

theorem Part.height_pos (part : Part) : 1 ≤ part.height := by
  unfold Part.height
  split <;> omega

theorem State.rest_advance_length {token : Token} (h : s.peek? = some token) :
    s.advance.rest.length + 1 = s.rest.length := by
  obtain ⟨p, hp, -⟩ := Option.map_eq_some_iff.mp h
  obtain ⟨rest, hrest⟩ := List.head?_eq_some_iff.mp hp
  rw [State.advance, hrest]
  rfl

theorem State.descend_eq_ok {s₁ : State} (h : s.descend = .ok s₁) :
    s₁ = { s with depth := s.depth + 1 } ∧ s.depth + 1 ≤ maximumDepth := by
  unfold State.descend at h
  split at h
  · cases h
  · next hdeep =>
    cases h
    exact ⟨rfl, by omega⟩

namespace Simulates

variable (h : Simulates ops tokens fuel) (hs : trace.now.Holds tokens s)

include h hs

theorem call (rule : Rule)
    (hcalls : trace.now.calls + 1 + (Part.rule rule).height ≤ 5 * s.depth + 6)
    (hfuel : 6 * s.rest.length + (Part.rule rule).height ≤ fuel) :
    Follows tokens trace ((Machine.call (Machine.rule ops tokens fuel rule)).exec trace)
      (readRule ops rule fuel s) := by
  have hpos := (Part.rule rule).height_pos
  have hle := hs.depth_le
  apply Follows.call hs (by omega)
  intro trace' hs' hcalls'
  exact h.rule rule hs' (by omega) hfuel

/-- A rule is called from a rule above it, before any token is passed. -/
theorem callee {caller : Rule} (rule : Rule)
    (hbelow : (Part.rule rule).height < (Part.rule caller).height)
    (hcalls : trace.now.calls + (Part.rule caller).height ≤ 5 * s.depth + 6)
    (hfuel : 6 * s.rest.length + (Part.rule caller).height ≤ fuel + 1) :
    Follows tokens trace ((Machine.call (Machine.rule ops tokens fuel rule)).exec trace)
      (readRule ops rule fuel s) :=
  h.call hs rule (by omega) (by omega)

theorem chain_succ {level : Level}
    (hcalls : trace.now.calls + (Part.rule (.chain level)).height ≤ 5 * s.depth + 6)
    (hfuel : 6 * s.rest.length + (Part.rule (.chain level)).height ≤ fuel + 1) :
    Follows tokens trace ((Machine.rule ops tokens (fuel + 1) (.chain level)).exec trace)
      (readRule ops (.chain level) (fuel + 1) s) := by
  have hmodel : readRule ops (.chain level) (fuel + 1) s = (readRule ops level.operand fuel s
      >>= fun first => readMore ops level fuel first.1 first.2) := by
    cases level <;> rfl
  have hheight := Part.height_operand level
  rw [hmodel, Machine.rule]
  apply (h.callee hs level.operand hheight.1 hcalls hfuel).bind
  intro w s₁ trace₁ hread hs₁ hcalls₁
  obtain ⟨hdepth, hlt⟩ := readRule_length_lt hs.depth_le hread
  apply h.more level w hs₁
  · omega
  · show 6 * s₁.rest.length + 1 ≤ fuel
    omega

theorem more_succ {level : Level} (left : α)
    (hcalls : trace.now.calls + (Part.rule (.chain level)).height ≤ 5 * s.depth + 6)
    (hfuel : 6 * s.rest.length + (Part.more level).height ≤ fuel + 1) :
    Follows tokens trace ((Machine.more ops tokens (fuel + 1) level left).exec trace)
      (readMore ops level (fuel + 1) left s) := by
  have hfuel : 6 * s.rest.length + 1 ≤ fuel + 1 := hfuel
  have hheight := Part.height_operand level
  rw [Machine.more, Machine.exec_peek? hs]
  by_cases hop : ∃ op : Operator level, s.peek? = some op.token
  · obtain ⟨op, hop⟩ := hop
    have hlength := State.rest_advance_length hop
    rw [readMore_operator left hop, hop, Level.operator?_token]
    apply Follows.advance hs hop
    intro trace₁ hs₁ hcalls₁
    have hdepth₁ : s.advance.depth = s.depth := rfl
    apply (h.call hs₁ level.operand (by omega) (by omega)).bind
    intro w s₂ trace₂ hread hs₂ hcalls₂
    obtain ⟨hdepth, hlt⟩ := readRule_length_lt hs₁.depth_le hread
    apply h.more level _ hs₂
    · omega
    · show 6 * s₂.rest.length + 1 ≤ fuel
      omega
  · rw [not_exists] at hop
    rw [readMore_stop left hop, Level.operator?_eq_none hop]
    exact .pure hs left

/-- A token is passed, and behind it a rule is read one level deeper. -/
theorem nested {token : Token} (hnext : s.peek? = some token) (hopens : token.OpensLevel)
    (rule : Rule) (hcalls : trace.now.calls ≤ 5 * s.depth + 5) (hfuel : 6 * s.rest.length ≤ fuel)
    {k : α → Machine α} {g : α × State → Except ArithmeticError (α × State)}
    (hk : ∀ w s₁ s₂ trace', s.advance.descend = .ok s₁ →
      readRule ops rule fuel s₁ = .ok (w, s₂) → trace'.now.Holds tokens s₂.ascend →
      trace'.now.calls = trace.now.calls →
      Follows tokens trace' ((k w).exec trace') (g (w, s₂))) :
    Follows tokens trace
      (Machine.exec (do
        Machine.advance
        Machine.descend tokens
        let w ← Machine.call (Machine.rule ops tokens fuel rule)
        Machine.ascend
        k w) trace)
      (s.advance.descend >>= fun s₁ => readRule ops rule fuel s₁ >>= g) := by
  have hlength := State.rest_advance_length hnext
  have hheight : (Part.rule rule).height ≤ 5 := by
    cases rule with
    | chain level => cases level <;> decide
    | exponent => decide
    | unary => decide
    | primary => decide
  obtain ⟨offset, hplaced, -⟩ := hs.exists_offset hnext
  apply Follows.advance hs hnext
  intro trace₁ hs₁ hcalls₁
  apply Follows.descend hs₁ (hs.eq_append_cons hplaced) hopens
  intro s₂ trace₂ hdescend hs₂ hcalls₂
  obtain ⟨rfl, -⟩ := State.descend_eq_ok hdescend
  -- One level deeper five more calls are allowed.
  apply (h.call hs₂ rule ?_ ?_).bind
  · intro w s₃ trace₃ hread hs₃ hcalls₃
    obtain ⟨hdepth, -⟩ := readRule_advances hs₂.depth_le hread
    have hdepth : s₃.depth = s.depth + 1 := hdepth
    have hpos : 0 < s₃.depth := by omega
    apply Follows.ascend hs₃ hpos (by omega)
    intro trace₄ hs₄ hcalls₄
    exact hk w _ s₃ trace₄ hdescend hread hs₄ (by omega)
  · show trace₂.now.calls + 1 + (Part.rule rule).height ≤ 5 * (s.depth + 1) + 6
    omega
  · show 6 * s.advance.rest.length + (Part.rule rule).height ≤ fuel
    omega

theorem unary_succ
    (hcalls : trace.now.calls + (Part.rule .unary).height ≤ 5 * s.depth + 6)
    (hfuel : 6 * s.rest.length + (Part.rule .unary).height ≤ fuel + 1) :
    Follows tokens trace ((Machine.rule ops tokens (fuel + 1) .unary).exec trace)
      (unary ops (fuel + 1) s) := by
  have hpos := (Part.rule .unary).height_pos
  rw [Machine.rule, Machine.exec_peek? hs]
  by_cases hsign : ∃ sign : Sign, s.peek? = some sign.token
  · obtain ⟨sign, hsign⟩ := hsign
    rw [unary_sign hsign, hsign, Level.operator?_token]
    dsimp only
    apply h.nested hs hsign (.inr (.inr ⟨sign, rfl⟩)) .unary (by omega) (by omega)
    intro w s₁ s₂ trace' _ _ hs' _
    exact .pure hs' (ops.signed sign w)
  · rw [not_exists] at hsign
    rw [unary_no_sign hsign, Level.operator?_eq_none hsign]
    exact h.callee hs .primary (by decide) hcalls hfuel

theorem exponent_succ
    (hcalls : trace.now.calls + (Part.rule .exponent).height ≤ 5 * s.depth + 6)
    (hfuel : 6 * s.rest.length + (Part.rule .exponent).height ≤ fuel + 1) :
    Follows tokens trace ((Machine.rule ops tokens (fuel + 1) .exponent).exec trace)
      (exponent ops (fuel + 1) s) := by
  have hpos := (Part.rule .exponent).height_pos
  rw [Machine.rule, Machine.exec_peek? hs]
  by_cases hsign : ∃ sign : Sign, s.peek? = some sign.token
  · obtain ⟨sign, hsign⟩ := hsign
    rw [exponent_sign hsign, hsign, Level.operator?_token]
    apply (h.callee hs .unary (by decide) hcalls hfuel).bind
    intro w s₁ trace₁ _ hs₁ _
    rw [Machine.exec_peek? hs₁]
    -- What has a sign is no base.
    show Follows tokens trace₁ _ (if s₁.peek? = some .doubleStar then _ else _)
    by_cases hstar : s₁.peek? = some .doubleStar
    · obtain ⟨k, hnext, hoffset⟩ := hs₁.exists_offset hstar
      rw [if_pos hstar, if_pos hstar, Machine.exec_offset? hs₁, hoffset]
      exact .throw ⟨hs₁.fallback, hnext⟩
    · rw [if_neg hstar, if_neg hstar]
      exact .pure hs₁ w
  · rw [not_exists] at hsign
    rw [exponent_no_sign hsign, Level.operator?_eq_none hsign]
    apply (h.callee hs .primary (by decide) hcalls hfuel).bind
    intro base s₁ trace₁ hread hs₁ hcalls₁
    obtain ⟨hdepth, hlt⟩ := readRule_length_lt hs.depth_le hread
    rw [Machine.exec_peek? hs₁]
    show Follows tokens trace₁ _ (if s₁.peek? = some .doubleStar then _ else _)
    by_cases hstar : s₁.peek? = some .doubleStar
    · rw [if_pos hstar, if_pos hstar]
      apply h.nested hs₁ hstar (.inr (.inl rfl)) .exponent (by omega) (by omega)
      intro power s₂ s₃ trace' _ _ hs' _
      exact .pure hs' (ops.pow base power)
    · rw [if_neg hstar, if_neg hstar]
      exact .pure hs₁ base

omit h in
/-- The parenthesis before a state and what has been read up to the last token. -/
theorem explains_unclosed {k : Nat} {trace' : Trace} {s₁ s₂ : State} {w : α}
    (hnext : tokens[trace.now.position]? = some ⟨k, .leftParen⟩)
    (hdescend : s.advance.descend = .ok s₁)
    (hread : readRule ops .expression fuel s₁ = .ok (w, s₂))
    (hs' : trace'.now.Holds tokens s₂.ascend) (hend : s₂.ascend.peek? = none) :
    trace'.now.Explains tokens (.unclosedParenthesis k) := by
  obtain ⟨d, hspans, -⟩ :=
    (sound ops fuel).rule .expression (State.depth_le_of_descend hdescend) hread
  obtain ⟨placed, hplaced, hrest⟩ := hspans.read
  have hnone : s₂.rest = [] := by
    rw [State.peek?, Option.map_eq_none_iff, List.head?_eq_none_iff] at hend
    exact hend
  obtain ⟨rfl, -⟩ := State.descend_eq_ok hdescend
  have hrest : s.advance.rest = placed ++ s₂.rest := hrest
  rw [hnone, List.append_nil] at hrest
  refine ⟨hs'.fallback, tokens.take trace.now.position, placed, ?_, d, hplaced.symm⟩
  rw [← hrest]
  exact hs.eq_append_cons hnext

theorem primary_succ
    (hcalls : trace.now.calls + (Part.rule .primary).height ≤ 5 * s.depth + 6)
    (hfuel : 6 * s.rest.length + (Part.rule .primary).height ≤ fuel + 1) :
    Follows tokens trace ((Machine.rule ops tokens (fuel + 1) .primary).exec trace)
      (primary ops (fuel + 1) s) := by
  have hpos := (Part.rule .primary).height_pos
  rw [Machine.rule, Machine.exec_offset? hs, Machine.exec_peek? hs, primary]
  cases hpeek : s.peek? with
  | none => exact .throw ⟨hs.fallback, hs.position_eq hpeek⟩
  | some token =>
    obtain ⟨k, hnext, hoffset⟩ := hs.exists_offset hpeek
    rw [hoffset]
    cases token with
    | number literal =>
      apply Follows.advance hs hpeek
      intro trace' hs' _
      exact .pure hs' (ops.literal literal)
    | leftParen =>
      dsimp only
      apply h.nested hs hpeek (.inl rfl) .expression (by omega) (by omega)
      intro w s₁ s₂ trace' hdescend hread hs' _
      rw [Machine.exec_peek? hs']
      dsimp only
      cases hclose : s₂.ascend.peek? with
      | none => exact .throw (explains_unclosed hs hnext hdescend hread hs' hclose)
      | some token =>
        cases token with
        | rightParen =>
          apply Follows.advance hs' hclose
          intro trace'' hs'' _
          exact .pure hs'' w
        | _ =>
          obtain ⟨k', hnext', hoffset'⟩ := hs'.exists_offset hclose
          dsimp only
          rw [Machine.exec_offset? hs', hoffset']
          exact .throw ⟨hs'.fallback, _, hnext'⟩
    | _ => exact .throw ⟨hs.fallback, _, hnext⟩

end Simulates

variable (ops tokens fuel) in
/-- **The machine follows the evaluator**, by induction on the fuel. -/
theorem simulates : Simulates ops tokens fuel := by
  induction fuel with
  | zero =>
    constructor
    · intro rule s trace _ _ hfuel
      have hpos := (Part.rule rule).height_pos
      omega
    · intro level left s trace _ _ hfuel
      have hpos := (Part.more level).height_pos
      omega
  | succ fuel ih =>
    constructor
    · intro rule s trace hs hcalls hfuel
      cases rule with
      | chain level => exact ih.chain_succ hs hcalls hfuel
      | exponent => exact ih.exponent_succ hs hcalls hfuel
      | unary => exact ih.unary_succ hs hcalls hfuel
      | primary => exact ih.primary_succ hs hcalls hfuel
    · intro level left s trace hs hcalls hfuel
      exact ih.more_succ hs left hcalls hfuel

/-! ## Whole runs -/

/-- What is evaluated where there are tokens: an expression, with nothing behind it. -/
def readAll (ops : Operations α) (tokens : List Placed) : Except ArithmeticError (α × State) := do
  let (value, s) ← expression ops (fuelFor tokens) ⟨tokens, 0⟩
  match s.offset? with
  | some offset => .error (.unexpectedToken offset)
  | none => .ok (value, s)

theorem evaluateTokens_eq_readAll (hne : tokens ≠ []) :
    evaluateTokens ops tokens = (readAll ops tokens).map Prod.fst := by
  rw [evaluateTokens, if_neg (by rwa [List.isEmpty_iff]), readAll]
  cases expression ops (fuelFor tokens) ⟨tokens, 0⟩ with
  | error e => rfl
  | ok read =>
    obtain ⟨value, s⟩ := read
    dsimp only [bind, Except.bind]
    cases s.offset? with
    | none => rfl
    | some offset => rfl

theorem run_follows (hne : tokens ≠ []) :
    Follows tokens .start ((Machine.run ops tokens).exec .start) (readAll ops tokens) := by
  have hstart : Trace.start.now.Holds tokens ⟨tokens, 0⟩ :=
    ⟨rfl, Nat.zero_le _, rfl, Nat.zero_le _, Nat.zero_le _, rfl⟩
  have hfuel : 6 * tokens.length + (Part.rule .expression).height ≤ fuelFor tokens := by
    rw [fuelFor, Part.height]
    omega
  rw [Machine.run, if_neg (by rwa [List.isEmpty_iff])]
  apply ((simulates ops tokens (fuelFor tokens)).call hstart .expression ?_ hfuel).bind
  · intro value s trace _ hs _
    rw [Machine.exec_offset? hs]
    dsimp only
    cases hoffset : s.offset? with
    | none => exact .pure hs value
    | some k =>
      obtain ⟨p, hp, rfl⟩ := Option.map_eq_some_iff.mp hoffset
      refine .throw ⟨hs.fallback, p.token, ?_⟩
      rw [← hs.head?, hp]
  · show 0 + 1 + 5 ≤ 5 * 0 + 6
    omega

variable (ops tokens) in
/-- **A run computes what the evaluator computes.** -/
theorem run_result : ((Machine.run ops tokens).exec .start).1 = evaluateTokens ops tokens := by
  by_cases hne : tokens = []
  · subst hne
    rfl
  · rw [(run_follows hne).result_eq, evaluateTokens_eq_readAll hne]

variable (ops tokens) in
/-- **A run stays within the bounds**, also if it fails. -/
theorem run_bounded : ∀ m ∈ ((Machine.run ops tokens).exec .start).2.contents,
    m.Bounded tokens := by
  have hstart : ∀ m ∈ Trace.start.contents, m.Bounded tokens := by
    intro m hm
    obtain rfl := List.mem_singleton.mp hm
    exact ⟨by decide, by decide, by decide, Nat.zero_le _⟩
  by_cases hne : tokens = []
  · subst hne
    exact hstart
  · intro m hm
    rcases (run_follows hne).extends_trace m hm with hm | hbounded
    · exact hstart m hm
    · exact hbounded

/-- **The memory in which a run fails explains the error.** -/
theorem run_explains {e : ArithmeticError} (hne : tokens ≠ [])
    (he : evaluateTokens ops tokens = .error e) :
    ((Machine.run ops tokens).exec .start).2.now.Explains tokens e :=
  (run_follows hne).explains ((run_result ops tokens).trans he)

/-- **Bounds of the evaluator.**  A rule that is read from a state on one of the allowed levels
    leaves the level as it was, and passes one token or more but none that is not there.  In a
    run, also in one that fails, no more levels are left than were entered, the level stays at
    257 or below, for each level there are at most five calls that have not returned, and the
    run ends for want of a token only behind the last.  Each turn of a loop passes its operator
    and an operand. -/
theorem evaluator_bounds {α : Type} (ops : Operations α) :
    (∀ (rule : Rule) (fuel : Nat) (tokens : List Placed) (position depth : Nat) (value : α)
        (s : State), depth ≤ 256 →
        readRule ops rule fuel ⟨tokens.drop position, depth⟩ = .ok (value, s) →
        ∃ position', position + 1 ≤ position' ∧ position' ≤ tokens.length
          ∧ s = ⟨tokens.drop position', depth⟩)
    ∧ (∀ tokens : List Placed,
        ((Machine.run ops tokens).exec .start).1 = evaluateTokens ops tokens
        ∧ (∀ m ∈ ((Machine.run ops tokens).exec .start).2.contents,
            0 ≤ m.depth ∧ m.depth ≤ 257 ∧ m.calls ≤ 5 * (m.depth + 1)
              ∧ m.position ≤ tokens.length)
        ∧ (evaluateTokens ops tokens = .error .unexpectedEnd →
            ((Machine.run ops tokens).exec .start).2.now.position = tokens.length))
    ∧ ∀ (level : Level) (op : Operator level) (fuel : Nat) (left : α) (s : State),
        s.depth ≤ 256 → s.peek? = some op.token →
        readMore ops level (fuel + 1) left s
            = (readRule ops level.operand fuel s.advance >>= fun read =>
                readMore ops level fuel (ops.binary op left read.1) read.2)
          ∧ ∀ operand s', readRule ops level.operand fuel s.advance = .ok (operand, s') →
              s'.rest.length + 2 ≤ s.rest.length := by
  refine ⟨?_, ?_, ?_⟩
  · intro rule fuel tokens position depth value s hdepth hread
    exact readRule_position hdepth hread
  · intro tokens
    refine ⟨run_result ops tokens, ?_, ?_⟩
    · intro m hm
      have hbounded := run_bounded ops tokens m hm
      exact ⟨hbounded.depth_nonneg, hbounded.depth_le, hbounded.calls_le, hbounded.position_le⟩
    · intro hend
      have hne : tokens ≠ [] := by
        rintro rfl
        cases hend
      exact (run_explains hne hend).2
  · intro level op fuel left s hdepth hnext
    refine ⟨readMore_operator left hnext, ?_⟩
    intro operand s' hread
    have hlength := State.rest_advance_length hnext
    have hlt := (readRule_length_lt (s := s.advance) hdepth hread).2
    omega

/-- A sum of which the last term is missing. -/
theorem evaluator_bounds_unfinished_sum :
    let tokens : List Placed :=
      [⟨0, .minus⟩, ⟨1, .number ['2']⟩, ⟨2, .plus⟩, ⟨3, .number ['3']⟩, ⟨4, .plus⟩]
    let two := binary64.neg (binary64.literal ['2'])
    let three := binary64.literal ['3']
    (readRule binary64 .term 20 ⟨tokens, 0⟩ = .ok (two, ⟨tokens.drop 2, 0⟩)
      ∧ ∃ position', 0 + 1 ≤ position' ∧ position' ≤ tokens.length
          ∧ (⟨tokens.drop 2, 0⟩ : State) = ⟨tokens.drop position', 0⟩)
    ∧ (evaluateTokens binary64 tokens = .error .unexpectedEnd
      ∧ ((Machine.run binary64 tokens).exec .start).2.now.position = tokens.length)
    ∧ (readRule binary64 .term 20 ⟨tokens.drop 3, 0⟩ = .ok (three, ⟨tokens.drop 4, 0⟩)
      ∧ (tokens.drop 4).length + 2 ≤ (tokens.drop 2).length) := by
  intro tokens two three
  obtain ⟨hrules, hruns, hloops⟩ := evaluator_bounds binary64
  refine ⟨⟨rfl, ?_⟩, ⟨rfl, ?_⟩, ⟨rfl, ?_⟩⟩
  · exact hrules .term 20 tokens 0 0 two ⟨tokens.drop 2, 0⟩ (by decide) rfl
  · exact (hruns tokens).2.2 rfl
  · have hturn := hloops .sum .plus 20 two ⟨tokens.drop 2, 0⟩ (by decide) rfl
    exact hturn.2 three ⟨tokens.drop 4, 0⟩ rfl

end

end Sigil.Arithmetic
