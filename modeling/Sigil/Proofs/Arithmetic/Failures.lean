import Sigil.Arithmetic.Content
import Sigil.Proofs.Arithmetic.Evaluation

/-! # How evaluation fails

    A text is first cut into tokens, which are then read by the rules of the grammar.  Each of
    the two has errors of its own, and only a text of blanks is empty.

    * `ArithmeticError.IsLexical`, `ArithmeticError.IsGrammatical`: the errors of each.
    * `FailsOnly`: an evaluation that fails with certain errors only.
    * `tokenizeFrom_failsOnly`: cutting a text into tokens.
    * `failsGrammatically`: reading the tokens.
    * `evaluate_failsOnly`: the two together. -/

namespace Sigil.Arithmetic

/-! ## Errors and where they come from -/

namespace ArithmeticError

/-- The errors of cutting the text `t` into tokens.  A character is refused only if it has no
    place in arithmetic. -/
def IsLexical (t : Text) : ArithmeticError → Prop
  | invalidNumber _ | incrementOperator _ => True
  | invalidCharacter _ c => c ∈ t ∧ isArithmeticChar c = false
  | _ => False

/-- The errors of following the grammar. -/
def IsGrammatical : ArithmeticError → Prop
  | unexpectedToken _ | unexpectedEnd | unclosedParenthesis _ | ambiguousExponent _
  | tooDeep _ => True
  | _ => False

theorem IsLexical.mono {s t : Text} {e : ArithmeticError} (h : e.IsLexical s)
    (hsub : ∀ c ∈ s, c ∈ t) : e.IsLexical t := by
  cases e with
  | invalidCharacter offset c => exact ⟨hsub c h.1, h.2⟩
  | _ => exact h

end ArithmeticError

section

variable {α β : Type} {p q : ArithmeticError → Prop}

/-- **Failures.**  If there is no result, the error is one of these. -/
def FailsOnly (p : ArithmeticError → Prop) (x : Except ArithmeticError α) : Prop :=
  ∀ e, x = .error e → p e

theorem failsOnly_ok (a : α) : FailsOnly p (.ok a : Except ArithmeticError α) :=
  nofun

theorem failsOnly_error {e : ArithmeticError} (h : p e) :
    FailsOnly p (.error e : Except ArithmeticError α) := by
  intro e' he
  cases he
  exact h

theorem FailsOnly.mono {x : Except ArithmeticError α} (hx : FailsOnly p x)
    (h : ∀ e, p e → q e) : FailsOnly q x := by
  intro e he
  exact h e (hx e he)

/-- A step and what follows it fail as one of the two does. -/
theorem FailsOnly.bind {x : Except ArithmeticError α} {f : α → Except ArithmeticError β}
    (hx : FailsOnly p x) (hf : ∀ a, x = .ok a → FailsOnly p (f a)) : FailsOnly p (x >>= f) := by
  intro e he
  cases x with
  | error e' =>
    cases he
    exact hx e rfl
  | ok a => exact hf a rfl e he

end

/-! ## Cutting a text into tokens -/

/-- With each character of arithmetic a token can start, unless it is a blank. -/
theorem isArithmeticChar_cases {c : Char} (h : isArithmeticChar c = true) :
    isBlank c = true ∨ (c = '+' ∨ c = '-') ∨ c = '*' ∨ isNumberChar c = true
      ∨ Token.ofChar? c ≠ none := by
  simp only [isArithmeticChar, Bool.or_eq_true] at h
  rcases h with (hdigit | hsymbol) | hblank
  · simp [isNumberChar, hdigit]
  · have hmem : c ∈ ['+', '-', '*', '/', '%', '.', '(', ')'] := List.contains_iff_mem.mp hsymbol
    simp only [List.mem_cons, List.not_mem_nil, or_false] at hmem
    rcases hmem with rfl | rfl | rfl | rfl | rfl | rfl | rfl | rfl <;> decide
  · exact .inl hblank

theorem tokenizeFrom_failsOnly (offset : Nat) (t : Text) :
    FailsOnly (fun e => e.IsLexical t) (tokenizeFrom offset t) := by
  -- A token is put before those of the rest, which does not fail.
  have hcons : ∀ {s t : Text} {k : Nat} {token : Token}, (∀ c ∈ s, c ∈ t) →
      FailsOnly (fun e => e.IsLexical s) (tokenizeFrom k s) → ∀ {offset : Nat},
      FailsOnly (fun e => e.IsLexical t) (do
        let tokens ← tokenizeFrom k s
        return ⟨offset, token⟩ :: tokens) := by
    intro s t k token hsub hs offset
    apply FailsOnly.bind
    · exact hs.mono fun e he => he.mono hsub
    · intro tokens _
      exact failsOnly_ok _
  fun_induction tokenizeFrom offset t with
  | case1 => exact failsOnly_ok _
  | case2 offset c rest _ ih =>
    exact ih.mono fun e he => he.mono fun d hd => List.mem_cons_of_mem c hd
  | case3 offset c rest => exact failsOnly_error trivial
  | case4 offset c rest _ _ _ ih => exact hcons (fun d hd => List.mem_cons_of_mem c hd) ih
  | case5 offset rest _ _ ih =>
    exact hcons (fun d hd => List.mem_cons_of_mem _ (List.mem_cons_of_mem _ hd)) ih
  | case6 offset rest _ _ _ ih => exact hcons (fun d hd => List.mem_cons_of_mem _ hd) ih
  | case7 offset c rest _ _ _ _ literal _ ih =>
    refine hcons (fun d hd => List.mem_cons_of_mem c ?_) ih
    exact (List.dropWhile_suffix _).mem hd
  | case8 => exact failsOnly_error trivial
  | case9 offset c rest _ _ _ _ token _ ih =>
    exact hcons (fun d hd => List.mem_cons_of_mem c hd) ih
  | case10 offset c rest hblank hsign hstar hnumber hnone =>
    refine failsOnly_error ⟨List.mem_cons_self, ?_⟩
    rw [Bool.eq_false_iff]
    intro harithmetic
    rcases isArithmeticChar_cases harithmetic with h | h | h | h | h
    · exact hblank h
    · exact hsign (by simpa using h)
    · exact hstar h
    · exact hnumber h
    · exact h hnone

/-- Only blanks make no token. -/
theorem isBlank_of_tokenizeFrom_nil {offset : Nat} {t : Text} (h : tokenizeFrom offset t = .ok []) :
    ∀ c ∈ t, isBlank c = true := by
  have hcons : ∀ {k : Nat} {s : Text} {placed : Placed},
      (do let tokens ← tokenizeFrom k s; return placed :: tokens) ≠ .ok [] := by
    intro k s placed h
    obtain ⟨tokens, -, hnil⟩ := bind_eq_ok_iff.mp h
    cases hnil
  fun_induction tokenizeFrom offset t with
  | case1 => simp
  | case2 offset c rest hc ih =>
    intro d hd
    rcases List.mem_cons.mp hd with rfl | hd
    · exact hc
    · exact ih h d hd
  | case3 => cases h
  | case4 => exact absurd h hcons
  | case5 => exact absurd h hcons
  | case6 => exact absurd h hcons
  | case7 => exact absurd h hcons
  | case8 => cases h
  | case9 => exact absurd h hcons
  | case10 => cases h

/-! ## Following the grammar -/

section

variable {α : Type} (ops : Operations α) (fuel : Nat)

theorem descend_failsOnly (s : State) : FailsOnly ArithmeticError.IsGrammatical s.descend := by
  unfold State.descend
  split
  · exact failsOnly_error trivial
  · exact failsOnly_ok _

/-- With this much fuel the errors are those of the grammar. -/
structure FailsGrammatically : Prop where
  rule : ∀ (rule : Rule) (s : State),
    FailsOnly ArithmeticError.IsGrammatical (readRule ops rule fuel s)
  more : ∀ (level : Level) (left : α) (s : State),
    FailsOnly ArithmeticError.IsGrammatical (readMore ops level fuel left s)

namespace FailsGrammatically

variable {ops fuel} {s : State}

theorem chain_succ (h : FailsGrammatically ops fuel) (level : Level) :
    FailsOnly ArithmeticError.IsGrammatical (readRule ops (.chain level) (fuel + 1) s) := by
  cases level with
  | sum => exact (h.rule .term s).bind fun first _ => h.more .sum first.1 first.2
  | product => exact (h.rule .exponent s).bind fun first _ => h.more .product first.1 first.2

theorem more_succ (h : FailsGrammatically ops fuel) (level : Level) (left : α) :
    FailsOnly ArithmeticError.IsGrammatical (readMore ops level (fuel + 1) left s) := by
  by_cases hop : ∃ op : Operator level, s.peek? = some op.token
  · obtain ⟨op, hop⟩ := hop
    rw [readMore_operator left hop]
    exact (h.rule level.operand s.advance).bind fun operand _ => h.more level _ operand.2
  · rw [not_exists] at hop
    rw [readMore_stop left hop]
    exact failsOnly_ok _

theorem unary_succ (h : FailsGrammatically ops fuel) :
    FailsOnly ArithmeticError.IsGrammatical (unary ops (fuel + 1) s) := by
  by_cases hsign : ∃ sign : Sign, s.peek? = some sign.token
  · obtain ⟨sign, hsign⟩ := hsign
    rw [unary_sign hsign]
    apply (descend_failsOnly s.advance).bind
    intro s₁ _
    apply (h.rule .unary s₁).bind
    intro operand _
    exact failsOnly_ok _
  · rw [not_exists] at hsign
    rw [unary_no_sign hsign]
    exact h.rule .primary s

theorem exponent_succ (h : FailsGrammatically ops fuel) :
    FailsOnly ArithmeticError.IsGrammatical (exponent ops (fuel + 1) s) := by
  by_cases hsign : ∃ sign : Sign, s.peek? = some sign.token
  · obtain ⟨sign, hsign⟩ := hsign
    rw [exponent_sign hsign]
    apply (h.rule .unary s).bind
    intro operand _
    dsimp only
    split
    · exact failsOnly_error trivial
    · exact failsOnly_ok _
  · rw [not_exists] at hsign
    rw [exponent_no_sign hsign]
    apply (h.rule .primary s).bind
    intro base _
    dsimp only
    split
    · apply (descend_failsOnly base.2.advance).bind
      intro s₁ _
      apply (h.rule .exponent s₁).bind
      intro power _
      exact failsOnly_ok _
    · exact failsOnly_ok _

theorem primary_succ (h : FailsGrammatically ops fuel) :
    FailsOnly ArithmeticError.IsGrammatical (primary ops (fuel + 1) s) := by
  unfold primary
  split
  · exact failsOnly_ok _
  · apply (descend_failsOnly s.advance).bind
    intro s₁ _
    apply (h.rule .expression s₁).bind
    intro inside _
    dsimp only
    split
    · exact failsOnly_ok _
    · exact failsOnly_error trivial
    · exact failsOnly_error trivial
  · exact failsOnly_error trivial
  · exact failsOnly_error trivial

end FailsGrammatically

/-- **Reading tokens**, by induction on the fuel. -/
theorem failsGrammatically : FailsGrammatically ops fuel := by
  induction fuel with
  | zero =>
    constructor
    · intro rule s
      cases rule with
      | chain level => cases level <;> exact failsOnly_error trivial
      | exponent => exact failsOnly_error trivial
      | unary => exact failsOnly_error trivial
      | primary => exact failsOnly_error trivial
    · intro level left s
      cases level <;> exact failsOnly_error trivial
  | succ fuel ih =>
    constructor
    · intro rule s
      cases rule with
      | chain level => exact ih.chain_succ level
      | exponent => exact ih.exponent_succ
      | unary => exact ih.unary_succ
      | primary => exact ih.primary_succ
    · intro level left s
      exact ih.more_succ level left

variable {ops}

theorem evaluateTokens_failsOnly {placed : List Placed} (hne : placed ≠ []) :
    FailsOnly ArithmeticError.IsGrammatical (evaluateTokens ops placed) := by
  unfold evaluateTokens
  rw [if_neg (by simpa using hne)]
  apply ((failsGrammatically ops (fuelFor placed)).rule .expression ⟨placed, 0⟩).bind
  intro result _
  dsimp only
  split
  · exact failsOnly_error trivial
  · exact failsOnly_ok _

/-- **Evaluation fails for a reason.**  There is nothing to evaluate, or the text cannot be cut
    into tokens, or the tokens do not follow the grammar. -/
theorem evaluate_failsOnly (t : Text) :
    FailsOnly (fun e => (e = .empty ∧ ∀ c ∈ t, isBlank c = true) ∨ e.IsLexical t ∨ e.IsGrammatical)
      (evaluate ops t) := by
  unfold evaluate
  apply FailsOnly.bind
  · exact (tokenizeFrom_failsOnly 0 t).mono fun e he => .inr (.inl he)
  · intro placed hplaced
    cases placed with
    | nil =>
      apply failsOnly_error
      exact .inl ⟨rfl, isBlank_of_tokenizeFrom_nil hplaced⟩
    | cons first rest =>
      exact (evaluateTokens_failsOnly (by simp)).mono fun e he => .inr (.inr he)

end

end Sigil.Arithmetic
