import Sigil.Proofs.Arithmetic.Failures

/-! # Verdicts on contents

    The rules for a content are ordered: a format of times is told apart first, then a content
    without operators, and only what is left is read as an expression.

    * `IsClock`, `HasOperator`, `PlainDecimal`, `IsExpression`: what the rules ask for.
    * `Verdict`: the rules.
    * `Verdict.unique`: no content falls under two rules that disagree.
    * `contentProblem?_verdict`: the checks follow the rules.
    * `checkContent_verdict`: the findings, and the errors that cannot come up. -/

namespace Sigil.Arithmetic

/-! ## The kinds of contents -/

/-- A format of times: hours, minutes, seconds, colons and blanks. -/
def IsClock (t : Text) : Prop :=
  t ≠ [] ∧ ∀ c ∈ t, c ∈ ['H', 'h', 'm', 's', ':'] ∨ isBlank c = true

/-- An operator occurs in the text. -/
def HasOperator (t : Text) : Prop :=
  ∃ c ∈ t, c ∈ ['+', '-', '*', '/', '%']

/-- A number in decimal notation: digits, or digits before and after a point, on one side of
    which they may be missing. -/
def PlainDecimal (t : Text) : Prop :=
  ∃ whole places : Text, (∀ c ∈ whole ++ places, c.isDigit = true) ∧ whole ++ places ≠ []
    ∧ (t = whole ++ places ∨ t = whole ++ '.' :: places)

/-- The tokens of the text have a derivation that is not nested too deeply. -/
def IsExpression (t : Text) : Prop :=
  ∃ placed, tokenize t = .ok placed ∧ ∃ d : Tree (.rule .expression),
    d.tokens = placed.map Placed.token ∧ d.nesting ≤ maximumDepth

theorem isTimeFormat_iff {t : Text} : isTimeFormat t = true ↔ IsClock t := by
  have hmem : ∀ c : Char, "Hhms:".toList.contains c = true ↔ c ∈ ['H', 'h', 'm', 's', ':'] :=
    fun c => List.contains_iff_mem
  simp only [isTimeFormat, IsClock, Bool.and_eq_true, Bool.not_eq_true', List.isEmpty_eq_false_iff,
    List.all_eq_true, Bool.or_eq_true, hmem, ne_eq]

theorem hasOperator_iff {t : Text} : hasOperator t = true ↔ HasOperator t := by
  have hmem : ∀ c : Char, "+-*/%".toList.contains c = true ↔ c ∈ ['+', '-', '*', '/', '%'] :=
    fun c => List.contains_iff_mem
  simp only [hasOperator, HasOperator, List.any_eq_true, hmem]

theorem isDigit_ne_point {c : Char} (h : c.isDigit = true) : c ≠ '.' := by
  intro heq
  rw [heq] at h
  cases h

/-- A text of digits and points has none of the latter or one. -/
theorem isDecimal_iff {t : Text} : isDecimal t = true ↔ PlainDecimal t := by
  simp only [isDecimal, Bool.and_eq_true, List.all_eq_true, Bool.or_eq_true, beq_iff_eq,
    List.any_eq_true, decide_eq_true_eq]
  constructor
  · intro h
    obtain ⟨⟨hall, d, hd, hdigit⟩, hcount⟩ := h
    have hdigits : ∀ c ∈ t, c ≠ '.' → c.isDigit = true := by
      intro c hc hne
      exact (hall c hc).resolve_right hne
    by_cases hpoint : '.' ∈ t
    · -- The text is cut at its point, and there is no other.
      obtain ⟨whole, places, rfl⟩ := List.append_of_mem hpoint
      rw [List.count_append, List.count_cons_self] at hcount
      have hwhole : '.' ∉ whole := by
        rw [← List.count_eq_zero]
        omega
      have hplaces : '.' ∉ places := by
        rw [← List.count_eq_zero]
        omega
      refine ⟨whole, places, ?_, ?_, .inr rfl⟩
      · intro c hc
        rcases List.mem_append.mp hc with hc | hc
        · exact hdigits c (List.mem_append_left _ hc) fun heq => hwhole (heq ▸ hc)
        · exact hdigits c (List.mem_append_right _ (List.mem_cons_of_mem _ hc))
            fun heq => hplaces (heq ▸ hc)
      · intro hnil
        obtain ⟨rfl, rfl⟩ := List.append_eq_nil_iff.mp hnil
        rw [List.nil_append, List.mem_singleton] at hd
        exact isDigit_ne_point hdigit hd
    · refine ⟨t, [], ?_, ?_, .inl (List.append_nil t).symm⟩
      · intro c hc
        rw [List.append_nil] at hc
        exact hdigits c hc fun heq => hpoint (heq ▸ hc)
      · rw [List.append_nil]
        exact List.ne_nil_of_mem hd
  · intro h
    obtain ⟨whole, places, hdigits, hne, ht⟩ := h
    obtain ⟨d, hd⟩ := List.exists_mem_of_ne_nil _ hne
    have hnone : (whole ++ places).count '.' = 0 := by
      rw [List.count_eq_zero]
      intro hpoint
      exact isDigit_ne_point (hdigits _ hpoint) rfl
    rcases ht with rfl | rfl
    · refine ⟨⟨fun c hc => .inl (hdigits c hc), d, hd, hdigits d hd⟩, ?_⟩
      omega
    · have hmem : ∀ c, c ∈ whole ++ '.' :: places ↔ c = '.' ∨ c ∈ whole ++ places := by
        intro c
        simp only [List.mem_append, List.mem_cons]
        exact or_left_comm
      refine ⟨⟨?_, d, (hmem d).mpr (.inr hd), hdigits d hd⟩, ?_⟩
      · intro c hc
        rcases (hmem c).mp hc with hc | hc
        · exact .inr hc
        · exact .inl (hdigits c hc)
      · rw [List.count_append] at hnone
        rw [List.count_append, List.count_cons_self]
        omega

/-- A text can be evaluated exactly if it is an expression. -/
theorem isExpression_iff {α : Type} (ops : Operations α) {t : Text} :
    IsExpression t ↔ ∃ v, evaluate ops t = .ok v := by
  unfold evaluate IsExpression
  simp only [bind_eq_ok_iff, evaluateTokens_ok_iff]
  constructor
  · intro h
    obtain ⟨placed, hplaced, d, htokens, hnesting⟩ := h
    exact ⟨d.value ops, placed, hplaced, d, htokens, hnesting, rfl⟩
  · intro h
    obtain ⟨v, placed, hplaced, d, htokens, hnesting, -⟩ := h
    exact ⟨placed, hplaced, d, htokens, hnesting⟩

/-- Arithmetic without numbers: all that is left of a value is that there is one. -/
def anyValue : Operations Unit where
  literal _ := ()
  add _ _ := ()
  sub _ _ := ()
  mul _ _ := ()
  div _ _ := ()
  rem _ _ := ()
  pow _ _ := ()
  neg _ := ()

theorem isExpression_iff_isOk {t : Text} :
    IsExpression t ↔ (evaluate anyValue t).isOk = true := by
  rw [isExpression_iff anyValue]
  cases evaluate anyValue t with
  | error e => simp [Except.isOk, Except.toBool]
  | ok v => simp [Except.isOk, Except.toBool]

instance (t : Text) : Decidable (IsClock t) :=
  decidable_of_iff _ isTimeFormat_iff

instance (t : Text) : Decidable (HasOperator t) :=
  decidable_of_iff _ hasOperator_iff

instance (t : Text) : Decidable (IsExpression t) :=
  decidable_of_iff _ isExpression_iff_isOk.symm

theorem not_isAlpha_of_isDigit {c : Char} (h : c.isDigit = true) : c.isAlpha = false := by
  have hdigit : c.val ≤ 57 := by
    change (decide (48 ≤ c.val) && decide (c.val ≤ 57)) = true at h
    simp only [Bool.and_eq_true, decide_eq_true_eq] at h
    exact h.2
  -- Both kinds of letters come after the digits.
  change (decide (65 ≤ c.val ∧ c.val ≤ 90)
    || (decide (97 ≤ c.val) && decide (c.val ≤ 122))) = false
  rw [UInt32.le_iff_toNat_le] at hdigit
  have hupper : ¬ (65 : UInt32) ≤ c.val := by
    rw [UInt32.le_iff_toNat_le]
    exact Nat.not_le.mpr (Nat.lt_of_le_of_lt hdigit (by decide))
  have hlower : ¬ (97 : UInt32) ≤ c.val := by
    rw [UInt32.le_iff_toNat_le]
    exact Nat.not_le.mpr (Nat.lt_of_le_of_lt hdigit (by decide))
  simp [hupper, hlower]

/-- A number is no word. -/
theorem PlainDecimal.not_isAlpha {t : Text} (h : PlainDecimal t) : ∀ c ∈ t, c.isAlpha = false := by
  have hdecimal := isDecimal_iff.mpr h
  simp only [isDecimal, Bool.and_eq_true, List.all_eq_true, Bool.or_eq_true, beq_iff_eq] at hdecimal
  intro c hc
  rcases hdecimal.1.1 c hc with hdigit | rfl
  · exact not_isAlpha_of_isDigit hdigit
  · decide

/-! ## The verdict -/

/-- **Verdict.**  What is wrong with a content, if anything is, when it reads `normalized`
    without quotes and outer blanks, `sanitized` with a number for every reference, and `kept`
    without all that has no place in an expression. -/
inductive Verdict (normalized sanitized kept : Text) : Option Problem → Prop where
  | clock : IsClock normalized → Verdict normalized sanitized kept (some .timeFormatInMath)
  | words : ¬ IsClock normalized → ¬ HasOperator sanitized →
      (∃ c ∈ sanitized, c.isAlpha = true) →
      Verdict normalized sanitized kept (some .nonMathematicalContent)
  | number : ¬ IsClock normalized → ¬ HasOperator sanitized → PlainDecimal sanitized →
      Verdict normalized sanitized kept (some .noMathematicalOperations)
  | neither : ¬ IsClock normalized → ¬ HasOperator sanitized →
      (¬ ∃ c ∈ sanitized, c.isAlpha = true) → ¬ PlainDecimal sanitized →
      Verdict normalized sanitized kept (some .invalidMathExpression)
  | expression : ¬ IsClock normalized → HasOperator sanitized → IsExpression kept →
      Verdict normalized sanitized kept none
  | malformed : ¬ IsClock normalized → HasOperator sanitized → ¬ IsExpression kept →
      Verdict normalized sanitized kept (some .invalidMathExpression)

/-- There is one verdict. -/
theorem Verdict.unique {n s kept : Text} {p q : Option Problem} (hp : Verdict n s kept p)
    (hq : Verdict n s kept q) : p = q := by
  have hone : PlainDecimal s → ¬ ∃ c ∈ s, c.isAlpha = true := by
    intro hnumber hwords
    obtain ⟨c, hc, halpha⟩ := hwords
    rw [hnumber.not_isAlpha c hc] at halpha
    cases halpha
  -- Two rules with the same conditions come to one verdict, and any others exclude each other.
  cases hp <;> cases hq <;> grind

/-- The checks come to a verdict. -/
theorem contentProblem?_verdict (content : Text) :
    Verdict (normalize content) (sanitize (normalize content))
      ((sanitize (normalize content)).filter isArithmeticChar) (contentProblem? content) := by
  unfold contentProblem?
  dsimp only
  by_cases hclock : IsClock (normalize content)
  · rw [if_pos (isTimeFormat_iff.mpr hclock)]
    exact .clock hclock
  · rw [if_neg (mt isTimeFormat_iff.mp hclock)]
    by_cases hoperator : HasOperator (sanitize (normalize content))
    · rw [if_pos (hasOperator_iff.mpr hoperator)]
      split
      · next v hv => exact .expression hclock hoperator ((isExpression_iff binary64).mpr ⟨v, hv⟩)
      · next e he =>
        apply Verdict.malformed hclock hoperator
        rw [isExpression_iff binary64, he]
        intro h
        obtain ⟨v, hv⟩ := h
        cases hv
    · rw [if_neg (mt hasOperator_iff.mp hoperator)]
      split
      · next hwords => exact .words hclock hoperator (List.any_eq_true.mp hwords)
      · next hwords =>
        split
        · next hnumber => exact .number hclock hoperator (isDecimal_iff.mp hnumber)
        · next hnumber =>
          exact .neither hclock hoperator (mt List.any_eq_true.mpr hwords)
            (mt isDecimal_iff.mpr hnumber)

/-- Where an operator occurs, what is left for the evaluator is not empty and holds no
    characters that it does not know. -/
theorem evaluate_filter_failsOnly {α : Type} (ops : Operations α) {s : Text} (h : HasOperator s) :
    FailsOnly (fun e => e ≠ .empty ∧ ∀ k c, e ≠ .invalidCharacter k c)
      (evaluate ops (s.filter isArithmeticChar)) := by
  obtain ⟨op, hmem, hop⟩ := h
  have hchar : isArithmeticChar op = true ∧ isBlank op = false := by
    simp only [List.mem_cons, List.not_mem_nil, or_false] at hop
    rcases hop with rfl | rfl | rfl | rfl | rfl <;> decide
  obtain ⟨hkept, hblank⟩ := hchar
  intro e he
  rcases evaluate_failsOnly _ e he with ⟨-, hblanks⟩ | hlexical | hgrammatical
  · -- The operator is kept, and it is no blank.
    have hop' := hblanks op (List.mem_filter.mpr ⟨hmem, hkept⟩)
    rw [hblank] at hop'
    cases hop'
  · constructor
    · intro heq
      rw [heq] at hlexical
      exact hlexical
    · intro k c heq
      rw [heq] at hlexical
      obtain ⟨hc, hnot⟩ := hlexical
      -- Only characters with a place in arithmetic are kept.
      rw [(List.mem_filter.mp hc).2] at hnot
      cases hnot
  · constructor
    · intro heq
      rw [heq] at hgrammatical
      exact hgrammatical
    · intro k c heq
      rw [heq] at hgrammatical
      exact hgrammatical

/-- The characters with a place in an expression. -/
theorem isArithmeticChar_eq : isArithmeticChar = fun c => decide (c.isDigit = true
    ∨ c ∈ ['+', '-', '*', '/', '%', '.', '(', ')'] ∨ isBlank c = true) := by
  funext c
  have hmem : "+-*/%.()".toList.contains c = true
      ↔ c ∈ ['+', '-', '*', '/', '%', '.', '(', ')'] := List.contains_iff_mem
  rw [Bool.eq_iff_iff, isArithmeticChar, Bool.or_eq_true, Bool.or_eq_true, hmem,
    decide_eq_true_iff, or_assoc]

/-- Both kinds of quotes are removed, and then the blanks on the outside. -/
theorem normalize_eq (content : Text) : normalize content
    = Text.trim (content.filter fun c => c ≠ '"' ∧ c ≠ Char.ofNat 0x27) := by
  have hunquoted : (fun c : Char => c != '"' && c != Char.ofNat 0x27)
      = fun c => decide (c ≠ '"' ∧ c ≠ Char.ofNat 0x27) := by
    funext c
    rw [Bool.eq_iff_iff, Bool.and_eq_true, bne_iff_ne, bne_iff_ne, decide_eq_true_iff]
  rw [normalize, hunquoted]

/-- **Verdicts.**  A content is found to be as the rules for it say, by one finding that spans
    all of it or by none.  When it comes to be evaluated, the evaluator is given neither
    nothing nor a character that it does not know. -/
theorem checkContent_verdict (content : Text) {n s kept : Text}
    (hn : n = Text.trim (content.filter fun c => c ≠ '"' ∧ c ≠ Char.ofNat 0x27))
    (hs : s = Text.trim (replaceReferences ['0'] n))
    (hkept : kept = s.filter fun c => c.isDigit = true
      ∨ c ∈ ['+', '-', '*', '/', '%', '.', '(', ')'] ∨ isBlank c = true) :
    (∀ findings, checkContent content = findings ↔ ∃ problem?, Verdict n s kept problem?
      ∧ findings = problem?.toList.map fun problem =>
        { problem, offset := 0, width := content.size })
    ∧ (HasOperator s → ∀ e, evaluate binary64 kept = .error e →
        e ≠ .empty ∧ ∀ k c, e ≠ .invalidCharacter k c) := by
  rw [← normalize_eq] at hn
  subst hn
  have hsanitize : s = sanitize (normalize content) := hs
  rw [← isArithmeticChar_eq] at hkept
  subst hsanitize hkept
  have hverdict := contentProblem?_verdict content
  constructor
  · intro findings
    constructor
    · intro h
      exact ⟨contentProblem? content, hverdict, h.symm⟩
    · intro h
      obtain ⟨problem?, hproblem, rfl⟩ := h
      rw [hproblem.unique hverdict]
      rfl
  · intro hoperator
    exact evaluate_filter_failsOnly binary64 hoperator

/-- Quotes, a letter and the arguments of a reference do no harm to an expression, and a missing
    parenthesis does.  A format of times is known by what its quotes and blanks enclose. -/
theorem checkContent_verdict_quoted :
    checkContent " \"2x\" * $list['a', 1] % 3".toList = []
    ∧ checkContent "(2 - $list['a'] ".toList
      = [{ problem := .invalidMathExpression, offset := 0, width := 16 }]
    ∧ checkContent "'h:mm' ".toList
      = [{ problem := .timeFormatInMath, offset := 0, width := 7 }] := by
  refine ⟨?_, ?_, ?_⟩
  · have hn : "2x * $list[a, 1] % 3".toList
        = Text.trim (" \"2x\" * $list['a', 1] % 3".toList.filter
          fun c => c ≠ '"' ∧ c ≠ Char.ofNat 0x27) := by decide
    have hs : "2x * 0 % 3".toList
        = Text.trim (replaceReferences ['0'] "2x * $list[a, 1] % 3".toList) := by decide +kernel
    have hverdict : Verdict "2x * $list[a, 1] % 3".toList "2x * 0 % 3".toList
        "2 * 0 % 3".toList none :=
      .expression (by decide) (by decide) (by decide +kernel)
    exact ((checkContent_verdict _ hn hs (by decide)).1 _).mpr ⟨none, hverdict, rfl⟩
  · have hn : "(2 - $list[a]".toList = Text.trim ("(2 - $list['a'] ".toList.filter
        fun c => c ≠ '"' ∧ c ≠ Char.ofNat 0x27) := by decide
    have hs : "(2 - 0".toList
        = Text.trim (replaceReferences ['0'] "(2 - $list[a]".toList) := by decide +kernel
    have hverdict : Verdict "(2 - $list[a]".toList "(2 - 0".toList "(2 - 0".toList
        (some .invalidMathExpression) :=
      .malformed (by decide) (by decide) (by decide +kernel)
    exact ((checkContent_verdict _ hn hs (by decide)).1 _).mpr ⟨_, hverdict, rfl⟩
  · have hn : "h:mm".toList = Text.trim ("'h:mm' ".toList.filter
        fun c => c ≠ '"' ∧ c ≠ Char.ofNat 0x27) := by decide
    have hverdict : ∀ s kept, Verdict "h:mm".toList s kept (some .timeFormatInMath) :=
      fun s kept => .clock (by decide)
    exact ((checkContent_verdict _ hn rfl rfl).1 _).mpr ⟨_, hverdict _ _, rfl⟩

end Sigil.Arithmetic
