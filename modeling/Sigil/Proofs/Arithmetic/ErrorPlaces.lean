import Sigil.Arithmetic.Binary64
import Sigil.Proofs.Arithmetic.Bounds
import Sigil.Proofs.Arithmetic.TokenPlaces

/-! # Errors and the places they name

    An error names a place in the text, and what it says of the place can be checked against the
    text alone.

    * `Nested`, `Unclosed`: parentheses that have a partner, and one that has none.
    * `StartsToken`, `EndsOpening`: where a token starts, and where a level is opened for nothing.
    * `ArithmeticError.Truthful`: what an error says of the text.
    * `tokenize_truthful`, `evaluateTokens_truthful`: the two sources of errors.
    * `run_fallback`: when the place of an error is made up.
    * `evaluate_errors_truthful`: every error is as it says. -/

namespace Sigil.Arithmetic

/-! ## Parentheses -/

/-- The texts in which every parenthesis has its partner. -/
inductive Nested : Text → Prop where
  | nil : Nested []
  | plain {c : Char} {t : Text} : isParenthesis c = false → Nested t → Nested (c :: t)
  | pair {s t : Text} : Nested s → Nested t → Nested ('(' :: (s ++ ')' :: t))

/-- The `(` at the offset `k` has no partner. -/
def Unclosed (t : Text) (k : Nat) : Prop :=
  t.PartAt k ['('] ∧ ∀ before inside after : Text,
    t = before ++ '(' :: (inside ++ ')' :: after) → k = before.size → ¬ Nested inside

/-- How many more parentheses a text opens than it closes. -/
def surplus : Text → Int
  | [] => 0
  | c :: t => (if c = '(' then 1 else if c = ')' then -1 else 0) + surplus t

theorem surplus_cons (c : Char) (t : Text) :
    surplus (c :: t) = (if c = '(' then 1 else if c = ')' then -1 else 0) + surplus t :=
  rfl

theorem surplus_opening (t : Text) : surplus ('(' :: t) = 1 + surplus t :=
  rfl

theorem surplus_closing (t : Text) : surplus (')' :: t) = -1 + surplus t :=
  rfl

theorem surplus_plain {c : Char} (hc : isParenthesis c = false) (t : Text) :
    surplus (c :: t) = surplus t := by
  simp only [isParenthesis, Bool.or_eq_false_iff, beq_eq_false_iff_ne] at hc
  rw [surplus_cons, if_neg hc.1, if_neg hc.2, Int.zero_add]

theorem surplus_append (s t : Text) : surplus (s ++ t) = surplus s + surplus t := by
  induction s with
  | nil => exact (Int.zero_add _).symm
  | cons c s ih => rw [List.cons_append, surplus_cons, surplus_cons, ih, Int.add_assoc]

theorem surplus_filter (t : Text) : surplus (t.filter isParenthesis) = surplus t := by
  induction t with
  | nil => rfl
  | cons c t ih =>
    by_cases hc : isParenthesis c = true
    · rw [List.filter_cons_of_pos hc, surplus_cons, surplus_cons, ih]
    · rw [List.filter_cons_of_neg hc, surplus_plain (Bool.eq_false_iff.mpr hc), ih]

namespace Nested

theorem append {s t : Text} (hs : Nested s) (ht : Nested t) : Nested (s ++ t) := by
  induction hs with
  | nil => exact ht
  | plain hc _ ih => exact .plain hc ih
  | @pair s u hs _ _ ih =>
    rw [List.cons_append, List.append_assoc, List.cons_append]
    exact .pair hs ih

/-- As many parentheses are closed as are opened. -/
theorem surplus_eq_zero {t : Text} (h : Nested t) : surplus t = 0 := by
  induction h with
  | nil => rfl
  | plain hc _ ih => rw [surplus_plain hc, ih]
  | pair _ _ hs ht =>
    rw [surplus_opening, surplus_append, surplus_closing]
    omega

/-- No beginning closes more than it opens. -/
theorem surplus_nonneg {s t : Text} (h : Nested t) (hs : s <+: t) : 0 ≤ surplus s := by
  induction h generalizing s with
  | nil =>
    rw [List.prefix_nil.mp hs]
    exact Int.le_refl 0
  | @plain c t hc _ ih =>
    rcases List.prefix_cons_iff.mp hs with rfl | ⟨s, rfl, hbegins⟩
    · exact Int.le_refl 0
    · rw [surplus_plain hc]
      exact ih hbegins
  | @pair u t hu _ ihu iht =>
    rcases List.prefix_cons_iff.mp hs with rfl | ⟨s, rfl, v, hv⟩
    · exact Int.le_refl 0
    · rw [surplus_opening]
      have hzero := hu.surplus_eq_zero
      rcases List.append_eq_append_iff.mp hv with ⟨m, rfl, -⟩ | ⟨m, rfl, hm⟩
      · -- The pair is still open.
        have hle := ihu (List.prefix_append s m)
        omega
      · -- All of `u` has been passed, and perhaps the pair is closed.
        rw [surplus_append]
        cases m with
        | nil =>
          rw [surplus]
          omega
        | cons c m =>
          rw [List.cons_append, List.cons.injEq] at hm
          have hle := iht ⟨v, hm.2.symm⟩
          rw [← hm.1, surplus_closing]
          omega

end Nested

/-- The parentheses of a derivation are nested. -/
theorem Tree.nested {part : Part} (d : Tree part) :
    Nested (d.tokens.filterMap Token.parenthesis?) := by
  induction d with
  | chain first rest hfirst hrest =>
    rw [Tree.tokens_chain, List.filterMap_append]
    exact hfirst.append hrest
  | stop => exact .nil
  | more op operand rest hoperand hrest =>
    rw [Tree.tokens_more, List.filterMap_cons_none (by cases op <;> rfl), List.filterMap_append]
    exact hoperand.append hrest
  | signed sign operand ih =>
    rw [Tree.tokens_signed, List.filterMap_cons_none (by cases sign <;> rfl)]
    exact ih
  | unsigned operand ih => exact ih
  | power base exponent hbase hexponent =>
    rw [Tree.tokens_power, List.filterMap_append, List.filterMap_cons_none rfl]
    exact hbase.append hexponent
  | unarySigned sign operand ih =>
    rw [Tree.tokens_unarySigned, List.filterMap_cons_none (by cases sign <;> rfl)]
    exact ih
  | unaryBare operand ih => exact ih
  | number literal => exact .nil
  | group inside ih =>
    have hopening : Token.leftParen.parenthesis? = some '(' := rfl
    rw [Tree.tokens_group, List.filterMap_cons_some hopening, List.filterMap_append]
    exact .pair ih .nil

/-- A parenthesis behind which an expression is read up to the end of the text has no partner. -/
theorem unclosed_of_tree {t : Text} {k : Nat} {before after : List Placed}
    (htokens : tokenize t = .ok (before ++ ⟨k, .leftParen⟩ :: after))
    {d : Tree (.rule .expression)} (hd : d.tokens = after.map Placed.token) : Unclosed t k := by
  obtain ⟨s, u, hcut, hoffset, hbehind⟩ := (lexes 0 t).token_at htokens
  have hk : k = s.size := by
    rw [show k = 0 + s.size from hoffset, Nat.zero_add]
  have hnested : Nested (u.filter isParenthesis) := by
    rw [hbehind.filter_isParenthesis rfl, ← hd]
    exact d.nested
  refine ⟨⟨s, u, hcut, hk⟩, ?_⟩
  intro before' inside after' hcut' hk' hinside
  -- The two ways to cut the text are the same, and behind the `)` too much would be closed.
  obtain ⟨-, hu⟩ := Text.append_inj_of_size (hcut.symm.trans hcut') (hk.symm.trans hk')
  have hu : u = (inside ++ [')']) ++ after' := by
    rw [List.append_assoc, List.singleton_append]
    exact (List.cons.inj hu).2
  have hbegins : inside ++ [')'] <+: u := ⟨after', hu.symm⟩
  have hle := hnested.surplus_nonneg (hbegins.filter isParenthesis)
  rw [surplus_filter, surplus_append, hinside.surplus_eq_zero] at hle
  exact absurd hle (by decide)

/-! ## What errors say -/

/-- A token starts at the offset `k`. -/
def StartsToken (t : Text) (k : Nat) : Prop :=
  ∃ placed token, tokenize t = .ok placed ∧ ⟨k, token⟩ ∈ placed ∧ t.PartAt k token.text

/-- The text ends with a token behind which a level of nesting is entered. -/
def EndsOpening (t : Text) : Prop :=
  ∃ before opener, tokenize t = .ok (before ++ [opener]) ∧ opener.token.OpensLevel

/-- The digits and dots at the offset `k`, with none before and none behind them. -/
def RunAt (t : Text) (k : Nat) (run : Text) : Prop :=
  ∃ before after : Text, t = before ++ (run ++ after) ∧ k = before.size ∧ IsRun run after
    ∧ ∀ c ∈ before.getLast?, isNumberChar c = false

/-- Digits and dots of which none is before and none behind them. -/
theorem runAt_of_parted {s run rest : Text} (hrun : IsRun run rest)
    (hparted : Parted s (run ++ rest)) : RunAt (s ++ (run ++ rest)) s.size run := by
  refine ⟨s, rest, rfl, rfl, hrun, ?_⟩
  intro c hc
  obtain ⟨d, run', rfl⟩ := List.exists_cons_of_ne_nil hrun.ne_nil
  have hd : isNumberChar d = true := hrun.chars d List.mem_cons_self
  rw [Bool.eq_false_iff]
  intro hnumber
  rw [hparted c hc d rfl hnumber] at hd
  cases hd

namespace ArithmeticError

/-- The offset that an error names. -/
def offset? : ArithmeticError → Option Nat
  | invalidNumber k | invalidCharacter k _ | incrementOperator k | unexpectedToken k
  | unclosedParenthesis k | ambiguousExponent k | tooDeep k => some k
  | empty | unexpectedEnd => none

/-- **Truth.**  What an error says of the text `t`. -/
def Truthful (t : Text) : ArithmeticError → Prop
  | empty => ∀ c ∈ t, isBlank c = true
  | invalidNumber k => ∃ run, RunAt t k run ∧ (run = ['.'] ∨ 2 ≤ run.count '.')
  | invalidCharacter k c => t.PartAt k [c]
  | incrementOperator k => t.PartAt k ['+', '+'] ∨ t.PartAt k ['-', '-']
  | unexpectedToken k => StartsToken t k
  | unexpectedEnd => True
  | unclosedParenthesis k => Unclosed t k
  | ambiguousExponent k => t.PartAt k ['*', '*']
  | tooDeep k => 0 < k ∧ StartsToken t k ∨ k = 0 ∧ EndsOpening t

end ArithmeticError

/-- A text that is refused is refused with reason. -/
theorem Refused.truthful {s u : Text} {e : ArithmeticError} (h : Refused s.size u e)
    (hparted : Parted s u) : e.Truthful (s ++ u) := by
  cases h with
  | @increment c rest hsign =>
    rcases hsign with rfl | rfl
    · exact .inl ⟨s, rest, rfl, rfl⟩
    · exact .inr ⟨s, rest, rfl, rfl⟩
  | @number run rest hrun hbad => exact ⟨run, runAt_of_parted hrun hparted, hbad⟩
  | @character c rest => exact ⟨s, rest, rfl, rfl⟩

theorem tokenize_truthful {t : Text} {e : ArithmeticError} (h : tokenize t = .error e) :
    e.Truthful t := by
  obtain ⟨s, u, rfl, hparted, hrefused⟩ := (lexes 0 t).refused_at h
  rw [Nat.zero_add] at hrefused
  exact hrefused.truthful hparted

/-- A token stands where it says. -/
theorem partAt_of_mem {t : Text} {placed : List Placed} {p : Placed}
    (h : tokenize t = .ok placed) (hp : p ∈ placed) :
    t.PartAt p.offset p.token.text := by
  obtain ⟨before, after, rfl⟩ := List.append_of_mem hp
  obtain ⟨s, u, hcut, hoffset, -⟩ := (lexes 0 t).token_at h
  exact ⟨s, u, hcut, by rw [hoffset, Nat.zero_add]⟩

theorem startsToken_of_mem {t : Text} {placed : List Placed} {k : Nat} {token : Token}
    (h : tokenize t = .ok placed) (hp : ⟨k, token⟩ ∈ placed) : StartsToken t k :=
  ⟨placed, token, h, hp, partAt_of_mem h hp⟩

/-- A token that follows another does not start the text. -/
theorem offset_pos {t : Text} {before after : List Placed} {p q : Placed}
    (h : tokenize t = .ok (before ++ p :: q :: after)) : 0 < q.offset := by
  have hne := (lexes 0 t).text_ne_nil h p (by simp)
  have hpos := Text.size_pos_of_ne_nil hne
  obtain ⟨s, u, -, -, hbehind⟩ := (lexes 0 t).token_at h
  have hnext : (.ok (q :: after) : Except ArithmeticError _) = .ok ([] ++ q :: after) := rfl
  obtain ⟨s', u', -, hoffset, -⟩ := hbehind.token_at hnext
  omega

section

variable {α : Type} {ops : Operations α} {t : Text} {placed : List Placed}

theorem evaluateTokens_truthful {e : ArithmeticError} (hplaced : tokenize t = .ok placed)
    (hne : placed ≠ []) (he : evaluateTokens ops placed = .error e) : e.Truthful t := by
  have hexplains := run_explains hne he
  cases e with
  | unexpectedToken k =>
    obtain ⟨-, token, hnext⟩ := hexplains
    exact startsToken_of_mem hplaced (List.mem_of_getElem? hnext)
  | unexpectedEnd => trivial
  | unclosedParenthesis k =>
    obtain ⟨-, before, after, rfl, d, hd⟩ := hexplains
    exact unclosed_of_tree hplaced hd
  | ambiguousExponent k => exact partAt_of_mem hplaced (List.mem_of_getElem? hexplains.2)
  | tooDeep k =>
    obtain ⟨-, before, opener, after, rfl, -, hopens, hafter⟩ := hexplains
    rcases hafter with ⟨-, token, hnext⟩ | ⟨-, rfl, rfl⟩
    · obtain ⟨after, rfl⟩ := List.head?_eq_some_iff.mp hnext
      have hmem : ⟨k, token⟩ ∈ before ++ opener :: ⟨k, token⟩ :: after := by simp
      exact .inl ⟨offset_pos hplaced, startsToken_of_mem hplaced hmem⟩
    · exact .inr ⟨rfl, before, opener, hplaced, hopens⟩
  | _ => exact hexplains.elim

/-- Of a text with tokens the value is that of the tokens. -/
theorem evaluate_eq_evaluateTokens (hplaced : tokenize t = .ok placed) :
    evaluate ops t = evaluateTokens ops placed := by
  rw [evaluate, hplaced]
  rfl

variable (ops) in
theorem evaluate_truthful {e : ArithmeticError} (he : evaluate ops t = .error e) :
    e.Truthful t := by
  cases hplaced : tokenize t with
  | error e' =>
    rw [evaluate, hplaced] at he
    cases he
    exact tokenize_truthful hplaced
  | ok placed =>
    rw [evaluate_eq_evaluateTokens hplaced] at he
    by_cases hne : placed = []
    · subst hne
      cases he
      exact isBlank_of_tokenizeFrom_nil hplaced
    · exact evaluateTokens_truthful hplaced hne he

theorem StartsToken.partAt {k : Nat} (h : StartsToken t k) :
    ∃ part, part ≠ [] ∧ t.PartAt k part := by
  obtain ⟨placed, token, hplaced, hmem, hpart⟩ := h
  exact ⟨token.text, (lexes 0 t).text_ne_nil hplaced _ hmem, hpart⟩

/-- Something stands at the place that an error names. -/
theorem ArithmeticError.Truthful.partAt {e : ArithmeticError} {k : Nat} (h : e.Truthful t)
    (hk : e.offset? = some k) : ∃ part, part ≠ [] ∧ t.PartAt k part := by
  cases e with
  | empty => cases hk
  | unexpectedEnd => cases hk
  | invalidNumber k =>
    cases hk
    obtain ⟨run, ⟨before, after, hcut, hsize, hrun, -⟩, -⟩ := h
    exact ⟨run, hrun.ne_nil, before, after, hcut, hsize⟩
  | invalidCharacter k c =>
    cases hk
    exact ⟨[c], nofun, h⟩
  | incrementOperator k =>
    cases hk
    rcases h with h | h
    · exact ⟨['+', '+'], nofun, h⟩
    · exact ⟨['-', '-'], nofun, h⟩
  | unexpectedToken k =>
    cases hk
    exact StartsToken.partAt h
  | unclosedParenthesis k =>
    cases hk
    exact ⟨['('], nofun, h.1⟩
  | ambiguousExponent k =>
    cases hk
    exact ⟨['*', '*'], nofun, h⟩
  | tooDeep k =>
    cases hk
    rcases h with ⟨-, hstarts⟩ | ⟨rfl, before, opener, hplaced, -⟩
    · exact hstarts.partAt
    · refine ⟨t, ?_, t.partAt_self⟩
      rintro rfl
      rw [show tokenize [] = .ok [] from tokenizeFrom_blanks (t := []) (by simp) 0] at hplaced
      simp at hplaced

variable (ops t) in
theorem evaluate_eq_empty_iff :
    evaluate ops t = .error .empty ↔ ∀ c ∈ t, isBlank c = true := by
  constructor
  · intro he
    exact evaluate_truthful ops he
  · intro hblank
    rw [evaluate_eq_evaluateTokens (tokenizeFrom_blanks hblank 0)]
    rfl

/-! ## When the place is made up -/

/-- **Made-up places.**  If an offset is taken for 0 because there is no token, a level too many
    has been entered behind the last token. -/
theorem run_fallback (h : ((Machine.run ops placed).exec .start).2.now.fallback = true) :
    evaluateTokens ops placed = .error (.tooDeep 0)
      ∧ ((Machine.run ops placed).exec .start).2.now.depth = maximumDepth + 1
      ∧ ((Machine.run ops placed).exec .start).2.now.position = placed.length
      ∧ ∃ before opener, placed = before ++ [opener] ∧ opener.token.OpensLevel := by
  by_cases hne : placed = []
  · subst hne
    cases h
  cases hresult : evaluateTokens ops placed with
  | ok value =>
    obtain ⟨s, hs⟩ := (run_follows hne).holds ((run_result ops placed).trans hresult)
    rw [hs.fallback] at h
    cases h
  | error e =>
    have hexplains := run_explains hne hresult
    cases e with
    | tooDeep k =>
      obtain ⟨hdepth, before, opener, after, rfl, hposition, hopens, hafter⟩ := hexplains
      rcases hafter with ⟨hfalse, -⟩ | ⟨-, rfl, rfl⟩
      · rw [hfalse] at h
        cases h
      · refine ⟨rfl, hdepth, ?_, before, opener, rfl, hopens⟩
        rw [hposition, List.length_append]
        rfl
    | empty => exact hexplains.elim
    | invalidNumber => exact hexplains.elim
    | invalidCharacter => exact hexplains.elim
    | incrementOperator => exact hexplains.elim
    | _ =>
      rw [hexplains.1] at h
      cases h

/-- The error of a level too many names the start of the text only if its place is made up. -/
theorem fallback_of_tooDeep_zero (hplaced : tokenize t = .ok placed)
    (he : evaluateTokens ops placed = .error (.tooDeep 0)) :
    ((Machine.run ops placed).exec .start).2.now.fallback = true := by
  have hne : placed ≠ [] := by
    rintro rfl
    cases he
  obtain ⟨-, before, opener, after, rfl, -, -, hafter⟩ := run_explains hne he
  rcases hafter with ⟨-, token, hnext⟩ | ⟨htrue, -⟩
  · obtain ⟨after, rfl⟩ := List.head?_eq_some_iff.mp hnext
    exact absurd (offset_pos hplaced) (Nat.lt_irrefl 0)
  · exact htrue

end

/-- Whether an evaluation fails with an error can be decided. -/
instance {α : Type} (x : Except ArithmeticError α) (e : ArithmeticError) :
    Decidable (x = .error e) :=
  match x with
  | .ok _ => .isFalse nofun
  | .error e' => decidable_of_iff (e' = e) ⟨congrArg Except.error, Except.error.inj⟩

/-- **Errors tell the truth.**  Every error says of the text what is so, and an offset that it
    names is that of a character.  A text is empty exactly if it is all blank.  In a run over the
    tokens of a text an offset is taken for 0 exactly where the evaluation fails for a level too
    many at 0; then the last token is one behind which a level is entered, and the 257th level
    has been entered behind it. -/
theorem evaluate_errors_truthful {α : Type} (ops : Operations α) (t : Text) :
    (∀ e, evaluate ops t = .error e → e.Truthful t
      ∧ ∀ k, e.offset? = some k → t.IsBoundary k ∧ k < t.size)
    ∧ (evaluate ops t = .error .empty ↔ ∀ c ∈ t, isBlank c = true)
    ∧ ∀ placed, tokenize t = .ok placed →
        ((Machine.run ops placed).exec .start).1 = evaluate ops t
        ∧ (((Machine.run ops placed).exec .start).2.now.fallback = true ↔
            evaluate ops t = .error (.tooDeep 0))
        ∧ (((Machine.run ops placed).exec .start).2.now.fallback = true →
            ((Machine.run ops placed).exec .start).2.now.depth = 257
            ∧ ((Machine.run ops placed).exec .start).2.now.position = placed.length
            ∧ ∃ before opener, placed = before ++ [opener] ∧ opener.token.OpensLevel) := by
  refine ⟨?_, evaluate_eq_empty_iff ops t, ?_⟩
  · intro e he
    have htruthful := evaluate_truthful ops he
    refine ⟨htruthful, ?_⟩
    intro k hk
    obtain ⟨part, hne, hpart⟩ := htruthful.partAt hk
    exact ⟨hpart.isBoundary, hpart.lt_size hne⟩
  · intro placed hplaced
    rw [evaluate_eq_evaluateTokens hplaced]
    refine ⟨run_result ops placed, ⟨?_, fallback_of_tooDeep_zero hplaced⟩, ?_⟩
    · intro hfallback
      exact (run_fallback hfallback).1
    · intro hfallback
      exact (run_fallback hfallback).2

/-- A parenthesis that is opened behind one that is closed, and one level too many. -/
theorem evaluate_errors_truthful_parentheses :
    (evaluate binary64 "(é)".toList = .error (.invalidCharacter 1 'é')
      ∧ Text.PartAt "(é)".toList 1 ['é'])
    ∧ (evaluate binary64 "(1) - (2".toList = .error (.unclosedParenthesis 6)
      ∧ Unclosed "(1) - (2".toList 6 ∧ 6 < Text.size "(1) - (2".toList)
    ∧ (evaluate binary64 (List.replicate 257 '(') = .error (.tooDeep 0)
      ∧ ∃ placed, tokenize (List.replicate 257 '(') = .ok placed
        ∧ ((Machine.run binary64 placed).exec .start).2.now.depth = 257) := by
  have hcharacter : evaluate binary64 "(é)".toList = .error (.invalidCharacter 1 'é') := by
    decide +kernel
  have hunclosed : evaluate binary64 "(1) - (2".toList = .error (.unclosedParenthesis 6) := by
    decide +kernel
  have hdeep : evaluate binary64 (List.replicate 257 '(') = .error (.tooDeep 0) := by
    decide +kernel
  refine ⟨⟨hcharacter, ?_⟩, ⟨hunclosed, ?_⟩, hdeep, ?_⟩
  · exact ((evaluate_errors_truthful binary64 _).1 _ hcharacter).1
  · obtain ⟨htruthful, hinside⟩ := (evaluate_errors_truthful binary64 _).1 _ hunclosed
    exact ⟨htruthful, (hinside 6 rfl).2⟩
  · obtain ⟨herrors, -, hruns⟩ := evaluate_errors_truthful binary64 (List.replicate 257 '(')
    rcases (herrors _ hdeep).1 with ⟨hpos, -⟩ | ⟨-, before, opener, hplaced, -⟩
    · exact absurd hpos (Nat.lt_irrefl 0)
    · obtain ⟨-, hfallback, hlevels⟩ := hruns _ hplaced
      exact ⟨_, hplaced, (hlevels (hfallback.mpr hdeep)).1⟩

end Sigil.Arithmetic
