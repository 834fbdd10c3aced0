import Sigil.Arithmetic.Evaluator

/-! # The grammar of arithmetic expressions

    A derivation of

        expression := term (('+' | '-') term)*
        term       := exponent (('*' | '/' | '%') exponent)*
        exponent   := sign unary | primary ('**' exponent)?
        unary      := sign unary | primary
        primary    := number | '(' expression ')'

    is a tree.  The first two rules have one form, a chain of operands with operators
    between them, and differ in the operands and the operators.

    * `Tree`: the derivations, with their tokens, their nesting and their value.
    * `Part.Ends`: where the tokens of a derivation can end.
    * `Tree.determined`: a derivation is known from its tokens. -/

namespace Sigil.Arithmetic

/-! ## Derivations -/

/-- The two kinds of chains. -/
inductive Level where
  /-- Operands that are added and subtracted. -/
  | sum
  /-- Operands that are multiplied and divided. -/
  | product
deriving DecidableEq, Repr

/-- The operators of a chain. -/
inductive Operator : Level → Type where
  | plus : Operator .sum
  | minus : Operator .sum
  | times : Operator .product
  | divide : Operator .product
  | remainder : Operator .product
deriving DecidableEq, Repr

/-- The signs are the operators of a sum. -/
abbrev Sign := Operator .sum

/-- The rules of the grammar. -/
inductive Rule where
  | chain (level : Level)
  | exponent
  | unary
  | primary
deriving DecidableEq, Repr

namespace Rule

/-- `expression := term (('+' | '-') term)*` -/
abbrev expression : Rule := .chain .sum

/-- `term := exponent (('*' | '/' | '%') exponent)*` -/
abbrev term : Rule := .chain .product

end Rule

/-- The rule that the operands of a chain follow. -/
def Level.operand : Level → Rule
  | .sum => .term
  | .product => .exponent

/-- What a derivation can be of: a whole rule, or the part of a chain that is repeated. -/
inductive Part where
  | rule (rule : Rule)
  | more (level : Level)
deriving DecidableEq, Repr

/-- **Derivations**, one constructor for each way to follow a rule. -/
inductive Tree : Part → Type where
  /-- An operand and what follows it in a chain. -/
  | chain {level : Level} (first : Tree (.rule level.operand)) (rest : Tree (.more level)) :
      Tree (.rule (.chain level))
  /-- The end of a chain. -/
  | stop {level : Level} : Tree (.more level)
  /-- One more operand of a chain. -/
  | more {level : Level} (op : Operator level) (operand : Tree (.rule level.operand))
      (rest : Tree (.more level)) : Tree (.more level)
  /-- `exponent := sign unary` -/
  | signed (sign : Sign) (operand : Tree (.rule .unary)) : Tree (.rule .exponent)
  /-- `exponent := primary` -/
  | unsigned (operand : Tree (.rule .primary)) : Tree (.rule .exponent)
  /-- `exponent := primary '**' exponent` -/
  | power (base : Tree (.rule .primary)) (exponent : Tree (.rule .exponent)) :
      Tree (.rule .exponent)
  /-- `unary := sign unary` -/
  | unarySigned (sign : Sign) (operand : Tree (.rule .unary)) : Tree (.rule .unary)
  /-- `unary := primary` -/
  | unaryBare (operand : Tree (.rule .primary)) : Tree (.rule .unary)
  /-- `primary := number` -/
  | number (literal : Text) : Tree (.rule .primary)
  /-- `primary := '(' expression ')'` -/
  | group (inside : Tree (.rule .expression)) : Tree (.rule .primary)

/-- The token of an operator. -/
def Operator.token {level : Level} : Operator level → Token
  | .plus => .plus
  | .minus => .minus
  | .times => .star
  | .divide => .slash
  | .remainder => .percent

theorem Operator.token_inj {level : Level} {op op' : Operator level}
    (h : op.token = op'.token) : op = op' := by
  cases op <;> cases op' <;> cases h <;> rfl

/-- What an operator does with its operands. -/
def Operations.binary {α : Type} (ops : Operations α) {level : Level} :
    Operator level → α → α → α
  | .plus => ops.add
  | .minus => ops.sub
  | .times => ops.mul
  | .divide => ops.div
  | .remainder => ops.rem

/-- What a sign does with its operand. -/
def Operations.signed {α : Type} (ops : Operations α) : Sign → α → α
  | .plus => id
  | .minus => ops.neg

/-- The meaning of a derivation: a value, or for the part of a chain that is repeated
    what becomes of the value of the operands before it. -/
abbrev Part.Meaning (α : Type) : Part → Type
  | .rule _ => α
  | .more _ => α → α

namespace Tree

/-- The tokens of a derivation. -/
def tokens {part : Part} : Tree part → List Token
  | .chain first rest => first.tokens ++ rest.tokens
  | .stop => []
  | .more op operand rest => op.token :: (operand.tokens ++ rest.tokens)
  | .signed sign operand => sign.token :: operand.tokens
  | .unsigned operand => operand.tokens
  | .power base exponent => base.tokens ++ .doubleStar :: exponent.tokens
  | .unarySigned sign operand => sign.token :: operand.tokens
  | .unaryBare operand => operand.tokens
  | .number literal => [.number literal]
  | .group inside => .leftParen :: (inside.tokens ++ [.rightParen])

/-- **Nesting.**  Each parenthesis, each sign and each right operand of `**` adds one level
    to what it encloses. -/
def nesting {part : Part} : Tree part → Nat
  | .chain first rest => max first.nesting rest.nesting
  | .stop => 0
  | .more _ operand rest => max operand.nesting rest.nesting
  | .signed _ operand => operand.nesting + 1
  | .unsigned operand => operand.nesting
  | .power base exponent => max base.nesting (exponent.nesting + 1)
  | .unarySigned _ operand => operand.nesting + 1
  | .unaryBare operand => operand.nesting
  | .number _ => 0
  | .group inside => inside.nesting + 1

/-- **Value.**  The operators of a chain are applied from left to right, to operands that
    have their signs and their powers already. -/
def value {α : Type} (ops : Operations α) {part : Part} : Tree part → part.Meaning α
  | .chain first rest => rest.value ops (first.value ops)
  | .stop => id
  | .more op operand rest => fun left => rest.value ops (ops.binary op left (operand.value ops))
  | .signed sign operand => ops.signed sign (operand.value ops)
  | .unsigned operand => operand.value ops
  | .power base exponent => ops.pow (base.value ops) (exponent.value ops)
  | .unarySigned sign operand => ops.signed sign (operand.value ops)
  | .unaryBare operand => operand.value ops
  | .number literal => ops.literal literal
  | .group inside => inside.value ops

theorem tokens_chain {level : Level} (first : Tree (.rule level.operand))
    (rest : Tree (.more level)) : (chain first rest).tokens = first.tokens ++ rest.tokens :=
  rfl

theorem tokens_more {level : Level} (op : Operator level) (operand : Tree (.rule level.operand))
    (rest : Tree (.more level)) :
    (more op operand rest).tokens = op.token :: (operand.tokens ++ rest.tokens) :=
  rfl

theorem tokens_signed (sign : Sign) (operand : Tree (.rule .unary)) :
    (signed sign operand).tokens = sign.token :: operand.tokens :=
  rfl

theorem tokens_unsigned (operand : Tree (.rule .primary)) :
    (unsigned operand).tokens = operand.tokens :=
  rfl

theorem tokens_power (base : Tree (.rule .primary)) (exponent : Tree (.rule .exponent)) :
    (power base exponent).tokens = base.tokens ++ .doubleStar :: exponent.tokens :=
  rfl

theorem tokens_unarySigned (sign : Sign) (operand : Tree (.rule .unary)) :
    (unarySigned sign operand).tokens = sign.token :: operand.tokens :=
  rfl

theorem tokens_unaryBare (operand : Tree (.rule .primary)) :
    (unaryBare operand).tokens = operand.tokens :=
  rfl

theorem tokens_group (inside : Tree (.rule .expression)) :
    (group inside).tokens = .leftParen :: (inside.tokens ++ [.rightParen]) :=
  rfl

/-- A primary starts with a token that is no sign. -/
theorem primary_head (d : Tree (.rule .primary)) :
    ∃ t ts, d.tokens = t :: ts ∧ ∀ sign : Sign, sign.token ≠ t := by
  cases d with
  | number literal =>
    refine ⟨.number literal, [], rfl, ?_⟩
    intro sign h
    cases sign <;> cases h
  | group inside =>
    refine ⟨.leftParen, inside.tokens ++ [.rightParen], rfl, ?_⟩
    intro sign h
    cases sign <;> cases h

/-- No rule is followed without a token. -/
theorem tokens_ne_nil {rule : Rule} (d : Tree (.rule rule)) : d.tokens ≠ [] := by
  have h : ∀ {part : Part} (d : Tree part), (∀ level, part ≠ .more level) → d.tokens ≠ [] := by
    intro part d
    induction d with
    | chain first rest ihfirst _ =>
      intro _ hnil
      exact ihfirst nofun (List.append_eq_nil_iff.mp hnil).1
    | stop => exact fun hpart => absurd rfl (hpart _)
    | more op operand rest _ _ => exact fun hpart => absurd rfl (hpart _)
    | signed sign operand _ => exact fun _ => List.cons_ne_nil _ _
    | unsigned operand ih => exact fun _ => ih nofun
    | power base exponent _ _ => simp [tokens_power]
    | unarySigned sign operand _ => exact fun _ => List.cons_ne_nil _ _
    | unaryBare operand ih => exact fun _ => ih nofun
    | number literal => exact fun _ => List.cons_ne_nil _ _
    | group inside _ => exact fun _ => List.cons_ne_nil _ _
  exact h d nofun

end Tree

/-! ## Where a derivation can end -/

/-- Can the token be read as a continuation of what the part has derived? -/
def Part.continues : Part → Token → Bool
  | .rule .primary, _ | .rule .unary, _ => false
  | .rule .exponent, t => t = .doubleStar
  | .rule (.chain .product), t | .more .product, t =>
    t ∈ [.doubleStar, .star, .slash, .percent]
  | .rule (.chain .sum), t | .more .sum, t =>
    t ∈ [.doubleStar, .star, .slash, .percent, .plus, .minus]

/-- A derivation can end before this token, or at the end of all tokens. -/
def Part.Ends (part : Part) (next : Option Token) : Prop :=
  ∀ t, next = some t → part.continues t = false

theorem Part.ends_primary (next : Option Token) : (Part.rule .primary).Ends next :=
  fun _ _ => rfl

theorem Part.ends_unary (next : Option Token) : (Part.rule .unary).Ends next :=
  fun _ _ => rfl

theorem Part.ends_none (part : Part) : part.Ends none :=
  nofun

/-- Before a closing parenthesis everything can end. -/
theorem Part.ends_rightParen (part : Part) : part.Ends (some .rightParen) := by
  intro t ht
  cases ht
  cases part with
  | rule rule =>
    cases rule with
    | chain level => cases level <;> rfl
    | exponent => rfl
    | unary => rfl
    | primary => rfl
  | more level => cases level <;> rfl

theorem Part.ends_exponent_iff {next : Option Token} :
    (Part.rule .exponent).Ends next ↔ next ≠ some .doubleStar := by
  constructor
  · intro h hnext
    exact absurd (h _ hnext) (by decide)
  · intro h t ht
    rw [Part.continues, decide_eq_false_iff_not]
    intro heq
    exact h (heq ▸ ht)

/-- A chain and the part of it that is repeated end before the same tokens. -/
theorem Part.Ends.more {level : Level} {next : Option Token}
    (h : (Part.rule (.chain level)).Ends next) : (Part.more level).Ends next := by
  cases level <;> exact h

/-- A chain cannot end before one of its operators. -/
theorem Part.Ends.ne_operator {level : Level} {next : Option Token}
    (h : (Part.more level).Ends next) (op : Operator level) : next ≠ some op.token := by
  intro hnext
  have hfalse := h _ hnext
  cases op <;> cases hfalse

/-- What follows an operand of a chain is where the operand can end. -/
theorem Part.Ends.operand {level : Level} {ts : List Token} (h : (Part.more level).Ends ts.head?)
    (rest : Tree (.more level)) :
    (Part.rule level.operand).Ends (rest.tokens ++ ts).head? := by
  cases rest with
  | stop =>
    intro t ht
    have hfalse := h t ht
    cases level <;> cases t <;> cases hfalse <;> rfl
  | more op operand rest =>
    intro t ht
    rw [Tree.tokens_more, List.cons_append, List.head?_cons, Option.some.injEq] at ht
    subst ht
    cases op <;> rfl

/-! ## A derivation is known from its tokens -/

namespace Tree

/-- The derivation is the only one with its tokens, also if more tokens follow, as long as
    they cannot be read as a continuation. -/
def Determined {part : Part} (d : Tree part) : Prop :=
  ∀ (d' : Tree part) (ts ts' : List Token), part.Ends ts.head? → part.Ends ts'.head? →
    d.tokens ++ ts = d'.tokens ++ ts' → d = d' ∧ ts = ts'

theorem Determined.chain {level : Level} {first : Tree (.rule level.operand)}
    {rest : Tree (.more level)} (hfirst : first.Determined) (hrest : rest.Determined) :
    (Tree.chain first rest).Determined := by
  intro d' ts ts' hts hts' h
  cases d' with
  | chain first' rest' =>
    simp only [tokens_chain, List.append_assoc] at h
    obtain ⟨hf, htail⟩ := hfirst first' _ _ (hts.more.operand rest) (hts'.more.operand rest') h
    obtain ⟨hr, hend⟩ := hrest rest' ts ts' hts.more hts'.more htail
    exact ⟨by rw [hf, hr], hend⟩

theorem Determined.stop {level : Level} : (Tree.stop : Tree (.more level)).Determined := by
  intro d' ts ts' hts _ h
  cases d' with
  | stop => exact ⟨rfl, h⟩
  | more op operand rest =>
    refine absurd ?_ (hts.ne_operator op)
    rw [show ts = _ from h]
    rfl

theorem Determined.more {level : Level} {op : Operator level}
    {operand : Tree (.rule level.operand)} {rest : Tree (.more level)}
    (hoperand : operand.Determined) (hrest : rest.Determined) :
    (Tree.more op operand rest).Determined := by
  intro d' ts ts' hts hts' h
  cases d' with
  | stop =>
    refine absurd ?_ (hts'.ne_operator op)
    rw [← show _ = ts' from h]
    rfl
  | more op' operand' rest' =>
    simp only [tokens_more, List.cons_append, List.append_assoc, List.cons.injEq] at h
    obtain ⟨hop, h⟩ := h
    obtain ⟨ho, htail⟩ := hoperand operand' _ _ (hts.operand rest) (hts'.operand rest') h
    obtain ⟨hr, hend⟩ := hrest rest' ts ts' hts hts' htail
    exact ⟨by rw [Operator.token_inj hop, ho, hr], hend⟩

/-- What starts with a sign is no primary. -/
theorem sign_ne_primary {sign : Sign} {ts ts' : List Token} (d : Tree (.rule .primary))
    (h : sign.token :: ts = d.tokens ++ ts') : False := by
  obtain ⟨t, rest, htokens, hne⟩ := primary_head d
  rw [htokens] at h
  exact hne sign (List.cons.inj h).1

theorem Determined.signed {sign : Sign} {operand : Tree (.rule .unary)}
    (hoperand : operand.Determined) : (Tree.signed sign operand).Determined := by
  intro d' ts ts' _ _ h
  cases d' with
  | signed sign' operand' =>
    obtain ⟨hsign, h⟩ := List.cons.inj h
    obtain ⟨ho, hend⟩ := hoperand operand' ts ts' (Part.ends_unary _) (Part.ends_unary _) h
    exact ⟨by rw [Operator.token_inj hsign, ho], hend⟩
  | unsigned operand' => exact (sign_ne_primary operand' h).elim
  | power base exponent =>
    rw [tokens_signed, tokens_power, List.append_assoc] at h
    exact (sign_ne_primary base h).elim

theorem Determined.unsigned {operand : Tree (.rule .primary)} (hoperand : operand.Determined) :
    (Tree.unsigned operand).Determined := by
  intro d' ts ts' hts _ h
  cases d' with
  | signed sign' operand' => exact (sign_ne_primary operand h.symm).elim
  | unsigned operand' =>
    obtain ⟨ho, hend⟩ := hoperand operand' ts ts' (Part.ends_primary _) (Part.ends_primary _) h
    exact ⟨by rw [ho], hend⟩
  | power base exponent =>
    rw [tokens_unsigned, tokens_power, List.append_assoc] at h
    -- Then `**` would follow the first derivation, which cannot end there.
    obtain ⟨-, hend⟩ := hoperand base ts _ (Part.ends_primary _) (Part.ends_primary _) h
    refine absurd ?_ (Part.ends_exponent_iff.mp hts)
    rw [hend]
    rfl

theorem Determined.power {base : Tree (.rule .primary)} {exponent : Tree (.rule .exponent)}
    (hbase : base.Determined) (hexponent : exponent.Determined) :
    (Tree.power base exponent).Determined := by
  intro d' ts ts' hts hts' h
  cases d' with
  | signed sign' operand' =>
    rw [tokens_power, tokens_signed, List.append_assoc] at h
    exact (sign_ne_primary base h.symm).elim
  | unsigned operand' =>
    rw [tokens_power, tokens_unsigned, List.append_assoc] at h
    obtain ⟨-, hend⟩ := hbase operand' _ ts' (Part.ends_primary _) (Part.ends_primary _) h
    refine absurd ?_ (Part.ends_exponent_iff.mp hts')
    rw [← hend]
    rfl
  | power base' exponent' =>
    simp only [tokens_power, List.append_assoc, List.cons_append] at h
    obtain ⟨hb, htail⟩ := hbase base' _ _ (Part.ends_primary _) (Part.ends_primary _) h
    obtain ⟨he, hend⟩ := hexponent exponent' ts ts' hts hts' (List.cons.inj htail).2
    exact ⟨by rw [hb, he], hend⟩

theorem Determined.unarySigned {sign : Sign} {operand : Tree (.rule .unary)}
    (hoperand : operand.Determined) : (Tree.unarySigned sign operand).Determined := by
  intro d' ts ts' _ _ h
  cases d' with
  | unarySigned sign' operand' =>
    obtain ⟨hsign, h⟩ := List.cons.inj h
    obtain ⟨ho, hend⟩ := hoperand operand' ts ts' (Part.ends_unary _) (Part.ends_unary _) h
    exact ⟨by rw [Operator.token_inj hsign, ho], hend⟩
  | unaryBare operand' => exact (sign_ne_primary operand' h).elim

theorem Determined.unaryBare {operand : Tree (.rule .primary)} (hoperand : operand.Determined) :
    (Tree.unaryBare operand).Determined := by
  intro d' ts ts' _ _ h
  cases d' with
  | unarySigned sign' operand' => exact (sign_ne_primary operand h.symm).elim
  | unaryBare operand' =>
    obtain ⟨ho, hend⟩ := hoperand operand' ts ts' (Part.ends_primary _) (Part.ends_primary _) h
    exact ⟨by rw [ho], hend⟩

theorem Determined.number {literal : Text} : (Tree.number literal).Determined := by
  intro d' ts ts' _ _ h
  cases d' with
  | number literal' =>
    obtain ⟨hliteral, hend⟩ := List.cons.inj h
    exact ⟨by rw [Token.number.inj hliteral], hend⟩
  | group inside' => cases (List.cons.inj h).1

theorem Determined.group {inside : Tree (.rule .expression)} (hinside : inside.Determined) :
    (Tree.group inside).Determined := by
  intro d' ts ts' _ _ h
  cases d' with
  | number literal' => cases (List.cons.inj h).1
  | group inside' =>
    simp only [tokens_group, List.cons_append, List.append_assoc, List.cons.injEq, true_and,
      List.nil_append] at h
    obtain ⟨hi, htail⟩ := hinside inside' _ _ (Part.ends_rightParen _) (Part.ends_rightParen _) h
    exact ⟨by rw [hi], (List.cons.inj htail).2⟩

/-- **No ambiguity.** -/
theorem determined {part : Part} (d : Tree part) : d.Determined := by
  -- Each constructor reads its parts from left to right, and each part ends where the
  -- next one starts.
  induction d with
  | chain first rest ihfirst ihrest => exact ihfirst.chain ihrest
  | stop => exact .stop
  | more op operand rest ihoperand ihrest => exact ihoperand.more ihrest
  | signed sign operand ih => exact ih.signed
  | unsigned operand ih => exact ih.unsigned
  | power base exponent ihbase ihexponent => exact ihbase.power ihexponent
  | unarySigned sign operand ih => exact ih.unarySigned
  | unaryBare operand ih => exact ih.unaryBare
  | number literal => exact .number
  | group inside ih => exact ih.group

/-- A sequence of tokens has one derivation. -/
theorem eq_of_tokens_eq {part : Part} {d d' : Tree part} (h : d.tokens = d'.tokens) : d = d' := by
  have hend := Part.ends_none part
  exact (d.determined d' [] [] hend hend (by rw [h])).1

end Tree

end Sigil.Arithmetic
