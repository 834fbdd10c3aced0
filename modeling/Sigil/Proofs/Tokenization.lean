import Sigil.Lexeme
import Sigil.Proofs.BracketMatching

/-! # Tokens and brackets in a text

    Reading from left to right, a token is taken whole and any other character alone.

    * `TokenAt`: the tokens that such a reader meets, with their offsets.
    * `IsCut`: where a text may be cut: before every character that can neither start nor
      continue a token, and before a sigil that does not follow another.
    * `IsCut.lexemes_append`: the two parts are read one after the other.
    * `exists_split_of_bracket`: no token swallows a bracket. -/

namespace Sigil

/-- **Tokenization.**  The token `name` is met at the offset `i` of the text. -/
inductive TokenAt : Text → Nat → Text → Prop where
  /-- The text starts with the token. -/
  | here {t name rest : Text} : splitToken? t = some (name, rest) → TokenAt t 0 name
  /-- The text starts with another token, which is taken whole. -/
  | afterToken {t first rest name : Text} {i : Nat} : splitToken? t = some (first, rest) →
      TokenAt rest i name → TokenAt t (first.size + i) name
  /-- No token starts here, and one character is passed. -/
  | afterChar {c : Char} {rest name : Text} {i : Nat} : splitToken? (c :: rest) = none →
      TokenAt rest i name → TokenAt (c :: rest) (c.utf8Size + i) name

/-! ## Unfolding the sequence of lexemes -/

@[simp] theorem lexemes_nil : lexemes [] = [] := by
  rw [lexemes]; simp [splitToken?]

theorem lexemes_of_some {t name rest : Text} (h : splitToken? t = some (name, rest)) :
    lexemes t = .token name :: lexemes rest := by
  rw [lexemes]
  split
  · next first after h' =>
    rw [h] at h'
    cases h'
    rfl
  · next h' =>
    rw [h] at h'
    cases h'

theorem lexemes_of_none {c : Char} {rest : Text} (h : splitToken? (c :: rest) = none) :
    lexemes (c :: rest) = .ofChar c :: lexemes rest := by
  rw [lexemes]
  split
  · next first after h' =>
    rw [h] at h'
    cases h'
  · rfl

theorem Lexeme.ofChar_ne_token (c : Char) (name : Text) : Lexeme.ofChar c ≠ .token name := by
  simp only [Lexeme.ofChar]
  split
  · simp
  · split <;> simp

/-- The characters of a sequence of lexemes. -/
def textOf (ls : List Lexeme) : Text :=
  ls.flatMap Lexeme.text

@[simp] theorem textOf_nil : textOf [] = [] := rfl

@[simp] theorem textOf_cons (l : Lexeme) (ls : List Lexeme) :
    textOf (l :: ls) = l.text ++ textOf ls := rfl

@[simp] theorem textOf_append (ls ls' : List Lexeme) :
    textOf (ls ++ ls') = textOf ls ++ textOf ls' :=
  List.flatMap_append

/-- The lexemes of a text make it up. -/
theorem textOf_lexemes (t : Text) : textOf (lexemes t) = t :=
  flatMap_text_lexemes t

/-- The tokens met in a text are those among its lexemes. -/
theorem tokenAt_iff {t name : Text} {i : Nat} :
    TokenAt t i name ↔ ∃ before after, lexemes t = before ++ .token name :: after
      ∧ i = (textOf before).size := by
  constructor
  · intro h
    induction h with
    | @here t name rest hs => exact ⟨[], lexemes rest, lexemes_of_some hs, rfl⟩
    | @afterToken t first rest name i hs _ ih =>
      obtain ⟨before, after, heq, rfl⟩ := ih
      refine ⟨.token first :: before, after, ?_, ?_⟩
      · rw [lexemes_of_some hs, heq, List.cons_append]
      · simp [Lexeme.text]
    | @afterChar c rest name i hs _ ih =>
      obtain ⟨before, after, heq, rfl⟩ := ih
      refine ⟨.ofChar c :: before, after, ?_, ?_⟩
      · rw [lexemes_of_none hs, heq, List.cons_append]
      · simp
  · intro h
    obtain ⟨before, after, heq, rfl⟩ := h
    -- Each lexeme before the token is one step of the reader.
    induction before generalizing t with
    | nil =>
      rw [List.nil_append] at heq
      cases hs : splitToken? t with
      | some parts =>
        rw [lexemes_of_some hs, List.cons.injEq, Lexeme.token.injEq] at heq
        obtain ⟨rfl, _⟩ := heq
        exact .here hs
      | none =>
        cases t with
        | nil => simp at heq
        | cons c rest =>
          rw [lexemes_of_none hs, List.cons.injEq] at heq
          exact absurd heq.1 (Lexeme.ofChar_ne_token c name)
    | cons l before ih =>
      rw [List.cons_append] at heq
      cases hs : splitToken? t with
      | some parts =>
        rw [lexemes_of_some hs, List.cons.injEq] at heq
        obtain ⟨rfl, heq⟩ := heq
        simpa [Lexeme.text] using TokenAt.afterToken hs (ih heq)
      | none =>
        cases t with
        | nil => simp at heq
        | cons c rest =>
          rw [lexemes_of_none hs, List.cons.injEq] at heq
          obtain ⟨rfl, heq⟩ := heq
          simpa using TokenAt.afterChar hs (ih heq)

/-! ## Cutting a text -/

theorem not_isIdentifierChar_of_isSigil {c : Char} (h : isSigil c = true) :
    isIdentifierChar c = false := by
  simp only [isSigil, Bool.or_eq_true, beq_iff_eq] at h
  rcases h with rfl | rfl <;> decide

theorem not_isSigil_of_isIdentifierChar {c : Char} (h : isIdentifierChar c = true) :
    isSigil c = false := by
  cases hsigil : isSigil c with
  | false => rfl
  | true =>
    rw [not_isIdentifierChar_of_isSigil hsigil] at h
    cases h

/-- Is the character part of no token? -/
def isSeparator (c : Char) : Bool :=
  !isSigil c && !isIdentifierChar c

/-- **Cut.**  No identifier character follows the text `s` in `t`, and no two sigils meet: no
    token can reach from `s` into `t`. -/
structure IsCut (s t : Text) : Prop where
  ident : ∀ c ∈ t.head?, isIdentifierChar c = false
  sigil : ∀ d ∈ s.getLast?, isSigil d = true → ∀ c ∈ t.head?, isSigil c = false

theorem isCut_of_separator {t : Text} (ht : ∀ c ∈ t.head?, isSeparator c = true) (s : Text) :
    IsCut s t := by
  simp only [isSeparator, Bool.and_eq_true, Bool.not_eq_true'] at ht
  exact ⟨fun c hc => (ht c hc).2, fun _ _ _ c hc => (ht c hc).1⟩

/-- Only the end of the first part matters. -/
theorem IsCut.of_append {s u t : Text} (h : IsCut (s ++ u) t) : IsCut u t := by
  refine ⟨h.ident, ?_⟩
  intro d hd
  have hlast : (s ++ u).getLast? = some d := by
    rw [List.getLast?_append, Option.mem_def.mp hd]
    rfl
  exact h.sigil d hlast

theorem takeWhile_append_of_head {s t : Text} (ht : ∀ c ∈ t.head?, isIdentifierChar c = false) :
    (s ++ t).takeWhile isIdentifierChar = s.takeWhile isIdentifierChar
      ∧ (s ++ t).dropWhile isIdentifierChar = s.dropWhile isIdentifierChar ++ t := by
  induction s with
  | nil =>
    cases t with
    | nil => exact ⟨rfl, rfl⟩
    | cons c t => simp [ht c rfl]
  | cons c s ih =>
    rw [List.cons_append, List.takeWhile_cons, List.takeWhile_cons, List.dropWhile_cons,
      List.dropWhile_cons]
    split
    · exact ⟨by rw [ih.1], ih.2⟩
    · exact ⟨rfl, rfl⟩

/-- A token at the start of a text stays what it is if the text is cut from what follows. -/
theorem IsCut.splitToken?_append {s t : Text} (h : IsCut s t) (hs : s ≠ []) :
    splitToken? (s ++ t) = (splitToken? s).map fun (name, rest) => (name, rest ++ t) := by
  match s with
  | [] => exact absurd rfl hs
  | [c] =>
    cases t with
    | nil => rfl
    | cons d t =>
      have hident := h.ident d rfl
      by_cases hc : isSigil c = true
      · have hsigil := h.sigil c rfl hc d rfl
        simp [splitToken?, hsigil, hident]
      · simp [splitToken?, hc]
  | c :: d :: tail =>
    -- The identifier starts after one sigil or after two.
    have hcut := takeWhile_append_of_head (s := tail) h.ident
    have hcut' := takeWhile_append_of_head (s := d :: tail) h.ident
    rw [List.cons_append] at hcut'
    simp only [List.cons_append, splitToken?, splitIdentifier]
    rw [hcut.1, hcut.2, hcut'.1, hcut'.2]
    split
    · split
      · rfl
      · split <;> rfl
    · rfl

/-- A token at the start of a text stays what it is if a separator follows the
    text. -/
theorem splitToken?_append {s t : Text} (hs : s ≠ []) (ht : ∀ c ∈ t.head?, isSeparator c = true) :
    splitToken? (s ++ t) = (splitToken? s).map fun (name, rest) => (name, rest ++ t) :=
  (isCut_of_separator ht s).splitToken?_append hs

/-- **Cutting.**  A text may be read in two parts where it is cut. -/
theorem IsCut.lexemes_append {s t : Text} (h : IsCut s t) :
    lexemes (s ++ t) = lexemes s ++ lexemes t := by
  fun_induction lexemes s with
  | case1 s name rest hs ih =>
    have hne : s ≠ [] := by
      intro hnil
      rw [hnil] at hs
      cases hs
    have happ : splitToken? (s ++ t) = some (name, rest ++ t) := by
      rw [h.splitToken?_append hne, hs]; rfl
    rw [← append_of_splitToken? hs] at h
    rw [lexemes_of_some happ, ih h.of_append, List.cons_append]
  | case2 => rfl
  | case3 c rest hs ih =>
    have happ : splitToken? (c :: (rest ++ t)) = none := by
      rw [← List.cons_append, h.splitToken?_append (by simp), hs]; rfl
    have hrest : IsCut rest t := IsCut.of_append (s := [c]) h
    rw [List.cons_append, lexemes_of_none happ, ih hrest, List.cons_append]

/-- A text may be read in two parts if the second part starts with a separator. -/
theorem lexemes_append {s t : Text} (ht : ∀ c ∈ t.head?, isSeparator c = true) :
    lexemes (s ++ t) = lexemes s ++ lexemes t :=
  (isCut_of_separator ht s).lexemes_append

theorem isSeparator_of_isBracket {c : Char} (h : isBracket c = true) : isSeparator c = true := by
  simp only [isBracket, Bool.or_eq_true, beq_iff_eq] at h
  rcases h with rfl | rfl <;> decide

/-- A token starts with a sigil. -/
theorem splitToken?_of_not_isSigil {c : Char} (h : isSigil c = false) (t : Text) :
    splitToken? (c :: t) = none := by
  cases t with
  | nil => rfl
  | cons d t => simp [splitToken?, h]

/-- A separator is read alone. -/
theorem splitToken?_separator {c : Char} (h : isSeparator c = true) (t : Text) :
    splitToken? (c :: t) = none := by
  simp only [isSeparator, Bool.and_eq_true, Bool.not_eq_true'] at h
  exact splitToken?_of_not_isSigil h.1 t

/-- Reading a text with a separator in its middle. -/
theorem lexemes_append_separator {c : Char} (h : isSeparator c = true) (s t : Text) :
    lexemes (s ++ c :: t) = lexemes s ++ .ofChar c :: lexemes t := by
  rw [lexemes_append (by simpa using h), lexemes_of_none (splitToken?_separator h t)]

/-! ## Brackets are lexemes of their own -/

/-- What a lexeme of a text is like: it has characters, and of these none is a
    bracket unless the lexeme is one. -/
def Lexeme.IsProper : Lexeme → Prop
  | .token name => name ≠ [] ∧ ∀ c ∈ name, isBracket c = false
  | .opening => True
  | .closing => True
  | .plain c => isBracket c = false

theorem Lexeme.isProper_ofChar (c : Char) : (Lexeme.ofChar c).IsProper := by
  simp only [Lexeme.ofChar]
  split
  · trivial
  · split
    · trivial
    · next ho hc => simp [IsProper, isBracket, ho, hc]

theorem Lexeme.size_text_pos (l : Lexeme) (hl : l.IsProper) : 0 < l.text.size := by
  apply Text.size_pos_of_ne_nil
  cases l with
  | token name => exact hl.1
  | opening => simp [Lexeme.text]
  | closing => simp [Lexeme.text]
  | plain c => simp [Lexeme.text]

/-- The characters of a token are sigils and identifier characters. -/
theorem not_isSeparator_of_splitToken? {t name rest : Text}
    (h : splitToken? t = some (name, rest)) : ∀ c ∈ name, isSeparator c = false := by
  have hident : ∀ (u : Text) (c : Char), c ∈ u.takeWhile isIdentifierChar →
      isIdentifierChar c = true := by
    intro u c hc
    have hall : (u.takeWhile isIdentifierChar).all isIdentifierChar = true := List.all_takeWhile
    exact List.all_eq_true.mp hall c hc
  match t with
  | [] => simp [splitToken?] at h
  | [_] => simp [splitToken?] at h
  | c :: d :: tail =>
    simp only [splitToken?, splitIdentifier] at h
    intro e he
    split at h
    · next hc =>
      split at h
      · next hd =>
        cases h
        simp only [List.cons_append, List.nil_append, List.mem_cons] at he
        rcases he with rfl | rfl | he
        · simp [isSeparator, hc]
        · simp [isSeparator, hd]
        · simp [isSeparator, hident tail e he]
      · split at h
        · cases h
          simp only [List.cons_append, List.nil_append, List.mem_cons] at he
          rcases he with rfl | he
          · simp [isSeparator, hc]
          · simp [isSeparator, hident _ e he]
        · cases h
    · cases h

/-- No token has a bracket in it. -/
theorem isBracket_of_splitToken? {t name rest : Text} (h : splitToken? t = some (name, rest)) :
    ∀ c ∈ name, isBracket c = false := by
  intro c hc
  have hseparator := not_isSeparator_of_splitToken? h c hc
  cases hbracket : isBracket c with
  | false => rfl
  | true =>
    rw [isSeparator_of_isBracket hbracket] at hseparator
    cases hseparator

/-- A token is read as itself. -/
theorem splitToken?_of_token? {name : Text} (h : token? name = some name) :
    splitToken? name = some (name, []) := by
  obtain ⟨⟨first, rest⟩, hsplit, hfirst⟩ := Option.map_eq_some_iff.mp h
  simp only at hfirst
  subst hfirst
  have happend := append_of_splitToken? hsplit
  rw [List.append_right_eq_self] at happend
  rw [hsplit, happend]

/-- A bracket ends the token before it. -/
theorem splitToken?_append_opening {name : Text} (h : token? name = some name) (t : Text) :
    splitToken? (name ++ '[' :: t) = some (name, '[' :: t) := by
  have hsplit := splitToken?_of_token? h
  have hne : name ≠ [] := by
    intro hnil
    rw [hnil] at hsplit
    cases hsplit
  rw [splitToken?_append hne (by simpa using isSeparator_of_isBracket (c := '[') rfl), hsplit]
  rfl

theorem isBracket_of_token? {name : Text} (h : token? name = some name) :
    ∀ c ∈ name, isBracket c = false :=
  isBracket_of_splitToken? (splitToken?_of_token? h)

theorem isProper_of_mem_lexemes (t : Text) : ∀ l ∈ lexemes t, l.IsProper := by
  fun_induction lexemes t with
  | case1 t name rest hs ih =>
    intro l hl
    rcases List.mem_cons.mp hl with rfl | hl
    · constructor
      · intro hnil
        have hlength := two_le_length_of_splitToken? hs
        rw [hnil] at hlength
        cases hlength
      · exact isBracket_of_splitToken? hs
    · exact ih l hl
  | case2 => simp
  | case3 c rest hs ih =>
    intro l hl
    rcases List.mem_cons.mp hl with rfl | hl
    · exact Lexeme.isProper_ofChar c
    · exact ih l hl

/-- A lexeme with a bracket in it is that bracket. -/
theorem Lexeme.eq_ofChar {l : Lexeme} (hl : l.IsProper) {c : Char} (hc : isBracket c = true)
    {s u : Text} (h : l.text = s ++ c :: u) : l = .ofChar c ∧ s = [] ∧ u = [] := by
  have hsingle : ∀ b : Char, [b] = s ++ c :: u → c = b ∧ s = [] ∧ u = [] := by
    intro b hb
    cases s with
    | nil => simp_all
    | cons d s => simp at hb
  cases l with
  | token name =>
    have hmem : c ∈ name := by
      rw [show name = s ++ c :: u from h]; simp
    rw [hl.2 c hmem] at hc
    cases hc
  | opening =>
    obtain ⟨rfl, hs, hu⟩ := hsingle '[' h
    exact ⟨rfl, hs, hu⟩
  | closing =>
    obtain ⟨rfl, hs, hu⟩ := hsingle ']' h
    exact ⟨rfl, hs, hu⟩
  | plain b =>
    obtain ⟨rfl, _, _⟩ := hsingle b h
    rw [show isBracket c = false from hl] at hc
    cases hc

/-- **No token swallows a bracket**: a bracket of a text is one of its lexemes. -/
theorem exists_split_of_bracket {c : Char} (hc : isBracket c = true) {ls : List Lexeme}
    (hls : ∀ l ∈ ls, l.IsProper) {s u : Text} (h : textOf ls = s ++ c :: u) :
    ∃ before after, ls = before ++ .ofChar c :: after ∧ textOf before = s
      ∧ textOf after = u := by
  induction ls generalizing s with
  | nil => simp at h
  | cons l ls ih =>
    rw [textOf_cons] at h
    -- The bracket stands after the lexeme `l`, or in it.
    have hafter : ∀ s', s = l.text ++ s' → textOf ls = s' ++ c :: u →
        ∃ before after, l :: ls = before ++ .ofChar c :: after ∧ textOf before = s
          ∧ textOf after = u := by
      intro s' hs hrest
      obtain ⟨before, after, rfl, rfl, rfl⟩ := ih (fun x hx => hls x (by simp [hx])) hrest
      exact ⟨l :: before, after, rfl, by rw [hs, textOf_cons], rfl⟩
    rcases List.append_eq_append_iff.mp h with ⟨s', hs, hrest⟩ | ⟨w, hl, hrest⟩
    · exact hafter s' hs hrest
    · cases w with
      | nil => exact hafter [] (by simpa using hl.symm) (by simpa using hrest.symm)
      | cons b w =>
        rw [List.cons_append, List.cons.injEq] at hrest
        obtain ⟨rfl, hu⟩ := hrest
        obtain ⟨rfl, rfl, rfl⟩ := Lexeme.eq_ofChar (hls l (by simp)) hc hl
        exact ⟨[], ls, rfl, rfl, hu.symm⟩

/-! ## Pairs among the lexemes -/

/-- An offset cuts a sequence of lexemes in one way only. -/
theorem append_inj_of_size_textOf {a b c d : List Lexeme} (h : a ++ b = c ++ d)
    (hp : ∀ l ∈ a ++ b, l.IsProper) (hsize : (textOf a).size = (textOf c).size) :
    a = c ∧ b = d := by
  -- A part between two cuts would have characters.
  have hnil : ∀ ls : List Lexeme, (∀ l ∈ ls, l ∈ a ++ b) → (textOf ls).size = 0 → ls = [] := by
    intro ls hls h0
    cases ls with
    | nil => rfl
    | cons l ls =>
      have hpos := l.size_text_pos (hp l (hls l (by simp)))
      rw [textOf_cons, Text.size_append] at h0
      omega
  rcases List.append_eq_append_iff.mp h with ⟨m, rfl, rfl⟩ | ⟨m, rfl, rfl⟩
  · have hm := hnil m (by simp +contextual) (by
      rw [textOf_append, Text.size_append] at hsize; omega)
    simp [hm]
  · have hm := hnil m (by simp +contextual) (by
      rw [textOf_append, Text.size_append] at hsize; omega)
    simp [hm]

/-- The text around a lexeme is that of the lexemes around it. -/
theorem eq_textOf_append {t : Text} {before after : List Lexeme} {l : Lexeme}
    (h : lexemes t = before ++ l :: after) : t = textOf before ++ (l.text ++ textOf after) := by
  rw [← textOf_lexemes t, h, textOf_append, textOf_cons]

/-- The lexemes around a bracket are those of the text around it. -/
theorem lexemes_eq_append_bracket {c : Char} (hc : isBracket c = true) {t s u : Text}
    (ht : t = s ++ c :: u) : ∃ before after, lexemes t = before ++ .ofChar c :: after
      ∧ textOf before = s ∧ textOf after = u := by
  rw [← textOf_lexemes t] at ht
  exact exists_split_of_bracket hc (isProper_of_mem_lexemes t) ht

/-- A pair of brackets is a pair of lexemes. -/
theorem partners_iff {t : Text} {i j : Nat} :
    Partners t i j ↔ ∃ before inside after,
      lexemes t = before ++ .opening :: (inside ++ .closing :: after)
        ∧ Balanced (textOf inside) ∧ i = (textOf before).size
        ∧ j = (textOf before).size + 1 + (textOf inside).size := by
  constructor
  · intro h
    obtain ⟨s, w, u, ht, hw, rfl, rfl⟩ := h
    obtain ⟨before, rest, hls, rfl, hrest⟩ := lexemes_eq_append_bracket rfl ht
    -- The second bracket is sought among the lexemes after the first.
    have hp : ∀ l ∈ rest, l.IsProper := fun l hl =>
      isProper_of_mem_lexemes t l (by rw [hls]; simp [hl])
    obtain ⟨inside, after, rfl, rfl, -⟩ := exists_split_of_bracket rfl hp hrest
    exact ⟨before, inside, after, hls, hw, rfl, rfl⟩
  · intro h
    obtain ⟨before, inside, after, hls, hin, hi, hj⟩ := h
    have ht := eq_textOf_append hls
    rw [textOf_append] at ht
    exact ⟨textOf before, textOf inside, textOf after, ht, hin, hi, hj⟩

theorem unpairedOpening_iff_lexemes {t : Text} {i : Nat} :
    UnpairedOpening t i ↔ ∃ before inside, lexemes t = before ++ .opening :: inside
      ∧ i = (textOf before).size ∧ ∃ k, depthFrom? 0 (textOf inside) = some k := by
  rw [unpairedOpening_iff]
  constructor
  · intro h
    obtain ⟨s, w, ht, rfl, hk⟩ := h
    obtain ⟨before, inside, hls, rfl, rfl⟩ := lexemes_eq_append_bracket rfl ht
    exact ⟨before, inside, hls, rfl, hk⟩
  · intro h
    obtain ⟨before, inside, hls, hi, hk⟩ := h
    exact ⟨textOf before, textOf inside, eq_textOf_append hls, hi, hk⟩

theorem unpairedClosing_iff_lexemes {t : Text} {j : Nat} :
    UnpairedClosing t j ↔ ∃ before after, lexemes t = before ++ .closing :: after
      ∧ j = (textOf before).size
      ∧ ∀ s u, before = s ++ .opening :: u → ¬ Balanced (textOf u) := by
  rw [unpairedClosing_iff]
  constructor
  · intro h
    obtain ⟨s, u, ht, rfl, hnone⟩ := h
    obtain ⟨before, after, hls, rfl, rfl⟩ := lexemes_eq_append_bracket rfl ht
    refine ⟨before, after, hls, rfl, ?_⟩
    intro b i hbefore
    apply hnone (textOf b) (textOf i)
    rw [hbefore, textOf_append, textOf_cons]
    rfl
  · intro h
    obtain ⟨before, after, hls, hj, hnone⟩ := h
    refine ⟨textOf before, textOf after, eq_textOf_append hls, hj, ?_⟩
    intro s u hbefore
    have hp : ∀ l ∈ before, l.IsProper := fun l hl =>
      isProper_of_mem_lexemes t l (by rw [hls]; simp [hl])
    obtain ⟨b, i, rfl, rfl, rfl⟩ := exists_split_of_bracket rfl hp hbefore
    exact hnone b i rfl

end Sigil
