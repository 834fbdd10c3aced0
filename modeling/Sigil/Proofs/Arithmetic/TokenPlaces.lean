import Sigil.Proofs.Arithmetic.Failures
import Sigil.Proofs.TextSpans

/-! # Tokens and their places

    A text is read as a row of tokens with blanks between them.  Each token stands in the text at
    its offset, and so does what cannot be read.

    * `Lexes`, `lexes`: reading a text, and that this is what the tokens are made by.
    * `Lexes.token_at`: where a token stands, and what follows it.
    * `Lexes.filter_isParenthesis`: the parentheses of a text.
    * `Lexes.refused_at`: where a text is refused. -/

namespace Sigil.Arithmetic

/-! ## Digits and dots -/

theorem toNat_of_isNumberChar {c : Char} (h : isNumberChar c = true) :
    46 ≤ c.toNat ∧ c.toNat ≤ 57 := by
  unfold isNumberChar at h
  rw [Bool.or_eq_true, beq_iff_eq] at h
  rcases h with hdigit | rfl
  · change (decide (48 ≤ c.val) && decide (c.val ≤ 57)) = true at hdigit
    simp only [Bool.and_eq_true, decide_eq_true_eq, UInt32.le_iff_toNat_le] at hdigit
    have hlow : 48 ≤ c.toNat := hdigit.1
    have hhigh : c.toNat ≤ 57 := hdigit.2
    omega
  · decide

theorem isNumberChar_of_isBlank {c : Char} (h : isBlank c = true) : isNumberChar c = false := by
  rw [Bool.eq_false_iff]
  intro hnumber
  have hrange := toNat_of_isNumberChar hnumber
  simp only [isBlank, Bool.or_eq_true, Bool.and_eq_true, decide_eq_true_eq] at h
  omega

theorem utf8Size_of_isNumberChar {c : Char} (h : isNumberChar c = true) : c.utf8Size = 1 := by
  have hrange := toNat_of_isNumberChar h
  rw [Char.utf8Size_eq_one_iff, UInt32.le_iff_toNat_le]
  show c.toNat ≤ 127
  omega

/-! ## Reading a text -/

/-- How a token is written. -/
def Token.text : Token → Text
  | .number literal => literal
  | .plus => ['+']
  | .minus => ['-']
  | .star => ['*']
  | .doubleStar => ['*', '*']
  | .slash => ['/']
  | .percent => ['%']
  | .leftParen => ['(']
  | .rightParen => [')']

/-- Digits and dots, as many as there are before `rest`. -/
structure IsRun (run rest : Text) : Prop where
  ne_nil : run ≠ []
  chars : ∀ c ∈ run, isNumberChar c = true
  ends : ∀ c ∈ rest.head?, isNumberChar c = false

/-- What cannot be the start of a token, and how it is refused. -/
inductive Refused (k : Nat) : Text → ArithmeticError → Prop where
  | increment {c : Char} {rest : Text} : c = '+' ∨ c = '-' →
      Refused k (c :: c :: rest) (.incrementOperator k)
  | number {run rest : Text} : IsRun run rest → run = ['.'] ∨ 2 ≤ run.count '.' →
      Refused k (run ++ rest) (.invalidNumber k)
  | character {c : Char} {rest : Text} : Refused k (c :: rest) (.invalidCharacter k c)

/-- **Reading.**  A text is a row of tokens with blanks between them, up to its end or to a place
    where no token can start. -/
inductive Lexes : Nat → Text → Except ArithmeticError (List Placed) → Prop where
  | nil {k : Nat} : Lexes k [] (.ok [])
  | blank {k : Nat} {c : Char} {rest : Text} {result : Except ArithmeticError (List Placed)} :
      isBlank c = true → Lexes (k + c.utf8Size) rest result → Lexes k (c :: rest) result
  | token {k : Nat} (token : Token) {rest : Text}
      {result : Except ArithmeticError (List Placed)} :
      (∀ literal, token = .number literal → IsRun literal rest) →
      Lexes (k + token.text.size) rest result →
      Lexes k (token.text ++ rest) (do return ⟨k, token⟩ :: (← result))
  | refused {k : Nat} {t : Text} {e : ArithmeticError} : Refused k t e → Lexes k t (.error e)

theorem isRun_takeWhile {c : Char} (hc : isNumberChar c = true) (rest : Text) :
    IsRun (c :: rest.takeWhile isNumberChar) (rest.dropWhile isNumberChar) where
  ne_nil := nofun
  chars := by
    intro d hd
    rcases List.mem_cons.mp hd with rfl | hd
    · exact hc
    · exact List.all_eq_true.mp List.all_takeWhile d hd
  ends := by
    intro d hd
    have hstop := List.head?_dropWhile_not isNumberChar rest
    rw [Option.mem_def] at hd
    rw [hd] at hstop
    simpa using hstop

theorem IsRun.size_eq_length {run rest : Text} (h : IsRun run rest) : run.size = run.length :=
  (Text.size_eq_length_iff run).mpr fun c hc => utf8Size_of_isNumberChar (h.chars c hc)

/-- A run that is no number is a dot, or has two of them. -/
theorem IsRun.of_not_isNumber {run rest : Text} (h : IsRun run rest) (hnot : isNumber run = false) :
    run = ['.'] ∨ 2 ≤ run.count '.' := by
  by_cases hcount : 2 ≤ run.count '.'
  · exact .inr hcount
  · left
    have hany : run.any Char.isDigit = false := by
      simpa [isNumber, show run.count '.' ≤ 1 by omega] using hnot
    have hdots : ∀ c ∈ run, c = '.' := by
      intro c hc
      have hchar := h.chars c hc
      rw [List.any_eq_false] at hany
      simpa [isNumberChar, hany c hc] using hchar
    have hlength : run.length ≤ 1 := by
      have hall : run.count '.' = run.length :=
        List.count_eq_length.mpr fun c hc => (hdots c hc).symm
      omega
    obtain ⟨c, hrun⟩ := List.length_eq_one_iff.mp
      (Nat.le_antisymm hlength (List.length_pos_iff.mpr h.ne_nil))
    rw [hrun, hdots c (by simp [hrun])]

theorem Token.ofChar?_eq_some {c : Char} {token : Token} (h : Token.ofChar? c = some token) :
    c = '/' ∧ token = .slash ∨ c = '%' ∧ token = .percent ∨ c = '(' ∧ token = .leftParen
      ∨ c = ')' ∧ token = .rightParen := by
  unfold Token.ofChar? at h
  grind

/-- **Cutting a text into tokens** is reading it. -/
theorem lexes (k : Nat) (t : Text) : Lexes k t (tokenizeFrom k t) := by
  fun_induction tokenizeFrom k t with
  | case1 => exact .nil
  | case2 k c rest hblank ih => exact .blank hblank ih
  | case3 k c rest _ hsign hnext =>
    obtain ⟨rest, rfl⟩ := List.head?_eq_some_iff.mp hnext
    exact .refused (.increment (by simpa using hsign))
  | case4 k c rest _ hsign _ ih =>
    have hsign : c = '+' ∨ c = '-' := by simpa using hsign
    rcases hsign with rfl | rfl
    · exact .token .plus (by simp) ih
    · exact .token .minus (by simp) ih
  | case5 k rest _ _ ih => exact .token .doubleStar (by simp) ih
  | case6 k rest _ _ _ ih => exact .token .star (by simp) ih
  | case7 k c rest _ _ _ hc literal _ ih =>
    have hrun : IsRun literal (rest.dropWhile isNumberChar) := isRun_takeWhile hc rest
    have hcut : literal ++ rest.dropWhile isNumberChar = c :: rest :=
      congrArg (c :: ·) List.takeWhile_append_dropWhile
    -- Digits and dots take one byte each, so that they can be counted instead.
    rw [← hrun.size_eq_length] at ih ⊢
    rw [← hcut]
    refine .token (.number literal) ?_ ih
    intro literal' heq
    cases heq
    exact hrun
  | case8 k c rest _ _ _ hc literal hnot =>
    have hrun : IsRun literal (rest.dropWhile isNumberChar) := isRun_takeWhile hc rest
    have hcut : literal ++ rest.dropWhile isNumberChar = c :: rest :=
      congrArg (c :: ·) List.takeWhile_append_dropWhile
    rw [← hcut]
    exact .refused (.number hrun (hrun.of_not_isNumber (by simpa using hnot)))
  | case9 k c rest _ _ _ _ token htoken ih =>
    rcases Token.ofChar?_eq_some htoken with ⟨rfl, rfl⟩ | ⟨rfl, rfl⟩ | ⟨rfl, rfl⟩ | ⟨rfl, rfl⟩
    · exact .token .slash (by simp) ih
    · exact .token .percent (by simp) ih
    · exact .token .leftParen (by simp) ih
    · exact .token .rightParen (by simp) ih
  | case10 k c rest => exact .refused .character

/-- Blanks make no token. -/
theorem tokenizeFrom_blanks {t : Text} (h : ∀ c ∈ t, isBlank c = true) (k : Nat) :
    tokenizeFrom k t = .ok [] := by
  induction t generalizing k with
  | nil =>
    unfold tokenizeFrom
    rfl
  | cons c t ih =>
    unfold tokenizeFrom
    dsimp only
    rw [if_pos (h c List.mem_cons_self)]
    exact ih (fun d hd => h d (List.mem_cons_of_mem c hd)) _

/-! ## Where tokens stand -/

/-- **Places of tokens.**  A token stands in the text at its offset, and behind it the rest of the
    text is read as the tokens that follow. -/
theorem Lexes.token_at {k : Nat} {t : Text} {result : Except ArithmeticError (List Placed)}
    (h : Lexes k t result) {before after : List Placed} {p : Placed}
    (hresult : result = .ok (before ++ p :: after)) :
    ∃ s u : Text, t = s ++ (p.token.text ++ u) ∧ p.offset = k + s.size
      ∧ Lexes (p.offset + p.token.text.size) u (.ok after) := by
  induction h generalizing before with
  | nil => simp at hresult
  | @blank k c rest result _ _ ih =>
    obtain ⟨s, u, hrest, hoffset, hbehind⟩ := ih hresult
    refine ⟨c :: s, u, by rw [hrest, List.cons_append], ?_, hbehind⟩
    rw [hoffset, Text.size_cons, Nat.add_assoc]
  | @token k token rest result _ hlexes ih =>
    obtain ⟨placed, hplaced, hcons⟩ := bind_eq_ok_iff.mp hresult
    cases before with
    | nil =>
      cases hcons
      rw [hplaced] at hlexes
      exact ⟨[], rest, rfl, rfl, hlexes⟩
    | cons first before =>
      cases hcons
      obtain ⟨s, u, hrest, hoffset, hbehind⟩ := ih hplaced
      refine ⟨token.text ++ s, u, by rw [hrest, List.append_assoc], ?_, hbehind⟩
      rw [hoffset, Text.size_append, Nat.add_assoc]
  | refused => cases hresult

/-- A token has characters. -/
theorem Lexes.text_ne_nil {k : Nat} {t : Text} {result : Except ArithmeticError (List Placed)}
    (h : Lexes k t result) {placed : List Placed} (hresult : result = .ok placed) :
    ∀ p ∈ placed, p.token.text ≠ [] := by
  induction h generalizing placed with
  | nil =>
    cases hresult
    nofun
  | blank _ _ ih => exact ih hresult
  | @token k token rest result hnumber _ ih =>
    obtain ⟨placed, hplaced, hcons⟩ := bind_eq_ok_iff.mp hresult
    cases hcons
    intro p hp
    rcases List.mem_cons.mp hp with rfl | hp
    · cases token with
      | number literal => exact (hnumber literal rfl).ne_nil
      | _ => nofun
    · exact ih hplaced p hp
  | refused => cases hresult

/-- Is the character a parenthesis? -/
def isParenthesis (c : Char) : Bool :=
  c == '(' || c == ')'

theorem isParenthesis_eq_false {c : Char} (h : isBlank c = true ∨ isNumberChar c = true) :
    isParenthesis c = false := by
  unfold isParenthesis
  rw [Bool.or_eq_false_iff, beq_eq_false_iff_ne, beq_eq_false_iff_ne]
  constructor
  · rintro rfl
    revert h
    decide
  · rintro rfl
    revert h
    decide

/-- The parenthesis that a token is. -/
def Token.parenthesis? : Token → Option Char
  | .leftParen => some '('
  | .rightParen => some ')'
  | _ => none

/-- The parentheses of a text are those of its tokens. -/
theorem Lexes.filter_isParenthesis {k : Nat} {t : Text}
    {result : Except ArithmeticError (List Placed)} (h : Lexes k t result)
    {placed : List Placed} (hresult : result = .ok placed) :
    t.filter isParenthesis = (placed.map Placed.token).filterMap Token.parenthesis? := by
  induction h generalizing placed with
  | nil =>
    cases hresult
    rfl
  | @blank k c rest result hblank _ ih =>
    have hc := isParenthesis_eq_false (.inl hblank)
    rw [List.filter_cons_of_neg (by simp [hc]), ih hresult]
  | @token k token rest result hnumber _ ih =>
    obtain ⟨placed, hplaced, hcons⟩ := bind_eq_ok_iff.mp hresult
    cases hcons
    have htoken : token.text.filter isParenthesis = token.parenthesis?.toList := by
      cases token with
      | number literal =>
        apply List.filter_eq_nil_iff.mpr
        intro c hc
        simp [isParenthesis_eq_false (.inr ((hnumber literal rfl).chars c hc))]
      | _ => rfl
    rw [List.filter_append, htoken, ih hplaced, List.map_cons, List.filterMap_cons]
    cases token.parenthesis? <;> rfl
  | refused => cases hresult

/-! ## Where a text is refused -/

/-- Between `s` and `t` there is no digit or dot on both sides. -/
def Parted (s t : Text) : Prop :=
  ∀ c ∈ s.getLast?, ∀ d ∈ t.head?, isNumberChar c = true → isNumberChar d = false

theorem Parted.append {s t u : Text} (hs : Parted s (t ++ u)) (ht : Parted t u) :
    Parted (s ++ t) u := by
  by_cases hne : t = []
  · rw [hne, List.append_nil]
    rwa [hne] at hs
  · intro c hc
    rw [List.getLast?_append_of_ne_nil s hne] at hc
    exact ht c hc

theorem parted_blank {c : Char} (hblank : isBlank c = true) (t : Text) : Parted [c] t := by
  intro d hd _ _ hnumber
  cases hd
  exact absurd hnumber (Bool.eq_false_iff.mp (isNumberChar_of_isBlank hblank))

/-- A number is read as far as it goes, and no other token ends in a digit or a dot. -/
theorem parted_text {token : Token} {rest : Text}
    (h : ∀ literal, token = .number literal → IsRun literal rest) : Parted token.text rest := by
  intro c hc d hd hnumber
  cases token with
  | number literal => exact (h literal rfl).ends d hd
  | _ =>
    cases hc
    exact absurd hnumber (by decide)

/-- **Places of errors.**  A text that is refused is refused at a place where no run of digits and
    dots is cut in two. -/
theorem Lexes.refused_at {k : Nat} {t : Text} {result : Except ArithmeticError (List Placed)}
    (h : Lexes k t result) {e : ArithmeticError} (hresult : result = .error e) :
    ∃ s u : Text, t = s ++ u ∧ Parted s u ∧ Refused (k + s.size) u e := by
  induction h with
  | nil => cases hresult
  | @blank k c rest result hblank _ ih =>
    obtain ⟨s, u, hrest, hparted, hrefused⟩ := ih hresult
    refine ⟨[c] ++ s, u, ?_, (parted_blank hblank _).append hparted, ?_⟩
    · rw [hrest, List.append_assoc, List.singleton_append]
    · rwa [Text.size_append, ← Nat.add_assoc]
  | @token k token rest result hnumber _ ih =>
    have hrest : result = .error e := by
      cases result with
      | error e' => exact hresult
      | ok placed => cases hresult
    obtain ⟨s, u, hcut, hparted, hrefused⟩ := ih hrest
    have htoken := parted_text hnumber
    rw [hcut] at htoken
    refine ⟨token.text ++ s, u, ?_, htoken.append hparted, ?_⟩
    · rw [hcut, List.append_assoc]
    · rwa [Text.size_append, ← Nat.add_assoc]
  | @refused k t e' hrefused =>
    cases hresult
    exact ⟨[], t, rfl, nofun, hrefused⟩

end Sigil.Arithmetic
