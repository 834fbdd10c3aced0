import Mathlib.Data.List.Chain
import Sigil.Proofs.Arithmetic.ErrorPlaces

/-! # Rows of tokens

    A text that is cut into tokens is a row of them with blanks between them, and every text that
    is such a row is cut.  All there is to know about the tokens of a text follows by induction
    on the row.

    * `Row`, `tokenizeFrom_eq_ok_iff`: rows, and that these are the texts that can be cut.
    * `Row.append_blank`, `Row.cut`: rows behind each other, and a row in two parts.
    * `Row.ordered`, `Row.filter_isBlank`: how a row covers its text.
    * `Row.signs`: what does not stand side by side in a row.
    * `Row.token_at`, `Row.cut_between`: where a token stands, and where none is torn. -/

namespace Sigil.Arithmetic

/-! ## Rows -/

/-- What may follow a token: nothing that belongs to it, and no second sign after a sign. -/
def Token.Ends (token : Token) (rest : Text) : Prop :=
  match token with
  | .number literal => IsRun literal rest ∧ isNumber literal = true
  | .plus => rest.head? ≠ some '+'
  | .minus => rest.head? ≠ some '-'
  | .star => rest.head? ≠ some '*'
  | _ => True

/-- **Rows.**  The text, which starts at the offset `k`, is a row of tokens with blanks between
    them. -/
inductive Row : Nat → Text → List Placed → Prop where
  | nil {k : Nat} : Row k [] []
  | blank {k : Nat} {c : Char} {rest : Text} {placed : List Placed} :
      isBlank c = true → Row (k + c.utf8Size) rest placed → Row k (c :: rest) placed
  | token {k : Nat} (token : Token) {rest : Text} {placed : List Placed} :
      token.Ends rest → Row (k + token.text.size) rest placed →
      Row k (token.text ++ rest) (⟨k, token⟩ :: placed)

/-! ### The tokens of a row -/

theorem isBlank_of_isNumberChar {c : Char} (h : isNumberChar c = true) : isBlank c = false := by
  rw [Bool.eq_false_iff]
  intro hblank
  rw [isNumberChar_of_isBlank hblank] at h
  cases h

theorem takeWhile_append_of_run {run rest : Text} (hchars : ∀ c ∈ run, isNumberChar c = true)
    (hends : ∀ c ∈ rest.head?, isNumberChar c = false) :
    (run ++ rest).takeWhile isNumberChar = run ∧ (run ++ rest).dropWhile isNumberChar = rest := by
  rw [List.takeWhile_append_of_pos hchars, List.dropWhile_append_of_pos hchars]
  cases rest with
  | nil => simp
  | cons c rest => simp [hends c rfl]

/-- Digits and dots are read as far as they go. -/
theorem tokenizeFrom_run {run rest : Text} (hrun : IsRun run rest) (k : Nat) :
    tokenizeFrom k (run ++ rest) = if isNumber run = true then
        (do return ⟨k, .number run⟩ :: (← tokenizeFrom (k + run.size) rest))
      else .error (.invalidNumber k) := by
  obtain ⟨c, run, rfl⟩ := List.exists_cons_of_ne_nil hrun.ne_nil
  have hc : isNumberChar c = true := hrun.chars c List.mem_cons_self
  have hblank : isBlank c ≠ true := Bool.eq_false_iff.mp (isBlank_of_isNumberChar hc)
  have hsymbol : ∀ d, isNumberChar d = false → c ≠ d := by
    rintro d hd rfl
    rw [hc] at hd
    cases hd
  obtain ⟨htake, hdrop⟩ := takeWhile_append_of_run
    (fun d hd => hrun.chars d (List.mem_cons_of_mem c hd)) hrun.ends
  rw [hrun.size_eq_length, List.cons_append, tokenizeFrom.eq_def]
  dsimp only
  rw [if_neg hblank, if_neg (by simp [hsymbol '+' (by decide), hsymbol '-' (by decide)]),
    if_neg (hsymbol '*' (by decide)), if_pos hc, htake, hdrop]

/-- Every token is read where what follows lets it end. -/
theorem tokenizeFrom_token {token : Token} {rest : Text} (h : token.Ends rest) (k : Nat) :
    tokenizeFrom k (token.text ++ rest)
      = (do return ⟨k, token⟩ :: (← tokenizeFrom (k + token.text.size) rest)) := by
  cases token with
  | number literal => exact (tokenizeFrom_run h.1 k).trans (if_pos h.2)
  | plus | minus =>
    rw [Token.text, List.singleton_append, tokenizeFrom.eq_def]
    dsimp only
    rw [if_neg (by decide), if_pos (by decide), if_neg h]
    rfl
  | star =>
    rw [Token.text, List.singleton_append, tokenizeFrom.eq_def]
    dsimp only
    rw [if_neg (by decide), if_neg (by decide), if_pos rfl]
    split
    · exact absurd rfl h
    · rfl
  | doubleStar =>
    rw [Token.text, List.cons_append, tokenizeFrom.eq_def]
    dsimp only
    rw [if_neg (by decide), if_neg (by decide), if_pos rfl]
    rfl
  | slash | percent | leftParen | rightParen =>
    rw [Token.text, List.singleton_append, tokenizeFrom.eq_def]
    dsimp only
    rw [if_neg (by decide), if_neg (by decide), if_neg (by decide), if_neg (by decide)]
    rfl

theorem row_of_tokenizeFrom (k : Nat) (t : Text) :
    ∀ placed, tokenizeFrom k t = .ok placed → Row k t placed := by
  -- A token is put before those of the rest.
  have hcons : ∀ (token : Token) {k : Nat} {rest : Text}, token.Ends rest →
      (∀ placed, tokenizeFrom (k + token.text.size) rest = .ok placed →
        Row (k + token.text.size) rest placed) →
      ∀ placed, (do return (⟨k, token⟩ : Placed) :: (← tokenizeFrom (k + token.text.size) rest))
        = .ok placed → Row k (token.text ++ rest) placed := by
    intro token k rest hends ih placed h
    obtain ⟨tokens, htokens, hplaced⟩ := bind_eq_ok_iff.mp h
    cases hplaced
    exact .token token hends (ih tokens htokens)
  fun_induction tokenizeFrom k t with
  | case1 =>
    intro placed h
    cases h
    exact .nil
  | case2 k c rest hblank ih => exact fun placed h => .blank hblank (ih placed h)
  | case3 => simp
  | case4 k c rest _ hsign hnext ih =>
    have hsign : c = '+' ∨ c = '-' := by simpa using hsign
    rcases hsign with rfl | rfl
    · exact hcons .plus hnext ih
    · exact hcons .minus hnext ih
  | case5 k rest _ _ ih => exact hcons .doubleStar trivial ih
  | case6 k rest hnext _ _ ih =>
    refine hcons .star ?_ ih
    intro hstar
    obtain ⟨rest, rfl⟩ := List.head?_eq_some_iff.mp hstar
    exact hnext rest rfl
  | case7 k c rest _ _ _ hc literal hnumber ih =>
    have hrun : IsRun literal (rest.dropWhile isNumberChar) := isRun_takeWhile hc rest
    have hcut : literal ++ rest.dropWhile isNumberChar = c :: rest :=
      congrArg (c :: ·) List.takeWhile_append_dropWhile
    -- The literal is counted in characters, which take one byte each.
    rw [← hrun.size_eq_length] at ih ⊢
    rw [← hcut]
    exact hcons (.number literal) ⟨hrun, hnumber⟩ ih
  | case8 => simp
  | case9 k c rest _ _ _ _ token htoken ih =>
    rcases Token.ofChar?_eq_some htoken with ⟨rfl, rfl⟩ | ⟨rfl, rfl⟩ | ⟨rfl, rfl⟩ | ⟨rfl, rfl⟩
    · exact hcons .slash trivial ih
    · exact hcons .percent trivial ih
    · exact hcons .leftParen trivial ih
    · exact hcons .rightParen trivial ih
  | case10 => simp

/-- **Cutting and rows.**  A text is cut into tokens exactly if it is a row of them. -/
theorem tokenizeFrom_eq_ok_iff {k : Nat} {t : Text} {placed : List Placed} :
    tokenizeFrom k t = .ok placed ↔ Row k t placed := by
  refine ⟨row_of_tokenizeFrom k t placed, ?_⟩
  intro h
  induction h with
  | nil =>
    unfold tokenizeFrom
    rfl
  | blank hblank _ ih =>
    rw [tokenizeFrom.eq_def]
    dsimp only
    rw [if_pos hblank, ih]
  | token token hends _ ih =>
    rw [tokenizeFrom_token hends, ih]
    rfl

theorem Row.unique {k : Nat} {t : Text} {placed placed' : List Placed} (h : Row k t placed)
    (h' : Row k t placed') : placed = placed' :=
  Except.ok.inj ((tokenizeFrom_eq_ok_iff.mpr h).symm.trans (tokenizeFrom_eq_ok_iff.mpr h'))

/-! ### Rows behind each other -/

/-- Only the next character matters to a token, and a blank may follow every one. -/
theorem Token.Ends.of_head {token : Token} {rest rest' : Text} (h : token.Ends rest)
    (hhead : ∀ c ∈ rest'.head?, c ∈ rest.head? ∨ isBlank c = true) : token.Ends rest' := by
  have hsymbol : ∀ c, isBlank c = false → rest.head? ≠ some c → rest'.head? ≠ some c := by
    intro c hc hne heq
    rcases hhead c heq with hmem | hblank
    · exact hne hmem
    · rw [hc] at hblank
      cases hblank
  cases token with
  | number literal =>
    refine ⟨⟨h.1.ne_nil, h.1.chars, ?_⟩, h.2⟩
    intro c hc
    rcases hhead c hc with hmem | hblank
    · exact h.1.ends c hmem
    · exact isNumberChar_of_isBlank hblank
  | plus => exact hsymbol '+' (by decide) h
  | minus => exact hsymbol '-' (by decide) h
  | star => exact hsymbol '*' (by decide) h
  | _ => trivial

/-- Blanks may stand before a row. -/
theorem Row.blanks_append {w : Text} (hw : ∀ c ∈ w, isBlank c = true) {k : Nat} {u : Text}
    {placed : List Placed} (h : Row (k + w.size) u placed) : Row k (w ++ u) placed := by
  induction w generalizing k with
  | nil => exact h
  | cons c w ih =>
    rw [Text.size_cons, ← Nat.add_assoc] at h
    exact .blank (hw c List.mem_cons_self) (ih (fun d hd => hw d (List.mem_cons_of_mem c hd)) h)

/-- A row that starts with a blank may stand behind any other. -/
theorem Row.append_blank {k : Nat} {s u : Text} {before after : List Placed}
    (hs : Row k s before) (hu : Row (k + s.size) u after)
    (hhead : ∀ c ∈ u.head?, isBlank c = true) : Row k (s ++ u) (before ++ after) := by
  induction hs with
  | nil => exact hu
  | @blank k c rest placed hblank _ ih =>
    rw [Text.size_cons, ← Nat.add_assoc] at hu
    exact .blank hblank (ih hu)
  | @token k token rest placed hends _ ih =>
    rw [Text.size_append, ← Nat.add_assoc] at hu
    rw [List.append_assoc]
    refine .token token (hends.of_head ?_) (ih hu)
    intro c hc
    cases rest with
    | nil => exact .inr (hhead c hc)
    | cons d rest => exact .inl hc

/-- The tokens of a row do not depend on where it starts. -/
theorem Row.moved {k : Nat} {t : Text} {placed : List Placed} (h : Row k t placed) (k' : Nat) :
    ∃ placed', Row k' t placed' ∧ placed'.map Placed.token = placed.map Placed.token := by
  induction h generalizing k' with
  | nil => exact ⟨[], .nil, rfl⟩
  | @blank k c rest placed hblank _ ih =>
    obtain ⟨placed', hrow, htokens⟩ := ih (k' + c.utf8Size)
    exact ⟨placed', .blank hblank hrow, htokens⟩
  | @token k token rest placed hends _ ih =>
    obtain ⟨placed', hrow, htokens⟩ := ih (k' + token.text.size)
    exact ⟨⟨k', token⟩ :: placed', .token token hends hrow, congrArg (token :: ·) htokens⟩

/-! ### A row in two parts -/

/-- The offset behind a token. -/
def Placed.stop (p : Placed) : Nat :=
  p.offset + p.token.text.size

/-- The place `i` is inside a number, or between the two stars of a pair. -/
def Placed.Encloses (p : Placed) (i : Nat) : Prop :=
  match p.token with
  | .number literal => p.offset < i ∧ i < p.offset + literal.size
  | .doubleStar => i = p.offset + 1
  | _ => False

instance (p : Placed) (i : Nat) : Decidable (p.Encloses i) :=
  match p with
  | ⟨k, .number literal⟩ => inferInstanceAs (Decidable (k < i ∧ i < k + literal.size))
  | ⟨k, .doubleStar⟩ => inferInstanceAs (Decidable (i = k + 1))
  | ⟨_, .plus⟩ | ⟨_, .minus⟩ | ⟨_, .star⟩ | ⟨_, .slash⟩ | ⟨_, .percent⟩ | ⟨_, .leftParen⟩
  | ⟨_, .rightParen⟩ => .isFalse id

/-- A place inside a token lies between its ends. -/
theorem Placed.Encloses.bounds {p : Placed} {i : Nat} (h : p.Encloses i) :
    p.offset < i ∧ i < p.stop := by
  obtain ⟨k, token⟩ := p
  cases token with
  | number literal => exact h
  | doubleStar =>
    change i = k + 1 at h
    change k < i ∧ i < k + 2
    omega
  | _ => exact h.elim

/-- Where a token is torn, there is a place inside it. -/
theorem Placed.encloses_of_append {k : Nat} {token : Token} {s m : Text}
    (htext : token.text = s ++ m) (hs : s ≠ []) (hm : m ≠ []) :
    Placed.Encloses ⟨k, token⟩ (k + s.size) := by
  have hspos := Text.size_pos_of_ne_nil hs
  have hmpos := Text.size_pos_of_ne_nil hm
  have hsize := congrArg Text.size htext
  rw [Text.size_append] at hsize
  cases token with
  | number literal =>
    change k < k + s.size ∧ k + s.size < k + literal.size
    change literal.size = _ at hsize
    omega
  | doubleStar =>
    change k + s.size = k + 1
    change 2 = _ at hsize
    omega
  | _ =>
    change 1 = _ at hsize
    omega

/-- **Parting.**  A row is two rows at every place that is not inside a token. -/
theorem Row.cut {k : Nat} {s u : Text} {placed : List Placed} (h : Row k (s ++ u) placed)
    (hplace : ∀ p ∈ placed, ¬ p.Encloses (k + s.size)) :
    ∃ before after, placed = before ++ after ∧ Row k s before ∧ Row (k + s.size) u after := by
  -- Induction on the row, where `s` is what is left of the first part.
  generalize ht : s ++ u = t at h
  induction h generalizing s with
  | nil =>
    obtain ⟨rfl, rfl⟩ := List.append_eq_nil_iff.mp ht
    exact ⟨[], [], rfl, .nil, .nil⟩
  | @blank k c rest placed hblank hrow ih =>
    cases s with
    | nil =>
      cases ht
      exact ⟨[], placed, rfl, .nil, .blank hblank hrow⟩
    | cons d s =>
      cases ht
      rw [Text.size_cons, ← Nat.add_assoc] at hplace ⊢
      obtain ⟨before, after, rfl, hs, hu⟩ := ih hplace rfl
      exact ⟨before, after, rfl, .blank hblank hs, hu⟩
  | @token k token rest placed hends hrow ih =>
    by_cases hs : s = []
    · subst hs
      cases ht
      exact ⟨[], ⟨k, token⟩ :: placed, rfl, .nil, .token token hends hrow⟩
    · -- The place is not inside the token, so the token belongs to the first part.
      obtain ⟨m, rfl, rfl⟩ : ∃ m, s = token.text ++ m ∧ rest = m ++ u := by
        rcases List.append_eq_append_iff.mp ht with ⟨m, htext, hu⟩ | ⟨m, hs', hrest⟩
        · by_cases hm : m = []
          · subst hm
            exact ⟨[], by rw [htext, List.append_nil, List.append_nil], hu.symm⟩
          · exact absurd (Placed.encloses_of_append htext hs hm) (hplace _ List.mem_cons_self)
        · exact ⟨m, hs', hrest⟩
      rw [Text.size_append, ← Nat.add_assoc] at hplace ⊢
      obtain ⟨before, after, rfl, hm, hu⟩ :=
        ih (fun p hp => hplace p (List.mem_cons_of_mem _ hp)) rfl
      refine ⟨⟨k, token⟩ :: before, after, rfl, .token token (hends.of_head ?_) hm, hu⟩
      intro c hc
      cases m with
      | nil => cases hc
      | cons d m => exact .inl hc

/-! ### How a row covers its text -/

theorem Token.Ends.text_ne_nil {token : Token} {rest : Text} (h : token.Ends rest) :
    token.text ≠ [] := by
  cases token with
  | number literal => exact h.1.ne_nil
  | _ => simp [Token.text]

/-- The tokens of a row lie in its text. -/
theorem Row.bounds {k : Nat} {t : Text} {placed : List Placed} (h : Row k t placed) :
    ∀ p ∈ placed, k ≤ p.offset ∧ p.stop ≤ k + t.size := by
  induction h with
  | nil => simp
  | @blank k c rest placed _ _ ih =>
    intro p hp
    have hbounds := ih p hp
    rw [Text.size_cons]
    omega
  | @token k token rest placed _ _ ih =>
    intro p hp
    rw [Text.size_append]
    rcases List.mem_cons.mp hp with rfl | hp
    · change k ≤ k ∧ k + token.text.size ≤ _
      omega
    · have hbounds := ih p hp
      omega

/-- The tokens of a row follow each other. -/
theorem Row.ordered {k : Nat} {t : Text} {placed : List Placed} (h : Row k t placed) :
    placed.Pairwise fun p q => p.offset < p.stop ∧ p.stop ≤ q.offset := by
  induction h with
  | nil => exact .nil
  | blank _ _ ih => exact ih
  | @token k token rest placed hends hrow ih =>
    refine .cons ?_ ih
    intro q hq
    have hpos := Text.size_pos_of_ne_nil hends.text_ne_nil
    have hbound := (hrow.bounds q hq).1
    change k < k + token.text.size ∧ k + token.text.size ≤ q.offset
    omega

/-- The characters that tokens are made of. -/
def isTokenChar (c : Char) : Bool :=
  isNumberChar c || ['+', '-', '*', '/', '%', '(', ')'].contains c

theorem isBlank_of_isTokenChar {c : Char} (h : isTokenChar c = true) : isBlank c = false := by
  rw [isTokenChar, Bool.or_eq_true, List.contains_iff_mem] at h
  rcases h with hnumber | hsymbol
  · exact isBlank_of_isNumberChar hnumber
  · simp only [List.mem_cons, List.not_mem_nil, or_false] at hsymbol
    rcases hsymbol with rfl | rfl | rfl | rfl | rfl | rfl | rfl <;> decide

theorem Token.Ends.isTokenChar_of_mem {token : Token} {rest : Text} (h : token.Ends rest) :
    ∀ c ∈ token.text, isTokenChar c = true := by
  intro c hc
  cases token with
  | number literal =>
    rw [isTokenChar, h.1.chars c hc]
    rfl
  | _ =>
    simp only [Token.text, List.mem_cons, List.not_mem_nil, or_false, or_self] at hc
    subst hc
    decide

/-- The tokens of a row have all of its characters but the blanks. -/
theorem Row.filter_isBlank {k : Nat} {t : Text} {placed : List Placed} (h : Row k t placed) :
    t.filter (fun c => !isBlank c) = placed.flatMap fun p => p.token.text := by
  induction h with
  | nil => rfl
  | blank hblank _ ih => rw [List.filter_cons_of_neg (by simp [hblank]), ih]
  | @token k token rest placed hends _ ih =>
    have htext : token.text.filter (fun c => !isBlank c) = token.text := by
      apply List.filter_eq_self.mpr
      intro c hc
      rw [isBlank_of_isTokenChar (hends.isTokenChar_of_mem c hc)]
      rfl
    rw [List.filter_append, htext, ih, List.flatMap_cons]

theorem Row.isTokenChar_of_mem {k : Nat} {t : Text} {placed : List Placed} (h : Row k t placed)
    {c : Char} (hc : c ∈ t) (hblank : isBlank c = false) : isTokenChar c = true := by
  induction h with
  | nil => cases hc
  | blank hblank' _ ih =>
    rcases List.mem_cons.mp hc with rfl | hc
    · rw [hblank'] at hblank
      cases hblank
    · exact ih hc
  | token token hends _ ih =>
    rcases List.mem_append.mp hc with hc | hc
    · exact hends.isTokenChar_of_mem c hc
    · exact ih hc

/-- No sign of a row stands beside its like. -/
theorem Row.signs {k : Nat} {t : Text} {placed : List Placed} (h : Row k t placed) :
    t.IsChain fun c d => c = '+' ∨ c = '-' → d ≠ c := by
  have hnumber : ∀ c, isNumberChar c = true → ¬ (c = '+' ∨ c = '-') := by
    rintro c hc (rfl | rfl)
    · exact absurd hc (by decide)
    · exact absurd hc (by decide)
  induction h with
  | nil => exact .nil
  | @blank k c rest placed hblank _ ih =>
    refine List.isChain_cons.mpr ⟨?_, ih⟩
    rintro d - (rfl | rfl)
    · exact absurd hblank (by decide)
    · exact absurd hblank (by decide)
  | @token k token rest placed hends _ ih =>
    refine List.isChain_append.mpr ⟨?_, ih, ?_⟩
    · cases token with
      | number literal =>
        apply List.Pairwise.isChain
        apply List.pairwise_of_forall_mem_list
        intro c hc d hd hsign
        exact absurd hsign (hnumber c (hends.1.chars c hc))
      | doubleStar => simp [Token.text]
      | _ => exact .singleton _
    · intro c hc d hd hsign
      rintro rfl
      cases token with
      | number literal => exact hnumber d (hends.1.chars d (List.mem_of_getLast? hc)) hsign
      | plus =>
        cases hc
        exact hends hd
      | minus =>
        cases hc
        exact hends hd
      | _ =>
        cases hc
        exact absurd hsign (by decide)

/-! ## Where the tokens of a row stand -/

theorem Token.Ends.isRun {token : Token} {rest : Text} (h : token.Ends rest) :
    ∀ literal, token = .number literal → IsRun literal rest := by
  rintro literal rfl
  exact h.1

/-- A token of a row stands at its offset, not right behind a number if it is one itself. -/
theorem Row.token_at {k : Nat} {t : Text} {placed : List Placed} (h : Row k t placed) {p : Placed}
    (hp : p ∈ placed) :
    ∃ s u : Text, t = s ++ (p.token.text ++ u) ∧ p.offset = k + s.size
      ∧ Parted s (p.token.text ++ u) ∧ p.token.Ends u := by
  induction h with
  | nil => cases hp
  | @blank k c rest placed hblank _ ih =>
    obtain ⟨s, u, rfl, hoffset, hparted, hends⟩ := ih hp
    refine ⟨[c] ++ s, u, by simp, ?_, (parted_blank hblank _).append hparted, hends⟩
    rw [hoffset, Text.size_append, Nat.add_assoc]
    rfl
  | @token k token rest placed hends _ ih =>
    rcases List.mem_cons.mp hp with rfl | hp
    · exact ⟨[], rest, rfl, rfl, nofun, hends⟩
    · obtain ⟨s, u, rfl, hoffset, hparted, hends'⟩ := ih hp
      refine ⟨token.text ++ s, u, by simp, ?_, (parted_text hends.isRun).append hparted, hends'⟩
      rw [hoffset, Text.size_append, Nat.add_assoc]

/-- A row is two rows between two characters that are not both digits or dots and not both
    stars. -/
theorem Row.cut_between {k : Nat} {s u : Text} {placed : List Placed} (h : Row k (s ++ u) placed)
    (hparted : Parted s u) (hstars : s.getLast? = some '*' → u.head? ≠ some '*') :
    ∃ before after, placed = before ++ after ∧ Row k s before ∧ Row (k + s.size) u after := by
  apply h.cut
  intro p hp hplace
  obtain ⟨s', u', hcut, hoffset, -, hends⟩ := h.token_at hp
  -- The place tears the token into `x` and `y`, which end and start as `s` and `u` do.
  obtain ⟨hlt, hlt'⟩ := hplace.bounds
  rw [Placed.stop] at hlt'
  obtain ⟨x, y, htext, hx, hy, ⟨s₀, rfl⟩, ⟨u₀, rfl⟩⟩ :=
    Text.PartAt.exists_cut ⟨s', u', hcut, rfl⟩ (by omega) (by omega)
  obtain ⟨x, c, rfl⟩ := (List.eq_nil_or_concat' x).resolve_left hx
  obtain ⟨d, y, rfl⟩ := List.exists_cons_of_ne_nil hy
  have hlast : (s₀ ++ (x ++ [c])).getLast? = some c := by simp
  have hc : c ∈ p.token.text := by simp [htext]
  have hd : d ∈ p.token.text := by simp [htext]
  obtain ⟨i, token⟩ := p
  cases token with
  | number literal =>
    have hnumber : isNumberChar d = true := hends.1.chars d hd
    rw [hparted c hlast d rfl (hends.1.chars c hc)] at hnumber
    cases hnumber
  | doubleStar =>
    have hstar : ∀ e ∈ Token.doubleStar.text, e = '*' := by simp [Token.text]
    exact hstars (hlast.trans (congrArg some (hstar c hc))) (congrArg some (hstar d hd))
  | _ => exact hplace

end Sigil.Arithmetic
