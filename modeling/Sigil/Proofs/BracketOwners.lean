import Mathlib.Data.List.DropRight
import Sigil.Proofs.CursorBrackets

/-! # The owners of brackets

    Tokens are read from left to right, and where one starts depends on all that stands before
    it.  Yet to which token a `[` belongs is decided by the identifier characters just before it
    and the sigils before these: sigils are used up in pairs, and of the rest only the parity of
    their number is left.

    * `ownerOf`: the token that sigils and a name end with.
    * `trailingToken_sigils_append`: sigils and a name, read from their start.
    * `trailingToken_lexemes`: any text, since it may be cut before its last run of sigils.
    * `OpensFrame`: the frames that reading a text opens.
    * `exists_closed_iff`: which of them are closed, and where.
    * `bracket_owner_is_before`: the owner of the frame of a bracket. -/

namespace Sigil

/-! ## The end of a text -/

/-- The identifier characters that a text ends with. -/
def nameBefore (t : Text) : Text :=
  t.rtakeWhile isIdentifierChar

/-- The sigils that stand before the name at the end of a text. -/
def sigilsBefore (t : Text) : Text :=
  (t.rdropWhile isIdentifierChar).rtakeWhile isSigil

/-- **Owner.**  The token that sigils and a name end with.  An even number of sigils leaves the
    last two of them for the name, which may be empty; an odd number leaves one, which is no
    token without a name. -/
def ownerOf (sigils name : Text) : Option Text :=
  if sigils = [] then none
  else if sigils.length % 2 = 0 then some (sigils.rtake 2 ++ name)
  else if name = [] then none
  else some (sigils.rtake 1 ++ name)

/-- The token that a text ends with, by its last characters alone. -/
def ownerBefore (t : Text) : Option Text :=
  ownerOf (sigilsBefore t) (nameBefore t)

/-- A text is made up of its last sigils and name and of what stands before them. -/
theorem eq_append_sigilsBefore (t : Text) :
    t = (t.rdropWhile isIdentifierChar).rdropWhile isSigil ++ (sigilsBefore t ++ nameBefore t) := by
  rw [← List.append_assoc, sigilsBefore, List.rdropWhile_append_rtakeWhile, nameBefore,
    List.rdropWhile_append_rtakeWhile]

/-- What is left when a run is taken from the end does not end in such a character. -/
theorem getLast?_rdropWhile {p : Char → Bool} {t : Text} :
    ∀ c ∈ (t.rdropWhile p).getLast?, p c = false := by
  intro c hc
  have hne : t.rdropWhile p ≠ [] := by
    intro hnil
    rw [hnil] at hc
    cases hc
  have hnot := List.rdropWhile_last_not p t hne
  rw [Option.mem_def, List.getLast?_eq_some_getLast hne, Option.some.injEq] at hc
  rw [hc] at hnot
  exact Bool.eq_false_iff.mpr hnot

/-! ## Tokens at the end of lexemes -/

theorem trailingToken_append {ls ls' : List Lexeme} (h : ls' ≠ []) :
    trailingToken (ls ++ ls') = trailingToken ls' := by
  unfold trailingToken
  rw [List.getLast?_append_of_ne_nil ls h]

/-- Single characters are no tokens. -/
theorem trailingToken_map_ofChar (t : Text) : trailingToken (t.map .ofChar) = none := by
  rcases List.eq_nil_or_concat t with rfl | ⟨s, c, rfl⟩
  · rfl
  · rw [List.concat_eq_append, List.map_append, List.map_singleton, trailingToken_concat]
    have hne := Lexeme.ofChar_ne_token c
    split
    · next name hname => exact absurd hname (hne name)
    · rfl

/-- Where there is no sigil, every character is read alone. -/
theorem lexemes_of_forall {t : Text} (h : ∀ c ∈ t, isSigil c = false) :
    lexemes t = t.map .ofChar := by
  induction t with
  | nil => exact lexemes_nil
  | cons c t ih =>
    have hc := splitToken?_of_not_isSigil (h c List.mem_cons_self) t
    rw [lexemes_of_none hc, ih fun d hd => h d (List.mem_cons_of_mem c hd), List.map_cons]

theorem lexemes_ne_nil {t : Text} (h : t ≠ []) : lexemes t ≠ [] := by
  intro hnil
  have htext := textOf_lexemes t
  rw [hnil] at htext
  exact h htext.symm

/-! ## Sigils and a name -/

/-- A name is taken whole. -/
theorem splitIdentifier_name {name : Text} (h : ∀ c ∈ name, isIdentifierChar c = true)
    (sigils : Text) : splitIdentifier sigils name = (sigils ++ name, []) := by
  have htake : name.takeWhile isIdentifierChar = name := List.takeWhile_eq_self_iff.mpr h
  have hdrop : name.dropWhile isIdentifierChar = [] := List.dropWhile_eq_nil_iff.mpr h
  rw [splitIdentifier, htake, hdrop]

theorem trailingToken_of_splitToken? {t : Text} (h : splitToken? t = some (t, [])) :
    trailingToken (lexemes t) = some t := by
  rw [lexemes_of_some h, lexemes_nil]
  rfl

/-- Two sigils before another one are a token and change nothing about the end. -/
theorem ownerOf_cons_cons {sigils : Text} (hne : sigils ≠ []) (c d : Char) (name : Text) :
    ownerOf (c :: d :: sigils) name = ownerOf sigils name := by
  have hparity : (c :: d :: sigils).length % 2 = sigils.length % 2 := by
    simp only [List.length_cons]
    omega
  have hpos : 0 < sigils.length := List.length_pos_of_ne_nil hne
  have hrtake : ∀ k, k ≤ sigils.length → (c :: d :: sigils).rtake k = sigils.rtake k := by
    intro k hk
    unfold List.rtake
    rw [show (c :: d :: sigils).length - k = sigils.length - k + 2 from by
      simp only [List.length_cons]
      omega]
    rfl
  unfold ownerOf
  rw [if_neg (List.cons_ne_nil c _), if_neg hne, hparity, hrtake 1 hpos]
  by_cases heven : sigils.length % 2 = 0
  · rw [if_pos heven, if_pos heven, hrtake 2 (by omega)]
  · rw [if_neg heven, if_neg heven]

/-- **Sigils and a name** are read in pairs of sigils, up to the last one or two. -/
theorem trailingToken_sigils_append {sigils name : Text} (hs : ∀ c ∈ sigils, isSigil c = true)
    (hn : ∀ c ∈ name, isIdentifierChar c = true) :
    trailingToken (lexemes (sigils ++ name)) = ownerOf sigils name := by
  induction sigils using List.twoStepInduction with
  | nil =>
    have hplain : ∀ c ∈ name, isSigil c = false := fun c hc =>
      not_isSigil_of_isIdentifierChar (hn c hc)
    rw [List.nil_append, lexemes_of_forall hplain, trailingToken_map_ofChar]
    rfl
  | singleton c =>
    have hc := hs c List.mem_cons_self
    cases name with
    | nil =>
      -- A sigil before the bracket is read alone.
      rw [List.append_nil, lexemes_of_none rfl, lexemes_nil]
      exact trailingToken_map_ofChar [c]
    | cons d name =>
      have hd := hn d List.mem_cons_self
      have hd' := not_isSigil_of_isIdentifierChar hd
      have hsplit : splitToken? (c :: d :: name) = some (c :: d :: name, []) := by
        simp [splitToken?, hc, hd, hd', splitIdentifier_name hn]
      rw [List.singleton_append, trailingToken_of_splitToken? hsplit]
      rfl
  | cons_cons c d sigils ih _ =>
    -- The first two sigils take the name with them only if no sigil follows.
    have hc := hs c List.mem_cons_self
    have hd := hs d (by simp)
    have hrest : ∀ e ∈ sigils, isSigil e = true := fun e he => hs e (by simp [he])
    cases sigils with
    | nil =>
      have hsplit : splitToken? (c :: d :: name) = some (c :: d :: name, []) := by
        simp [splitToken?, hc, hd, splitIdentifier_name hn]
      show trailingToken (lexemes (c :: d :: name)) = _
      rw [trailingToken_of_splitToken? hsplit]
      simp [ownerOf, List.rtake]
    | cons e sigils =>
      have he := not_isIdentifierChar_of_isSigil (hrest e List.mem_cons_self)
      have hsplit : splitToken? (c :: d :: (e :: sigils ++ name))
          = some ([c, d], e :: sigils ++ name) := by
        simp [splitToken?, hc, hd, splitIdentifier, he]
      show trailingToken (lexemes (c :: d :: (e :: sigils ++ name))) = _
      rw [ownerOf_cons_cons (by simp), ← ih hrest, lexemes_of_some hsplit,
        ← List.singleton_append]
      exact trailingToken_append (lexemes_ne_nil (by simp))

/-! ## Any text -/

/-- Without sigils before it, a name at the end of a text belongs to no token. -/
theorem trailingToken_of_sigilsBefore_nil {t : Text} (h : sigilsBefore t = []) :
    trailingToken (lexemes t) = none := by
  have hname : ∀ c ∈ nameBefore t, isSigil c = false := fun c hc =>
    not_isSigil_of_isIdentifierChar (List.mem_rtakeWhile_imp hc)
  have ht : t.rdropWhile isIdentifierChar ++ nameBefore t = t := List.rdropWhile_append_rtakeWhile
  rcases List.eq_nil_or_concat (t.rdropWhile isIdentifierChar) with hnil | ⟨s, c, hconcat⟩
  · rw [← ht, hnil, List.nil_append, lexemes_of_forall hname, trailingToken_map_ofChar]
  · rw [List.concat_eq_append] at hconcat
    -- The character before the name is neither an identifier character nor a sigil.
    have hident : isIdentifierChar c = false := getLast?_rdropWhile c (by rw [hconcat]; simp)
    have hsigil : isSigil c = false := by
      unfold sigilsBefore at h
      rw [hconcat, List.rtakeWhile_concat] at h
      by_contra hc
      rw [if_pos (by simpa using hc)] at h
      simp at h
    have hseparator : isSeparator c = true := by simp [isSeparator, hident, hsigil]
    rw [← ht, hconcat, List.append_assoc, List.singleton_append,
      lexemes_append_separator hseparator, lexemes_of_forall hname, ← List.map_cons,
      trailingToken_append (by simp), trailingToken_map_ofChar]

/-- **Tokens at the end.**  The last characters of a text decide which token it ends with. -/
theorem trailingToken_lexemes (t : Text) : trailingToken (lexemes t) = ownerBefore t := by
  by_cases hnil : sigilsBefore t = []
  · rw [trailingToken_of_sigilsBefore_nil hnil, ownerBefore, hnil]
    rfl
  · have hsigils : ∀ c ∈ sigilsBefore t, isSigil c = true := fun c hc => List.mem_rtakeWhile_imp hc
    have hname : ∀ c ∈ nameBefore t, isIdentifierChar c = true := fun c hc =>
      List.mem_rtakeWhile_imp hc
    -- The text may be cut before its last run of sigils.
    have hcut : IsCut ((t.rdropWhile isIdentifierChar).rdropWhile isSigil)
        (sigilsBefore t ++ nameBefore t) := by
      constructor
      · intro c hc
        obtain ⟨first, rest, hfirst⟩ := List.exists_cons_of_ne_nil hnil
        rw [hfirst, List.cons_append, List.head?_cons, Option.mem_some_iff] at hc
        rw [← hc]
        exact not_isIdentifierChar_of_isSigil (hsigils first (by rw [hfirst]; simp))
      · intro d hd hsigil
        rw [getLast?_rdropWhile d hd] at hsigil
        cases hsigil
    have hne : sigilsBefore t ++ nameBefore t ≠ [] := List.append_ne_nil_of_left_ne_nil hnil _
    conv_lhs => rw [eq_append_sigilsBefore t]
    rw [hcut.lexemes_append, trailingToken_append (lexemes_ne_nil hne),
      trailingToken_sigils_append hsigils hname]
    rfl

/-! ## Brackets -/

/-- The token before a bracket. -/
theorem tokenBefore_bracket_iff {before after name : Text} :
    TokenBefore (before ++ '[' :: after) name before.size ↔ ownerBefore before = some name := by
  have hls : lexemes (before ++ '[' :: after) = lexemes before ++ .opening :: lexemes after :=
    lexemes_append_separator (by decide) before after
  have htoken : TokenBefore _ name _ ↔ _ := tokenBefore_iff hls
  rw [textOf_lexemes, trailingToken_lexemes] at htoken
  exact htoken

/-- **Frames of a text.**  Reading the text opens the frame `f`, which is then closed or left
    open. -/
def OpensFrame (t : Text) (f : Frame) : Prop :=
  (∃ stop, .closed f stop ∈ (brackets t).1) ∨ f ∈ (openFrames t).unclosed

theorem OpensFrame.owner_eq_some_iff {t : Text} {f : Frame} (h : OpensFrame t f) (name : Text) :
    f.owner = some name ↔ TokenBefore t name f.opened := by
  rcases h with ⟨stop, hclosed⟩ | hopen
  · exact (mem_events_closed_iff.mp hclosed).2.1 name
  · exact Sigil.owner_eq_some_iff hopen name

/-- A frame is closed exactly by the partner of its bracket. -/
theorem exists_closed_iff {t : Text} {i j : Nat} :
    (∃ f, .closed f j ∈ (brackets t).1 ∧ f.opened = i) ↔ Partners t i j := by
  constructor
  · intro ⟨f, hclosed, hopened⟩
    rw [← hopened]
    exact (mem_events_closed_iff.mp hclosed).1
  · intro hpair
    obtain ⟨before, inside, after, ht, -, hi, -⟩ := id hpair
    let frame : Frame :=
      { owner := ownerBefore before
        opened := i
        content := outside 0 (Text.slice t (i + 1) j) }
    have howner : ∀ name, frame.owner = some name ↔ TokenBefore t name frame.opened := by
      intro name
      rw [show frame.opened = before.size from hi, ht]
      exact tokenBefore_bracket_iff.symm
    exact ⟨frame, mem_events_closed_iff.mpr ⟨hpair, howner, rfl⟩, rfl⟩

/-- Every `[` opens a frame. -/
theorem exists_opensFrame (before after : Text) :
    ∃ f, OpensFrame (before ++ '[' :: after) f ∧ f.opened = before.size := by
  by_cases hpaired : ∃ j, Partners (before ++ '[' :: after) before.size j
  · obtain ⟨j, hpair⟩ := hpaired
    obtain ⟨f, hclosed, hopened⟩ := exists_closed_iff.mpr hpair
    exact ⟨f, .inl ⟨j, hclosed⟩, hopened⟩
  · have hunpaired : UnpairedOpening (before ++ '[' :: after) before.size :=
      ⟨⟨before, after, rfl, rfl⟩, fun j hpair => hpaired ⟨j, hpair⟩⟩
    obtain ⟨f, hf, hopened⟩ := List.mem_map.mp (mem_unclosed_iff.mpr hunpaired)
    exact ⟨f, .inr hf, hopened⟩

theorem OpensFrame.owner_eq {before after : Text} {f : Frame}
    (h : OpensFrame (before ++ '[' :: after) f) (hopened : f.opened = before.size) :
    f.owner = ownerBefore before := by
  apply Option.ext
  intro name
  rw [h.owner_eq_some_iff, hopened]
  exact tokenBefore_bracket_iff

/-- A bracket that was just opened is the innermost one. -/
theorem getLast?_outline_openFrames (before : Text) :
    (openFrames (before ++ ['['])).outline.getLast?
      = some (before.size, ownerBefore before) := by
  have hls : lexemes (before ++ ['[']) = lexemes before ++ [.opening] := by
    rw [lexemes_append_separator (by decide), lexemes_nil]
    rfl
  have htop : (openFrames (before ++ ['['])).stack[0]? = some (frameOf (lexemes before) []) :=
    (represents_openFrames _ 0 _).mpr ⟨lexemes before, [], hls, rfl, rfl⟩
  rw [Frames.outline, Frames.unclosed, List.getLast?_map, List.getLast?_reverse,
    List.head?_eq_getElem?, htop, Option.map_some, frameOf, textOf_lexemes,
    trailingToken_lexemes]

/-- **Owners.**  A `[` opens a frame, and the frame belongs to the token that the characters
    just before the bracket make up, for a scan of the text as for a cursor in it.  A cursor
    just behind the bracket is in this frame. -/
theorem bracket_owner_is_before (before after : Text) :
    (∃ f, OpensFrame (before ++ '[' :: after) f ∧ f.opened = before.size)
      ∧ (∀ f, OpensFrame (before ++ '[' :: after) f → f.opened = before.size →
          f.owner = ownerBefore before)
      ∧ (∀ f ∈ (Cursor.openBrackets (before ++ '[' :: after)).unclosed, f.opened = before.size →
          f.owner = ownerBefore before)
      ∧ (Cursor.openBrackets (before ++ ['['])).outline.getLast?
          = some (before.size, ownerBefore before) := by
  refine ⟨exists_opensFrame before after, fun f hf => hf.owner_eq, ?_, ?_⟩
  · intro f hf hopened
    -- The scan leaves a frame with the same bracket and owner open.
    have hmem : (f.opened, f.owner) ∈ (openFrames (before ++ '[' :: after)).outline := by
      rw [← Cursor.outline_openBrackets]
      exact List.mem_map_of_mem hf
    obtain ⟨g, hg, heq⟩ := List.mem_map.mp hmem
    rw [Prod.mk.injEq] at heq
    rw [← heq.2]
    exact OpensFrame.owner_eq (.inr hg) (heq.1.trans hopened)
  · rw [Cursor.outline_openBrackets, getLast?_outline_openFrames]

/-- Four sigils give two of them to the name behind them, and three without a name give none. -/
theorem bracket_owner_is_before_long_runs :
    (∃ f, OpensFrame "é$&$$name[a]".toList f ∧ f.opened = 10 ∧ f.owner = some "$$name".toList)
      ∧ ∃ f, OpensFrame "é$&$[a".toList f ∧ f.opened = 5 ∧ f.owner = none := by
  constructor
  · obtain ⟨⟨f, hf, hopened⟩, howner, -⟩ :=
      bracket_owner_is_before "é$&$$name".toList "a]".toList
    exact ⟨f, hf, hopened, (howner f hf hopened).trans (by decide)⟩
  · obtain ⟨⟨f, hf, hopened⟩, howner, -⟩ := bracket_owner_is_before "é$&$".toList "a".toList
    exact ⟨f, hf, hopened, (howner f hf hopened).trans (by decide)⟩

end Sigil
