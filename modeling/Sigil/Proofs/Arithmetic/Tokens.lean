import Sigil.Proofs.Arithmetic.TokenRows

/-! # The tokens of a text

    Which texts can be cut into tokens is decided by their characters and by which of them stand
    side by side, and so are the tokens; blanks can be put wherever no token is torn.

    * `number_mem_iff`: the numbers of a text.
    * `Readable`, `readable_iff`: the texts that can be cut.
    * `Tiles`, `tiles_of_tokenize`: how tokens cover a text.
    * `exists_starTokens`: the tokens of a run of stars.
    * `tokenize_insert_blanks`: blanks that are put into a text.
    * `tokenize_exact`: all of these together. -/

namespace Sigil.Arithmetic

/-! ## The texts that can be cut -/

/-- A run of digits and dots is a token of a row that starts with it. -/
theorem Row.run_mem {k : Nat} {run rest : Text} {placed : List Placed}
    (h : Row k (run ++ rest) placed) (hrun : IsRun run rest) : ⟨k, .number run⟩ ∈ placed := by
  have htokens := tokenizeFrom_eq_ok_iff.mpr h
  rw [tokenizeFrom_run hrun] at htokens
  split at htokens
  · obtain ⟨tokens, -, hplaced⟩ := bind_eq_ok_iff.mp htokens
    cases hplaced
    exact List.mem_cons_self
  · cases htokens

/-- **Numbers** are the runs of digits and dots, as long as they are. -/
theorem number_mem_iff {t : Text} {placed : List Placed} (h : tokenize t = .ok placed) (k : Nat)
    (run : Text) : ⟨k, .number run⟩ ∈ placed ↔ RunAt t k run := by
  have hrow : Row 0 t placed := tokenizeFrom_eq_ok_iff.mp h
  constructor
  · intro hmem
    obtain ⟨s, u, rfl, hoffset, hparted, hends⟩ := hrow.token_at hmem
    rw [Nat.zero_add] at hoffset
    change k = s.size at hoffset
    rw [hoffset]
    exact runAt_of_parted hends.1 hparted
  · intro hrunAt
    obtain ⟨s, u, rfl, rfl, hrun, hlast⟩ := hrunAt
    -- No token reaches over the start of the run, so a row starts there.
    have hparted : Parted s (run ++ u) := by
      intro c hc _ _ hnumber
      rw [hlast c hc] at hnumber
      cases hnumber
    have hstars : (run ++ u).head? ≠ some '*' := by
      obtain ⟨d, run, rfl⟩ := List.exists_cons_of_ne_nil hrun.ne_nil
      intro heq
      cases heq
      exact absurd (hrun.chars '*' List.mem_cons_self) (by decide)
    obtain ⟨before, after, rfl, -, hafter⟩ := hrow.cut_between hparted fun _ => hstars
    rw [Nat.zero_add] at hafter
    exact List.mem_append_right before (hafter.run_mem hrun)

/-- **Readable texts.**  Every character is a blank or can be part of a token, no sign stands
    beside its like, and digits and dots have at most one dot and are more than a dot. -/
structure Readable (t : Text) : Prop where
  chars : ∀ c ∈ t, isBlank c = false → isTokenChar c = true
  signs : ∀ c, c = '+' ∨ c = '-' → ∀ k, ¬ t.PartAt k [c, c]
  runs : ∀ k run, RunAt t k run → run.count '.' ≤ 1 ∧ run ≠ ['.']

theorem Row.readable {t : Text} {placed : List Placed} (h : Row 0 t placed) : Readable t where
  chars _ hc hblank := h.isTokenChar_of_mem hc hblank
  signs c hsign k hpart := by
    obtain ⟨s, u, rfl, -⟩ := hpart
    exact (List.isChain_append_cons_cons.mp h.signs).2.1 hsign rfl
  runs k run hrunAt := by
    have hmem := (number_mem_iff (tokenizeFrom_eq_ok_iff.mpr h) k run).mpr hrunAt
    obtain ⟨-, -, -, -, -, -, hnumber⟩ := h.token_at hmem
    rw [isNumber, Bool.and_eq_true, decide_eq_true_eq] at hnumber
    refine ⟨hnumber.1, ?_⟩
    rintro rfl
    exact absurd hnumber.2 (by decide)

theorem isArithmeticChar_of_isTokenChar {c : Char} (h : isTokenChar c = true) :
    isArithmeticChar c = true := by
  rw [isTokenChar, isNumberChar, Bool.or_eq_true, Bool.or_eq_true, beq_iff_eq,
    List.contains_iff_mem] at h
  rcases h with (hdigit | rfl) | hsymbol
  · simp [isArithmeticChar, hdigit]
  · decide
  · simp only [List.mem_cons, List.not_mem_nil, or_false] at hsymbol
    rcases hsymbol with rfl | rfl | rfl | rfl | rfl | rfl | rfl <;> decide

/-- **Success.**  The texts that can be cut into tokens are the readable ones. -/
theorem readable_iff (t : Text) : (∃ placed, tokenize t = .ok placed) ↔ Readable t := by
  constructor
  · intro h
    obtain ⟨placed, hplaced⟩ := h
    exact (tokenizeFrom_eq_ok_iff.mp hplaced).readable
  · intro h
    cases htokens : tokenize t with
    | ok placed => exact ⟨placed, rfl⟩
    | error e =>
      -- What the error says of the text is what a readable text does not have.
      have htruthful := tokenize_truthful htokens
      have hlexical := tokenizeFrom_failsOnly 0 t e htokens
      cases e with
      | invalidNumber k =>
        obtain ⟨run, hrunAt, hbad⟩ := htruthful
        obtain ⟨hdots, hne⟩ := h.runs k run hrunAt
        rcases hbad with hdot | hcount
        · exact absurd hdot hne
        · omega
      | invalidCharacter k c =>
        obtain ⟨hc, hrefused⟩ := hlexical
        have hblank : isBlank c = false := (Bool.or_eq_false_iff.mp hrefused).2
        rw [isArithmeticChar_of_isTokenChar (h.chars c hc hblank)] at hrefused
        cases hrefused
      | incrementOperator k =>
        rcases htruthful with hplus | hminus
        · exact absurd hplus (h.signs '+' (.inl rfl) k)
        · exact absurd hminus (h.signs '-' (.inr rfl) k)
      | _ => exact hlexical.elim

/-! ## What a text is cut into -/

/-- **Tiling.**  The tokens start where characters do, one behind the other, and what they take
    up of the text, put together, is the text without its blanks. -/
structure Tiles (t : Text) (placed : List Placed) : Prop where
  boundary : ∀ p ∈ placed, t.IsBoundary p.offset
  increasing : (placed.map Placed.offset).Pairwise (· < ·)
  apart : placed.Pairwise fun p q => p.stop ≤ q.offset
  source : ∀ p ∈ placed, t.slice p.offset p.stop = p.token.text
  covers : (placed.flatMap fun p => t.slice p.offset p.stop) = t.filter fun c => !isBlank c

theorem tiles_of_tokenize {t : Text} {placed : List Placed} (h : tokenize t = .ok placed) :
    Tiles t placed := by
  have hrow : Row 0 t placed := tokenizeFrom_eq_ok_iff.mp h
  have hsource : ∀ p ∈ placed, t.slice p.offset p.stop = p.token.text := by
    intro p hp
    exact (partAt_of_mem h hp).slice_eq
  refine ⟨?_, ?_, ?_, hsource, ?_⟩
  · intro p hp
    exact (partAt_of_mem h hp).isBoundary
  · rw [List.pairwise_map]
    refine hrow.ordered.imp ?_
    intro p q hpq
    omega
  · exact hrow.ordered.imp fun hpq => hpq.2
  · rw [hrow.filter_isBlank]
    exact List.flatMap_congr hsource

/-- The tokens of `n` stars at the offset `k`: pairs from the left. -/
def starTokens : Nat → Nat → List Placed
  | _, 0 => []
  | k, 1 => [⟨k, .star⟩]
  | k, n + 2 => ⟨k, .doubleStar⟩ :: starTokens (k + 2) n

theorem row_stars (k n : Nat) : Row k (List.replicate n '*') (starTokens k n) := by
  fun_induction starTokens k n with
  | case1 => exact .nil
  | case2 k => exact .token .star nofun .nil
  | case3 k n ih => exact .token .doubleStar trivial ih

/-- **Stars.**  The tokens of a run of stars are pairs from the left. -/
theorem exists_starTokens {s u : Text} {n : Nat} {placed : List Placed}
    (h : tokenize (s ++ (List.replicate n '*' ++ u)) = .ok placed) (hn : 0 < n)
    (hs : s.getLast? ≠ some '*') (hu : u.head? ≠ some '*') :
    ∃ before after, placed = before ++ (starTokens s.size n ++ after)
      ∧ (∀ p ∈ before, p.stop ≤ s.size) ∧ ∀ p ∈ after, s.size + n ≤ p.offset := by
  have hrow : Row 0 (s ++ (List.replicate n '*' ++ u)) placed := tokenizeFrom_eq_ok_iff.mp h
  have hhead : (List.replicate n '*' ++ u).head? = some '*' := by
    obtain ⟨m, rfl⟩ := Nat.exists_eq_add_one.mpr hn
    rfl
  have hlast : (List.replicate n '*').getLast? = some '*' := by
    rw [List.getLast?_replicate, if_neg (Nat.pos_iff_ne_zero.mp hn)]
  have hsize : Text.size (List.replicate n '*') = n := by
    rw [(Text.size_eq_length_iff _).mpr fun c hc => ?_, List.length_replicate]
    rw [(List.mem_replicate.mp hc).2]
    rfl
  -- A star is no part of a number, so the run is parted from what is before and behind it.
  have hbegins : Parted s (List.replicate n '*' ++ u) := by
    intro c _ d hd _
    rw [hhead] at hd
    cases hd
    decide
  have hends : Parted (List.replicate n '*') u := by
    intro c hc _ _ hnumber
    rw [hlast] at hc
    cases hc
    exact absurd hnumber (by decide)
  obtain ⟨before, rest, rfl, hbefore, hrest⟩ :=
    hrow.cut_between hbegins fun hstar => absurd hstar hs
  obtain ⟨stars, after, rfl, hstars, hafter⟩ := hrest.cut_between hends fun _ => hu
  rw [Nat.zero_add] at hstars hafter
  obtain rfl : stars = starTokens s.size n := hstars.unique (row_stars s.size n)
  refine ⟨before, after, rfl, ?_, ?_⟩
  · intro p hp
    have hbound := (hbefore.bounds p hp).2
    omega
  · intro p hp
    have hbound := (hafter.bounds p hp).1
    omega

/-- **Blanks.**  Where no token is torn, blanks can be put in. -/
theorem tokenize_insert_blanks {s w u : Text} {placed : List Placed}
    (h : tokenize (s ++ u) = .ok placed) (hw : ∀ c ∈ w, isBlank c = true)
    (hplace : ∀ p ∈ placed, ¬ p.Encloses s.size) :
    ∃ placed', tokenize (s ++ (w ++ u)) = .ok placed'
      ∧ placed'.map Placed.token = placed.map Placed.token := by
  have hrow : Row 0 (s ++ u) placed := tokenizeFrom_eq_ok_iff.mp h
  by_cases hne : w = []
  · subst hne
    exact ⟨placed, h, rfl⟩
  · -- The tokens behind the place are moved, and the blanks part them from those before it.
    obtain ⟨before, after, rfl, hs, hu⟩ := hrow.cut (by rwa [Nat.zero_add])
    obtain ⟨after', hu', htokens⟩ := hu.moved (0 + s.size + w.size)
    have hblanks : Row (0 + s.size) (w ++ u) after' := hu'.blanks_append hw
    have hhead : ∀ c ∈ (w ++ u).head?, isBlank c = true := by
      obtain ⟨d, w, rfl⟩ := List.exists_cons_of_ne_nil hne
      intro c hc
      cases hc
      exact hw _ List.mem_cons_self
    refine ⟨before ++ after', tokenizeFrom_eq_ok_iff.mpr (hs.append_blank hblanks hhead), ?_⟩
    rw [List.map_append, List.map_append, htokens]

/-- **Tokens of a text.**  A text can be cut into tokens exactly if it is readable.  The tokens
    then tile the text without its blanks; the numbers are its runs of digits and dots, and the
    stars of a run are taken in pairs from the left.  Blanks that tear no number and no pair of
    stars change no token. -/
theorem tokenize_exact (t : Text) :
    ((∃ placed, tokenize t = .ok placed) ↔ Readable t)
    ∧ ∀ placed, tokenize t = .ok placed →
        Tiles t placed
        ∧ (∀ k run, ⟨k, .number run⟩ ∈ placed ↔ RunAt t k run)
        ∧ (∀ s n u, t = s ++ (List.replicate n '*' ++ u) → 0 < n → s.getLast? ≠ some '*' →
            u.head? ≠ some '*' →
            ∃ before after, placed = before ++ (starTokens s.size n ++ after)
              ∧ (∀ p ∈ before, p.stop ≤ s.size) ∧ ∀ p ∈ after, s.size + n ≤ p.offset)
        ∧ ∀ s w u, t = s ++ u → (∀ c ∈ w, isBlank c = true) →
            (∀ p ∈ placed, ¬ p.Encloses s.size) →
            ∃ placed', tokenize (s ++ (w ++ u)) = .ok placed'
              ∧ placed'.map Placed.token = placed.map Placed.token := by
  refine ⟨readable_iff t, ?_⟩
  intro placed h
  refine ⟨tiles_of_tokenize h, number_mem_iff h, ?_, ?_⟩
  · rintro s n u rfl hn hs hu
    exact exists_starTokens h hn hs hu
  · rintro s w u rfl hw hplace
    exact tokenize_insert_blanks h hw hplace

/-- Three stars behind a wide blank, and a blank put between the pair and the third. -/
theorem tokenize_exact_stars :
    Readable "1.5\u3000***.2".toList
    ∧ ∃ placed, tokenize "1.5\u3000**\u00a0*.2".toList = .ok placed
      ∧ placed.map Placed.token
        = [.number "1.5".toList, .doubleStar, .star, .number ".2".toList] := by
  obtain ⟨hreadable, hcut⟩ := tokenize_exact "1.5\u3000***.2".toList
  have htokens : tokenize "1.5\u3000***.2".toList = .ok [⟨0, .number "1.5".toList⟩,
      ⟨6, .doubleStar⟩, ⟨8, .star⟩, ⟨9, .number ".2".toList⟩] := by decide +kernel
  obtain ⟨-, -, -, hblanks⟩ := hcut _ htokens
  refine ⟨hreadable.mp ⟨_, htokens⟩, ?_⟩
  exact hblanks "1.5\u3000**".toList "\u00a0".toList "*.2".toList (by decide)
    (List.all_eq_true.mp (by decide)) (by decide)

end Sigil.Arithmetic
