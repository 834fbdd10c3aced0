import Sigil.Proofs.TextSpans
import Sigil.Proofs.Tokenization

/-! # Replacing references

    A reference is replaced together with its argument lists, so what these lists hold makes
    no difference.  What is left over is free of references.

    * `dropGroups_pair`, `dropGroups_open`: a group ends at the partner of its bracket, and a
      group without one goes on through the rest of the text.
    * `EndsInName`: the texts after which a `[` opens an argument list, unless it stands in
      one already.
    * `replaceReferences_arguments`: replacement does not depend on an argument list.
    * `TokenFree`: the texts in which no token starts.
    * `replaceReferences_leaves_no_token`: replacing once is enough. -/

namespace Sigil

/-! ## Groups -/

/-- A text inside a group moves on to the depth that it leaves open. -/
theorem splitGroup_append_of_depth {d e : Nat} {s : Text} (h : depthFrom? d s = some e)
    (t : Text) : (splitGroup (d + 1) (s ++ t)).2 = (splitGroup (e + 1) t).2 := by
  induction s generalizing d with
  | nil =>
    rw [depthFrom?_nil, Option.some.injEq] at h
    rw [h, List.nil_append]
  | cons c s ih =>
    rw [List.cons_append, splitGroup]
    rcases bracket_cases c with rfl | rfl | hc
    · rw [depthFrom?_opening] at h
      exact ih h
    · cases d with
      | zero => simp at h
      | succ d =>
        rw [depthFrom?_closing_succ] at h
        have hdeep : ¬ d + 1 + 1 ≤ 1 := by omega
        rw [if_neg (by decide), if_pos rfl, if_neg hdeep]
        exact ih h
    · have hne : c ≠ '[' ∧ c ≠ ']' := by simpa [isBracket] using hc
      rw [depthFrom?_plain hc] at h
      rw [if_neg hne.1, if_neg hne.2]
      exact ih h

/-- A pair inside a group is passed over. -/
theorem splitGroup_pair {a : Text} (ha : Balanced a) (d : Nat) (t : Text) :
    (splitGroup (d + 1) ('[' :: (a ++ ']' :: t))).2 = (splitGroup (d + 1) t).2 := by
  have hpair : Balanced ('[' :: (a ++ [']'])) := .pair ha .nil
  have hsplit := splitGroup_append_of_depth (hpair.depthFrom? d) t
  simpa using hsplit

theorem dropGroups_of_ne {c : Char} (h : c ≠ '[') (t : Text) : dropGroups (c :: t) = c :: t := by
  rw [dropGroups, if_neg h]

/-- A group whose text leaves `k` brackets open goes on after the text. -/
theorem dropGroups_open {k : Nat} {s : Text} (h : depthFrom? 0 s = some k) (t : Text) :
    dropGroups ('[' :: (s ++ t)) = dropGroups (splitGroup (k + 1) t).2 := by
  have hfirst : (splitGroup 0 ('[' :: (s ++ t))).2 = (splitGroup (0 + 1) (s ++ t)).2 := by
    rw [splitGroup, if_pos rfl]
  rw [dropGroups, if_pos rfl, hfirst, splitGroup_append_of_depth h]

/-- A closed group is dropped. -/
theorem dropGroups_pair {s : Text} (h : Balanced s) (t : Text) :
    dropGroups ('[' :: (s ++ ']' :: t)) = dropGroups t := by
  rw [dropGroups_open (h.depthFrom? 0)]
  rfl

/-! ## Texts that end in a name -/

/-- **Ends in a name.**  At the end of the text stand a sigil and identifier characters, at
    least one. -/
def EndsInName (t : Text) : Prop :=
  ∃ before c name, t = before ++ c :: name ∧ isSigil c = true ∧ name ≠ []
    ∧ ∀ d ∈ name, isIdentifierChar d = true

theorem EndsInName.prepend {t : Text} (h : EndsInName t) (s : Text) : EndsInName (s ++ t) := by
  obtain ⟨before, c, name, rfl, hc, hne, hname⟩ := h
  exact ⟨s ++ before, c, name, by rw [List.append_assoc], hc, hne, hname⟩

theorem EndsInName.ne_nil {t : Text} (h : EndsInName t) : t ≠ [] := by
  obtain ⟨before, c, name, rfl, -⟩ := h
  simp

/-- A token with an identifier character in it ends in a name. -/
theorem endsInName_of_splitToken? {t token rest : Text}
    (h : splitToken? t = some (token, rest)) (hname : ∃ c ∈ token, isIdentifierChar c = true) :
    EndsInName token := by
  obtain ⟨e, he, hident⟩ := hname
  have hall : ∀ tail : Text, ∀ d ∈ tail.takeWhile isIdentifierChar, isIdentifierChar d = true := by
    intro tail
    exact List.all_eq_true.mp List.all_takeWhile
  have hne : ∀ c, isSigil c = true → e ≠ c := by
    intro c hc heq
    rw [heq, not_isIdentifierChar_of_isSigil hc] at hident
    cases hident
  match t with
  | [] => simp [splitToken?] at h
  | [_] => simp [splitToken?] at h
  | c :: d :: tail =>
    simp only [splitToken?, splitIdentifier] at h
    split at h
    · next hc =>
      split at h
      · next hd =>
        cases h
        simp only [List.cons_append, List.nil_append, List.mem_cons, hne c hc, hne d hd,
          false_or] at he
        exact ⟨[c], d, _, rfl, hd, List.ne_nil_of_mem he, hall tail⟩
      · split at h
        · cases h
          simp only [List.cons_append, List.nil_append, List.mem_cons, hne c hc, false_or] at he
          exact ⟨[], c, _, rfl, hc, List.ne_nil_of_mem he, hall (d :: tail)⟩
        · cases h
    · cases h

/-- A sigil and a name are a token. -/
theorem splitToken?_name {c : Char} {name : Text} (hc : isSigil c = true) (hne : name ≠ [])
    (hname : ∀ d ∈ name, isIdentifierChar d = true) : splitToken? (c :: name) ≠ none := by
  obtain ⟨d, name, rfl⟩ := List.exists_cons_of_ne_nil hne
  have hd : isIdentifierChar d = true := hname d List.mem_cons_self
  intro hnone
  by_cases hs : isSigil d = true
  · simp [splitToken?, hc, hs] at hnone
  · simp [splitToken?, hc, hs, hd] at hnone

/-- A text that ends in a name is cut before the name, or inside it. -/
theorem EndsInName.cut {s t : Text} (h : EndsInName (s ++ t)) :
    EndsInName t ∨ (∀ d ∈ t, isIdentifierChar d = true)
      ∧ ∃ before c name, s = before ++ c :: name ∧ isSigil c = true
        ∧ ∀ d ∈ name, isIdentifierChar d = true := by
  obtain ⟨before, c, name, heq, hc, hne, hname⟩ := h
  rcases List.append_eq_append_iff.mp heq with ⟨left, hs, ht⟩ | ⟨left, hs, ht⟩
  · exact .inl ⟨left, c, name, ht, hc, hne, hname⟩
  · cases left with
    | nil => exact .inl ⟨[], c, name, ht.symm, hc, hne, hname⟩
    | cons first left =>
      obtain ⟨rfl, rfl⟩ := List.cons.inj ht
      refine .inr ⟨?_, before, c, left, hs, hc, ?_⟩
      · intro d hd
        exact hname d (List.mem_append_right _ hd)
      · intro d hd
        exact hname d (List.mem_append_left _ hd)

/-- A name does not reach back over a separator. -/
theorem EndsInName.of_separator {c : Char} (hc : isSeparator c = true) {s t : Text}
    (h : EndsInName (s ++ c :: t)) : EndsInName t := by
  rw [List.append_cons] at h
  rcases h.cut with ht | ⟨-, before, e, name, heq, he, hname⟩
  · exact ht
  · -- The separator would be the last character of a sigil and a name.
    exfalso
    have hlast : (e :: name).getLast? = some c := by
      have hsome := congrArg List.getLast? heq
      rw [List.getLast?_concat, List.getLast?_append] at hsome
      simpa [List.getLast?_cons] using hsome.symm
    simp only [isSeparator, Bool.and_eq_true, Bool.not_eq_true'] at hc
    rcases List.mem_cons.mp (List.mem_of_getLast? hlast) with rfl | hmem
    · rw [hc.1] at he
      cases he
    · rw [hname c hmem] at hc
      cases hc.2

/-- A token takes all identifier characters that follow it. -/
theorem head_of_splitToken? {t token rest : Text} (h : splitToken? t = some (token, rest)) :
    ∀ d ∈ rest.head?, isIdentifierChar d = false := by
  have hstop : ∀ tail : Text, ∀ d ∈ (tail.dropWhile isIdentifierChar).head?,
      isIdentifierChar d = false := by
    intro tail d hd
    have hhead := List.head?_dropWhile_not isIdentifierChar tail
    rw [Option.mem_def.mp hd] at hhead
    simpa using hhead
  match t with
  | [] => simp [splitToken?] at h
  | [_] => simp [splitToken?] at h
  | c :: d :: tail =>
    simp only [splitToken?, splitIdentifier] at h
    split at h
    · split at h
      · cases h
        exact hstop tail
      · split at h
        · cases h
          exact hstop (d :: tail)
        · cases h
    · cases h

/-- What follows a token that a text starts with is not the end of the same name. -/
theorem EndsInName.of_splitToken? {t token rest : Text} (h : EndsInName t)
    (hs : splitToken? t = some (token, rest)) : rest = [] ∨ EndsInName rest := by
  have heq := append_of_splitToken? hs
  rw [← heq] at h
  rcases h.cut with hrest | ⟨hall, -⟩
  · exact .inr hrest
  · -- The token takes all identifier characters that follow.
    left
    cases rest with
    | nil => rfl
    | cons d rest =>
      have hd := hall d List.mem_cons_self
      have hstop := head_of_splitToken? hs d rfl
      rw [hd] at hstop
      cases hstop

theorem not_isBlank_of_isSigil {c : Char} (h : isSigil c = true) : isBlank c = false := by
  simp only [isSigil, Bool.or_eq_true, beq_iff_eq] at h
  rcases h with rfl | rfl <;> decide

/-! ## Argument lists -/

/-- Trimming leaves an argument list and the name before it. -/
theorem EndsInName.trim_arguments {s : Text} (h : EndsInName s) (t : Text) :
    ∃ before after, EndsInName before ∧ ∀ a, Text.trim (s ++ '[' :: (a ++ ']' :: t))
      = before ++ '[' :: (a ++ ']' :: after) := by
  obtain ⟨before, c, name, rfl, hc, hne, hname⟩ := h
  refine ⟨Text.trimStart before ++ c :: name, Text.trimEnd t, ⟨_, c, name, rfl, hc, hne, hname⟩, ?_⟩
  intro a
  have htrim := Text.trim_between (not_isBlank_of_isSigil hc) (d := ']') (by decide) before
    (name ++ '[' :: a) t
  simp only [List.append_assoc, List.cons_append] at htrim ⊢
  exact htrim

/-- **Argument lists after a name.**  When the groups at the start of a text are dropped, an
    argument list after a name is dropped with them, or it stays where it is. -/
theorem dropGroups_arguments {s : Text} (hs : s = [] ∨ EndsInName s) (t : Text) :
    (∃ u, ∀ a, Balanced a → dropGroups (s ++ '[' :: (a ++ ']' :: t)) = u)
      ∨ ∃ u, EndsInName u ∧ u.length ≤ s.length
        ∧ ∀ a, Balanced a →
          dropGroups (s ++ '[' :: (a ++ ']' :: t)) = u ++ '[' :: (a ++ ']' :: t) := by
  -- Each closed group before the name leaves a shorter text.
  induction hlength : s.length using Nat.strongRecOn generalizing s with
  | _ length ih =>
    subst hlength
    cases s with
    | nil => exact .inl ⟨dropGroups t, fun a ha => dropGroups_pair ha t⟩
    | cons c s =>
      have hname : EndsInName (c :: s) := hs.resolve_left (by simp)
      by_cases hc : c = '['
      · subst hc
        cases hdepth : depthFrom? 0 s with
        | some k =>
          -- The name stands in a group that is still open, and so does its argument list.
          refine .inl ⟨dropGroups (splitGroup (k + 1) t).2, ?_⟩
          intro a ha
          rw [List.cons_append, dropGroups_open hdepth, splitGroup_pair ha]
        | none =>
          obtain ⟨group, rest, rfl, hgroup⟩ := depthFrom?_eq_none_iff.mp hdepth
          have hrest : EndsInName rest := by
            apply EndsInName.of_separator (c := ']') (s := '[' :: group) (by decide)
            exact hname
          have hdrop : ∀ u, dropGroups ('[' :: (group ++ ']' :: rest) ++ u)
              = dropGroups (rest ++ u) := by
            intro u
            rw [List.cons_append, List.append_assoc, List.cons_append]
            exact dropGroups_pair (balanced_iff.mpr hgroup) _
          have hshorter : rest.length < ('[' :: (group ++ ']' :: rest)).length := by
            simp only [List.length_cons, List.length_append]
            omega
          simp only [hdrop]
          rcases ih rest.length hshorter (.inr hrest) rfl with hgone | ⟨u, hu, hle, hstays⟩
          · exact .inl hgone
          · exact .inr ⟨u, hu, by omega, hstays⟩
      · refine .inr ⟨c :: s, hname, Nat.le_refl _, ?_⟩
        intro a _
        exact dropGroups_of_ne hc _

/-! ## Replacement -/

theorem replaceReferences_of_some {t token rest : Text} (h : splitToken? t = some (token, rest))
    (replacement : Text) : replaceReferences replacement t
      = replacement ++ replaceReferences replacement (dropGroups rest) := by
  rw [replaceReferences]
  split
  · next first after h' =>
    rw [h] at h'
    cases h'
    rfl
  · next h' =>
    rw [h] at h'
    cases h'

theorem replaceReferences_of_none {c : Char} {t : Text} (h : splitToken? (c :: t) = none)
    (replacement : Text) : replaceReferences replacement (c :: t)
      = c :: replaceReferences replacement t := by
  rw [replaceReferences]
  split
  · next first after h' =>
    rw [h] at h'
    cases h'
  · rfl

/-- **Arguments do not matter.**  Whatever stands in the argument list of a reference, the
    text without references is the same. -/
theorem replaceReferences_arguments {s a b : Text} (hs : EndsInName s) (ha : Balanced a)
    (hb : Balanced b) (replacement t : Text) :
    replaceReferences replacement (s ++ '[' :: (a ++ ']' :: t))
      = replaceReferences replacement (s ++ '[' :: (b ++ ']' :: t)) := by
  induction hlength : s.length using Nat.strongRecOn generalizing s with
  | _ length ih =>
    subst hlength
    -- No token reaches over the bracket, so the tokens are those of the text before it.
    have hbracket : ∀ (u : Text), ∀ c ∈ ('[' :: u).head?, isSeparator c = true := by
      intro u c hc
      rw [← Option.mem_some_iff.mp hc]
      decide
    cases htoken : splitToken? s with
    | some parts =>
      obtain ⟨token, rest⟩ := parts
      have hshort := length_lt_of_splitToken? htoken
      have hsome : ∀ u, splitToken? (s ++ '[' :: u) = some (token, rest ++ '[' :: u) := by
        intro u
        rw [splitToken?_append hs.ne_nil (hbracket u), htoken]
        rfl
      rw [replaceReferences_of_some (hsome _), replaceReferences_of_some (hsome _)]
      congr 1
      rcases dropGroups_arguments (hs.of_splitToken? htoken) t with
        ⟨u, hgone⟩ | ⟨u, hu, hle, hstays⟩
      · rw [hgone a ha, hgone b hb]
      · rw [hstays a ha, hstays b hb]
        exact ih u.length (by omega) hu rfl
    | none =>
      obtain ⟨c, rest, rfl⟩ := List.exists_cons_of_ne_nil hs.ne_nil
      have hnone : ∀ u, splitToken? (c :: (rest ++ '[' :: u)) = none := by
        intro u
        rw [← List.cons_append, splitToken?_append hs.ne_nil (hbracket u), htoken]
        rfl
      have hrest : EndsInName rest := by
        obtain ⟨before, d, name, heq, hd, hne, hname⟩ := hs
        cases before with
        | nil =>
          rw [heq] at htoken
          exact absurd htoken (splitToken?_name hd hne hname)
        | cons first before =>
          obtain ⟨-, rfl⟩ := List.cons.inj heq
          exact ⟨before, d, name, rfl, hd, hne, hname⟩
      rw [List.cons_append, List.cons_append, replaceReferences_of_none (hnone _),
        replaceReferences_of_none (hnone _)]
      congr 1
      exact ih rest.length (by simp) hrest rfl

/-! ## Texts without references -/

/-- **Free of tokens.**  At no place in the text does a token start. -/
def TokenFree (t : Text) : Prop :=
  ∀ before after, t = before ++ after → token? after = none

theorem token?_eq_none_iff {t : Text} : token? t = none ↔ splitToken? t = none :=
  Option.map_eq_none_iff

theorem tokenFree_nil : TokenFree [] := by
  intro before after h
  obtain ⟨-, rfl⟩ := List.append_eq_nil_iff.mp h.symm
  rfl

theorem tokenFree_cons_iff {c : Char} {t : Text} :
    TokenFree (c :: t) ↔ splitToken? (c :: t) = none ∧ TokenFree t := by
  constructor
  · intro h
    refine ⟨token?_eq_none_iff.mp (h [] (c :: t) rfl), ?_⟩
    intro before after ht
    exact h (c :: before) after (by rw [ht, List.cons_append])
  · intro h before after heq
    obtain ⟨hc, ht⟩ := h
    cases before with
    | nil =>
      rw [List.nil_append] at heq
      rw [← heq]
      exact token?_eq_none_iff.mpr hc
    | cons d before => exact ht before after (List.cons.inj heq).2

instance TokenFree.decidable : (t : Text) → Decidable (TokenFree t)
  | [] => .isTrue tokenFree_nil
  | c :: t =>
    have := TokenFree.decidable t
    decidable_of_iff (splitToken? (c :: t) = none ∧ TokenFree t) tokenFree_cons_iff.symm

/-- No token starts among characters that are no sigils. -/
theorem TokenFree.prepend {s t : Text} (hs : ∀ c ∈ s, isSigil c = false) (ht : TokenFree t) :
    TokenFree (s ++ t) := by
  induction s with
  | nil => exact ht
  | cons c s ih =>
    have hc := splitToken?_of_not_isSigil (hs c List.mem_cons_self) (s ++ t)
    exact tokenFree_cons_iff.mpr ⟨hc, ih fun d hd => hs d (List.mem_cons_of_mem c hd)⟩

/-- A sigil that starts no token stands at the end of the text or before a separator. -/
theorem isSeparator_of_lone_sigil {c d : Char} {t : Text} (hc : isSigil c = true)
    (h : splitToken? (c :: d :: t) = none) : isSeparator d = true := by
  by_cases hs : isSigil d = true
  · simp [splitToken?, hc, hs] at h
  · by_cases hi : isIdentifierChar d = true
    · simp [splitToken?, hc, hs, hi] at h
    · simp [isSeparator, hs, hi]

/-- **Replacement is complete.**  A sigil is kept only before a separator, which is kept too,
    so what is kept never comes together to a new token. -/
theorem tokenFree_replaceReferences {replacement : Text}
    (h : ∀ c ∈ replacement, isSigil c = false) (t : Text) :
    TokenFree (replaceReferences replacement t) := by
  fun_induction replaceReferences replacement t with
  | case1 t token rest _ ih => exact ih.prepend h
  | case2 => exact tokenFree_nil
  | case3 c rest hnone ih =>
    refine tokenFree_cons_iff.mpr ⟨?_, ih⟩
    by_cases hc : isSigil c = true
    · cases rest with
      | nil =>
        rw [replaceReferences]
        rfl
      | cons d rest =>
        have hd := isSeparator_of_lone_sigil hc hnone
        rw [replaceReferences_of_none (splitToken?_separator hd rest)]
        simp only [isSeparator, Bool.and_eq_true, Bool.not_eq_true'] at hd
        simp [splitToken?, hd.1, hd.2]
    · exact splitToken?_of_not_isSigil (Bool.eq_false_iff.mpr hc) _

/-- Without tokens there is nothing to replace. -/
theorem replaceReferences_of_tokenFree {t : Text} (h : TokenFree t) (replacement : Text) :
    replaceReferences replacement t = t := by
  induction t with
  | nil => rw [replaceReferences]; rfl
  | cons c t ih =>
    obtain ⟨hc, ht⟩ := tokenFree_cons_iff.mp h
    rw [replaceReferences_of_none hc, ih ht]

/-- **Replacing once is enough.**  When the replacement holds no sigil, no token is left at any
    place, and replacing again changes nothing, whatever the references are replaced by then.
    What holds no token is returned as it is. -/
theorem replaceReferences_leaves_no_token {replacement : Text}
    (h : ∀ c ∈ replacement, isSigil c = false) (t : Text) :
    TokenFree (replaceReferences replacement t)
      ∧ (∀ again, replaceReferences again (replaceReferences replacement t)
          = replaceReferences replacement t)
      ∧ ∀ again u, TokenFree u → replaceReferences again u = u := by
  have hfree := tokenFree_replaceReferences h t
  refine ⟨hfree, ?_, ?_⟩
  · intro again
    exact replaceReferences_of_tokenFree hfree again
  · intro again u hu
    exact replaceReferences_of_tokenFree hu again

/-- The replacement comes to stand after sigils and before sigils and could be the name of each. -/
theorem replaceReferences_leaves_no_token_adjacent :
    (∀ c ∈ "name".toList, isSigil c = false)
      ∧ replaceReferences "name".toList "$ $&user[a[]][$b]$$&é$[&".toList
        = "$ namename&é$[&".toList
      ∧ TokenFree (replaceReferences "name".toList "$ $&user[a[]][$b]$$&é$[&".toList)
      ∧ (∀ again, replaceReferences again
            (replaceReferences "name".toList "$ $&user[a[]][$b]$$&é$[&".toList)
          = replaceReferences "name".toList "$ $&user[a[]][$b]$$&é$[&".toList)
      ∧ TokenFree "5 $ &".toList
      ∧ replaceReferences "$&".toList "5 $ &".toList = "5 $ &".toList := by
  have hname : ∀ c ∈ "name".toList, isSigil c = false := by
    have hall : ("name".toList.all fun c => !isSigil c) = true := by decide
    intro c hc
    simpa using List.all_eq_true.mp hall c hc
  have hfree : TokenFree "5 $ &".toList := by decide
  obtain ⟨hleft, hagain, hsame⟩ :=
    replaceReferences_leaves_no_token hname "$ $&user[a[]][$b]$$&é$[&".toList
  exact ⟨hname, by decide +kernel, hleft, hagain, hfree, hsame _ _ hfree⟩

end Sigil
