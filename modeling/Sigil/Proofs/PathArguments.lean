import Sigil.Argument.Check
import Sigil.Proofs.ArgumentLists
import Sigil.Proofs.References

/-! # Paths with references in them

    What a reference in a path stands for is not known, and its arguments are no part of the
    path.  But an address is told by its scheme before the references are replaced, so a
    scheme in the arguments of a reference makes an address of the whole path.

    * `unquote_arguments`: an argument list stays an argument list when quotes are removed.
    * `HasScheme`: the texts that are taken for addresses.
    * `pathProblem?_arguments`: what the arguments of a reference can change.
    * `pathKinds`: the path problems among the findings.
    * `path_verdict_iff_scheme`: when two lists of arguments lead to the same verdict.
    * `parent_directory_hidden_by_scheme`: a verdict that does depend on them. -/

namespace Sigil.Argument

/-! ## Quotes -/

/-- The characters that are written around a path. -/
def isQuote (c : Char) : Bool :=
  c == '"' || c == Char.ofNat 0x27

theorem unquote_quoted {quote : Char} (h : isQuote quote = true) (t : Text) :
    unquote (quote :: (t ++ [quote])) = t := by
  have hends : (quote :: (t ++ [quote])).getLast? = some quote := by
    rw [← List.cons_append, List.getLast?_concat]
  simp only [isQuote, Bool.or_eq_true, beq_iff_eq] at h
  unfold unquote
  rw [if_pos]
  · simp
  · rw [hends]
    rcases h with rfl | rfl <;> simp

theorem unquote_of_not_quoted {t : Text}
    (h : ∀ quote m, isQuote quote = true → t ≠ quote :: (m ++ [quote])) : unquote t = t := by
  unfold unquote
  rw [if_neg]
  intro hquoted
  have hends : ∃ quote, isQuote quote = true ∧ 2 ≤ t.length ∧ t.head? = some quote
      ∧ t.getLast? = some quote := by
    simp only [Bool.or_eq_true, Bool.and_eq_true, decide_eq_true_eq, beq_iff_eq] at hquoted
    rcases hquoted with ⟨⟨hlength, hhead⟩, hlast⟩ | ⟨⟨hlength, hhead⟩, hlast⟩
    · exact ⟨_, by decide, hlength, hhead, hlast⟩
    · exact ⟨_, by decide, hlength, hhead, hlast⟩
  obtain ⟨quote, hquote, hlength, hhead, hlast⟩ := hends
  obtain ⟨init, rfl⟩ := List.getLast?_eq_some_iff.mp hlast
  cases init with
  | nil => simp at hlength
  | cons d m =>
    rw [List.cons_append, List.head?_cons, Option.some.injEq] at hhead
    subst hhead
    exact h d m hquote rfl

/-- Quotes are removed around an argument list, and what stands before it still ends in a
    name. -/
theorem unquote_arguments {s : Text} (h : EndsInName s) (t : Text) :
    ∃ before after, EndsInName before ∧ ∀ a, unquote (s ++ '[' :: (a ++ ']' :: t))
      = before ++ '[' :: (a ++ ']' :: after) := by
  by_cases hquoted : ∃ quote before after, isQuote quote = true ∧ s = quote :: before
      ∧ t = after ++ [quote]
  · obtain ⟨quote, before, after, hquote, rfl, rfl⟩ := hquoted
    have hbefore : EndsInName before := by
      refine EndsInName.of_separator (c := quote) (s := []) ?_ h
      simp only [isQuote, Bool.or_eq_true, beq_iff_eq] at hquote
      rcases hquote with rfl | rfl <;> decide
    refine ⟨before, after, hbefore, ?_⟩
    intro a
    have hunquote := unquote_quoted hquote (before ++ '[' :: (a ++ ']' :: after))
    simpa using hunquote
  · refine ⟨s, t, h, ?_⟩
    intro a
    apply unquote_of_not_quoted
    intro quote m hquote heq
    -- The first quote would stand before the name and the second one behind the list.
    apply hquoted
    obtain ⟨d, before, rfl⟩ := List.exists_cons_of_ne_nil h.ne_nil
    rw [List.cons_append, List.cons.injEq] at heq
    obtain ⟨rfl, heq⟩ := heq
    have hlast : (']' :: t).getLast? = some d := by
      have hends := congrArg List.getLast? heq
      rw [List.getLast?_concat, List.getLast?_append_of_ne_nil _ (by simp), ← List.cons_append,
        List.getLast?_append_of_ne_nil _ (by simp)] at hends
      exact hends
    obtain ⟨init, hinit⟩ := List.getLast?_eq_some_iff.mp hlast
    cases init with
    | nil =>
      cases hinit
      cases hquote
    | cons e after => exact ⟨d, before, after, hquote, rfl, (List.cons.inj hinit).2⟩

/-! ## References in a path -/

/-- The mark of an address with a scheme occurs in the text. -/
def HasScheme (t : Text) : Prop :=
  "://".toList <:+: t

instance (t : Text) : Decidable (HasScheme t) :=
  decidable_of_iff (Text.contains "://".toList t = true) Text.contains_iff

theorem contains_iff_hasScheme {t : Text} : Text.contains "://".toList t = true ↔ HasScheme t :=
  Text.contains_iff

/-- **What a path problem depends on.**  Of the arguments of a reference it matters only
    whether an address with a scheme is among them. -/
theorem pathProblem?_arguments {s a : Text} (hs : EndsInName s) (ha : Balanced a) (t : Text) :
    pathProblem? (Text.trim (s ++ '[' :: (a ++ ']' :: t)))
      = if HasScheme a then none
        else pathProblem? (Text.trim (s ++ '[' :: ([] ++ ']' :: t))) := by
  obtain ⟨first, last, hfirst, htrim⟩ := hs.trim_arguments t
  obtain ⟨before, after, hbefore, hunquote⟩ := unquote_arguments hfirst last
  -- The scheme is looked for before the references are replaced.
  have hscheme : ∀ u : Text, Text.contains "://".toList (before ++ '[' :: (u ++ ']' :: after))
      = (Text.contains "://".toList before
        || (Text.contains "://".toList u || Text.contains "://".toList after)) := by
    intro u
    rw [Text.contains_append_cons (by decide), Text.contains_append_cons (by decide)]
  have hreplace := replaceReferences_arguments hbefore ha Balanced.nil "placeholder".toList after
  unfold pathProblem?
  dsimp only
  rw [htrim, htrim, hunquote, hunquote, hscheme, hscheme, hreplace]
  by_cases haddress : HasScheme a
  · rw [if_pos haddress, contains_iff_hasScheme.mpr haddress, Bool.true_or, Bool.or_true,
      if_pos rfl]
  · -- Without a scheme, the arguments are like an empty list of them.
    rw [if_neg haddress, Bool.eq_false_iff.mpr (mt contains_iff_hasScheme.mp haddress)]
    rfl

/-- The text outside brackets does not depend on the arguments of a reference. -/
theorem outside_reference {pre token a : Text} (hpre : Balanced pre)
    (htoken : token? token = some token) (ha : Balanced a) (post : Text) :
    outside 0 (pre ++ token ++ '[' :: (a ++ ']' :: post))
      = outside 0 pre ++ (token ++ outside 0 post) := by
  have hbrackets := isBracket_of_token? htoken
  have hdepth := (balanced_of_forall hbrackets).depthFrom? 0
  rw [List.append_assoc, outside_append (hpre.depthFrom? 0), outside_append hdepth,
    outside_of_forall hbrackets, if_pos rfl, outside_group ha]

/-! ## Path findings -/

/-- The problems of paths. -/
def isPathProblem : Problem → Bool
  | .parentDirectoryPath | .invalidPathCharacters => true
  | _ => false

/-- The kinds of problem that are found in paths. -/
def pathKinds (findings : List Finding) : List Problem :=
  (findings.map Finding.problem).filter isPathProblem

theorem isPathProblem_of_pathProblem? {t : Text} {problem : Problem}
    (h : pathProblem? t = some problem) : isPathProblem problem = true := by
  unfold pathProblem? at h
  dsimp only at h
  split at h
  · cases h
  · split at h
    · cases h
      rfl
    · split at h
      · cases h
        rfl
      · cases h

/-- A pattern is not the first argument. -/
theorem regex?_singleton (owner : Text) (a : Argument) : regex? owner [a] = none := by
  unfold regex?
  split
  · rfl
  · split
    · rfl
    · rfl

/-- A list of one argument is a path and nothing else. -/
theorem pathKinds_check {owner content : Text} (howner : owner ∈ fileVariables)
    (h : ',' ∉ outside 0 content) :
    pathKinds (check owner content) = (pathProblem? content.trim).toList := by
  have hsplit : split content = [ofPiece 0 content] := by
    rw [split, splitCommas_of_not_mem h]
    rfl
  have hpath : path? owner [ofPiece 0 content] = some (ofPiece 0 content) := by
    rw [path?, if_pos (List.contains_iff_mem.mpr howner)]
    rfl
  have htext : (ofPiece 0 content).text = content.trim := rfl
  unfold check
  dsimp only
  rw [hsplit, hpath, regex?_singleton, Option.bind_some, checkPath, htext]
  cases hproblem : pathProblem? content.trim with
  | none => rfl
  | some problem => simp [pathKinds, isPathProblem_of_pathProblem? hproblem]

section Arguments

variable {owner pre token a b post : Text}

theorem pathKinds_arguments (howner : owner ∈ fileVariables) (hpre : Balanced pre)
    (hcommaPre : ',' ∉ outside 0 pre) (hcommaPost : ',' ∉ outside 0 post)
    (htoken : token? token = some token) (hname : ∃ c ∈ token, isIdentifierChar c = true)
    (ha : Balanced a) :
    pathKinds (check owner (pre ++ token ++ '[' :: (a ++ ']' :: post)))
      = if HasScheme a then []
        else pathKinds (check owner (pre ++ token ++ '[' :: ([] ++ ']' :: post))) := by
  have hsplit := splitToken?_of_token? htoken
  have hends := (endsInName_of_splitToken? hsplit hname).prepend pre
  have hcommaToken : ',' ∉ token := by
    intro hmem
    have hseparator := not_isSeparator_of_splitToken? hsplit ',' hmem
    cases hseparator
  -- Whatever the arguments of the reference are, the list is one path.
  have hcomma : ∀ u, Balanced u →
      ',' ∉ outside 0 (pre ++ token ++ '[' :: (u ++ ']' :: post)) := by
    intro u hu
    rw [outside_reference hpre htoken hu]
    simp [hcommaPre, hcommaToken, hcommaPost]
  rw [pathKinds_check howner (hcomma a ha), pathKinds_check howner (hcomma [] .nil),
    pathProblem?_arguments hends ha]
  split <;> rfl

/-- **Addresses hide paths.**  In a path, the arguments of a reference are not looked at, unless
    an address with a scheme is written in them.  Then nothing is found, so two lists of
    arguments lead to the same verdict exactly if both have such an address, or neither has,
    or the path is harmless without them. -/
theorem path_verdict_iff_scheme (howner : owner ∈ fileVariables) (hpre : Balanced pre)
    (hcommaPre : ',' ∉ outside 0 pre) (hcommaPost : ',' ∉ outside 0 post)
    (htoken : token? token = some token) (hname : ∃ c ∈ token, isIdentifierChar c = true)
    (ha : Balanced a) (hb : Balanced b) :
    pathKinds (check owner (pre ++ token ++ '[' :: (a ++ ']' :: post)))
        = (if HasScheme a then []
          else pathKinds (check owner (pre ++ token ++ '[' :: ([] ++ ']' :: post))))
      ∧ (pathKinds (check owner (pre ++ token ++ '[' :: (a ++ ']' :: post)))
            = pathKinds (check owner (pre ++ token ++ '[' :: (b ++ ']' :: post)))
          ↔ (HasScheme a ↔ HasScheme b)
            ∨ pathKinds (check owner (pre ++ token ++ '[' :: ([] ++ ']' :: post))) = []) := by
  have hfirst := pathKinds_arguments howner hpre hcommaPre hcommaPost htoken hname ha
  have hsecond := pathKinds_arguments howner hpre hcommaPre hcommaPost htoken hname hb
  refine ⟨hfirst, ?_⟩
  rw [hfirst, hsecond]
  generalize pathKinds (check owner (pre ++ token ++ '[' :: ([] ++ ']' :: post))) = kinds
  by_cases haddress : HasScheme a
  · by_cases hother : HasScheme b
    · simp [haddress, hother]
    · simp [haddress, hother, eq_comm]
  · by_cases hother : HasScheme b
    · simp [haddress, hother]
    · simp [haddress, hother]

end Arguments

/-- The path is quoted, a comma stands in a group, and the sigil before the token becomes a part
    of it. -/
theorem path_verdict_iff_scheme_quoted :
    "$filesInDirectory".toList ∈ fileVariables ∧ Balanced " \"c:$list[é, 1]$".toList
      ∧ ',' ∉ outside 0 " \"c:$list[é, 1]$".toList ∧ ',' ∉ outside 0 "/*.log\"".toList
      ∧ token? "&user".toList = some "&user".toList
      ∧ (∃ c ∈ "&user".toList, isIdentifierChar c = true)
      ∧ Balanced "..:, [<$path[]>]".toList ∧ Balanced "0".toList
      ∧ pathKinds (check "$filesInDirectory".toList (" \"c:$list[é, 1]$".toList ++ "&user".toList
            ++ '[' :: ("..:, [<$path[]>]".toList ++ ']' :: "/*.log\"".toList)))
        = [.invalidPathCharacters]
      ∧ pathKinds (check "$filesInDirectory".toList (" \"c:$list[é, 1]$".toList ++ "&user".toList
            ++ '[' :: ("..:, [<$path[]>]".toList ++ ']' :: "/*.log\"".toList)))
        = pathKinds (check "$filesInDirectory".toList (" \"c:$list[é, 1]$".toList
            ++ "&user".toList ++ '[' :: ("0".toList ++ ']' :: "/*.log\"".toList))) := by
  have howner : "$filesInDirectory".toList ∈ fileVariables := by decide
  have hpre : Balanced " \"c:$list[é, 1]$".toList := by decide
  have hcommaPre : ',' ∉ outside 0 " \"c:$list[é, 1]$".toList := by decide
  have hcommaPost : ',' ∉ outside 0 "/*.log\"".toList := by decide
  have htoken : token? "&user".toList = some "&user".toList := by decide
  have hname : ∃ c ∈ "&user".toList, isIdentifierChar c = true := ⟨'u', by decide, by decide⟩
  have ha : Balanced "..:, [<$path[]>]".toList := by decide
  have hb : Balanced "0".toList := by decide
  have hverdict := path_verdict_iff_scheme howner hpre hcommaPre hcommaPost htoken hname ha hb
  have hschemes : HasScheme "..:, [<$path[]>]".toList ↔ HasScheme "0".toList := by decide
  exact ⟨howner, hpre, hcommaPre, hcommaPost, htoken, hname, ha, hb, by decide +kernel,
    hverdict.2.mpr (.inl hschemes)⟩

/-- The path leaves its directory, whatever the reference stands for, and this is found unless
    an address is written in the arguments of the reference. -/
theorem parent_directory_hidden_by_scheme :
    "$readFile".toList ∈ fileVariables ∧ Balanced "../".toList ∧ ',' ∉ outside 0 "../".toList
      ∧ token? "$user".toList = some "$user".toList
      ∧ (∃ c ∈ "$user".toList, isIdentifierChar c = true)
      ∧ Balanced "http://x".toList ∧ Balanced "x".toList
      ∧ pathKinds (check "$readFile".toList
            ("../".toList ++ "$user".toList ++ '[' :: ("http://x".toList ++ ']' :: []))) = []
      ∧ pathKinds (check "$readFile".toList
            ("../".toList ++ "$user".toList ++ '[' :: ("x".toList ++ ']' :: [])))
        = [.parentDirectoryPath] := by
  have hname : ∃ c ∈ "$user".toList, isIdentifierChar c = true := ⟨'u', by decide, by decide⟩
  exact ⟨by decide, by decide, by decide, by decide, hname, by decide, by decide,
    by decide +kernel, by decide +kernel⟩

end Sigil.Argument
