import Sigil.Arithmetic.Content
import Sigil.Proofs.References

/-! # References in arithmetic

    Inside the brackets of an arithmetic variable a reference stands for a number, and the
    verdict on the content does not depend on the reference's arguments.  Quotes are removed
    before references are looked for, so the pieces of the content may come together in new
    ways; that the content before an argument list ends in a name is kept all along.

    * `normalize_arguments`: an argument list stays an argument list.
    * `checkContent_arguments`: the verdict and the width of its finding. -/

namespace Sigil

/-! ## Quotes -/

namespace Arithmetic

/-- The characters that are left when quotes are removed. -/
def isUnquoted (c : Char) : Bool :=
  c != '"' && c != Char.ofNat 0x27

theorem isUnquoted_of_not_isSeparator {c : Char} (h : isSeparator c = false) :
    isUnquoted c = true := by
  have hdouble : c ≠ '"' := by
    intro heq
    rw [heq] at h
    exact absurd h (by decide)
  have hsingle : c ≠ Char.ofNat 0x27 := by
    intro heq
    rw [heq] at h
    exact absurd h (by decide)
  simp [isUnquoted, hdouble, hsingle]

/-- Removing quotes leaves names as they are. -/
theorem endsInName_unquoted {s : Text} (h : EndsInName s) : EndsInName (s.filter isUnquoted) := by
  obtain ⟨before, c, name, rfl, hc, hne, hname⟩ := h
  have hsigil : isUnquoted c = true := by
    apply isUnquoted_of_not_isSeparator
    simp [isSeparator, hc]
  have hkept : name.filter isUnquoted = name := by
    rw [List.filter_eq_self]
    intro d hd
    apply isUnquoted_of_not_isSeparator
    simp [isSeparator, hname d hd]
  refine ⟨before.filter isUnquoted, c, name, ?_, hc, hne, hname⟩
  rw [List.filter_append, List.filter_cons_of_pos hsigil, hkept]

/-- Removing quotes leaves brackets as they are. -/
theorem balanced_unquoted {a : Text} (h : Balanced a) : Balanced (a.filter isUnquoted) := by
  have hsame : (a.filter isUnquoted).filter isBracket = a.filter isBracket := by
    rw [List.filter_filter]
    apply List.filter_congr
    intro c _
    rcases bracket_cases c with rfl | rfl | hc
    · decide
    · decide
    · simp [hc]
  rw [← balanced_filter_iff, hsame, balanced_filter_iff]
  exact h

/-! ## The verdict -/

/-- **Argument lists stay.**  Quotes and outer blanks are removed around an argument list and
    in it, and what stands before it still ends in a name. -/
theorem normalize_arguments {s : Text} (h : EndsInName s) (t : Text) :
    ∃ before after, EndsInName before ∧ ∀ a, normalize (s ++ '[' :: (a ++ ']' :: t))
      = before ++ '[' :: (a.filter isUnquoted ++ ']' :: after) := by
  obtain ⟨before, after, hbefore, htrim⟩ :=
    (endsInName_unquoted h).trim_arguments (t.filter isUnquoted)
  refine ⟨before, after, hbefore, ?_⟩
  intro a
  show Text.trim ((s ++ '[' :: (a ++ ']' :: t)).filter isUnquoted) = _
  rw [List.filter_append, List.filter_cons_of_pos (by decide), List.filter_append,
    List.filter_cons_of_pos (by decide), htrim]

/-- No sigil occurs in a time format. -/
theorem isTimeFormat_of_endsInName {s : Text} (h : EndsInName s) (t : Text) :
    isTimeFormat (s ++ t) = false := by
  obtain ⟨before, c, name, rfl, hc, -, -⟩ := h
  have hsigil : ("Hhms:".toList.contains c || isBlank c) = false := by
    simp only [isSigil, Bool.or_eq_true, beq_iff_eq] at hc
    rcases hc with rfl | rfl <;> decide
  have hall : (before ++ c :: name ++ t).all
      (fun d => "Hhms:".toList.contains d || isBlank d) = false := by
    rw [List.all_eq_false]
    exact ⟨c, by simp, by rw [hsigil]; exact Bool.false_ne_true⟩
  rw [isTimeFormat, hall, Bool.and_false]

/-- The arguments of a reference do not influence what is wrong with a content. -/
theorem contentProblem?_arguments {s a b : Text} (hs : EndsInName s) (ha : Balanced a)
    (hb : Balanced b) (t : Text) : contentProblem? (s ++ '[' :: (a ++ ']' :: t))
      = contentProblem? (s ++ '[' :: (b ++ ']' :: t)) := by
  obtain ⟨before, after, hbefore, hnormal⟩ := normalize_arguments hs t
  have htime : ∀ u, isTimeFormat (normalize (s ++ '[' :: (u ++ ']' :: t))) = false := by
    intro u
    rw [hnormal]
    exact isTimeFormat_of_endsInName hbefore _
  have hsanitize : sanitize (normalize (s ++ '[' :: (a ++ ']' :: t)))
      = sanitize (normalize (s ++ '[' :: (b ++ ']' :: t))) := by
    unfold sanitize
    rw [hnormal, hnormal, replaceReferences_arguments hbefore (balanced_unquoted ha)
      (balanced_unquoted hb)]
  unfold contentProblem?
  simp only [htime, hsanitize]

/-- **References in arithmetic.**  Whatever stands in the argument list of a reference, the
    same problems are found in a content; only their widths differ, as the contents do. -/
theorem checkContent_arguments {token a b : Text} (htoken : token? token = some token)
    (hname : ∃ c ∈ token, isIdentifierChar c = true) (ha : Balanced a) (hb : Balanced b)
    (s t : Text) :
    checkContent (s ++ token ++ '[' :: (b ++ ']' :: t))
      = (checkContent (s ++ token ++ '[' :: (a ++ ']' :: t))).map fun f =>
        { f with width := f.width + b.size - a.size } := by
  obtain ⟨rest, hsplit⟩ : ∃ rest, splitToken? token = some (token, rest) := by
    obtain ⟨⟨name, rest⟩, hsplit, heq⟩ := Option.map_eq_some_iff.mp htoken
    exact ⟨rest, by rw [hsplit, ← heq]⟩
  have hends := (endsInName_of_splitToken? hsplit hname).prepend s
  have hsame := contentProblem?_arguments hends hb ha t
  have hsize : ∀ u : Text, Text.size (s ++ token ++ '[' :: (u ++ ']' :: t))
      = Text.size (s ++ token) + 1 + u.size + 1 + t.size := by
    intro u
    rw [Text.size_append_opening, Text.size_append u, Text.size_cons]
    simp only [Nat.add_assoc]
    rfl
  have hwidth : Text.size (s ++ token ++ '[' :: (a ++ ']' :: t)) + b.size - a.size
      = Text.size (s ++ token ++ '[' :: (b ++ ']' :: t)) := by
    rw [hsize, hsize]
    omega
  unfold checkContent
  rw [hsame, List.map_map]
  apply List.map_congr_left
  intro problem _
  simp only [Function.comp_apply, hwidth]

/-- The quote before the reference is removed, and the sigil before it becomes a part of the
    token. -/
theorem checkContent_arguments_fused :
    token? "&user".toList = some "&user".toList
      ∧ (∃ c ∈ "&user".toList, isIdentifierChar c = true)
      ∧ Balanced "'h:m', $list[1 + 2] /".toList ∧ Balanced "0".toList
      ∧ checkContent ("2 * $\"".toList ++ "&user".toList
            ++ '[' :: ("0".toList ++ ']' :: " - 1]".toList))
        = (checkContent ("2 * $\"".toList ++ "&user".toList
            ++ '[' :: ("'h:m', $list[1 + 2] /".toList ++ ']' :: " - 1]".toList))).map fun f =>
          { f with width := f.width + Text.size "0".toList
              - Text.size "'h:m', $list[1 + 2] /".toList } := by
  have htoken : token? "&user".toList = some "&user".toList := by decide
  have hname : ∃ c ∈ "&user".toList, isIdentifierChar c = true := ⟨'u', by decide, by decide⟩
  have hlong : Balanced "'h:m', $list[1 + 2] /".toList := by decide
  have hshort : Balanced "0".toList := by decide
  exact ⟨htoken, hname, hlong, hshort, checkContent_arguments htoken hname hlong hshort _ _⟩

end Arithmetic

end Sigil
