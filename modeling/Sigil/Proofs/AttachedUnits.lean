import Sigil.Proofs.References
import Sigil.Style

/-! # Units behind an argument list

    A unit is attached if it stands directly behind the argument list of a variable.  The list
    ends at the partner of its first bracket, so it makes no difference how deep it is nested
    and whether the references in it have units of their own.

    * `splitDeclaration?_append`, `check_of_splitDeclaration?`: a text that is one declaration.
    * `hasAttachedUnit_reference`: a reference is attached to what stands behind its list, and
      the search goes on there.
    * `hasAttachedUnit_append`: nothing is attached where there is no sigil.
    * `check_sees_unit_behind_arguments`: attached and detached units. -/

namespace Sigil.Style

/-! ## One declaration -/

/-- A run of characters ends at the first character of another kind. -/
theorem run_append_cons {p : Char → Bool} {run : Text} (hrun : ∀ c ∈ run, p c = true) {c : Char}
    (hc : p c = false) (t : Text) :
    (run ++ c :: t).takeWhile p = run ∧ (run ++ c :: t).dropWhile p = c :: t := by
  have hstop : ¬ p c = true := by simp [hc]
  constructor
  · rw [List.takeWhile_append_of_pos hrun, List.takeWhile_cons_of_neg hstop, List.append_nil]
  · rw [List.dropWhile_append_of_pos hrun, List.dropWhile_cons_of_neg hstop]

/-- A declaration is split off up to its semicolon. -/
theorem splitDeclaration?_append {property blanks value : Text} (hne : property ≠ [])
    (hproperty : ∀ c ∈ property, isPropertyChar c = true)
    (hblanks : ∀ c ∈ blanks, isBlank c = true) (hvalue : value ≠ []) (hend : ';' ∉ value)
    (rest : Text) :
    splitDeclaration? (property ++ ':' :: (blanks ++ '$' :: (value ++ ';' :: rest)))
      = some (property ++ ':' :: (blanks ++ '$' :: (value ++ [';'])), rest) := by
  have hinside : ∀ c ∈ value, (c != ';') = true := by
    intro c hc
    rw [bne_iff_ne]
    intro hsemicolon
    rw [hsemicolon] at hc
    exact hend hc
  -- Each of the three runs ends at the character that follows it here.
  obtain ⟨htake, hdrop⟩ := run_append_cons hproperty (c := ':') (by decide)
    (blanks ++ '$' :: (value ++ ';' :: rest))
  obtain ⟨htake', hdrop'⟩ := run_append_cons hblanks (c := '$') (by decide)
    (value ++ ';' :: rest)
  obtain ⟨htake'', hdrop''⟩ := run_append_cons hinside (c := ';') (by decide) rest
  simp only [splitDeclaration?, htake, hdrop, htake', hdrop', htake'', hdrop'']
  simp [hne, hvalue]

/-- A text that is one declaration. -/
theorem check_of_splitDeclaration? {t : Text} (h : splitDeclaration? t = some (t, [])) :
    check t = if hasDetachedUnit t then
        [{ problem := .missingCssUnit, offset := 0, width := t.size }]
      else [] := by
  have hnil : declarationsFrom (0 + t.size) [] = [] := by
    rw [declarationsFrom]
    rfl
  have hdeclarations : declarations t = [(0, t)] := by
    rw [declarations, declarationsFrom]
    split
    · next declaration rest h' =>
      rw [h] at h'
      cases h'
      rw [hnil]
    · next h' =>
      rw [h] at h'
      cases h'
  rw [check, hdeclarations]
  by_cases hdetached : hasDetachedUnit t = true
  · simp [hdetached]
  · simp [hdetached]

/-- A declaration that mentions a unit has to have one attached. -/
theorem hasDetachedUnit_of_infix {unit t : Text} (hunit : unit ∈ units) (h : unit <:+: t) :
    hasDetachedUnit t = !hasAttachedUnit t := by
  have hmentioned : units.any (Text.contains · t) = true :=
    List.any_eq_true.mpr ⟨unit, hunit, Text.contains_iff.mpr h⟩
  rw [hasDetachedUnit, hmentioned, Bool.true_and]

/-! ## Searching for an attached unit -/

theorem hasAttachedUnit_of_some {t name rest : Text} (h : splitToken? t = some (name, rest)) :
    hasAttachedUnit t = ((rest.head? == some '[' && startsWithUnit (dropGroups rest))
      || hasAttachedUnit (dropGroups rest)) := by
  rw [hasAttachedUnit]
  split
  · next first after h' =>
    rw [h] at h'
    cases h'
    rfl
  · next h' =>
    rw [h] at h'
    cases h'

theorem hasAttachedUnit_of_none {c : Char} {rest : Text} (h : splitToken? (c :: rest) = none) :
    hasAttachedUnit (c :: rest) = hasAttachedUnit rest := by
  rw [hasAttachedUnit]
  split
  · next first after h' =>
    rw [h] at h'
    cases h'
  · rfl

/-- A text without sigils is passed over. -/
theorem hasAttachedUnit_append {s : Text} (h : ∀ c ∈ s, isSigil c = false) (t : Text) :
    hasAttachedUnit (s ++ t) = hasAttachedUnit t := by
  induction s with
  | nil => rfl
  | cons c s ih =>
    have hc := splitToken?_of_not_isSigil (h c List.mem_cons_self) (s ++ t)
    rw [List.cons_append, hasAttachedUnit_of_none hc]
    exact ih fun d hd => h d (List.mem_cons_of_mem c hd)

theorem hasAttachedUnit_of_forall {t : Text} (h : ∀ c ∈ t, isSigil c = false) :
    hasAttachedUnit t = false := by
  rw [← List.append_nil t, hasAttachedUnit_append h, hasAttachedUnit]
  rfl

/-- **References.**  The list of a reference is passed over whole, whatever it holds, and a
    unit behind it is attached. -/
theorem hasAttachedUnit_reference {token args : Text} (htoken : token? token = some token)
    (hargs : Balanced args) {c : Char} (hc : c ≠ '[') (rest : Text) :
    hasAttachedUnit (token ++ '[' :: (args ++ ']' :: c :: rest))
      = (startsWithUnit (c :: rest) || hasAttachedUnit (c :: rest)) := by
  -- The bracket ends the token, and the list ends at the partner of the bracket.
  have hstart := splitToken?_append_opening htoken (args ++ ']' :: c :: rest)
  rw [hasAttachedUnit_of_some hstart, dropGroups_pair hargs, dropGroups_of_ne hc]
  rfl

/-! ## Units and blanks -/

/-- A kind of character that neither sigil is of. -/
theorem not_isSigil_of {p : Char → Bool} (hdollar : p '$' = false) (hampersand : p '&' = false)
    {c : Char} (h : p c = true) : isSigil c = false := by
  by_contra hsigil
  simp only [isSigil, Bool.not_eq_false, Bool.or_eq_true, beq_iff_eq] at hsigil
  rcases hsigil with rfl | rfl
  · rw [hdollar] at h
    cases h
  · rw [hampersand] at h
    cases h

theorem ne_of_isBlank {c d : Char} (hc : isBlank c = true) (hd : isBlank d = false) : c ≠ d := by
  rintro rfl
  rw [hc] at hd
  cases hd

/-- A unit is not empty, and none of its characters could be taken for anything else. -/
theorem unit_chars {unit : Text} (h : unit ∈ units) : unit ≠ []
    ∧ ∀ c ∈ unit, isSigil c = false ∧ isBlank c = false ∧ c ≠ '[' ∧ c ≠ ';' := by
  have hall : (units.all fun unit => !unit.isEmpty && unit.all fun c =>
      !isSigil c && (!isBlank c && (c != '[' && c != ';'))) = true := by decide
  have hunit := List.all_eq_true.mp hall unit h
  simp only [Bool.and_eq_true, Bool.not_eq_true', List.all_eq_true, bne_iff_ne] at hunit
  exact ⟨List.isEmpty_eq_false_iff.mp hunit.1, hunit.2⟩

theorem startsWithUnit_append {unit : Text} (h : unit ∈ units) (t : Text) :
    startsWithUnit (unit ++ t) = true :=
  List.any_eq_true.mpr ⟨unit, h, List.isPrefixOf_iff_prefix.mpr (List.prefix_append unit t)⟩

/-- No unit starts with a blank. -/
theorem startsWithUnit_of_isBlank {c : Char} (hc : isBlank c = true) (t : Text) :
    startsWithUnit (c :: t) = false := by
  unfold startsWithUnit
  rw [List.any_eq_false]
  intro unit hunit hstarts
  obtain ⟨hne, hchars⟩ := unit_chars hunit
  obtain ⟨first, rest, rfl⟩ := List.exists_cons_of_ne_nil hne
  rw [List.isPrefixOf_iff_prefix, List.cons_prefix_cons] at hstarts
  exact ne_of_isBlank hc (hchars first List.mem_cons_self).2.1 hstarts.1.symm

/-! ## Declarations whose value is a reference -/

/-- **Reference declaration.**  A property whose value starts with a reference: the token is
    one with `$`, and its argument list is closed within the declaration. -/
structure ReferenceDeclaration where
  property : Text
  blanks : Text
  token : Text
  args : Text
  property_ne_nil : property ≠ []
  property_chars : ∀ c ∈ property, isPropertyChar c = true
  blanks_chars : ∀ c ∈ blanks, isBlank c = true
  token_eq : token? token = some token
  token_head : token.head? = some '$'
  args_balanced : Balanced args
  args_inside : ';' ∉ args

namespace ReferenceDeclaration

/-- The declaration with the text `behind` between the reference and the semicolon. -/
def text (d : ReferenceDeclaration) (behind : Text) : Text :=
  d.property ++ ':' :: (d.blanks ++ (d.token ++ '[' :: (d.args ++ ']' :: (behind ++ [';']))))

variable (d : ReferenceDeclaration) {behind : Text}

/-- The text is one declaration, and nothing is left over. -/
theorem splitDeclaration?_text (hbehind : ';' ∉ behind) :
    splitDeclaration? (d.text behind) = some (d.text behind, []) := by
  -- The sigil of the token is the one that every declaration has before its value.
  obtain ⟨name, hname⟩ := List.head?_eq_some_iff.mp d.token_head
  have htoken : ';' ∉ name := by
    intro hmem
    have hseparator := not_isSeparator_of_splitToken? (splitToken?_of_token? d.token_eq) ';'
      (by rw [hname]; exact List.mem_cons_of_mem _ hmem)
    cases hseparator
  have hvalue : ';' ∉ name ++ '[' :: (d.args ++ ']' :: behind) := by
    simp [htoken, d.args_inside, hbehind]
  have hsplit := splitDeclaration?_append d.property_ne_nil d.property_chars d.blanks_chars
    (by simp) hvalue []
  unfold text
  rw [hname]
  simpa using hsplit

/-- Nothing before the reference is attached to anything. -/
theorem hasAttachedUnit_text {c : Char} (hhead : behind.head? = some c) (hc : c ≠ '[') :
    hasAttachedUnit (d.text behind)
      = (startsWithUnit (behind ++ [';']) || hasAttachedUnit (behind ++ [';'])) := by
  obtain ⟨rest, rfl⟩ := List.head?_eq_some_iff.mp hhead
  have hproperty : ∀ c ∈ d.property, isSigil c = false := fun c hc =>
    not_isSigil_of (by decide) (by decide) (d.property_chars c hc)
  have hblanks : ∀ c ∈ d.blanks, isSigil c = false := fun c hc =>
    not_isSigil_of (by decide) (by decide) (d.blanks_chars c hc)
  unfold text
  rw [hasAttachedUnit_append hproperty, hasAttachedUnit_of_none (splitToken?_of_not_isSigil rfl _),
    hasAttachedUnit_append hblanks]
  exact hasAttachedUnit_reference d.token_eq d.args_balanced hc (rest ++ [';'])

/-- A unit directly behind the reference. -/
theorem hasAttachedUnit_text_unit {unit : Text} (hunit : unit ∈ units) (tail : Text) :
    hasAttachedUnit (d.text (unit ++ tail)) = true := by
  obtain ⟨hne, hchars⟩ := unit_chars hunit
  obtain ⟨first, rest, hfirst⟩ := List.exists_cons_of_ne_nil hne
  have hbracket : first ≠ '[' := (hchars first (by rw [hfirst]; simp)).2.2.1
  rw [d.hasAttachedUnit_text (by rw [hfirst]; rfl) hbracket, List.append_assoc,
    startsWithUnit_append hunit, Bool.true_or]

/-- A blank behind the reference, and no other reference. -/
theorem hasAttachedUnit_text_blank {c : Char} (hhead : behind.head? = some c)
    (hc : isBlank c = true) (hbehind : ∀ c ∈ behind, isSigil c = false) :
    hasAttachedUnit (d.text behind) = false := by
  have hplain : ∀ c ∈ behind ++ [';'], isSigil c = false := by
    intro c hc
    rw [List.mem_append, List.mem_singleton] at hc
    rcases hc with hc | rfl
    · exact hbehind c hc
    · rfl
  rw [d.hasAttachedUnit_text hhead (ne_of_isBlank hc (by decide)),
    hasAttachedUnit_of_forall hplain, Bool.or_false]
  obtain ⟨rest, rfl⟩ := List.head?_eq_some_iff.mp hhead
  exact startsWithUnit_of_isBlank hc (rest ++ [';'])

/-- With a unit behind the reference, all depends on whether it is attached. -/
theorem check_text {unit : Text} (hunit : unit ∈ units) (hoccurs : unit <:+: behind)
    (hbehind : ';' ∉ behind) :
    check (d.text behind) = if hasAttachedUnit (d.text behind) then []
      else [{ problem := .missingCssUnit, offset := 0, width := (d.text behind).size }] := by
  have hpart : behind <:+: d.text behind := by
    refine ⟨d.property ++ ':' :: (d.blanks ++ (d.token ++ '[' :: (d.args ++ [']']))), [';'], ?_⟩
    simp [text]
  rw [check_of_splitDeclaration? (d.splitDeclaration?_text hbehind),
    hasDetachedUnit_of_infix hunit (hoccurs.trans hpart)]
  by_cases hattached : hasAttachedUnit (d.text behind) = true
  · simp [hattached]
  · simp [hattached]

end ReferenceDeclaration

/-- **Units behind a list.**  A unit directly behind the argument list is attached, and a unit
    behind blanks is not, however the list is nested and whatever it holds.  The declaration is
    then reported as a whole. -/
theorem check_sees_unit_behind_arguments (d : ReferenceDeclaration) (unit tail : Text)
    (hunit : unit ∈ units) (htail : ';' ∉ tail) :
    check (d.text (unit ++ tail)) = []
      ∧ ∀ gap : Text, gap ≠ [] → (∀ c ∈ gap, isBlank c = true) →
          (∀ c ∈ tail, isSigil c = false) →
          check (d.text (gap ++ (unit ++ tail)))
            = [{ problem := .missingCssUnit, offset := 0
                 width := (d.text (gap ++ (unit ++ tail))).size }] := by
  obtain ⟨-, hchars⟩ := unit_chars hunit
  have hend : ';' ∉ unit ++ tail := by
    rw [List.mem_append]
    rintro (hmem | hmem)
    · exact (hchars ';' hmem).2.2.2 rfl
    · exact htail hmem
  constructor
  · rw [d.check_text hunit (List.prefix_append unit tail).isInfix hend,
      d.hasAttachedUnit_text_unit hunit, if_pos rfl]
  · intro gap hgap hblank hsigils
    obtain ⟨first, rest, hfirst⟩ := List.exists_cons_of_ne_nil hgap
    have hplain : ∀ c ∈ gap ++ (unit ++ tail), isSigil c = false := by
      intro c hc
      simp only [List.mem_append] at hc
      rcases hc with hc | hc | hc
      · exact not_isSigil_of (by decide) (by decide) (hblank c hc)
      · exact (hchars c hc).1
      · exact hsigils c hc
    have hdetached : hasAttachedUnit (d.text (gap ++ (unit ++ tail))) = false :=
      d.hasAttachedUnit_text_blank (by rw [hfirst]; rfl) (hblank first (by rw [hfirst]; simp))
        hplain
    have hend' : ';' ∉ gap ++ (unit ++ tail) := by
      rw [List.mem_append]
      rintro (hmem | hmem)
      · exact ne_of_isBlank (hblank ';' hmem) (by decide) rfl
      · exact hend hmem
    have hoccurs : unit <:+: gap ++ (unit ++ tail) := ⟨gap, tail, List.append_assoc ..⟩
    rw [d.check_text hunit hoccurs hend', hdetached]
    rfl

/-- The units of the references in the list make no difference. -/
theorem check_sees_unit_behind_nested_arguments :
    check "width: $arg[$x[é]px $y[[2]]%]px solid;".toList = []
      ∧ check "width: $arg[$x[é]px $y[[2]]%] px solid;".toList
          = [{ problem := .missingCssUnit, offset := 0, width := 40 }] := by
  let d : ReferenceDeclaration :=
    { property := "width".toList
      blanks := [' ']
      token := "$arg".toList
      args := "$x[é]px $y[[2]]%".toList
      property_ne_nil := by decide
      property_chars := List.all_eq_true.mp (by decide)
      blanks_chars := List.all_eq_true.mp (by decide)
      token_eq := by decide
      token_head := by decide
      args_balanced := balanced_iff.mpr (by decide)
      args_inside := by decide }
  obtain ⟨hattached, hdetached⟩ :=
    check_sees_unit_behind_arguments d "px".toList " solid".toList (by decide) (by decide)
  have hplain : " solid".toList.all (!isSigil ·) = true := by decide
  have hgap := hdetached [' '] (by decide) (List.all_eq_true.mp (by decide))
    (by simpa only [List.all_eq_true, Bool.not_eq_true'] using hplain)
  have htext : d.text ("px".toList ++ " solid".toList)
      = "width: $arg[$x[é]px $y[[2]]%]px solid;".toList := by decide
  have htext' : d.text ([' '] ++ ("px".toList ++ " solid".toList))
      = "width: $arg[$x[é]px $y[[2]]%] px solid;".toList := by decide
  have hsize : Text.size "width: $arg[$x[é]px $y[[2]]%] px solid;".toList = 40 := by decide
  rw [htext] at hattached
  rw [htext', hsize] at hgap
  exact ⟨hattached, hgap⟩

end Sigil.Style
