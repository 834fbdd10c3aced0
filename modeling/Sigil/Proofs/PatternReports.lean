import Sigil.Argument.Regex
import Sigil.Proofs.TextLines

/-! # Reports on patterns

    A report on a fault quotes the pattern before it says what is wrong, and what is read from
    it can come from the pattern.

    * `IsKeyword.any_report`: the keywords of a report are those of the pattern and of the
      description.
    * `isUnsupported_report_iff`: the reports that are accepted.
    * `ownReason?`, `reason_report`: the reason that is read from a report. -/

namespace Sigil.Pattern

/-! ## Words in reports -/

/-- Is the fault one that says only that the checker does not know a construct? -/
def Cause.isUnsupported : Cause → Bool
  | unsupportedBackreference | unsupportedLookAround => true
  | _ => false

/-- **Quoted lines.**  A test that no caret passes, and that labels do not change, is a test
    of the lines. -/
theorem any_quoteLines {p q : Text → Bool} {label : Nat → Text}
    (hcaret : ∀ n, p (List.replicate n ' ' ++ ['^']) = false)
    (hlabel : ∀ i line, p (label i ++ line) = q line) (row column i : Nat) (lines : List Text) :
    (quoteLines label row column i lines).any p = lines.any q := by
  induction lines generalizing i with
  | nil => rfl
  | cons line lines ih =>
    unfold quoteLines
    dsimp only
    split
    · rw [List.any_cons, List.any_cons, hlabel, hcaret, ih, Bool.false_or, List.any_cons]
    · rw [List.any_cons, hlabel, ih, List.any_cons]

/-- The first quoted line that passes a test, if one line is quoted. -/
theorem find?_quoteLines_singleton {p : Text → Bool} {label : Nat → Text}
    (hcaret : ∀ n, p (List.replicate n ' ' ++ ['^']) = false) (row column i : Nat) (line : Text) :
    (quoteLines label row column i [line]).find? p
      = if p (label i ++ line) = true then some (label i ++ line) else none := by
  unfold quoteLines
  dsimp only
  by_cases hline : p (label i ++ line) = true
  · rw [if_pos hline]
    split
    · exact List.find?_cons_of_pos hline
    · exact List.find?_cons_of_pos hline
  · rw [if_neg hline]
    split
    · rw [List.find?_cons_of_neg hline, List.find?_cons_of_neg (Bool.eq_false_iff.mp (hcaret _))]
      rfl
    · rw [List.find?_cons_of_neg hline]
      rfl

/-- A pattern of several lines is quoted with numbers, between two rules. -/
theorem any_quote_of_mem {p q : Text → Bool} (hrule : p (List.replicate 79 '~') = false)
    (hcaret : ∀ n, p (List.replicate n ' ' ++ ['^']) = false)
    (hnumber : ∀ width n line, p (padded width n ++ ": ".toList ++ line) = q line)
    {t : Text} (h : '\n' ∈ t) (position : Nat) :
    (quote t position).any p = (Text.lines t).any q := by
  have hlines : t.any (· == '\n') = true := by
    rwa [List.any_beq', List.contains_iff_mem]
  unfold quote
  dsimp only
  rw [if_pos hlines, List.any_append, List.any_cons, hrule, List.any_cons, hrule, List.any_nil,
    Bool.false_or, Bool.or_self, Bool.or_false]
  exact any_quoteLines hcaret (fun i line => hnumber _ (i + 1) line) _ _ _ _

/-- A pattern of one line is indented. -/
theorem quote_of_not_mem {t : Text} (h : '\n' ∉ t) (position : Nat) :
    ∃ row column, quote t position
      = quoteLines (fun _ => "    ".toList) row column 0 (Text.lines t) := by
  have hline : ¬ t.any (· == '\n') = true := by
    rwa [List.any_beq', List.contains_iff_mem]
  unfold quote
  dsimp only
  rw [if_neg hline]
  exact ⟨_, _, rfl⟩

/-- A number is written with spaces and digits. -/
theorem not_mem_padded {c : Char} (hspace : c ≠ ' ') (hdigit : c.isDigit = false) (width n : Nat) :
    c ∉ padded width n := by
  unfold padded
  dsimp only
  intro hmem
  rcases List.mem_append.mp hmem with hmem | hmem
  · exact hspace (List.eq_of_mem_replicate hmem)
  · rw [Nat.isDigit_of_mem_toDigits (by decide) (by decide) hmem] at hdigit
    cases hdigit

/-- **Keyword.**  A word that is looked for in reports.  No label, caret or rule has its letter
    `k`, and it stands on one line. -/
structure IsKeyword (word : Text) : Prop where
  letter : 'k' ∈ word
  space : ' ' ∉ word
  newline : '\n' ∉ word
  carriageReturn : '\r' ∉ word

namespace IsKeyword

variable {word : Text} (h : IsKeyword word)

include h

/-- A keyword is not part of a label, since a space ends the label. -/
theorem contains_label {label : Text} (hlabel : 'k' ∉ label) (line : Text) :
    Text.contains word (label ++ ' ' :: line) = Text.contains word line := by
  rw [Text.contains_append_cons h.space, Text.contains_eq_false h.letter hlabel, Bool.false_or]

theorem contains_number (width n : Nat) (line : Text) :
    Text.contains word (padded width n ++ ": ".toList ++ line) = Text.contains word line := by
  have hnumber : 'k' ∉ padded width n ++ [':'] := by
    rw [List.mem_append, not_or]
    exact ⟨not_mem_padded (by decide) (by decide) width n, by decide⟩
  rw [← h.contains_label hnumber line, List.append_assoc, List.append_assoc]
  rfl

/-- A keyword that is quoted is one of the pattern. -/
theorem any_quote (t : Text) (position : Nat) :
    (quote t position).any (Text.contains word) = Text.contains word t := by
  have hne : word ≠ [] := List.ne_nil_of_mem h.letter
  have hcaret : ∀ n, Text.contains word (List.replicate n ' ' ++ ['^']) = false := by
    intro n
    apply Text.contains_eq_false h.letter
    simp
  rw [← Text.any_contains_lines h.newline h.carriageReturn hne]
  by_cases hlines : '\n' ∈ t
  · have hrule : Text.contains word (List.replicate 79 '~') = false :=
      Text.contains_eq_false h.letter (by decide)
    exact any_quote_of_mem hrule hcaret h.contains_number hlines position
  · have hindent : 'k' ∉ "   ".toList := by decide
    obtain ⟨row, column, hquote⟩ := quote_of_not_mem hlines position
    rw [hquote]
    exact any_quoteLines hcaret (fun _ line => h.contains_label hindent line) _ _ _ _

/-- **The keywords of a report** are those of the pattern and of the description. -/
theorem any_report (fault : Fault) (t : Text) :
    (fault.report t).any (Text.contains word)
      = (Text.contains word t || Text.contains word ("error: ".toList ++ fault.cause.description)) := by
  have hheader : Text.contains word "regex parse error:".toList = false :=
    Text.contains_eq_false h.letter (by decide)
  unfold Fault.report
  rw [List.cons_append, List.any_cons, hheader, Bool.false_or, List.any_append, h.any_quote,
    List.any_cons, List.any_nil, Bool.or_false]

end IsKeyword

end Sigil.Pattern

namespace Sigil.Argument

/-! ## What is read from a report -/

/-- The words by which a report says that the checker does not know a construct. -/
def keywords : List Text :=
  ["look-around".toList, "backreferences".toList]

/-- A pattern that holds one of these words itself. -/
def MentionsKeyword (t : Text) : Prop :=
  ∃ word ∈ keywords, word <:+: t

theorem mentionsKeyword_iff (t : Text) : MentionsKeyword t
    ↔ (Text.contains "look-around".toList t || Text.contains "backreferences".toList t) = true := by
  rw [Bool.or_eq_true, Text.contains_iff, Text.contains_iff]
  simp only [MentionsKeyword, keywords, List.mem_cons, List.not_mem_nil, or_false,
    exists_eq_or_imp, exists_eq_left]

instance (t : Text) : Decidable (MentionsKeyword t) :=
  decidable_of_iff _ (mentionsKeyword_iff t).symm

/-- **Description.**  The line that gives it has no blanks to trim, and one of the words exactly
    if the checker does not know a construct. -/
def IsDescription (unsupported : Bool) (description : Text) : Prop :=
  Text.IsTrimmed ("error: ".toList ++ description)
    ∧ (MentionsKeyword ("error: ".toList ++ description) ↔ unsupported = true)

instance (unsupported : Bool) (description : Text) :
    Decidable (IsDescription unsupported description) :=
  inferInstanceAs (Decidable (_ ∧ _))

/-- What holds of a list of characters holds of the text that is written with them. -/
theorem of_literal {P : Text → Prop} (t : Text) (h : P t) : P (String.ofList t).toList := by
  rwa [String.toList_ofList]

theorem isDescription_description (cause : Pattern.Cause) :
    IsDescription cause.isUnsupported cause.description := by
  cases cause
  -- Three descriptions are put together from parts.
  case nestLimitExceeded => decide +kernel
  case specialWordBoundaryUnrecognized => decide +kernel
  case specialWordOrRepetitionUnexpectedEnd => decide +kernel
  -- The others are looked at as lists, since reading a long literal takes the kernel long.
  all_goals exact of_literal (P := IsDescription _) _ (by decide +kernel)

/-- **Accepted reports** are those on constructs that the checker does not know, and those on
    patterns with one of the words in them. -/
theorem isUnsupported_report_iff (fault : Pattern.Fault) (t : Text) :
    isUnsupported (fault.report t) = true
      ↔ fault.cause.isUnsupported = true ∨ MentionsKeyword t := by
  have hlook : Pattern.IsKeyword "look-around".toList :=
    ⟨by decide, by decide, by decide, by decide⟩
  have hback : Pattern.IsKeyword "backreferences".toList :=
    ⟨by decide, by decide, by decide, by decide⟩
  have hwords : isUnsupported (fault.report t) = true
      ↔ (fault.report t).any (Text.contains "look-around".toList) = true
        ∨ (fault.report t).any (Text.contains "backreferences".toList) = true := by
    simp only [isUnsupported, List.any_eq_true, Bool.or_eq_true, and_or_left, exists_or]
  rw [hwords, hlook.any_report, hback.any_report, ← (isDescription_description fault.cause).2,
    mentionsKeyword_iff, mentionsKeyword_iff]
  simp only [Bool.or_eq_true]
  rw [or_or_or_comm, or_comm]

/-- Does the line, once trimmed, say what is wrong? -/
def isLabelled (line : Text) : Bool :=
  "error: ".toList.isPrefixOf line.trim

theorem isLabelled_blanks_append {s : Text} (hs : ∀ c ∈ s, isBlank c = true) (t : Text) :
    isLabelled (s ++ t) = isLabelled t := by
  rw [isLabelled, Text.trim_blanks_append hs, isLabelled]

/-- The label starts with its own first letter. -/
theorem isLabelled_eq_false {c : Char} (hblank : isBlank c = false) (hletter : c ≠ 'e') (t : Text) :
    isLabelled (c :: t) = false := by
  have htrim : Text.trim (c :: t) = c :: Text.trimEnd t := by
    have hstart : Text.trimStart (c :: t) = c :: t := Text.trimStart_append hblank [] t
    rw [Text.trim, hstart]
    exact Text.trimEnd_append hblank [] t
  have hhead : ('e' == c) = false := beq_eq_false_iff_ne.mpr hletter.symm
  rw [isLabelled, htrim]
  exact congrArg (· && _) hhead

theorem isBlank_of_mem_spaces {n : Nat} {c : Char} (h : c ∈ List.replicate n ' ') :
    isBlank c = true := by
  rw [List.eq_of_mem_replicate h]
  rfl

theorem isBlank_of_mem_indent {c : Char} (h : c ∈ "    ".toList) : isBlank c = true :=
  isBlank_of_mem_spaces (n := 4) h

theorem not_isBlank_of_isDigit {c : Char} (h : c.isDigit = true) : isBlank c = false := by
  have hrange : 48 ≤ c.toNat ∧ c.toNat ≤ 57 := by
    change (decide ((48 : UInt32) ≤ c.val) && decide (c.val ≤ (57 : UInt32))) = true at h
    rw [Bool.and_eq_true, decide_eq_true_eq, decide_eq_true_eq] at h
    exact h
  unfold isBlank
  dsimp only
  simp only [Bool.or_eq_false_iff, Bool.and_eq_false_iff, decide_eq_false_iff_not]
  omega

theorem isLabelled_caret (n : Nat) : isLabelled (List.replicate n ' ' ++ ['^']) = false := by
  rw [isLabelled_blanks_append fun c => isBlank_of_mem_spaces]
  exact isLabelled_eq_false (by decide) (by decide) []

/-- A numbered line starts with a digit. -/
theorem isLabelled_number (width n : Nat) (line : Text) :
    isLabelled (Pattern.padded width n ++ ": ".toList ++ line) = false := by
  obtain ⟨d, ds, hdigits⟩ := List.exists_cons_of_ne_nil (Nat.toDigits_ne_nil (b := 10) (n := n))
  have hd : d.isDigit = true :=
    Nat.isDigit_of_mem_toDigits (by decide) (by decide) (hdigits ▸ List.mem_cons_self)
  have hletter : d ≠ 'e' := by
    rintro rfl
    cases hd
  unfold Pattern.padded
  dsimp only
  rw [hdigits, List.append_assoc, List.append_assoc, isLabelled_blanks_append fun c => isBlank_of_mem_spaces]
  exact isLabelled_eq_false (not_isBlank_of_isDigit hd) hletter _

/-- The reason that a pattern gives by itself: it stands on one line, with the label of a
    description before it. -/
def ownReason? (t : Text) : Option Text :=
  if '\n' ∉ t ∧ isLabelled t = true then some (t.trim.drop "error: ".length) else none

/-- Of the quoted lines only a pattern of one line can be labelled. -/
theorem find?_isLabelled_quote (t : Text) (position : Nat) :
    (Pattern.quote t position).find? isLabelled
      = if '\n' ∉ t ∧ isLabelled t = true then some ("    ".toList ++ t) else none := by
  by_cases hlines : '\n' ∈ t
  · have hnone : (Pattern.quote t position).any isLabelled = (Text.lines t).any fun _ => false :=
      Pattern.any_quote_of_mem (by decide) isLabelled_caret isLabelled_number hlines position
    rw [if_neg fun h => h.1 hlines, List.find?_eq_none]
    intro line hline hlabelled
    have hany : (Pattern.quote t position).any isLabelled = true :=
      List.any_eq_true.mpr ⟨line, hline, hlabelled⟩
    simp [hany] at hnone
  · obtain ⟨row, column, hquote⟩ := Pattern.quote_of_not_mem hlines position
    have hindent : isLabelled ("    ".toList ++ t) = isLabelled t :=
      isLabelled_blanks_append (fun _ => isBlank_of_mem_indent) t
    rw [hquote]
    by_cases hnil : t = []
    · subst hnil
      rfl
    · rw [Text.lines_of_not_mem hlines hnil, Pattern.find?_quoteLines_singleton isLabelled_caret, hindent]
      exact if_congr (and_iff_right hlines).symm rfl rfl

/-- **The reason in a report** is the description of the fault, unless the pattern gives one by
    itself. -/
theorem reason_report (fault : Pattern.Fault) (t : Text) :
    reason (fault.report t) = (ownReason? t).getD fault.cause.description := by
  have htrimmed : Text.trim ("error: ".toList ++ fault.cause.description)
      = "error: ".toList ++ fault.cause.description :=
    (isDescription_description fault.cause).1
  have hlast : isLabelled ("error: ".toList ++ fault.cause.description) = true := by
    rw [isLabelled, htrimmed]
    exact List.isPrefixOf_iff_prefix.mpr ⟨_, rfl⟩
  have hheader : ¬ isLabelled "regex parse error:".toList = true := by decide
  have hfind : (fault.report t).find? isLabelled
      = ((Pattern.quote t fault.position).find? isLabelled).or
          (some ("error: ".toList ++ fault.cause.description)) := by
    unfold Pattern.Fault.report
    rw [List.cons_append, List.find?_cons_of_neg hheader, List.find?_append,
      List.find?_cons_of_pos hlast]
  rw [find?_isLabelled_quote] at hfind
  unfold reason ownReason?
  dsimp only
  rw [show (fault.report t).find? (fun line => "error: ".toList.isPrefixOf line.trim) = _ from hfind]
  by_cases hown : '\n' ∉ t ∧ isLabelled t = true
  · rw [if_pos hown, if_pos hown, Option.some_or, Option.getD_some]
    dsimp only
    rw [Text.trim_blanks_append fun _ => isBlank_of_mem_indent]
    rfl
  · rw [if_neg hown, if_neg hown, Option.none_or, Option.getD_none]
    dsimp only
    rw [htrimmed]
    rfl

end Sigil.Argument
