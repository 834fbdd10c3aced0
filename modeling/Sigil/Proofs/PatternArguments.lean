import Sigil.Argument.Check
import Sigil.Proofs.PatternReports

/-! # Patterns given as arguments

    A pattern is first searched for look-ahead groups that are left open, and then given to
    the checker of patterns, whose report is searched in turn.

    * `HasOpen`, `HasClosed`: look-ahead groups that are left open, and others.
    * `isLeftOpen_iff`: of each kind of look-ahead the first one counts.
    * `unclosedLookahead_reported_iff`: the look-aheads that are reported.
    * `verdict`: what the cause of a fault says about a pattern.
    * `rejected_pattern_verdict`: when a pattern that is rejected gets this verdict. -/

namespace Sigil.Argument

/-! ## Look-ahead groups -/

/-- The two ways in which a look-ahead group starts. -/
def lookAheads : List Text :=
  ["(?=".toList, "(?!".toList]

/-- Behind some `opening` no parenthesis is closed. -/
def HasOpen (opening t : Text) : Prop :=
  ∃ before after : Text, t = before ++ (opening ++ after) ∧ ')' ∉ after

/-- Behind some `opening` a parenthesis is closed. -/
def HasClosed (opening t : Text) : Prop :=
  ∃ before after : Text, t = before ++ (opening ++ after) ∧ ')' ∈ after

theorem HasOpen.contains {opening t : Text} (h : HasOpen opening t) :
    Text.contains opening t = true := by
  obtain ⟨before, after, rfl, -⟩ := h
  exact Text.contains_iff.mpr ⟨before, after, List.append_assoc before opening after⟩

/-- **The first one counts.**  A text is taken to be left open if no parenthesis is closed
    behind the first `opening`, and so behind none of them. -/
theorem isLeftOpen_iff {opening : Text} (hplain : ')' ∉ opening) (t : Text) :
    isLeftOpen opening t = true ↔ HasOpen opening t ∧ ¬ HasClosed opening t := by
  unfold isLeftOpen
  split
  · next offset hfind =>
    obtain ⟨before, after, rfl, rfl, hfirst⟩ := Text.find?_eq_some hfind
    have hsearch : (opening ++ after).any (· == ')') = true ↔ ')' ∈ after := by
      rw [List.any_beq', List.contains_iff_mem, List.mem_append]
      exact or_iff_right hplain
    rw [Text.dropBytes_size_append, Bool.not_eq_true', ← Bool.not_eq_true, hsearch]
    constructor
    · intro hafter
      refine ⟨⟨before, after, rfl, hafter⟩, ?_⟩
      rintro ⟨s, u, hs, hu⟩
      -- No occurrence stands before the first, so all that follows one follows the first.
      obtain ⟨m, rfl⟩ := hfirst s u hs
      rw [List.append_assoc, List.append_cancel_left_eq] at hs
      have hmem : ')' ∈ opening ++ after := by
        rw [hs]
        simp [hu]
      rcases List.mem_append.mp hmem with hmem | hmem
      · exact hplain hmem
      · exact hafter hmem
    · intro h hafter
      exact h.2 ⟨before, after, rfl, hafter⟩
  · next hfind =>
    constructor
    · intro h
      cases h
    · intro h
      have hsome := h.1.contains
      rw [Text.contains, hfind] at hsome
      cases hsome

/-- A look-ahead of either kind is left open, and none of its kind is closed. -/
theorem isLeftOpen_lookAheads_iff (t : Text) :
    (isLeftOpen "(?=".toList t || isLeftOpen "(?!".toList t) = true
      ↔ ∃ opening ∈ lookAheads, HasOpen opening t ∧ ¬ HasClosed opening t := by
  rw [Bool.or_eq_true, isLeftOpen_iff (by decide), isLeftOpen_iff (by decide)]
  simp [lookAheads]

theorem patternProblem?_eq_unclosedLookahead_iff (t : Text) :
    patternProblem? t = some .unclosedLookahead
      ↔ ∃ opening ∈ lookAheads, HasOpen opening t ∧ ¬ HasClosed opening t := by
  rw [← isLeftOpen_lookAheads_iff]
  unfold patternProblem?
  split
  · next hopen => exact iff_of_true rfl hopen
  · next hopen =>
    -- A pattern that the checker rejects has another problem.
    refine iff_of_false ?_ hopen
    split
    · simp
    · dsimp only
      split <;> simp

/-- An argument that can be judged. -/
theorem judge_of_examined {a : Argument} (hne : a.text ≠ [])
    (hplain : mentionsVariable a.text = false) (problem? : Text → Option Problem) :
    judge problem? a
      = (problem? a.text).map fun problem => { problem, offset := a.offset, width := a.width } := by
  unfold judge
  rw [if_neg]
  simp [hne, hplain]

theorem problem_of_judge {problem? : Text → Option Problem} {a : Argument} {f : Finding}
    (h : judge problem? a = some f) : problem? a.text = some f.problem := by
  unfold judge at h
  split at h
  · cases h
  · obtain ⟨problem, hproblem, rfl⟩ := Option.map_eq_some_iff.mp h
    exact hproblem

/-- **Look-aheads that are left open** are reported if no other of the same kind is closed.
    Otherwise the first of that kind is closed, and the later ones are not looked at. -/
theorem unclosedLookahead_reported_iff (pattern : Argument) (hne : pattern.text ≠ [])
    (hplain : mentionsVariable pattern.text = false) (flags : Option Argument) :
    { problem := .unclosedLookahead, offset := pattern.offset, width := pattern.width }
        ∈ checkRegex pattern flags
      ↔ ∃ opening ∈ lookAheads, HasOpen opening pattern.text ∧ ¬ HasClosed opening pattern.text := by
  rw [← patternProblem?_eq_unclosedLookahead_iff, checkRegex, List.mem_append, Option.mem_toList,
    Option.mem_toList]
  constructor
  · rintro (hpattern | hflags)
    · exact problem_of_judge hpattern
    · -- What is found in the flags is not about groups.
      obtain ⟨a, -, ha⟩ := Option.bind_eq_some_iff.mp hflags
      have hproblem := problem_of_judge ha
      unfold flagsProblem? at hproblem
      split at hproblem <;> cases hproblem
  · intro hproblem
    rw [judge_of_examined hne hplain, hproblem]
    exact .inl rfl

/-- The group that is left open is the only one of its kind, and a group of the other kind is
    closed. -/
theorem unclosedLookahead_reported_iff_mixed :
    "(?!a)é(?=b".toList ≠ [] ∧ mentionsVariable "(?!a)é(?=b".toList = false
      ∧ { problem := .unclosedLookahead, offset := 3, width := 11 }
        ∈ checkRegex ⟨3, "(?!a)é(?=b".toList⟩ (some ⟨16, "x".toList⟩) := by
  have hne : "(?!a)é(?=b".toList ≠ [] := by decide
  have hplain : mentionsVariable "(?!a)é(?=b".toList = false := by decide
  have hopen : HasOpen "(?=".toList "(?!a)é(?=b".toList := ⟨"(?!a)é".toList, "b".toList, rfl, by decide⟩
  have hclosed : ¬ HasClosed "(?=".toList "(?!a)é(?=b".toList := by
    have hleft : isLeftOpen "(?=".toList "(?!a)é(?=b".toList = true := by decide
    exact ((isLeftOpen_iff (by decide) _).mp hleft).2
  have hreported := unclosedLookahead_reported_iff ⟨3, "(?!a)é(?=b".toList⟩ hne hplain
    (some ⟨16, "x".toList⟩)
  exact ⟨hne, hplain, hreported.mpr ⟨_, by decide, hopen, hclosed⟩⟩

/-- The second of two look-aheads is left open, and nothing is found. -/
theorem second_lookAhead_left_open :
    "(?=a)(?=b".toList ≠ [] ∧ mentionsVariable "(?=a)(?=b".toList = false
      ∧ (∃ opening ∈ lookAheads, HasOpen opening "(?=a)(?=b".toList)
      ∧ checkRegex ⟨3, "(?=a)(?=b".toList⟩ none = [] := by
  have hopen : HasOpen "(?=".toList "(?=a)(?=b".toList := ⟨"(?=a)".toList, "b".toList, rfl, by decide⟩
  exact ⟨by decide, by decide, ⟨_, by decide, hopen⟩, by decide +kernel⟩

/-! ## Rejected patterns -/

/-- **Verdict.**  What the cause of a fault says about a pattern: nothing, if the checker lacks
    the construct, and otherwise the description of the cause. -/
def verdict (cause : Pattern.Cause) : Option Problem :=
  if cause.isUnsupported = true then none else some (.invalidRegex cause.description)

theorem patternProblem?_of_fault {t : Text} {fault : Pattern.Fault}
    (hfault : Pattern.parse t = .error fault) (hopen : ∀ opening ∈ lookAheads, ¬ HasOpen opening t) :
    patternProblem? t
      = if fault.cause.isUnsupported = true ∨ MentionsKeyword t then none
        else some (.invalidRegex ((ownReason? t).getD fault.cause.description)) := by
  have hclosed : ¬ (isLeftOpen "(?=".toList t || isLeftOpen "(?!".toList t) = true := by
    rw [isLeftOpen_lookAheads_iff]
    rintro ⟨opening, hopening, hleft, -⟩
    exact hopen opening hopening hleft
  unfold patternProblem?
  rw [if_neg hclosed, hfault]
  dsimp only
  rw [reason_report]
  exact if_congr (isUnsupported_report_iff fault t) rfl rfl

/-- **Rejected patterns.**  A pattern is accepted if the checker lacks a construct of it, and
    also if the pattern itself holds one of the words that tell this.  Otherwise the problem
    has the reason that the pattern gives by itself, if it gives one, and else the description
    of the cause.  So the verdict of the cause is given exactly if the pattern holds none of
    those words and no other reason, or is accepted in any case. -/
theorem rejected_pattern_verdict {t : Text} {fault : Pattern.Fault}
    (hfault : Pattern.parse t = .error fault) (hopen : ∀ opening ∈ lookAheads, ¬ HasOpen opening t) :
    patternProblem? t
        = (if fault.cause.isUnsupported = true ∨ MentionsKeyword t then none
          else some (.invalidRegex ((ownReason? t).getD fault.cause.description)))
      ∧ (patternProblem? t = verdict fault.cause
          ↔ fault.cause.isUnsupported = true
            ∨ ¬ MentionsKeyword t
              ∧ ∀ reason, ownReason? t = some reason → reason = fault.cause.description) := by
  have hproblem := patternProblem?_of_fault hfault hopen
  refine ⟨hproblem, ?_⟩
  rw [hproblem]
  unfold verdict
  by_cases hcause : fault.cause.isUnsupported = true
  · rw [if_pos hcause, if_pos (.inl hcause)]
    exact iff_of_true rfl (.inl hcause)
  · by_cases hkeyword : MentionsKeyword t
    · rw [if_neg hcause, if_pos (.inr hkeyword)]
      simp [hcause, hkeyword]
    · rw [if_neg hcause, if_neg (not_or.mpr ⟨hcause, hkeyword⟩)]
      cases hreason : ownReason? t with
      | none => simp [hkeyword]
      | some reason => simp [hcause, hkeyword]

/-- The pattern is written on two lines, so the label at its start is behind a number. -/
theorem rejected_pattern_verdict_numbered :
    Pattern.parse "error: é\n(x".toList = .error ⟨.groupUnclosed, 9⟩
      ∧ (∀ opening ∈ lookAheads, ¬ HasOpen opening "error: é\n(x".toList)
      ∧ patternProblem? "error: é\n(x".toList = some (.invalidRegex "unclosed group".toList) := by
  have hfault : Pattern.parse "error: é\n(x".toList = .error ⟨.groupUnclosed, 9⟩ := by rfl
  have hopen : ∀ opening ∈ lookAheads, ¬ HasOpen opening "error: é\n(x".toList := by
    intro opening hopening hleft
    have hnone : lookAheads.all (fun word => !Text.contains word "error: é\n(x".toList) = true := by
      decide +kernel
    have hcontains := List.all_eq_true.mp hnone opening hopening
    rw [hleft.contains] at hcontains
    cases hcontains
  have hproblem := (rejected_pattern_verdict hfault hopen).1
  exact ⟨hfault, hopen, hproblem.trans (by decide +kernel)⟩

/-- The first pattern holds a keyword and is accepted, the second one gives a reason by itself.
    Both are rejected because a group is not closed. -/
theorem pattern_words_change_verdict :
    (∃ fault, Pattern.parse "look-around(".toList = .error fault ∧ fault.cause = .groupUnclosed)
      ∧ patternProblem? "look-around(".toList = none
      ∧ (∃ fault, Pattern.parse "error: (".toList = .error fault ∧ fault.cause = .groupUnclosed)
      ∧ patternProblem? "error: (".toList = some (.invalidRegex "(".toList) := by
  exact ⟨⟨_, rfl, rfl⟩, by decide +kernel, ⟨_, rfl, rfl⟩, by decide +kernel⟩

end Sigil.Argument
