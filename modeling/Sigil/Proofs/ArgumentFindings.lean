import Sigil.Argument.Check
import Sigil.Arithmetic.Content
import Sigil.Proofs.ArgumentLists

/-! # Findings on arguments

    What is found between the brackets of a variable concerns one of its arguments or
    all of its content.

    * `Problem.isInner`: the problems that such a finding can be about.
    * `Argument.mem_check`: a finding on arguments spans one argument.
    * `Arithmetic.mem_checkContent`: a finding on an expression spans all of it. -/

namespace Sigil

/-- Is the problem one of an argument, or of an expression? -/
def Problem.isInner : Problem → Bool
  | unmatchedClosingBracket | unclosedBracket | missingDefault _ | deprecatedVariable _ _
  | missingCssUnit => false
  | _ => true

namespace Argument

/-- An argument starts in the list it belongs to, or at its end. -/
theorem offset_le_of_mem_split {a : Argument} {content : Text} (h : a ∈ split content) :
    a.offset ≤ content.size := by
  have hle := (partAt_of_mem_split h).add_size_le
  omega

/-! ## Findings on one argument -/

/-- The finding is about the argument `a`. -/
def Concerns (f : Finding) (a : Argument) : Prop :=
  f.offset = a.offset ∧ f.width = a.width ∧ f.problem.isInner = true

theorem concerns_of_checkPath {a : Argument} {f : Finding} (h : checkPath a = some f) :
    Concerns f a := by
  obtain ⟨problem, hp, rfl⟩ := Option.map_eq_some_iff.mp h
  refine ⟨rfl, rfl, ?_⟩
  unfold pathProblem? at hp
  simp only at hp
  split at hp
  · cases hp
  · split at hp
    · cases hp; rfl
    · split at hp <;> cases hp
      rfl

theorem concerns_of_judge {a : Argument} {f : Finding} {problem? : Text → Option Problem}
    (hp : ∀ t p, problem? t = some p → p.isInner = true)
    (h : judge problem? a = some f) : Concerns f a := by
  unfold judge at h
  split at h
  · cases h
  · obtain ⟨problem, hproblem, rfl⟩ := Option.map_eq_some_iff.mp h
    exact ⟨rfl, rfl, hp _ _ hproblem⟩

theorem patternProblem?_isInner (t : Text) (p : Problem) (h : patternProblem? t = some p) :
    p.isInner = true := by
  unfold patternProblem? at h
  split at h
  · cases h; rfl
  · split at h
    · cases h
    · simp only at h
      split at h <;> cases h
      rfl

theorem flagsProblem?_isInner (t : Text) (p : Problem) (h : flagsProblem? t = some p) :
    p.isInner = true := by
  unfold flagsProblem? at h
  split at h <;> cases h
  rfl

theorem concerns_of_mem_checkRegex {pattern : Argument} {flags : Option Argument} {f : Finding}
    (h : f ∈ checkRegex pattern flags) :
    Concerns f pattern ∨ ∃ a, flags = some a ∧ Concerns f a := by
  rw [checkRegex, List.mem_append, Option.mem_toList, Option.mem_toList] at h
  rcases h with h | h
  · exact .inl (concerns_of_judge patternProblem?_isInner h)
  · obtain ⟨a, ha, h⟩ := Option.bind_eq_some_iff.mp h
    exact .inr ⟨a, ha, concerns_of_judge flagsProblem?_isInner h⟩

/-- The pattern and the flags of a regular expression are arguments. -/
theorem mem_of_regex? {owner : Text} {arguments : List Argument} {pattern : Argument}
    {flags : Option Argument} (h : regex? owner arguments = some (pattern, flags)) :
    pattern ∈ arguments ∧ ∀ a, flags = some a → a ∈ arguments := by
  unfold regex? at h
  split at h
  · obtain ⟨p, hp, heq⟩ := Option.map_eq_some_iff.mp h
    cases heq
    exact ⟨List.mem_of_getElem? hp, fun a ha => List.mem_of_getElem? ha⟩
  · split at h
    · obtain ⟨p, hp, heq⟩ := Option.map_eq_some_iff.mp h
      cases heq
      exact ⟨List.mem_of_getElem? hp, fun a ha => List.mem_of_getElem? ha⟩
    · cases h

/-- **A finding on arguments spans one argument.** -/
theorem mem_check {owner content : Text} {f : Finding} (h : f ∈ check owner content) :
    ∃ a ∈ split content, Concerns f a := by
  rw [check, List.mem_append] at h
  rcases h with h | h
  · rw [Option.mem_toList] at h
    obtain ⟨a, ha, h⟩ := Option.bind_eq_some_iff.mp h
    refine ⟨a, ?_, concerns_of_checkPath h⟩
    unfold path? at ha
    split at ha
    · exact List.mem_of_getElem? ha
    · cases ha
  · split at h
    · next pattern flags hregex =>
      obtain ⟨hpattern, hflags⟩ := mem_of_regex? hregex
      rcases concerns_of_mem_checkRegex h with hf | ⟨a, ha, hf⟩
      · exact ⟨pattern, hpattern, hf⟩
      · exact ⟨a, hflags a ha, hf⟩
    · cases h

end Argument

/-! ## Findings on an expression -/

/-- **A finding on an expression spans all of it.** -/
theorem Arithmetic.mem_checkContent {content : Text} {f : Finding}
    (h : f ∈ Arithmetic.checkContent content) :
    f.offset = 0 ∧ f.width = content.size ∧ f.problem.isInner = true := by
  rw [checkContent, List.mem_map] at h
  obtain ⟨problem, hp, rfl⟩ := h
  refine ⟨rfl, rfl, ?_⟩
  rw [Option.mem_toList] at hp
  unfold contentProblem? at hp
  simp only at hp
  split at hp
  · cases hp; rfl
  · split at hp
    · split at hp <;> cases hp
      rfl
    · split at hp
      · cases hp; rfl
      · split at hp <;> cases hp <;> rfl

end Sigil
