import Sigil.Text.Basic

/-! # Variable references

    A reference is a variable token such as `$user`, `$$list` or `&name`,
    together with the bracketed argument lists written directly after it.

    * `splitToken?`: the token at the start of a text, and the rest.
    * `splitGroup`: the bracketed group at the start of a text, and the rest.
    * `replaceReferences`: every reference replaced by a fixed text. -/

namespace Sigil

/-- The characters that introduce a variable. -/
def isSigil (c : Char) : Bool :=
  c == '$' || c == '&'

/-- The characters of a variable's name: ASCII letters, digits and `_`. -/
def isIdentifierChar (c : Char) : Bool :=
  c.isAlphanum || c == '_'

/-! ## Tokens -/

/-- Cut off the run of identifier characters after the sigils `sigils`. -/
def splitIdentifier (sigils rest : Text) : Text × Text :=
  (sigils ++ rest.takeWhile isIdentifierChar, rest.dropWhile isIdentifierChar)

/-- **Token.**  A sigil, perhaps a second sigil, then all identifier characters
    that follow.  A sigil alone is no token. -/
def splitToken? : Text → Option (Text × Text)
  | [] => none
  | [_] => none
  | c :: d :: rest =>
    if isSigil c then
      if isSigil d then some (splitIdentifier [c, d] rest)
      else if isIdentifierChar d then some (splitIdentifier [c] (d :: rest))
      else none
    else none

/-- The token at the start of the text. -/
def token? (t : Text) : Option Text :=
  (splitToken? t).map Prod.fst

theorem splitIdentifier_append (sigils rest : Text) :
    (splitIdentifier sigils rest).1 ++ (splitIdentifier sigils rest).2 = sigils ++ rest := by
  simp [splitIdentifier]

/-- Nothing is lost: the token and the rest make up the text. -/
theorem append_of_splitToken? {t token rest : Text} (h : splitToken? t = some (token, rest)) :
    token ++ rest = t := by
  match t with
  | [] => simp [splitToken?] at h
  | [_] => simp [splitToken?] at h
  | c :: d :: tail =>
    simp only [splitToken?] at h
    split at h
    · split at h
      · have e := splitIdentifier_append [c, d] tail
        simp_all
      · split at h
        · have e := splitIdentifier_append [c] (d :: tail)
          simp_all
        · simp at h
    · simp at h

/-- A token has at least two characters. -/
theorem two_le_length_of_splitToken? {t token rest : Text}
    (h : splitToken? t = some (token, rest)) : 2 ≤ token.length := by
  match t with
  | [] => simp [splitToken?] at h
  | [_] => simp [splitToken?] at h
  | c :: d :: tail =>
    simp only [splitToken?] at h
    split at h
    · split at h
      · simp only [splitIdentifier, Option.some.injEq, Prod.mk.injEq] at h
        rw [← h.1]; simp
      · split at h
        next hd =>
          simp only [splitIdentifier, Option.some.injEq, Prod.mk.injEq] at h
          rw [← h.1]; simp [List.takeWhile, hd]
        · simp at h
    · simp at h

theorem length_lt_of_splitToken? {t token rest : Text}
    (h : splitToken? t = some (token, rest)) : rest.length < t.length := by
  have e := append_of_splitToken? h
  have l := two_le_length_of_splitToken? h
  rw [← e, List.length_append]; omega

/-! ## Bracketed groups -/

/-- **Group.**  Inside `depth` open brackets: the text up to the bracket that
    closes the outermost of them, and the rest.  If that bracket is missing the
    group is the whole text. -/
def splitGroup (depth : Nat) : Text → Text × Text
  | [] => ([], [])
  | c :: rest =>
    if c = '[' then
      let (group, after) := splitGroup (depth + 1) rest
      (c :: group, after)
    else if c = ']' then
      if depth ≤ 1 then ([c], rest)
      else
        let (group, after) := splitGroup (depth - 1) rest
        (c :: group, after)
    else
      let (group, after) := splitGroup depth rest
      (c :: group, after)

/-- Number of bytes of the bracketed group at the start of the text, both
    brackets included, or of the whole text if the group is never closed. -/
def groupSize (t : Text) : Nat :=
  (splitGroup 0 t).1.size

theorem splitGroup_append (depth : Nat) (t : Text) :
    (splitGroup depth t).1 ++ (splitGroup depth t).2 = t := by
  induction t generalizing depth with
  | nil => rfl
  | cons c t ih =>
    simp only [splitGroup]
    split
    · simp [ih]
    · split
      · split <;> simp [ih]
      · simp [ih]

theorem length_splitGroup_le (depth : Nat) (t : Text) :
    (splitGroup depth t).2.length ≤ t.length := by
  have h := congrArg List.length (splitGroup_append depth t)
  rw [List.length_append] at h; omega

theorem length_splitGroup_cons_lt (depth : Nat) (c : Char) (t : Text) :
    (splitGroup depth (c :: t)).2.length < (c :: t).length := by
  simp only [splitGroup]
  have le := fun d => length_splitGroup_le d t
  split
  · have := le (depth + 1); simp only [List.length_cons]; omega
  · split
    · split
      · simp
      · have := le (depth - 1); simp only [List.length_cons]; omega
    · have := le depth; simp only [List.length_cons]; omega

/-- The text after all groups that stand directly at its start. -/
def dropGroups (t : Text) : Text :=
  match t with
  | [] => []
  | c :: rest => if c = '[' then dropGroups (splitGroup 0 (c :: rest)).2 else c :: rest
termination_by t.length
decreasing_by exact length_splitGroup_cons_lt 0 c rest

theorem length_dropGroups_le (t : Text) : (dropGroups t).length ≤ t.length := by
  fun_induction dropGroups t with
  | case1 => simp
  | case2 rest ih =>
    have := length_splitGroup_cons_lt 0 '[' rest; omega
  | case3 => simp

/-! ## Replacement -/

/-- **Replacement.**  Every reference, its argument lists included, becomes
    `replacement`; an argument list left open runs to the end of the text. -/
def replaceReferences (replacement : Text) (t : Text) : Text :=
  match _h : splitToken? t with
  | some (_, rest) => replacement ++ replaceReferences replacement (dropGroups rest)
  | none =>
    match t with
    | [] => []
    | c :: rest => c :: replaceReferences replacement rest
termination_by t.length
decreasing_by
  · have := length_lt_of_splitToken? _h
    have := length_dropGroups_le rest
    omega
  · simp

/-- Does a sigil stand directly before a letter or an underscore?  Such a text
    depends on a variable and cannot be judged as it stands. -/
def mentionsVariable : Text → Bool
  | [] => false
  | [_] => false
  | c :: d :: rest =>
    (isSigil c && (d.isAlpha || d == '_')) || mentionsVariable (d :: rest)

end Sigil
