import Sigil.Finding
import Sigil.Reference
import Sigil.Text.Blank

/-! # Styles

    A unit in a style declaration has to stand directly after the argument list
    of a variable: `width: $arg[1]px;` and not `width: $arg[1] px;`.

    * `Style.declarations`: the declarations of a text whose value starts with a
      variable.
    * `Style.check`: those of them with a detached unit.
    * `Style.regions`: where a markup text holds styles. -/

namespace Sigil.Style

/-! ## Declarations -/

/-- The characters of a property's name. -/
def isPropertyChar (c : Char) : Bool :=
  c.isAlpha || c == '-'

/-- **Declaration.**  A property, a colon, blanks, a `$`, at least one more
    character that is no semicolon, and all up to the next semicolon. -/
def splitDeclaration? (t : Text) : Option (Text × Text) :=
  let property := t.takeWhile isPropertyChar
  if property.isEmpty then none
  else
    match t.dropWhile isPropertyChar with
    | ':' :: afterColon =>
      let blanks := afterColon.takeWhile isBlank
      match afterColon.dropWhile isBlank with
      | '$' :: afterSigil =>
        let value := afterSigil.takeWhile (· != ';')
        if value.isEmpty then none
        else
          match afterSigil.dropWhile (· != ';') with
          | ';' :: rest => some (property ++ ':' :: blanks ++ '$' :: value ++ [';'], rest)
          | _ => none
      | _ => none
    | _ => none

theorem length_lt_of_splitDeclaration? {t declaration rest : Text}
    (h : splitDeclaration? t = some (declaration, rest)) : rest.length < t.length := by
  simp only [splitDeclaration?] at h
  split at h
  · simp at h
  · split at h
    next afterColon e₁ =>
      split at h
      next afterSigil e₂ =>
        split at h
        · simp at h
        · split at h
          next tail e₃ =>
            have l₁ := (List.dropWhile_suffix (l := t) isPropertyChar).length_le
            have l₂ := (List.dropWhile_suffix (l := afterColon) isBlank).length_le
            have l₃ := (List.dropWhile_suffix (l := afterSigil) (· != ';')).length_le
            rw [e₁] at l₁
            rw [e₂] at l₂
            rw [e₃] at l₃
            simp only [Option.some.injEq, Prod.mk.injEq] at h
            rw [← h.2]
            simp only [List.length_cons] at l₁ l₂ l₃
            omega
          · simp at h
      · simp at h
    · simp at h

/-- The declarations of a text that starts at `offset`, each with its offset. -/
def declarationsFrom (offset : Nat) (t : Text) : List (Nat × Text) :=
  match _h : splitDeclaration? t with
  | some (declaration, rest) =>
    (offset, declaration) :: declarationsFrom (offset + declaration.size) rest
  | none =>
    match t with
    | [] => []
    | c :: rest => declarationsFrom (offset + c.utf8Size) rest
termination_by t.length
decreasing_by
  · exact length_lt_of_splitDeclaration? _h
  · simp

/-- The declarations of a text, from left to right. -/
def declarations (t : Text) : List (Nat × Text) :=
  declarationsFrom 0 t

/-! ## Units -/

/-- The units that are looked for. -/
def units : List Text := ["px".toList, "em".toList, "%".toList]

/-- Does the text start with a unit? -/
def startsWithUnit (t : Text) : Bool :=
  units.any (·.isPrefixOf t)

/-- Does a unit stand directly after the argument list of some variable? -/
def hasAttachedUnit (t : Text) : Bool :=
  match _h : splitToken? t with
  | some (_, rest) =>
    (rest.head? == some '[' && startsWithUnit (dropGroups rest))
      || hasAttachedUnit (dropGroups rest)
  | none =>
    match t with
    | [] => false
    | _ :: rest => hasAttachedUnit rest
termination_by t.length
decreasing_by
  · have := length_lt_of_splitToken? _h
    have := length_dropGroups_le rest
    omega
  · simp

/-- Is a unit mentioned, but nowhere attached? -/
def hasDetachedUnit (declaration : Text) : Bool :=
  units.any (Text.contains · declaration) && !hasAttachedUnit declaration

/-- **Style checks.**  The declarations with a detached unit. -/
def check (t : Text) : List Finding :=
  (declarations t).filterMap fun (offset, declaration) =>
    if hasDetachedUnit declaration then
      some { problem := .missingCssUnit, offset, width := declaration.size }
    else none

/-! ## Regions -/

/-- A part of a text, from the offset `start` up to the offset `stop`. -/
structure Region where
  start : Nat
  stop : Nat
deriving DecidableEq, Repr

/-- The regions of a text that starts at `offset`; `open?` is where the region
    around this place started, if there is one. -/
def regionsFrom (open? : Option Nat) (offset : Nat) : Text → List Region
  | [] => (open?.map fun start => ⟨start, offset⟩).toList
  | c :: rest =>
    match open? with
    | none =>
      if "<style".toList.isPrefixOf (c :: rest) then
        regionsFrom (some offset) (offset + c.utf8Size) rest
      else regionsFrom none (offset + c.utf8Size) rest
    | some start =>
      if "</style>".toList.isPrefixOf (c :: rest) then
        ⟨start, offset⟩ :: regionsFrom none (offset + c.utf8Size) rest
      else regionsFrom (some start) (offset + c.utf8Size) rest

/-- **Regions.**  The style elements of a markup text, each from its opening tag
    up to its closing tag, or to the end of the text. -/
def regions (t : Text) : List Region :=
  regionsFrom none 0 t

/-- The findings in the style elements of a markup text. -/
def checkRegions (t : Text) : List Finding :=
  (regions t).flatMap fun region =>
    (check (Text.slice t region.start region.stop)).map (Finding.shift region.start)

end Sigil.Style
