import Sigil.Reference

/-! # Lexemes

    A text read from left to right falls into variable tokens, brackets and
    other single characters. -/

namespace Sigil

/-- A piece of text. -/
inductive Lexeme where
  /-- A variable token. -/
  | token (name : Text)
  /-- The character `[`. -/
  | opening
  /-- The character `]`. -/
  | closing
  /-- Any other character. -/
  | plain (c : Char)
deriving DecidableEq, Repr

namespace Lexeme

/-- The characters of a lexeme. -/
def text : Lexeme → Text
  | token name => name
  | opening => ['[']
  | closing => [']']
  | plain c => [c]

/-- The lexeme of a single character. -/
def ofChar (c : Char) : Lexeme :=
  if c = '[' then opening else if c = ']' then closing else plain c

@[simp] theorem text_ofChar (c : Char) : (ofChar c).text = [c] := by
  simp only [ofChar]
  split
  · simp_all [text]
  · split <;> simp_all [text]

end Lexeme

/-- The lexemes of a text, tokens being as long as possible. -/
def lexemes (t : Text) : List Lexeme :=
  match _h : splitToken? t with
  | some (name, rest) => .token name :: lexemes rest
  | none =>
    match t with
    | [] => []
    | c :: rest => .ofChar c :: lexemes rest
termination_by t.length
decreasing_by
  · exact length_lt_of_splitToken? _h
  · simp

/-- The lexemes make up the text. -/
theorem flatMap_text_lexemes (t : Text) : (lexemes t).flatMap Lexeme.text = t := by
  fun_induction lexemes t with
  | case1 t name rest h ih => simpa [Lexeme.text, ih] using append_of_splitToken? h
  | case2 => rfl
  | case3 c rest h ih => simp [ih]

end Sigil
