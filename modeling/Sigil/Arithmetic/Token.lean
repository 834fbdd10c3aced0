import Sigil.Text.Blank

/-! # Arithmetic tokens

    An arithmetic expression is read as a sequence of numbers, operators and
    parentheses, each with the offset at which it starts.

    * `ArithmeticError`: everything that can be wrong with an expression.
    * `tokenize`: the tokens of a text, blanks left out. -/

namespace Sigil.Arithmetic

/-- Why a text is not an arithmetic expression.  Offsets are in bytes. -/
inductive ArithmeticError where
  /-- There is nothing but blanks. -/
  | empty
  /-- The digits and dots from here on are not a number. -/
  | invalidNumber (offset : Nat)
  /-- No token starts with this character. -/
  | invalidCharacter (offset : Nat) (c : Char)
  /-- `++` or `--`. -/
  | incrementOperator (offset : Nat)
  /-- Something else has to stand here. -/
  | unexpectedToken (offset : Nat)
  /-- Something has to follow. -/
  | unexpectedEnd
  /-- The parenthesis opened here has no partner. -/
  | unclosedParenthesis (offset : Nat)
  /-- A signed operand stands before this `**`. -/
  | ambiguousExponent (offset : Nat)
  /-- One level of nesting too many. -/
  | tooDeep (offset : Nat)
deriving DecidableEq, Repr

namespace ArithmeticError

/-- An offset in decimal digits. -/
def digits (n : Nat) : Text :=
  Nat.toDigits 10 n

/-- The wording of each error. -/
def message : ArithmeticError → Text
  | empty => "empty expression".toList
  | invalidNumber offset => "invalid number at ".toList ++ digits offset
  | invalidCharacter offset c =>
    "invalid character '".toList ++ [c] ++ "' at ".toList ++ digits offset
  | incrementOperator offset => "increment or decrement operator at ".toList ++ digits offset
  | unexpectedToken offset => "unexpected token at ".toList ++ digits offset
  | unexpectedEnd => "unexpected end of input".toList
  | unclosedParenthesis offset =>
    "parenthesis opened at ".toList ++ digits offset ++ " is never closed".toList
  | ambiguousExponent offset =>
    "unary operator before '**' at ".toList ++ digits offset ++ " needs parenthesis".toList
  | tooDeep offset => "expression nested too deeply at ".toList ++ digits offset

end ArithmeticError

/-- A token.  A number is kept as it is written. -/
inductive Token where
  | number (literal : Text)
  | plus
  | minus
  | star
  | doubleStar
  | slash
  | percent
  | leftParen
  | rightParen
deriving DecidableEq, Repr

/-- A token and the offset at which it starts. -/
structure Placed where
  offset : Nat
  token : Token
deriving DecidableEq, Repr

/-- Digits and dots make up numbers. -/
def isNumberChar (c : Char) : Bool :=
  c.isDigit || c == '.'

/-- A number has at most one dot and is more than a dot. -/
def isNumber (literal : Text) : Bool :=
  literal.count '.' ≤ 1 && literal.any Char.isDigit

/-- The token of a character that is a token by itself, whatever follows. -/
def Token.ofChar? (c : Char) : Option Token :=
  if c = '/' then some .slash
  else if c = '%' then some .percent
  else if c = '(' then some .leftParen
  else if c = ')' then some .rightParen
  else none

/-- **Tokens.**  The tokens of the text `t`, which starts at `offset`.  Of two
    stars the first pair is one token; two equal signs side by side are an
    error, and so are digits and dots that make no number. -/
def tokenizeFrom (offset : Nat) (t : Text) : Except ArithmeticError (List Placed) :=
  match t with
  | [] => .ok []
  | c :: rest =>
    if isBlank c then tokenizeFrom (offset + c.utf8Size) rest
    else if c = '+' || c = '-' then
      if rest.head? = some c then .error (.incrementOperator offset)
      else do
        let tokens ← tokenizeFrom (offset + 1) rest
        return ⟨offset, if c = '+' then .plus else .minus⟩ :: tokens
    else if c = '*' then
      match rest with
      | '*' :: rest => do
        let tokens ← tokenizeFrom (offset + 2) rest
        return ⟨offset, .doubleStar⟩ :: tokens
      | rest => do
        let tokens ← tokenizeFrom (offset + 1) rest
        return ⟨offset, .star⟩ :: tokens
    else if isNumberChar c then
      let literal := c :: rest.takeWhile isNumberChar
      if isNumber literal then do
        let tokens ← tokenizeFrom (offset + literal.length) (rest.dropWhile isNumberChar)
        return ⟨offset, .number literal⟩ :: tokens
      else .error (.invalidNumber offset)
    else
      match Token.ofChar? c with
      | some token => do
        let tokens ← tokenizeFrom (offset + 1) rest
        return ⟨offset, token⟩ :: tokens
      | none => .error (.invalidCharacter offset c)
termination_by t.length
decreasing_by
  all_goals simp only [List.length_cons]
  all_goals first
    | omega
    | exact Nat.lt_succ_of_le (List.dropWhile_suffix _).length_le

/-- The tokens of a text. -/
def tokenize (t : Text) : Except ArithmeticError (List Placed) :=
  tokenizeFrom 0 t

end Sigil.Arithmetic
