import Sigil.Arithmetic.Token

/-! # Evaluation of arithmetic expressions

    Expressions follow the grammar

        expression := term (('+' | '-') term)*
        term       := exponent (('*' | '/' | '%') exponent)*
        exponent   := sign unary | primary ('**' exponent)?
        unary      := sign unary | primary
        primary    := number | '(' expression ')'

    and are evaluated while they are read, over any carrier with the needed
    operations.  Each parenthesis, each sign and each right operand of `**` is
    one level of nesting; `maximumDepth` levels are allowed.

    * `Operations`: the carrier's operations.
    * `State`: the tokens not yet read, and the level of nesting.
    * `evaluate`: the value of a text. -/

namespace Sigil.Arithmetic

/-- What has to be known of numbers in order to evaluate. -/
structure Operations (α : Type) where
  /-- The number that a literal stands for. -/
  literal : Text → α
  add : α → α → α
  sub : α → α → α
  mul : α → α → α
  div : α → α → α
  rem : α → α → α
  pow : α → α → α
  neg : α → α

/-- The levels of nesting that are allowed. -/
def maximumDepth : Nat := 256

/-- The tokens not yet read, and the current level of nesting. -/
structure State where
  rest : List Placed
  depth : Nat
deriving DecidableEq, Repr

namespace State

/-- The next token. -/
def peek? (s : State) : Option Token :=
  s.rest.head?.map Placed.token

/-- The offset of the next token. -/
def offset? (s : State) : Option Nat :=
  s.rest.head?.map Placed.offset

/-- Move past the next token. -/
def advance (s : State) : State :=
  { s with rest := s.rest.tail }

/-- Enter a level of nesting. -/
def descend (s : State) : Except ArithmeticError State :=
  if s.depth + 1 > maximumDepth then .error (.tooDeep (s.offset?.getD 0))
  else .ok { s with depth := s.depth + 1 }

/-- Leave a level of nesting. -/
def ascend (s : State) : State :=
  { s with depth := s.depth - 1 }

end State

section

variable {α : Type} (ops : Operations α)

/- The first argument bounds the number of nested calls.  Every call but the
   ones from a rule to the next rule follows a token, so a small multiple of
   the number of tokens is enough; see `fuelFor`. -/
mutual

/-- `expression := term (('+' | '-') term)*` -/
def expression : Nat → State → Except ArithmeticError (α × State)
  | 0, _ => .error .unexpectedEnd
  | fuel + 1, s => do
    let (value, s) ← term fuel s
    sumFrom fuel value s

/-- The terms that are added to or subtracted from `value`. -/
def sumFrom : Nat → α → State → Except ArithmeticError (α × State)
  | 0, _, _ => .error .unexpectedEnd
  | fuel + 1, value, s =>
    match s.peek? with
    | some .plus => do
      let (operand, s) ← term fuel s.advance
      sumFrom fuel (ops.add value operand) s
    | some .minus => do
      let (operand, s) ← term fuel s.advance
      sumFrom fuel (ops.sub value operand) s
    | _ => .ok (value, s)

/-- `term := exponent (('*' | '/' | '%') exponent)*` -/
def term : Nat → State → Except ArithmeticError (α × State)
  | 0, _ => .error .unexpectedEnd
  | fuel + 1, s => do
    let (value, s) ← exponent fuel s
    productFrom fuel value s

/-- The factors that `value` is multiplied with or divided by. -/
def productFrom : Nat → α → State → Except ArithmeticError (α × State)
  | 0, _, _ => .error .unexpectedEnd
  | fuel + 1, value, s =>
    match s.peek? with
    | some .star => do
      let (operand, s) ← exponent fuel s.advance
      productFrom fuel (ops.mul value operand) s
    | some .slash => do
      let (operand, s) ← exponent fuel s.advance
      productFrom fuel (ops.div value operand) s
    | some .percent => do
      let (operand, s) ← exponent fuel s.advance
      productFrom fuel (ops.rem value operand) s
    | _ => .ok (value, s)

/-- `exponent := sign unary | primary ('**' exponent)?` -/
def exponent : Nat → State → Except ArithmeticError (α × State)
  | 0, _ => .error .unexpectedEnd
  | fuel + 1, s =>
    match s.peek? with
    | some .plus | some .minus => do
      let (value, s) ← unary fuel s
      -- A signed operand has to be put in parentheses to be a base.
      if s.peek? = some .doubleStar then .error (.ambiguousExponent (s.offset?.getD 0))
      else .ok (value, s)
    | _ => do
      let (base, s) ← primary fuel s
      if s.peek? = some .doubleStar then do
        let s ← s.advance.descend
        let (power, s) ← exponent fuel s
        .ok (ops.pow base power, s.ascend)
      else .ok (base, s)

/-- `unary := sign unary | primary` -/
def unary : Nat → State → Except ArithmeticError (α × State)
  | 0, _ => .error .unexpectedEnd
  | fuel + 1, s =>
    match s.peek? with
    | some .plus => do
      let s ← s.advance.descend
      let (value, s) ← unary fuel s
      .ok (value, s.ascend)
    | some .minus => do
      let s ← s.advance.descend
      let (value, s) ← unary fuel s
      .ok (ops.neg value, s.ascend)
    | _ => primary fuel s

/-- `primary := number | '(' expression ')'` -/
def primary : Nat → State → Except ArithmeticError (α × State)
  | 0, _ => .error .unexpectedEnd
  | fuel + 1, s =>
    match s.peek? with
    | some (.number literal) => .ok (ops.literal literal, s.advance)
    | some .leftParen => do
      let opened := s.offset?.getD 0
      let s ← s.advance.descend
      let (value, s) ← expression fuel s
      let s := s.ascend
      match s.peek? with
      | some .rightParen => .ok (value, s.advance)
      | some _ => .error (.unexpectedToken (s.offset?.getD 0))
      | none => .error (.unclosedParenthesis opened)
    | some _ => .error (.unexpectedToken (s.offset?.getD 0))
    | none => .error .unexpectedEnd

end

/-- A bound on the nested calls that reading `tokens` takes. -/
def fuelFor (tokens : List Placed) : Nat :=
  8 * tokens.length + 8

/-- The value of a sequence of tokens, all of which have to be used. -/
def evaluateTokens (tokens : List Placed) : Except ArithmeticError α := do
  if tokens.isEmpty then .error .empty
  else do
    let (value, s) ← expression ops (fuelFor tokens) { rest := tokens, depth := 0 }
    match s.offset? with
    | some offset => .error (.unexpectedToken offset)
    | none => .ok value

/-- The value of an arithmetic expression. -/
def evaluate (t : Text) : Except ArithmeticError α := do
  evaluateTokens ops (← tokenize t)

end

end Sigil.Arithmetic
