import Sigil.Document
import Sigil.Frame
import Sigil.Reference
import Sigil.Style

/-! # Cursors

    What can be completed at a cursor depends on the line before it: on the open
    brackets, on the variables that take patterns, and on whether it is part of a
    style.

    * `Cursor`: the situation at a cursor.
    * `Cursor.openBrackets`: the brackets that a line leaves open.
    * `Cursor.classify`: the situation at an offset of a document. -/

namespace Sigil

/-- The situation at a cursor. -/
structure Cursor where
  /-- Some open bracket belongs to a variable. -/
  isNested : Bool := false
  /-- Some open bracket belongs to `$math`. -/
  inMath : Bool := false
  /-- A variable that takes a pattern stands earlier on the line. -/
  inRegexArgument : Bool := false
  /-- The cursor is in a stylesheet, a style element or an inline style. -/
  inStyle : Bool := false
  /-- The variable of the innermost open bracket that belongs to one. -/
  parent : Option Text := none
  /-- The line up to the cursor. -/
  line : Text := []
deriving DecidableEq, Repr

namespace Cursor

/-- The variables that take a pattern. -/
def regexVariables : List Text :=
  ["$replace", "$regexTest", "$regexExec", "$regexMatches"].map String.toList

/-! ## Open brackets -/

/-- The frames after the character `c` at `offset`, which is part of no token; a `[`
    opens a frame of `owner`. -/
def framesAfter (frames : Frames) (owner : Option Text) (offset : Nat) (c : Char) : Frames :=
  if c = '[' then frames.push owner offset
  else if c = ']' then (frames.pop?.map Prod.snd).getD frames
  else frames

/-- The frames left open by the text `t` that starts at `offset`, when `frames` are
    open before it.  If `t` starts with a `[`, then `owner` is the token before it.
    What stands in the frames is not kept. -/
def replay (frames : Frames) (owner : Option Text) (offset : Nat) (t : Text) : Frames :=
  match _h : splitToken? t with
  | some (name, rest) =>
    replay frames (if rest.head? = some '[' then some name else none) (offset + name.size) rest
  | none =>
    match t with
    | [] => frames
    | c :: rest => replay (framesAfter frames owner offset c) none (offset + c.utf8Size) rest
termination_by t.length
decreasing_by
  · exact length_lt_of_splitToken? _h
  · simp

/-- **Open brackets.**  The frames that a line leaves open. -/
def openBrackets (line : Text) : Frames :=
  replay .empty none 0 line

/-! ## Inline styles -/

/-- Is a character one of the quotes? -/
def isQuote (c : Char) : Bool :=
  c == '"' || c == Char.ofNat 0x27

/-- Does the text start with the attribute `style`, and does its value reach the
    end of the text? -/
def startsOpenAttribute (t : Text) : Bool :=
  "style".toList.isPrefixOf t &&
    match (t.drop 5).dropWhile isBlank with
    | '=' :: rest =>
      match rest.dropWhile isBlank with
      | quote :: value => isQuote quote && !value.any isQuote
      | [] => false
    | _ => false

/-- Is there an attribute `style` whose value reaches the end of the text? -/
def inStyleAttribute : Text → Bool
  | [] => false
  | c :: rest => startsOpenAttribute (c :: rest) || inStyleAttribute rest

/-- Is there an open brace, a property in it, a colon after the property, and
    then neither a semicolon nor a closing brace?  `before` is the text read so
    far, last character first. -/
def inBlockFrom (before : Text) : Text → Bool
  | [] => false
  | c :: rest =>
    (c == ':'
      && !rest.any (fun d => d == ';' || d == '\x7d')
      && (before.dropWhile isBlank).head?.any Style.isPropertyChar
      && (before.takeWhile (· != '\x7d')).any (· == '\x7b'))
    || inBlockFrom (c :: before) rest

/-- Is the end of the line in the value of an inline style? -/
def inInlineStyle (line : Text) : Bool :=
  inStyleAttribute line || inBlockFrom [] line

/-! ## Classification -/

/-- Is the offset in a style element?  Its start is not, its end is. -/
def inStyleElement (t : Text) (offset : Nat) : Bool :=
  (Style.regions t).any fun region => region.start < offset && offset ≤ region.stop

/-- The text before the offset, back to the last newline. -/
def lineBefore (t : Text) (offset : Nat) : Text :=
  ((Text.takeBytes offset t).reverse.takeWhile (· != '\n')).reverse

/-- **Classification.**  The situation at an offset of a document.  An offset
    inside a character counts as the character's start, one beyond the text as
    its end. -/
def classify (kind : DocumentKind) (t : Text) (offset : Nat) : Cursor :=
  let line := lineBefore t offset
  let owners := (openBrackets line).owners
  { isNested := owners.head?.isSome
    inMath := owners.contains "$math".toList
    inRegexArgument := regexVariables.any (Text.contains · line)
    inStyle := match kind with
      | .stylesheet => true
      | .markup => inStyleElement t (t.boundary offset) || inInlineStyle line
      | .script => inInlineStyle line
    parent := owners.head?
    line }

end Cursor

end Sigil
