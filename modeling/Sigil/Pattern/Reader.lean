import Sigil.Text.Letter
import Sigil.Pattern.Class

/-! # Reading patterns

    A pattern is read from left to right.  The parts read since the last opening
    parenthesis or bar wait in order; groups and alternations that are still
    open form a stack.

    * `readTree`: the syntax tree of a pattern. -/

namespace Sigil.Pattern

/-! ## Flags -/

/-- The flag of a letter. -/
def Flag.ofChar? : Char → Option Flag
  | 'i' => some .caseInsensitive
  | 'm' => some .multiLine
  | 's' => some .dotMatchesNewLine
  | 'U' => some .swapGreed
  | 'u' => some .unicode
  | 'R' => some .carriageReturns
  | 'x' => some .ignoreWhitespace
  | _ => none

/-- Flags up to a colon or a closing parenthesis.  `items` are those read, last
    first. -/
def readFlags : Nat → List FlagItem → Cursor → Except Fault (List FlagItem × Cursor)
  | 0, _, cur => cur.fault .flagUnexpectedEnd
  | fuel + 1, items, cur =>
    match cur.peek? with
    | none => cur.fault .flagUnexpectedEnd
    | some c =>
      if c = ':' || c = ')' then
        if items.head? = some .negation then faultAt (cur.position - 1) .flagDanglingNegation
        else .ok (items.reverse, cur)
      else if c = '-' then
        if items.contains .negation then cur.fault .flagRepeatedNegation
        else readFlags fuel (.negation :: items) cur.bump
      else
        match Flag.ofChar? c with
        | none => cur.fault .flagUnrecognized
        | some f =>
          if items.contains (.flag f) then cur.fault .flagDuplicate
          else readFlags fuel (.flag f :: items) cur.bump

/-! ## Groups -/

/-- The characters of a group's name: letters and `_`, and from the second
    character on also numerals, dots and brackets. -/
def isNameChar (first : Bool) (c : Char) : Bool :=
  if first then c == '_' || isLetter c
  else c == '_' || c == '.' || c == '[' || c == ']' || isLetterOrNumeral c

/-- The name of a group up to its closing angle bracket. -/
def readGroupName : Nat → Bool → Cursor → Except Fault (Text × Cursor)
  | 0, _, cur => cur.fault .groupNameUnexpectedEnd
  | fuel + 1, first, cur =>
    match cur.peek? with
    | none => cur.fault .groupNameUnexpectedEnd
    | some c =>
      if c = '>' then .ok ([], cur.bump)
      else if isNameChar first c then do
        let (name, cur) ← readGroupName fuel false cur.bump
        return (c :: name, cur)
      else cur.fault .groupNameInvalid

/-- What an opening parenthesis introduces. -/
inductive Opening where
  /-- Flags for the rest of the surrounding group. -/
  | flags (items : List FlagItem)
  /-- A group, with the flags that hold inside. -/
  | group (items : List FlagItem)
  /-- A group that has a name. -/
  | named (name : Text)

/-- What an opening parenthesis introduces, from the parenthesis on. -/
def readOpening (names : List Text) (cur : Cursor) : Except Fault (Opening × Cursor) :=
  let start := cur.position
  let cur := cur.bumpAndSkip
  let named (cur : Cursor) : Except Fault (Opening × Cursor) := do
    let first := cur.position
    let (name, cur) ← readGroupName (cur.rest.length + 1) true cur
    if name.isEmpty then faultAt first .groupNameEmpty
    else if names.contains name then faultAt first .groupNameDuplicate
    else return (.named name, cur)
  if cur.startsWith "?=" || cur.startsWith "?!" || cur.startsWith "?<=" || cur.startsWith "?<!"
  then faultAt start .unsupportedLookAround
  else if cur.startsWith "?P<" then named (cur.bumpBy 3)
  else if cur.startsWith "?<" then named (cur.bumpBy 2)
  else if cur.startsWith "?" then
    let inner := cur.bump
    if inner.atEnd then faultAt start .groupUnclosed
    else do
      let (items, after) ← readFlags (inner.rest.length + 1) [] inner
      if after.peek? = some ')' then
        -- Without flags this is a question mark that repeats nothing.
        if items.isEmpty then faultAt cur.position .repetitionMissing
        else return (.flags items, after.bump)
      else return (.group items, after.bump)
  else .ok (.group [], cur)

/-! ## Repetitions -/

/-- A decimal number, with blanks around it. -/
def readDecimalDigits : Nat → Nat → Nat → Cursor → Nat × Nat × Cursor
  | 0, value, count, cur => (value, count, cur)
  | fuel + 1, value, count, cur =>
    match cur.peek? with
    | some c =>
      if c.isDigit then
        readDecimalDigits fuel (10 * value + (c.toNat - '0'.toNat)) (count + 1) cur.bumpAndSkip
      else (value, count, cur)
    | none => (value, count, cur)

/-- The count of a repetition: a number below `2 ^ 32`.  What is wrong with it is
    kept, since a missing brace is reported first. -/
def readCount (cur : Cursor) : Except Fault Nat × Cursor :=
  let cur := cur.skipWhile isBlank
  let start := cur.position
  let (value, count, cur) := readDecimalDigits (cur.rest.length + 1) 0 0 cur
  let cur := cur.skipWhile isBlank
  if count = 0 then (faultAt start .repetitionCountDecimalEmpty, cur)
  else if Nat.pow 2 32 ≤ value then (faultAt start .decimalInvalid, cur)
  else (.ok value, cur)

/-- The counts of a repetition, from its opening brace on. -/
def readCounts (cur : Cursor) : Except Fault Cursor :=
  let start := cur.position
  let unclosed : Except Fault Cursor := faultAt start .repetitionCountUnclosed
  -- The closing brace, and perhaps the mark of a lazy repetition.
  let close (valid : Bool) (cur : Cursor) : Except Fault Cursor :=
    if cur.peek? ≠ some '\x7d' then unclosed
    else
      let cur := cur.bumpAndSkip
      let cur := if cur.peek? = some '?' then cur.bump else cur
      if valid then .ok cur else faultAt start .repetitionCountInvalid
  let cur := cur.bumpAndSkip
  if cur.atEnd then unclosed
  else
    let (low, cur) := readCount cur
    if cur.atEnd then unclosed
    else if cur.peek? = some ',' then
      let cur := cur.bumpAndSkip
      if cur.atEnd then unclosed
      else if cur.peek? = some '\x7d' then do
        let _ ← low
        close true cur
      else do
        let low ← low
        let (high, cur) := readCount cur
        let high ← high
        close (low ≤ high) cur
    else do
      let _ ← low
      close true cur

/-! ## Patterns -/

/-- What is open: a group, with the parts before it, its flags, and the mode
    that holds again after it; or an alternation, with its branches so far. -/
inductive GroupState where
  | group (parts : List Node) (partsStart : Nat) (start : Nat) (flags : List FlagItem)
      (verbose : Bool)
  | alternation (branches : List Node) (start : Nat)

/-- A pattern as far as it has been read: what is open, the parts read since,
    and the names given to groups.  Lists have the last part first. -/
structure PatternReading where
  stack : List GroupState
  parts : List Node
  partsStart : Nat
  names : List Text

namespace PatternReading

/-- Nothing is read yet. -/
def start : PatternReading :=
  { stack := [], parts := [], partsStart := 0, names := [] }

/-- Add a part. -/
def push (r : PatternReading) (part : Node) : PatternReading :=
  { r with parts := part :: r.parts }

/-- The parts since something was opened, put together. -/
def sequence (r : PatternReading) : Node :=
  .ofParts r.partsStart r.parts.reverse

/-- Read a bar: the parts before it are a branch. -/
def pushBranch (r : PatternReading) (position : Nat) : PatternReading :=
  let stack := match r.stack with
    | .alternation branches start :: rest => .alternation (r.sequence :: branches) start :: rest
    | stack => .alternation [r.sequence] r.partsStart :: stack
  { r with stack, parts := [], partsStart := position }

/-- The part that a repetition applies to, and the reading without it. -/
def operand? (r : PatternReading) : Option (Node × PatternReading) :=
  match r.parts with
  | [] => none
  | .empty :: _ => none
  | .flags _ :: _ => none
  | part :: rest => some (part, { r with parts := rest })

/-- The body of what is open innermost, with its last branch, and what remains
    open around it. -/
def body (r : PatternReading) : Node × List GroupState :=
  match r.stack with
  | .alternation branches start :: rest =>
    (.alternation start (r.sequence :: branches).reverse, rest)
  | stack => (r.sequence, stack)

/-- Read an opening parenthesis. -/
def openGroup (r : PatternReading) (cur : Cursor) : Except Fault (PatternReading × Cursor) := do
  let start := cur.position
  let (opening, after) ← readOpening r.names cur
  let enter (items : List FlagItem) (names : List Text) : PatternReading × Cursor :=
    ({ stack := .group r.parts r.partsStart start items cur.verbose :: r.stack
       parts := []
       partsStart := after.position
       names },
     { after with verbose := (flagState .ignoreWhitespace items).getD cur.verbose })
  match opening with
  | .flags items =>
    return (r.push (.flags items),
      { after with verbose := (flagState .ignoreWhitespace items).getD cur.verbose })
  | .group items => return enter items r.names
  | .named name => return enter [] (name :: r.names)

/-- Read a closing parenthesis. -/
def closeGroup (r : PatternReading) (cur : Cursor) : Except Fault (PatternReading × Cursor) :=
  match r.body with
  | (body, .group parts partsStart start flags verbose :: stack) =>
    .ok ({ r with stack, parts := .group start flags body :: parts, partsStart },
      { cur.bump with verbose })
  | _ => cur.fault .groupUnopened

/-- The whole pattern, at its end. -/
def finish (r : PatternReading) : Except Fault Node :=
  match r.body with
  | (body, []) => .ok body
  | (_, .group _ _ start _ _ :: _) => faultAt start .groupUnclosed
  | (_, .alternation _ start :: _) => faultAt start .groupUnclosed

end PatternReading

/-- A character without parts of its own. -/
def readPrimitive (cur : Cursor) : Except Fault (Primitive × Cursor) :=
  match cur.peek? with
  | some '\\' => readEscape cur
  | some '.' => .ok (.dot cur.position, cur.bump)
  | some '^' | some '$' => .ok (.assertion cur.position, cur.bump)
  | some c => .ok (.literal ⟨cur.position, c, false⟩, cur.bump)
  | none => cur.fault .escapeUnexpectedEnd

/-- Read the rest of a pattern. -/
def readPatternFrom : Nat → PatternReading → Cursor → Except Fault Node
  | 0, r, _ => r.finish
  | fuel + 1, r, cur =>
    let cur := cur.skipBlanks
    match cur.peek? with
    | none => r.finish
    | some '(' => do
      let (r, cur) ← r.openGroup cur
      readPatternFrom fuel r cur
    | some ')' => do
      let (r, cur) ← r.closeGroup cur
      readPatternFrom fuel r cur
    | some '|' =>
      let cur := cur.bump
      readPatternFrom fuel (r.pushBranch cur.position) cur
    | some '[' => do
      let (node, cur) ← readClass cur
      readPatternFrom fuel (r.push node) cur
    | some '?' | some '*' | some '+' =>
      match r.operand? with
      | none => cur.fault .repetitionMissing
      | some (operand, r) =>
        let position := cur.position
        let cur := cur.bump
        let cur := if cur.peek? = some '?' then cur.bump else cur
        readPatternFrom fuel (r.push (.repetition position operand)) cur
    | some '\x7b' =>
      match r.operand? with
      | none => cur.fault .repetitionMissing
      | some (operand, r) => do
        let position := cur.position
        let cur ← readCounts cur
        readPatternFrom fuel (r.push (.repetition position operand)) cur
    | some _ => do
      let (primitive, cur) ← readPrimitive cur
      readPatternFrom fuel (r.push primitive.toNode) cur

/-- The syntax tree of a pattern. -/
def readTree (pattern : Text) : Except Fault Node := do
  let node ← readPatternFrom (pattern.length + 1) .start ⟨pattern, 0, false⟩
  node.checkNesting 0
  return node

end Sigil.Pattern
