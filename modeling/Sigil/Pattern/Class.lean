import Sigil.Pattern.Escape

/-! # Bracketed classes

    A class lists characters, ranges and other classes between brackets, and may
    combine them by `&&`, `--` and `~~`, all of which associate to the left.
    Classes that are open form a stack, together with the operators that still
    wait for their right operand. -/

namespace Sigil.Pattern

/-- The names of ASCII classes, as in `[:alpha:]`. -/
def asciiClassNames : List Text :=
  ["alnum".toList, "alpha".toList, "ascii".toList, "blank".toList, "cntrl".toList,
    "digit".toList, "graph".toList, "lower".toList, "print".toList, "punct".toList,
    "space".toList, "upper".toList, "word".toList, "xdigit".toList]

/-- An ASCII class, from its opening bracket on.  If there is none, the bracket
    opens a class of the usual kind. -/
def asciiClass? (cur : Cursor) : Option (ClassItem × Cursor) :=
  if !cur.startsWith "[:" then none
  else
    let inner := cur.bumpBy 2
    let negated := inner.peek? = some '^'
    let inner := if negated then inner.bump else inner
    let after := inner.skipWhile (· != ':')
    let name := inner.rest.takeWhile (· != ':')
    if after.startsWith ":]" && asciiClassNames.contains name then
      some (.ascii cur.position negated, after.bumpBy 2)
    else none

/-- What is open: a class, with the items of the class around it that came
    before; or an operator, with its left operand. -/
inductive ClassState where
  | opened (items : List ClassItem) (itemsStart : Nat) (start : Nat) (negated : Bool)
  | operator (operator : SetOperator) (left : ClassSet)

/-- A class as far as it has been read: what is open, and the items, last first,
    that were read since. -/
structure ClassReading where
  stack : List ClassState
  items : List ClassItem
  itemsStart : Nat

namespace ClassReading

/-- Add an item. -/
def push (r : ClassReading) (item : ClassItem) : ClassReading :=
  { r with items := item :: r.items }

/-- The items read since something was opened, as a set; if an operator waits
    for them, the operation. -/
def operand (r : ClassReading) : ClassSet × List ClassState :=
  let set := ClassSet.item (.ofItems r.itemsStart r.items.reverse)
  match r.stack with
  | .operator op left :: rest => (.binary r.itemsStart op left set, rest)
  | stack => (set, stack)

/-- Read an operator: what came before it in the class is its left operand. -/
def pushOperator (r : ClassReading) (op : SetOperator) (position : Nat) : ClassReading :=
  let (left, stack) := r.operand
  { stack := .operator op left :: stack, items := [], itemsStart := position }

/-- The fault of a class that is not closed: it concerns the innermost one. -/
def unclosed {α : Type} (r : ClassReading) : Except Fault α :=
  let start := r.stack.findSome? fun
    | .opened _ _ start _ => some start
    | .operator _ _ => none
  faultAt (start.getD 0) .classUnclosed

end ClassReading

/-- Dashes at the start of a class, which stand for themselves. -/
def readLeadingDashes (start : Nat) : Nat → List ClassItem → Cursor →
    Except Fault (List ClassItem × Cursor)
  | 0, items, cur => .ok (items, cur)
  | fuel + 1, items, cur =>
    if cur.peek? = some '-' then
      let item := ClassItem.literal ⟨cur.position, '-', false⟩
      let cur := cur.bumpAndSkip
      if cur.atEnd then faultAt start .classUnclosed
      else readLeadingDashes start fuel (item :: items) cur
    else .ok (items, cur)

/-- The start of a class: its bracket, perhaps `^`, and then the dashes or the
    bracket that stand for themselves there. -/
def openClass (r : ClassReading) (cur : Cursor) : Except Fault (ClassReading × Cursor) := do
  let start := cur.position
  let cur := cur.bumpAndSkip
  if cur.atEnd then faultAt start .classUnclosed
  else
    let negated := cur.peek? = some '^'
    let cur := if negated then cur.bumpAndSkip else cur
    if cur.atEnd then faultAt start .classUnclosed
    else
      let itemsStart := cur.position
      let (items, cur) ← readLeadingDashes start (cur.rest.length + 1) [] cur
      let stack := .opened r.items r.itemsStart start negated :: r.stack
      if items.isEmpty && cur.peek? = some ']' then
        let item := ClassItem.literal ⟨cur.position, ']', false⟩
        let cur := cur.bumpAndSkip
        if cur.atEnd then faultAt start .classUnclosed
        else return ({ stack, items := [item], itemsStart }, cur)
      else return ({ stack, items, itemsStart }, cur)

/-- A character of a class or an escape. -/
def readClassPrimitive (cur : Cursor) : Except Fault (Primitive × Cursor) :=
  match cur.peek? with
  | some '\\' => readEscape cur
  | some c => .ok (.literal ⟨cur.position, c, false⟩, cur.bump)
  | none => cur.fault .classUnclosed

/-- An item of a class, which may turn out to be a range.  A dash before the
    closing bracket or before another dash makes no range. -/
def readClassItem (r : ClassReading) (cur : Cursor) : Except Fault (ClassItem × Cursor) := do
  let (first, cur) ← readClassPrimitive cur
  let cur := cur.skipBlanks
  if cur.atEnd then r.unclosed
  else if cur.peek? ≠ some '-' || cur.peekSecond? = some ']' || cur.peekSecond? = some '-' then
    return (← first.toClassItem, cur)
  else
    let cur := cur.bumpAndSkip
    if cur.atEnd then r.unclosed
    else
      let (last, cur) ← readClassPrimitive cur
      let low ← first.toLiteral
      let high ← last.toLiteral
      if high.char < low.char then faultAt low.position .classRangeInvalid
      else return (.range low high, cur)

/-- The operator at the cursor, if two equal operator characters stand there. -/
def operatorAt? (cur : Cursor) : Option SetOperator :=
  if cur.startsWith "&&" then some .intersection
  else if cur.startsWith "--" then some .difference
  else if cur.startsWith "~~" then some .symmetricDifference
  else none

/-- Read a class to the end of its outermost bracket. -/
def readClassFrom : Nat → ClassReading → Cursor → Except Fault (Node × Cursor)
  | 0, r, _ => r.unclosed
  | fuel + 1, r, cur =>
    let cur := cur.skipBlanks
    match cur.peek? with
    | none => r.unclosed
    | some '[' =>
      -- Inside a class a bracket may also open an ASCII class.
      match (if r.stack.isEmpty then none else asciiClass? cur) with
      | some (item, cur) => readClassFrom fuel (r.push item) cur
      | none => do
        let (r, cur) ← openClass r cur
        readClassFrom fuel r cur
    | some ']' =>
      match r.operand with
      | (set, .opened items itemsStart start negated :: stack) =>
        if stack.isEmpty then .ok (.bracketed start negated set, cur.bump)
        else
          readClassFrom fuel
            { stack, items := .bracketed start negated set :: items, itemsStart } cur.bump
      | _ => r.unclosed
    | some _ =>
      match operatorAt? cur with
      | some op =>
        let cur := cur.bumpBy 2
        readClassFrom fuel (r.pushOperator op cur.position) cur
      | none => do
        let (item, cur) ← readClassItem r cur
        readClassFrom fuel (r.push item) cur

/-- A bracketed class, from its opening bracket on. -/
def readClass (cur : Cursor) : Except Fault (Node × Cursor) :=
  readClassFrom (cur.rest.length + 1) { stack := [], items := [], itemsStart := cur.position } cur

end Sigil.Pattern
