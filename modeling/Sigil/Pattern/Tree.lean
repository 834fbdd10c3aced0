import Sigil.Pattern.Fault

/-! # Syntax trees of patterns

    The parts of a regular expression, as far as they decide whether it is well
    formed.  Parts that can still be refused after reading, or that count as a
    level of nesting, carry the position at which they start. -/

namespace Sigil.Pattern

/-- A flag that a group can set. -/
inductive Flag where
  | caseInsensitive
  | multiLine
  | dotMatchesNewLine
  | swapGreed
  | unicode
  | carriageReturns
  | ignoreWhitespace
deriving DecidableEq, Repr

/-- An item in a list of flags: a flag, or the dash after which flags are
    cleared instead of set. -/
inductive FlagItem where
  | flag (f : Flag)
  | negation
deriving DecidableEq, Repr

/-- What a list of flags says of a flag: set, cleared, or nothing. -/
def flagState (f : Flag) : List FlagItem → Option Bool
  | [] => none
  | .negation :: rest => if rest.contains (.flag f) then some false else none
  | .flag g :: rest => if g = f then some true else flagState f rest

/-- A literal character.  `byte` holds if it was written as a byte, by two
    hexadecimal digits. -/
structure Literal where
  position : Nat
  char : Char
  byte : Bool
deriving DecidableEq, Repr

/-- A class given by Unicode properties. -/
inductive PropertyQuery where
  /-- A name of a property, a general category or a script. -/
  | named (name : Text)
  /-- A property and one of its values. -/
  | valued (name value : Text)
deriving DecidableEq, Repr

/-- The operators on sets of characters. -/
inductive SetOperator where
  | intersection
  | difference
  | symmetricDifference
deriving DecidableEq, Repr

mutual

/-- An item of a bracketed class. -/
inductive ClassItem where
  | empty
  | literal (l : Literal)
  | range (first last : Literal)
  | ascii (position : Nat) (negated : Bool)
  | property (position : Nat) (query : PropertyQuery)
  | shorthand (position : Nat) (negated : Bool)
  | bracketed (position : Nat) (negated : Bool) (set : ClassSet)
  | union (position : Nat) (items : List ClassItem)

/-- The set of characters of a bracketed class. -/
inductive ClassSet where
  | item (i : ClassItem)
  | binary (position : Nat) (operator : SetOperator) (left right : ClassSet)

end

/-- A part of a pattern. -/
inductive Node where
  | empty
  /-- A setting of flags, as in `(?i)`. -/
  | flags (items : List FlagItem)
  | literal (l : Literal)
  /-- Any character. -/
  | dot (position : Nat)
  /-- A condition on the place, such as `^` or `\b`. -/
  | assertion
  | property (position : Nat) (query : PropertyQuery)
  /-- One of `\d`, `\s`, `\w` and their complements. -/
  | shorthand (position : Nat) (negated : Bool)
  | bracketed (position : Nat) (negated : Bool) (set : ClassSet)
  | repetition (position : Nat) (operand : Node)
  /-- A group, with the flags that hold inside. -/
  | group (position : Nat) (flags : List FlagItem) (body : Node)
  | alternation (position : Nat) (branches : List Node)
  | concat (position : Nat) (parts : List Node)

/-! ## Smart constructors -/

/-- Items of a class put together. -/
def ClassItem.ofItems (position : Nat) : List ClassItem → ClassItem
  | [] => .empty
  | [item] => item
  | items => .union position items

/-- Parts put one after the other. -/
def Node.ofParts (position : Nat) : List Node → Node
  | [] => .empty
  | [part] => part
  | parts => .concat position parts

/-! ## Nesting -/

/-- Enter the level `level` at `position`, unless that is one too many. -/
def enterLevel (level position : Nat) : Except Fault Unit :=
  if nestLimit < level then .error ⟨.nestLimitExceeded, position⟩ else .ok ()

mutual

/-- Check the nesting of a class item inside `level` levels. -/
def ClassItem.checkNesting (level : Nat) : ClassItem → Except Fault Unit
  | .bracketed position _ set => do
    enterLevel (level + 1) position
    set.checkNesting (level + 1)
  | .union position items => do
    enterLevel (level + 1) position
    ClassItem.checkNestingAll (level + 1) items
  | _ => .ok ()

/-- Check the nesting of several class items. -/
def ClassItem.checkNestingAll (level : Nat) : List ClassItem → Except Fault Unit
  | [] => .ok ()
  | item :: rest => do
    item.checkNesting level
    ClassItem.checkNestingAll level rest

/-- Check the nesting of a class. -/
def ClassSet.checkNesting (level : Nat) : ClassSet → Except Fault Unit
  | .item i => i.checkNesting level
  | .binary position _ left right => do
    enterLevel (level + 1) position
    left.checkNesting (level + 1)
    right.checkNesting (level + 1)

end

mutual

/-- Check the nesting of a part inside `level` levels. -/
def Node.checkNesting (level : Nat) : Node → Except Fault Unit
  | .bracketed position _ set => do
    enterLevel (level + 1) position
    set.checkNesting (level + 1)
  | .repetition position operand => do
    enterLevel (level + 1) position
    operand.checkNesting (level + 1)
  | .group position _ body => do
    enterLevel (level + 1) position
    body.checkNesting (level + 1)
  | .alternation position branches => do
    enterLevel (level + 1) position
    Node.checkNestingAll (level + 1) branches
  | .concat position parts => do
    enterLevel (level + 1) position
    Node.checkNestingAll (level + 1) parts
  | _ => .ok ()

/-- Check the nesting of several parts. -/
def Node.checkNestingAll (level : Nat) : List Node → Except Fault Unit
  | [] => .ok ()
  | node :: rest => do
    node.checkNesting level
    Node.checkNestingAll level rest

end

end Sigil.Pattern
