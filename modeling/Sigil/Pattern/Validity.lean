import Sigil.Pattern.Property
import Sigil.Pattern.Reader

/-! # Valid patterns

    A pattern that can be read may still ask for something that does not exist:
    an unknown Unicode property, or, where the Unicode flag is off, a part that
    could match a piece of a character.

    * `Node.validate`: check a part; the Unicode flag is passed along, since a
      setting holds up to the end of its group.
    * `parse`: the tree of a valid pattern. -/

namespace Sigil.Pattern

/-- A setting of flags changes the Unicode flag, or leaves it. -/
def applyFlags (unicode : Bool) (items : List FlagItem) : Bool :=
  (flagState .unicode items).getD unicode

/-- A class by Unicode properties needs the Unicode flag, and properties that
    exist. -/
def PropertyQuery.validate (unicode : Bool) (position : Nat) (query : PropertyQuery) :
    Except Fault Unit :=
  if !unicode then faultAt position .unicodeNotAllowed
  else
    match query.cause? with
    | some cause => faultAt position cause
    | none => .ok ()

/-- A complement matches pieces of characters unless the Unicode flag is on. -/
def validateComplement (unicode negated : Bool) (position : Nat) : Except Fault Unit :=
  if !unicode && negated then faultAt position .invalidEncoding else .ok ()

/-- A literal outside of classes: a byte has to be a whole character. -/
def Literal.validate (unicode : Bool) (l : Literal) : Except Fault Unit :=
  if !unicode && l.byte && 0x7F < l.char.toNat then faultAt l.position .invalidEncoding
  else .ok ()

/-- A literal in a class: without the Unicode flag it has to be ASCII. -/
def Literal.validateInClass (unicode : Bool) (l : Literal) : Except Fault Unit := do
  l.validate unicode
  if !unicode && 0x7F < l.char.toNat then faultAt l.position .unicodeNotAllowed else .ok ()

mutual

/-- Check an item of a class. -/
def ClassItem.validate (unicode : Bool) : ClassItem → Except Fault Unit
  | .empty => .ok ()
  | .literal l => l.validateInClass unicode
  | .range first last => do
    first.validateInClass unicode
    last.validateInClass unicode
  | .ascii position negated => validateComplement unicode negated position
  | .property position query => query.validate unicode position
  | .shorthand position negated => validateComplement unicode negated position
  | .bracketed position negated set => do
    set.validate unicode
    validateComplement unicode negated position
  | .union _ items => ClassItem.validateAll unicode items

/-- Check several items of a class. -/
def ClassItem.validateAll (unicode : Bool) : List ClassItem → Except Fault Unit
  | [] => .ok ()
  | item :: rest => do
    item.validate unicode
    ClassItem.validateAll unicode rest

/-- Check the set of a class. -/
def ClassSet.validate (unicode : Bool) : ClassSet → Except Fault Unit
  | .item i => i.validate unicode
  | .binary _ _ left right => do
    left.validate unicode
    right.validate unicode

end

mutual

/-- Check a part, and tell whether the Unicode flag is on after it. -/
def Node.validate (unicode : Bool) : Node → Except Fault Bool
  | .empty | .assertion => .ok unicode
  | .flags items => .ok (applyFlags unicode items)
  | .literal l => do
    l.validate unicode
    return unicode
  | .dot position => if unicode then .ok unicode else faultAt position .invalidEncoding
  | .property position query => do
    query.validate unicode position
    return unicode
  | .shorthand position negated => do
    validateComplement unicode negated position
    return unicode
  | .bracketed position negated set => do
    set.validate unicode
    validateComplement unicode negated position
    return unicode
  | .repetition _ operand => operand.validate unicode
  | .group _ items body => do
    let _ ← body.validate (applyFlags unicode items)
    return unicode
  | .alternation _ branches => Node.validateAll unicode branches
  | .concat _ parts => Node.validateAll unicode parts

/-- Check several parts, one after the other. -/
def Node.validateAll (unicode : Bool) : List Node → Except Fault Bool
  | [] => .ok unicode
  | node :: rest => do
    let unicode ← node.validate unicode
    Node.validateAll unicode rest

end

/-- The tree of a pattern, if the pattern is valid. -/
def parse (pattern : Text) : Except Fault Node := do
  let node ← readTree pattern
  let _ ← node.validate true
  return node

end Sigil.Pattern
