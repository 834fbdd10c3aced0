import Sigil.Argument.Check
import Sigil.Arithmetic.Content
import Sigil.Brackets
import Sigil.Catalog.Basic

/-! # Scanning

    One pass over a text finds brackets without a partner, deprecated variables,
    and what is wrong with the arguments of each variable whose brackets close. -/

namespace Sigil

/-- The finding on a token: its variable may be deprecated. -/
def deprecation? (catalog : Catalog) (offset : Nat) (name : Text) : Option Finding :=
  match catalog.resolve name with
  | some definition =>
    if definition.deprecated then
      some { problem := .deprecatedVariable name definition.replacedBy, offset, width := name.size }
    else none
  | none => none

/-- Does the variable need a default that a frame does not give?  A comma outside
    nested brackets gives one. -/
def lacksDefault (catalog : Catalog) (owner : Text) (frame : Frame) : Bool :=
  match catalog.resolve owner with
  | some definition => definition.requiresDefault && !frame.content.any (· == ',')
  | none => false

/-- The findings on the frame of `owner` that holds `content`, with offsets from
    the start of the content. -/
def frameFindings (catalog : Catalog) (owner : Text) (frame : Frame) (content : Text) :
    List Finding :=
  (if owner = "$math".toList then Arithmetic.checkContent content else [])
  ++ (if lacksDefault catalog owner frame then
      [{ problem := .missingDefault owner, offset := 0, width := content.size }] else [])
  ++ Argument.check owner content

/-- The findings on one event in the text `t`. -/
def eventFindings (catalog : Catalog) (t : Text) : Event → List Finding
  | .token offset name => (deprecation? catalog offset name).toList
  | .unmatched offset => [.unmatchedClosing offset]
  | .closed frame stop =>
    match frame.owner with
    | some owner =>
      (frameFindings catalog owner frame (Text.slice t frame.start stop)).map
        (Finding.shift frame.start)
    | none => []

/-- **Scan.**  All findings on the variables and brackets of a text, in order of
    their offsets. -/
def scan (catalog : Catalog) (t : Text) : List Finding :=
  let (events, frames) := brackets t
  Finding.sort (events.flatMap (eventFindings catalog t)
    ++ frames.unclosed.map fun frame => .unclosed frame.opened)

end Sigil
