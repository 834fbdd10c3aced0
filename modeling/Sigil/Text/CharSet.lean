/-! # Sets of characters

    A set of characters given by the code points at which membership changes:
    below the first of them nothing is a member, from the first to the second
    everything is, and so on. -/

namespace Sigil

/-- A set of characters.  `flips` lists, in increasing order, the code points
    at which membership changes. -/
structure CharSet where
  flips : Array Nat

namespace CharSet

/-- Membership: an odd number of changes lies at or below the character. -/
def mem (s : CharSet) (c : Char) : Bool :=
  s.flips.foldl (fun inside flip => if flip ≤ c.toNat then !inside else inside) false

end CharSet

end Sigil
