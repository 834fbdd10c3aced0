import Sigil.Text.Basic

/-! # The shortest decimal of a double

    A double is written with the fewest decimal digits that read back as the
    same double; of two such decimals the nearer one is taken.

    * `Binary`: a positive double as a multiple of a power of two.
    * `Binary.shortest`: its shortest decimal.
    * `FloatFormat`: how digits and an exponent are laid out. -/

namespace Sigil.Decimal

/-- The positive number `m * 2 ^ (e - 1075)`, where `m` has at most 53 bits
    and `e` is at least one. -/
structure Binary where
  m : Nat
  e : Nat
deriving DecidableEq, Repr

/-- The magnitude of a finite double given by its bits. -/
def Binary.ofBits (bits : Nat) : Binary :=
  let biased := bits / Nat.pow 2 52 % Nat.pow 2 11
  let fraction := bits % Nat.pow 2 52
  if biased = 0 then ⟨fraction, 1⟩ else ⟨fraction + Nat.pow 2 52, biased⟩

/-- The decimal `digits * 10 ^ exponent`. -/
structure Scientific where
  digits : Nat
  exponent : Int
deriving DecidableEq, Repr

namespace Binary

/-- A quarter of the unit of `x` is `num / den`. -/
def quarterUnit (x : Binary) : Nat × Nat :=
  if 1077 ≤ x.e then (Nat.pow 2 (x.e - 1077), 1) else (1, Nat.pow 2 (1077 - x.e))

/-- Compare `quarters` quarter units of `x` with a decimal. -/
def compareQuarters (x : Binary) (quarters : Nat) (d : Scientific) : Ordering :=
  let (num, den) := x.quarterUnit
  let left := quarters * num * Nat.pow 10 (-d.exponent).toNat
  let right := d.digits * Nat.pow 10 d.exponent.toNat * den
  compare left right

/-- Does the decimal read back as `x`?  The reals that do lie between the two
    points half way to the neighbours of `x`, and include these if `m` is even.
    Below a power of two the lower neighbour is only half as far away. -/
def readsBack (x : Binary) (d : Scientific) : Bool :=
  let below := if x.m = Nat.pow 2 52 && 1 < x.e then 4 * x.m - 1 else 4 * x.m - 2
  let above := 4 * x.m + 2
  match x.compareQuarters below d, x.compareQuarters above d with
  | .lt, .gt => true
  | .eq, .gt | .lt, .eq => x.m % 2 = 0
  | _, _ => false

/-- The largest multiple of `10 ^ exponent` that is not above `x`. -/
def floorAt (x : Binary) (exponent : Int) : Nat :=
  let (num, den) := x.quarterUnit
  4 * x.m * num * Nat.pow 10 (-exponent).toNat / (den * Nat.pow 10 exponent.toNat)

/-- The exponent of the leading decimal digit of `x`, found by counting the
    digits of a large enough multiple of it. -/
def leading (x : Binary) : Int :=
  ((Nat.toDigits 10 (x.floorAt (-400))).length : Int) - 401

/-- Of the two multiples of `10 ^ exponent` around `x`, the nearer one that
    reads back. -/
def nearestAt? (x : Binary) (exponent : Int) : Option Scientific :=
  let down : Scientific := ⟨x.floorAt exponent, exponent⟩
  let up : Scientific := ⟨x.floorAt exponent + 1, exponent⟩
  -- `x` lies above the middle of the two iff twice `x` exceeds their sum.
  let middle : Scientific := ⟨down.digits + up.digits, exponent⟩
  let upper := match x.compareQuarters (8 * x.m) middle with
    | .gt => true
    | .eq => down.digits % 2 = 1
    | .lt => false
  match x.readsBack down, x.readsBack up with
  | true, true => some (if upper then up else down)
  | true, false => some down
  | false, true => some up
  | false, false => none

/-- Try one digit, two digits and so on, up to seventeen, which are always
    enough. -/
def shortestFrom (x : Binary) (leading : Int) : Nat → Scientific
  | 0 => (x.nearestAt? (leading - 16)).getD ⟨x.floorAt (leading - 16), leading - 16⟩
  | more + 1 =>
    (x.nearestAt? (leading - (16 - (more + 1)))).getD (shortestFrom x leading more)

/-- The shortest decimal of `x`. -/
def shortest (x : Binary) : Scientific :=
  x.shortestFrom x.leading 16

end Binary

/-- Digits without zeros at their end, and the exponent of the last of them. -/
def stripZeros : Nat → Nat → Int → Nat × Int
  | 0, digits, exponent => (digits, exponent)
  | fuel + 1, digits, exponent =>
    if digits % 10 = 0 && 0 < digits then stripZeros fuel (digits / 10) (exponent + 1)
    else (digits, exponent)

/-- How a decimal is laid out. -/
structure FloatFormat where
  /-- The least exponent of the leading digit with which no exponent is written. -/
  leastPositional : Int
  /-- The greatest such exponent. -/
  greatestPositional : Int

namespace FloatFormat

/-- A positive number laid out.  An exponent that is written always has a sign. -/
def magnitude (f : FloatFormat) (x : Binary) : Text :=
  let d := x.shortest
  let (digits, exponent) := stripZeros 20 d.digits d.exponent
  let ds := Nat.toDigits 10 digits
  let leading := exponent + ds.length - 1
  if f.leastPositional ≤ leading && leading ≤ f.greatestPositional then
    if 0 ≤ exponent then ds ++ List.replicate exponent.toNat '0' ++ ['.', '0']
    else if 0 ≤ leading then
      ds.take (leading.toNat + 1) ++ ['.'] ++ ds.drop (leading.toNat + 1)
    else ['0', '.'] ++ List.replicate (-leading - 1).toNat '0' ++ ds
  else
    let mantissa := match ds with
      | [] => []
      | [d] => [d]
      | d :: ds => d :: '.' :: ds
    mantissa ++ ['e', if leading < 0 then '-' else '+'] ++ Nat.toDigits 10 leading.natAbs

/-- A finite double, given by its bits, laid out. -/
def render (f : FloatFormat) (bits : Nat) : Text :=
  let sign := if bits / Nat.pow 2 63 = 1 then ['-'] else []
  let x := Binary.ofBits bits
  if x.m = 0 then sign ++ "0.0".toList else sign ++ f.magnitude x

end FloatFormat

end Sigil.Decimal
