import Sigil.Arithmetic.Evaluator

/-! # Arithmetic on doubles

    The carrier with which expressions are evaluated: IEEE 754 doubles.  A
    literal is the double nearest to it, and the remainder has the sign of the
    dividend and is exact. -/

namespace Sigil.Arithmetic

/-- The value of a run of decimal digits. -/
def digitsValue (digits : Text) : Nat :=
  digits.foldl (fun n c => 10 * n + (c.toNat - '0'.toNat)) 0

/-- The double nearest to a literal of digits with at most one dot. -/
def nearestDouble (literal : Text) : Float :=
  let whole := literal.takeWhile (· != '.')
  let places := (literal.dropWhile (· != '.')).drop 1
  Float.ofScientific (digitsValue (whole ++ places)) true places.length

/-- The magnitude of a finite double as `m * 2 ^ (e - 1075)`. -/
def magnitude (x : Float) : Nat × Nat :=
  let bits := x.toBits.toNat
  let biased := bits / Nat.pow 2 52 % Nat.pow 2 11
  let fraction := bits % Nat.pow 2 52
  if biased = 0 then (fraction, 1) else (fraction + Nat.pow 2 52, biased)

/-- Is the sign bit set? -/
def hasSignBit (x : Float) : Bool :=
  x.toBits.toNat / Nat.pow 2 63 = 1

/-- The remainder of the magnitudes, computed without rounding on integers
    over a common power of two, under the sign of the dividend. -/
def remainder (x y : Float) : Float :=
  if x.isNaN || y.isNaN || x.isInf || y == 0.0 then 0.0 / 0.0
  else if y.isInf then x
  else
    let (m, e) := magnitude x
    let (n, f) := magnitude y
    let common := min e f
    let r := (m * Nat.pow 2 (e - common)) % (n * Nat.pow 2 (f - common))
    let result := (Float.ofNat r).scaleB ((common : Int) - 1075)
    if hasSignBit x then -result else result

/-- The operations on doubles. -/
def binary64 : Operations Float where
  literal := nearestDouble
  add := (· + ·)
  sub := (· - ·)
  mul := (· * ·)
  div := (· / ·)
  rem := remainder
  pow := Float.pow
  neg := (- ·)

end Sigil.Arithmetic
