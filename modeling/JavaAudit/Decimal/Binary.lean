/-!
# Binary floating point numbers as exact fractions

A double is taken apart into a sign, a mantissa and a power of two. Everything that prints a number
works on these exact parts and never on rounded arithmetic.
-/

namespace JavaAudit.Decimal

/-- A finite double is `± mantissa · 2 ^ exponent`. `lowest` tells that the mantissa is the smallest
one of its power of two, so that the neighbour below is only half as far away as the one above. -/
structure Binary where
  negative : Bool
  mantissa : Nat
  exponent : Int
  lowest : Bool
  deriving Repr, DecidableEq

/-- What a double is. -/
inductive Shape where
  | finite (value : Binary)
  | infinite (negative : Bool)
  | notANumber
  deriving Repr, DecidableEq

/-- Take a double apart by its bits: one of sign, eleven of exponent, fifty-two of fraction. -/
def Shape.ofFloat (x : Float) : Shape :=
  let bits := x.toBits.toNat
  let negative := bits >>> 63 == 1
  let exponent : Nat := (bits >>> 52) % 2048
  let fraction : Nat := bits % (1 <<< 52)
  if exponent = 2047 then
    if fraction = 0 then .infinite negative else .notANumber
  else if exponent = 0 then .finite ⟨negative, fraction, -1074, false⟩
  else .finite ⟨negative, (1 <<< 52) + fraction, exponent - 1075,
    fraction == 0 && decide (exponent > 1)⟩

/-- `base ^ e` for a positive `e`, and one otherwise. -/
def powerUp (base : Nat) (e : Int) : Nat := Nat.pow base e.toNat

/-- `base ^ (-e)` for a negative `e`, and one otherwise. -/
def powerDown (base : Nat) (e : Int) : Nat := Nat.pow base (-e).toNat

/-- The numerator of the absolute value. -/
def Binary.num (b : Binary) : Nat := b.mantissa * powerUp 2 b.exponent

/-- The denominator of the absolute value. -/
def Binary.den (b : Binary) : Nat := powerDown 2 b.exponent

end JavaAudit.Decimal
