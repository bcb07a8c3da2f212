import JavaAudit.Decimal.Binary

/-!
# A fixed number of places

A number with a fixed number of decimal places is the exact binary value rounded to that grid; a value
half-way between two points of the grid goes to the even one.
-/

namespace JavaAudit.Decimal

/-- The quotient `num / den` rounded to the nearest integer, a half to the even one. -/
def roundHalfEven (num den : Nat) : Nat :=
  let q := num / den
  let r := num % den
  if 2 * r < den then q
  else if 2 * r = den then q + q % 2
  else q + 1

/-- `n` in decimal, padded with zeros to `width` digits. -/
def padded (width n : Nat) : List Char :=
  let digits := Nat.toDigits 10 n
  List.replicate (width - digits.length) '0' ++ digits

/-- The number with `places` decimal places. -/
def fixed (places : Nat) (x : Float) : String :=
  match Shape.ofFloat x with
  | .notANumber => "nan"
  | .infinite negative => if negative then "-inf" else "inf"
  | .finite b =>
    let n := roundHalfEven (b.num * Nat.pow 10 places) b.den
    let digits := padded (places + 1) n
    let whole := digits.take (digits.length - places)
    let point := if places = 0 then [] else '.' :: digits.drop (digits.length - places)
    String.ofList ((if b.negative then ['-'] else []) ++ whole ++ point)

end JavaAudit.Decimal
