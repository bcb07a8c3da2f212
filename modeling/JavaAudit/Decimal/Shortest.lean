import JavaAudit.Decimal.Binary

/-!
# The fewest digits that read back

`shortest` finds, for a positive double, the decimal with the fewest digits that is nearer to it than
to any other double. A double owns the interval of reals that round to it: half-way to its neighbours,
ends included when its mantissa is even. For one digit, two digits and so on up to seventeen, the two
neighbours of the value on that decimal grid are tried; the first grid with a neighbour inside the
interval wins, and of two neighbours the nearer one, on a tie the even one.

`number` writes the result positionally between `0.0001` and `9999999999999998.0`, and with an
exponent of at least two digits beyond.
-/

namespace JavaAudit.Decimal

/-- A positive decimal `digits · 10 ^ exponent`. -/
structure Scaled where
  digits : Nat
  exponent : Int
  deriving Repr, DecidableEq

/-- The exponent of the leading decimal digit of a fraction below one: `-j` for the least `j` from the
given one on with `num · 10 ^ j ≥ den`. -/
def leadingBelowOne (num den : Nat) : (fuel j : Nat) → Nat
  | 0, j => j
  | fuel + 1, j => if num * Nat.pow 10 j ≥ den then j else leadingBelowOne num den fuel (j + 1)

/-- The exponent of the leading decimal digit of a positive fraction. -/
def leadingExponent (num den : Nat) : Int :=
  if num ≥ den then (Nat.toDigits 10 (num / den)).length - 1
  else -(leadingBelowOne num den 400 1 : Nat)

/-- Compare `c · 10 ^ k` with `quarter · 2 ^ (e - 2)`. -/
def compareScaled (c : Nat) (k : Int) (quarters : Nat) (e : Int) : Ordering :=
  compare (c * powerUp 10 k * powerDown 2 (e - 2)) (quarters * powerUp 2 (e - 2) * powerDown 10 k)

/-- Does `c · 10 ^ k` lie in the interval of reals that round to the double? -/
def Binary.owns (b : Binary) (c : Nat) (k : Int) : Bool :=
  let above := compareScaled c k (4 * b.mantissa - (if b.lowest then 1 else 2)) b.exponent
  let below := compareScaled c k (4 * b.mantissa + 2) b.exponent
  if b.mantissa % 2 = 0 then above.isGE && below.isLE else above.isGT && below.isLT

/-- The neighbour of the double on the grid `10 ^ k` that reads back, if one does. -/
def Binary.onGrid (b : Binary) (k : Int) : Option Nat :=
  let num := b.num * powerDown 10 k
  let den := b.den * powerUp 10 k
  let floor := num / den
  let twice := 2 * (num % den)
  match b.owns floor k, b.owns (floor + 1) k with
  | true, true =>
    if twice < den || (twice = den && floor % 2 = 0) then some floor else some (floor + 1)
  | true, false => some floor
  | false, true => some (floor + 1)
  | false, false => none

/-- Try grids with more and more digits. -/
def Binary.search (b : Binary) (lead : Int) : (fuel count : Nat) → Scaled
  | 0, count => ⟨b.num / b.den, lead - count⟩
  | fuel + 1, count =>
    let k := lead - count + 1
    match b.onGrid k with
    | some digits => ⟨digits, k⟩
    | none => b.search lead fuel (count + 1)

/-- Move trailing zeros into the exponent. -/
def Scaled.reduce : (fuel : Nat) → Scaled → Scaled
  | 0, s => s
  | fuel + 1, s =>
    if s.digits % 10 = 0 && s.digits ≠ 0 then Scaled.reduce fuel ⟨s.digits / 10, s.exponent + 1⟩ else s

/-- The fewest digits that read back as this double. -/
def Binary.shortest (b : Binary) : Scaled :=
  (b.search (leadingExponent b.num b.den) 17 1).reduce 20

/-- Write an exponent with its sign and at least two digits. -/
def exponentText (e : Int) : List Char :=
  let digits := Nat.toDigits 10 e.natAbs
  'e' :: (if e < 0 then '-' else '+') :: (List.replicate (2 - digits.length) '0' ++ digits)

/-- Write a positive decimal. `point` is the place of the decimal point, counted from the first
digit. -/
def Scaled.text (s : Scaled) : List Char :=
  let digits := Nat.toDigits 10 s.digits
  let point : Int := digits.length + s.exponent
  if point ≤ -4 || point > 16 then
    let fraction := digits.drop 1
    digits.take 1 ++ (if fraction.isEmpty then [] else '.' :: fraction) ++ exponentText (point - 1)
  else if point ≤ 0 then '0' :: '.' :: (List.replicate (-point).toNat '0' ++ digits)
  else if s.exponent ≥ 0 then digits ++ List.replicate s.exponent.toNat '0' ++ ['.', '0']
  else digits.take point.toNat ++ '.' :: digits.drop point.toNat

/-- A double written with the fewest digits that read back. -/
def number (x : Float) : String :=
  match Shape.ofFloat x with
  | .notANumber => "nan"
  | .infinite negative => if negative then "-inf" else "inf"
  | .finite b =>
    let digits := if b.mantissa = 0 then ['0', '.', '0'] else b.shortest.text
    String.ofList (if b.negative then '-' :: digits else digits)

end JavaAudit.Decimal
