import JavaAudit.Decimal.Fixed

/-!
# Dates and times in reports
-/

namespace JavaAudit

/-- A moment on the clock. -/
structure Timestamp where
  year : Nat
  month : Nat
  day : Nat
  hour : Nat
  minute : Nat
  second : Nat
  microsecond : Nat
  deriving DecidableEq, Repr

namespace Timestamp

def padded (width n : Nat) : String := String.ofList (Decimal.padded width n)

def dateText (t : Timestamp) : String :=
  padded 4 t.year ++ "-" ++ padded 2 t.month ++ "-" ++ padded 2 t.day

def clockText (t : Timestamp) : String :=
  padded 2 t.hour ++ ":" ++ padded 2 t.minute ++ ":" ++ padded 2 t.second

/-- For people: to the second. -/
def text (t : Timestamp) : String := t.dateText ++ " " ++ t.clockText

/-- For programs: to the microsecond, which is left out when it is zero. -/
def isoText (t : Timestamp) : String :=
  t.dateText ++ "T" ++ t.clockText
    ++ (if t.microsecond = 0 then "" else "." ++ padded 6 t.microsecond)

end Timestamp

end JavaAudit
