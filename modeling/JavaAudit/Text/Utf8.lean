/-!
# Reading UTF-8

`decodeAll` reads bytes as a sequence of characters and malformed pieces. A malformed piece is as
long as it could still have become a character, so a truncated character is one piece and a byte that
starts nothing is one piece. The three readers differ in what they make of malformed pieces: `lossy`
puts the replacement character, `dropping` leaves them out, `strict?` refuses the text.

`unifyNewlines` turns both other line ends into the line feed, as files are read as text.
-/

namespace JavaAudit.Text.Utf8

/-- What a first byte from 0x80 on announces: how many bytes follow, the bounds of the next one, and
the bits it contributes. -/
def lead? (b : Nat) : Option (Nat × Nat × Nat × Nat) :=
  if 0xC2 ≤ b ∧ b ≤ 0xDF then some (1, 0x80, 0xBF, b - 0xC0)
  else if b = 0xE0 then some (2, 0xA0, 0xBF, 0)
  else if 0xE1 ≤ b ∧ b ≤ 0xEF ∧ b ≠ 0xED then some (2, 0x80, 0xBF, b - 0xE0)
  else if b = 0xED then some (2, 0x80, 0x9F, 0xD)
  else if b = 0xF0 then some (3, 0x90, 0xBF, 0)
  else if 0xF1 ≤ b ∧ b ≤ 0xF3 then some (3, 0x80, 0xBF, b - 0xF0)
  else if b = 0xF4 then some (3, 0x80, 0x8F, 4)
  else none

/-- Read the `n` bytes that a character still owes, the next one between `low` and `high`. -/
def finish : (n low high bits : Nat) → List UInt8 → Option Char × List UInt8
  | 0, _, _, bits, rest => (some (Char.ofNat bits), rest)
  | _ + 1, _, _, _, [] => (none, [])
  | n + 1, low, high, bits, b :: rest =>
    if low ≤ b.toNat ∧ b.toNat ≤ high then
      finish n 0x80 0xBF (bits * 64 + (b.toNat - 0x80)) rest
    else (none, b :: rest)

theorem length_finish_le (n low high bits : Nat) (bytes : List UInt8) :
    (finish n low high bits bytes).2.length ≤ bytes.length := by
  fun_induction finish n low high bits bytes <;> simp_all
  omega

/-- Read one character, or one malformed piece, that starts with byte `b`. -/
def readFrom (b : UInt8) (rest : List UInt8) : Option Char × List UInt8 :=
  if b.toNat < 0x80 then (some (Char.ofNat b.toNat), rest)
  else match lead? b.toNat with
    | none => (none, rest)
    | some (n, low, high, bits) => finish n low high bits rest

theorem length_readFrom_le (b : UInt8) (rest : List UInt8) :
    (readFrom b rest).2.length ≤ rest.length := by
  unfold readFrom
  split
  · exact Nat.le_refl _
  · split
    · exact Nat.le_refl _
    · exact length_finish_le ..

/-- The characters of a byte sequence, `none` for each malformed piece. -/
def decodeAll : List UInt8 → List (Option Char)
  | [] => []
  | b :: rest =>
    let piece := readFrom b rest
    piece.1 :: decodeAll piece.2
termination_by bytes => bytes.length
decreasing_by
  simpa [Nat.lt_succ_iff] using length_readFrom_le b rest

/-- Malformed pieces become the replacement character. -/
def lossy (bytes : List UInt8) : List Char := (decodeAll bytes).map fun c => c.getD '�'

/-- Malformed pieces are left out. -/
def dropping (bytes : List UInt8) : List Char := (decodeAll bytes).filterMap id

/-- Malformed pieces make the text unreadable. -/
def strict? (bytes : List UInt8) : Option (List Char) := (decodeAll bytes).mapM id

/-- Both `\r\n` and a lone `\r` become `\n`. -/
def unifyNewlines : List Char → List Char
  | [] => []
  | '\r' :: '\n' :: cs => '\n' :: unifyNewlines cs
  | '\r' :: cs => '\n' :: unifyNewlines cs
  | c :: cs => c :: unifyNewlines cs

end JavaAudit.Text.Utf8
