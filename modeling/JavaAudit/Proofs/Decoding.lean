import JavaAudit.Text.Utf8

/-!
# Bytes that are UTF-8

`Spells` is the grammar of UTF-8: which one to four bytes stand for which character. A character is read
exactly where bytes of the grammar stand (`exists_spells_of_readFrom`, `readFrom_of_spells`), and the
grammar has one spelling for each character, its encoding (`eq_encode_of_spells`, `spells_encode`). So the
strict reader yields characters exactly if the bytes are the encodings of these characters one after
another (`strict?_eq_some_iff`), and refuses all other bytes.
-/

namespace JavaAudit.Text.Utf8

variable {b : UInt8} {c : Char} {bytes rest rest' : List UInt8}

/-! ## The grammar -/

/-- A byte that goes on with a character. -/
def IsTrailing (x : UInt8) : Prop := 0x80 ≤ x.toNat ∧ x.toNat ≤ 0xBF

/-- These bytes stand for this character. The bounds of the second byte leave out characters that have a
shorter spelling, surrogates, and numbers that are too large. -/
inductive Spells : List UInt8 → Char → Prop where
  | one {b : UInt8} {c : Char} (hb : b.toNat < 0x80) (hc : c.toNat = b.toNat) : Spells [b] c
  | two {b x : UInt8} {c : Char} (hb : 0xC2 ≤ b.toNat ∧ b.toNat ≤ 0xDF) (hx : IsTrailing x)
      (hc : c.toNat = (b.toNat - 0xC0) * 64 + (x.toNat - 0x80)) : Spells [b, x] c
  | three {b x y : UInt8} {c : Char} (hb : 0xE0 ≤ b.toNat ∧ b.toNat ≤ 0xEF)
      (hx : IsTrailing x ∧ (b.toNat = 0xE0 → 0xA0 ≤ x.toNat) ∧ (b.toNat = 0xED → x.toNat ≤ 0x9F))
      (hy : IsTrailing y)
      (hc : c.toNat = ((b.toNat - 0xE0) * 64 + (x.toNat - 0x80)) * 64 + (y.toNat - 0x80)) :
      Spells [b, x, y] c
  | four {b x y z : UInt8} {c : Char} (hb : 0xF0 ≤ b.toNat ∧ b.toNat ≤ 0xF4)
      (hx : IsTrailing x ∧ (b.toNat = 0xF0 → 0x90 ≤ x.toNat) ∧ (b.toNat = 0xF4 → x.toNat ≤ 0x8F))
      (hy : IsTrailing y) (hz : IsTrailing z)
      (hc : c.toNat = (((b.toNat - 0xF0) * 64 + (x.toNat - 0x80)) * 64 + (y.toNat - 0x80)) * 64 +
        (z.toNat - 0x80)) :
      Spells [b, x, y, z] c

/-! ### One spelling for each character -/

theorem ofNat_eq_of_eq_toNat {n : Nat} (h : n = b.toNat) : UInt8.ofNat n = b := by
  rw [h, UInt8.ofNat_toNat]

/-- The grammar leaves one spelling for each character, and it is the one that the encoder writes. -/
theorem eq_encode_of_spells (h : Spells bytes c) : bytes = String.utf8EncodeChar c := by
  -- the bounds on the first bytes decide between the branches of the encoder
  unfold String.utf8EncodeChar
  cases h with
  | one hb hc =>
    have hval : c.val.toNat = _ := hc
    rw [hval, if_pos (by omega), ofNat_eq_of_eq_toNat rfl]
  | @two b x c hb hx hc =>
    have hval : c.val.toNat = _ := hc
    obtain ⟨hx, hx'⟩ := hx
    rw [hval, if_neg (by omega), if_pos (by omega), ofNat_eq_of_eq_toNat (b := b) (by omega),
      ofNat_eq_of_eq_toNat (b := x) (by omega)]
  | @three b x y c hb hx hy hc =>
    have hval : c.val.toNat = _ := hc
    obtain ⟨⟨hx, hx'⟩, hlow, hhigh⟩ := hx
    obtain ⟨hy, hy'⟩ := hy
    rw [hval, if_neg (by omega), if_neg (by omega), if_pos (by omega),
      ofNat_eq_of_eq_toNat (b := b) (by omega), ofNat_eq_of_eq_toNat (b := x) (by omega),
      ofNat_eq_of_eq_toNat (b := y) (by omega)]
  | @four b x y z c hb hx hy hz hc =>
    have hval : c.val.toNat = _ := hc
    obtain ⟨⟨hx, hx'⟩, hlow, hhigh⟩ := hx
    obtain ⟨hy, hy'⟩ := hy
    obtain ⟨hz, hz'⟩ := hz
    rw [hval, if_neg (by omega), if_neg (by omega), if_neg (by omega),
      ofNat_eq_of_eq_toNat (b := b) (by omega), ofNat_eq_of_eq_toNat (b := x) (by omega),
      ofNat_eq_of_eq_toNat (b := y) (by omega), ofNat_eq_of_eq_toNat (b := z) (by omega)]

theorem spells_encode (c : Char) : Spells (String.utf8EncodeChar c) c := by
  have hbyte : ∀ n < 256, (UInt8.ofNat n).toNat = n := fun n hn => UInt8.toNat_ofNat_of_lt' hn
  have htrailing : ∀ n, (UInt8.ofNat (n % 64 + 128)).toNat = n % 64 + 128 ∧
      IsTrailing (UInt8.ofNat (n % 64 + 128)) := by
    intro n
    have hn := hbyte (n % 64 + 128) (by omega)
    unfold IsTrailing
    omega
  unfold String.utf8EncodeChar
  generalize hv : c.val.toNat = v
  have hc : c.toNat = v := hv
  -- no character is a surrogate or too large
  have hvalid : v < 0xD800 ∨ 0xDFFF < v ∧ v < 0x110000 := hv ▸ c.valid
  dsimp only
  by_cases h1 : v ≤ 127
  · have hb := hbyte v (by omega)
    rw [if_pos h1]
    exact .one (by omega) (by omega)
  by_cases h2 : v ≤ 2047
  · have hb := hbyte (v / 64 % 32 + 192) (by omega)
    obtain ⟨hx, hx'⟩ := htrailing v
    rw [if_neg h1, if_pos h2]
    exact .two (by omega) hx' (by omega)
  by_cases h3 : v ≤ 65535
  · have hb := hbyte (v / 4096 % 16 + 224) (by omega)
    obtain ⟨hx, hx'⟩ := htrailing (v / 64)
    obtain ⟨hy, hy'⟩ := htrailing v
    rw [if_neg h1, if_neg h2, if_pos h3]
    exact .three (by omega) ⟨hx', by omega, by omega⟩ hy' (by omega)
  · have hb := hbyte (v / 262144 % 8 + 240) (by omega)
    obtain ⟨hx, hx'⟩ := htrailing (v / 4096)
    obtain ⟨hy, hy'⟩ := htrailing (v / 64)
    obtain ⟨hz, hz'⟩ := htrailing v
    rw [if_neg h1, if_neg h2, if_neg h3]
    exact .four (by omega) ⟨hx', by omega, by omega⟩ hy' hz' (by omega)

/-! ## Reading one character -/

theorem finish_zero_eq_iff {low high bits : Nat} :
    finish 0 low high bits rest = (some c, rest') ↔ Char.ofNat bits = c ∧ rest = rest' := by
  simp [finish]

/-- Each further byte lies in its range and adds six bits. -/
theorem finish_succ_eq_iff {n low high bits : Nat} :
    finish (n + 1) low high bits rest = (some c, rest') ↔
      ∃ x tail, rest = x :: tail ∧ (low ≤ x.toNat ∧ x.toNat ≤ high) ∧
        finish n 0x80 0xBF (bits * 64 + (x.toNat - 0x80)) tail = (some c, rest') := by
  cases rest with
  | nil => simp [finish]
  | cons x tail =>
    rw [finish]
    constructor
    · intro h
      split at h
      · next hx => exact ⟨x, tail, rfl, hx, h⟩
      · cases h
    · rintro ⟨y, tail, heq, hy, h⟩
      obtain ⟨rfl, rfl⟩ := List.cons.inj heq
      rw [if_pos hy]
      exact h

/-- The first byte tells the length, and bounds the second byte. -/
theorem lead?_eq_some_iff {n low high bits : Nat} {b : Nat} :
    lead? b = some (n, low, high, bits) ↔
      (0xC2 ≤ b ∧ b ≤ 0xDF) ∧ n = 1 ∧ low = 0x80 ∧ high = 0xBF ∧ bits = b - 0xC0 ∨
      (0xE0 ≤ b ∧ b ≤ 0xEF) ∧ n = 2 ∧ low = (if b = 0xE0 then 0xA0 else 0x80) ∧
        high = (if b = 0xED then 0x9F else 0xBF) ∧ bits = b - 0xE0 ∨
      (0xF0 ≤ b ∧ b ≤ 0xF4) ∧ n = 3 ∧ low = (if b = 0xF0 then 0x90 else 0x80) ∧
        high = (if b = 0xF4 then 0x8F else 0xBF) ∧ bits = b - 0xF0 := by
  unfold lead?
  grind

/-- The bounds of a second byte, which may be narrower than those of a trailing byte on either side. -/
theorem second_bounds_iff {p q : Prop} [Decidable p] [Decidable q] {low high : Nat} {x : UInt8}
    (hlow : 0x80 ≤ low) (hhigh : high ≤ 0xBF) :
    ((if p then low else 0x80) ≤ x.toNat ∧ x.toNat ≤ if q then high else 0xBF) ↔
      IsTrailing x ∧ (p → low ≤ x.toNat) ∧ (q → x.toNat ≤ high) := by
  unfold IsTrailing
  by_cases hp : p <;> by_cases hq : q <;> simp [hp, hq] <;> omega

theorem toNat_ofNat_of_isValidChar {n : Nat} (h : n.isValidChar) : (Char.ofNat n).toNat = n := by
  unfold Char.ofNat
  rw [dif_pos h]
  rfl

theorem toNat_of_finish_zero {low high bits : Nat} (hvalid : bits.isValidChar)
    (h : finish 0 low high bits rest = (some c, rest')) : rest = rest' ∧ c.toNat = bits := by
  obtain ⟨rfl, rfl⟩ := finish_zero_eq_iff.1 h
  exact ⟨rfl, toNat_ofNat_of_isValidChar hvalid⟩

/-- A character is read only from a spelling of it, and the rest is left. -/
theorem exists_spells_of_readFrom (h : readFrom b rest = (some c, rest')) :
    ∃ bytes, Spells bytes c ∧ b :: rest = bytes ++ rest' := by
  unfold readFrom at h
  split at h
  · next hb =>
    obtain ⟨hc, rfl⟩ := Prod.mk.inj h
    refine ⟨[b], .one hb ?_, rfl⟩
    rw [← Option.some.inj hc]
    exact toNat_ofNat_of_isValidChar (.inl (by omega))
  · split at h
    · cases h
    · -- the first byte announces one, two or three more
      next n low high bits hlead =>
      rcases lead?_eq_some_iff.1 hlead with ⟨hb, rfl, rfl, rfl, hbits⟩ | ⟨hb, rfl, rfl, rfl, hbits⟩ |
        ⟨hb, rfl, rfl, rfl, hbits⟩
      · obtain ⟨x, tail, rfl, hx, h⟩ := finish_succ_eq_iff.1 h
        obtain ⟨rfl, hc⟩ := toNat_of_finish_zero (.inl (by omega)) h
        rw [hbits] at hc
        exact ⟨[b, x], .two hb hx hc, rfl⟩
      · obtain ⟨x, tail, rfl, hx, h⟩ := finish_succ_eq_iff.1 h
        obtain ⟨y, tail, rfl, hy, h⟩ := finish_succ_eq_iff.1 h
        rw [second_bounds_iff (by decide) (by decide)] at hx
        have hvalid : ((bits * 64 + (x.toNat - 0x80)) * 64 + (y.toNat - 0x80)).isValidChar := by
          unfold IsTrailing at hx
          unfold Nat.isValidChar
          omega
        obtain ⟨rfl, hc⟩ := toNat_of_finish_zero hvalid h
        rw [hbits] at hc
        exact ⟨[b, x, y], .three hb hx hy hc, rfl⟩
      · obtain ⟨x, tail, rfl, hx, h⟩ := finish_succ_eq_iff.1 h
        obtain ⟨y, tail, rfl, hy, h⟩ := finish_succ_eq_iff.1 h
        obtain ⟨z, tail, rfl, hz, h⟩ := finish_succ_eq_iff.1 h
        rw [second_bounds_iff (by decide) (by decide)] at hx
        have hvalid : (((bits * 64 + (x.toNat - 0x80)) * 64 + (y.toNat - 0x80)) * 64 +
            (z.toNat - 0x80)).isValidChar := by
          unfold IsTrailing at hx
          unfold Nat.isValidChar
          omega
        obtain ⟨rfl, hc⟩ := toNat_of_finish_zero hvalid h
        rw [hbits] at hc
        exact ⟨[b, x, y, z], .four hb hx hy hz hc, rfl⟩

/-- A spelling is read as the character that it spells, whatever follows. -/
theorem readFrom_of_spells {tail : List UInt8} (h : Spells (b :: tail) c) (rest : List UInt8) :
    readFrom b (tail ++ rest) = (some c, rest) := by
  have hofNat : ∀ {bits : Nat}, c.toNat = bits → Char.ofNat bits = c := fun hc => by
    rw [← hc, Char.ofNat_toNat]
  unfold readFrom
  cases h with
  | one hb hc =>
    rw [if_pos hb, hofNat hc]
    rfl
  | two hb hx hc =>
    have hlead := lead?_eq_some_iff.2 (.inl ⟨hb, rfl, rfl, rfl, rfl⟩)
    rw [if_neg (by omega), hlead]
    exact finish_succ_eq_iff.2 ⟨_, _, rfl, hx, finish_zero_eq_iff.2 ⟨hofNat hc, rfl⟩⟩
  | three hb hx hy hc =>
    have hlead := lead?_eq_some_iff.2 (.inr (.inl ⟨hb, rfl, rfl, rfl, rfl⟩))
    rw [if_neg (by omega), hlead]
    have hx := (second_bounds_iff (by decide) (by decide)).2 hx
    exact finish_succ_eq_iff.2 ⟨_, _, rfl, hx, finish_succ_eq_iff.2 ⟨_, _, rfl, hy,
      finish_zero_eq_iff.2 ⟨hofNat hc, rfl⟩⟩⟩
  | four hb hx hy hz hc =>
    have hlead := lead?_eq_some_iff.2 (.inr (.inr ⟨hb, rfl, rfl, rfl, rfl⟩))
    rw [if_neg (by omega), hlead]
    have hx := (second_bounds_iff (by decide) (by decide)).2 hx
    exact finish_succ_eq_iff.2 ⟨_, _, rfl, hx, finish_succ_eq_iff.2 ⟨_, _, rfl, hy,
      finish_succ_eq_iff.2 ⟨_, _, rfl, hz, finish_zero_eq_iff.2 ⟨hofNat hc, rfl⟩⟩⟩⟩

/-- A character is read exactly where its encoding stands. -/
theorem readFrom_eq_some_iff :
    readFrom b rest = (some c, rest') ↔ b :: rest = String.utf8EncodeChar c ++ rest' := by
  constructor
  · intro h
    obtain ⟨bytes, hspells, heq⟩ := exists_spells_of_readFrom h
    rw [heq, eq_encode_of_spells hspells]
  · intro h
    have hspells := spells_encode c
    cases hencode : String.utf8EncodeChar c with
    | nil =>
      rw [hencode] at hspells
      cases hspells
    | cons first tail =>
      rw [hencode] at h hspells
      obtain ⟨rfl, rfl⟩ := List.cons.inj h
      exact readFrom_of_spells hspells rest'

/-! ## Reading all characters -/

theorem strict?_nil : strict? [] = some [] := by
  unfold strict?
  rw [decodeAll]
  rfl

/-- Reading goes on where the first character ends, and fails where it fails. -/
theorem strict?_cons (b : UInt8) (rest : List UInt8) :
    strict? (b :: rest) =
      (readFrom b rest).1.bind fun c => (strict? (readFrom b rest).2).map (c :: ·) := by
  unfold strict?
  rw [decodeAll, List.mapM_cons]
  simp only [Option.map_eq_bind]
  rfl

theorem strict?_encode_append (c : Char) (rest : List UInt8) :
    strict? (String.utf8EncodeChar c ++ rest) = (strict? rest).map (c :: ·) := by
  cases hbytes : String.utf8EncodeChar c ++ rest with
  | nil =>
    have hspells := spells_encode c
    rw [(List.append_eq_nil_iff.1 hbytes).1] at hspells
    cases hspells
  | cons b tail =>
    rw [strict?_cons, readFrom_eq_some_iff.2 hbytes.symm]
    rfl

/-- The strict reader yields characters exactly if the bytes are their encodings, one after another. -/
theorem strict?_eq_some_iff {cs : List Char} :
    strict? bytes = some cs ↔ bytes = cs.flatMap String.utf8EncodeChar := by
  constructor
  · intro h
    -- along the pieces that the reader takes off the front
    induction bytes using decodeAll.induct generalizing cs with
    | case1 =>
      rw [strict?_nil] at h
      rw [← Option.some.inj h]
      rfl
    | case2 b rest piece =>
      rename_i ih
      rw [strict?_cons, Option.bind_eq_some_iff] at h
      obtain ⟨c, hc, h⟩ := h
      obtain ⟨cs, hcs, rfl⟩ := Option.map_eq_some_iff.1 h
      have hread : readFrom b rest = (some c, piece.2) := Prod.ext hc rfl
      rw [readFrom_eq_some_iff.1 hread, List.flatMap_cons, ← ih hcs]
  · rintro rfl
    induction cs with
    | nil => exact strict?_nil
    | cons c cs ih =>
      rw [List.flatMap_cons, strict?_encode_append, ih]
      rfl

/-- The bytes are the encoding of some text. -/
def IsUtf8 (bytes : List UInt8) : Prop := ∃ cs : List Char, bytes = cs.flatMap String.utf8EncodeChar

/-- The bytes that are not read are those that no text is encoded by. -/
theorem strict?_eq_none_iff : strict? bytes = none ↔ ¬ IsUtf8 bytes := by
  unfold IsUtf8
  simp only [← strict?_eq_some_iff, Option.eq_none_iff_forall_ne_some, not_exists]

/-- Line feeds are the only line ends of a text without carriage returns. -/
theorem unifyNewlines_eq_self {cs : List Char} (h : '\r' ∉ cs) : unifyNewlines cs = cs := by
  fun_induction unifyNewlines cs with
  | case1 => rfl
  | case2 => exact absurd List.mem_cons_self h
  | case3 => exact absurd List.mem_cons_self h
  | case4 c cs _ _ ih => rw [ih fun hmem => h (List.mem_cons_of_mem c hmem)]

end JavaAudit.Text.Utf8
