import Runbook.Text.Utf8
import Mathlib.Tactic

set_option autoImplicit false

/-! # Bytes of a text

The bytes of a text in UTF-8 are read back as the text. A character is written as a first byte, which
says how many bytes follow, and continuation bytes of six bits each; it is read back if the number of
bytes fits, the continuation bytes lie in their bounds, and the bits add up. The bounds of the second
byte keep out what no character needs: numbers that have a shorter form, the halves of pairs, and
numbers beyond the last character.
-/

namespace Runbook.Utf8

variable {b : UInt8} {more : List UInt8} {c : Char}

/-! ## Bytes as numbers -/

theorem toNat_toUInt8 {n : Nat} (h : n < 256) : n.toUInt8.toNat = n := by
  simp [Nat.mod_eq_of_lt h]

/-- How many bytes a character has, by the number of its first byte. -/
theorem extent_eq (b : UInt8) : extent b =
    if b.toNat < 0x80 then 1
    else if b.toNat < 0xc2 then 0
    else if b.toNat < 0xe0 then 2
    else if b.toNat < 0xf0 then 3
    else if b.toNat < 0xf5 then 4
    else 0 := by
  unfold extent
  simp only [UInt8.lt_iff_toNat_lt]
  rfl

/-- Behind the second byte every continuation byte has the same bounds. -/
theorem continues_later {i n : Nat} (hi : i ≠ 1) (hlow : 0x80 ≤ n) (hhigh : n ≤ 0xbf) :
    continues b i n.toUInt8 = true := by
  have hbyte : n.toUInt8.toNat = n := toNat_toUInt8 (by omega)
  simp [continues, hi, hbyte, hlow, hhigh]

/-- Behind four of the first bytes the second one has narrower bounds. -/
theorem continues_second {n : Nat} (hlow : 0x80 ≤ n) (hhigh : n ≤ 0xbf)
    (hshort : b.toNat = 0xe0 → 0xa0 ≤ n) (hhalf : b.toNat = 0xed → n ≤ 0x9f)
    (hshort' : b.toNat = 0xf0 → 0x90 ≤ n) (hbeyond : b.toNat = 0xf4 → n ≤ 0x8f) :
    continues b 1 n.toUInt8 = true := by
  have hbyte : n.toUInt8.toNat = n := toNat_toUInt8 (by omega)
  have hbounds : (secondBounds b).1 ≤ n ∧ n ≤ (secondBounds b).2 := by
    unfold secondBounds
    simp only [beq_iff_eq, ← UInt8.toNat_inj]
    split_ifs with h1 h2 h3 h4
    · exact ⟨hshort h1, hhigh⟩
    · exact ⟨hlow, hhalf h2⟩
    · exact ⟨hshort' h3, hhigh⟩
    · exact ⟨hlow, hbeyond h4⟩
    · exact ⟨hlow, hhigh⟩
  simp [continues, hbyte, hbounds]

/-! ## One character -/

/-- Whether bytes may stand behind a first byte, from the place `i` on. -/
def AllContinue (b : UInt8) : Nat → List UInt8 → Prop
  | _, [] => True
  | i, d :: more => continues b i d = true ∧ AllContinue b (i + 1) more

/-- Whether bytes write a character: they are as many as the first one says, they lie in their bounds,
and they hold the bits of its number. -/
structure Writes (b : UInt8) (more : List UInt8) (c : Char) : Prop where
  extent : extent b = more.length + 1
  bounds : AllContinue b 1 more
  bits : more.foldl (fun n d => n * 0x40 + d.toNat % 0x40) (leadBits b) = c.toNat

theorem continuation_append {i : Nat} (h : AllContinue b i more) (rest : List UInt8) :
    continuation b i more.length (more ++ rest) = .ok more := by
  induction more generalizing i with
  | nil => rfl
  | cons d more ih =>
      rw [List.length_cons, List.cons_append, continuation, if_pos h.1, ih h.2]
      rfl

/-- The bytes that write a character are read, and what stands behind them is left alone. -/
theorem Writes.decodeChar (h : Writes b more c) (rest : List UInt8) :
    decodeChar b (more ++ rest) = .ok (c, more.length) := by
  have hsome : (Utf8.extent b == 0) = false := by simp [h.extent]
  have hcount : Utf8.extent b - 1 = more.length := by
    have := h.extent
    omega
  have hchar : assemble b more = c := by
    unfold assemble
    rw [h.bits, Char.ofNat_toNat]
  unfold Utf8.decodeChar
  rw [hsome, hcount, continuation_append h.bounds, if_neg (by simp)]
  simp only [hchar]

theorem writes_one (h : c.toNat < 0x80) : Writes c.toNat.toUInt8 [] c := by
  have hb : c.toNat.toUInt8.toNat = c.toNat := toNat_toUInt8 (by omega)
  have hextent : extent c.toNat.toUInt8 = 1 := by
    rw [extent_eq, hb, if_pos h]
  refine ⟨hextent, trivial, ?_⟩
  rw [List.foldl_nil, leadBits, hextent]
  exact hb

theorem writes_two (hlow : 0x80 ≤ c.toNat) (hhigh : c.toNat < 0x800) :
    Writes (0xc0 + c.toNat / 0x40).toUInt8 [(0x80 + c.toNat % 0x40).toUInt8] c := by
  generalize hn : c.toNat = n at hlow hhigh
  have hb : (0xc0 + n / 0x40).toUInt8.toNat = 0xc0 + n / 0x40 := toNat_toUInt8 (by omega)
  have hextent : extent (0xc0 + n / 0x40).toUInt8 = 2 := by
    rw [extent_eq, hb]
    split_ifs <;> omega
  have hsecond : continues (0xc0 + n / 0x40).toUInt8 1 (0x80 + n % 0x40).toUInt8 = true := by
    apply continues_second <;> omega
  refine ⟨hextent, ⟨hsecond, trivial⟩, ?_⟩
  have hlead : leadBits (0xc0 + n / 0x40).toUInt8 = (0xc0 + n / 0x40) % 0x20 := by
    simp only [leadBits, hextent, hb]
  rw [List.foldl_cons, List.foldl_nil, hlead, toNat_toUInt8 (by omega), hn]
  omega

theorem writes_three (hlow : 0x800 ≤ c.toNat) (hhigh : c.toNat < 0x10000) :
    Writes (0xe0 + c.toNat / 0x1000).toUInt8
      [(0x80 + c.toNat / 0x40 % 0x40).toUInt8, (0x80 + c.toNat % 0x40).toUInt8] c := by
  -- the halves of pairs are no characters, which is what the bounds behind `0xed` ask for
  have hhalf : c.toNat < 0xd800 ∨ 0xdfff < c.toNat ∧ c.toNat < 0x110000 := c.valid
  generalize hn : c.toNat = n at hlow hhigh hhalf
  have hb : (0xe0 + n / 0x1000).toUInt8.toNat = 0xe0 + n / 0x1000 := toNat_toUInt8 (by omega)
  have hextent : extent (0xe0 + n / 0x1000).toUInt8 = 3 := by
    rw [extent_eq, hb]
    split_ifs <;> omega
  have hsecond : continues (0xe0 + n / 0x1000).toUInt8 1 (0x80 + n / 0x40 % 0x40).toUInt8 = true := by
    apply continues_second <;> omega
  have hthird : continues (0xe0 + n / 0x1000).toUInt8 2 (0x80 + n % 0x40).toUInt8 = true := by
    apply continues_later <;> omega
  refine ⟨hextent, ⟨hsecond, hthird, trivial⟩, ?_⟩
  have hlead : leadBits (0xe0 + n / 0x1000).toUInt8 = (0xe0 + n / 0x1000) % 0x10 := by
    simp only [leadBits, hextent, hb]
  rw [List.foldl_cons, List.foldl_cons, List.foldl_nil, hlead, toNat_toUInt8 (by omega),
    toNat_toUInt8 (by omega), hn]
  omega

theorem writes_four (hlow : 0x10000 ≤ c.toNat) :
    Writes (0xf0 + c.toNat / 0x40000).toUInt8
      [(0x80 + c.toNat / 0x1000 % 0x40).toUInt8, (0x80 + c.toNat / 0x40 % 0x40).toUInt8,
        (0x80 + c.toNat % 0x40).toUInt8] c := by
  have hlast : c.toNat < 0xd800 ∨ 0xdfff < c.toNat ∧ c.toNat < 0x110000 := c.valid
  generalize hn : c.toNat = n at hlow hlast
  have hb : (0xf0 + n / 0x40000).toUInt8.toNat = 0xf0 + n / 0x40000 := toNat_toUInt8 (by omega)
  have hextent : extent (0xf0 + n / 0x40000).toUInt8 = 4 := by
    rw [extent_eq, hb]
    split_ifs <;> omega
  have hsecond : continues (0xf0 + n / 0x40000).toUInt8 1 (0x80 + n / 0x1000 % 0x40).toUInt8 =
      true := by
    apply continues_second <;> omega
  have hthird : continues (0xf0 + n / 0x40000).toUInt8 2 (0x80 + n / 0x40 % 0x40).toUInt8 = true := by
    apply continues_later <;> omega
  have hfourth : continues (0xf0 + n / 0x40000).toUInt8 3 (0x80 + n % 0x40).toUInt8 = true := by
    apply continues_later <;> omega
  refine ⟨hextent, ⟨hsecond, hthird, hfourth, trivial⟩, ?_⟩
  have hlead : leadBits (0xf0 + n / 0x40000).toUInt8 = (0xf0 + n / 0x40000) % 0x08 := by
    simp only [leadBits, hextent, hb]
  rw [List.foldl_cons, List.foldl_cons, List.foldl_cons, List.foldl_nil, hlead,
    toNat_toUInt8 (by omega), toNat_toUInt8 (by omega), toNat_toUInt8 (by omega), hn]
  omega

/-- The bytes of a character write it. -/
theorem exists_writes (c : Char) : ∃ b more, encodeChar c = b :: more ∧ Writes b more c := by
  unfold encodeChar
  dsimp only
  split_ifs with h1 h2 h3
  · exact ⟨_, _, rfl, writes_one h1⟩
  · exact ⟨_, _, rfl, writes_two (by omega) h2⟩
  · exact ⟨_, _, rfl, writes_three (by omega) h3⟩
  · exact ⟨_, _, rfl, writes_four (by omega)⟩

/-! ## Texts -/

theorem encode_cons (c : Char) (t : Text) : encode (c :: t) = encodeChar c ++ encode t :=
  List.flatMap_cons

theorem decodeFrom_encode (position : Nat) (t : Text) :
    decodeFrom position (encode t) = .ok t := by
  induction t generalizing position with
  | nil => simp [encode, decodeFrom]
  | cons c t ih =>
      obtain ⟨b, more, hbytes, hwrites⟩ := exists_writes c
      rw [encode_cons, hbytes, List.cons_append, decodeFrom, hwrites.decodeChar]
      dsimp only
      rw [List.drop_left, ih]
      rfl

/-- **A text is read back from its bytes.** -/
theorem decode_encode (t : Text) : decode (encode t) = .ok t :=
  decodeFrom_encode 0 t

end Runbook.Utf8
