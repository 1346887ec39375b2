import Mathlib

/-!
# Bit fields of natural numbers

A protocol header packs several small fields into one word with `|||` and `<<<` and takes
them apart with `&&&` and `>>>`. These lemmas turn both directions into arithmetic that
`omega` decides: a mask of `n` one-bits at position `k` selects `x / 2 ^ k % 2 ^ n`
(`and_field`, `field_shiftRight`), and or-ing a field into a word whose low bits are clear
is addition (`or_eq_add`). For bytes, a field that passes the check `x & ~m` and is packed
with others under disjoint masks comes back from `&` (`and_eq_self_of_and_not`,
`and_eq_zero_of_and_not`, `or_and_distrib`).
-/

namespace Bits

/-- Masking with `n` one-bits at position `k` keeps bits `k .. k + n - 1` in place. -/
theorem and_field (x n k : Nat) : x &&& ((2 ^ n - 1) <<< k) = x / 2 ^ k % 2 ^ n * 2 ^ k := by
  apply Nat.eq_of_testBit_eq
  intro i
  rw [← Nat.shiftLeft_eq, ← Nat.shiftRight_eq_div_pow]
  simp only [Nat.testBit_and, Nat.testBit_shiftLeft, Nat.testBit_mod_two_pow,
    Nat.testBit_shiftRight, Nat.testBit_two_pow_sub_one]
  by_cases hk : k ≤ i
  · have hi : k + (i - k) = i := by omega
    simp [hk, hi, Bool.and_comm]
  · simp [hk]

/-- The field at bits `k .. k + n - 1` of `x`, shifted down to bit 0. -/
theorem field_shiftRight (x n k : Nat) :
    (x &&& ((2 ^ n - 1) <<< k)) >>> k = x / 2 ^ k % 2 ^ n := by
  rw [Nat.shiftRight_and_distrib, Nat.shiftLeft_shiftRight, Nat.and_two_pow_sub_one_eq_mod,
    Nat.shiftRight_eq_div_pow]

/-- Or-ing a value below `2 ^ k` into a multiple of `2 ^ k` is adding it. -/
theorem or_eq_add {a b k : Nat} (ha : a % 2 ^ k = 0) (hb : b < 2 ^ k) : a ||| b = a + b := by
  obtain ⟨q, rfl⟩ : ∃ q, a = 2 ^ k * q :=
    ⟨a / 2 ^ k, (Nat.mul_div_cancel' (Nat.dvd_of_mod_eq_zero ha)).symm⟩
  exact (Nat.two_pow_add_eq_or_of_lt hb q).symm

/-- Or-ing a multiple of `2 ^ k` into a value below `2 ^ k` is adding it. -/
theorem or_eq_add_of_lt {a b k : Nat} (ha : a < 2 ^ k) (hb : b % 2 ^ k = 0) : a ||| b = a + b := by
  rw [Nat.lor_comm, or_eq_add hb ha, Nat.add_comm]

/-- Bits of `b` at or above position `n` do not reach the low `n` bits of `a ||| b`. -/
theorem or_mod_two_pow_of_right {a b n : Nat} (hb : b % 2 ^ n = 0) :
    (a ||| b) % 2 ^ n = a % 2 ^ n := by
  rw [Nat.or_mod_two_pow, hb, Nat.or_zero]

/-- Bits of `a` at or above position `n` do not reach the low `n` bits of `a ||| b`. -/
theorem or_mod_two_pow_of_left {a b n : Nat} (ha : a % 2 ^ n = 0) :
    (a ||| b) % 2 ^ n = b % 2 ^ n := by
  rw [Nat.or_mod_two_pow, ha, Nat.zero_or]

/-- Bits of `b` below position `k` do not reach a mask that is zero below `k`. -/
theorem or_and_of_lt {a b m k : Nat} (hb : b < 2 ^ k) (hm : m % 2 ^ k = 0) :
    (a ||| b) &&& m = a &&& m := by
  apply Nat.eq_of_testBit_eq
  intro i
  simp only [Nat.testBit_and, Nat.testBit_or]
  by_cases hi : i < k
  · -- the mask has no bit here
    have hmi := Nat.testBit_mod_two_pow m k i
    rw [hm, Nat.zero_testBit] at hmi
    simp only [hi, decide_true, Bool.true_and] at hmi
    simp [← hmi]
  · -- `b` has no bit here
    have hbi : b.testBit i = false :=
      Nat.testBit_lt_two_pow (lt_of_lt_of_le hb (Nat.pow_le_pow_right (by decide) (by omega)))
    simp [hbi]

/-! ## Fields of a byte under a mask

A C encoder checks that a field lies under its mask with `x & ~m`, packs fields of disjoint
masks into one octet with `|`, and the decoder takes each back with `&`. -/

/-- A byte that passes the check `x & ~m == 0` has all its bits under `m`. -/
theorem and_eq_self_of_and_not {x m : UInt8} (h : x &&& ~~~m = 0) : x &&& m = x := by
  apply UInt8.toBitVec_inj.1
  have hbits := congrArg UInt8.toBitVec h
  simp only [UInt8.toBitVec_and, UInt8.toBitVec_not, UInt8.toBitVec_zero] at hbits ⊢
  apply BitVec.eq_of_getLsbD_eq
  intro i hi
  -- bit `i` of `x` is set only where bit `i` of `m` is
  have hbit := congrArg (BitVec.getLsbD · i) hbits
  simp only [BitVec.getLsbD_and, BitVec.getLsbD_not, BitVec.getLsbD_zero, hi, decide_true,
    Bool.true_and] at hbit ⊢
  cases hx : x.toBitVec.getLsbD i <;> simp_all

/-- A byte under `m` has no bit under a mask disjoint from `m`. -/
theorem and_eq_zero_of_and_not {x m n : UInt8} (h : x &&& ~~~m = 0) (hmn : m &&& n = 0) :
    x &&& n = 0 := by
  rw [← and_eq_self_of_and_not h, UInt8.and_assoc, hmn, UInt8.and_zero]

/-- Two fields or-ed into one octet, the high one a multiple of `2 ^ k` and the low one below
`2 ^ k`, make the octet of their sum. -/
theorem ofNat_or_ofNat {a b k : Nat} (ha : a % 2 ^ k = 0) (hb : b < 2 ^ k) (hab : a + b < 256) :
    UInt8.ofNat a ||| UInt8.ofNat b = UInt8.ofNat (a + b) := by
  apply UInt8.toNat_inj.1
  have ha' : a < 2 ^ 8 := by omega
  have hb' : b < 2 ^ 8 := by omega
  have hab' : a + b < 2 ^ 8 := by omega
  rw [UInt8.toNat_or, UInt8.toNat_ofNat', UInt8.toNat_ofNat', UInt8.toNat_ofNat',
    Nat.mod_eq_of_lt ha', Nat.mod_eq_of_lt hb', Nat.mod_eq_of_lt hab']
  exact or_eq_add ha hb

/-- Masking an octet of packed fields masks each field. -/
theorem or_and_distrib (x y m : UInt8) : (x ||| y) &&& m = (x &&& m) ||| (y &&& m) := by
  apply UInt8.toBitVec_inj.1
  simp [BitVec.and_or_distrib_right]

/-! ## Masks of a 16-bit word

A set of flags kept in a `uint16_t` grows with `|= (1 << c)` and shrinks with `&= ~b`. A single bit of a word is either set or clear (`word_and_bit_cases`), so or-ing it in
when the word has it is or-ing in the word under it (`word_ite_or_bit`). -/

/-- A 16-bit word under a mask of one bit is that bit or nothing. -/
theorem word_and_bit_cases {x b : UInt16} {k : Nat} (hb : b.toNat = 2 ^ k) :
    x &&& b = 0 ∨ x &&& b = b := by
  have h := Nat.and_two_pow x.toNat k
  cases hbit : x.toNat.testBit k
  · left
    apply UInt16.toNat_inj.1
    rw [UInt16.toNat_and, hb, h, hbit, Bool.toNat_false, Nat.zero_mul, UInt16.toNat_zero]
  · right
    apply UInt16.toNat_inj.1
    rw [UInt16.toNat_and, hb, h, hbit, Bool.toNat_true, Nat.one_mul]

/-- Or-ing in one bit exactly when a word has it is or-ing in the word under that bit. -/
theorem word_ite_or_bit (x y : UInt16) {b : UInt16} {k : Nat} (hb : b.toNat = 2 ^ k) :
    (if x &&& b ≠ 0 then y ||| b else y) = y ||| (x &&& b) := by
  rcases word_and_bit_cases (x := x) hb with h | h
  · simp [h]
  · have hb0 : b ≠ 0 := by
      intro h0
      rw [h0, UInt16.toNat_zero] at hb
      exact absurd hb.symm (Nat.two_pow_pos k).ne'
    simp [h, hb0]

/-- Setting a bit a word lacks and clearing it again gives the word back. -/
theorem word_or_and_not_cancel {y b : UInt16} (h : y &&& b = 0) : (y ||| b) &&& ~~~b = y := by
  apply UInt16.toBitVec_inj.1
  have hbits := congrArg UInt16.toBitVec h
  simp only [UInt16.toBitVec_and, UInt16.toBitVec_or, UInt16.toBitVec_not,
    UInt16.toBitVec_zero] at hbits ⊢
  apply BitVec.eq_of_getLsbD_eq
  intro i hi
  have hbit := congrArg (BitVec.getLsbD · i) hbits
  simp only [BitVec.getLsbD_and, BitVec.getLsbD_or, BitVec.getLsbD_not, BitVec.getLsbD_zero, hi,
    decide_true, Bool.true_and] at hbit ⊢
  cases hy : y.toBitVec.getLsbD i <;> simp_all

/-- A word that passes the check `x & ~m == 0` has all its bits under `m`. -/
theorem word_and_eq_self_of_and_not {x m : UInt16} (h : x &&& ~~~m = 0) : x &&& m = x := by
  apply UInt16.toBitVec_inj.1
  have hbits := congrArg UInt16.toBitVec h
  simp only [UInt16.toBitVec_and, UInt16.toBitVec_not, UInt16.toBitVec_zero] at hbits ⊢
  apply BitVec.eq_of_getLsbD_eq
  intro i hi
  have hbit := congrArg (BitVec.getLsbD · i) hbits
  simp only [BitVec.getLsbD_and, BitVec.getLsbD_not, BitVec.getLsbD_zero, hi, decide_true,
    Bool.true_and] at hbit ⊢
  cases hx : x.toBitVec.getLsbD i <;> simp_all

/-- A word under two masks, or-ed, is the word under their union. -/
theorem word_and_or_and (x a b : UInt16) : (x &&& a) ||| (x &&& b) = x &&& (a ||| b) := by
  apply UInt16.toBitVec_inj.1
  simp [BitVec.and_or_distrib_left]

end Bits
