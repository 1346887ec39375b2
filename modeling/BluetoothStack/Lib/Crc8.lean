import Mathlib

/-!
# A reflected CRC-8 register

An eight-bit CRC register that takes its input least significant bit first. `shift` is one clock
of it, `feed` takes in one byte and `crc` a message. The generator polynomial is written in the
register's order, so one given most significant bit first goes through `reflect` first.

Where the reflected polynomial has its top bit set (the generator's constant term is one), a clock
can be undone (`unshift_shift`), so the byte fed into a register is determined by the register it
leaves (`feed_injective`). A receiver that feeds a message and then its complemented CRC into the
register therefore ends on one constant, `residue`, exactly when the CRC it received is right
(`feed_eq_residue_iff`).
-/

namespace Crc8

/-- One clock: shift right, and where a one falls out, add the polynomial. -/
def shift (poly c : UInt8) : UInt8 := if c &&& 1 = 0 then c >>> 1 else (c >>> 1) ^^^ poly

/-- `n` clocks. -/
def shifts (poly : UInt8) : Nat → UInt8 → UInt8
  | 0, c => c
  | n + 1, c => shift poly (shifts poly n c)

/-- One byte into the register: added in, then eight clocks. -/
def feed (poly c b : UInt8) : UInt8 := shifts poly 8 (c ^^^ b)

/-- The register after a message, started at `init`. -/
def crc (poly init : UInt8) (s : List UInt8) : UInt8 := s.foldl (feed poly) init

/-- A byte with its bits in the other order. -/
def reflect (b : UInt8) : UInt8 := ⟨b.toBitVec.reverse⟩

/-- The register after a byte that is the complement of what it held: the same for every
register. -/
def residue (poly : UInt8) : UInt8 := shifts poly 8 0xFF

/-- One clock undone: the top bit says whether the polynomial was added. -/
def unshift (poly r : UInt8) : UInt8 :=
  if r &&& 0x80 = 0 then r <<< 1 else ((r ^^^ poly) <<< 1) ||| 1

section Clock

/-- A fact about every byte follows from the same fact about every bit vector of width eight,
which `decide` enumerates. -/
theorem forall_of_toBitVec {P : UInt8 → Prop} (h : ∀ c : BitVec 8, P ⟨c⟩) (c : UInt8) : P c :=
  h c.toBitVec

theorem shiftRight_one_and_top (c : UInt8) : (c >>> 1) &&& 0x80 = 0 :=
  forall_of_toBitVec (P := fun c => (c >>> 1) &&& 0x80 = 0) (by decide) c

theorem shiftRight_shiftLeft_of_even (c : UInt8) : c &&& 1 = 0 → (c >>> 1) <<< 1 = c :=
  forall_of_toBitVec (P := fun c => c &&& 1 = 0 → (c >>> 1) <<< 1 = c) (by decide) c

theorem shiftRight_shiftLeft_of_odd (c : UInt8) : ¬ c &&& 1 = 0 → ((c >>> 1) <<< 1) ||| 1 = c :=
  forall_of_toBitVec (P := fun c => ¬ c &&& 1 = 0 → ((c >>> 1) <<< 1) ||| 1 = c) (by decide) c

theorem xor_and_distrib (a b m : UInt8) : (a ^^^ b) &&& m = (a &&& m) ^^^ (b &&& m) := by
  apply UInt8.toBitVec_inj.mp
  ext i
  simp only [UInt8.toBitVec_and, UInt8.toBitVec_xor, BitVec.getElem_and, BitVec.getElem_xor]
  cases a.toBitVec[i] <;> cases b.toBitVec[i] <;> cases m.toBitVec[i] <;> rfl

theorem xor_xor_cancel_right (a b : UInt8) : a ^^^ b ^^^ b = a := by
  rw [UInt8.xor_assoc, UInt8.xor_self, UInt8.xor_zero]

variable {poly : UInt8}

/-- With the top bit of the polynomial set, the bit a clock shifts in tells whether it added
the polynomial, and the clock can be run backwards. -/
theorem unshift_shift (hpoly : poly &&& 0x80 = 0x80) (c : UInt8) :
    unshift poly (shift poly c) = c := by
  unfold shift unshift
  by_cases heven : c &&& 1 = 0
  · rw [if_pos heven, if_pos (shiftRight_one_and_top c)]
    exact shiftRight_shiftLeft_of_even c heven
  · have htop : ((c >>> 1) ^^^ poly) &&& 0x80 ≠ 0 := by
      rw [xor_and_distrib, shiftRight_one_and_top, hpoly]
      decide
    rw [if_neg heven, if_neg htop, xor_xor_cancel_right]
    exact shiftRight_shiftLeft_of_odd c heven

theorem shift_injective (hpoly : poly &&& 0x80 = 0x80) : Function.Injective (shift poly) :=
  Function.LeftInverse.injective (unshift_shift hpoly)

theorem shifts_injective (hpoly : poly &&& 0x80 = 0x80) :
    ∀ n, Function.Injective (shifts poly n)
  | 0 => fun _ _ h => h
  | n + 1 => fun _ _ h => shifts_injective hpoly n (shift_injective hpoly h)

/-- The byte fed into a register is determined by the register it leaves. -/
theorem feed_injective (hpoly : poly &&& 0x80 = 0x80) (c : UInt8) :
    Function.Injective (feed poly c) := by
  intro b b' h
  have hxor : c ^^^ b = c ^^^ b' := shifts_injective hpoly 8 h
  calc b = c ^^^ (c ^^^ b) := by rw [← UInt8.xor_assoc, UInt8.xor_self, UInt8.zero_xor]
    _ = c ^^^ (c ^^^ b') := by rw [hxor]
    _ = b' := by rw [← UInt8.xor_assoc, UInt8.xor_self, UInt8.zero_xor]

/-- The receiver's check: the register ends on the residue exactly when the byte fed last is the
complement of what the register held. -/
theorem feed_eq_residue_iff (hpoly : poly &&& 0x80 = 0x80) (c f : UInt8) :
    feed poly c f = residue poly ↔ f = c ^^^ 0xFF := by
  have hres : residue poly = feed poly c (c ^^^ 0xFF) := by
    rw [residue, feed, ← UInt8.xor_assoc, UInt8.xor_self, UInt8.zero_xor]
  rw [hres]
  exact (feed_injective hpoly c).eq_iff

end Clock

end Crc8
