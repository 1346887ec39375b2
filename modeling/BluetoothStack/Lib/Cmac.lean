import Mathlib
import BluetoothStack.Lib.Bytes

/-!
# CMAC over a block cipher

The CMAC of NIST SP 800-38B (RFC 4493) over a block cipher `E` on 16-byte blocks, keys, blocks
and messages written as big-endian byte strings. The subkeys double `E K 0¹²⁸` in GF(2¹²⁸)
(`dbl`); the message is cut into `blockCount` blocks, the last of which is xored with the first
subkey when it is complete and padded by `10*` and xored with the second when it is not
(`lastBlock`); the tag is the end of a CBC chain of `E` over the blocks (`cbc`).

Implementations keep their blocks in buffers, and little-endian ones keep them reversed. The
lemmas after the definitions are what reasoning about such code needs: a block read back after a
write (`blockAt_setBlock_self`, `blockAt_setBlock_of_disjoint`), a block read from a reversed
buffer is the reversed block at the mirrored offset (`blockAt_reverse`), and reversal commutes
with exclusive or (`reverse_xorBlock`).
-/

namespace Cmac

open Bytes

/-- A block of the cipher: 16 bytes, most significant first. -/
abbrev Block := Vector UInt8 16

/-- Exclusive or, byte by byte. -/
def xorBlock (a b : Block) : Block := Vector.zipWith (fun x y => x ^^^ y) a b

/-- `0¹²⁸`. -/
def zero : Block := Vector.replicate 16 0

/-- The 16 bytes of `m` from byte `off` on, zeros past its end. -/
def blockAt (m : List UInt8) (off : Nat) : Block := Vector.ofFn fun j => m.getD (off + j) 0

/-- The block as a 128-bit number. -/
def value (x : Block) : Nat := beValue x.toList

/-- `x << 1`: the block doubled as a number, the bit shifted out at the top dropped. -/
def shiftLeft (x : Block) : Block := blockAt (beBytes 16 (2 * value x)) 0

/-- `R₁₂₈ = 0¹²⁰ ‖ 10000111`. -/
def rb : Block := blockAt (beBytes 16 0x87) 0

/-- Doubling in GF(2¹²⁸): `x << 1`, xored with `R₁₂₈` when the top bit of `x` is set. -/
def dbl (x : Block) : Block :=
  if 2 ^ 127 ≤ value x then xorBlock (shiftLeft x) rb else shiftLeft x

section Tag

variable (E : Block → Block → Block) (k : Block)

/-- `K1`. -/
def subkey1 : Block := dbl (E k zero)

/-- `K2`. -/
def subkey2 : Block := dbl (subkey1 E k)

/-- `n = ⌈len / 16⌉` blocks, and one for the empty message. -/
def blockCount (len : Nat) : Nat := max 1 ((len + 15) / 16)

/-- The block of `m` from `off`, completed by `10*`: the message bytes, then `0x80`, then
zeros. -/
def padBlock (m : List UInt8) (off : Nat) : Block :=
  Vector.ofFn fun j =>
    if off + j < m.length then m.getD (off + j) 0
    else if off + j = m.length then 0x80 else 0

/-- `M_n*`: the last block xored with `K1` when it is complete, padded and xored with `K2` when it
is not. -/
def lastBlock (m : List UInt8) : Block :=
  let off := 16 * (blockCount m.length - 1)
  if m.length ≠ 0 ∧ m.length % 16 = 0 then xorBlock (blockAt m off) (subkey1 E k)
  else xorBlock (padBlock m off) (subkey2 E k)

/-- The block the chain takes in round `c`: `M_(c+1)` before the last, then `M_n*`. -/
def messageBlock (m : List UInt8) (c : Nat) : Block :=
  if c + 1 < blockCount m.length then blockAt m (16 * c) else lastBlock E k m

/-- The CBC chain: `C₀ = 0`, `C_(c+1) = E K (C_c ⊕ blocks c)`. -/
def cbc (blocks : Nat → Block) : Nat → Block
  | 0 => zero
  | c + 1 => E k (xorBlock (cbc blocks c) (blocks c))

/-- `CMAC_K(M)`, the whole 128-bit tag. -/
def cmac (m : List UInt8) : Block := cbc E k (messageBlock E k m) (blockCount m.length)

end Tag

/-! ## Blocks -/

@[simp] theorem getElem_xorBlock (a b : Block) {j : Nat} (hj : j < 16) :
    (xorBlock a b)[j] = a[j] ^^^ b[j] := by
  simp [xorBlock]

@[simp] theorem getElem_blockAt (m : List UInt8) (off : Nat) {j : Nat} (hj : j < 16) :
    (blockAt m off)[j] = m.getD (off + j) 0 := by
  simp [blockAt]

theorem xorBlock_comm (a b : Block) : xorBlock a b = xorBlock b a := by
  ext j hj
  simp only [getElem_xorBlock _ _ hj, UInt8.xor_comm]

theorem reverse_xorBlock (a b : Block) : (xorBlock a b).reverse = xorBlock a.reverse b.reverse := by
  ext j hj
  simp [Vector.getElem_reverse]

@[simp] theorem reverse_zero : zero.reverse = zero := by
  ext j hj
  simp [zero]

/-- A block whose bytes are all there is of a 16-byte list. -/
theorem toList_blockAt {l : List UInt8} (hl : l.length = 16) : (blockAt l 0).toList = l := by
  apply List.ext_getElem (by simp [hl])
  intro j h₁ h₂
  simp only [Vector.getElem_toList, getElem_blockAt _ _ (by simpa using h₁), Nat.zero_add,
    List.getD_eq_getElem?_getD, List.getElem?_eq_getElem h₂, Option.getD_some]

/-! ## Blocks in a buffer -/

/-- Write the block at byte `off` of the buffer. -/
def setBlock (m : List UInt8) (off : Nat) (b : Block) : List UInt8 := store off b.toList m

@[simp] theorem length_setBlock (m : List UInt8) (off : Nat) (b : Block) :
    (setBlock m off b).length = m.length := length_store _ _ _

theorem blockAt_setBlock_self {m : List UInt8} {off : Nat} (b : Block) (h : off + 16 ≤ m.length) :
    blockAt (setBlock m off b) off = b := by
  ext j hj
  rw [getElem_blockAt _ _ hj, setBlock, List.getD_eq_getElem?_getD,
    getElem?_store_of_mem (by omega) (by simpa using hj) (by omega)]
  simp [hj]

theorem blockAt_setBlock_of_disjoint {m : List UInt8} {off q : Nat} (b : Block)
    (h : q + 16 ≤ off ∨ off + 16 ≤ q) : blockAt (setBlock m off b) q = blockAt m q := by
  ext j hj
  rw [getElem_blockAt _ _ hj, getElem_blockAt _ _ hj, setBlock, List.getD_eq_getElem?_getD,
    List.getD_eq_getElem?_getD, getElem?_store_of_not_mem (by simp; omega)]

/-- A block inside a stored range is read from what was stored. -/
theorem blockAt_store_inner {pos q : Nat} {src mem : List UInt8} (h1 : pos ≤ q)
    (h2 : q + 16 ≤ pos + src.length) (h3 : pos + src.length ≤ mem.length) :
    blockAt (store pos src mem) q = blockAt src (q - pos) := by
  ext j hj
  rw [getElem_blockAt _ _ hj, getElem_blockAt _ _ hj, List.getD_eq_getElem?_getD,
    List.getD_eq_getElem?_getD, getElem?_store_of_mem (by omega) (by omega) (by omega),
    show q + j - pos = q - pos + j by omega]

/-- A block of a reversed buffer is the reversed block at the mirrored offset. -/
theorem blockAt_reverse {m : List UInt8} {off : Nat} (h : off + 16 ≤ m.length) :
    blockAt m.reverse off = (blockAt m (m.length - 16 - off)).reverse := by
  ext j hj
  rw [Vector.getElem_reverse, getElem_blockAt _ _ hj, getElem_blockAt _ _ (by omega),
    List.getD_eq_getElem?_getD, List.getD_eq_getElem?_getD,
    List.getElem?_reverse (by omega), show m.length - 1 - (off + j) = m.length - 16 - off + (15 - j)
      by omega]

/-! ## Block values -/

theorem value_reverse (x : Block) : value x.reverse = leValue x.toList := by
  simp [value, beValue]

/-- The top bit of a block is the top bit of its first byte. -/
theorem value_ge_iff (x : Block) : 2 ^ 127 ≤ value x ↔ 128 ≤ (x.get 0).toNat := by
  rw [show x.get 0 = x[0] by simp only [Vector.get_eq_getElem, Fin.val_zero]]
  have hsplit : x.toList = x[0] :: x.toList.drop 1 := by
    rw [← Vector.getElem_toList (by simp), List.getElem_cons_drop, List.drop_zero]
  have hlow := leValue_lt (x.toList.drop 1).reverse
  have hval : value x = leValue (x.toList.drop 1).reverse + 256 ^ 15 * x[0].toNat := by
    rw [value, beValue, hsplit, List.reverse_cons, leValue_append]
    simp [leValue]
  simp only [List.length_reverse, List.length_drop, Vector.length_toList,
    show 16 - 1 = 15 from rfl] at hlow
  rw [hval, show 2 ^ 127 = 256 ^ 15 * 128 from rfl]
  generalize 256 ^ 15 = P at *
  constructor
  · intro h
    by_contra hb
    have := Nat.mul_le_mul_left P (show x[0].toNat ≤ 127 by omega)
    omega
  · intro hb
    have := Nat.mul_le_mul_left P hb
    omega

/-- The number the last `k` bytes of a block hold. -/
theorem value_mod {k : Nat} (x : Block) (hk : k ≤ 16) :
    value x % 256 ^ k = beValue (x.toList.drop (16 - k)) := by
  have hsplit := beValue_append (x.toList.take (16 - k)) (x.toList.drop (16 - k))
  have hlow := beValue_lt (x.toList.drop (16 - k))
  rw [List.take_append_drop, List.length_drop, Vector.length_toList,
    show 16 - (16 - k) = k by omega] at hsplit
  rw [List.length_drop, Vector.length_toList, show 16 - (16 - k) = k by omega] at hlow
  rw [value, hsplit, Nat.mul_comm, Nat.mul_add_mod, Nat.mod_eq_of_lt hlow]

theorem toList_shiftLeft (x : Block) : (shiftLeft x).toList = beBytes 16 (2 * value x) :=
  toList_blockAt (length_beBytes _ _)

end Cmac
