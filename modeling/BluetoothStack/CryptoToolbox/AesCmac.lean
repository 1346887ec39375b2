import BluetoothStack.Lib.Cmac

/-!
# AES-CMAC of the crypto toolbox

`crypto_toolbox::aes_128` and `crypto_toolbox::aes_cmac` (stack/crypto_toolbox), over an
uninterpreted AES `E`. The toolbox keeps keys, blocks and messages least significant byte first:
`aes_128` reverses key and message before the cipher and its output after it. `aes_cmac` copies
its input to the top of a buffer of whole blocks, prepares the block at the bottom, where the
message ends (subkeys by `leftshift_onebit`, `padding`, `xor_128`), and chains `aes_128` over the
blocks from the top of the buffer down.

`aesCmacWith_eq` is the main theorem: for inputs of up to 4064 bytes the toolbox computes the
CMAC of NIST SP 800-38B of the reversed message under the reversed key, whatever the
uninitialized bytes of its buffer hold. It rests on one lemma per stage: the subkeys are the
doublings of the standard (`reverse_subkeyDouble`), the prepared buffer holds the message blocks
reversed, top down (`blockAt_prepared`), and the loop is the CBC chain over them
(`cmacAesKCalculateLoop_eq`). Past 4064 bytes the round counter of `cmac_aes_k_calculate`, a
`uint8_t`, wraps from 255 to 0 before it passes the round count, and the round after that xors a
block past the end of the buffer (`aesCmacWith_overrun`).
-/

namespace BluetoothStack.CryptoToolbox

open Cmac Bytes

/-- `Octet16`: sixteen bytes, least significant first where they hold a number. -/
abbrev Octet16 := Vector UInt8 16

/-- `OCTET16_LEN`. -/
def octet16Len : Nat := 16

/-- `const_Rb`: `R₁₂₈`, least significant byte first. -/
def constRb : Octet16 := Vector.ofFn fun j => if j.val = 0 then 0x87 else 0

/-- `xor_128(a, b)`: `a` xored with `b`, byte by byte. -/
def xor128 (a b : Octet16) : Octet16 := xorBlock a b

/-- `padding(dest, length)`: the loop `for (i = length; i < 16; i++) p[15 - i] = (i == length) ?
0x80 : 0` writes byte `15 - i` for every `i` from `length` on, so every byte up to `15 - length`:
`0x80` at `15 - length` and zeros below it. -/
def padding (dest : Octet16) (length : Nat) : Octet16 :=
  Vector.ofFn fun p =>
    if length ≤ 15 - p.val then (if 15 - p.val = length then 0x80 else 0) else dest[p]

/-- The loop of `leftshift_onebit` from some byte on, `overflow` the top bit of the byte before
it: `output[i] = (input[i] << 1) | overflow`. -/
def leftshiftOnebitLoop : List UInt8 → UInt8 → List UInt8
  | [], _ => []
  | b :: bs, overflow =>
    ((b <<< 1) ||| overflow) :: leftshiftOnebitLoop bs (if b &&& 0x80 ≠ 0 then 1 else 0)

@[simp] theorem length_leftshiftOnebitLoop :
    ∀ (bs : List UInt8) (overflow : UInt8), (leftshiftOnebitLoop bs overflow).length = bs.length
  | [], _ => rfl
  | _ :: bs, _ => by simp [leftshiftOnebitLoop, length_leftshiftOnebitLoop bs]

/-- `leftshift_onebit(input, output)`, from `input[0]`, the least significant byte, with no
overflow into it. -/
def leftshiftOnebit (input : Octet16) : Octet16 :=
  ⟨(leftshiftOnebitLoop input.toList 0).toArray, by simp⟩

section Cipher

variable (E : Block → Block → Block)

/-- `aes_128(key, message)`: the cipher on the reversed key and message, its output reversed. -/
def aes128 (key message : Octet16) : Octet16 := (E key.reverse message.reverse).reverse

/-- `aes_128(key, message, length)`: the `length` bytes of `message` at the bottom of a zero
block. `CHECK(length <= OCTET16_LEN)` is the bound of the type. -/
def aes128Bytes (key : Octet16) (message : List UInt8) (length : Fin 17) : Octet16 :=
  aes128 E key (Vector.ofFn fun j => if j.val < length.val then message.getD j 0 else 0)

/-- The doubling that `cmac_generate_subkey` writes out twice, for `k1` from `L` and for `k2` from
`k1`: shift left by one bit, and xor `const_Rb` when the top bit was set. -/
def subkeyDouble (l : Octet16) : Octet16 :=
  if l[15] &&& 0x80 ≠ 0 then xor128 (leftshiftOnebit l) constRb else leftshiftOnebit l

/-- `cmac_prepare_last_block(k1, k2)`: block 0 of the buffer, where the message ends, xored with
`k1` when it is a whole block, and padded and xored with `k2` when it is not. -/
def cmacPrepareLastBlock (k1 k2 : Octet16) (len : Nat) (text : List UInt8) : List UInt8 :=
  let flag := len % octet16Len = 0 ∧ len ≠ 0
  if flag then setBlock text 0 (xor128 (blockAt text 0) k1)
  else setBlock text 0 (xor128 (padding (blockAt text 0) (len % 16)) k2)

/-- `cmac_generate_subkey(key)`: `L = aes_128(key, 0)`, `k1` and `k2` doubled from it, and the
last block prepared with them. -/
def cmacGenerateSubkey (key : Octet16) (len : Nat) (text : List UInt8) : List UInt8 :=
  let p := aes128Bytes E key (List.replicate octet16Len 0) 16
  let k1 := subkeyDouble p
  let k2 := subkeyDouble k1
  cmacPrepareLastBlock k1 k2 len text

/-- The loop of `cmac_aes_k_calculate` from counter `i`, a `uint8_t`, with `x` the output of the
round before. `output` equals `x` after every round and there is always a first round, so the two
are one variable here. A round whose block would not lie inside the buffer stops the model with
`none`. -/
def cmacAesKCalculateLoop (key : Octet16) (round : Nat) :
    Nat → UInt8 → List UInt8 → Octet16 → Option Octet16
  | 0, _, _, _ => none
  | fuel + 1, i, text, x =>
    if i.toNat ≤ round then
      let off := (round - i.toNat) * octet16Len
      if off + octet16Len ≤ text.length then
        let text := setBlock text off (xor128 (blockAt text off) x)
        cmacAesKCalculateLoop key round fuel (i + 1) text (aes128Bytes E key (text.drop off) 16)
      else none
    else some x

/-- `cmac_aes_k_calculate(key)`: the loop from `i = 1` and `x = 0`. Every round either leaves
the loop or moves the counter on, and a counter that wraps to 0 meets a block outside the buffer
in round 256, so `round + 1` rounds of fuel never run out. -/
def cmacAesKCalculate (key : Octet16) (round : Nat) (text : List UInt8) : Option Octet16 :=
  cmacAesKCalculateLoop E key round (round + 1) 1 text (Vector.replicate 16 0)

/-- `aes_cmac(key, input, length)`, `stale` what the buffer from `alloca` holds before the input
is copied in. The round count `n` is at most 4096 and fits its `uint16_t`. -/
def aesCmacWith (stale : Nat → UInt8) (key : Octet16) (input : List UInt8) (length : UInt16) :
    Option Octet16 :=
  let n := (length.toNat + octet16Len - 1) / octet16Len
  let n := if n = 0 then 1 else n
  let len := n * octet16Len
  let diff := len - length.toNat
  let text := (List.range len).map stale
  let text := if 0 < length.toNat then store diff (input.take length.toNat) text else text
  let cbLen := if 0 < length.toNat then length.toNat else 0
  cmacAesKCalculate E key n (cmacGenerateSubkey E key cbLen text)

/-- `aes_cmac(key, input, length)`. The bytes its buffer holds before the copy are never read
(`aesCmacWith_stale`), so they are zeros here. -/
def aesCmac (key : Octet16) (input : List UInt8) (length : UInt16) : Option Octet16 :=
  aesCmacWith E (fun _ => 0) key input length

/-- `aes_cmac(key, message)` on an `Octet16`: `message.size()` bytes from `message.data()`. -/
def aesCmacOctet16 (key message : Octet16) : Option Octet16 := aesCmac E key message.toList 16

end Cipher

/-! ## Subkeys

`leftshift_onebit` doubles the number its bytes hold, carrying the top bit of each byte into the
next; read from the other end, that is the `x << 1` of the standard. -/

/-- One byte of the shift: the byte doubled, plus the carry in, modulo 256. -/
theorem toNat_shiftLeft_or {b c : UInt8} (hc : c.toNat ≤ 1) :
    ((b <<< 1) ||| c).toNat = (2 * b.toNat + c.toNat) % 256 := by
  rw [UInt8.toNat_or, UInt8.toNat_shiftLeft]
  have hs : b.toNat <<< (UInt8.toNat 1 % 8) % 2 ^ 8 = 2 ^ 1 * (b.toNat % 128) := by
    rw [Nat.shiftLeft_eq]
    simp only [UInt8.toNat_one, Nat.one_mod, Nat.pow_one]
    omega
  rw [hs, ← Nat.two_pow_add_eq_or_of_lt (by omega)]
  omega

theorem and_0x80_ne_zero_iff (b : UInt8) : b &&& 0x80 ≠ 0 ↔ 128 ≤ b.toNat := by
  rw [ne_eq, ← UInt8.toNat_inj, UInt8.toNat_and]
  have h80 : (0x80 : UInt8).toNat = 2 ^ 7 := rfl
  rw [h80, Nat.and_comm, Nat.two_pow_and, Nat.testBit_eq_decide_div_mod_eq]
  have := b.toNat_lt
  simp only [UInt8.toNat_zero, Nat.mul_eq_zero, Nat.pow_eq_zero, Bool.toNat_eq_zero,
    decide_eq_false_iff_not]
  omega

/-- The carry out of a byte is its top bit. -/
theorem toNat_carry (b : UInt8) : (if b &&& 0x80 ≠ 0 then (1 : UInt8) else 0).toNat = b.toNat / 128 := by
  have := b.toNat_lt
  split_ifs with h
  · rw [and_0x80_ne_zero_iff] at h
    simp only [UInt8.toNat_one]
    omega
  · rw [and_0x80_ne_zero_iff] at h
    simp only [UInt8.toNat_zero]
    omega

/-- The loop doubles the number the bytes hold, the carry in added at the bottom and the bit
shifted out at the top dropped. By induction on the bytes. -/
theorem leValue_leftshiftOnebitLoop :
    ∀ (bs : List UInt8) {c : UInt8}, c.toNat ≤ 1 →
      leValue (leftshiftOnebitLoop bs c) = (2 * leValue bs + c.toNat) % 256 ^ bs.length
  | [], _, hc => by simp only [leftshiftOnebitLoop, leValue, List.length_nil]; omega
  | b :: bs, c, hc => by
    have hcarry := toNat_carry b
    have hb := b.toNat_lt
    rw [leftshiftOnebitLoop, leValue, leValue_leftshiftOnebitLoop bs (by omega), hcarry,
      toNat_shiftLeft_or hc, leValue, List.length_cons, Nat.pow_succ, Nat.mul_comm _ 256,
      Nat.mod_mul]
    -- the low byte of `2 * (b + 256 * rest) + c` and the carry `b / 128` into the rest
    have hlow : (2 * (b.toNat + 256 * leValue bs) + c.toNat) % 256 = (2 * b.toNat + c.toNat) % 256 := by
      omega
    have hhigh : (2 * (b.toNat + 256 * leValue bs) + c.toNat) / 256 = 2 * leValue bs + b.toNat / 128 := by
      omega
    rw [hlow, hhigh]

theorem toList_leftshiftOnebit (l : Octet16) :
    (leftshiftOnebit l).toList = leBytes 16 (2 * leValue l.toList) := by
  have hloop := leBytes_leValue (leftshiftOnebitLoop l.toList 0)
  rw [length_leftshiftOnebitLoop, Vector.length_toList,
    leValue_leftshiftOnebitLoop _ (by simp), Vector.length_toList, UInt8.toNat_zero,
    Nat.add_zero, leBytes_mod] at hloop
  exact hloop.symm

theorem reverse_leftshiftOnebit (l : Octet16) : (leftshiftOnebit l).reverse = shiftLeft l.reverse := by
  apply Vector.toList_inj.mp
  rw [Vector.toList_reverse, toList_leftshiftOnebit, toList_shiftLeft, value_reverse]
  rfl

/-- The top bit of the number is the top bit of its last byte. -/
theorem and_0x80_ne_zero_iff_value (l : Octet16) : l[15] &&& 0x80 ≠ 0 ↔ 2 ^ 127 ≤ value l.reverse := by
  rw [value_ge_iff, and_0x80_ne_zero_iff]
  simp only [Vector.get_eq_getElem, Fin.val_zero, Vector.getElem_reverse]

theorem reverse_constRb : constRb.reverse = rb := by
  apply Vector.toList_inj.mp
  rw [Vector.toList_reverse, rb, toList_blockAt (length_beBytes _ _)]
  decide

/-- The doubling of `cmac_generate_subkey` is the doubling of the standard, read from the other
end. -/
theorem reverse_subkeyDouble (l : Octet16) : (subkeyDouble l).reverse = dbl l.reverse := by
  unfold subkeyDouble dbl
  by_cases h : l[15] &&& 0x80 ≠ 0
  · rw [if_pos h, if_pos ((and_0x80_ne_zero_iff_value l).mp h), xor128, reverse_xorBlock,
      reverse_leftshiftOnebit, reverse_constRb]
  · rw [if_neg h, if_neg (mt (and_0x80_ne_zero_iff_value l).mpr h), reverse_leftshiftOnebit]

section Cipher

variable (E : Block → Block → Block)

@[simp] theorem reverse_aes128 (key message : Octet16) :
    (aes128 E key message).reverse = E key.reverse message.reverse := by
  simp [aes128]

/-- `aes_128(key, &text[off], 16)` enciphers the block at `off`. -/
theorem aes128Bytes_drop (key : Octet16) (text : List UInt8) (off : Nat) :
    aes128Bytes E key (text.drop off) 16 = aes128 E key (blockAt text off) := by
  unfold aes128Bytes
  congr 1
  ext j hj
  simp [List.getD_eq_getElem?_getD]

theorem reverse_subkey1 (key : Octet16) :
    (subkeyDouble (aes128Bytes E key (List.replicate octet16Len 0) 16)).reverse =
      subkey1 E key.reverse := by
  have hzero : blockAt (List.replicate octet16Len 0) 0 = zero := by
    ext j hj
    simp only [getElem_blockAt _ _ hj, zero, Vector.getElem_replicate, List.getD_eq_getElem?_getD,
      List.getElem?_replicate]
    simp [octet16Len, hj]
  have hl := aes128Bytes_drop E key (List.replicate octet16Len 0) 0
  rw [List.drop_zero, hzero] at hl
  rw [hl, reverse_subkeyDouble, reverse_aes128, reverse_zero, subkey1]

theorem reverse_subkey2 (key : Octet16) :
    (subkeyDouble (subkeyDouble (aes128Bytes E key (List.replicate octet16Len 0) 16))).reverse =
      subkey2 E key.reverse := by
  rw [reverse_subkeyDouble, reverse_subkey1, subkey2]

end Cipher

/-! ## The rounds -/

section Rounds

variable (E : Block → Block → Block) (key : Octet16)

/-- The counter of round `c` holds `c` while it fits its byte. -/
theorem toNat_counter {c : Nat} (h : c < 256) : c.toUInt8.toNat = c := by
  simp only [Nat.toUInt8_eq, UInt8.toNat_ofNat']
  omega

theorem counter_succ (c : Nat) : (c + 1).toUInt8 + 1 = (c + 1 + 1).toUInt8 := by
  apply UInt8.toNat_inj.mp
  simp

/-- Round `c + 1` before the counter wraps: the block at `(round - 1 - c) * 16` xored with the
chain value, written back and enciphered. -/
theorem cmacAesKCalculateLoop_succ {round c fuel : Nat} {text : List UInt8} {x : Octet16}
    (hc : c < round) (h255 : c < 255) (hlen : text.length = 16 * round) :
    cmacAesKCalculateLoop E key round (fuel + 1) (c + 1).toUInt8 text x =
      cmacAesKCalculateLoop E key round fuel (c + 1 + 1).toUInt8
        (setBlock text ((round - 1 - c) * 16) (xor128 (blockAt text ((round - 1 - c) * 16)) x))
        (aes128 E key (xor128 (blockAt text ((round - 1 - c) * 16)) x)) := by
  have hi : (c + 1).toUInt8.toNat = c + 1 := toNat_counter (by omega)
  have hoff : (round - (c + 1).toUInt8.toNat) * octet16Len = (round - 1 - c) * 16 := by
    rw [hi, octet16Len]
    omega
  rw [cmacAesKCalculateLoop, if_pos (by omega)]
  dsimp only
  rw [hoff, if_pos (by simp only [octet16Len]; omega), counter_succ, aes128Bytes_drop,
    blockAt_setBlock_self _ (by omega)]

/-- Before the counter wraps the rounds are the CBC chain over the blocks of the buffer, read
reversed from the top down. By induction on the rounds left: the blocks not read yet are those
no round has written. -/
theorem cmacAesKCalculateLoop_eq (blocks : Nat → Block) {round : Nat} (hround : round ≤ 254) :
    ∀ k c fuel (text : List UInt8), c + k = round → k < fuel → text.length = 16 * round →
      (∀ c', c ≤ c' → c' < round → (blockAt text ((round - 1 - c') * 16)).reverse = blocks c') →
      cmacAesKCalculateLoop E key round fuel (c + 1).toUInt8 text (cbc E key.reverse blocks c).reverse =
        some (cbc E key.reverse blocks round).reverse
  | 0, c, fuel + 1, text, hk, _, _, _ => by
    -- the counter has passed the round count
    have hi : (c + 1).toUInt8.toNat = c + 1 := toNat_counter (by omega)
    rw [cmacAesKCalculateLoop, if_neg (by omega), ← hk, Nat.add_zero]
  | k + 1, c, fuel + 1, text, hk, hfuel, hlen, hblocks => by
    have hstep : aes128 E key (xor128 (blockAt text ((round - 1 - c) * 16))
        (cbc E key.reverse blocks c).reverse) = (cbc E key.reverse blocks (c + 1)).reverse := by
      rw [aes128, xor128, reverse_xorBlock, hblocks c (Nat.le_refl c) (by omega),
        Vector.reverse_reverse, xorBlock_comm, cbc]
    rw [cmacAesKCalculateLoop_succ E key (by omega) (by omega) hlen, hstep]
    refine cmacAesKCalculateLoop_eq blocks hround k (c + 1) fuel _ (by omega) (by omega)
      (by rw [length_setBlock, hlen]) fun c' h₁ h₂ => ?_
    rw [blockAt_setBlock_of_disjoint _ (by omega)]
    exact hblocks c' (by omega) h₂

/-- From 255 rounds on the counter wraps: after round 255 it is 0, which is still at most
`round`, and round 256 reads the block at `round * 16`, past the end of the buffer. By induction
on the rounds before that one. -/
theorem cmacAesKCalculateLoop_overrun {round : Nat} (hround : 255 ≤ round) :
    ∀ k c fuel (text : List UInt8) (x : Octet16), c + k = 255 → text.length = 16 * round →
      cmacAesKCalculateLoop E key round fuel (c + 1).toUInt8 text x = none
  | _, _, 0, _, _, _, _ => rfl
  | 0, c, fuel + 1, text, x, hk, hlen => by
    have hi : (c + 1).toUInt8.toNat = 0 := by
      simp only [Nat.toUInt8_eq, UInt8.toNat_ofNat']
      omega
    have hoff : ¬(round - (c + 1).toUInt8.toNat) * octet16Len + octet16Len ≤ text.length := by
      rw [hi, hlen, octet16Len]
      omega
    rw [cmacAesKCalculateLoop, if_pos (by omega)]
    dsimp only
    rw [if_neg hoff]
  | k + 1, c, fuel + 1, text, x, hk, hlen => by
    rw [cmacAesKCalculateLoop_succ E key (by omega) (by omega) hlen]
    exact cmacAesKCalculateLoop_overrun hround k (c + 1) fuel _ _ (by omega)
      (by rw [length_setBlock, hlen])

end Rounds

/-! ## The buffer -/

/-- `padding` completes by `10*` a block whose top `r` bytes are the last `r` bytes of a message,
reversed. -/
theorem reverse_padding {m : List UInt8} {off r : Nat} {d : Octet16} (hm : m.length = off + r)
    (hd : ∀ j < r, ∀ h : 15 - j < 16, d[15 - j] = m.getD (off + j) 0) :
    (padding d r).reverse = padBlock m off := by
  apply Vector.ext
  intro j hj
  rw [Vector.getElem_reverse, padding, Vector.getElem_ofFn, padBlock, Vector.getElem_ofFn]
  dsimp only
  rw [show 15 - (16 - 1 - j) = j by omega, hm]
  by_cases hjr : j < r
  · -- a byte of the message
    rw [if_neg (show ¬r ≤ j by omega), if_pos (show off + j < off + r by omega)]
    exact hd j hjr (by omega)
  · -- the `10*` below it
    rw [if_pos (show r ≤ j by omega), if_neg (show ¬off + j < off + r by omega)]
    by_cases hjr' : j = r
    · rw [if_pos hjr', if_pos (show off + j = off + r by omega)]
    · rw [if_neg hjr', if_neg (show ¬off + j = off + r by omega)]

section Buffer

variable (k1 k2 : Octet16) (len : Nat) {text : List UInt8}

/-- `cmac_prepare_last_block` writes block 0 only. -/
theorem blockAt_cmacPrepareLastBlock_of_le {q : Nat} (hq : 16 ≤ q) :
    blockAt (cmacPrepareLastBlock k1 k2 len text) q = blockAt text q := by
  unfold cmacPrepareLastBlock
  dsimp only
  split_ifs <;> exact blockAt_setBlock_of_disjoint _ (by omega)

@[simp] theorem length_cmacPrepareLastBlock :
    (cmacPrepareLastBlock k1 k2 len text).length = text.length := by
  unfold cmacPrepareLastBlock
  dsimp only
  split <;> exact length_setBlock _ _ _

theorem blockAt_cmacPrepareLastBlock_zero (h : 16 ≤ text.length) :
    blockAt (cmacPrepareLastBlock k1 k2 len text) 0 =
      if len % 16 = 0 ∧ len ≠ 0 then xor128 (blockAt text 0) k1
      else xor128 (padding (blockAt text 0) (len % 16)) k2 := by
  unfold cmacPrepareLastBlock
  dsimp only
  by_cases hflag : len % 16 = 0 ∧ len ≠ 0
  · rw [if_pos (show len % octet16Len = 0 ∧ len ≠ 0 from hflag), if_pos hflag]
    exact blockAt_setBlock_self _ (by omega)
  · rw [if_neg (show ¬(len % octet16Len = 0 ∧ len ≠ 0) from hflag), if_neg hflag]
    exact blockAt_setBlock_self _ (by omega)

end Buffer

/-! ## `aes_cmac` -/

section Message

variable (E : Block → Block → Block) (key : Octet16)

/-- The buffer `aes_cmac` hands to the rounds holds `n` whole blocks: the input copied to the top,
below it what `alloca` left, and the bottom block prepared. Read reversed from the top down, its
blocks are the blocks the standard chains. -/
theorem blockAt_prepared (stale : Nat → UInt8) (t : List UInt8) {c : Nat}
    (hc : c < blockCount t.length) :
    (blockAt (cmacGenerateSubkey E key t.length
        (if 0 < t.length then store (blockCount t.length * 16 - t.length) t
          ((List.range (blockCount t.length * 16)).map stale)
        else (List.range (blockCount t.length * 16)).map stale))
      ((blockCount t.length - 1 - c) * 16)).reverse = messageBlock E key.reverse t.reverse c := by
  set n := blockCount t.length with hn
  have hbound : 1 ≤ n ∧ t.length ≤ n * 16 ∧ (n * 16 < t.length + 16 ∨ t.length = 0 ∧ n = 1) := by
    simp only [n, blockCount]
    omega
  have hbase : ((List.range (n * 16)).map stale).length = n * 16 := by simp
  unfold cmacGenerateSubkey
  dsimp only
  by_cases hlast : c + 1 < n
  · -- a whole block of the message, above the bottom one
    have hpos : 0 < t.length := by omega
    rw [blockAt_cmacPrepareLastBlock_of_le _ _ _ (by omega), if_pos hpos,
      blockAt_store_inner (by omega) (by omega) (by omega), messageBlock, List.length_reverse,
      ← hn, if_pos hlast,
      blockAt_reverse (by omega)]
    congr 2
    omega
  · -- the bottom block, where the message ends
    have hc' : (n - 1 - c) * 16 = 0 := by omega
    have htext : 16 ≤ (if 0 < t.length then store (n * 16 - t.length) t
        ((List.range (n * 16)).map stale) else (List.range (n * 16)).map stale).length := by
      split <;> simp <;> omega
    rw [hc', blockAt_cmacPrepareLastBlock_zero _ _ _ htext, messageBlock, List.length_reverse,
      ← hn, if_neg hlast, lastBlock, List.length_reverse, ← hn]
    by_cases hflag : t.length % 16 = 0 ∧ t.length ≠ 0
    · -- a whole block: xored with k1
      have hpos : 0 < t.length := by omega
      rw [if_pos hflag, if_pos (show t.length ≠ 0 ∧ t.length % 16 = 0 from ⟨hflag.2, hflag.1⟩),
        if_pos hpos, xor128, reverse_xorBlock, reverse_subkey1,
        blockAt_store_inner (by omega) (by omega) (by omega), blockAt_reverse (by omega)]
      congr 3
      omega
    · -- a short block: padded and xored with k2
      rw [if_neg hflag,
        if_neg (show ¬(t.length ≠ 0 ∧ t.length % 16 = 0) from fun h => hflag ⟨h.2, h.1⟩), xor128,
        reverse_xorBlock, reverse_subkey2,
        reverse_padding (show t.reverse.length = 16 * (n - 1) + t.length % 16 by
          rw [List.length_reverse]
          omega)]
      intro j hj _
      have hpos : 0 < t.length := by omega
      rw [getElem_blockAt _ _ (by omega), if_pos hpos, List.getD_eq_getElem?_getD,
        List.getD_eq_getElem?_getD, getElem?_store_of_mem (by omega) (by omega) (by simp; omega),
        List.getElem?_reverse (by omega)]
      congr 2
      omega

@[simp] theorem length_cmacGenerateSubkey (len : Nat) (text : List UInt8) :
    (cmacGenerateSubkey E key len text).length = text.length := length_cmacPrepareLastBlock _ _ _

/-- The block count of `aes_cmac` is that of the standard. -/
theorem aesCmac_blockCount (length : Nat) :
    (if (length + octet16Len - 1) / octet16Len = 0 then 1
      else (length + octet16Len - 1) / octet16Len) = blockCount length := by
  unfold blockCount octet16Len
  by_cases h : (length + 16 - 1) / 16 = 0
  · rw [if_pos h]
    omega
  · rw [if_neg h]
    omega

/-- Up to 4064 bytes `aes_cmac` is the CMAC of the standard on the reversed key and message,
reversed, whatever the buffer held before. -/
theorem aesCmacWith_eq (stale : Nat → UInt8) {input : List UInt8} {length : UInt16}
    (hlen : length.toNat ≤ 4064) (hin : length.toNat ≤ input.length) :
    aesCmacWith E stale key input length =
      some (cmac E key.reverse (input.take length.toNat).reverse).reverse := by
  set t := input.take length.toNat with ht
  have htlen : t.length = length.toNat := by
    rw [ht, List.length_take]
    omega
  have hn : blockCount t.length ≤ 254 := by
    simp only [blockCount]
    omega
  have hstart : (Vector.replicate 16 0 : Octet16) =
      (cbc E key.reverse (messageBlock E key.reverse t.reverse) 0).reverse := by
    rw [cbc, reverse_zero]
    rfl
  simp only [aesCmacWith, aesCmac_blockCount, cmacAesKCalculate, ← ht]
  rw [← htlen, hstart, show (1 : UInt8) = (0 + 1 : Nat).toUInt8 from rfl,
    show (if 0 < t.length then t.length else 0) = t.length by split <;> omega,
    show octet16Len = 16 from rfl,
    cmacAesKCalculateLoop_eq E key _ hn (blockCount t.length) 0 _ _ (Nat.zero_add _) (by omega)
      (by rw [length_cmacGenerateSubkey]; split <;> simp <;> omega)
      fun c _ hc => blockAt_prepared E key stale t hc,
    cmac, List.length_reverse]

theorem aesCmac_eq {input : List UInt8} {length : UInt16} (hlen : length.toNat ≤ 4064)
    (hin : length.toNat ≤ input.length) :
    aesCmac E key input length =
      some (cmac E key.reverse (input.take length.toNat).reverse).reverse :=
  aesCmacWith_eq E key _ hlen hin

/-- On an `Octet16` message `aes_cmac` is the CMAC of the reversed message. -/
theorem aesCmacOctet16_eq (message : Octet16) :
    aesCmacOctet16 E key message = some (cmac E key.reverse message.reverse.toList).reverse := by
  rw [aesCmacOctet16, aesCmac_eq E key (by decide) (by simp), Vector.toList_reverse,
    show (16 : UInt16).toNat = message.toList.length by simp, List.take_length]

/-- Past 4064 bytes the block count is at least 255, the counter of `cmac_aes_k_calculate`
wraps before it passes it, and round 256 falls outside the buffer. -/
theorem aesCmacWith_overrun (stale : Nat → UInt8) (input : List UInt8) {length : UInt16}
    (hlen : 4064 < length.toNat) : aesCmacWith E stale key input length = none := by
  have hn : 255 ≤ blockCount length.toNat := by
    simp only [blockCount]
    omega
  simp only [aesCmacWith, aesCmac_blockCount, cmacAesKCalculate]
  rw [show (1 : UInt8) = (0 + 1 : Nat).toUInt8 from rfl]
  exact cmacAesKCalculateLoop_overrun E key hn 255 0 _ _ _ (Nat.zero_add _)
    (by rw [length_cmacGenerateSubkey]; split <;> simp [octet16Len] <;> omega)

/-- `aes_cmac` never reads the bytes its buffer held before the input was copied in. -/
theorem aesCmacWith_stale (stale₁ stale₂ : Nat → UInt8) (input : List UInt8) (length : UInt16)
    (hin : length.toNat ≤ input.length) :
    aesCmacWith E stale₁ key input length = aesCmacWith E stale₂ key input length := by
  by_cases hlen : length.toNat ≤ 4064
  · rw [aesCmacWith_eq E key stale₁ hlen hin, aesCmacWith_eq E key stale₂ hlen hin]
  · rw [aesCmacWith_overrun E key stale₁ input (by omega),
      aesCmacWith_overrun E key stale₂ input (by omega)]

end Message

end BluetoothStack.CryptoToolbox
