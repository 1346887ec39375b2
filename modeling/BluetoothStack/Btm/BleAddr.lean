import BluetoothStack.CryptoToolbox.AesCmac
import BluetoothStack.Types.Codecs

/-!
# Resolvable private addresses and set identity resolving keys

`generate_rpa_from_irk_and_rand` and `rpa_matches_irk` (stack/btm/btm_ble_addr.cc), over an
uninterpreted AES `E` reached through the toolbox's `aes_128`. An address is shown most
significant byte first, `address[0]` to `address[5]`: its top three bytes are `prand`, its bottom
three the `hash`, and the Core specification (Vol 3 Part H 2.2.2) defines the hash as
`ah(k, r) = e(k, 0¹⁰⁴ ‖ r) mod 2²⁴`. The toolbox holds keys least significant byte first, so the
cipher's key is the IRK reversed.

Read `addressMatchesKey_iff` first: the check both `rpa_matches_irk` and
`CsisGroup::is_rsi_match_sirk` write out accepts exactly the addresses whose hash is `ah` of
their `prand`. A generated address has the `prand` the random bytes give, with its top two bits
`01` (`prand_generateRpaFromIrkAndRand`), and the hash `ah` gives for it
(`hash_generateRpaFromIrkAndRand`). The set identifiers of CSIS are resolved by the same check,
and their keys are decrypted with `aes_cmac` (the last part).
-/

namespace BluetoothStack.Btm

open Cmac Bytes CryptoToolbox

/-- `BLE_RESOLVE_ADDR_MASK`. -/
def bleResolveAddrMask : UInt8 := 0xc0

/-- `BLE_RESOLVE_ADDR_MSB`. -/
def bleResolveAddrMsb : UInt8 := 0x40

section Model

variable (E : Block → Block → Block)

/-- `generate_rpa_from_irk_and_rand(irk, random)`: the top two bits of `random[2]` set to `01`,
the three random bytes as `prand`, `random[2]` the most significant, and the hash the bottom three
bytes of `aes_128(irk, random, 3)`. -/
def generateRpaFromIrkAndRand (irk : Octet16) (random : Vector UInt8 8) : RawAddress :=
  let random := random.set 2 ((random[2] &&& ~~~bleResolveAddrMask) ||| bleResolveAddrMsb)
  let p := aes128Bytes E irk random.toList ⟨3, by decide⟩
  ⟨#v[random[2], random[1], random[0], p.get 2, p.get 1, p.get 0]⟩

/-- The check `rpa_matches_irk` and `CsisGroup::is_rsi_match_sirk` both write out: `aes_128` of
the top three bytes, least significant first, and `memcmp` of its first three bytes with the
bottom three bytes, least significant first. -/
def addressMatchesKey (a : RawAddress) (key : Octet16) : Bool :=
  let rand := [a.address[2], a.address[1], a.address[0]]
  let x := aes128Bytes E key rand ⟨3, by decide⟩
  let rand := [a.address[5], a.address[4], a.address[3]]
  x.toList.take 3 == rand

/-- `rpa_matches_irk(rpa, irk)`. -/
def rpaMatchesIrk (rpa : RawAddress) (irk : Octet16) : Bool := addressMatchesKey E rpa irk

end Model

/-! ## The specification -/

/-- `prand`: the top three bytes of the address as a number. -/
def prand (a : RawAddress) : Nat := beValue (a.address.toList.take 3)

/-- `hash`: the bottom three bytes of the address as a number. -/
def hash (a : RawAddress) : Nat := beValue (a.address.toList.drop 3)

/-- `ah(k, r) = e(k, r') mod 2²⁴`, `r'` the 24 bits of `r` padded by 104 zero bits above. -/
def ah (E : Block → Block → Block) (k : Block) (r : Nat) : Nat :=
  value (E k (blockAt (beBytes 16 r) 0)) % 2 ^ 24

/-! ## Bytes of an address -/

theorem toList_address (a : RawAddress) :
    a.address.toList =
      [a.address[0], a.address[1], a.address[2], a.address[3], a.address[4], a.address[5]] := by
  rcases a with ⟨⟨l⟩, hl⟩
  match l, hl with
  | [_, _, _, _, _, _], _ => rfl

theorem prand_eq (a : RawAddress) : prand a = beValue [a.address[0], a.address[1], a.address[2]] := by
  rw [prand, toList_address]
  rfl

theorem hash_eq (a : RawAddress) : hash a = beValue [a.address[3], a.address[4], a.address[5]] := by
  rw [hash, toList_address]
  rfl

/-- The block `aes_128(key, rand, 3)` enciphers, read big-endian, is `rand` as a 24-bit number. -/
theorem reverse_randBlock (b0 b1 b2 : UInt8) :
    (Vector.ofFn fun j : Fin 16 =>
      if j.val < ((3 : Fin 17) : Nat) then [b0, b1, b2].getD j 0 else 0).reverse =
      blockAt (beBytes 16 (beValue [b2, b1, b0])) 0 := by
  have hbytes : beBytes 16 (beValue [b2, b1, b0]) = List.replicate 13 0 ++ [b2, b1, b0] := by
    have h := beBytes_of_lt 13 (beValue_lt [b2, b1, b0])
    rwa [beBytes_beValue] at h
  apply Vector.toList_inj.mp
  rw [toList_blockAt (length_beBytes _ _), hbytes, Vector.toList_reverse, Vector.toList_ofFn]
  simp [List.ofFn_succ]

/-- The bottom three bytes of a block, as a number. -/
theorem value_mod_two_pow_24 (e : Block) :
    value e % 2 ^ 24 = beValue [e.get 13, e.get 14, e.get 15] := by
  have hdrop : e.toList.drop 13 = [e.get 13, e.get 14, e.get 15] := by
    apply List.ext_getElem (by simp)
    intro i _ h₂
    obtain rfl | rfl | rfl : i = 0 ∨ i = 1 ∨ i = 2 := by
      simp only [List.length_cons, List.length_nil] at h₂
      omega
    all_goals simp [Vector.get_eq_getElem]
  rw [show (2 : Nat) ^ 24 = 256 ^ 3 from rfl, value_mod e (by omega), hdrop]

/-- Bytes of one length are determined by the number they hold. -/
theorem beValue_inj {xs ys : List UInt8} (h : beValue xs = beValue ys)
    (hl : xs.length = ys.length) : xs = ys := by
  rw [← beBytes_beValue xs, ← beBytes_beValue ys, h, hl]

section Spec

variable (E : Block → Block → Block)

/-- The length the model passes to `aes_128` with its bound is the numeral `3`. -/
theorem aes128Bytes_three (key : Octet16) (m : List UInt8) :
    aes128Bytes E key m ⟨3, by decide⟩ = aes128Bytes E key m 3 := rfl

/-- `aes_128` of three bytes of an address, least significant first, is the cipher on the
`prand` block under the reversed key. -/
theorem reverse_aes128Bytes_rand (key : Octet16) (b0 b1 b2 : UInt8) :
    (aes128Bytes E key [b0, b1, b2] 3).reverse =
      E key.reverse (blockAt (beBytes 16 (beValue [b2, b1, b0])) 0) := by
  rw [aes128Bytes, reverse_aes128, reverse_randBlock]

/-- The check accepts exactly the addresses whose hash is `ah` of their `prand`: `memcmp`
compares the three bytes of the hash least significant first. -/
theorem addressMatchesKey_iff (a : RawAddress) (key : Octet16) :
    addressMatchesKey E a key = decide (ah E key.reverse (prand a) = hash a) := by
  set e := E key.reverse (blockAt (beBytes 16 (prand a)) 0) with he
  have hx : (aes128Bytes E key [a.address[2], a.address[1], a.address[0]] 3).toList.take 3 =
      [e.get 15, e.get 14, e.get 13] := by
    rw [← Vector.reverse_reverse (aes128Bytes E key _ 3), reverse_aes128Bytes_rand, ← prand_eq,
      ← he]
    apply List.ext_getElem (by simp)
    intro i _ h₂
    obtain rfl | rfl | rfl : i = 0 ∨ i = 1 ∨ i = 2 := by
      simp only [List.length_cons, List.length_nil] at h₂
      omega
    all_goals simp [Vector.get_eq_getElem]
  rw [addressMatchesKey, aes128Bytes_three, hx, ah, ← he, value_mod_two_pow_24, hash_eq]
  apply Bool.eq_iff_iff.mpr
  rw [beq_iff_eq, decide_eq_true_iff]
  constructor
  · intro h
    simp only [List.cons.injEq] at h
    rw [h.1, h.2.1, h.2.2.1]
  · intro h
    have := beValue_inj h rfl
    simp only [List.cons.injEq] at this
    rw [this.1, this.2.1, this.2.2.1]

end Spec

/-! ## Generated addresses -/

/-- `~BLE_RESOLVE_ADDR_MASK`. -/
theorem complement_bleResolveAddrMask : ~~~bleResolveAddrMask = 0x3F := by decide

/-- The top byte of `prand` has its two top bits `01`. -/
theorem or_0x40_shiftRight (b : UInt8) : ((b &&& 0x3F) ||| 0x40) >>> 6 = 1 := by
  have hlow : (b &&& 0x3F).toNat < 2 ^ 6 := by
    rw [UInt8.toNat_and]
    exact Nat.lt_of_le_of_lt Nat.and_le_right (by decide)
  apply UInt8.toNat_inj.mp
  rw [UInt8.toNat_shiftRight, UInt8.toNat_or, show (0x40 : UInt8).toNat = 2 ^ 6 * 1 from rfl,
    Nat.or_comm, ← Nat.two_pow_add_eq_or_of_lt hlow, Nat.shiftRight_eq_div_pow]
  simp only [UInt8.reduceToNat, Nat.reduceMod, UInt8.toNat_one]
  omega

section Spec

variable (E : Block → Block → Block)

/-- `aes_128(irk, random, 3)` reads the first three bytes of `random` only. -/
theorem aes128Bytes_random (irk : Octet16) (random : Vector UInt8 8) :
    aes128Bytes E irk random.toList 3 = aes128Bytes E irk [random[0], random[1], random[2]] 3 := by
  unfold aes128Bytes
  congr 1
  apply Vector.ext
  intro j hj
  simp only [Vector.getElem_ofFn]
  split
  · rename_i hj3
    have h3 : ((3 : Fin 17) : Nat) = 3 := rfl
    rw [h3] at hj3
    match j, hj3 with
    | 0, _ => simp
    | 1, _ => simp
    | 2, _ => simp
  · rfl

/-- The bytes of a generated address: `prand` from the random bytes, the hash from the cipher. -/
theorem address_generateRpaFromIrkAndRand (irk : Octet16) (random : Vector UInt8 8) :
    (generateRpaFromIrkAndRand E irk random).address =
      #v[(random[2] &&& 0x3F) ||| 0x40, random[1], random[0],
        (aes128Bytes E irk [random[0], random[1], (random[2] &&& 0x3F) ||| 0x40] 3).get 2,
        (aes128Bytes E irk [random[0], random[1], (random[2] &&& 0x3F) ||| 0x40] 3).get 1,
        (aes128Bytes E irk [random[0], random[1], (random[2] &&& 0x3F) ||| 0x40] 3).get 0] := by
  have hrandom := aes128Bytes_random E irk (random.set 2 ((random[2] &&& 0x3F) ||| 0x40))
  simp only [Vector.getElem_set, OfNat.ofNat_ne_zero, OfNat.ofNat_ne_one, if_false,
    if_true] at hrandom
  simp only [generateRpaFromIrkAndRand, complement_bleResolveAddrMask, bleResolveAddrMsb,
    aes128Bytes_three, hrandom,
    Vector.getElem_set, OfNat.ofNat_ne_zero, OfNat.ofNat_ne_one, if_false, if_true]

/-- The `prand` of a generated address: `random[2]` with its top two bits set to `01`, above
`random[1]` and `random[0]`. -/
theorem prand_generateRpaFromIrkAndRand (irk : Octet16) (random : Vector UInt8 8) :
    prand (generateRpaFromIrkAndRand E irk random) =
      ((random[2] &&& 0x3F) ||| 0x40).toNat * 2 ^ 16 + random[1].toNat * 2 ^ 8 +
        random[0].toNat ∧
    (generateRpaFromIrkAndRand E irk random).address[0] >>> 6 = 1 := by
  rw [prand_eq, address_generateRpaFromIrkAndRand]
  refine ⟨?_, or_0x40_shiftRight _⟩
  simp only [Vector.getElem_mk, List.getElem_toArray, List.getElem_cons_zero,
    List.getElem_cons_succ, beValue, List.reverse_cons, List.reverse_nil, List.nil_append,
    List.cons_append, leValue]
  omega

/-- The hash of a generated address is `ah` of its `prand` under the reversed IRK. -/
theorem hash_generateRpaFromIrkAndRand (irk : Octet16) (random : Vector UInt8 8) :
    hash (generateRpaFromIrkAndRand E irk random) =
      ah E irk.reverse (prand (generateRpaFromIrkAndRand E irk random)) := by
  set p := aes128Bytes E irk [random[0], random[1], (random[2] &&& 0x3F) ||| 0x40] 3 with hp
  have hrev := reverse_aes128Bytes_rand E irk random[0] random[1] ((random[2] &&& 0x3F) ||| 0x40)
  rw [← hp] at hrev
  have hprand : prand (generateRpaFromIrkAndRand E irk random) =
      beValue [(random[2] &&& 0x3F) ||| 0x40, random[1], random[0]] := by
    rw [prand_eq, address_generateRpaFromIrkAndRand]
    rfl
  rw [hash_eq, hprand, ah, ← hrev, value_mod_two_pow_24, address_generateRpaFromIrkAndRand, ← hp]
  simp [Vector.getElem_reverse, Vector.get_eq_getElem]

/-- `rpa_matches_irk` accepts every address generated with the same IRK. -/
theorem rpaMatchesIrk_generateRpaFromIrkAndRand (irk : Octet16) (random : Vector UInt8 8) :
    rpaMatchesIrk E (generateRpaFromIrkAndRand E irk random) irk = true := by
  rw [rpaMatchesIrk, addressMatchesKey_iff, ← hash_generateRpaFromIrkAndRand, decide_eq_true_iff]

end Spec

end BluetoothStack.Btm

/-!
## Set identity resolving keys

`CsisGroup::is_rsi_match_sirk` (bta/csis/csis_types.h) resolves a Resolvable Set Identifier with
a SIRK by the same check `rpa_matches_irk` resolves an address with an IRK, and
`CsisClientImpl::sdf` (bta/csis/csis_client.cc) decrypts an encrypted SIRK with the LTK of the
bond. The Coordinated Set Identification Profile defines that decryption as
`sdf(K, EncSIRK) = EncSIRK ⊕ k1(K, s1("SIRKenc"), "csis")`, with `s1(M) = CMAC_0(M)` and
`k1(N, SALT, P) = CMAC_T(P)` for `T = CMAC_SALT(N)`.

`sdf` reverses its two strings by hand before it hands them to `aes_cmac`, which reverses them
back; with `aesCmac_eq` the key it computes is the profile's read from the other end
(`sdf_eq`), and `resolvable_address_and_sirk_spec` collects what the stack computes for the
addresses and keys of a set.
-/

namespace BluetoothStack.Csis

open Cmac Bytes CryptoToolbox Btm

variable (E : Block → Block → Block)

/-- `CsisGroup::is_rsi_match_sirk(rsi, sirk)`. -/
def isRsiMatchSirk (rsi : RawAddress) (sirk : Octet16) : Bool := addressMatchesKey E rsi sirk

/-- The bytes of an ASCII string, as `c_str()` holds them. -/
def asciiBytes (s : String) : List UInt8 := s.toList.map fun c => c.toNat.toUInt8

/-- `CsisClientImpl::sdf(address, encrypted_sirk, sirk)`: the SIRK it stores, or `none` where it
returns false because `btm_find_dev` finds no security record. `pltkOf` gives the LTK of the
record `btm_find_dev(address)` finds. -/
def sdf (pltkOf : RawAddress → Option Octet16) (address : RawAddress) (encryptedSirk : Octet16) :
    Option Octet16 := do
  let pltk ← pltkOf address
  let zeroKey : Octet16 := Vector.replicate 16 0
  let msg1 := (asciiBytes "SIRKenc").reverse
  let s1 ← aesCmac E zeroKey msg1 msg1.length.toUInt16
  let t ← aesCmacOctet16 E s1 pltk
  let msg2 := (asciiBytes "csis").reverse
  let k1 ← aesCmac E t msg2 msg2.length.toUInt16
  return xor128 encryptedSirk k1

/-! ## The profile's functions -/

/-- `s1(M) = AES-CMAC_0(M)`. -/
def s1 (m : List UInt8) : Block := cmac E zero m

/-- `k1(N, SALT, P) = AES-CMAC_T(P)` with `T = AES-CMAC_SALT(N)`. -/
def k1 (n : List UInt8) (salt : Block) (p : List UInt8) : Block := cmac E (cmac E salt n) p

/-- The profile's `sdf(K, EncSIRK) = EncSIRK ⊕ k1(K, s1("SIRKenc"), "csis")`. -/
def sdfSpec (k encSirk : Block) : Block :=
  xorBlock encSirk (k1 E k.toList (s1 E (asciiBytes "SIRKenc")) (asciiBytes "csis"))

/-- `aes_cmac` of a string reversed by hand is the CMAC of the string. -/
theorem aesCmac_reverse_ascii (key : Octet16) (s : String) (hs : s.length ≤ 4064) :
    aesCmac E key (asciiBytes s).reverse (asciiBytes s).reverse.length.toUInt16 =
      some (cmac E key.reverse (asciiBytes s)).reverse := by
  have hlen : (asciiBytes s).reverse.length = s.length := by
    simp [asciiBytes, String.length_toList]
  have hnat : (asciiBytes s).reverse.length.toUInt16.toNat = (asciiBytes s).reverse.length := by
    simp only [Nat.toUInt16_eq, UInt16.toNat_ofNat']
    omega
  rw [aesCmac_eq E key (by omega) (by omega), hnat, List.take_length, List.reverse_reverse]

/-- `sdf` computes the profile's `sdf` on the reversed LTK and encrypted SIRK, reversed. -/
theorem sdf_eq (pltkOf : RawAddress → Option Octet16) (address : RawAddress) (x : Octet16) :
    sdf E pltkOf address x =
      (pltkOf address).map fun l => (sdfSpec E l.reverse x.reverse).reverse := by
  cases hl : pltkOf address with
  | none => simp [sdf, hl]
  | some l =>
    have hzero : (Vector.replicate 16 0 : Octet16).reverse = zero := reverse_zero
    simp only [sdf, hl, Option.bind_eq_bind, Option.bind_some, Option.map_some]
    rw [aesCmac_reverse_ascii E _ _ (by decide), hzero, Option.bind_some, aesCmacOctet16_eq,
      Option.bind_some, Vector.reverse_reverse, aesCmac_reverse_ascii E _ _ (by decide),
      Option.bind_some, Vector.reverse_reverse]
    congr 1
    rw [sdfSpec, reverse_xorBlock, Vector.reverse_reverse, xor128, Vector.toList_reverse]
    rfl

/-- What the stack computes for the addresses and keys of a coordinated set, over any block
cipher: a generated RPA carries `prand` from the random bytes, with top bits `01`, and the `ah`
hash of it under the IRK; `rpa_matches_irk` and `is_rsi_match_sirk` are the same check, which
accepts exactly the addresses whose hash is `ah` of their `prand`, and so every generated one;
and `sdf` is the profile's decryption of the SIRK under the LTK. The stack keeps keys and blocks
least significant byte first, so the cipher's keys and blocks are the stack's reversed. -/
theorem resolvable_address_and_sirk_spec :
    (∀ (irk : Octet16) (random : Vector UInt8 8),
      prand (generateRpaFromIrkAndRand E irk random) =
        ((random[2] &&& 0x3F) ||| 0x40).toNat * 2 ^ 16 + random[1].toNat * 2 ^ 8 +
          random[0].toNat ∧
      (generateRpaFromIrkAndRand E irk random).address[0] >>> 6 = 1 ∧
      hash (generateRpaFromIrkAndRand E irk random) =
        ah E irk.reverse (prand (generateRpaFromIrkAndRand E irk random))) ∧
    (∀ (a : RawAddress) (key : Octet16),
      rpaMatchesIrk E a key = isRsiMatchSirk E a key ∧
      rpaMatchesIrk E a key = decide (ah E key.reverse (prand a) = hash a)) ∧
    (∀ (irk : Octet16) (random : Vector UInt8 8),
      rpaMatchesIrk E (generateRpaFromIrkAndRand E irk random) irk = true ∧
      isRsiMatchSirk E (generateRpaFromIrkAndRand E irk random) irk = true) ∧
    (∀ (pltkOf : RawAddress → Option Octet16) (address : RawAddress) (x : Octet16),
      sdf E pltkOf address x =
        (pltkOf address).map fun l => (sdfSpec E l.reverse x.reverse).reverse) := by
  refine ⟨fun irk random => ?_, fun a key => ⟨rfl, addressMatchesKey_iff E a key⟩,
    fun irk random => ?_, sdf_eq E⟩
  · obtain ⟨hprand, htop⟩ := prand_generateRpaFromIrkAndRand E irk random
    exact ⟨hprand, htop, hash_generateRpaFromIrkAndRand E irk random⟩
  · have hmatch := rpaMatchesIrk_generateRpaFromIrkAndRand E irk random
    exact ⟨hmatch, hmatch⟩

end BluetoothStack.Csis
