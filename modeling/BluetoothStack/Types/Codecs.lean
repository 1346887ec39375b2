import Mathlib
import BluetoothStack.Gatt.Discovery
import BluetoothStack.Lib.CScan
import BluetoothStack.Lib.Bits

/-!
# The text and binary forms of UUIDs and Bluetooth addresses

`Uuid::ToString` and `Uuid::FromString`, `From16Bit`, `From32Bit`, `From128BitLE` and their
inverses (types/bluetooth/uuid.cc), `RawAddress::ToString` and `RawAddress::FromString`
(types/raw_address.cc), and `gatt_parse_uuid_from_cmd`, which reads back what
`gatt_build_uuid_to_stream` writes (stack/gatt/gatt_utils.cc).

The readers of text rest on `sscanf` and `strtol`, modelled in `CScan` as the C standard
specifies them. Both codecs read back what their writers write (`fromString_toString`,
`RawAddress.fromString_toString`), and each reads every string of its canonical grammar as the
bytes it spells (`fromString_canonical128`, `fromString_canonical32`, `fromString_canonical16`,
`RawAddress.fromString_canonical`). The binary forms read back as well (`from16Bit_as16Bit`,
`from32Bit_as32Bit`, `from128BitLE_to128BitLE`, `gattParseUuidFromCmd_build`).
-/

namespace BluetoothStack.Gatt

open Bytes CScan

namespace Uuid

/-- `Uuid::kString128BitLen`. -/
def kString128BitLen : Nat := 36

/-- `u` with the bytes `bs` stored from byte `pos` on, as `sscanf` stores its conversions through
`p`. -/
def writeBytes (u : Uuid) (pos : Nat) (bs : List UInt8) : Uuid :=
  ⟨⟨(store pos bs u.uu.toList).toArray, by simp⟩⟩

/-- `Uuid::ToString`: each byte by `%02x`, with a dash after the fourth, sixth, eighth and tenth. -/
def toString (u : Uuid) : List Char :=
  let b := u.uu.toList
  (b.take 4).flatMap printHex02 ++ ['-'] ++ ((b.drop 4).take 2).flatMap printHex02 ++ ['-'] ++
    ((b.drop 6).take 2).flatMap printHex02 ++ ['-'] ++
    ((b.drop 8).take 2).flatMap printHex02 ++ ['-'] ++ (b.drop 10).flatMap printHex02

/-- The format `FromString` reads 36 characters with: sixteen `%02hhx`, in groups of 4, 2, 2, 2
and 6 separated by `-`, then `%n`. -/
def format128 : List Directive :=
  List.replicate 4 (.hex 2) ++ [.literal '-'] ++ List.replicate 2 (.hex 2) ++ [.literal '-'] ++
    List.replicate 2 (.hex 2) ++ [.literal '-'] ++ List.replicate 2 (.hex 2) ++ [.literal '-'] ++
    List.replicate 6 (.hex 2) ++ [.count]

/-- The format `FromString` reads 8 characters with, `"%02hhx%02hhx%02hhx%02hhx%n"`. -/
def format32 : List Directive := List.replicate 4 (.hex 2) ++ [.count]

/-- The format `FromString` reads 4 characters with, `"%02hhx%02hhx%n"`. -/
def format16 : List Directive := List.replicate 2 (.hex 2) ++ [.count]

/-- `Uuid::FromString`: the UUID returned and what is stored through `is_valid`. It starts from
the base UUID, and `sscanf` writes the bytes it reads into it, so a string it refuses still
leaves the bytes read before the failure. -/
def fromString (uuid : List Char) : Uuid × Bool :=
  if uuid.isEmpty then (kBase, false)
  else if uuid.length = kString128BitLen then
    if uuid.getD 8 ' ' ≠ '-' ∨ uuid.getD 13 ' ' ≠ '-' ∨ uuid.getD 18 ' ' ≠ '-' ∨
        uuid.getD 23 ' ' ≠ '-' then (kBase, false)
    else
      let r := scan format128 uuid 0
      let ret := kBase.writeBytes 0 r.1
      if r.1.length ≠ 16 then (ret, false)
      else if r.2.head? ≠ some kString128BitLen then (ret, false)
      else (ret, true)
  else if uuid.length = 8 then
    let r := scan format32 uuid 0
    let ret := kBase.writeBytes 0 r.1
    if r.1.length ≠ 4 then (ret, false)
    else if r.2.head? ≠ some 8 then (ret, false)
    else (ret, true)
  else if uuid.length = 4 then
    let r := scan format16 uuid 0
    let ret := kBase.writeBytes 2 r.1
    if r.1.length ≠ 2 then (ret, false)
    else if r.2.head? ≠ some 4 then (ret, false)
    else (ret, true)
  else (kBase, false)

/-- `Uuid::From128BitLE`: sixteen bytes at `uuid`, least significant first. -/
def from128BitLE (uuid : List UInt8) : Uuid := ⟨Vector.ofFn fun i => uuid.getD (15 - i.val) 0⟩

end Uuid

/-- `gatt_parse_uuid_from_cmd`: whether it succeeds, the UUID it leaves in `p_uuid_rec`, and how
far it moves `p_data`. A 32-bit UUID is refused, and a size of 0 is accepted with nothing read. -/
def gattParseUuidFromCmd (uuidRec : Uuid) (uuidSize : Nat) (data : List UInt8) :
    Bool × Uuid × Nat :=
  if uuidSize = Uuid.kNumBytes16 then
    (true, Uuid.from16Bit (leValue (data.take 2)), Uuid.kNumBytes16)
  else if uuidSize = Uuid.kNumBytes128 then
    (true, Uuid.from128BitLE data, Uuid.kNumBytes128)
  else if uuidSize = Uuid.kNumBytes32 then (false, uuidRec, 0)
  else (uuidSize = 0, uuidRec, 0)

/-- The length `gatt_build_uuid_to_stream` returns: 0 for the empty UUID, which it does not
write, and otherwise that of the bytes it writes, as `gatt_build_uuid_to_stream_len` counts them. -/
def gattBuildUuidToStreamRet (u : Uuid) : Nat :=
  if u.isEmpty then 0 else gattBuildUuidToStreamLen u

/-! ## The binary forms -/

namespace Uuid

/-- Unless its shortest size is 16, a UUID has the base UUID's last twelve bytes. -/
theorem getElem_of_size_ne {u : Uuid} (h : u.getShortestRepresentationSize ≠ kNumBytes128)
    {i : Nat} (hi4 : 4 ≤ i) (hi : i < 16) : u.uu[i] = kBase.uu[i] := by
  have hdrop : u.uu.toList.drop kNumBytes32 = kBase.uu.toList.drop kNumBytes32 := by
    by_contra hne
    exact h (by rw [getShortestRepresentationSize, if_pos hne])
  have hget := congrArg (fun l => l[i - 4]?) hdrop
  simp only [List.getElem?_drop, kNumBytes32, show 4 + (i - 4) = i by omega,
    Vector.getElem?_toList] at hget
  simpa only [Vector.getElem?_eq_getElem hi, Option.some.injEq] using hget

/-- A UUID of shortest size 2 begins with two zero bytes. -/
theorem zero_bytes_of_size_eq_16bit {u : Uuid}
    (h : u.getShortestRepresentationSize = kNumBytes16) : u.uu[0] = 0 ∧ u.uu[1] = 0 := by
  unfold getShortestRepresentationSize at h
  split_ifs at h with hbase hzero
  · exact absurd h (by decide)
  · exact hzero
  · exact absurd h (by decide)

/-- Two UUIDs with the same sixteen bytes are equal. -/
theorem ext_getElem {u v : Uuid} (h : ∀ i (hi : i < 16), u.uu[i] = v.uu[i]) : u = v := by
  cases u
  cases v
  congr 1
  exact Vector.ext h

theorem as16Bit_lt (u : Uuid) : u.as16Bit < 65536 := by
  have h2 := u.uu[2].toNat_lt
  have h3 := u.uu[3].toNat_lt
  simp only [as16Bit]
  omega

/-- `From16Bit(As16Bit())` gives back a UUID of shortest size 2. -/
theorem from16Bit_as16Bit {u : Uuid} (h : u.getShortestRepresentationSize = kNumBytes16) :
    from16Bit u.as16Bit = u := by
  obtain ⟨h0, h1⟩ := zero_bytes_of_size_eq_16bit h
  have hne : u.getShortestRepresentationSize ≠ kNumBytes128 := by
    rw [h]
    decide
  have h2 := u.uu[2].toNat_lt
  have h3 := u.uu[3].toNat_lt
  apply ext_getElem
  intro i hi
  simp only [from16Bit, Vector.getElem_set]
  by_cases hi4 : 4 ≤ i
  · -- from the fifth byte on, both are the base UUID's
    rw [if_neg (by omega), if_neg (by omega), getElem_of_size_ne hne hi4 hi]
  · -- the first two bytes are zero in both, the next two are the 16-bit value's
    interval_cases i
    · rw [h0]
      rfl
    · rw [h1]
      rfl
    · rw [if_neg (by omega), if_pos rfl, as16Bit,
        show (u.uu[2].toNat * 256 + u.uu[3].toNat) % 65536 / 256 = u.uu[2].toNat by omega,
        UInt8.ofNat_toNat]
    · rw [if_pos rfl, as16Bit,
        show (u.uu[2].toNat * 256 + u.uu[3].toNat) % 256 = u.uu[3].toNat by omega,
        UInt8.ofNat_toNat]

/-- A byte mask of the source at bit `k`, shifted down. -/
theorem byte_mask_shiftRight (x k : Nat) : ((2 ^ 8 - 1) <<< k &&& x) >>> k = x / 2 ^ k % 256 := by
  rw [Nat.land_comm, Bits.field_shiftRight]
  rfl

/-- `From32Bit(As32Bit())` gives back a UUID of shortest size 4. -/
theorem from32Bit_as32Bit {u : Uuid} (h : u.getShortestRepresentationSize = kNumBytes32) :
    from32Bit u.as32Bit = u := by
  have hne : u.getShortestRepresentationSize ≠ kNumBytes128 := by
    rw [h]
    decide
  have h0 := u.uu[0].toNat_lt
  have h1 := u.uu[1].toNat_lt
  have h2 := u.uu[2].toNat_lt
  have h3 := u.uu[3].toNat_lt
  -- each mask of the source picks one byte of the 32-bit value back out
  have e0 : (0xFF000000 &&& u.as32Bit) >>> 24 = u.uu[0].toNat := by
    rw [show (0xFF000000 : Nat) = (2 ^ 8 - 1) <<< 24 from rfl, byte_mask_shiftRight, as32Bit]
    omega
  have e1 : (0x00FF0000 &&& u.as32Bit) >>> 16 = u.uu[1].toNat := by
    rw [show (0x00FF0000 : Nat) = (2 ^ 8 - 1) <<< 16 from rfl, byte_mask_shiftRight, as32Bit]
    omega
  have e2 : (0x0000FF00 &&& u.as32Bit) >>> 8 = u.uu[2].toNat := by
    rw [show (0x0000FF00 : Nat) = (2 ^ 8 - 1) <<< 8 from rfl, byte_mask_shiftRight, as32Bit]
    omega
  have e3 : 0x000000FF &&& u.as32Bit = u.uu[3].toNat := by
    rw [Nat.land_comm, show (0x000000FF : Nat) = 2 ^ 8 - 1 from rfl,
      Nat.and_two_pow_sub_one_eq_mod, as32Bit]
    omega
  apply ext_getElem
  intro i hi
  simp only [from32Bit, Vector.getElem_set, e0, e1, e2, e3, UInt8.ofNat_toNat]
  by_cases hi4 : 4 ≤ i
  · rw [if_neg (by omega), if_neg (by omega), if_neg (by omega), if_neg (by omega),
      getElem_of_size_ne hne hi4 hi]
  · interval_cases i <;> rfl

/-- `From128BitLE` reads sixteen bytes, whatever follows them. -/
theorem from128BitLE_append {l : List UInt8} (hl : l.length = 16) (rest : List UInt8) :
    from128BitLE (l ++ rest) = from128BitLE l := by
  apply ext_getElem
  intro i hi
  simp only [from128BitLE, Vector.getElem_ofFn, List.getD_eq_getElem?_getD,
    List.getElem?_append_left (show 15 - i < l.length by omega)]

/-- `From128BitLE(To128BitLE())` gives back every UUID. -/
theorem from128BitLE_to128BitLE (u : Uuid) : from128BitLE u.to128BitLE = u := by
  apply ext_getElem
  intro i hi
  simp only [from128BitLE, to128BitLE, Vector.getElem_ofFn, List.getD_eq_getElem?_getD,
    List.getElem?_reverse (show 15 - i < u.uu.toList.length by simp; omega), Vector.length_toList,
    show 16 - 1 - (15 - i) = i by omega, Vector.getElem?_toList, Vector.getElem?_eq_getElem hi,
    Option.getD_some]

end Uuid

/-- `gatt_parse_uuid_from_cmd` reads back, with the length `gatt_build_uuid_to_stream` returns,
every UUID but the empty one from the bytes that function writes. -/
theorem gattParseUuidFromCmd_build {u : Uuid} (hu : u ≠ Uuid.kEmpty) (uuidRec : Uuid)
    (rest : List UInt8) :
    gattParseUuidFromCmd uuidRec (gattBuildUuidToStreamRet u) (gattBuildUuidToStream u ++ rest) =
      (true, u, gattBuildUuidToStreamRet u) := by
  have hempty : u.isEmpty = false := by simpa [Uuid.isEmpty] using hu
  simp only [gattBuildUuidToStreamRet, hempty, Bool.false_eq_true, if_false]
  by_cases h16 : u.getShortestRepresentationSize = Uuid.kNumBytes16
  · -- two bytes, the 16-bit value least significant first
    have hbytes : (gattBuildUuidToStream u ++ rest).take 2 = leBytes 2 u.as16Bit := by
      simp only [gattBuildUuidToStream, h16, if_true, List.take_left' (length_leBytes 2 _)]
    simp only [gattBuildUuidToStreamLen, h16, show Uuid.kNumBytes16 ≠ Uuid.kNumBytes32 by decide,
      if_false, gattParseUuidFromCmd, if_true, hbytes, leValue_leBytes,
      Nat.mod_eq_of_lt (show u.as16Bit < 256 ^ 2 from u.as16Bit_lt), Uuid.from16Bit_as16Bit h16]
  · -- sixteen bytes, least significant first
    have hlen : gattBuildUuidToStreamLen u = Uuid.kNumBytes128 := by
      unfold gattBuildUuidToStreamLen
      split_ifs with h32
      · rfl
      · unfold Uuid.getShortestRepresentationSize at h16 h32 ⊢
        split_ifs at h16 h32 ⊢ <;> first | rfl | exact absurd rfl h16 | exact absurd rfl h32
    have hbytes : gattBuildUuidToStream u = u.to128BitLE := by
      simp only [gattBuildUuidToStream, h16, if_false]
    have hlength : u.to128BitLE.length = 16 := by simp [Uuid.to128BitLE]
    simp only [hlen, gattParseUuidFromCmd, show Uuid.kNumBytes128 ≠ Uuid.kNumBytes16 by decide,
      if_false, if_true, hbytes, Uuid.from128BitLE_append hlength, Uuid.from128BitLE_to128BitLE]

/-! ## The text forms -/

namespace Uuid

/-- The 128-bit format reads the five groups of a canonical string, and its `%n` stores 36. -/
theorem scan_format128 {g₁ g₂ g₃ g₄ g₅ : List (Char × Char)}
    (hlen : g₁.length = 4 ∧ g₂.length = 2 ∧ g₃.length = 2 ∧ g₄.length = 2 ∧ g₅.length = 6)
    (hhex : ∀ p ∈ g₁ ++ g₂ ++ g₃ ++ g₄ ++ g₅, IsHexPair p) :
    scan format128 (spell g₁ ++ ['-'] ++ spell g₂ ++ ['-'] ++ spell g₃ ++ ['-'] ++ spell g₄ ++
      ['-'] ++ spell g₅) 0 = ((g₁ ++ g₂ ++ g₃ ++ g₄ ++ g₅).map pairByte, [36]) := by
  obtain ⟨h1, h2, h3, h4, h5⟩ := hlen
  have hx1 : ∀ p ∈ g₁, IsHexPair p := fun p hp => hhex p (by simp [hp])
  have hx2 : ∀ p ∈ g₂, IsHexPair p := fun p hp => hhex p (by simp [hp])
  have hx3 : ∀ p ∈ g₃, IsHexPair p := fun p hp => hhex p (by simp [hp])
  have hx4 : ∀ p ∈ g₄, IsHexPair p := fun p hp => hhex p (by simp [hp])
  have hx5 : ∀ p ∈ g₅, IsHexPair p := fun p hp => hhex p (by simp [hp])
  -- one group of conversions and one dash at a time, the last group followed by the %n
  rw [← List.append_nil (spell g₅)]
  simp only [format128, List.append_assoc, List.cons_append, List.nil_append]
  rw [scan_pairs_of_length h1 hx1, scan_literal, scan_pairs_of_length h2 hx2, scan_literal,
    scan_pairs_of_length h3 hx3, scan_literal, scan_pairs_of_length h4 hx4, scan_literal,
    scan_pairs_of_length h5 hx5, scan_count]
  simp only [scan, List.append_nil, List.map_append]

/-- `FromString` reads every string of five groups of hex digit pairs, of 4, 2, 2, 2 and 6 pairs,
joined by dashes, as the sixteen bytes the pairs spell. -/
theorem fromString_canonical128 {g₁ g₂ g₃ g₄ g₅ : List (Char × Char)}
    (hlen : g₁.length = 4 ∧ g₂.length = 2 ∧ g₃.length = 2 ∧ g₄.length = 2 ∧ g₅.length = 6)
    (hhex : ∀ p ∈ g₁ ++ g₂ ++ g₃ ++ g₄ ++ g₅, IsHexPair p) :
    fromString (spell g₁ ++ ['-'] ++ spell g₂ ++ ['-'] ++ spell g₃ ++ ['-'] ++ spell g₄ ++ ['-'] ++
      spell g₅) = (kBase.writeBytes 0 ((g₁ ++ g₂ ++ g₃ ++ g₄ ++ g₅).map pairByte), true) := by
  have hscan := scan_format128 hlen hhex
  obtain ⟨h1, h2, h3, h4, h5⟩ := hlen
  have hdashes : ∀ i ∈ [8, 13, 18, 23], (spell g₁ ++ ['-'] ++ spell g₂ ++ ['-'] ++ spell g₃ ++
      ['-'] ++ spell g₄ ++ ['-'] ++ spell g₅).getD i ' ' = '-' := by
    simp [List.getElem?_append, List.getElem?_cons, length_spell, h1, h2, h3, h4]
  generalize hs : spell g₁ ++ ['-'] ++ spell g₂ ++ ['-'] ++ spell g₃ ++ ['-'] ++ spell g₄ ++
    ['-'] ++ spell g₅ = s at hscan hdashes ⊢
  have hlength : s.length = kString128BitLen := by
    rw [← hs]
    simp [length_spell, h1, h2, h3, h4, h5, kString128BitLen]
  have hne : ¬ s.isEmpty = true := by
    rw [List.isEmpty_iff]
    rintro rfl
    simp [kString128BitLen] at hlength
  -- the four dashes pass the check before the scan
  have hcheck : ¬ (s.getD 8 ' ' ≠ '-' ∨ s.getD 13 ' ' ≠ '-' ∨ s.getD 18 ' ' ≠ '-' ∨
      s.getD 23 ' ' ≠ '-') := by
    rw [hdashes 8 (by simp), hdashes 13 (by simp), hdashes 18 (by simp), hdashes 23 (by simp)]
    simp
  rw [fromString, if_neg hne, if_pos hlength, if_neg hcheck]
  simp [hscan, h1, h2, h3, h4, h5, kString128BitLen]

/-- `FromString` reads every string of four hex digit pairs as the 32-bit UUID they spell. -/
theorem fromString_canonical32 {g : List (Char × Char)} (hlen : g.length = 4)
    (hhex : ∀ p ∈ g, IsHexPair p) :
    fromString (spell g) = (kBase.writeBytes 0 (g.map pairByte), true) := by
  have hscan : scan format32 (spell g) 0 = (g.map pairByte, [8]) := by
    rw [format32, ← List.append_nil (spell g), scan_pairs_of_length hlen hhex, scan_count]
    simp [scan]
  have hlength : (spell g).length = 8 := by simp [length_spell, hlen]
  have hne : ¬ (spell g).isEmpty = true := by
    rw [List.isEmpty_iff]
    intro h
    simp [h] at hlength
  rw [fromString, if_neg hne, if_neg (by simp [hlength, kString128BitLen]), if_pos hlength]
  simp [hscan, hlen]

/-- `FromString` reads every string of two hex digit pairs as the 16-bit UUID they spell, stored
from the third byte of the base UUID on. -/
theorem fromString_canonical16 {g : List (Char × Char)} (hlen : g.length = 2)
    (hhex : ∀ p ∈ g, IsHexPair p) :
    fromString (spell g) = (kBase.writeBytes 2 (g.map pairByte), true) := by
  have hscan : scan format16 (spell g) 0 = (g.map pairByte, [4]) := by
    rw [format16, ← List.append_nil (spell g), scan_pairs_of_length hlen hhex, scan_count]
    simp [scan]
  have hlength : (spell g).length = 4 := by simp [length_spell, hlen]
  have hne : ¬ (spell g).isEmpty = true := by
    rw [List.isEmpty_iff]
    intro h
    simp [h] at hlength
  rw [fromString, if_neg hne, if_neg (by simp [hlength, kString128BitLen]),
    if_neg (by simp [hlength]), if_pos hlength]
  simp [hscan, hlen]

/-- Writing a UUID's sixteen bytes from byte 0 gives that UUID, whatever was there before. -/
theorem writeBytes_zero_toList (u v : Uuid) : v.writeBytes 0 u.uu.toList = u := by
  have hstore : store 0 u.uu.toList v.uu.toList = u.uu.toList :=
    store_zero_of_length (by simp)
  apply ext_getElem
  intro i hi
  simp [writeBytes, hstore]

/-- The five slices `ToString` prints make up the whole list. -/
theorem slices_append {α : Type*} (b : List α) :
    b.take 4 ++ (b.drop 4).take 2 ++ (b.drop 6).take 2 ++ (b.drop 8).take 2 ++ b.drop 10 = b := by
  have h10 : b.drop 10 = (b.drop 8).drop 2 := by rw [List.drop_drop]
  have h8 : b.drop 8 = (b.drop 6).drop 2 := by rw [List.drop_drop]
  have h6 : b.drop 6 = (b.drop 4).drop 2 := by rw [List.drop_drop]
  simp only [List.append_assoc]
  rw [h10, List.take_append_drop, h8, List.take_append_drop, h6, List.take_append_drop,
    List.take_append_drop]

/-- `FromString(ToString())` gives back every UUID, and says it is valid. -/
theorem fromString_toString (u : Uuid) : fromString u.toString = (u, true) := by
  have hlen : u.uu.toList.length = 16 := by simp
  -- the five groups ToString prints, as hex pairs
  have htext : u.toString = spell ((u.uu.toList.take 4).map hexPair) ++ ['-'] ++
      spell (((u.uu.toList.drop 4).take 2).map hexPair) ++ ['-'] ++
      spell (((u.uu.toList.drop 6).take 2).map hexPair) ++ ['-'] ++
      spell (((u.uu.toList.drop 8).take 2).map hexPair) ++ ['-'] ++
      spell ((u.uu.toList.drop 10).map hexPair) := by
    simp only [toString, spell_map_hexPair]
  have hgroups : (u.uu.toList.take 4).map hexPair ++ ((u.uu.toList.drop 4).take 2).map hexPair ++
      ((u.uu.toList.drop 6).take 2).map hexPair ++ ((u.uu.toList.drop 8).take 2).map hexPair ++
      (u.uu.toList.drop 10).map hexPair = u.uu.toList.map hexPair := by
    simp only [← List.map_append, slices_append]
  rw [htext, fromString_canonical128 (by simp [hlen]) (by
    rw [hgroups]
    exact fun p hp => isHexPair_of_mem_map_hexPair hp), hgroups, map_pairByte_map_hexPair,
    writeBytes_zero_toList]

end Uuid

end BluetoothStack.Gatt

namespace BluetoothStack

open CScan

/-- `RawAddress`: six bytes. -/
structure RawAddress where
  address : Vector UInt8 6
deriving DecidableEq, Repr

namespace RawAddress

/-- `RawAddress::ToString`: each byte by `%02x`, separated by colons. -/
def toString (a : RawAddress) : List Char := [':'].intercalate (a.address.toList.map printHex02)

/-- `base::TRIM_WHITESPACE`: white space dropped at both ends. -/
def trimWhitespace (s : List Char) : List Char :=
  ((s.dropWhile isSpace).reverse.dropWhile isSpace).reverse

/-- `base::SplitString(from, ":", base::TRIM_WHITESPACE, base::SPLIT_WANT_ALL)`: the pieces
between colons, each trimmed, the empty ones kept. -/
def splitString (s : List Char) : List (List Char) := (s.splitOn ':').map trimWhitespace

/-- One byte of `FromString`: a token of two characters that `strtol` reads whole, converted to
`uint8_t`. -/
def parseByteToken (token : List Char) : Option UInt8 :=
  if token.length ≠ 2 then none
  else if (strtol16 token).2 ≠ [] then none
  else some (UInt8.ofInt (strtol16 token).1)

/-- `RawAddress::FromString`: the address it stores in `to`, or `none` where it returns false and
leaves `to` as it was. -/
def fromString (s : List Char) : Option RawAddress :=
  if s.length ≠ 17 then none
  else
    let byteTokens := splitString s
    if byteTokens.length ≠ 6 then none
    else (byteTokens.mapM parseByteToken).map fun bytes => ⟨Vector.ofFn fun i => bytes.getD i 0⟩

/-- A token of two hex digits is read as the byte it spells. -/
theorem parseByteToken_pair {p : Char × Char} (hp : IsHexPair p) :
    parseByteToken [p.1, p.2] = some (pairByte p) := by
  have hlt := hexValue_pair_lt hp
  -- the cast to uint8_t keeps a value below 256
  have hbyte : UInt8.ofInt (hexValue [p.1, p.2] : Int) = pairByte p := by
    have hmod : Int.toNat ((hexValue [p.1, p.2] : Int) % 2 ^ 8) = hexValue [p.1, p.2] := by
      omega
    rw [UInt8.ofInt, pairByte, hmod]
  simp [parseByteToken, strtol16_pair hp, hbyte]

/-- Trimming leaves a pair of hex digits as it is. -/
theorem trimWhitespace_pair {p : Char × Char} (hp : IsHexPair p) :
    trimWhitespace [p.1, p.2] = [p.1, p.2] := by
  simp [trimWhitespace, isSpace_of_isHexDigit hp.1, isSpace_of_isHexDigit hp.2]

/-- Hex digit pairs joined by colons are three characters a pair, less one. -/
theorem length_intercalate_pairs : ∀ {g : List (Char × Char)}, g ≠ [] →
    ([':'].intercalate (g.map fun p => [p.1, p.2])).length = 3 * g.length - 1
  | [], h => absurd rfl h
  | [_], _ => rfl
  | p :: q :: rest, _ => by
    have ih := length_intercalate_pairs (List.cons_ne_nil q rest)
    rw [List.map_cons] at ih
    rw [List.map_cons, List.map_cons, List.intercalate_cons_cons, List.length_append,
      List.length_append, ih]
    simp only [List.length_cons, List.length_nil]
    omega

/-- Splitting hex digit pairs joined by colons gives the pairs back. -/
theorem splitString_intercalate {g : List (Char × Char)} (hg : g ≠ [])
    (hhex : ∀ p ∈ g, IsHexPair p) :
    splitString ([':'].intercalate (g.map fun p => [p.1, p.2])) = g.map fun p => [p.1, p.2] := by
  -- a colon is no hex digit, so no token holds one
  have hcolon : ∀ l ∈ g.map (fun p => [p.1, p.2]), ':' ∉ l := by
    intro l hl hmem
    obtain ⟨p, hp, rfl⟩ := List.mem_map.1 hl
    have hdigit : isHexDigit ':' = true := by
      rcases List.mem_pair.1 hmem with h | h
      · exact h ▸ (hhex p hp).1
      · exact h ▸ (hhex p hp).2
    exact absurd hdigit (by decide)
  rw [splitString, List.splitOn_intercalate ':' hcolon (by simpa using hg), List.map_map]
  exact List.map_congr_left fun p hp => trimWhitespace_pair (hhex p hp)

/-- Every token of hex digit pairs is read, as the bytes the pairs spell. -/
theorem mapM_parseByteToken : ∀ {g : List (Char × Char)}, (∀ p ∈ g, IsHexPair p) →
    (g.map fun p => [p.1, p.2]).mapM parseByteToken = some (g.map pairByte)
  | [], _ => rfl
  | p :: g, hhex => by
    rw [List.map_cons, List.mapM_cons, parseByteToken_pair (hhex p List.mem_cons_self),
      mapM_parseByteToken fun q hq => hhex q (List.mem_cons_of_mem p hq)]
    rfl

/-- `FromString` reads every string of six hex digit pairs joined by colons as the address the
pairs spell. -/
theorem fromString_canonical {g : List (Char × Char)} (hlen : g.length = 6)
    (hhex : ∀ p ∈ g, IsHexPair p) :
    fromString ([':'].intercalate (g.map fun p => [p.1, p.2])) =
      some ⟨Vector.ofFn fun i => (g.map pairByte).getD i 0⟩ := by
  have hg : g ≠ [] := by
    rintro rfl
    simp at hlen
  have hlength : ([':'].intercalate (g.map fun p => [p.1, p.2])).length = 17 := by
    rw [length_intercalate_pairs hg, hlen]
  simp only [fromString, hlength, splitString_intercalate hg hhex, List.length_map, hlen,
    mapM_parseByteToken hhex, ne_eq, not_true_eq_false, if_false, Option.map_some]

/-- `FromString(ToString())` gives back every address. -/
theorem fromString_toString (a : RawAddress) : fromString a.toString = some a := by
  have htext : a.toString =
      [':'].intercalate ((a.address.toList.map hexPair).map fun p => [p.1, p.2]) := by
    simp only [toString, List.map_map]
    rfl
  rw [htext, fromString_canonical (by simp)
    (fun p hp => isHexPair_of_mem_map_hexPair hp), map_pairByte_map_hexPair]
  congr 1
  cases a with
  | mk address =>
  congr 1
  apply Vector.ext
  intro i hi
  simp

end RawAddress

/-! ## Both codecs -/

open Gatt

/-- Both codecs read back what their writers write, in text and in binary, and each reader takes
every string of its canonical grammar as the bytes it spells. -/
theorem uuid_rawAddress_codecs :
    (∀ u : Uuid, Uuid.fromString u.toString = (u, true)) ∧
    (∀ u : Uuid, Uuid.from128BitLE u.to128BitLE = u) ∧
    (∀ u : Uuid, u.getShortestRepresentationSize = Uuid.kNumBytes16 →
      Uuid.from16Bit u.as16Bit = u) ∧
    (∀ u : Uuid, u.getShortestRepresentationSize = Uuid.kNumBytes32 →
      Uuid.from32Bit u.as32Bit = u) ∧
    (∀ u : Uuid, u ≠ Uuid.kEmpty → ∀ (uuidRec : Uuid) (rest : List UInt8),
      gattParseUuidFromCmd uuidRec (gattBuildUuidToStreamRet u) (gattBuildUuidToStream u ++ rest) =
        (true, u, gattBuildUuidToStreamRet u)) ∧
    (∀ a : RawAddress, RawAddress.fromString a.toString = some a) ∧
    (∀ g₁ g₂ g₃ g₄ g₅ : List (Char × Char),
      g₁.length = 4 ∧ g₂.length = 2 ∧ g₃.length = 2 ∧ g₄.length = 2 ∧ g₅.length = 6 →
      (∀ p ∈ g₁ ++ g₂ ++ g₃ ++ g₄ ++ g₅, IsHexPair p) →
      Uuid.fromString (spell g₁ ++ ['-'] ++ spell g₂ ++ ['-'] ++ spell g₃ ++ ['-'] ++ spell g₄ ++
        ['-'] ++ spell g₅) =
        (Uuid.kBase.writeBytes 0 ((g₁ ++ g₂ ++ g₃ ++ g₄ ++ g₅).map pairByte), true)) ∧
    (∀ g : List (Char × Char), g.length = 4 → (∀ p ∈ g, IsHexPair p) →
      Uuid.fromString (spell g) = (Uuid.kBase.writeBytes 0 (g.map pairByte), true)) ∧
    (∀ g : List (Char × Char), g.length = 2 → (∀ p ∈ g, IsHexPair p) →
      Uuid.fromString (spell g) = (Uuid.kBase.writeBytes 2 (g.map pairByte), true)) ∧
    (∀ g : List (Char × Char), g.length = 6 → (∀ p ∈ g, IsHexPair p) →
      RawAddress.fromString ([':'].intercalate (g.map fun p => [p.1, p.2])) =
        some ⟨Vector.ofFn fun i => (g.map pairByte).getD i 0⟩) :=
  ⟨Uuid.fromString_toString, Uuid.from128BitLE_to128BitLE,
    fun _ h => Uuid.from16Bit_as16Bit h, fun _ h => Uuid.from32Bit_as32Bit h,
    fun _ hu uuidRec rest => gattParseUuidFromCmd_build hu uuidRec rest,
    RawAddress.fromString_toString,
    fun _ _ _ _ _ hlen hhex => Uuid.fromString_canonical128 hlen hhex,
    fun _ hlen hhex => Uuid.fromString_canonical32 hlen hhex,
    fun _ hlen hhex => Uuid.fromString_canonical16 hlen hhex,
    fun _ hlen hhex => RawAddress.fromString_canonical hlen hhex⟩

/-- The codecs at the Battery Service UUID 0x180F and the 32-bit UUID 0x12345678, and the readers
at "0000180f-0000-1000-8000-00805f9b34fb", "12345678", "180f" and "01:02:03:04:05:06". -/
theorem uuid_rawAddress_codecs_batteryService :
    ((Uuid.from16Bit 0x180F).getShortestRepresentationSize = Uuid.kNumBytes16 ∧
      Uuid.from16Bit (Uuid.from16Bit 0x180F).as16Bit = Uuid.from16Bit 0x180F) ∧
    ((Uuid.from32Bit 0x12345678).getShortestRepresentationSize = Uuid.kNumBytes32 ∧
      Uuid.from32Bit (Uuid.from32Bit 0x12345678).as32Bit = Uuid.from32Bit 0x12345678) ∧
    (Uuid.from16Bit 0x180F ≠ Uuid.kEmpty ∧
      gattParseUuidFromCmd Uuid.kEmpty (gattBuildUuidToStreamRet (Uuid.from16Bit 0x180F))
          (gattBuildUuidToStream (Uuid.from16Bit 0x180F) ++ []) =
        (true, Uuid.from16Bit 0x180F, gattBuildUuidToStreamRet (Uuid.from16Bit 0x180F))) ∧
    Uuid.fromString (spell [('0', '0'), ('0', '0'), ('1', '8'), ('0', 'f')] ++ ['-'] ++
        spell [('0', '0'), ('0', '0')] ++ ['-'] ++ spell [('1', '0'), ('0', '0')] ++ ['-'] ++
        spell [('8', '0'), ('0', '0')] ++ ['-'] ++
        spell [('0', '0'), ('8', '0'), ('5', 'f'), ('9', 'b'), ('3', '4'), ('f', 'b')]) =
      (Uuid.kBase.writeBytes 0 (([('0', '0'), ('0', '0'), ('1', '8'), ('0', 'f')] ++
        [('0', '0'), ('0', '0')] ++ [('1', '0'), ('0', '0')] ++ [('8', '0'), ('0', '0')] ++
        [('0', '0'), ('8', '0'), ('5', 'f'), ('9', 'b'), ('3', '4'), ('f', 'b')]).map pairByte),
        true) ∧
    Uuid.fromString (spell [('1', '2'), ('3', '4'), ('5', '6'), ('7', '8')]) =
      (Uuid.kBase.writeBytes 0 ([('1', '2'), ('3', '4'), ('5', '6'), ('7', '8')].map pairByte),
        true) ∧
    Uuid.fromString (spell [('1', '8'), ('0', 'f')]) =
      (Uuid.kBase.writeBytes 2 ([('1', '8'), ('0', 'f')].map pairByte), true) ∧
    RawAddress.fromString ([':'].intercalate
        ([('0', '1'), ('0', '2'), ('0', '3'), ('0', '4'), ('0', '5'), ('0', '6')].map
          fun p => [p.1, p.2])) =
      some ⟨Vector.ofFn fun i =>
        ([('0', '1'), ('0', '2'), ('0', '3'), ('0', '4'), ('0', '5'), ('0', '6')].map
          pairByte).getD i 0⟩ := by
  have h16 : (Uuid.from16Bit 0x180F).getShortestRepresentationSize = Uuid.kNumBytes16 := by
    decide
  have h32 : (Uuid.from32Bit 0x12345678).getShortestRepresentationSize = Uuid.kNumBytes32 := by
    decide
  have hne : Uuid.from16Bit 0x180F ≠ Uuid.kEmpty := by decide
  refine ⟨⟨h16, uuid_rawAddress_codecs.2.2.1 _ h16⟩, ⟨h32, uuid_rawAddress_codecs.2.2.2.1 _ h32⟩,
    ⟨hne, uuid_rawAddress_codecs.2.2.2.2.1 _ hne Uuid.kEmpty []⟩,
    uuid_rawAddress_codecs.2.2.2.2.2.2.1 _ _ _ _ _ ⟨rfl, rfl, rfl, rfl, rfl⟩
      (by unfold IsHexPair; decide),
    uuid_rawAddress_codecs.2.2.2.2.2.2.2.1 _ rfl (by unfold IsHexPair; decide),
    uuid_rawAddress_codecs.2.2.2.2.2.2.2.2.1 _ rfl (by unfold IsHexPair; decide),
    uuid_rawAddress_codecs.2.2.2.2.2.2.2.2.2 _ rfl (by unfold IsHexPair; decide)⟩

/-- Hex digit pairs joined by colons begin with a hex digit. -/
theorem isHexDigit_head_of_intercalate {g : List (Char × Char)} (hhex : ∀ p ∈ g, IsHexPair p)
    {c : Char} {s : List Char} (h : [':'].intercalate (g.map fun p => [p.1, p.2]) = c :: s) :
    isHexDigit c = true := by
  match g, hhex, h with
  | [], _, h => cases h
  | [p], hhex, h =>
    rw [List.map_cons, List.map_nil, List.intercalate_singleton] at h
    exact (List.cons.inj h).1 ▸ (hhex p List.mem_cons_self).1
  | p :: q :: rest, hhex, h =>
    rw [List.map_cons, List.map_cons, List.intercalate_cons_cons] at h
    exact (List.cons.inj h).1 ▸ (hhex p List.mem_cons_self).1

/-- With `sscanf` and `strtol` as the C standard specifies them, both readers also take strings
outside their grammars: a `%02hhx` conversion and `strtol` read a sign before the digit, and
`%02hhx` skips white space first. `Uuid::FromString` reads "+1+2" and " 1 2" as the 16-bit UUID
0x0102 and says both are valid, and `RawAddress::FromString` reads "+1:00:00:00:00:00" as
01:00:00:00:00:00; none of the three begins with a hex digit. -/
theorem fromString_accepts_sign_and_blank :
    Uuid.fromString ['+', '1', '+', '2'] = (Uuid.from16Bit 0x0102, true) ∧
      ¬ (∃ g : List (Char × Char), (∀ p ∈ g, IsHexPair p) ∧ spell g = ['+', '1', '+', '2']) ∧
    Uuid.fromString [' ', '1', ' ', '2'] = (Uuid.from16Bit 0x0102, true) ∧
      ¬ (∃ g : List (Char × Char), (∀ p ∈ g, IsHexPair p) ∧ spell g = [' ', '1', ' ', '2']) ∧
    RawAddress.fromString "+1:00:00:00:00:00".toList = some ⟨#v[1, 0, 0, 0, 0, 0]⟩ ∧
      ¬ (∃ g : List (Char × Char), (∀ p ∈ g, IsHexPair p) ∧
        [':'].intercalate (g.map fun p => [p.1, p.2]) = "+1:00:00:00:00:00".toList) := by
  have hplus : isHexDigit '+' = false := by decide
  have hblank : isHexDigit ' ' = false := by decide
  refine ⟨by decide, ?_, by decide, ?_, by decide, ?_⟩
  · rintro ⟨g, hhex, h⟩
    simp [isHexDigit_head_of_spell hhex h] at hplus
  · rintro ⟨g, hhex, h⟩
    simp [isHexDigit_head_of_spell hhex h] at hblank
  · rintro ⟨g, hhex, h⟩
    have htext : "+1:00:00:00:00:00".toList = '+' :: "1:00:00:00:00:00".toList := rfl
    rw [htext] at h
    simp [isHexDigit_head_of_intercalate hhex h] at hplus

end BluetoothStack
