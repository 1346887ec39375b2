import BluetoothStack.Lib.Bits
import BluetoothStack.Sdp.DataElement
import BluetoothStack.Sdp.Discovery
import BluetoothStack.Sdp.SearchSession

/-!
# The client reads back what the server wrote

The attribute list of a ServiceSearchAttribute exchange, parsed by the client
(`processServiceSearchAttrRsp`), gives one discovery record for each record the server sent, and
in it one attribute for each attribute asked for, with its id, and a value that reads back
(`DiscAttr.read`) as the data element the server's record holds, UUIDs compared in 128 bits.

The client stores some values in another shape than they came in: a 32-bit UUID below `0x10000`
and a 128-bit one on the base UUID in 16 or 32 bits. `DiscAttr.read` undoes the width by writing
every UUID out in 128 bits. One shape it does not undo: inside attribute
`ATTR_ID_ADDITION_PROTO_DESC_LISTS`, `add_attr` takes a 16-bit unsigned integer
`ATTR_ID_PROTOCOL_DESC_LIST` for the id of a protocol descriptor list and hangs the element after
it under it, so a value holding one does not read back.
-/

namespace BluetoothStack.Sdp

open Bytes

/-! ## What the discovery database says -/

/-- The bytes of a value the union holds as a number or an array. -/
def DiscVal.bytes : DiscVal → Option (List UInt8)
  | .u8 v => some [v]
  | .u16 v => some (beBytes 2 v)
  | .u32 v => some (beBytes 4 v)
  | .array bs => some bs
  | _ => none

mutual
/-- The data element an attribute of the discovery database stands for, read by the type in its
length and type field, with its UUIDs in 128 bits. -/
def DiscAttr.read : DiscAttr → Option DataElement
  | .mk _ lenType value =>
    match lenType >>> 12, value with
    | 1, v => v.bytes.map .uint
    | 2, v => v.bytes.map .int
    | 3, v => v.bytes.map fun bs => .uuid (expandUuid bs)
    | 4, v => v.bytes.map .text
    | 5, .u8 b => some (.bool b)
    | 6, .sub ds => (DiscAttr.readAll ds).map .seq
    | 7, .sub ds => (DiscAttr.readAll ds).map .alt
    | 8, v => v.bytes.map .url
    | _, _ => none

def DiscAttr.readAll : List DiscAttr → Option (List DataElement)
  | [] => some []
  | d :: ds =>
    match d.read, DiscAttr.readAll ds with
    | some e, some es => some (e :: es)
    | _, _ => none
end

/-! ## The memory a value takes -/

/-- The memory `add_attr` asks for before it stores a value of `len` bytes: a `tSDP_DISC_ATTR` with
room for the bytes past its union, rounded up to 4. -/
def discAttrLen (len : Nat) : Nat :=
  ((if len > 4 then len - 4 + sizeofDiscAttr else sizeofDiscAttr) + 3) / 4 * 4

mutual
/-- The memory the client takes for a value: a sequence takes a bare `tSDP_DISC_ATTR` and what
its elements take. -/
def DataElement.discCost : DataElement → Nat
  | .seq es | .alt es => sizeofDiscAttr + discCostAll es
  | e => discAttrLen e.content.length

def discCostAll : List DataElement → Nat
  | [] => 0
  | e :: es => e.discCost + discCostAll es
end

mutual
/-- The memory the client must have left to store a value: a sequence asks first for as much as
a value of its length would take, then its elements ask in turn. -/
def DataElement.discNeed : DataElement → Nat
  | .seq es | .alt es => max (discAttrLen (encodeAll es).length) (sizeofDiscAttr + discNeedAll es)
  | e => discAttrLen e.content.length

def discNeedAll : List DataElement → Nat
  | [] => 0
  | e :: es => max e.discNeed (e.discCost + discNeedAll es)
end

/-! ## Headers -/

theorem descByte_toNat {type size : Nat} (ht : type < 32) (hs : size < 8) :
    (descByte type size).toNat = type * 8 + size := by
  have hor : (type <<< 3) ||| size = type * 8 + size := by
    rw [Nat.shiftLeft_eq, Bits.or_eq_add (k := 3) (by omega) hs]
  rw [descByte, hor, UInt8.toNat_ofNat_of_lt' (by simp only [UInt8.size]; omega)]

theorem descByte_shiftRight {type size : Nat} (ht : type < 32) (hs : size < 8) :
    (descByte type size).toNat >>> 3 = type := by
  rw [descByte_toNat ht hs, Nat.shiftRight_eq_div_pow]
  omega

/-- Size codes 0 to 4 give lengths 1, 2, 4, 8 and 16, and read nothing. -/
theorem sdpuGetLenFromType_fixed {type size : Nat} (hs : size < 5) (p : List UInt8) :
    sdpuGetLenFromType p (type * 8 + size) = some (2 ^ size, p) := by
  have hm : (type * 8 + size) % 8 = size := by omega
  unfold sdpuGetLenFromType
  rw [hm]
  obtain rfl | rfl | rfl | rfl | rfl : size = 0 ∨ size = 1 ∨ size = 2 ∨ size = 3 ∨ size = 4 := by
    omega
  all_goals rfl

/-- A length field read from the front of the bytes reads the same with more bytes behind. -/
theorem sdpuGetLenFromType_append {p rest : List UInt8} {type len : Nat}
    (h : sdpuGetLenFromType p type = some (len, rest)) (q : List UInt8) :
    sdpuGetLenFromType (p ++ q) type = some (len, rest ++ q) := by
  unfold sdpuGetLenFromType at h ⊢
  split at h
  all_goals first
    | (simp only [Option.some.injEq, Prod.mk.injEq] at h
       obtain ⟨rfl, rfl⟩ := h
       rfl)
    | (split at h
       · exact absurd h (by simp)
       · simp only [Option.some.injEq, Prod.mk.injEq] at h
         obtain ⟨rfl, rfl⟩ := h
         rename_i hlen
         rw [if_neg (by simp only [List.length_append]; omega), List.take_append_of_le_length
           (by omega), List.drop_append_of_le_length (by omega)])

/-- The header of a value tells its type and length, whatever follows it. -/
theorem elementHeader_spec {type len : Nat} (ht : type < 32)
    (hfit : (isVariableLengthType type = true ∧ len < 65536) ∨ len ∈ [1, 2, 4, 8, 16]) :
    ∃ b hdr, elementHeader type len = b :: hdr ∧ b.toNat >>> 3 = type ∧
      ∀ rest, sdpuGetLenFromType (hdr ++ rest) b.toNat = some (len, rest) := by
  have hlen : len < 65536 := by
    rcases hfit with h | h
    · exact h.2
    · simp only [List.mem_cons, List.not_mem_nil, or_false] at h
      omega
  unfold elementHeader valueHeader
  dsimp only
  split
  · rename_i hvar
    split
    · -- a 16-bit length
      refine ⟨_, _, rfl, descByte_shiftRight ht (by decide), fun rest => ?_⟩
      have hm : (type * 8 + sizeInNextWord) % 8 = 6 := by
        unfold sizeInNextWord
        omega
      rw [descByte_toNat ht (by decide)]
      simp only [sdpuGetLenFromType, hm]
      rw [if_neg (by rw [List.length_append, length_beBytes]; omega),
        List.take_append_of_le_length (by simp), List.take_of_length_le (by simp),
        beValue_beBytes, Nat.mod_eq_of_lt (by omega), List.drop_append_of_le_length (by simp),
        List.drop_of_length_le (by simp), List.nil_append]
    · -- an 8-bit length
      rename_i hsmall
      refine ⟨_, _, rfl, descByte_shiftRight ht (by decide), fun rest => ?_⟩
      have hm : (type * 8 + sizeInNextByte) % 8 = 5 := by
        unfold sizeInNextByte
        omega
      have hbyte : beValue [UInt8.ofNat len] = len := by
        simp only [beValue, List.reverse_singleton, leValue,
          UInt8.toNat_ofNat_of_lt' (show len < UInt8.size by simp only [UInt8.size]; omega)]
        omega
      rw [descByte_toNat ht (by decide)]
      simp [sdpuGetLenFromType, hm, hbyte]
  · -- a fixed size code
    rename_i hvar
    have hset : len ∈ [1, 2, 4, 8, 16] := by
      rcases hfit with h | h
      · exact absurd h.1 hvar
      · exact h
    simp only [List.mem_cons, List.not_mem_nil, or_false] at hset
    rcases hset with rfl | rfl | rfl | rfl | rfl <;>
      exact ⟨_, _, rfl, descByte_shiftRight ht (by decide), fun rest => by
        rw [descByte_toNat ht (by decide), sdpuGetLenFromType_fixed (by decide)]
        rfl⟩

/-! ## The nest level byte and the length and type field -/

/-- The `nest_level` byte `add_attr` is called with: the level, and bit `SDP_ADDITIONAL_LIST_MASK`
for the elements of an additional protocol descriptor list. -/
def nestByte (n : Nat) (flag : Bool) : Nat :=
  if flag then n ||| sdpAdditionalListMask else n

theorem nestByte_of_lt {n : Nat} (flag : Bool) (hn : n < 128) :
    nestByte n flag = n + (if flag then 128 else 0) := by
  cases flag
  · rfl
  · rw [nestByte, if_pos rfl, Nat.lor_comm, Bits.or_eq_add (k := 7) (by decide) hn]
    simp only [sdpAdditionalListMask, if_true]
    omega

theorem nestByte_isAdditional {n : Nat} (flag : Bool) (hn : n < 128) :
    (nestByte n flag &&& sdpAdditionalListMask != 0) = flag := by
  have hmask : sdpAdditionalListMask = (2 ^ 1 - 1) <<< 7 := rfl
  rw [hmask, Bits.and_field, nestByte_of_lt flag hn]
  cases flag <;> simp <;> omega

theorem nestByte_level {n : Nat} (flag : Bool) (hn : n < 128) : nestByte n flag &&& 0x7F = n := by
  rw [show (0x7F : Nat) = 2 ^ 7 - 1 from rfl, Nat.and_two_pow_sub_one_eq_mod,
    nestByte_of_lt flag hn]
  cases flag <;> simp <;> omega

/-- The loop calls `add_attr` with `nest_level + 1`: the next level, the bit kept. -/
theorem nestByte_succ {n : Nat} (flag : Bool) (hn : n + 1 < 128) :
    nestByte n flag + 1 = nestByte (n + 1) flag := by
  rw [nestByte_of_lt flag (by omega), nestByte_of_lt flag hn]
  omega

theorem lenMask_of_lt {len : Nat} (h : len < 2 ^ 12) : len &&& sdpDiscAttrLenMask = len := by
  rw [show sdpDiscAttrLenMask = 2 ^ 12 - 1 from rfl, Nat.and_two_pow_sub_one_eq_mod,
    Nat.mod_eq_of_lt h]

/-- The type of a length and type field is its top four bits. -/
theorem lenType_shiftRight {len type : Nat} (h : len < 2 ^ 12) :
    (len ||| (type <<< 12)) >>> 12 = type := by
  rw [Nat.lor_comm, Nat.shiftLeft_eq, Bits.or_eq_add (k := 12) (by simp) h,
    Nat.shiftRight_eq_div_pow]
  omega

/-! ## Values that read back -/

/-- An integer of 1, 2, 4, 8 or 16 bytes, in whichever member of the union `add_attr` puts it,
gives its bytes back. -/
theorem intValue_bytes {bs : List UInt8} (h : bs.length ∈ [1, 2, 4, 8, 16]) (rest : List UInt8) :
    (intValue bs.length (bs ++ rest)).bytes = some bs := by
  simp only [List.mem_cons, List.not_mem_nil, or_false] at h
  rcases h with h | h | h | h | h
  · obtain ⟨x, rfl⟩ : ∃ x, bs = [x] := List.length_eq_one_iff.mp h
    rfl
  all_goals
    rw [h]
    simp only [intValue, DiscVal.bytes]
    rw [← h, List.take_left]
  · rw [beBytes_beValue]
  · rw [beBytes_beValue]

/-- A 32-bit UUID below `0x10000` is the 16-bit one in the base UUID. -/
theorem normalizeUuid_beBytes_two {bs : List UInt8} (h : bs.length = 4)
    (hv : beValue bs < 0x10000) :
    normalizeUuid (beBytes 2 (beValue bs)) = normalizeUuid bs := by
  match bs, h with
  | [a, b, c, d], _ =>
    have hv' : beValue [a, b, c, d] = beValue [c, d] + 65536 * (b.toNat + 256 * a.toNat) := by
      simp only [beValue, leValue, List.reverse_cons, List.reverse_nil, List.nil_append,
        List.cons_append]
      omega
    have hcd := leValue_lt [d, c]
    simp only [List.length_cons, List.length_nil] at hcd
    rw [hv'] at hv ⊢
    -- the two high bytes are zero
    have ha : a = 0 := UInt8.toNat_inj.mp (by simp only [UInt8.toNat_zero]; omega)
    have hb : b = 0 := UInt8.toNat_inj.mp (by simp only [UInt8.toNat_zero]; omega)
    subst ha hb
    have hcd' : beBytes 2 (beValue [c, d]) = [c, d] := beBytes_beValue [c, d]
    simp only [UInt8.toNat_zero, Nat.mul_zero, Nat.add_zero, hcd']
    rfl

/-- `sdpu_is_base_uuid` looks at the first sixteen bytes only. -/
theorem sdpuIsBaseUuid_append {bs : List UInt8} (h : bs.length = 16) (rest : List UInt8) :
    sdpuIsBaseUuid (bs ++ rest) = sdpuIsBaseUuid bs := by
  simp (disch := omega) only [sdpuIsBaseUuid, List.range', List.all_cons, List.all_nil,
    List.getElem?_append_left]

/-- A 128-bit UUID on the base UUID is its first four bytes in the base UUID. -/
theorem eq_of_sdpuIsBaseUuid {bs : List UInt8} (h : bs.length = 16)
    (hb : sdpuIsBaseUuid bs = true) : bs = bs.take 4 ++ sdpBaseUuid.drop 4 := by
  match bs, h with
  | [_, _, _, _, b4, b5, b6, b7, b8, b9, b10, b11, b12, b13, b14, b15], _ =>
    simp only [sdpuIsBaseUuid, sdpBaseUuid, List.range', List.all_cons, List.all_nil,
      List.getElem?_cons_succ, List.getElem?_cons_zero, beq_iff_eq, Option.some.injEq,
      Bool.and_eq_true, and_true] at hb
    obtain ⟨rfl, rfl, rfl, rfl, rfl, rfl, rfl, rfl, rfl, rfl, rfl, rfl⟩ := hb
    rfl

section BaseUuid

variable {bs : List UInt8} (h : bs.length = 16) (hb : sdpuIsBaseUuid bs = true)
include h hb

/-- `add_attr` keeps a 128-bit UUID on the base UUID in its first four bytes. -/
theorem normalizeUuid_take_four : normalizeUuid (bs.take 4) = bs := by
  have hlen : (bs.take 4).length = 4 := by simp [h]
  rw [normalizeUuid, if_pos hlen, store, hlen]
  conv_rhs => rw [eq_of_sdpuIsBaseUuid h hb]
  rw [List.take_of_length_le (l := bs.take 4) (by rw [hlen]; decide)]
  rfl

/-- ... or in bytes 2 and 3 when the first two are zero. -/
theorem normalizeUuid_drop_two (h0 : bs.take 2 = [0, 0]) :
    normalizeUuid ((bs.drop 2).take 2) = bs := by
  have hlen : ((bs.drop 2).take 2).length = 2 := by simp [h]
  have hfour : bs.take 4 = [0, 0] ++ (bs.drop 2).take 2 := by
    rw [show 4 = 2 + 2 from rfl, List.take_add, h0]
  rw [normalizeUuid, if_neg (by omega), if_pos hlen, store, hlen]
  conv_rhs => rw [eq_of_sdpuIsBaseUuid h hb, hfour]
  rw [List.take_of_length_le (l := (bs.drop 2).take 2) (by rw [hlen]; decide)]
  rfl

end BaseUuid

theorem read_uuid {attrId len : Nat} {v : DiscVal} (h : len < 2 ^ 12) :
    DiscAttr.read (.mk attrId (len ||| (uuidDescType <<< 12)) v) =
      v.bytes.map fun bs => .uuid (expandUuid bs) := by
  unfold DiscAttr.read
  rw [lenType_shiftRight h]
  rfl

/-- A UUID of 2, 4 or 16 bytes, in whichever width `add_attr` keeps it, reads back as itself in
128 bits. -/
theorem uuidValue_read {bs : List UInt8} (h : bs.length ∈ [2, 4, 16]) (attrId : Nat)
    (rest : List UInt8) :
    ∃ lenType value, uuidValue bs.length (bs.length ||| (uuidDescType <<< 12)) (bs ++ rest) =
      some (lenType, value) ∧ DiscAttr.read (.mk attrId lenType value) = some (.uuid (expandUuid bs)) := by
  simp only [List.mem_cons, List.not_mem_nil, or_false] at h
  rcases h with h | h | h
  · -- 16 bits, kept as they are
    refine ⟨_, _, by rw [h]; rfl, ?_⟩
    rw [read_uuid (by omega)]
    simp only [DiscVal.bytes, ← h, List.take_left, beBytes_beValue, Option.map_some]
  · -- 32 bits, kept in 16 below `0x10000`
    by_cases hv : beValue bs < 0x10000
    · refine ⟨2 ||| (uuidDescType <<< 12), .u16 (beValue bs), ?_, ?_⟩
      · rw [h]
        simp only [uuidValue, List.take_left' h, if_pos hv, Nat.mod_eq_of_lt hv]
      · rw [read_uuid (by decide)]
        simp only [DiscVal.bytes, Option.map_some, expandUuid, length_beBytes, h, true_or, or_true,
          if_true, normalizeUuid_beBytes_two h hv]
    · refine ⟨4 ||| (uuidDescType <<< 12), .u32 (beValue bs), ?_, ?_⟩
      · rw [h]
        simp only [uuidValue, List.take_left' h, if_neg hv]
      · rw [read_uuid (by decide)]
        simp only [DiscVal.bytes, ← h, beBytes_beValue, Option.map_some]
  · -- 128 bits, kept in 16 or 32 on the base UUID
    have hexp : expandUuid bs = bs := by simp [expandUuid, h]
    rw [hexp, h]
    simp only [uuidValue, sdpuIsBaseUuid_append h, List.take_append_of_le_length
      (show 2 ≤ bs.length by omega), List.take_append_of_le_length
      (show 4 ≤ bs.length by omega), List.take_left' h]
    by_cases hb : sdpuIsBaseUuid bs = true
    · by_cases h0 : bs.take 2 = [0, 0]
      · -- on the base UUID with a zero top: 16 bits
        have hx : ((bs.drop 2).take 2).length = 2 := by simp [h]
        have hbytes := beBytes_beValue ((bs.drop 2).take 2)
        rw [hx] at hbytes
        refine ⟨2 ||| (uuidDescType <<< 12), .u16 (beValue ((bs.drop 2).take 2)), ?_, ?_⟩
        · rw [if_pos hb, if_pos h0, List.drop_append_of_le_length (by omega),
            List.take_append_of_le_length (by simp [h])]
          rfl
        · rw [read_uuid (by decide)]
          simp only [DiscVal.bytes, hbytes, Option.map_some, expandUuid, hx, true_or, if_true,
            normalizeUuid_drop_two h hb h0]
      · -- on the base UUID: 32 bits
        have hx : (bs.take 4).length = 4 := by simp [h]
        have hbytes := beBytes_beValue (bs.take 4)
        rw [hx] at hbytes
        refine ⟨4 ||| (uuidDescType <<< 12), .u32 (beValue (bs.take 4)), ?_, ?_⟩
        · rw [if_pos hb, if_neg h0]
          rfl
        · rw [read_uuid (by decide)]
          simp only [DiscVal.bytes, hbytes, Option.map_some, expandUuid, hx, or_true, if_true,
            normalizeUuid_take_four h hb]
    · -- any other: the 16 bytes as they are
      refine ⟨16 ||| (uuidDescType <<< 12), .array bs, by rw [if_neg hb], ?_⟩
      rw [read_uuid (by decide)]
      simp only [DiscVal.bytes, Option.map_some, hexp]

/-! ## `add_attr` on each kind of value -/

section Leaf

variable {fuel mem attrId nest : Nat} {b : UInt8} {hdr c rest : List UInt8}
  (hget : ∀ X, sdpuGetLenFromType (hdr ++ X) b.toNat = some (c.length, X))
  (hL : c.length < 2 ^ 12) (hmem : discAttrLen c.length ≤ mem)
include hget hL hmem

-- every lemma below takes one step of `add_attr`: its equations are generated here, once
attribute [local simp] addAttr discAttrLen

theorem addAttr_array {type : Nat} (hb : b.toNat >>> 3 = type) (ht : type = 4 ∨ type = 8) :
    addAttr (fuel + 1) (b :: (hdr ++ (c ++ rest))) mem attrId nest =
      some (rest, mem - discAttrLen c.length,
        some (.mk attrId (c.length ||| (type <<< 12)) (.array c))) := by
  have hm : ¬ mem < discAttrLen c.length := Nat.not_lt.mpr hmem
  unfold discAttrLen at hm
  have htype : (b.toNat >>> 3) &&& 0x0f = type := by
    rw [hb]
    rcases ht with rfl | rfl <;> rfl
  rw [addAttr]
  simp only [hget, lenMask_of_lt hL, htype, List.length_append, hm, List.drop_left,
    List.take_left, Nat.not_lt.mpr (Nat.le_add_right _ _), if_false]
  rcases ht with rfl | rfl <;> rfl

/-- A two's complement integer. -/
theorem addAttr_int (hb : b.toNat >>> 3 = twoCompIntDescType) :
    addAttr (fuel + 1) (b :: (hdr ++ (c ++ rest))) mem attrId nest =
      some (rest, mem - discAttrLen c.length,
        some (.mk attrId (c.length ||| (twoCompIntDescType <<< 12)) (intValue c.length (c ++ rest)))) := by
  have hm : ¬ mem < discAttrLen c.length := Nat.not_lt.mpr hmem
  unfold discAttrLen at hm
  have htype : (b.toNat >>> 3) &&& 0x0f = 2 := by rw [hb]; rfl
  rw [addAttr]
  simp only [hget, lenMask_of_lt hL, htype, List.length_append, hm, List.drop_left,
    Nat.not_lt.mpr (Nat.le_add_right _ _), if_false]
  rfl

/-- An unsigned integer that is not the protocol descriptor list id of an additional list. -/
theorem addAttr_uint (hb : b.toNat >>> 3 = uintDescType)
    (hns : (nest &&& sdpAdditionalListMask != 0 && c.length == 2 &&
      beValue c == attrIdProtocolDescList) = false) :
    addAttr (fuel + 1) (b :: (hdr ++ (c ++ rest))) mem attrId nest =
      some (rest, mem - discAttrLen c.length,
        some (.mk attrId (c.length ||| (uintDescType <<< 12)) (intValue c.length (c ++ rest)))) := by
  have hm : ¬ mem < discAttrLen c.length := Nat.not_lt.mpr hmem
  unfold discAttrLen at hm
  have htype : (b.toNat >>> 3) &&& 0x0f = 1 := by rw [hb]; rfl
  -- the id is read from the first two bytes only when the value has two
  have hns' : (nest &&& sdpAdditionalListMask != 0 && c.length == 2 &&
      beValue ((c ++ rest).take 2) == attrIdProtocolDescList) = false := by
    by_cases h2 : c.length = 2
    · rw [List.take_left' h2]
      exact hns
    · simp [h2]
  rw [addAttr]
  simp only [hget, lenMask_of_lt hL, htype, List.length_append, hm, List.drop_left, hns',
    Nat.not_lt.mpr (Nat.le_add_right _ _), Bool.false_eq_true, if_false]
  rfl

/-- A UUID, in the width `uuidValue` chooses. -/
theorem addAttr_uuid {lenType : Nat} {value : DiscVal} (hb : b.toNat >>> 3 = uuidDescType)
    (hv : uuidValue c.length (c.length ||| (uuidDescType <<< 12)) (c ++ rest) = some (lenType, value)) :
    addAttr (fuel + 1) (b :: (hdr ++ (c ++ rest))) mem attrId nest =
      some (rest, mem - discAttrLen c.length, some (.mk attrId lenType value)) := by
  have hm : ¬ mem < discAttrLen c.length := Nat.not_lt.mpr hmem
  unfold discAttrLen at hm
  have htype : (b.toNat >>> 3) &&& 0x0f = 3 := by rw [hb]; rfl
  rw [addAttr]
  simp only [hget, lenMask_of_lt hL, htype, List.length_append, hm, List.drop_left,
    Nat.not_lt.mpr (Nat.le_add_right _ _), if_false]
  rw [show c.length ||| 3 <<< 12 = c.length ||| uuidDescType <<< 12 from rfl, hv]
  rfl

/-- A sequence or an alternative at a level below `MAX_NEST_LEVELS`: a bare attribute, then the loop
over its elements at the next level, flagged as an additional list inside one or inside attribute
`ATTR_ID_ADDITION_PROTO_DESC_LISTS`. -/
theorem addAttr_seq {type n : Nat} {flag : Bool} (hb : b.toNat >>> 3 = type)
    (ht : type = dataEleSeqDescType ∨ type = dataEleAltDescType) (hn : n < maxNestLevels) :
    addAttr (fuel + 1) (b :: (hdr ++ (c ++ rest))) mem attrId (nestByte n flag) =
      (addAttrLoop fuel (c ++ rest) rest.length (mem - sizeofDiscAttr)
          (nestByte n (flag || attrId == attrIdAdditionProtoDescLists)) []).map
        fun r => (r.1, r.2.1, some (.mk attrId (c.length ||| (type <<< 12)) (.sub r.2.2))) := by
  have hm : ¬ mem < discAttrLen c.length := Nat.not_lt.mpr hmem
  unfold discAttrLen at hm
  have hn' : n < 128 := by unfold maxNestLevels at hn; omega
  have hlevel : ¬ n ≥ maxNestLevels := Nat.not_le.mpr hn
  have htype : (b.toNat >>> 3) &&& 0x0f = type := by
    rw [hb]
    rcases ht with rfl | rfl <;> rfl
  rw [addAttr]
  simp only [hget, lenMask_of_lt hL, htype, List.length_append, hm, List.drop_left, hlevel,
    nestByte_isAdditional flag hn', nestByte_level flag hn',
    Nat.not_lt.mpr (Nat.le_add_right _ _), if_false]
  -- the level byte the loop is given is the next flag's
  rw [show (if (flag || attrId == attrIdAdditionProtoDescLists) = true then
      n ||| sdpAdditionalListMask else n) =
      nestByte n (flag || attrId == attrIdAdditionProtoDescLists) from rfl]
  rcases ht with rfl | rfl <;>
  · simp only [dataEleSeqDescType, dataEleAltDescType]
    cases addAttrLoop fuel (c ++ rest) rest.length (mem - sizeofDiscAttr)
      (nestByte n (flag || attrId == attrIdAdditionProtoDescLists)) [] <;> rfl

end Leaf

/-- A boolean. -/
theorem addAttr_bool {fuel mem attrId nest : Nat} {b x : UInt8} {hdr rest : List UInt8}
    (hget : ∀ X, sdpuGetLenFromType (hdr ++ X) b.toNat = some (1, X))
    (hmem : discAttrLen 1 ≤ mem) (hb : b.toNat >>> 3 = booleanDescType) :
    addAttr (fuel + 1) (b :: (hdr ++ (x :: rest))) mem attrId nest =
      some (rest, mem - discAttrLen 1, some (.mk attrId (1 ||| (booleanDescType <<< 12)) (.u8 x))) := by
  have hm : ¬ mem < (sizeofDiscAttr + 3) / 4 * 4 := Nat.not_lt.mpr hmem
  have htype : (b.toNat >>> 3) &&& 0x0f = 5 := by rw [hb]; rfl
  have hget' := hget (x :: rest)
  rw [addAttr]
  simp only [hget', htype, List.length_cons, hm, Nat.not_lt.mpr (Nat.le_add_left 1 _), if_false,
    lenMask_of_lt (show 1 < 2 ^ 12 by decide), if_true]
  rfl


/-! ## `add_attr` decodes what the server encoded -/

section Header

-- the lemmas of this part unfold the encoder: its equations are generated here, once
attribute [local simp] elementHeader valueHeader isVariableLengthType DataElement.type
  DataElement.content DataElement.wellFormed

theorem two_le_length_elementHeader {type : Nat} (len : Nat) (h : isVariableLengthType type = true) :
    2 ≤ (elementHeader type len).length := by
  unfold elementHeader valueHeader
  simp only [h, if_true]
  split <;> simp

namespace DataElement

theorem type_lt {e : DataElement} : e.type < 32 := by
  cases e <;> simp only [type] <;> decide

theorem content_length_lt {e : DataElement} (h : e.wellFormed = true) :
    e.content.length < 2 ^ 12 := by
  cases e <;> simp_all [wellFormed, content] <;> omega

/-- The header of a well-formed value is a type byte and the length field `sdpu_get_len_from_type`
reads back. -/
theorem encode_header {e : DataElement} (h : e.wellFormed = true) :
    ∃ b hdr, e.encode = b :: (hdr ++ e.content) ∧ b.toNat >>> 3 = e.type ∧
      ∀ X, sdpuGetLenFromType (hdr ++ X) b.toNat = some (e.content.length, X) := by
  have hfit : (isVariableLengthType e.type = true ∧ e.content.length < 65536) ∨
      e.content.length ∈ [1, 2, 4, 8, 16] := by
    have hL := content_length_lt h
    cases e <;> simp_all [wellFormed, content, type, isVariableLengthType] <;> omega
  obtain ⟨b, hdr, hhdr, hb, hget⟩ := elementHeader_spec type_lt hfit
  exact ⟨b, hdr, by rw [encode_eq, hhdr, List.cons_append], hb, hget⟩

end DataElement

end Header

/-- What `add_attr` needs of a value to store it so that it reads back, at level `n`, as
attribute `attrId`, flagged or not as an element of an additional protocol descriptor list. -/
structure Storable (n : Nat) (flag : Bool) (attrId : Nat) (e : DataElement) : Prop where
  wellFormed : e.wellFormed = true
  depth : n + e.seqDepth ≤ maxNestLevels
  noProtoId : flag = true → e.holdsUint16 attrIdProtocolDescList = false
  noProtoIdElems : attrId = attrIdAdditionProtoDescLists →
    holdsUint16All attrIdProtocolDescList e.elems = false


/-- `add_attr` with `fuel` steps stores every storable value it is given the encoding of, as one
attribute with its id that reads back as the value, and takes the memory the value costs. -/
def AddAttrDecodes (fuel : Nat) : Prop :=
  ∀ (e : DataElement) (rest : List UInt8) (mem attrId n : Nat) (flag : Bool),
    Storable n flag attrId e → e.discNeed ≤ mem → e.encode.length < fuel →
    ∃ d, addAttr fuel (e.encode ++ rest) mem attrId (nestByte n flag) =
      some (rest, mem - e.discCost, some d) ∧ d.attrId = attrId ∧ d.read = some e.expandUuids

/-- The loop of `add_attr` with `fuel` steps stores the elements of a sequence it is given the
encodings of, one attribute each, in order. -/
def AddAttrLoopDecodes (fuel : Nat) : Prop :=
  ∀ (es : List DataElement) (rest : List UInt8) (mem n : Nat) (flag : Bool) (subs : List DiscAttr),
    wellFormedAll es = true → n + 1 + seqDepthAll es ≤ maxNestLevels →
    (flag = true → holdsUint16All attrIdProtocolDescList es = false) →
    discNeedAll es ≤ mem → (encodeAll es).length + 1 < fuel →
    ∃ ds, addAttrLoop fuel (encodeAll es ++ rest) rest.length mem (nestByte n flag) subs =
      some (rest, mem - discCostAll es, subs ++ ds) ∧ DiscAttr.readAll ds = some (expandUuidsAll es)

theorem addAttrDecodes_succ {fuel : Nat} (hloop : AddAttrLoopDecodes fuel) :
    AddAttrDecodes (fuel + 1) := by
  intro e rest mem attrId n flag hs hmem hfuel
  obtain ⟨b, hdr, henc, hb, hget⟩ := e.encode_header hs.wellFormed
  have hL := e.content_length_lt hs.wellFormed
  have hn : n < 128 := by
    have := hs.depth
    unfold maxNestLevels at this
    omega
  -- a sequence's header has its length field: at least two bytes
  have hroom : isVariableLengthType e.type = true → e.content.length + 1 < fuel := by
    intro hv
    have := two_le_length_elementHeader e.content.length hv
    rw [DataElement.encode_eq, List.length_append] at hfuel
    omega
  rw [henc, List.cons_append, List.append_assoc]
  cases e
  all_goals dsimp only [DataElement.content, DataElement.type, DataElement.expandUuids]
    at hget hL hb hroom ⊢
  case uint bs =>
    have hns : (nestByte n flag &&& sdpAdditionalListMask != 0 && bs.length == 2 &&
        beValue bs == attrIdProtocolDescList) = false := by
      rw [nestByte_isAdditional flag hn]
      cases flag
      · rfl
      · exact hs.noProtoId rfl
    refine ⟨_, addAttr_uint hget hL hmem hb hns, rfl, ?_⟩
    have hw : bs.length ∈ [1, 2, 4, 8, 16] := by simpa [DataElement.wellFormed] using hs.wellFormed
    unfold DiscAttr.read
    rw [lenType_shiftRight hL]
    simp only [uintDescType, intValue_bytes hw, Option.map_some]
  case int bs =>
    refine ⟨_, addAttr_int hget hL hmem hb, rfl, ?_⟩
    have hw : bs.length ∈ [1, 2, 4, 8, 16] := by simpa [DataElement.wellFormed] using hs.wellFormed
    unfold DiscAttr.read
    rw [lenType_shiftRight hL]
    simp only [twoCompIntDescType, intValue_bytes hw, Option.map_some]
  case uuid bs =>
    have hw : bs.length ∈ [2, 4, 16] := by simpa [DataElement.wellFormed] using hs.wellFormed
    obtain ⟨lenType, value, hv, hread⟩ := uuidValue_read hw attrId rest
    exact ⟨_, addAttr_uuid hget hL hmem hb hv, rfl, hread⟩
  case bool x =>
    refine ⟨_, addAttr_bool hget hmem hb, rfl, ?_⟩
    unfold DiscAttr.read
    rw [lenType_shiftRight (by decide)]
    rfl
  case text bs =>
    refine ⟨_, addAttr_array hget hL hmem hb (Or.inl rfl), rfl, ?_⟩
    unfold DiscAttr.read
    rw [lenType_shiftRight hL]
    rfl
  case url bs =>
    refine ⟨_, addAttr_array hget hL hmem hb (Or.inr rfl), rfl, ?_⟩
    unfold DiscAttr.read
    rw [lenType_shiftRight hL]
    rfl
  -- a sequence or an alternative: its elements go through the loop at the next level
  all_goals
    rename_i es
    have hwf : wellFormedAll es = true := by
      have := hs.wellFormed
      simp only [DataElement.wellFormed, Bool.and_eq_true] at this
      exact this.2
    have hdepth : n + 1 + seqDepthAll es ≤ maxNestLevels := by
      have := hs.depth
      simp only [DataElement.seqDepth] at this
      omega
    have hflag : (flag || attrId == attrIdAdditionProtoDescLists) = true →
        holdsUint16All attrIdProtocolDescList es = false := by
      intro h
      rcases Bool.or_eq_true_iff.mp h with hf | hid
      · exact hs.noProtoId hf
      · exact hs.noProtoIdElems (beq_iff_eq.mp hid)
    have hneed : discAttrLen (encodeAll es).length ≤ mem ∧
        discNeedAll es ≤ mem - sizeofDiscAttr := by
      have := hmem
      simp only [DataElement.discNeed, Nat.max_le] at this
      omega
    have hlen : (encodeAll es).length + 1 < fuel := hroom rfl
    rw [addAttr_seq hget hL hneed.1 hb (by first | exact Or.inl rfl | exact Or.inr rfl)
      (by unfold maxNestLevels at hdepth ⊢; omega)]
    obtain ⟨ds, hds, hread⟩ := hloop es rest (mem - sizeofDiscAttr) n _ [] hwf hdepth hflag
      hneed.2 hlen
    rw [hds]
    simp only [Option.map_some, List.nil_append, DataElement.discCost, Nat.sub_sub,
      Option.some.injEq, Prod.mk.injEq, true_and, exists_eq_left']
    refine ⟨rfl, ?_⟩
    unfold DiscAttr.read
    rw [lenType_shiftRight hL]
    simp only [dataEleSeqDescType, dataEleAltDescType, hread, Option.map_some]


theorem addAttrLoopDecodes_succ {fuel : Nat} (hattr : AddAttrDecodes fuel)
    (hloop : AddAttrLoopDecodes fuel) : AddAttrLoopDecodes (fuel + 1) := by
  intro es rest mem n flag subs hwf hdepth hflag hmem hfuel
  cases es with
  | nil =>
    -- at the end of the sequence the loop stops
    refine ⟨[], ?_, rfl⟩
    rw [DataElement.encodeAll_nil, List.nil_append, addAttrLoop, if_neg (Nat.lt_irrefl _)]
    simp [discCostAll]
  | cons e es =>
    simp only [wellFormedAll, Bool.and_eq_true, seqDepthAll, holdsUint16All, Bool.or_eq_false_iff,
      discNeedAll, Nat.max_le, DataElement.encodeAll_cons, List.length_append] at hwf hdepth hflag hmem hfuel
    have hs : Storable (n + 1) flag 0 e :=
      ⟨hwf.1, by omega, fun h => (hflag h).1, fun h => absurd h (by decide)⟩
    have hpos : 0 < e.encode.length := by
      obtain ⟨b, hdr, h, -⟩ := e.encode_header hwf.1
      simp [h]
    -- the element, at the next level, then the rest of the loop
    obtain ⟨d, hd, -, hread⟩ := hattr e (encodeAll es ++ rest) mem 0 (n + 1) flag hs hmem.1
      (by omega)
    obtain ⟨ds, hds, hreads⟩ := hloop es rest (mem - e.discCost) n flag (subs ++ [d]) hwf.2
      (by omega) (fun h => (hflag h).2) (by omega) (by omega)
    refine ⟨d :: ds, ?_, ?_⟩
    · rw [addAttrLoop,
        if_pos (by simp only [DataElement.encodeAll_cons, List.length_append]; omega),
        nestByte_succ flag (by unfold maxNestLevels at hdepth; omega), DataElement.encodeAll_cons,
        List.append_assoc, hd]
      simp only [Option.toList_some]
      rw [hds]
      simp [discCostAll, Nat.sub_sub]
    · simp [DiscAttr.readAll, hread, hreads, expandUuidsAll]

/-- Both, for every amount of fuel, by induction on it. -/
theorem addAttrDecodes_and_loop (fuel : Nat) : AddAttrDecodes fuel ∧ AddAttrLoopDecodes fuel := by
  induction fuel with
  | zero =>
    -- no value has an encoding shorter than nothing
    exact ⟨fun _ _ _ _ _ _ _ _ h => absurd h (Nat.not_lt_zero _),
      fun _ _ _ _ _ _ _ _ _ _ h => absurd h (Nat.not_lt_zero _)⟩
  | succ fuel ih => exact ⟨addAttrDecodes_succ ih.2, addAttrLoopDecodes_succ ih.1 ih.2⟩

/-! ## The memory a value takes bounds what it asks for -/

theorem length_elementHeader_le (type len : Nat) : (elementHeader type len).length ≤ 3 := by
  unfold elementHeader valueHeader
  split
  · split <;> simp
  · split <;> simp

theorem add_three_le_discAttrLen (len : Nat) : len + 3 ≤ discAttrLen len := by
  unfold discAttrLen sizeofDiscAttr
  split <;> omega

theorem discAttrLen_le (len : Nat) : discAttrLen len ≤ len + 24 := by
  unfold discAttrLen sizeofDiscAttr
  split <;> omega

theorem length_encode_le_discAttrLen (e : DataElement) :
    e.encode.length ≤ discAttrLen e.content.length := by
  have := length_elementHeader_le e.type e.content.length
  have := add_three_le_discAttrLen e.content.length
  rw [DataElement.encode_eq, List.length_append]
  omega

mutual
/-- A value takes at least as much memory in the client as its encoding has bytes. -/
theorem length_encode_le_discCost : ∀ e : DataElement, e.encode.length ≤ e.discCost
  | .uint bs => length_encode_le_discAttrLen (.uint bs)
  | .int bs => length_encode_le_discAttrLen (.int bs)
  | .uuid bs => length_encode_le_discAttrLen (.uuid bs)
  | .bool b => length_encode_le_discAttrLen (.bool b)
  | .text bs => length_encode_le_discAttrLen (.text bs)
  | .url bs => length_encode_le_discAttrLen (.url bs)
  | .seq es => by
    have := length_elementHeader_le dataEleSeqDescType (encodeAll es).length
    have := length_encodeAll_le_discCostAll es
    simp only [DataElement.encode, DataElement.discCost, List.length_append, sizeofDiscAttr]
    omega
  | .alt es => by
    have := length_elementHeader_le dataEleAltDescType (encodeAll es).length
    have := length_encodeAll_le_discCostAll es
    simp only [DataElement.encode, DataElement.discCost, List.length_append, sizeofDiscAttr]
    omega

theorem length_encodeAll_le_discCostAll :
    ∀ es : List DataElement, (encodeAll es).length ≤ discCostAll es
  | [] => Nat.zero_le _
  | e :: es => by
    have := length_encode_le_discCost e
    have := length_encodeAll_le_discCostAll es
    simp only [DataElement.encodeAll_cons, List.length_append, discCostAll]
    omega
end

mutual
/-- What a value asks for is no more than what it takes: a sequence's first request, for a value as
long as its elements' encodings, is covered by what they take. -/
theorem discNeed_le_discCost : ∀ e : DataElement, e.discNeed ≤ e.discCost
  | .uint _ | .int _ | .uuid _ | .bool _ | .text _ | .url _ => Nat.le_refl _
  | .seq es => by
    have := discAttrLen_le (encodeAll es).length
    have := length_encodeAll_le_discCostAll es
    have := discNeedAll_le_discCostAll es
    simp only [DataElement.discNeed, DataElement.discCost, Nat.max_le, sizeofDiscAttr]
    omega
  | .alt es => by
    have := discAttrLen_le (encodeAll es).length
    have := length_encodeAll_le_discCostAll es
    have := discNeedAll_le_discCostAll es
    simp only [DataElement.discNeed, DataElement.discCost, Nat.max_le, sizeofDiscAttr]
    omega

theorem discNeedAll_le_discCostAll : ∀ es : List DataElement, discNeedAll es ≤ discCostAll es
  | [] => Nat.le_refl _
  | e :: es => by
    have := discNeed_le_discCost e
    have := discNeedAll_le_discCostAll es
    simp only [discNeedAll, discCostAll, Nat.max_le]
    omega
end


/-! ## `save_attr_seq` decodes a record's attribute list -/

/-- Attribute `a` of record `r` holds the data element `e`: its type and its value bytes are
those of `e`. -/
structure AttrHolds (r : SdpRecord) (a : SdpAttribute) (e : DataElement) : Prop where
  type : a.type = e.type
  len : a.len = e.content.length
  value : r.value a = e.content

/-- An attribute the client reads back: it holds a value `add_attr` can store at the top level,
and its id is a 16-bit one, as the id of a `tSDP_ATTRIBUTE` is. -/
structure AttrStorable (r : SdpRecord) (a : SdpAttribute) (e : DataElement) : Prop where
  holds : AttrHolds r a e
  storable : Storable 0 false a.id e
  id_lt : a.id < 65536

/-- The entry of an attribute holding `e`: its id as a 16-bit unsigned integer element, then `e`. -/
theorem sdpuBuildAttribEntry_of_holds {r : SdpRecord} {a : SdpAttribute} {e : DataElement}
    (h : AttrHolds r a e) :
    sdpuBuildAttribEntry r a = descByte uintDescType sizeTwoBytes :: (beBytes 2 a.id ++ e.encode) := by
  rw [sdpuBuildAttribEntry, valueHeader_eq_elementHeader, h.type, h.len, h.value,
    DataElement.encode_eq]
  simp only [List.cons_append, List.append_assoc]

/-- The id element in front of each entry: a 16-bit unsigned integer, read as itself. -/
theorem sdpuGetLenFromType_attrId (p : List UInt8) :
    sdpuGetLenFromType p (descByte uintDescType sizeTwoBytes).toNat = some (2, p) := by
  rw [descByte_toNat (by decide) (by decide)]
  exact sdpuGetLenFromType_fixed (by decide) p

section Record

variable {r : SdpRecord} {val : SdpAttribute → DataElement}

/-- The attribute loop of `save_attr_seq` over the entries of attributes it reads back: one
attribute each, with its id, reading back as its value, and the memory they cost taken. -/
theorem saveAttrLoop_entries (rest : List UInt8) :
    ∀ (as : List SdpAttribute) (mem fuel : Nat) (attrs : List DiscAttr),
      (∀ a ∈ as, AttrStorable r a (val a)) → discCostAll (as.map val) ≤ mem →
      (entries r as).length < fuel →
      ∃ ds, saveAttrLoop fuel (entries r as ++ rest) rest.length mem attrs =
          some (rest, mem - discCostAll (as.map val), attrs ++ ds) ∧
        ds.map DiscAttr.attrId = as.map SdpAttribute.id ∧
        ds.map DiscAttr.read = as.map fun a => some (val a).expandUuids
  | [], mem, fuel, attrs, _, _, hfuel => by
    obtain ⟨fuel, rfl⟩ : ∃ f, fuel = f + 1 := ⟨fuel - 1, by simp at hfuel; omega⟩
    refine ⟨[], ?_, rfl, rfl⟩
    rw [entries_nil, List.nil_append]
    simp [saveAttrLoop, discCostAll]
  | a :: as, mem, fuel, attrs, hs, hmem, hfuel => by
    have ha := hs a (List.mem_cons_self ..)
    obtain ⟨fuel, rfl⟩ : ∃ f, fuel = f + 1 := ⟨fuel - 1, by omega⟩
    have hlen : (val a).encode.length + (entries r as).length + 2 < fuel := by
      simp only [entries_cons, sdpuBuildAttribEntry_of_holds ha.holds, List.length_append,
        List.length_cons, length_beBytes] at hfuel
      omega
    simp only [List.map_cons, discCostAll] at hmem
    have hneed := discNeed_le_discCost (val a)
    -- the value, through `add_attr` on the bytes before the end of the sequence
    obtain ⟨d, hd, hid, hread⟩ := (addAttrDecodes_and_loop fuel).1 (val a)
      (entries r as) mem a.id 0 false ha.storable (by omega) (by omega)
    obtain ⟨ds, hds, hids, hreads⟩ := saveAttrLoop_entries rest as (mem - (val a).discCost) fuel
      (attrs ++ [d]) (fun b hb => hs b (List.mem_cons_of_mem a hb)) (by omega) (by omega)
    refine ⟨d :: ds, ?_, by simp [hid, hids], by simp [hread, hreads]⟩
    have hd' : addAttr fuel ((val a).encode ++ entries r as) mem a.id 0 =
        some (entries r as, mem - (val a).discCost, some d) := hd
    rw [entries_cons, sdpuBuildAttribEntry_of_holds ha.holds]
    simp only [List.cons_append, List.append_assoc, saveAttrLoop]
    -- the value and the entries after it end where the sequence does
    have hX : ((val a).encode ++ (entries r as ++ rest)).length - rest.length =
        ((val a).encode ++ entries r as).length := by
      simp only [List.length_append]
      omega
    have htake : ((val a).encode ++ (entries r as ++ rest)).take
        (((val a).encode ++ (entries r as ++ rest)).length - rest.length) =
        (val a).encode ++ entries r as := by
      rw [hX, ← List.append_assoc, List.take_left]
    have hdrop : ((val a).encode ++ (entries r as ++ rest)).drop
        (((val a).encode ++ (entries r as ++ rest)).length - rest.length) = rest := by
      rw [hX, ← List.append_assoc, List.drop_left]
    have hshift : (descByte uintDescType sizeTwoBytes).toNat >>> 3 = uintDescType :=
      descByte_shiftRight (by decide) (by decide)
    rw [if_pos (by simp only [List.length_cons, List.length_append]; omega),
      sdpuGetLenFromType_attrId]
    simp only [List.drop_left' (length_beBytes 2 a.id), List.take_left' (length_beBytes 2 a.id),
      beValue_beBytes, Nat.mod_eq_of_lt (show a.id < 256 ^ 2 from ha.id_lt), hshift, htake, hdrop,
      hd', ne_eq, not_true_eq_false, or_false, if_false, Option.toList_some]
    rw [if_neg (by simp only [List.length_append, length_beBytes]; omega), hds]
    simp only [List.map_cons, discCostAll, Nat.sub_sub, List.append_assoc, List.singleton_append]

end Record

/-- A 16-bit length field is read as the length. -/
theorem sdpuGetLenFromType_word {type n : Nat} (ht : type < 32) (hn : n < 65536) (X : List UInt8) :
    sdpuGetLenFromType (beBytes 2 n ++ X) (descByte type sizeInNextWord).toNat = some (n, X) := by
  have hm : (type * 8 + sizeInNextWord) % 8 = 6 := by
    unfold sizeInNextWord
    omega
  rw [descByte_toNat ht (by decide)]
  simp only [sdpuGetLenFromType, hm]
  rw [if_neg (by rw [List.length_append, length_beBytes]; omega),
    List.take_left' (length_beBytes 2 n), beValue_beBytes,
    Nat.mod_eq_of_lt (by omega), List.drop_left' (length_beBytes 2 n)]

/-- The client's record for a record the server sent: its attributes are those asked for, in the
server's order, each with its id, reading back as the value the server's record holds. -/
def RecordReadsBack (attrSeq : List AttrRange) (val : SdpRecord → SdpAttribute → DataElement)
    (r : SdpRecord) (d : DiscRec) : Prop :=
  d.attrs.map DiscAttr.attrId = (requested r attrSeq).map SdpAttribute.id ∧
    d.attrs.map DiscAttr.read = (requested r attrSeq).map fun a => some (val r a).expandUuids

/-- The memory the client takes for a record: a `tSDP_DISC_REC` and the attributes asked for. -/
def recordCost (attrSeq : List AttrRange) (val : SdpRecord → SdpAttribute → DataElement)
    (r : SdpRecord) : Nat :=
  sizeofDiscRec + discCostAll ((requested r attrSeq).map (val r))

/-- `save_attr_seq` on the attribute sequence of a record: a new record at the end of the chain,
reading back as the server's. -/
theorem saveAttrSeq_recordList {r : SdpRecord} {attrSeq : List AttrRange}
    {val : SdpRecord → SdpAttribute → DataElement} {fuel : Nat} (ddb : DiscDb)
    (hne : requested r attrSeq ≠ []) (hs : ∀ a ∈ requested r attrSeq, AttrStorable r a (val r a))
    (hmem : recordCost attrSeq val r ≤ ddb.memFree)
    (hlen : (entries r (requested r attrSeq)).length < 65536)
    (hfuel : (entries r (requested r attrSeq)).length < fuel) (rest : List UInt8) :
    ∃ d, saveAttrSeq fuel (recordList r attrSeq ++ rest) ddb =
        some (rest, ⟨ddb.memFree - recordCost attrSeq val r, ddb.records ++ [d]⟩) ∧
      RecordReadsBack attrSeq val r d := by
  unfold recordCost at hmem ⊢
  obtain ⟨ds, hds, hids, hreads⟩ := saveAttrLoop_entries rest
    (requested r attrSeq) (ddb.memFree - sizeofDiscRec) fuel [] hs (by omega) hfuel
  refine ⟨⟨ds⟩, ?_, hids, hreads⟩
  have hshift : (descByte dataEleSeqDescType sizeInNextWord).toNat >>> 3 = dataEleSeqDescType :=
    descByte_shiftRight (by decide) (by decide)
  have hend : (entries r (requested r attrSeq) ++ rest).length -
      (entries r (requested r attrSeq)).length = rest.length := by
    simp
  rw [recordList, if_neg hne]
  simp only [List.cons_append, List.append_assoc, saveAttrSeq, hshift, ne_eq, not_true_eq_false, if_false,
    sdpuGetLenFromType_word (by decide : dataEleSeqDescType < 32) hlen]
  rw [if_neg (by simp), if_neg (by unfold sizeofDiscRec at hmem ⊢; omega), hend, hds]
  simp [Nat.sub_sub]

/-- The records of a list the server sends one attribute sequence for: those with at least one of
the attributes asked for. -/
def sentFrom (attrSeq : List AttrRange) (rs : List SdpRecord) : List SdpRecord :=
  rs.filter fun r => !(requested r attrSeq).isEmpty

/-- The record loop of `process_service_search_attr_rsp` over the attribute sequences of a list of
records: one new record for each record sent, in order, each reading back as the server's. -/
theorem saveAttrSeqs_recordLists {attrSeq : List AttrRange}
    {val : SdpRecord → SdpAttribute → DataElement} :
    ∀ (rs : List SdpRecord) (ddb : DiscDb) (fuel : Nat),
      (∀ r ∈ rs, ∀ a ∈ requested r attrSeq, AttrStorable r a (val r a)) →
      (rs.flatMap (recordList · attrSeq)).length < 65536 →
      ((sentFrom attrSeq rs).map (recordCost attrSeq val)).sum ≤ ddb.memFree →
      (rs.flatMap (recordList · attrSeq)).length < fuel →
      ∃ recs, saveAttrSeqs fuel (rs.flatMap (recordList · attrSeq)) ddb =
          some ⟨ddb.memFree - ((sentFrom attrSeq rs).map (recordCost attrSeq val)).sum,
            ddb.records ++ recs⟩ ∧
        List.Forall₂ (RecordReadsBack attrSeq val) (sentFrom attrSeq rs) recs
  | [], ddb, fuel, _, _, _, hfuel => by
    obtain ⟨fuel, rfl⟩ : ∃ f, fuel = f + 1 := ⟨fuel - 1, by simp at hfuel; omega⟩
    refine ⟨[], ?_, List.Forall₂.nil⟩
    simp [saveAttrSeqs, sentFrom]
  | r :: rs, ddb, fuel, hs, hlen, hmem, hfuel => by
    have hs' : ∀ r ∈ rs, ∀ a ∈ requested r attrSeq, AttrStorable r a (val r a) :=
      fun r' hr' => hs r' (List.mem_cons_of_mem r hr')
    by_cases hne : requested r attrSeq = []
    · -- a record with none of the attributes: nothing is sent for it
      have hnil : recordList r attrSeq = [] := by rw [recordList, if_pos hne]
      have hskip : sentFrom attrSeq (r :: rs) = sentFrom attrSeq rs := by
        simp [sentFrom, hne]
      simp only [List.flatMap_cons, hnil, List.nil_append, hskip] at hlen hfuel ⊢
      rw [hskip] at hmem
      exact saveAttrSeqs_recordLists rs ddb fuel hs' hlen hmem hfuel
    · have hsent : sentFrom attrSeq (r :: rs) = r :: sentFrom attrSeq rs := by
        simp [sentFrom, hne]
      have hrec := @length_recordList r attrSeq
      rw [if_neg hne] at hrec
      simp only [List.flatMap_cons, List.length_append, hrec] at hlen hfuel
      rw [hsent, List.map_cons, List.sum_cons] at hmem ⊢
      obtain ⟨fuel, rfl⟩ : ∃ f, fuel = f + 1 := ⟨fuel - 1, by omega⟩
      -- the record's sequence, then the others
      obtain ⟨d, hd, hread⟩ := saveAttrSeq_recordList ddb hne (hs r (List.mem_cons_self ..))
        (by omega) (by omega) (show (entries r (requested r attrSeq)).length < fuel by omega)
        (rs.flatMap (recordList · attrSeq))
      obtain ⟨recs, hrecs, hreads⟩ := saveAttrSeqs_recordLists rs
        ⟨ddb.memFree - recordCost attrSeq val r, ddb.records ++ [d]⟩ fuel hs' (by omega)
        (by dsimp only; omega) (by omega)
      refine ⟨d :: recs, ?_, List.Forall₂.cons hread hreads⟩
      have hne' : recordList r attrSeq ++ rs.flatMap (recordList · attrSeq) ≠ [] := by
        simp [recordList, hne]
      rw [List.flatMap_cons, saveAttrSeqs, if_neg hne', hd]
      simp only [hrecs, Nat.sub_sub, List.append_assoc, List.singleton_append]

end BluetoothStack.Sdp
