import BluetoothStack.Sdp.Types

/-!
# The SDP database as the server reads it

The lookups of sdp_db.cc (`sdp_db_find_record`, `sdp_db_find_attr_in_rec`,
`sdp_db_service_search` with the UUID matching of `find_uuid_in_seq` and
`sdpu_compare_uuid_arrays`), the encoding of an attribute as the server sends it
(`sdpu_build_attrib_entry`, `sdpu_build_partial_attrib_entry`) with the lengths computed apart
from it (`sdpu_get_attrib_entry_len`, `sdpu_get_attrib_seq_len`, `sdpu_get_list_len`), and the
rewrite of the AVRCP version of an A/V Remote Control Target record
(`sdpu_set_avrc_target_version`), which reads the peer's entries in the interop database and the
stored configuration; those are the fields of `AvrcPeer`.

The range loops of `sdpu_get_attrib_seq_len` continue a range from `p_attr->id + 1` in a
`uint16_t`. After an attribute `0xFFFF` the range starts again at `0` and the loop never ends;
the loops here carry an iteration bound that suffices otherwise, and return `none` past it.
-/

namespace BluetoothStack.Sdp

open Bytes

/-! ## Lookups -/

/-- `sdp_db_find_record`: the index of the record with the handle. -/
def sdpDbFindRecord (db : SdpDb) (handle : Nat) : Option Nat :=
  db.record.findIdx? (·.recordHandle = handle)

/-- `sdp_db_find_attr_in_rec`: the first attribute, in the record's order, in the range. -/
def sdpDbFindAttrInRec (r : SdpRecord) (startAttr endAttr : Nat) : Option SdpAttribute :=
  r.attributes.find? (AttrRange.contains ⟨startAttr, endAttr⟩)

/-- The 128-bit Bluetooth base UUID `sdp_base_uuid`. -/
def sdpBaseUuid : List UInt8 :=
  [0x00, 0x00, 0x00, 0x00, 0x00, 0x00, 0x10, 0x00, 0x80, 0x00, 0x00, 0x80, 0x5F, 0x9B, 0x34, 0xFB]

/-- A short UUID put in the base UUID as `sdpu_compare_uuid_arrays` does: a 4-byte one over the
first four bytes, a 2-byte one over bytes 2 and 3. -/
def normalizeUuid (u : List UInt8) : List UInt8 :=
  if u.length = 4 then store 0 u sdpBaseUuid
  else if u.length = 2 then store 2 u sdpBaseUuid
  else sdpBaseUuid

/-- `sdpu_compare_uuid_arrays`: equal UUIDs of 2, 4 or 16 bytes, a shorter one compared after
putting it in the base UUID. -/
def sdpuCompareUuidArrays (u₁ u₂ : List UInt8) : Bool :=
  let len₁ := u₁.length
  let len₂ := u₂.length
  if (len₁ ≠ 2 ∧ len₁ ≠ 4 ∧ len₁ ≠ 16) ∨ (len₂ ≠ 2 ∧ len₂ ≠ 4 ∧ len₂ ≠ 16) then false
  else if len₁ = len₂ then u₁ == u₂
  else if len₁ > len₂ then
    if len₁ = 4 then u₁ == [0, 0] ++ u₂
    else u₁ == normalizeUuid u₂
  else if len₂ = 4 then u₂ == [0, 0] ++ u₁
  else normalizeUuid u₁ == u₂

/-- `sdpu_get_len_from_type`: the length a data element header gives, and the bytes after its
length field; `none` when the length field runs past the end. A 32-bit length is kept in 16
bits. -/
def sdpuGetLenFromType (p : List UInt8) (type : Nat) : Option (Nat × List UInt8) :=
  match type % 8 with
  | 0 => some (1, p)
  | 1 => some (2, p)
  | 2 => some (4, p)
  | 3 => some (8, p)
  | 4 => some (16, p)
  | 5 => if p.length < 1 then none else some (beValue (p.take 1), p.drop 1)
  | 6 => if p.length < 2 then none else some (beValue (p.take 2), p.drop 2)
  | _ => if p.length < 4 then none else some (beValue (p.take 4) % 65536, p.drop 4)

theorem sdpuGetLenFromType_length {p rest : List UInt8} {type len : Nat}
    (h : sdpuGetLenFromType p type = some (len, rest)) : rest.length ≤ p.length := by
  unfold sdpuGetLenFromType at h
  split at h <;> (try split at h) <;> simp only [Option.some.injEq, Prod.mk.injEq,
    reduceCtorEq] at h <;> (obtain ⟨-, rfl⟩ := h) <;> simp

/-- `find_uuid_in_seq`: whether a data element sequence holds the UUID, looking at most three
sequences deep. An element whose length runs past the sequence ends the search. -/
def findUuidInSeq (uuid : List UInt8) (nestLevel : Nat) (p : List UInt8) : Bool :=
  if nestLevel > 3 then false
  else
    match p with
    | [] => false
    | typeByte :: rest =>
      match hlen : sdpuGetLenFromType rest typeByte.toNat with
      | none => false
      | some (len, body) =>
        if body.length < len then false
        else
          let type := typeByte.toNat >>> 3
          if type = uuidDescType ∧ sdpuCompareUuidArrays (body.take len) uuid then true
          else if type = dataEleSeqDescType ∧ findUuidInSeq uuid (nestLevel + 1) (body.take len)
          then true
          else findUuidInSeq uuid nestLevel (body.drop len)
termination_by p.length
decreasing_by
  all_goals
    have := sdpuGetLenFromType_length hlen
    simp only [List.length_take, List.length_drop, List.length_cons]
    omega

/-- Whether the record holds the UUID: in a UUID attribute, or in a data element sequence
attribute, as the inner loop of `sdp_db_service_search` looks for it. -/
def recordHasUuid (r : SdpRecord) (uuid : List UInt8) : Bool :=
  r.attributes.any fun a =>
    (a.type == uuidDescType && sdpuCompareUuidArrays (r.value a) uuid) ||
      (a.type == dataEleSeqDescType && findUuidInSeq uuid 0 (r.value a))

/-- `sdp_db_service_search`: the first record after the one at index `prev` (from the first
if `none`) that holds every UUID of the sequence, with its index. -/
def sdpDbServiceSearch (db : SdpDb) (prev : Option Nat) (uidSeq : List (List UInt8)) :
    Option (SdpRecord × Nat) :=
  let start := prev.elim 0 (· + 1)
  ((db.record.drop start).zipIdx start).find? fun p => uidSeq.all (recordHasUuid p.1)

/-- The search moves forward through the database. -/
theorem sdpDbServiceSearch_index {db : SdpDb} {prev : Option Nat} {uidSeq : List (List UInt8)}
    {r : SdpRecord} {i : Nat} (h : sdpDbServiceSearch db prev uidSeq = some (r, i)) :
    prev.elim 0 (· + 1) ≤ i ∧ i < db.record.length ∧ db.record[i]? = some r := by
  have hmem := List.mem_of_find?_eq_some h
  obtain ⟨hle, hlt, hr⟩ := List.mem_zipIdx hmem
  simp only [List.length_drop] at hlt
  refine ⟨hle, by omega, ?_⟩
  rw [hr, List.getElem_drop, List.getElem?_eq_getElem (by omega)]
  congr 2
  omega

/-! ## Encoding an attribute -/

/-- The types whose length `sdpu_build_attrib_entry` always writes after the type byte. -/
def isVariableLengthType (type : Nat) : Bool :=
  type == textStrDescType || type == dataEleSeqDescType || type == dataEleAltDescType ||
    type == urlDescType

/-- The header byte of a data element: type and size code. -/
def descByte (type size : Nat) : UInt8 := UInt8.ofNat ((type <<< 3) ||| size)

/-- The type and length header `sdpu_build_attrib_entry` writes before the value. -/
def valueHeader (a : SdpAttribute) : List UInt8 :=
  if isVariableLengthType a.type then
    if a.len > 0xFF then descByte a.type sizeInNextWord :: beBytes 2 a.len
    else [descByte a.type sizeInNextByte, UInt8.ofNat a.len]
  else
    match a.len with
    | 1 => [descByte a.type sizeOneByte]
    | 2 => [descByte a.type sizeTwoBytes]
    | 4 => [descByte a.type sizeFourBytes]
    | 8 => [descByte a.type sizeEightBytes]
    | 16 => [descByte a.type sizeSixteenBytes]
    | _ => [descByte a.type sizeInNextByte, UInt8.ofNat a.len]

/-- `sdpu_build_attrib_entry`: the attribute id as a 16-bit unsigned integer element, then the
value as a data element. -/
def sdpuBuildAttribEntry (r : SdpRecord) (a : SdpAttribute) : List UInt8 :=
  descByte uintDescType sizeTwoBytes :: beBytes 2 a.id ++ valueHeader a ++ r.value a

/-- `sdpu_get_attrib_entry_len`: the length of that entry, computed apart. -/
def sdpuGetAttribEntryLen (a : SdpAttribute) : Nat :=
  if isVariableLengthType a.type then
    3 + (if a.len > 0xFF then 3 else 2) + a.len
  else
    3 + (match a.len with
      | 1 | 2 | 4 | 8 | 16 => 1
      | _ => 2) + a.len

theorem length_valueHeader (a : SdpAttribute) :
    (valueHeader a).length + 3 + a.len = sdpuGetAttribEntryLen a := by
  unfold valueHeader sdpuGetAttribEntryLen
  split
  · split <;> simp only [List.length_cons, length_beBytes, List.length_nil]
  · split <;> simp only [List.length_cons, List.length_nil]

/-- With its value inside the pad, an attribute's entry is as long as computed apart. -/
theorem length_sdpuBuildAttribEntry {r : SdpRecord} {a : SdpAttribute}
    (h : a.valuePtr + a.len ≤ r.attrPad.length) :
    (sdpuBuildAttribEntry r a).length = sdpuGetAttribEntryLen a := by
  have hval : (r.value a).length = a.len := length_load_of_le h
  rw [← length_valueHeader]
  simp only [sdpuBuildAttribEntry, List.cons_append, List.length_cons, List.length_append,
    length_beBytes, hval]
  omega

/-- `sdpu_build_partial_attrib_entry`: at most `len` (and at most `SDP_MAX_ATTR_LEN`) bytes of
the entry from `offset` on, and the new offset. The entry is built in a buffer of
`SDP_MAX_ATTR_LEN` bytes, which holds it whenever the server calls this. -/
def sdpuBuildPartialAttribEntry (r : SdpRecord) (a : SdpAttribute) (len offset : Nat) :
    List UInt8 × Nat :=
  let pAttrBuff := sdpuBuildAttribEntry r a
  let attrLen := sdpuGetAttribEntryLen a
  let len := if len > sdpMaxAttrLen then sdpMaxAttrLen else len
  let lenToCopy := if attrLen - offset < len then attrLen - offset else len
  (load offset lenToCopy pAttrBuff, offset + lenToCopy)

/-! ## Lengths computed apart -/

/-- The number of iterations after which the range loops over `attr_seq` and record `r` have
certainly ended, unless a range went past attribute `0xFFFF`: one per entry and one more per
attribute a range finds, each found attribute having a larger id than the last. -/
def loopBound (r : SdpRecord) (attrSeq : List AttrRange) : Nat :=
  attrSeq.length * (r.attributes.length + 1) + 1

/-- The loop of `sdpu_get_attrib_seq_len` from entry `xx`, while expanding a range
(`isRange`, from `startId` to `endId`), with the length `len1` so far; `none` when it does not
end within `fuel` iterations. -/
def attribSeqLenLoop (r : SdpRecord) (attrSeq : List AttrRange) :
    Nat → Nat → Bool → Nat → Nat → Nat → Option Nat
  | 0, _, _, _, _, _ => none
  | fuel + 1, xx, isRange, startId, endId, len1 =>
    match attrSeq[xx]? with
    | none => some len1
    | some rg =>
      let startId := if isRange then startId else rg.start
      let endId := if isRange then endId else rg.end
      match sdpDbFindAttrInRec r startId endId with
      | some pAttr =>
        let len1 := (len1 + sdpuGetAttribEntryLen pAttr) % 65536
        -- a range goes on from the attribute after the one found
        if startId ≠ endId then
          attribSeqLenLoop r attrSeq fuel xx true ((pAttr.id + 1) % 65536) endId len1
        else attribSeqLenLoop r attrSeq fuel (xx + 1) false startId endId len1
      | none => attribSeqLenLoop r attrSeq fuel (xx + 1) false startId endId len1

/-- `sdpu_get_attrib_seq_len`: the length of the entries of the attributes of `r` that the
sequence asks for, in a `uint16_t`. -/
def sdpuGetAttribSeqLen (r : SdpRecord) (attrSeq : List AttrRange) : Option Nat :=
  attribSeqLenLoop r attrSeq (loopBound r attrSeq) 0 false 0 0 0

/-- `sdpu_get_list_len` from the record after `prev` on: the length, in a `uint16_t`, of the
attribute lists of the records holding the UUIDs, each with a 3-byte sequence header, leaving out
the records that have none of the attributes asked for. -/
def sdpuGetListLenFrom (db : SdpDb) (uidSeq : List (List UInt8)) (attrSeq : List AttrRange)
    (prev : Option Nat) (len : Nat) : Option Nat :=
  match _h : sdpDbServiceSearch db prev uidSeq with
  | none => some len
  | some (r, i) =>
    match sdpuGetAttribSeqLen r attrSeq with
    | none => none
    | some len1 =>
      let len := if len1 ≠ 0 then (len + 3 + len1) % 65536 else len
      sdpuGetListLenFrom db uidSeq attrSeq (some i) len
termination_by db.record.length - prev.elim 0 (· + 1)
decreasing_by
  obtain ⟨hle, hlt, -⟩ := sdpDbServiceSearch_index _h
  simp only [Option.elim_some]
  omega

/-- `sdpu_get_list_len`. -/
def sdpuGetListLen (db : SdpDb) (uidSeq : List (List UInt8)) (attrSeq : List AttrRange) :
    Option Nat :=
  sdpuGetListLenFrom db uidSeq attrSeq none 0

/-! ## The AVRCP version of an A/V Remote Control Target -/

/-- `AVRC_REV_1_0`. -/
def avrcRev10 : Nat := 0x0100
/-- `AVRC_REV_1_3`. -/
def avrcRev13 : Nat := 0x0103
/-- `AVRC_REV_1_4`. -/
def avrcRev14 : Nat := 0x0104
/-- `AVRC_REV_1_5`. -/
def avrcRev15 : Nat := 0x0105
/-- `AVRC_REV_1_6`. -/
def avrcRev16 : Nat := 0x0106

/-- What `sdpu_set_avrc_target_version` learns about the peer outside the database: whether
`interop_match_addr` finds it in `INTEROP_AVRCP_1_4_ONLY` and in `INTEROP_AVRCP_1_3_ONLY`, the
property `AVRC_DYNAMIC_AVRCP_ENABLE_PROPERTY`, and the 2-byte AVRC controller version stored for
it in the configuration, if there is one. -/
structure AvrcPeer where
  avrcp14Only : Bool
  avrcp13Only : Bool
  dynamicAvrcpEnable : Bool
  cachedControllerVersion : Option Nat
  deriving DecidableEq, Repr

/-- `sdpu_is_service_id_avrc_target`: a service class list holding just the 16-bit UUID of the
A/V Remote Control Target. -/
def sdpuIsServiceIdAvrcTarget (r : SdpRecord) (a : SdpAttribute) : Bool :=
  a.id == attrIdServiceClassIdList && a.len == 3 &&
    (r.value a)[1]? == some (0x11 : UInt8) && (r.value a)[2]? == some (0x0c : UInt8)

/-- `sdpu_is_avrcp_profile_description_list`: the AVRCP version of an AVRCP profile descriptor
list, read from the low byte of its version field alone, or `0`. -/
def sdpuIsAvrcpProfileDescriptionList (r : SdpRecord) (a : SdpAttribute) : Nat :=
  if a.id ≠ attrIdBtProfileDescList ∨ a.len ≠ 8 then 0
  else if (r.value a)[3]? ≠ some (0x11 : UInt8) ∨ (r.value a)[4]? ≠ some (0x0e : UInt8) then 0
  else
    match ((r.value a)[7]?).map UInt8.toNat with
    | some 0x0 => avrcRev10
    | some 0x3 => avrcRev13
    | some 0x4 => avrcRev14
    | some 0x5 => avrcRev15
    | some 0x6 => avrcRev16
    | _ => 0

/-- `spdu_is_avrcp_version_valid`. -/
def spduIsAvrcpVersionValid (version : Nat) : Bool :=
  version == avrcRev10 || version == avrcRev13 || version == avrcRev14 ||
    version == avrcRev15 || version == avrcRev16

/-- `sdpu_set_avrc_target_version`: lower, in the record's pad, the AVRCP version of the profile
descriptor list `a` to what an interop entry or the cached controller version of the peer asks
for. -/
def sdpuSetAvrcTargetVersion (peer : AvrcPeer) (r : SdpRecord) (a : SdpAttribute) :
    SdpRecord :=
  let avrcpVersion := sdpuIsAvrcpProfileDescriptionList r a
  let writeVersion (version : Nat) : SdpRecord :=
    { r with attrPad := store (a.valuePtr + 6) (beBytes 2 version) r.attrPad }
  if avrcpVersion = 0 then r
  else
    let iopVersion :=
      if avrcpVersion > avrcRev14 ∧ peer.avrcp14Only then avrcRev14
      else if avrcpVersion > avrcRev13 ∧ peer.avrcp13Only then avrcRev13
      else 0
    if iopVersion ≠ 0 then writeVersion iopVersion
    else if !peer.dynamicAvrcpEnable then r
    else
      match peer.cachedControllerVersion with
      | none => r
      | some cachedVersion =>
        if !spduIsAvrcpVersionValid cachedVersion then r
        else if avrcpVersion > cachedVersion then writeVersion cachedVersion
        else r

end BluetoothStack.Sdp
