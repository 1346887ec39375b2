import Mathlib
import BluetoothStack.LeAudio.Ltv
import BluetoothStack.Stack.BtHdr

/-!
# Persistent storage of LE Audio devices

bta/le_audio/storage_helper.cc keeps what the client learned of a device across restarts: its
Published Audio Capabilities (`serializePacs`, `deserializePacs`, which reads each record back
through the over-the-air parser `ParseSinglePac` of client_parser.cc), its ASEs
(`SerializeAses`, `DeserializeAses`) and the handles of its services (`SerializeHandles`,
`DeserializeHandles`).

A serializer computes the size of its output first and writes into a buffer of that size; it
returns `none` where the C function returns `false`. A deserializer reads through a pointer into
the stored bytes after checking their length against the number of entries in the header; bytes
past the end read here as zeros (the C code reads past the vector there, which the round trips
below never do). The `nullptr` checks on the device are left out.

The round trip holds for handles and ASEs whenever the serializer succeeds. For capabilities the
deserializer's second length check asks for eight bytes per characteristic, the size of a PAC
record, where a characteristic without records takes five: capabilities whose characteristics
hold few records, as any without records, are stored and cannot be read back
(`deserializePacs_refuses_serialized`). With enough bytes, at most 255 records per
characteristic, records of at most 256 bytes and distinct value handles, they read back exactly
(`pacs_roundTrip`).

The same check is all that bounds what `deserializePacs` reads of a blob: a record's size byte
comes from the blob, and nothing compares it with what is left. Each characteristic is pushed
into the database before its records are parsed, and a record that fails returns `false` with it
there (`deserializePacs_false`); `deserializePacs_partial_overread` shows both, with a record
refused and with one read past the end of the stored bytes.
-/

namespace BluetoothStack.LeAudio

open Bytes

/-! ## Data -/

/-- `hdl_pair`: the handle of a characteristic's value and of its client configuration. -/
structure HdlPair where
  valHdl : UInt16
  cccHdl : UInt16
deriving DecidableEq, Repr

/-- `LeAudioCodecId`. -/
structure CodecId where
  codingFormat : UInt8
  vendorCompanyId : UInt16
  vendorCodecId : UInt16
deriving DecidableEq, Repr

/-- `acs_ac_record`: one PAC record. -/
structure AcsAcRecord where
  codecId : CodecId
  codecSpecCaps : LtvMap
  metadata : List UInt8
deriving DecidableEq

/-- `PublishedAudioCapabilities`: the PAC characteristics, each with its handles and records. -/
abbrev PublishedAudioCapabilities := List (HdlPair × List AcsAcRecord)

/-- The fields of `struct ase` the storage keeps. -/
structure Ase where
  hdls : HdlPair
  id : UInt8
  direction : UInt8
deriving DecidableEq, Repr

/-- The handles of `LeAudioDevice` that the storage keeps, and `known_service_handles_`. -/
structure ServiceHandles where
  ctpHdls : HdlPair
  snkAudioLocationsHdls : HdlPair
  srcAudioLocationsHdls : HdlPair
  audioSuppContHdls : HdlPair
  audioAvailHdls : HdlPair
  tmapRoleHdl : UInt16
  knownServiceHandles : Bool
deriving DecidableEq, Repr

/-! ## Layout -/

/-- `LEAUDIO_PACS_STORAGE_CURRENT_LAYOUT_MAGIC`. -/
def leaudioPacsStorageCurrentLayoutMagic : UInt8 := 0x00
/-- `LEAUDIO_ASE_STORAGE_CURRENT_LAYOUT_MAGIC`. -/
def leaudioAseStorageCurrentLayoutMagic : UInt8 := 0x00
/-- `LEAUDIO_HANDLES_STORAGE_CURRENT_LAYOUT_MAGIC`. -/
def leaudioHandlesStorageCurrentLayoutMagic : UInt8 := 0x00
/-- `LEAUDIO_STORAGE_HEADER_WITH_ENTRIES_SZ`: the magic and the number of entries. -/
def leaudioStorageHeaderWithEntriesSz : Nat := 2
/-- `LEAUDIO_PACS_ENTRY_HDR_SZ`: the handles of a characteristic and its number of records. -/
def leaudioPacsEntryHdrSz : Nat := 5
/-- `LEAUDIO_PACS_ENTRY_SZ`: the size of a record without its capabilities and metadata. -/
def leaudioPacsEntrySz : Nat := 8
/-- `LEAUDIO_ASES_ENTRY_SZ`. -/
def leaudioAsesEntrySz : Nat := 6
/-- `LEAUDIO_STORAGE_HANDLES_ENTRIES_SZ`: the magic and eleven handles. -/
def leaudioStorageHandlesEntriesSz : Nat := 23
/-- `kAcsPacRecordMinLen`. -/
def kAcsPacRecordMinLen : Nat := 7
/-- `kAcsPacMetadataLenLen`. -/
def kAcsPacMetadataLenLen : Nat := 1

/-- `UINT16_TO_STREAM` of a 16-bit field. -/
def u16Bytes (v : UInt16) : List UInt8 := uint16ToStream v.toNat

/-- `STREAM_TO_UINT8` at byte `pos` of `mem`. -/
def streamToUint8 (mem : List UInt8) (pos : Nat) : UInt8 := mem.getD pos 0

/-- `STREAM_TO_UINT16` into a 16-bit field. -/
def streamToU16 (mem : List UInt8) (pos : Nat) : UInt16 := UInt16.ofNat (streamToUint16 mem pos)

/-! ## Published Audio Capabilities -/

/-- The size `serializePacs` gives a record: `LEAUDIO_PACS_ENTRY_SZ`, the capabilities and the
metadata. -/
def pacLen (pac : AcsAcRecord) : Nat :=
  leaudioPacsEntrySz + pac.codecSpecCaps.rawPacketSize + pac.metadata.length

/-- What `serializePacs` writes for one record: its size less the size byte, the codec id, the
capabilities after their length and the metadata after its length (the tests for empty
capabilities and metadata write nothing either way). -/
def pacRecordBytes (pac : AcsAcRecord) : List UInt8 :=
  [UInt8.ofNat (pacLen pac - 1), pac.codecId.codingFormat] ++ u16Bytes pac.codecId.vendorCompanyId ++
    u16Bytes pac.codecId.vendorCodecId ++ [UInt8.ofNat pac.codecSpecCaps.rawPacketSize] ++
    pac.codecSpecCaps.rawPacket ++ [UInt8.ofNat pac.metadata.length] ++ pac.metadata

/-- What `serializePacs` writes for one characteristic: its handles, its number of records and
the records. -/
def pacCharBytes (pac : HdlPair × List AcsAcRecord) : List UInt8 :=
  u16Bytes pac.1.valHdl ++ u16Bytes pac.1.cccHdl ++ [UInt8.ofNat pac.2.length] ++
    pac.2.flatMap pacRecordBytes

/-- The size the first pass of `serializePacs` computes. -/
def pacBinSize (pacs : PublishedAudioCapabilities) : Nat :=
  leaudioStorageHeaderWithEntriesSz +
    (pacs.map fun t => leaudioPacsEntryHdrSz +
      (t.2.map fun pac => leaudioPacsEntrySz + pac.metadata.length +
        pac.codecSpecCaps.rawPacketSize).sum).sum

/-- `serializePacs`: between 1 and 255 characteristics, written after the magic and their number
into a buffer of the size computed first. -/
def serializePacs (pacs : PublishedAudioCapabilities) : Option (List UInt8) :=
  let numOfPacs := pacs.length
  if numOfPacs = 0 ∨ numOfPacs > 255 then none
  else
    let out := List.replicate (pacBinSize pacs) 0
    some (store 0 ([leaudioPacsStorageCurrentLayoutMagic, UInt8.ofNat numOfPacs] ++
      pacs.flatMap pacCharBytes) out)

/-- `ParseSinglePac` on the `len` bytes of `mem` from `pos`: the length left after the record, or
-1, and the records with the new one added (cleared on two of the failures, as the source does). -/
def parseSinglePac (pacRecs : List AcsAcRecord) (len : Nat) (mem : List UInt8) (pos : Nat) :
    Int × List AcsAcRecord :=
  if len < kAcsPacRecordMinLen then (-1, [])
  else
    let codingFormat := streamToUint8 mem pos
    let vendorCompanyId := streamToU16 mem (pos + 1)
    let vendorCodecId := streamToU16 mem (pos + 3)
    let codecSpecCapLen := (streamToUint8 mem (pos + 5)).toNat
    let len := len - (kAcsPacRecordMinLen - kAcsPacMetadataLenLen)
    if len < codecSpecCapLen + kAcsPacMetadataLenLen then (-1, [])
    else
      let (codecSpecCaps, parsed) := LtvMap.parse mem (pos + 6) codecSpecCapLen
      if !parsed then (-1, pacRecs)
      else
        let pos := pos + 6 + codecSpecCapLen
        let len := len - codecSpecCapLen
        let metadataLen := (streamToUint8 mem pos).toNat
        let len := len - kAcsPacMetadataLenLen
        if len < metadataLen then (-1, [])
        else
          (len - metadataLen, pacRecs ++
            [⟨⟨codingFormat, vendorCompanyId, vendorCodecId⟩, codecSpecCaps,
              load (pos + 1) metadataLen mem⟩])

/-- The records of one characteristic in `deserializePacs`: `count` times a size byte and
`ParseSinglePac`, then on from the record's end; `none` where a record does not parse. -/
def pacRecordsLoop (input : List UInt8) : Nat → List AcsAcRecord → Nat →
    Option (List AcsAcRecord × Nat)
  | 0, pacRecs, pos => some (pacRecs, pos)
  | count + 1, pacRecs, pos =>
    let pacLen := (streamToUint8 input pos).toNat
    let (r, pacRecs) := parseSinglePac pacRecs pacLen input (pos + 1)
    if r < 0 then none else pacRecordsLoop input count pacRecs (pos + 1 + pacLen)

/-- `LeAudioDevice::RegisterPACs`: the records of a characteristic read again replace the old
ones. -/
def registerPACs (pacDb pacRecs : List AcsAcRecord) : List AcsAcRecord :=
  let pacDb := if pacDb.isEmpty then pacDb else []
  pacRecs ++ pacDb

/-- `RegisterPACs` on the first characteristic whose value handle is `hdl`, the one `find_if`
finds. -/
def registerAt (hdl : UInt16) (pacRecs : List AcsAcRecord) :
    PublishedAudioCapabilities → PublishedAudioCapabilities
  | [] => []
  | t :: rest =>
    if t.1.valHdl = hdl then (t.1, registerPACs t.2 pacRecs) :: rest
    else t :: registerAt hdl pacRecs rest

/-- The characteristics of `deserializePacs`: each is added to the database with no records, its
records are parsed and registered on the first characteristic with its value handle. -/
def pacEntriesLoop (input : List UInt8) : Nat → PublishedAudioCapabilities → Nat →
    Bool × PublishedAudioCapabilities
  | 0, pacsDb, _ => (true, pacsDb)
  | count + 1, pacsDb, pos =>
    let hdlPair : HdlPair := ⟨streamToU16 input pos, streamToU16 input (pos + 2)⟩
    let pacCount := (streamToUint8 input (pos + 4)).toNat
    let pacsDb := pacsDb ++ [(hdlPair, [])]
    match pacRecordsLoop input pacCount [] (pos + 5) with
    | none => (false, pacsDb)
    | some (pacRecs, pos) =>
      pacEntriesLoop input count (registerAt hdlPair.valHdl pacRecs pacsDb) pos

/-- `deserializePacs` into `pacsDb`: the stored bytes must hold a header and a record, the magic,
and eight bytes for each characteristic the header counts. -/
def deserializePacs (pacsDb : PublishedAudioCapabilities) (input : List UInt8) :
    Bool × PublishedAudioCapabilities :=
  if input.length < leaudioStorageHeaderWithEntriesSz + leaudioPacsEntrySz then (false, pacsDb)
  else if streamToUint8 input 0 ≠ leaudioPacsStorageCurrentLayoutMagic then (false, pacsDb)
  else
    let numOfPacsChars := (streamToUint8 input 1).toNat
    if input.length < leaudioStorageHeaderWithEntriesSz + numOfPacsChars * leaudioPacsEntrySz then
      (false, pacsDb)
    else pacEntriesLoop input numOfPacsChars pacsDb leaudioStorageHeaderWithEntriesSz

/-! ## ASEs -/

/-- What `SerializeAses` writes for one ASE. -/
def aseBytes (ase : Ase) : List UInt8 :=
  u16Bytes ase.hdls.valHdl ++ u16Bytes ase.hdls.cccHdl ++ [ase.id, ase.direction]

/-- `SerializeAses`: between 1 and 255 ASEs after the magic and their number. -/
def serializeAses (ases : List Ase) : Option (List UInt8) :=
  let numOfAses := ases.length
  if numOfAses = 0 ∨ numOfAses > 255 then none
  else
    let out := List.replicate (leaudioStorageHeaderWithEntriesSz + numOfAses * leaudioAsesEntrySz) 0
    some (store 0 ([leaudioAseStorageCurrentLayoutMagic, UInt8.ofNat numOfAses] ++
      ases.flatMap aseBytes) out)

/-- The loop of `DeserializeAses`: `count` ASEs from `pos`, each added at the end of `ases_`. -/
def aseLoop (input : List UInt8) : Nat → List Ase → Nat → List Ase
  | 0, ases, _ => ases
  | count + 1, ases, pos =>
    let handle := streamToU16 input pos
    let cccHandle := streamToU16 input (pos + 2)
    let aseId := streamToUint8 input (pos + 4)
    let direction := streamToUint8 input (pos + 5)
    aseLoop input count (ases ++ [⟨⟨handle, cccHandle⟩, aseId, direction⟩]) (pos + 6)

/-- `DeserializeAses` into the device's `ases_`. -/
def deserializeAses (ases : List Ase) (input : List UInt8) : Bool × List Ase :=
  if input.length < leaudioStorageHeaderWithEntriesSz + leaudioAsesEntrySz then (false, ases)
  else if streamToUint8 input 0 ≠ leaudioAseStorageCurrentLayoutMagic then (false, ases)
  else
    let numOfAses := (streamToUint8 input 1).toNat
    if input.length < leaudioStorageHeaderWithEntriesSz + numOfAses * leaudioAsesEntrySz then
      (false, ases)
    else (true, aseLoop input numOfAses ases leaudioStorageHeaderWithEntriesSz)

/-! ## Service handles -/

/-- The eleven handles `SerializeHandles` writes after the magic, in order. -/
def handlesBytes (d : ServiceHandles) : List UInt8 :=
  u16Bytes d.ctpHdls.valHdl ++ u16Bytes d.ctpHdls.cccHdl ++
    u16Bytes d.snkAudioLocationsHdls.valHdl ++ u16Bytes d.snkAudioLocationsHdls.cccHdl ++
    u16Bytes d.srcAudioLocationsHdls.valHdl ++ u16Bytes d.srcAudioLocationsHdls.cccHdl ++
    u16Bytes d.audioSuppContHdls.valHdl ++ u16Bytes d.audioSuppContHdls.cccHdl ++
    u16Bytes d.audioAvailHdls.valHdl ++ u16Bytes d.audioAvailHdls.cccHdl ++
    u16Bytes d.tmapRoleHdl

/-- `SerializeHandles`: refused while the control point handles are unknown. -/
def serializeHandles (d : ServiceHandles) : Option (List UInt8) :=
  let out := List.replicate leaudioStorageHandlesEntriesSz 0
  if d.ctpHdls.valHdl = 0 ∨ d.ctpHdls.cccHdl = 0 then none
  else some (store 0 (leaudioHandlesStorageCurrentLayoutMagic :: handlesBytes d) out)

/-- `DeserializeHandles`: exactly the size of the layout, the magic, then the eleven handles. -/
def deserializeHandles (d : ServiceHandles) (input : List UInt8) : Bool × ServiceHandles :=
  if input.length ≠ leaudioStorageHandlesEntriesSz then (false, d)
  else if streamToUint8 input 0 ≠ leaudioHandlesStorageCurrentLayoutMagic then (false, d)
  else
    (true, { d with
      ctpHdls := ⟨streamToU16 input 1, streamToU16 input 3⟩
      snkAudioLocationsHdls := ⟨streamToU16 input 5, streamToU16 input 7⟩
      srcAudioLocationsHdls := ⟨streamToU16 input 9, streamToU16 input 11⟩
      audioSuppContHdls := ⟨streamToU16 input 13, streamToU16 input 15⟩
      audioAvailHdls := ⟨streamToU16 input 17, streamToU16 input 19⟩
      tmapRoleHdl := streamToU16 input 21
      knownServiceHandles := true })

/-! ## Reading back what was written -/

/-- A byte written as the `UInt8` of a number below 256 reads back as that number. -/
theorem toNat_ofNat_of_lt {n : Nat} (h : n < 256) : (UInt8.ofNat n).toNat = n := by
  rw [UInt8.toNat_ofNat', Nat.mod_eq_of_lt (by omega)]

@[simp] theorem length_u16Bytes (x : UInt16) : (u16Bytes x).length = 2 := by
  simp [u16Bytes]

/-- `STREAM_TO_UINT16` reads the two bytes from `pos` on. -/
theorem streamToU16_eq_drop (mem : List UInt8) (pos : Nat) :
    streamToU16 mem pos = streamToU16 (mem.drop pos) 0 := by
  simp [streamToU16, streamToUint16, load]

/-- A 16-bit field written with `UINT16_TO_STREAM` and read back with `STREAM_TO_UINT16`. -/
@[simp] theorem streamToU16_u16Bytes (x : UInt16) (post : List UInt8) :
    streamToU16 (u16Bytes x ++ post) 0 = x := by
  have hlt : x.toNat < 256 ^ 2 := Nat.lt_of_lt_of_le x.toNat_lt (by decide)
  rw [streamToU16, streamToUint16, load, List.drop_zero, List.take_left' (by simp), u16Bytes,
    uint16ToStream, leValue_leBytes, Nat.mod_eq_of_lt hlt, UInt16.ofNat_toNat]

@[simp] theorem streamToU16_u16Bytes_self (x : UInt16) : streamToU16 (u16Bytes x) 0 = x := by
  simpa using streamToU16_u16Bytes x []

/-! ## Published Audio Capabilities read back -/

/-- The record takes the size `serializePacs` gives it. -/
theorem length_pacRecordBytes (pac : AcsAcRecord) : (pacRecordBytes pac).length = pacLen pac := by
  simp [pacRecordBytes, pacLen, LtvMap.length_rawPacket, leaudioPacsEntrySz]
  omega

/-- A value of capabilities that fit a record of at most 256 bytes is shorter than 255 bytes. -/
theorem value_lt_of_pacLen {pac : AcsAcRecord} (hpac : pacLen pac ≤ 256) :
    ∀ e ∈ pac.codecSpecCaps.values, e.2.length < 255 := by
  intro e he
  have hle : 2 + e.2.length ≤ pac.codecSpecCaps.rawPacketSize := by
    unfold LtvMap.rawPacketSize
    exact List.le_sum_of_mem (List.mem_map_of_mem he)
  unfold pacLen leaudioPacsEntrySz at hpac
  omega

/-- `ParseSinglePac` reads back a record `serializePacs` wrote, from after its size byte: nothing
of its length is left and the record is added. -/
theorem parseSinglePac_pacRecordBytes {pac : AcsAcRecord} (hpac : pacLen pac ≤ 256)
    (pre rest : List UInt8) (got : List AcsAcRecord) :
    parseSinglePac got (pacLen pac - 1) (pre ++ pacRecordBytes pac ++ rest) (pre.length + 1) =
      (0, got ++ [pac]) := by
  obtain ⟨⟨cf, company, codec⟩, caps, md⟩ := pac
  have hvals := value_lt_of_pacLen hpac
  have hsize : pacLen ⟨⟨cf, company, codec⟩, caps, md⟩ = 8 + caps.rawPacketSize + md.length := by
    simp [pacLen, leaudioPacsEntrySz]
  rw [hsize] at hpac ⊢
  -- the record: seven bytes of header, the capabilities, the metadata after its length
  obtain ⟨hdr, hhdr⟩ : ∃ hdr : List UInt8, hdr = [UInt8.ofNat (8 + caps.rawPacketSize + md.length - 1),
      cf] ++ u16Bytes company ++ u16Bytes codec ++ [UInt8.ofNat caps.rawPacketSize] := ⟨_, rfl⟩
  have hlenHdr : hdr.length = 7 := by simp [hhdr]
  generalize hmem : pre ++ pacRecordBytes ⟨⟨cf, company, codec⟩, caps, md⟩ ++ rest = mem
  have hmem' : (pre ++ hdr) ++ caps.rawPacket ++ ([UInt8.ofNat md.length] ++ md ++ rest) = mem := by
    simp [← hmem, hhdr, pacRecordBytes, pacLen, leaudioPacsEntrySz]
  -- each field read where it was written
  have hcf : streamToUint8 mem (pre.length + 1) = cf := by
    simp [← hmem', hhdr, streamToUint8]
  have hcompany : streamToU16 mem (pre.length + 1 + 1) = company := by
    rw [streamToU16_eq_drop]
    simp [← hmem', hhdr, Nat.add_assoc, List.drop_append, List.drop_eq_nil_of_le]
  have hcodec : streamToU16 mem (pre.length + 1 + 3) = codec := by
    rw [streamToU16_eq_drop]
    simp [← hmem', hhdr, Nat.add_assoc, List.drop_append, List.drop_eq_nil_of_le]
  have hcapLen : streamToUint8 mem (pre.length + 1 + 5) = UInt8.ofNat caps.rawPacketSize := by
    rw [← hmem', List.append_assoc, List.append_assoc, streamToUint8, Nat.add_assoc,
      List.getD_eq_getElem?_getD, List.getElem?_append_right (by omega)]
    simp [hhdr, List.getElem?_append_right]
  have hltv : LtvMap.parse mem (pre.length + 1 + 6) caps.rawPacketSize = (caps, true) := by
    have hpos : pre.length + 1 + 6 = (pre ++ hdr).length := by simp [hlenHdr]
    rw [← hmem', hpos]
    exact LtvMap.parse_rawPacket caps _ _ hvals
  have hmdLen : streamToUint8 mem (pre.length + 1 + 6 + caps.rawPacketSize) =
      UInt8.ofNat md.length := by
    simp [← hmem', streamToUint8, Nat.add_assoc, hlenHdr, LtvMap.length_rawPacket]
  have hmd : load (pre.length + 1 + 6 + caps.rawPacketSize + 1) md.length mem = md := by
    simp [← hmem', load, Nat.add_assoc, List.drop_append, List.drop_eq_nil_of_le, hlenHdr,
      LtvMap.length_rawPacket]
  unfold parseSinglePac
  simp only [hcf, hcompany, hcodec, hcapLen, toNat_ofNat_of_lt (by omega : caps.rawPacketSize < 256),
    hltv, hmdLen, toNat_ofNat_of_lt (by omega : md.length < 256), hmd, kAcsPacRecordMinLen,
    kAcsPacMetadataLenLen, Bool.not_true]
  -- the three length checks pass, and the metadata ends the record
  rw [if_neg (by omega), if_neg (by omega), if_neg Bool.false_ne_true, if_neg (by omega)]
  exact Prod.ext (by omega) rfl

/-- The records of a characteristic, read one after the other from their size bytes. By
induction on the records, one size byte and `ParseSinglePac` a step. -/
theorem pacRecordsLoop_flatMap (rest : List UInt8) (recs : List AcsAcRecord) :
    ∀ (pre : List UInt8) (got : List AcsAcRecord), (∀ pac ∈ recs, pacLen pac ≤ 256) →
      pacRecordsLoop (pre ++ recs.flatMap pacRecordBytes ++ rest) recs.length got pre.length =
        some (got ++ recs, pre.length + (recs.flatMap pacRecordBytes).length) := by
  induction recs with
  | nil => intro pre got _; simp [pacRecordsLoop]
  | cons pac recs ih =>
    intro pre got hrecs
    have hpac := hrecs pac List.mem_cons_self
    have hlen := length_pacRecordBytes pac
    have hmin : 8 ≤ pacLen pac := by unfold pacLen leaudioPacsEntrySz; omega
    have hmem : pre ++ (pac :: recs).flatMap pacRecordBytes ++ rest =
        pre ++ pacRecordBytes pac ++ (recs.flatMap pacRecordBytes ++ rest) := by simp
    have hsizeByte : streamToUint8 (pre ++ pacRecordBytes pac ++ (recs.flatMap pacRecordBytes ++ rest))
        pre.length = UInt8.ofNat (pacLen pac - 1) := by
      simp [streamToUint8, pacRecordBytes]
    have hnext : pre.length + 1 + (pacLen pac - 1) = (pre ++ pacRecordBytes pac).length := by
      simp only [List.length_append, hlen]
      omega
    rw [hmem, List.length_cons, pacRecordsLoop]
    simp only [hsizeByte, toNat_ofNat_of_lt (by omega : pacLen pac - 1 < 256),
      parseSinglePac_pacRecordBytes hpac, lt_self_iff_false, if_false]
    rw [hnext, ← List.append_assoc (pre ++ pacRecordBytes pac),
      ih _ _ (fun x hx => hrecs x (List.mem_cons_of_mem _ hx))]
    simp [Nat.add_assoc]

/-- `registerAt` on a value handle no earlier characteristic has gives its records to the
characteristic just added. -/
theorem registerAt_last {done : PublishedAudioCapabilities} {p : HdlPair} {recs : List AcsAcRecord}
    (hfresh : ∀ t ∈ done, t.1.valHdl ≠ p.valHdl) :
    registerAt p.valHdl recs (done ++ [(p, [])]) = done ++ [(p, recs)] := by
  induction done with
  | nil => simp [registerAt, registerPACs]
  | cons t done ih =>
    rw [List.cons_append, registerAt, if_neg (hfresh t List.mem_cons_self),
      ih (fun t' ht' => hfresh t' (List.mem_cons_of_mem _ ht'))]
    rfl

/-- The characteristics, read one after the other: each is added with its records after those
read before. By induction on the characteristics still to read; the distinct value handles make
`find_if` find the one just added. -/
theorem pacEntriesLoop_flatMap (rest : List UInt8) (todo : PublishedAudioCapabilities) :
    ∀ (pre : List UInt8) (done : PublishedAudioCapabilities),
      (∀ t ∈ todo, t.2.length < 256 ∧ ∀ pac ∈ t.2, pacLen pac ≤ 256) →
      ((done ++ todo).map fun t => t.1.valHdl).Nodup →
      pacEntriesLoop (pre ++ todo.flatMap pacCharBytes ++ rest) todo.length done pre.length =
        (true, done ++ todo) := by
  induction todo with
  | nil => intro pre done _ _; simp [pacEntriesLoop]
  | cons t todo ih =>
    intro pre done hok hnodup
    obtain ⟨hcount, hrecs⟩ := hok t List.mem_cons_self
    have hfresh : ∀ t' ∈ done, t'.1.valHdl ≠ t.1.valHdl := by
      intro t' ht' heq
      rw [List.map_append, List.nodup_append] at hnodup
      exact hnodup.2.2 _ (List.mem_map_of_mem ht') _ (List.mem_map_of_mem List.mem_cons_self) heq
    -- the characteristic: its handles and number of records, then the records
    obtain ⟨hdr, hhdr⟩ : ∃ hdr : List UInt8, hdr = u16Bytes t.1.valHdl ++ u16Bytes t.1.cccHdl ++
        [UInt8.ofNat t.2.length] := ⟨_, rfl⟩
    generalize hmem : pre ++ (t :: todo).flatMap pacCharBytes ++ rest = mem
    have hmem' : (pre ++ hdr) ++ t.2.flatMap pacRecordBytes ++ (todo.flatMap pacCharBytes ++ rest) =
        mem := by
      simp [← hmem, hhdr, pacCharBytes]
    have hval : streamToU16 mem pre.length = t.1.valHdl := by
      rw [streamToU16_eq_drop]
      simp [← hmem', hhdr]
    have hccc : streamToU16 mem (pre.length + 2) = t.1.cccHdl := by
      rw [streamToU16_eq_drop]
      simp [← hmem', hhdr, List.drop_append, List.drop_eq_nil_of_le]
    have hnum : streamToUint8 mem (pre.length + 4) = UInt8.ofNat t.2.length := by
      simp [← hmem', hhdr, streamToUint8, List.getElem?_append_right]
    have hpos : pre.length + 5 = (pre ++ hdr).length := by simp [hhdr]
    have hrun := pacRecordsLoop_flatMap (todo.flatMap pacCharBytes ++ rest) t.2 (pre ++ hdr) [] hrecs
    rw [hmem', ← hpos] at hrun
    have hnext : pre.length + 5 + (t.2.flatMap pacRecordBytes).length =
        (pre ++ pacCharBytes t).length := by
      simp [pacCharBytes]
      omega
    have hrest : mem = (pre ++ pacCharBytes t) ++ todo.flatMap pacCharBytes ++ rest := by
      simp [← hmem]
    rw [List.length_cons, pacEntriesLoop]
    simp only [hval, hccc, hnum, toNat_ofNat_of_lt hcount, hrun, List.nil_append]
    rw [registerAt_last hfresh, hnext, hrest, ih _ _ (fun x hx => hok x (List.mem_cons_of_mem _ hx))
      (by simpa using hnodup)]
    simp

/-- The first pass of `serializePacs` computes the size of what the second pass writes. -/
theorem length_serializedPacs (pacs : PublishedAudioCapabilities) :
    ([leaudioPacsStorageCurrentLayoutMagic, UInt8.ofNat pacs.length] ++
      pacs.flatMap pacCharBytes).length = pacBinSize pacs := by
  simp [pacBinSize, pacCharBytes, List.length_flatMap, length_pacRecordBytes, pacLen,
    leaudioStorageHeaderWithEntriesSz, leaudioPacsEntryHdrSz, Nat.add_right_comm _ (LtvMap.rawPacketSize _)]
  omega

/-- `serializePacs` of 1 to 255 characteristics: the magic, their number and the characteristics. -/
theorem serializePacs_eq {pacs : PublishedAudioCapabilities} (hpos : 0 < pacs.length)
    (hle : pacs.length ≤ 255) :
    serializePacs pacs = some ([leaudioPacsStorageCurrentLayoutMagic, UInt8.ofNat pacs.length] ++
      pacs.flatMap pacCharBytes) := by
  rw [serializePacs, if_neg (by omega)]
  dsimp only
  rw [store_zero_of_length (by rw [List.length_replicate, length_serializedPacs])]

/-- The second byte of stored capabilities counts their characteristics. -/
theorem numOfPacs_serialized {pacs : PublishedAudioCapabilities} (hle : pacs.length ≤ 255) :
    (streamToUint8 ([leaudioPacsStorageCurrentLayoutMagic, UInt8.ofNat pacs.length] ++
      pacs.flatMap pacCharBytes) 1).toNat = pacs.length := by
  simp [streamToUint8, toNat_ofNat_of_lt (by omega : pacs.length < 256)]

/-- Capabilities stored with eight bytes or more for each characteristic, at most 255 records to a
characteristic, records of at most 256 bytes and distinct value handles read back into an empty
database as they were. -/
theorem pacs_roundTrip {pacs : PublishedAudioCapabilities} (hpos : 0 < pacs.length)
    (hle : pacs.length ≤ 255)
    (hrecs : ∀ t ∈ pacs, t.2.length ≤ 255 ∧ ∀ pac ∈ t.2, pacLen pac ≤ 256)
    (hdistinct : (pacs.map fun t => t.1.valHdl).Nodup)
    (hroom : leaudioStorageHeaderWithEntriesSz + pacs.length * leaudioPacsEntrySz ≤ pacBinSize pacs) :
    ∃ bytes, serializePacs pacs = some bytes ∧ deserializePacs [] bytes = (true, pacs) := by
  refine ⟨_, serializePacs_eq hpos hle, ?_⟩
  have hlen := length_serializedPacs pacs
  have hnum := numOfPacs_serialized hle
  have hrun := pacEntriesLoop_flatMap [] pacs [leaudioPacsStorageCurrentLayoutMagic,
    UInt8.ofNat pacs.length] [] (fun t ht => ⟨by have := (hrecs t ht).1; omega, (hrecs t ht).2⟩)
    (by simpa using hdistinct)
  simp only [List.append_nil, List.length_cons, List.length_nil, List.nil_append] at hrun
  unfold deserializePacs
  rw [hlen, hnum, if_neg (by unfold leaudioStorageHeaderWithEntriesSz leaudioPacsEntrySz at *; omega),
    if_neg (by simp [streamToUint8]), if_neg (by omega)]
  exact hrun

/-- `deserializePacs` refuses, and leaves the database as it was, bytes that are shorter than
eight for each characteristic their header counts: the first length check catches a count of
zero, the second any other. -/
theorem deserializePacs_of_short {pacsDb : PublishedAudioCapabilities} {input : List UInt8}
    (h : input.length <
      leaudioStorageHeaderWithEntriesSz + (streamToUint8 input 1).toNat * leaudioPacsEntrySz) :
    deserializePacs pacsDb input = (false, pacsDb) := by
  unfold deserializePacs
  split_ifs with hmin hmagic
  · rfl
  · rfl
  · dsimp only
    rw [if_pos h]

/-- Characteristics without records take five bytes each after the header. -/
theorem pacBinSize_without_records (hdls : List HdlPair) :
    pacBinSize (hdls.map fun h => (h, [])) =
      leaudioStorageHeaderWithEntriesSz + hdls.length * leaudioPacsEntryHdrSz := by
  simp [pacBinSize, Function.comp_def, Nat.mul_comm]

/-- Capabilities that `serializePacs` stores in fewer than eight bytes a characteristic are refused
by `deserializePacs`, with the database left empty. -/
theorem serializePacs_refused_of_short {pacs : PublishedAudioCapabilities} (hpos : 0 < pacs.length)
    (hle : pacs.length ≤ 255)
    (hsize : pacBinSize pacs < leaudioStorageHeaderWithEntriesSz + pacs.length * leaudioPacsEntrySz) :
    ∃ bytes, serializePacs pacs = some bytes ∧ deserializePacs [] bytes = (false, []) := by
  refine ⟨_, serializePacs_eq hpos hle, deserializePacs_of_short ?_⟩
  rw [length_serializedPacs, numOfPacs_serialized hle]
  exact hsize

/-- What `serializePacs` stores in fewer than eight bytes a characteristic, `deserializePacs` refuses:
any 1 to 255 characteristics without records, and so one characteristic without records, stored
in seven bytes. -/
theorem deserializePacs_refuses_serialized :
    (∀ pacs : PublishedAudioCapabilities, 0 < pacs.length → pacs.length ≤ 255 →
      pacBinSize pacs < leaudioStorageHeaderWithEntriesSz + pacs.length * leaudioPacsEntrySz →
      ∃ bytes, serializePacs pacs = some bytes ∧ deserializePacs [] bytes = (false, [])) ∧
    (∀ hdls : List HdlPair, 0 < hdls.length → hdls.length ≤ 255 →
      ∃ bytes, serializePacs (hdls.map fun h => (h, [])) = some bytes ∧
        deserializePacs [] bytes = (false, [])) ∧
    serializePacs [(⟨1, 2⟩, [])] = some [0, 1, 1, 0, 2, 0, 0] ∧
      deserializePacs [] [0, 1, 1, 0, 2, 0, 0] = (false, []) := by
  refine ⟨fun _ hpos hle hsize => serializePacs_refused_of_short hpos hle hsize, ?_, by decide,
    by decide⟩
  -- five bytes a characteristic against the eight the check asks for
  intro hdls hpos hle
  refine serializePacs_refused_of_short (by simpa using hpos) (by simpa using hle) ?_
  rw [pacBinSize_without_records, List.length_map]
  unfold leaudioPacsEntryHdrSz leaudioPacsEntrySz
  omega

/-! ## A failed read of capabilities -/

@[simp] theorem length_registerAt (hdl : UInt16) (pacRecs : List AcsAcRecord)
    (pacsDb : PublishedAudioCapabilities) : (registerAt hdl pacRecs pacsDb).length = pacsDb.length := by
  induction pacsDb with
  | nil => rfl
  | cons t rest ih =>
    unfold registerAt
    split
    · rfl
    · simp [ih]

/-- A characteristic loop that fails has added to the database: the characteristic it failed on
is pushed before its records are read, and nothing takes it out. By induction on the
characteristics still to read. -/
theorem pacEntriesLoop_false_length (input : List UInt8) :
    ∀ (count : Nat) (pacsDb : PublishedAudioCapabilities) (pos : Nat)
      (pacsDb' : PublishedAudioCapabilities),
      pacEntriesLoop input count pacsDb pos = (false, pacsDb') → pacsDb.length < pacsDb'.length := by
  intro count
  induction count with
  | zero =>
    intro pacsDb pos pacsDb' h
    simp [pacEntriesLoop] at h
  | succ count ih =>
    intro pacsDb pos pacsDb' h
    rw [pacEntriesLoop] at h
    split at h
    · -- a record of this characteristic does not parse
      simp only [Prod.mk.injEq, true_and] at h
      rw [← h, List.length_append]
      simp
    · have hlt := ih _ _ _ h
      rw [length_registerAt, List.length_append] at hlt
      simp only [List.length_cons, List.length_nil] at hlt
      omega

/-- What a `deserializePacs` that fails leaves: the database as it was where a check of the header
fails, and a longer one where a record fails. -/
theorem deserializePacs_false {pacsDb pacsDb' : PublishedAudioCapabilities} {input : List UInt8}
    (h : deserializePacs pacsDb input = (false, pacsDb')) :
    pacsDb' = pacsDb ∨ pacsDb.length < pacsDb'.length := by
  unfold deserializePacs at h
  dsimp only at h
  split_ifs at h
  · exact .inl (Prod.mk.inj h).2.symm
  · exact .inl (Prod.mk.inj h).2.symm
  · exact .inl (Prod.mk.inj h).2.symm
  · exact .inr (pacEntriesLoop_false_length input _ _ _ _ h)

/-- Two stored blobs of one characteristic with one record, each ten bytes, which is all the
length checks ask. In the first the record's size byte is zero: `ParseSinglePac` refuses it and
`deserializePacs` returns `false` with the characteristic already in the database. In the second
the record claims seven bytes of which two are stored: the checks pass and the loop reads the
record's fields past the end, so what follows the blob in memory decides the outcome, here a
metadata length of 5 that fails the record, again with the characteristic left in the
database. -/
theorem deserializePacs_partial_overread :
    deserializePacs [] [0, 1, 1, 0, 2, 0, 1, 0, 0, 0] = (false, [(⟨1, 2⟩, [])]) ∧
      deserializePacs [] [0, 1, 1, 0, 2, 0, 1, 7, 0, 0] =
        pacEntriesLoop [0, 1, 1, 0, 2, 0, 1, 7, 0, 0] 1 [] 2 ∧
      (pacEntriesLoop [0, 1, 1, 0, 2, 0, 1, 7, 0, 0] 1 [] 2).1 = true ∧
      pacEntriesLoop ([0, 1, 1, 0, 2, 0, 1, 7, 0, 0] ++ [0, 0, 0, 0, 5]) 1 [] 2 =
        (false, [(⟨1, 2⟩, [])]) :=
  ⟨by decide, by decide, by decide, by decide⟩

/-! ## ASEs and handles read back -/

/-- The ASEs, read one after the other and added after those of the device. By induction on the
ASEs still to read. -/
theorem aseLoop_flatMap (rest : List UInt8) (todo : List Ase) :
    ∀ (pre : List UInt8) (acc : List Ase),
      aseLoop (pre ++ todo.flatMap aseBytes ++ rest) todo.length acc pre.length = acc ++ todo := by
  induction todo with
  | nil => intro pre acc; simp [aseLoop]
  | cons a todo ih =>
    intro pre acc
    generalize hmem : pre ++ (a :: todo).flatMap aseBytes ++ rest = mem
    have hval : streamToU16 mem pre.length = a.hdls.valHdl := by
      rw [streamToU16_eq_drop]
      simp [← hmem, aseBytes]
    have hccc : streamToU16 mem (pre.length + 2) = a.hdls.cccHdl := by
      rw [streamToU16_eq_drop]
      simp [← hmem, aseBytes, List.drop_append, List.drop_eq_nil_of_le]
    have hid : streamToUint8 mem (pre.length + 4) = a.id := by
      simp [← hmem, aseBytes, streamToUint8, List.getElem?_append_right]
    have hdir : streamToUint8 mem (pre.length + 5) = a.direction := by
      simp [← hmem, aseBytes, streamToUint8, List.getElem?_append_right]
    have hnext : pre.length + 6 = (pre ++ aseBytes a).length := by simp [aseBytes]
    have hrest : mem = (pre ++ aseBytes a) ++ todo.flatMap aseBytes ++ rest := by simp [← hmem]
    rw [List.length_cons, aseLoop]
    simp only [hval, hccc, hid, hdir]
    rw [hnext, hrest, ih]
    simp

/-- `SerializeAses` of 1 to 255 ASEs: the magic, their number and the ASEs. -/
theorem serializeAses_eq {ases : List Ase} (hpos : 0 < ases.length) (hle : ases.length ≤ 255) :
    serializeAses ases = some ([leaudioAseStorageCurrentLayoutMagic, UInt8.ofNat ases.length] ++
      ases.flatMap aseBytes) := by
  have hlen : ([leaudioAseStorageCurrentLayoutMagic, UInt8.ofNat ases.length] ++
      ases.flatMap aseBytes).length =
        leaudioStorageHeaderWithEntriesSz + ases.length * leaudioAsesEntrySz := by
    simp [aseBytes, leaudioStorageHeaderWithEntriesSz, leaudioAsesEntrySz, List.length_flatMap]
    omega
  rw [serializeAses, if_neg (by omega)]
  dsimp only
  rw [store_zero_of_length (by rw [hlen, List.length_replicate])]

/-- What `SerializeAses` stores, `DeserializeAses` adds back after the ASEs of the device. -/
theorem ases_roundTrip {ases : List Ase} (hpos : 0 < ases.length) (hle : ases.length ≤ 255)
    (old : List Ase) :
    ∃ bytes, serializeAses ases = some bytes ∧ deserializeAses old bytes = (true, old ++ ases) := by
  refine ⟨_, serializeAses_eq hpos hle, ?_⟩
  have hlen : ([leaudioAseStorageCurrentLayoutMagic, UInt8.ofNat ases.length] ++
      ases.flatMap aseBytes).length = 2 + ases.length * 6 := by
    simp [aseBytes, List.length_flatMap]
    omega
  have hnum : (streamToUint8 ([leaudioAseStorageCurrentLayoutMagic, UInt8.ofNat ases.length] ++
      ases.flatMap aseBytes) 1).toNat = ases.length := by
    simp [streamToUint8, toNat_ofNat_of_lt (by omega : ases.length < 256)]
  have hrun := aseLoop_flatMap [] ases [leaudioAseStorageCurrentLayoutMagic,
    UInt8.ofNat ases.length] old
  simp only [List.append_nil, List.length_cons, List.length_nil] at hrun
  unfold deserializeAses
  rw [hlen, hnum, if_neg (by unfold leaudioStorageHeaderWithEntriesSz leaudioAsesEntrySz; omega),
    if_neg (by simp [streamToUint8]),
    if_neg (by unfold leaudioStorageHeaderWithEntriesSz leaudioAsesEntrySz; omega)]
  exact congrArg (Prod.mk true) hrun

/-- What `SerializeHandles` stores, `DeserializeHandles` reads back as the same handles, and the
device's handles are then known. -/
theorem handles_roundTrip {d : ServiceHandles} (hctp : d.ctpHdls.valHdl ≠ 0 ∧ d.ctpHdls.cccHdl ≠ 0)
    (d' : ServiceHandles) :
    ∃ bytes, serializeHandles d = some bytes ∧
      deserializeHandles d' bytes = (true, { d with knownServiceHandles := true }) := by
  have hbytes : serializeHandles d = some (leaudioHandlesStorageCurrentLayoutMagic :: handlesBytes d) := by
    rw [serializeHandles, if_neg (by simpa using hctp),
      store_zero_of_length (by simp [handlesBytes, leaudioStorageHandlesEntriesSz])]
  refine ⟨_, hbytes, ?_⟩
  unfold deserializeHandles
  rw [if_neg (by simp [handlesBytes, leaudioStorageHandlesEntriesSz]),
    if_neg (by simp [streamToUint8]), streamToU16_eq_drop _ 1, streamToU16_eq_drop _ 3,
    streamToU16_eq_drop _ 5, streamToU16_eq_drop _ 7, streamToU16_eq_drop _ 9,
    streamToU16_eq_drop _ 11, streamToU16_eq_drop _ 13, streamToU16_eq_drop _ 15,
    streamToU16_eq_drop _ 17, streamToU16_eq_drop _ 19, streamToU16_eq_drop _ 21]
  simp [handlesBytes, List.drop_append, List.drop_eq_nil_of_le]

/-! ## The three stores of a device -/

/-- What the storage keeps of a device reads back: the capabilities into an empty database under
the hypotheses of `pacs_roundTrip`, the ASEs after those the device has, and the handles whenever
`SerializeHandles` stored them. -/
theorem leAudioStorage_roundTrip (pacs : PublishedAudioCapabilities) (ases old : List Ase)
    (d d' : ServiceHandles) (hpacs : 0 < pacs.length ∧ pacs.length ≤ 255)
    (hrecs : ∀ t ∈ pacs, t.2.length ≤ 255 ∧ ∀ pac ∈ t.2, pacLen pac ≤ 256)
    (hdistinct : (pacs.map fun t => t.1.valHdl).Nodup)
    (hroom : leaudioStorageHeaderWithEntriesSz + pacs.length * leaudioPacsEntrySz ≤ pacBinSize pacs)
    (hases : 0 < ases.length ∧ ases.length ≤ 255)
    (hctp : d.ctpHdls.valHdl ≠ 0 ∧ d.ctpHdls.cccHdl ≠ 0) :
    (∃ bytes, serializePacs pacs = some bytes ∧ deserializePacs [] bytes = (true, pacs)) ∧
    (∃ bytes, serializeAses ases = some bytes ∧ deserializeAses old bytes = (true, old ++ ases)) ∧
    ∃ bytes, serializeHandles d = some bytes ∧
      deserializeHandles d' bytes = (true, { d with knownServiceHandles := true }) :=
  ⟨pacs_roundTrip hpacs.1 hpacs.2 hrecs hdistinct hroom, ases_roundTrip hases.1 hases.2 old,
    handles_roundTrip hctp d'⟩

/-- A device with one capability record without capabilities or metadata, one ASE and its control
point handles. -/
theorem leAudioStorage_roundTrip_oneRecord :
    (0 < ([(⟨1, 2⟩, [⟨⟨6, 0, 0⟩, LtvMap.empty, []⟩])] : PublishedAudioCapabilities).length ∧
      ([(⟨1, 2⟩, [⟨⟨6, 0, 0⟩, LtvMap.empty, []⟩])] : PublishedAudioCapabilities).length ≤ 255) ∧
    (∀ t ∈ ([(⟨1, 2⟩, [⟨⟨6, 0, 0⟩, LtvMap.empty, []⟩])] : PublishedAudioCapabilities),
      t.2.length ≤ 255 ∧ ∀ pac ∈ t.2, pacLen pac ≤ 256) ∧
    (([(⟨1, 2⟩, [⟨⟨6, 0, 0⟩, LtvMap.empty, []⟩])] : PublishedAudioCapabilities).map
      fun t => t.1.valHdl).Nodup ∧
    leaudioStorageHeaderWithEntriesSz + 1 * leaudioPacsEntrySz ≤
      pacBinSize [(⟨1, 2⟩, [⟨⟨6, 0, 0⟩, LtvMap.empty, []⟩])] ∧
    (0 < [(⟨⟨3, 4⟩, 1, 0⟩ : Ase)].length ∧ [(⟨⟨3, 4⟩, 1, 0⟩ : Ase)].length ≤ 255) ∧
    ((⟨5, 6⟩ : HdlPair).valHdl ≠ 0 ∧ (⟨5, 6⟩ : HdlPair).cccHdl ≠ 0) ∧
    ((∃ bytes, serializePacs [(⟨1, 2⟩, [⟨⟨6, 0, 0⟩, LtvMap.empty, []⟩])] = some bytes ∧
        deserializePacs [] bytes = (true, [(⟨1, 2⟩, [⟨⟨6, 0, 0⟩, LtvMap.empty, []⟩])])) ∧
      (∃ bytes, serializeAses [⟨⟨3, 4⟩, 1, 0⟩] = some bytes ∧
        deserializeAses [] bytes = (true, [] ++ [⟨⟨3, 4⟩, 1, 0⟩])) ∧
      ∃ bytes, serializeHandles ⟨⟨5, 6⟩, ⟨0, 0⟩, ⟨0, 0⟩, ⟨0, 0⟩, ⟨0, 0⟩, 0, false⟩ = some bytes ∧
        deserializeHandles ⟨⟨5, 6⟩, ⟨0, 0⟩, ⟨0, 0⟩, ⟨0, 0⟩, ⟨0, 0⟩, 0, false⟩ bytes =
          (true, ⟨⟨5, 6⟩, ⟨0, 0⟩, ⟨0, 0⟩, ⟨0, 0⟩, ⟨0, 0⟩, 0, true⟩)) :=
  ⟨⟨by decide, by decide⟩, by decide, by decide, by decide, ⟨by decide, by decide⟩,
    ⟨by decide, by decide⟩,
    leAudioStorage_roundTrip [(⟨1, 2⟩, [⟨⟨6, 0, 0⟩, LtvMap.empty, []⟩])] [⟨⟨3, 4⟩, 1, 0⟩] []
      ⟨⟨5, 6⟩, ⟨0, 0⟩, ⟨0, 0⟩, ⟨0, 0⟩, ⟨0, 0⟩, 0, false⟩
      ⟨⟨5, 6⟩, ⟨0, 0⟩, ⟨0, 0⟩, ⟨0, 0⟩, ⟨0, 0⟩, 0, false⟩
      ⟨by decide, by decide⟩ (by decide) (by decide) (by decide) ⟨by decide, by decide⟩
      ⟨by decide, by decide⟩⟩

end BluetoothStack.LeAudio
