import BluetoothStack.LeAudio.Storage
import BluetoothStack.Gatt.Client

/-!
# PDUs of the ASE Control Point

`PrepareAseCtpCodecConfig`, `PrepareAseCtpConfigQos`, `PrepareAseCtpEnable` and
`PrepareAseCtpUpdateMetadata` (bta/le_audio/client_parser.cc) build the value the client writes
to the ASE Control Point: the opcode, the number of ASEs and one entry per ASE. Each computes the
size first, resizes the value to it and writes the entries through a pointer; the model writes
the entries into a buffer of the computed size (`store`), as `serializePacs` does. Enable and
Update Metadata differ only in their opcode and are one definition, `prepareAseCtpMetadataPdu`.

What holds of every PDU they build: the size computed is that of what is written
(`prepareAseCtpCodecConfig_eq`, `prepareAseCtpConfigQos_eq`, `prepareAseCtpMetadataPdu_eq`), and
every per-ASE length octet holds the length of what follows it. What does not: the codec and QoS
configurations write the number of ASEs into one octet and check no size, and the two metadata
PDUs compare the size with `GATT_MAX_ATTR_LEN` before they add the metadata of each ASE, so the
last ASE's metadata may take the PDU past it (`ascsCtp_exceeds_gattMaxAttrLen`).
-/

namespace BluetoothStack.LeAudio

open Bytes

/-! ## Data -/

/-- `kCtpOpcodeCodecConfiguration`. -/
def kCtpOpcodeCodecConfiguration : UInt8 := 0x01
/-- `kCtpOpcodeQosConfiguration`. -/
def kCtpOpcodeQosConfiguration : UInt8 := 0x02
/-- `kCtpOpcodeEnable`. -/
def kCtpOpcodeEnable : UInt8 := 0x03
/-- `kCtpOpcodeUpdateMetadata`. -/
def kCtpOpcodeUpdateMetadata : UInt8 := 0x07
/-- `kCtpOpSize`. -/
def kCtpOpSize : Nat := 1
/-- `kAseNumSize`. -/
def kAseNumSize : Nat := 1
/-- `kCtpCodecConfMinLen`: an entry of the codec configuration without its LTVs. -/
def kCtpCodecConfMinLen : Nat := 9
/-- `kCtpQosConfMinLen`. -/
def kCtpQosConfMinLen : Nat := 16
/-- `kCtpEnableMinLen`: an entry of Enable without its metadata. -/
def kCtpEnableMinLen : Nat := 2
/-- `kCtpUpdateMetadataMinLen`. -/
def kCtpUpdateMetadataMinLen : Nat := 2

/-- `codec_spec_conf::kLeAudioCodecLC3TypeSamplingFreq`. -/
def kLeAudioCodecLC3TypeSamplingFreq : UInt8 := 0x01
/-- `codec_spec_conf::kLeAudioCodecLC3TypeFrameDuration`. -/
def kLeAudioCodecLC3TypeFrameDuration : UInt8 := 0x02
/-- `codec_spec_conf::kLeAudioCodecLC3TypeAudioChannelAllocation`. -/
def kLeAudioCodecLC3TypeAudioChannelAllocation : UInt8 := 0x03
/-- `codec_spec_conf::kLeAudioCodecLC3TypeOctetPerFrame`. -/
def kLeAudioCodecLC3TypeOctetPerFrame : UInt8 := 0x04
/-- `codec_spec_conf::kLeAudioCodecLC3TypeCodecFrameBlocksPerSdu`. -/
def kLeAudioCodecLC3TypeCodecFrameBlocksPerSdu : UInt8 := 0x05

/-- `LeAudioLc3Config`, with the fields `GetAsLtvMap` reads. -/
structure LeAudioLc3Config where
  samplingFrequency : Option UInt8
  frameDuration : Option UInt8
  audioChannelAllocation : Option UInt32
  octetsPerCodecFrame : Option UInt16
  codecFramesBlocksPerSdu : Option UInt8

/-- `values[type] = value` where the field is set. -/
def assignIf (m : LtvMap) (type : UInt8) : Option (List UInt8) → LtvMap
  | some value => m.assign type value
  | none => m

/-- `LeAudioLc3Config::GetAsLtvMap`: one entry per field that is set, the 16 and 32-bit ones
in the host's (little-endian) byte order. -/
def getAsLtvMap (c : LeAudioLc3Config) : LtvMap :=
  let m := assignIf LtvMap.empty kLeAudioCodecLC3TypeSamplingFreq (c.samplingFrequency.map ([·]))
  let m := assignIf m kLeAudioCodecLC3TypeFrameDuration (c.frameDuration.map ([·]))
  let m := assignIf m kLeAudioCodecLC3TypeAudioChannelAllocation
    (c.audioChannelAllocation.map fun v => leBytes 4 v.toNat)
  let m := assignIf m kLeAudioCodecLC3TypeOctetPerFrame
    (c.octetsPerCodecFrame.map fun v => leBytes 2 v.toNat)
  assignIf m kLeAudioCodecLC3TypeCodecFrameBlocksPerSdu (c.codecFramesBlocksPerSdu.map ([·]))

/-- `ctp_codec_conf`. -/
structure CtpCodecConf where
  aseId : UInt8
  targetLatency : UInt8
  targetPhy : UInt8
  codecId : CodecId
  codecConfig : LeAudioLc3Config

/-- `ctp_qos_conf`. -/
structure CtpQosConf where
  aseId : UInt8
  cig : UInt8
  cis : UInt8
  sduInterval : UInt32
  framing : UInt8
  phy : UInt8
  maxSdu : UInt16
  retransNb : UInt8
  maxTransportLatency : UInt16
  presDelay : UInt32

/-- `ctp_enable`; `ctp_update_metadata` has the same fields. -/
structure CtpEnable where
  aseId : UInt8
  metadata : List UInt8

/-- `ctp_update_metadata`. -/
abbrev CtpUpdateMetadata := CtpEnable

/-! ## Codec Configuration -/

/-- What `PrepareAseCtpCodecConfig` writes for one ASE. -/
def codecConfBytes (conf : CtpCodecConf) : List UInt8 :=
  [conf.aseId, conf.targetLatency, conf.targetPhy, conf.codecId.codingFormat] ++
    u16Bytes conf.codecId.vendorCompanyId ++ u16Bytes conf.codecId.vendorCodecId ++
    [UInt8.ofNat (getAsLtvMap conf.codecConfig).rawPacketSize] ++
    (getAsLtvMap conf.codecConfig).rawPacket

/-- `PrepareAseCtpCodecConfig`: the size accumulated over the ASEs, then the PDU written into a
value of that size. -/
def prepareAseCtpCodecConfig (confs : List CtpCodecConf) : Option (List UInt8) :=
  if confs.length = 0 then none
  else
    let msgLen := confs.foldl (fun curLen conf => curLen + (getAsLtvMap conf.codecConfig).rawPacketSize)
      (confs.length * kCtpCodecConfMinLen + kAseNumSize + kCtpOpSize)
    some (store 0 ([kCtpOpcodeCodecConfiguration, UInt8.ofNat confs.length] ++
      confs.flatMap codecConfBytes) (List.replicate msgLen 0))

/-! ## QoS Configuration -/

/-- What `PrepareAseCtpConfigQos` writes for one ASE; `UINT24_TO_STREAM` keeps the low three
bytes. -/
def qosConfBytes (conf : CtpQosConf) : List UInt8 :=
  [conf.aseId, conf.cig, conf.cis] ++ leBytes 3 conf.sduInterval.toNat ++ [conf.framing, conf.phy] ++
    u16Bytes conf.maxSdu ++ [conf.retransNb] ++ u16Bytes conf.maxTransportLatency ++
    leBytes 3 conf.presDelay.toNat

/-- `PrepareAseCtpConfigQos`. -/
def prepareAseCtpConfigQos (confs : List CtpQosConf) : Option (List UInt8) :=
  if confs.length = 0 then none
  else
    some (store 0 ([kCtpOpcodeQosConfiguration, UInt8.ofNat confs.length] ++
      confs.flatMap qosConfBytes)
      (List.replicate (confs.length * kCtpQosConfMinLen + kAseNumSize + kCtpOpSize) 0))

/-! ## Enable and Update Metadata -/

/-- What Enable and Update Metadata write for one ASE: its id, the length of its metadata and
the metadata. -/
def metadataEntryBytes (conf : CtpEnable) : List UInt8 :=
  [conf.aseId, UInt8.ofNat conf.metadata.length] ++ conf.metadata

/-- The size loop of Enable and Update Metadata over the `uint16_t` `msg_len`: each ASE is
refused if the size so far is above `GATT_MAX_ATTR_LEN` or its metadata above 255 bytes, and
then its metadata is added. -/
def metadataMsgLen (msgLen : Nat) : List CtpEnable → Option Nat
  | [] => some msgLen
  | conf :: confs =>
    if msgLen > Gatt.gattMaxAttrLen then none
    else if conf.metadata.length > 255 then none
    else metadataMsgLen ((msgLen + conf.metadata.length) % 65536) confs

/-- `PrepareAseCtpEnable` and `PrepareAseCtpUpdateMetadata`, with their opcode and entry
size. -/
def prepareAseCtpMetadataPdu (opcode : UInt8) (minLen : Nat) (confs : List CtpEnable) :
    Option (List UInt8) :=
  if confs.length = 0 then none
  else if confs.length > 255 then none
  else
    match metadataMsgLen ((confs.length * minLen + kAseNumSize + kCtpOpSize) % 65536) confs with
    | none => none
    | some msgLen =>
      some (store 0 ([opcode, UInt8.ofNat confs.length] ++ confs.flatMap metadataEntryBytes)
        (List.replicate msgLen 0))

/-- `PrepareAseCtpEnable`. -/
def prepareAseCtpEnable (confs : List CtpEnable) : Option (List UInt8) :=
  prepareAseCtpMetadataPdu kCtpOpcodeEnable kCtpEnableMinLen confs

/-- `PrepareAseCtpUpdateMetadata`. -/
def prepareAseCtpUpdateMetadata (confs : List CtpUpdateMetadata) : Option (List UInt8) :=
  prepareAseCtpMetadataPdu kCtpOpcodeUpdateMetadata kCtpUpdateMetadataMinLen confs

/-! ## The size computed is the size written -/

@[simp] theorem length_codecConfBytes (conf : CtpCodecConf) :
    (codecConfBytes conf).length = kCtpCodecConfMinLen + (getAsLtvMap conf.codecConfig).rawPacketSize := by
  simp [codecConfBytes, LtvMap.length_rawPacket, kCtpCodecConfMinLen]
  omega

@[simp] theorem length_qosConfBytes (conf : CtpQosConf) :
    (qosConfBytes conf).length = kCtpQosConfMinLen := by
  simp [qosConfBytes, kCtpQosConfMinLen]

@[simp] theorem length_metadataEntryBytes (conf : CtpEnable) :
    (metadataEntryBytes conf).length = kCtpEnableMinLen + conf.metadata.length := by
  simp [metadataEntryBytes, kCtpEnableMinLen]
  omega

/-- `std::accumulate` of sizes adds them to the initial value. -/
theorem foldl_add_sum {α : Type} (f : α → Nat) (l : List α) (init : Nat) :
    l.foldl (fun n x => n + f x) init = init + (l.map f).sum := by
  induction l generalizing init with
  | nil => simp
  | cons x l ih =>
    rw [List.foldl_cons, ih, List.map_cons, List.sum_cons]
    omega

/-- `PrepareAseCtpCodecConfig` of ASEs: the opcode, their number and their entries, in a value of
the size it accumulated. -/
theorem prepareAseCtpCodecConfig_eq {confs : List CtpCodecConf} (h : confs ≠ []) :
    prepareAseCtpCodecConfig confs = some ([kCtpOpcodeCodecConfiguration, UInt8.ofNat confs.length] ++
      confs.flatMap codecConfBytes) := by
  rw [prepareAseCtpCodecConfig, if_neg (by simpa using h)]
  dsimp only
  rw [foldl_add_sum, store_zero_of_length]
  simp [List.length_flatMap, List.sum_map_add, kAseNumSize, kCtpOpSize]
  omega

/-- `PrepareAseCtpConfigQos` of ASEs: the opcode, their number and their entries. -/
theorem prepareAseCtpConfigQos_eq {confs : List CtpQosConf} (h : confs ≠ []) :
    prepareAseCtpConfigQos confs = some ([kCtpOpcodeQosConfiguration, UInt8.ofNat confs.length] ++
      confs.flatMap qosConfBytes) := by
  rw [prepareAseCtpConfigQos, if_neg (by simpa using h), store_zero_of_length]
  simp [List.length_flatMap, kAseNumSize, kCtpOpSize]

/-- What the size loop of Enable and Update Metadata computes: the size so far and all the
metadata, each at most 255 bytes; and at most `GATT_MAX_ATTR_LEN` and one more metadata, since
the size is checked before each ASE's metadata is added. By induction on the ASEs; the check
keeps the `uint16_t` from wrapping. -/
theorem metadataMsgLen_some (confs : List CtpEnable) :
    ∀ {msgLen msgLen' : Nat}, metadataMsgLen msgLen confs = some msgLen' →
      msgLen' = msgLen + (confs.map fun c => c.metadata.length).sum ∧
        (∀ c ∈ confs, c.metadata.length ≤ 255) ∧
        (confs ≠ [] → msgLen' ≤ Gatt.gattMaxAttrLen + 255) := by
  induction confs with
  | nil =>
    intro msgLen msgLen' h
    simp only [metadataMsgLen, Option.some.injEq] at h
    simp [h]
  | cons conf confs ih =>
    intro msgLen msgLen' h
    rw [metadataMsgLen] at h
    split_ifs at h with hmax hmeta
    obtain ⟨hsum, hle, hbound⟩ := ih h
    have hwrap : (msgLen + conf.metadata.length) % 65536 = msgLen + conf.metadata.length := by
      unfold Gatt.gattMaxAttrLen at hmax
      exact Nat.mod_eq_of_lt (by omega)
    rw [hwrap] at hsum
    refine ⟨by simp [hsum]; omega, fun c hc => ?_, fun _ => ?_⟩
    · rcases List.mem_cons.1 hc with rfl | hc
      · omega
      · exact hle c hc
    · -- the last ASE adds its metadata after the last check
      cases confs with
      | nil => simp only [List.map_nil, List.sum_nil] at hsum; omega
      | cons _ _ => exact hbound (List.cons_ne_nil _ _)

/-- Enable and Update Metadata build the opcode, the number of ASEs and their entries, in a value
of the size they computed, whenever the size loop goes through. -/
theorem prepareAseCtpMetadataPdu_of_msgLen {opcode : UInt8} {minLen msgLen : Nat}
    {confs : List CtpEnable} (hmin : minLen = kCtpEnableMinLen) (hpos : 0 < confs.length)
    (hle : confs.length ≤ 255)
    (hlen : metadataMsgLen ((confs.length * minLen + kAseNumSize + kCtpOpSize) % 65536) confs =
      some msgLen) :
    prepareAseCtpMetadataPdu opcode minLen confs =
      some ([opcode, UInt8.ofNat confs.length] ++ confs.flatMap metadataEntryBytes) := by
  obtain ⟨hsum, -, -⟩ := metadataMsgLen_some confs hlen
  rw [prepareAseCtpMetadataPdu, if_neg (by omega), if_neg (by omega), hlen]
  dsimp only
  rw [store_zero_of_length]
  rw [hsum, hmin, Nat.mod_eq_of_lt (by unfold kCtpEnableMinLen kAseNumSize kCtpOpSize; omega)]
  simp [List.length_flatMap, List.sum_map_add, kAseNumSize, kCtpOpSize]
  omega

/-- What Enable and Update Metadata build when they succeed: the opcode, between 1 and 255 ASEs
and their entries, each length octet the length of the metadata after it, in at most
`GATT_MAX_ATTR_LEN` bytes and one more metadata. -/
theorem prepareAseCtpMetadataPdu_eq {opcode : UInt8} {minLen : Nat} {confs : List CtpEnable}
    {value : List UInt8} (hmin : minLen = kCtpEnableMinLen)
    (h : prepareAseCtpMetadataPdu opcode minLen confs = some value) :
    value = [opcode, UInt8.ofNat confs.length] ++ confs.flatMap metadataEntryBytes ∧
      0 < confs.length ∧ confs.length ≤ 255 ∧
      (∀ c ∈ confs, (UInt8.ofNat c.metadata.length).toNat = c.metadata.length) ∧
      value.length ≤ Gatt.gattMaxAttrLen + 255 := by
  have hcases := h
  rw [prepareAseCtpMetadataPdu] at hcases
  split_ifs at hcases with hzero hmany
  split at hcases
  · cases hcases
  · rename_i msgLen hlen
    obtain ⟨hsum, hmeta, hbound⟩ := metadataMsgLen_some confs hlen
    rw [prepareAseCtpMetadataPdu_of_msgLen hmin (by omega) (by omega) hlen, Option.some.injEq] at h
    subst h
    refine ⟨rfl, by omega, by omega, fun c hc => toNat_ofNat_of_lt (by have := hmeta c hc; omega), ?_⟩
    -- the bytes written are the size computed
    have hwritten : ([opcode, UInt8.ofNat confs.length] ++ confs.flatMap metadataEntryBytes).length =
        msgLen := by
      rw [hsum, hmin, Nat.mod_eq_of_lt (by unfold kCtpEnableMinLen kAseNumSize kCtpOpSize; omega)]
      simp [List.length_flatMap, List.sum_map_add, kAseNumSize, kCtpOpSize]
      omega
    rw [hwritten]
    exact hbound (List.ne_nil_of_length_pos (by omega))

/-! ## The length octets of the codec configuration -/

/-- A field set adds its triple, of a value of at most `n` bytes. -/
theorem rawPacketSize_assignIf_map_le {α : Type} (m : LtvMap) (type : UInt8) (o : Option α)
    (f : α → List UInt8) {n : Nat} (hf : ∀ x, (f x).length ≤ n) :
    (assignIf m type (o.map f)).rawPacketSize ≤ m.rawPacketSize + (2 + n) := by
  cases o with
  | none => simp only [Option.map_none, assignIf]; omega
  | some x =>
    have hle := m.rawPacketSize_assign_le type (f x)
    have hx := hf x
    simp only [Option.map_some, assignIf]
    omega

/-- The LTVs of an LC3 configuration take at most 19 bytes: five fields of at most four bytes,
each with its length and type. -/
theorem rawPacketSize_getAsLtvMap_le (c : LeAudioLc3Config) : (getAsLtvMap c).rawPacketSize ≤ 19 := by
  unfold getAsLtvMap
  dsimp only
  generalize hm1 : assignIf LtvMap.empty kLeAudioCodecLC3TypeSamplingFreq
    (c.samplingFrequency.map ([·])) = m1
  generalize hm2 : assignIf m1 kLeAudioCodecLC3TypeFrameDuration (c.frameDuration.map ([·])) = m2
  generalize hm3 : assignIf m2 kLeAudioCodecLC3TypeAudioChannelAllocation
    (c.audioChannelAllocation.map fun v => leBytes 4 v.toNat) = m3
  generalize hm4 : assignIf m3 kLeAudioCodecLC3TypeOctetPerFrame
    (c.octetsPerCodecFrame.map fun v => leBytes 2 v.toNat) = m4
  -- one bound per field, from the empty map up
  have h1 := hm1 ▸ rawPacketSize_assignIf_map_le LtvMap.empty kLeAudioCodecLC3TypeSamplingFreq
    c.samplingFrequency ([·]) (n := 1) fun _ => Nat.le_refl _
  have h2 := hm2 ▸ rawPacketSize_assignIf_map_le m1 kLeAudioCodecLC3TypeFrameDuration
    c.frameDuration ([·]) (n := 1) fun _ => Nat.le_refl _
  have h3 := hm3 ▸ rawPacketSize_assignIf_map_le m2 kLeAudioCodecLC3TypeAudioChannelAllocation
    c.audioChannelAllocation (fun v => leBytes 4 v.toNat) (n := 4) fun _ => by simp
  have h4 := hm4 ▸ rawPacketSize_assignIf_map_le m3 kLeAudioCodecLC3TypeOctetPerFrame
    c.octetsPerCodecFrame (fun v => leBytes 2 v.toNat) (n := 2) fun _ => by simp
  have h5 := rawPacketSize_assignIf_map_le m4 kLeAudioCodecLC3TypeCodecFrameBlocksPerSdu
    c.codecFramesBlocksPerSdu ([·]) (n := 1) fun _ => Nat.le_refl _
  have hempty : LtvMap.empty.rawPacketSize = 0 := rfl
  omega

/-- The length octet of each ASE's configuration holds the length of the LTVs after it. -/
theorem codecConfLenOctet (conf : CtpCodecConf) :
    (UInt8.ofNat (getAsLtvMap conf.codecConfig).rawPacketSize).toNat =
      (getAsLtvMap conf.codecConfig).rawPacket.length := by
  rw [LtvMap.length_rawPacket]
  exact toNat_ofNat_of_lt (by have := rawPacketSize_getAsLtvMap_le conf.codecConfig; omega)

/-! ## PDUs past the limits -/

/-- Three PDUs the encoders build and that break the bounds of the control point. Enable with
two ASEs of 255 bytes of metadata: the size is checked at 6 and at 261 bytes, before each
metadata, and the PDU takes 516 bytes, past `GATT_MAX_ATTR_LEN`. A QoS and a codec
configuration of 256 ASEs: no size is checked, the PDUs take 4098 and 2306 bytes, and their
Number_of_ASEs octet is 0. -/
theorem ascsCtp_exceeds_gattMaxAttrLen :
    (∃ value, prepareAseCtpEnable [⟨1, List.replicate 255 0⟩, ⟨2, List.replicate 255 0⟩] =
        some value ∧ value.length = 516 ∧ Gatt.gattMaxAttrLen < value.length) ∧
      (∃ value, prepareAseCtpConfigQos (List.replicate 256 ⟨1, 0, 0, 0, 0, 0, 0, 0, 0, 0⟩) =
        some value ∧ value.length = 4098 ∧ value[1]? = some 0) ∧
      (∃ value, prepareAseCtpCodecConfig
          (List.replicate 256 ⟨1, 0, 0, ⟨6, 0, 0⟩, ⟨none, none, none, none, none⟩⟩) =
        some value ∧ value.length = 2306 ∧ value[1]? = some 0) := by
  have hempty : (getAsLtvMap ⟨none, none, none, none, none⟩).rawPacketSize = 0 := rfl
  have hcount : UInt8.ofNat 256 = 0 := rfl
  -- the size loop of Enable: 6 bytes, then 261, then 516
  have hloop : metadataMsgLen ((2 * kCtpEnableMinLen + kAseNumSize + kCtpOpSize) % 65536)
      [⟨1, List.replicate 255 0⟩, ⟨2, List.replicate 255 0⟩] = some 516 := by
    simp only [metadataMsgLen, List.length_replicate, Gatt.gattMaxAttrLen, kCtpEnableMinLen,
      kAseNumSize, kCtpOpSize]
    decide
  have hne (n : Nat) {α : Type} (a : α) : List.replicate (n + 1) a ≠ [] := by
    simp only [List.replicate_succ, ne_eq, reduceCtorEq, not_false_eq_true]
  refine ⟨⟨_, prepareAseCtpMetadataPdu_of_msgLen rfl Nat.two_pos
      (by simp only [List.length_cons, List.length_nil]; omega) hloop,
      ?_, ?_⟩, ⟨_, prepareAseCtpConfigQos_eq (hne 255 _), ?_, ?_⟩,
    ⟨_, prepareAseCtpCodecConfig_eq (hne 255 _), ?_, ?_⟩⟩
  · simp only [List.length_append, List.length_cons, List.length_nil, List.flatMap_cons,
      List.flatMap_nil, length_metadataEntryBytes, List.length_replicate, kCtpEnableMinLen]
  · simp only [List.length_append, List.length_cons, List.length_nil, List.flatMap_cons,
      List.flatMap_nil, length_metadataEntryBytes, List.length_replicate, kCtpEnableMinLen,
      Gatt.gattMaxAttrLen]
    decide
  · simp only [List.length_append, List.length_cons, List.length_nil, List.length_flatMap,
      length_qosConfBytes, List.map_replicate, List.sum_replicate_nat, kCtpQosConfMinLen]
  · simp only [List.length_replicate, hcount, List.cons_append, List.getElem?_cons_succ,
      List.getElem?_cons_zero]
  · simp only [List.length_append, List.length_cons, List.length_nil, List.length_flatMap,
      length_codecConfBytes, hempty, List.map_replicate, List.sum_replicate_nat,
      kCtpCodecConfMinLen]
  · simp only [List.length_replicate, hcount, List.cons_append, List.getElem?_cons_succ,
      List.getElem?_cons_zero]

end BluetoothStack.LeAudio
