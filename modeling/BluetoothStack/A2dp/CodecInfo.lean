import BluetoothStack.Lib.Bits

/-!
# Codec information elements of SBC and AAC

`A2DP_BuildInfoSbc` and `A2DP_BuildInfoAac` (stack/a2dp/a2dp_sbc.cc, a2dp_aac.cc) write a codec's
Media Codec Capabilities from the LOSC octet on. `A2DP_ParseInfoSbc` and `A2DP_ParseInfoAac`
read them back into a codec information element (CIE) and check it as a capability or as a
configuration. Several fields share an octet: the encoders or them together and the decoders
mask them apart.

The fields keep their C types (`uint8_t`, `uint16_t`, `uint32_t`). The AAC coder computes in
`int`, which the model does in `Nat` before the narrowing casts; no value there comes near the
range of `int`. A builder returns its status together with the bytes it wrote, so a refusal
halfway through shows what it left in the buffer. A parser returns its status together with the
element as it left it: a field it had not reached keeps its old value. Bytes are read with
`getD _ 0`, as a zero-initialised codec information array would give them.

The SBC builder checks every field before it writes, and `parseInfoSbc_buildInfoSbc_eq` reads
every element it accepts back. The AAC builder checks a field only when it reaches it, and
`parseInfoAac_buildInfoAac_eq` reads back every element whose three checked fields are non-zero.
-/

namespace BluetoothStack.A2dp

/-- The status codes the codec builders and parsers return (stack/include/a2dp_error_codes.h). -/
inductive A2dpStatus where
  | success
  | invalidParams
  | wrongCodec
  | badSampFreq
  | badChMode
  | badSubbands
  | badAllocMethod
  | badMinBitpool
  | badMaxBitpool
  | badBlockLen
  | badObjType
  deriving DecidableEq, Repr

/-- `AVDT_MEDIA_TYPE_AUDIO`. -/
def avdtMediaTypeAudio : UInt8 := 0

/-- `A2DP_MEDIA_CT_SBC`, the Media Codec Type of SBC. -/
def a2dpMediaCtSbc : UInt8 := 0x00

/-- `A2DP_MEDIA_CT_AAC`. -/
def a2dpMediaCtAac : UInt8 := 0x02

/-- `A2DP_SET_ZERO_BIT`: all bits clear. -/
def a2dpSetZeroBit : UInt8 := 0

/-- `A2DP_SET_ONE_BIT`: one and only one bit set. -/
def a2dpSetOneBit : UInt8 := 1

/-- `A2DP_SET_MULTL_BIT`: several bits set. -/
def a2dpSetMultlBit : UInt8 := 2

/-- `A2DP_BitsSet` (stack/a2dp/a2dp_api.cc): whether no, one or several bits of `num` are set. -/
def a2dpBitsSet (num : Nat) : UInt8 :=
  if num = 0 then a2dpSetZeroBit
  else if num &&& (num - 1) = 0 then a2dpSetOneBit
  else a2dpSetMultlBit

/-- The bit-count check of a parser: a capability needs some bit set in a field, a
configuration exactly one. -/
def bitsSetOk (isCapability : Bool) (bits : UInt8) : Bool :=
  if isCapability then bits != a2dpSetZeroBit else bits == a2dpSetOneBit

/-- The bit-count checks that end both parsers: the status of the first field, in the order the
source checks them, whose `A2DP_BitsSet` fails the check. -/
def checkBitsSet (isCapability : Bool) : List (Nat × A2dpStatus) → A2dpStatus
  | [] => .success
  | (num, err) :: rest =>
    if bitsSetOk isCapability (a2dpBitsSet num) then checkBitsSet isCapability rest else err

/-! ## SBC -/

/-- `A2DP_SBC_INFO_LEN`, the LOSC of SBC. -/
def a2dpSbcInfoLen : UInt8 := 6

/-- `A2DP_SBC_IE_SAMP_FREQ_MSK`: bits 7-4 of the first octet. -/
def a2dpSbcIeSampFreqMsk : UInt8 := 0xF0

/-- `A2DP_SBC_IE_CH_MD_MSK`: bits 3-0 of the first octet. -/
def a2dpSbcIeChMdMsk : UInt8 := 0x0F

/-- `A2DP_SBC_IE_BLOCKS_MSK`: bits 7-4 of the second octet. -/
def a2dpSbcIeBlocksMsk : UInt8 := 0xF0

/-- `A2DP_SBC_IE_SUBBAND_MSK`: bits 3-2 of the second octet. -/
def a2dpSbcIeSubbandMsk : UInt8 := 0x0C

/-- `A2DP_SBC_IE_ALLOC_MD_MSK`: bits 1-0 of the second octet. -/
def a2dpSbcIeAllocMdMsk : UInt8 := 0x03

/-- `A2DP_SBC_IE_MIN_BITPOOL`. -/
def a2dpSbcIeMinBitpool : UInt8 := 2

/-- `A2DP_SBC_IE_MAX_BITPOOL`. -/
def a2dpSbcIeMaxBitpool : UInt8 := 250

/-- `tA2DP_SBC_CIE`: the seven fields carried over the air and the bits per sample, which only
the encoder uses (`btav_a2dp_codec_bits_per_sample_t`, a bit mask). -/
structure A2dpSbcCie where
  sampFreq : UInt8
  chMode : UInt8
  blockLen : UInt8
  numSubbands : UInt8
  allocMethod : UInt8
  minBitpool : UInt8
  maxBitpool : UInt8
  bitsPerSample : Nat
  deriving DecidableEq, Repr

/-- `A2DP_BuildInfoSbc`: refuse a field with a bit outside its mask or a bitpool range outside
`[A2DP_SBC_IE_MIN_BITPOOL, A2DP_SBC_IE_MAX_BITPOOL]`, else write the seven octets. -/
def buildInfoSbc (mediaType : UInt8) (ie : A2dpSbcCie) : A2dpStatus × List UInt8 :=
  if ie.sampFreq &&& ~~~a2dpSbcIeSampFreqMsk ≠ 0 ∨ ie.chMode &&& ~~~a2dpSbcIeChMdMsk ≠ 0 ∨
      ie.blockLen &&& ~~~a2dpSbcIeBlocksMsk ≠ 0 ∨
      ie.numSubbands &&& ~~~a2dpSbcIeSubbandMsk ≠ 0 ∨
      ie.allocMethod &&& ~~~a2dpSbcIeAllocMdMsk ≠ 0 ∨ ie.minBitpool > ie.maxBitpool ∨
      ie.minBitpool < a2dpSbcIeMinBitpool ∨ ie.minBitpool > a2dpSbcIeMaxBitpool ∨
      ie.maxBitpool < a2dpSbcIeMinBitpool ∨ ie.maxBitpool > a2dpSbcIeMaxBitpool then
    (.invalidParams, [])
  else
    (.success, [a2dpSbcInfoLen, mediaType <<< 4, a2dpMediaCtSbc, ie.sampFreq ||| ie.chMode,
      ie.blockLen ||| ie.numSubbands ||| ie.allocMethod, ie.minBitpool, ie.maxBitpool])

/-- The checks of `A2DP_ParseInfoSbc` after it has filled the element: the bitpools, then the
bit count of each field. -/
def checkInfoSbc (ie : A2dpSbcCie) (isCapability : Bool) : A2dpStatus :=
  if ie.minBitpool < a2dpSbcIeMinBitpool ∨ ie.minBitpool > a2dpSbcIeMaxBitpool then
    .badMinBitpool
  else if ie.maxBitpool < a2dpSbcIeMinBitpool ∨ ie.maxBitpool > a2dpSbcIeMaxBitpool ∨
      ie.maxBitpool < ie.minBitpool then
    .badMaxBitpool
  else
    checkBitsSet isCapability [(ie.sampFreq.toNat, .badSampFreq), (ie.chMode.toNat, .badChMode),
      (ie.blockLen.toNat, .badBlockLen), (ie.numSubbands.toNat, .badSubbands),
      (ie.allocMethod.toNat, .badAllocMethod)]

/-- `A2DP_ParseInfoSbc`: check the LOSC, the media type and the codec type, mask the fields out
of their octets into `ie`, then check them. -/
def parseInfoSbc (ie : A2dpSbcCie) (codecInfo : List UInt8) (isCapability : Bool) :
    A2dpStatus × A2dpSbcCie :=
  if codecInfo.getD 0 0 ≠ a2dpSbcInfoLen then (.wrongCodec, ie)
  else if codecInfo.getD 1 0 >>> 4 ≠ avdtMediaTypeAudio ∨ codecInfo.getD 2 0 ≠ a2dpMediaCtSbc then
    (.wrongCodec, ie)
  else
    let ie := { ie with
      sampFreq := codecInfo.getD 3 0 &&& a2dpSbcIeSampFreqMsk
      chMode := codecInfo.getD 3 0 &&& a2dpSbcIeChMdMsk
      blockLen := codecInfo.getD 4 0 &&& a2dpSbcIeBlocksMsk
      numSubbands := codecInfo.getD 4 0 &&& a2dpSbcIeSubbandMsk
      allocMethod := codecInfo.getD 4 0 &&& a2dpSbcIeAllocMdMsk
      minBitpool := codecInfo.getD 5 0
      maxBitpool := codecInfo.getD 6 0 }
    (checkInfoSbc ie isCapability, ie)

/-! ## AAC -/

/-- `A2DP_AAC_CODEC_LEN`, the LOSC of AAC. -/
def a2dpAacCodecLen : UInt8 := 8

/-- `A2DP_AAC_SAMPLING_FREQ_MASK0`: the rates 8000 to 44100, octet 1. -/
def a2dpAacSamplingFreqMask0 : Nat := 0xFF

/-- `A2DP_AAC_SAMPLING_FREQ_MASK1`: the rates 48000 to 96000, bits 7-4 of octet 2, at their
place in the 16-bit `sampleRate`. -/
def a2dpAacSamplingFreqMask1 : Nat := 0xF0 <<< 8

/-- `A2DP_AAC_CHANNEL_MODE_MASK`: bits 3-2 of octet 2. -/
def a2dpAacChannelModeMask : Nat := 0x0C

/-- `A2DP_AAC_VARIABLE_BIT_RATE_MASK`: bit 7 of octet 3. -/
def a2dpAacVariableBitRateMask : Nat := 0x80

/-- `A2DP_AAC_BIT_RATE_MASK0`: bits 22-16 of the bit rate, in bits 6-0 of octet 3. -/
def a2dpAacBitRateMask0 : Nat := 0x7F <<< 16

/-- `A2DP_AAC_BIT_RATE_MASK1`: bits 15-8 of the bit rate, octet 4. -/
def a2dpAacBitRateMask1 : Nat := 0xFF <<< 8

/-- `A2DP_AAC_BIT_RATE_MASK2`: bits 7-0 of the bit rate, octet 5. -/
def a2dpAacBitRateMask2 : Nat := 0xFF

/-- `tA2DP_AAC_CIE`: the five fields carried over the air and the bits per sample. -/
structure A2dpAacCie where
  objectType : UInt8
  sampleRate : UInt16
  channelMode : UInt8
  variableBitRateSupport : UInt8
  bitRate : UInt32
  bitsPerSample : Nat
  deriving DecidableEq, Repr

/-- `A2DP_BuildInfoAac`: the header first, then each field, refusing an object type, a sampling
frequency or a channel mode of zero when it comes to it, with what it wrote so far left in the
buffer. The channel mode is or-ed into the octet of the high sampling frequencies, and the
variable bit rate flag into the octet of the high bits of the bit rate. -/
def buildInfoAac (mediaType : UInt8) (ie : A2dpAacCie) : A2dpStatus × List UInt8 :=
  let header := [a2dpAacCodecLen, mediaType <<< 4, a2dpMediaCtAac]
  if ie.objectType = 0 then (.invalidParams, header)
  else
    let header := header ++ [ie.objectType]
    if ie.sampleRate = 0 then (.invalidParams, header)
    else
      let freq0 := UInt8.ofNat (ie.sampleRate.toNat &&& a2dpAacSamplingFreqMask0)
      let freq1 := UInt8.ofNat ((ie.sampleRate.toNat &&& a2dpAacSamplingFreqMask1) >>> 8)
      if ie.channelMode = 0 then (.invalidParams, header ++ [freq0, freq1])
      else
        let octet2 := freq1 ||| UInt8.ofNat (ie.channelMode.toNat &&& a2dpAacChannelModeMask)
        let octet3 := UInt8.ofNat (ie.variableBitRateSupport.toNat &&& a2dpAacVariableBitRateMask) |||
          UInt8.ofNat ((ie.bitRate.toNat &&& a2dpAacBitRateMask0) >>> 16)
        let octet4 := UInt8.ofNat ((ie.bitRate.toNat &&& a2dpAacBitRateMask1) >>> 8)
        let octet5 := UInt8.ofNat (ie.bitRate.toNat &&& a2dpAacBitRateMask2)
        (.success, header ++ [freq0, octet2, octet3, octet4, octet5])

/-- `A2DP_ParseInfoAac`: check the LOSC, the media type and the codec type, read the fields into
`ie`, then check the bit counts of the object type, the sampling frequency and the channel mode. -/
def parseInfoAac (ie : A2dpAacCie) (codecInfo : List UInt8) (isCapability : Bool) :
    A2dpStatus × A2dpAacCie :=
  if codecInfo.getD 0 0 ≠ a2dpAacCodecLen then (.wrongCodec, ie)
  else if codecInfo.getD 1 0 >>> 4 ≠ avdtMediaTypeAudio ∨ codecInfo.getD 2 0 ≠ a2dpMediaCtAac then
    (.wrongCodec, ie)
  else
    let octet (i : Nat) := (codecInfo.getD i 0).toNat
    let ie := { ie with
      objectType := codecInfo.getD 3 0
      sampleRate := UInt16.ofNat ((octet 4 &&& a2dpAacSamplingFreqMask0) |||
        (octet 5 <<< 8 &&& a2dpAacSamplingFreqMask1))
      channelMode := UInt8.ofNat (octet 5 &&& a2dpAacChannelModeMask)
      variableBitRateSupport := UInt8.ofNat (octet 6 &&& a2dpAacVariableBitRateMask)
      bitRate := UInt32.ofNat ((octet 6 <<< 16 &&& a2dpAacBitRateMask0) |||
        (octet 7 <<< 8 &&& a2dpAacBitRateMask1) ||| (octet 8 &&& a2dpAacBitRateMask2)) }
    (checkBitsSet isCapability [(ie.objectType.toNat, .badObjType),
      (ie.sampleRate.toNat, .badSampFreq), (ie.channelMode.toNat, .badChMode)], ie)

/-! ## The bit counts -/

/-- How many bits a field may set: at least one in a capability, exactly one in a
configuration. -/
def FieldRule (isCapability : Bool) (num : Nat) : Prop :=
  if isCapability then num ≠ 0 else num.isPowerOfTwo

instance (isCapability : Bool) (num : Nat) : Decidable (FieldRule isCapability num) :=
  inferInstanceAs (Decidable (if isCapability then num ≠ 0 else num.isPowerOfTwo))

theorem a2dpBitsSet_eq_zeroBit_iff (num : Nat) : a2dpBitsSet num = a2dpSetZeroBit ↔ num = 0 := by
  by_cases h0 : num = 0
  · simp [a2dpBitsSet, h0]
  · have hone : a2dpSetOneBit ≠ a2dpSetZeroBit := by simp [a2dpSetOneBit, a2dpSetZeroBit]
    have hmany : a2dpSetMultlBit ≠ a2dpSetZeroBit := by simp [a2dpSetMultlBit, a2dpSetZeroBit]
    unfold a2dpBitsSet
    split_ifs <;> simp_all

/-- `A2DP_BitsSet` finds one bit exactly in the powers of two. -/
theorem a2dpBitsSet_eq_oneBit_iff (num : Nat) : a2dpBitsSet num = a2dpSetOneBit ↔ num.isPowerOfTwo := by
  rw [← Nat.ne_zero_and_sub_one_eq_zero_iff_isPowerOfTwo]
  have hzero : a2dpSetZeroBit ≠ a2dpSetOneBit := by simp [a2dpSetZeroBit, a2dpSetOneBit]
  have hmany : a2dpSetMultlBit ≠ a2dpSetOneBit := by simp [a2dpSetMultlBit, a2dpSetOneBit]
  unfold a2dpBitsSet
  split_ifs <;> simp_all

theorem bitsSetOk_a2dpBitsSet (isCapability : Bool) (num : Nat) :
    bitsSetOk isCapability (a2dpBitsSet num) = true ↔ FieldRule isCapability num := by
  cases isCapability with
  | true => simp [bitsSetOk, FieldRule, a2dpBitsSet_eq_zeroBit_iff]
  | false => simp [bitsSetOk, FieldRule, a2dpBitsSet_eq_oneBit_iff]

/-- The bit-count checks pass exactly when every field follows the rule. By induction on the
fields; no field's status is a success. -/
theorem checkBitsSet_eq_success_iff (isCapability : Bool) (fields : List (Nat × A2dpStatus))
    (herr : ∀ f ∈ fields, f.2 ≠ .success) :
    checkBitsSet isCapability fields = .success ↔ ∀ f ∈ fields, FieldRule isCapability f.1 := by
  induction fields with
  | nil => simp [checkBitsSet]
  | cons f fields ih =>
    obtain ⟨num, err⟩ := f
    have herr' : err ≠ .success := herr _ List.mem_cons_self
    rw [checkBitsSet, List.forall_mem_cons, ← bitsSetOk_a2dpBitsSet,
      ← ih fun f hf => herr f (List.mem_cons_of_mem _ hf)]
    by_cases hok : bitsSetOk isCapability (a2dpBitsSet num) <;> simp [hok, herr']

/-! ## The SBC element read back -/

/-- The rule of the five SBC fields. -/
def A2dpSbcCie.FollowsRule (isCapability : Bool) (ie : A2dpSbcCie) : Prop :=
  FieldRule isCapability ie.sampFreq.toNat ∧ FieldRule isCapability ie.chMode.toNat ∧
    FieldRule isCapability ie.blockLen.toNat ∧ FieldRule isCapability ie.numSubbands.toNat ∧
    FieldRule isCapability ie.allocMethod.toNat

instance (isCapability : Bool) (ie : A2dpSbcCie) : Decidable (ie.FollowsRule isCapability) :=
  inferInstanceAs (Decidable (_ ∧ _))

/-- The elements `A2DP_BuildInfoSbc` accepts: every field under its mask, both bitpools in
range and the minimum at most the maximum. -/
def A2dpSbcCie.Buildable (ie : A2dpSbcCie) : Prop :=
  ie.sampFreq &&& ~~~a2dpSbcIeSampFreqMsk = 0 ∧ ie.chMode &&& ~~~a2dpSbcIeChMdMsk = 0 ∧
    ie.blockLen &&& ~~~a2dpSbcIeBlocksMsk = 0 ∧ ie.numSubbands &&& ~~~a2dpSbcIeSubbandMsk = 0 ∧
    ie.allocMethod &&& ~~~a2dpSbcIeAllocMdMsk = 0 ∧ a2dpSbcIeMinBitpool ≤ ie.minBitpool ∧
    ie.minBitpool ≤ ie.maxBitpool ∧ ie.maxBitpool ≤ a2dpSbcIeMaxBitpool

instance (ie : A2dpSbcCie) : Decidable ie.Buildable := inferInstanceAs (Decidable (_ ∧ _))

/-- What `A2DP_BuildInfoSbc` does: it accepts exactly the buildable elements and then writes
their seven octets. -/
theorem buildInfoSbc_eq (mediaType : UInt8) (ie : A2dpSbcCie) :
    buildInfoSbc mediaType ie =
      if ie.Buildable then
        (.success, [a2dpSbcInfoLen, mediaType <<< 4, a2dpMediaCtSbc, ie.sampFreq ||| ie.chMode,
          ie.blockLen ||| ie.numSubbands ||| ie.allocMethod, ie.minBitpool, ie.maxBitpool])
      else (.invalidParams, []) := by
  unfold buildInfoSbc
  by_cases hb : ie.Buildable
  · rw [if_pos hb, if_neg]
    obtain ⟨h1, h2, h3, h4, h5, h6, h7, h8⟩ := hb
    rw [UInt8.le_iff_toNat_le] at h6 h7 h8
    simp only [h1, h2, h3, h4, h5, ne_eq, not_true_eq_false, false_or, gt_iff_lt,
      UInt8.lt_iff_toNat_lt]
    omega
  · rw [if_neg hb, if_pos]
    by_contra hc
    simp only [not_or, not_not, gt_iff_lt, UInt8.lt_iff_toNat_lt, Nat.not_lt] at hc
    obtain ⟨h1, h2, h3, h4, h5, h6, h7, h8, h9, h10⟩ := hc
    exact hb ⟨h1, h2, h3, h4, h5, UInt8.le_iff_toNat_le.2 h7, UInt8.le_iff_toNat_le.2 h6,
      UInt8.le_iff_toNat_le.2 h10⟩

/-- The octet of the sampling frequency and the channel mode gives both back. -/
theorem sbcOctet0_fields {ie : A2dpSbcCie} (hb : ie.Buildable) :
    (ie.sampFreq ||| ie.chMode) &&& a2dpSbcIeSampFreqMsk = ie.sampFreq ∧
      (ie.sampFreq ||| ie.chMode) &&& a2dpSbcIeChMdMsk = ie.chMode := by
  obtain ⟨h1, h2, -⟩ := hb
  rw [Bits.or_and_distrib, Bits.or_and_distrib, Bits.and_eq_self_of_and_not h1,
    Bits.and_eq_self_of_and_not h2, Bits.and_eq_zero_of_and_not h1 rfl,
    Bits.and_eq_zero_of_and_not h2 rfl]
  exact ⟨UInt8.or_zero, UInt8.zero_or⟩

/-- The octet of the block length, the subbands and the allocation method gives the three
back. -/
theorem sbcOctet1_fields {ie : A2dpSbcCie} (hb : ie.Buildable) :
    (ie.blockLen ||| ie.numSubbands ||| ie.allocMethod) &&& a2dpSbcIeBlocksMsk = ie.blockLen ∧
      (ie.blockLen ||| ie.numSubbands ||| ie.allocMethod) &&& a2dpSbcIeSubbandMsk =
        ie.numSubbands ∧
      (ie.blockLen ||| ie.numSubbands ||| ie.allocMethod) &&& a2dpSbcIeAllocMdMsk =
        ie.allocMethod := by
  obtain ⟨-, -, h3, h4, h5, -⟩ := hb
  simp only [Bits.or_and_distrib, Bits.and_eq_self_of_and_not h3, Bits.and_eq_self_of_and_not h4,
    Bits.and_eq_self_of_and_not h5, Bits.and_eq_zero_of_and_not h3 (n := a2dpSbcIeSubbandMsk) rfl,
    Bits.and_eq_zero_of_and_not h3 (n := a2dpSbcIeAllocMdMsk) rfl,
    Bits.and_eq_zero_of_and_not h4 (n := a2dpSbcIeBlocksMsk) rfl,
    Bits.and_eq_zero_of_and_not h4 (n := a2dpSbcIeAllocMdMsk) rfl,
    Bits.and_eq_zero_of_and_not h5 (n := a2dpSbcIeBlocksMsk) rfl,
    Bits.and_eq_zero_of_and_not h5 (n := a2dpSbcIeSubbandMsk) rfl, UInt8.or_zero, UInt8.zero_or]
  exact ⟨trivial, trivial, trivial⟩

/-- `A2DP_ParseInfoSbc` reads back what `A2DP_BuildInfoSbc` wrote for an audio element: the seven
fields go into the element it fills, whose bits per sample it leaves. -/
theorem parseInfoSbc_buildInfoSbc_eq {ie : A2dpSbcCie} (hb : ie.Buildable) (ie0 : A2dpSbcCie)
    (isCapability : Bool) :
    parseInfoSbc ie0 (buildInfoSbc avdtMediaTypeAudio ie).2 isCapability =
      (checkInfoSbc { ie with bitsPerSample := ie0.bitsPerSample } isCapability,
        { ie with bitsPerSample := ie0.bitsPerSample }) := by
  obtain ⟨hfreq, hmode⟩ := sbcOctet0_fields hb
  obtain ⟨hblocks, hsubbands, halloc⟩ := sbcOctet1_fields hb
  rw [buildInfoSbc_eq, if_pos hb]
  -- the LOSC, the media type and the codec type pass
  have hlosc : ¬ a2dpSbcInfoLen ≠ a2dpSbcInfoLen := not_not.2 rfl
  have htype : ¬ ((avdtMediaTypeAudio <<< 4) >>> 4 ≠ avdtMediaTypeAudio ∨
      a2dpMediaCtSbc ≠ a2dpMediaCtSbc) := by
    simp [avdtMediaTypeAudio]
  simp only [parseInfoSbc, List.getD_cons_zero, List.getD_cons_succ, hlosc, htype, if_false,
    hfreq, hmode, hblocks, hsubbands, halloc]

/-- With the bitpools of a buildable element, the checks of `A2DP_ParseInfoSbc` pass exactly
when the element follows the rule. -/
theorem checkInfoSbc_eq_success_iff {ie : A2dpSbcCie} (hb : ie.Buildable) (isCapability : Bool) :
    checkInfoSbc ie isCapability = .success ↔ ie.FollowsRule isCapability := by
  obtain ⟨-, -, -, -, -, h6, h7, h8⟩ := hb
  rw [UInt8.le_iff_toNat_le] at h6 h7 h8
  have hmin : ¬ (ie.minBitpool < a2dpSbcIeMinBitpool ∨ ie.minBitpool > a2dpSbcIeMaxBitpool) := by
    simp only [gt_iff_lt, UInt8.lt_iff_toNat_lt]
    omega
  have hmax : ¬ (ie.maxBitpool < a2dpSbcIeMinBitpool ∨ ie.maxBitpool > a2dpSbcIeMaxBitpool ∨
      ie.maxBitpool < ie.minBitpool) := by
    simp only [gt_iff_lt, UInt8.lt_iff_toNat_lt]
    omega
  rw [checkInfoSbc, if_neg hmin, if_neg hmax, checkBitsSet_eq_success_iff _ _ (by simp)]
  simp [A2dpSbcCie.FollowsRule]

/-! ## The AAC octets as arithmetic

Each AAC mask is a run of ones, so masking is division and remainder by powers of two, and the
or-ed fields of an octet lie in disjoint runs, so or-ing them is adding them. -/

@[simp] theorem and_a2dpAacSamplingFreqMask0 (x : Nat) : x &&& a2dpAacSamplingFreqMask0 = x % 256 :=
  Nat.and_two_pow_sub_one_eq_mod x 8

@[simp] theorem and_a2dpAacSamplingFreqMask1 (x : Nat) :
    x &&& a2dpAacSamplingFreqMask1 = x / 4096 % 16 * 4096 :=
  Bits.and_field x 4 12

@[simp] theorem and_a2dpAacChannelModeMask (x : Nat) : x &&& a2dpAacChannelModeMask = x / 4 % 4 * 4 :=
  Bits.and_field x 2 2

@[simp] theorem and_a2dpAacVariableBitRateMask (x : Nat) :
    x &&& a2dpAacVariableBitRateMask = x / 128 % 2 * 128 :=
  Bits.and_field x 1 7

@[simp] theorem and_a2dpAacBitRateMask0 (x : Nat) :
    x &&& a2dpAacBitRateMask0 = x / 65536 % 128 * 65536 :=
  Bits.and_field x 7 16

@[simp] theorem and_a2dpAacBitRateMask1 (x : Nat) : x &&& a2dpAacBitRateMask1 = x / 256 % 256 * 256 :=
  Bits.and_field x 8 8

@[simp] theorem and_a2dpAacBitRateMask2 (x : Nat) : x &&& a2dpAacBitRateMask2 = x % 256 :=
  Nat.and_two_pow_sub_one_eq_mod x 8

/-- The two masks of the sampling frequency keep bits 7-0 and 15-12. -/
theorem and_a2dpAacSamplingFreqMasks (x : Nat) :
    x &&& (a2dpAacSamplingFreqMask0 ||| a2dpAacSamplingFreqMask1) =
      x % 256 + x / 4096 % 16 * 4096 := by
  rw [Nat.and_or_distrib_left, and_a2dpAacSamplingFreqMask0, and_a2dpAacSamplingFreqMask1]
  exact Bits.or_eq_add_of_lt (k := 8) (by omega) (by omega)

/-- The octets `A2DP_BuildInfoAac` writes when the three fields it checks are non-zero, as
arithmetic on the fields. -/
theorem buildInfoAac_eq (mediaType : UInt8) {ie : A2dpAacCie} (hobj : ie.objectType ≠ 0)
    (hrate : ie.sampleRate ≠ 0) (hmode : ie.channelMode ≠ 0) :
    buildInfoAac mediaType ie = (.success, [a2dpAacCodecLen, mediaType <<< 4, a2dpMediaCtAac,
      ie.objectType, UInt8.ofNat (ie.sampleRate.toNat % 256),
      UInt8.ofNat (ie.sampleRate.toNat / 4096 % 16 * 16 + ie.channelMode.toNat / 4 % 4 * 4),
      UInt8.ofNat (ie.variableBitRateSupport.toNat / 128 % 2 * 128 +
        ie.bitRate.toNat / 65536 % 128),
      UInt8.ofNat (ie.bitRate.toNat / 256 % 256), UInt8.ofNat (ie.bitRate.toNat % 256)]) := by
  -- the high sampling frequencies and the channel mode share octet 2
  have hoctet2 : UInt8.ofNat ((ie.sampleRate.toNat &&& a2dpAacSamplingFreqMask1) >>> 8) |||
      UInt8.ofNat (ie.channelMode.toNat &&& a2dpAacChannelModeMask) =
      UInt8.ofNat (ie.sampleRate.toNat / 4096 % 16 * 16 + ie.channelMode.toNat / 4 % 4 * 4) := by
    have hfreq : (ie.sampleRate.toNat &&& a2dpAacSamplingFreqMask1) >>> 8 =
        ie.sampleRate.toNat / 4096 % 16 * 16 := by
      rw [and_a2dpAacSamplingFreqMask1, Nat.shiftRight_eq_div_pow]
      omega
    rw [hfreq, and_a2dpAacChannelModeMask]
    exact Bits.ofNat_or_ofNat (k := 4) (by omega) (by omega) (by omega)
  -- the variable bit rate flag and the high bits of the bit rate share octet 3
  have hoctet3 : UInt8.ofNat (ie.variableBitRateSupport.toNat &&& a2dpAacVariableBitRateMask) |||
      UInt8.ofNat ((ie.bitRate.toNat &&& a2dpAacBitRateMask0) >>> 16) =
      UInt8.ofNat (ie.variableBitRateSupport.toNat / 128 % 2 * 128 +
        ie.bitRate.toNat / 65536 % 128) := by
    have hhigh : (ie.bitRate.toNat &&& a2dpAacBitRateMask0) >>> 16 =
        ie.bitRate.toNat / 65536 % 128 := by
      rw [and_a2dpAacBitRateMask0, Nat.shiftRight_eq_div_pow]
      omega
    rw [hhigh, and_a2dpAacVariableBitRateMask]
    exact Bits.ofNat_or_ofNat (k := 7) (by omega) (by omega) (by omega)
  have hoctet4 : (ie.bitRate.toNat &&& a2dpAacBitRateMask1) >>> 8 = ie.bitRate.toNat / 256 % 256 := by
    rw [and_a2dpAacBitRateMask1, Nat.shiftRight_eq_div_pow]
    omega
  simp only [buildInfoAac, hobj, hrate, hmode, if_false, hoctet2, hoctet3, hoctet4,
    and_a2dpAacSamplingFreqMask0, and_a2dpAacBitRateMask2, List.cons_append, List.nil_append]

/-- The 23 bits of the bit rate from their three octets. -/
theorem aacBitRate_octets {r : Nat} (hr : r < 2 ^ 23) :
    r / 65536 % 128 * 65536 ||| r / 256 % 256 * 256 ||| r % 256 = r := by
  have hupper : r / 65536 % 128 * 65536 ||| r / 256 % 256 * 256 =
      r / 65536 % 128 * 65536 + r / 256 % 256 * 256 :=
    Bits.or_eq_add (k := 16) (by omega) (by omega)
  rw [hupper, Bits.or_eq_add (k := 8) (by omega) (by omega)]
  omega

/-- The fields `A2DP_ParseInfoAac` reads from octets of the shape `A2DP_BuildInfoAac` writes:
the sampling frequency from octets 1 and 2, the channel mode from octet 2, the variable bit
rate flag from octet 3 and the bit rate from octets 3 to 5. -/
theorem aacOctets_fields {s c v r : Nat} (hs : s % 256 + s / 4096 % 16 * 4096 = s)
    (hc : c / 4 % 4 * 4 = c) (hv : v / 128 % 2 * 128 = v) (hr : r < 2 ^ 23) :
    ((s % 256 &&& a2dpAacSamplingFreqMask0) |||
        ((s / 4096 % 16 * 16 + c / 4 % 4 * 4) <<< 8 &&& a2dpAacSamplingFreqMask1)) = s ∧
      (s / 4096 % 16 * 16 + c / 4 % 4 * 4) &&& a2dpAacChannelModeMask = c ∧
      (v / 128 % 2 * 128 + r / 65536 % 128) &&& a2dpAacVariableBitRateMask = v ∧
      ((v / 128 % 2 * 128 + r / 65536 % 128) <<< 16 &&& a2dpAacBitRateMask0) |||
          ((r / 256 % 256) <<< 8 &&& a2dpAacBitRateMask1) ||| (r % 256 &&& a2dpAacBitRateMask2) =
        r := by
  simp only [and_a2dpAacSamplingFreqMask0, and_a2dpAacSamplingFreqMask1,
    and_a2dpAacChannelModeMask, and_a2dpAacVariableBitRateMask, and_a2dpAacBitRateMask0,
    and_a2dpAacBitRateMask1, and_a2dpAacBitRateMask2, Nat.shiftLeft_eq]
  refine ⟨?_, by omega, by omega, ?_⟩
  · rw [Bits.or_eq_add_of_lt (k := 8) (by omega) (by omega)]
    omega
  · -- octet 3 gives bits 22-16 under its mask, octets 4 and 5 the rest
    rw [show (v / 128 % 2 * 128 + r / 65536 % 128) * 2 ^ 16 / 65536 % 128 * 65536 =
        r / 65536 % 128 * 65536 by omega,
      show r / 256 % 256 * 2 ^ 8 / 256 % 256 * 256 = r / 256 % 256 * 256 by omega, Nat.mod_mod]
    exact aacBitRate_octets hr

/-- `A2DP_ParseInfoAac` reads back what `A2DP_BuildInfoAac` wrote for an audio element whose
object type, sampling frequency and channel mode are non-zero and whose fields lie under their
masks: the five fields go into the element it fills, whose bits per sample it leaves. -/
theorem parseInfoAac_buildInfoAac_eq {ie : A2dpAacCie} (hobj : ie.objectType ≠ 0)
    (hrate : ie.sampleRate ≠ 0) (hmode : ie.channelMode ≠ 0)
    (hrateMask : ie.sampleRate.toNat &&& (a2dpAacSamplingFreqMask0 ||| a2dpAacSamplingFreqMask1) =
      ie.sampleRate.toNat)
    (hmodeMask : ie.channelMode.toNat &&& a2dpAacChannelModeMask = ie.channelMode.toNat)
    (hvbrMask : ie.variableBitRateSupport.toNat &&& a2dpAacVariableBitRateMask =
      ie.variableBitRateSupport.toNat)
    (hbitRate : ie.bitRate.toNat < 2 ^ 23) (ie0 : A2dpAacCie) (isCapability : Bool) :
    parseInfoAac ie0 (buildInfoAac avdtMediaTypeAudio ie).2 isCapability =
      (checkBitsSet isCapability [(ie.objectType.toNat, .badObjType),
          (ie.sampleRate.toNat, .badSampFreq), (ie.channelMode.toNat, .badChMode)],
        { ie with bitsPerSample := ie0.bitsPerSample }) := by
  rw [and_a2dpAacSamplingFreqMasks] at hrateMask
  rw [and_a2dpAacChannelModeMask] at hmodeMask
  rw [and_a2dpAacVariableBitRateMask] at hvbrMask
  obtain ⟨hfreq, hchannel, hvbr, hrateBits⟩ := aacOctets_fields hrateMask hmodeMask hvbrMask hbitRate
  -- every octet written is below 256, so it reads back as written
  have hrate16 := ie.sampleRate.toNat_lt
  have hmode8 := ie.channelMode.toNat_lt
  have hvbr8 := ie.variableBitRateSupport.toNat_lt
  have h4 : (UInt8.ofNat (ie.sampleRate.toNat % 256)).toNat = ie.sampleRate.toNat % 256 := by
    rw [UInt8.toNat_ofNat']
    omega
  have h5 : (UInt8.ofNat (ie.sampleRate.toNat / 4096 % 16 * 16 + ie.channelMode.toNat / 4 % 4 * 4)).toNat =
      ie.sampleRate.toNat / 4096 % 16 * 16 + ie.channelMode.toNat / 4 % 4 * 4 := by
    rw [UInt8.toNat_ofNat']
    omega
  have h6 : (UInt8.ofNat (ie.variableBitRateSupport.toNat / 128 % 2 * 128 +
      ie.bitRate.toNat / 65536 % 128)).toNat =
      ie.variableBitRateSupport.toNat / 128 % 2 * 128 + ie.bitRate.toNat / 65536 % 128 := by
    rw [UInt8.toNat_ofNat']
    omega
  have h7 : (UInt8.ofNat (ie.bitRate.toNat / 256 % 256)).toNat = ie.bitRate.toNat / 256 % 256 := by
    rw [UInt8.toNat_ofNat']
    omega
  have h8 : (UInt8.ofNat (ie.bitRate.toNat % 256)).toNat = ie.bitRate.toNat % 256 := by
    rw [UInt8.toNat_ofNat']
    omega
  have hlosc : ¬ a2dpAacCodecLen ≠ a2dpAacCodecLen := not_not.2 rfl
  have htype : ¬ ((avdtMediaTypeAudio <<< 4) >>> 4 ≠ avdtMediaTypeAudio ∨
      a2dpMediaCtAac ≠ a2dpMediaCtAac) := by
    simp [avdtMediaTypeAudio]
  rw [buildInfoAac_eq _ hobj hrate hmode]
  simp only [parseInfoAac, List.getD_cons_zero, List.getD_cons_succ, hlosc, htype, if_false, h4, h5,
    h6, h7, h8, hfreq, hchannel, hvbr, hrateBits, UInt16.ofNat_toNat, UInt8.ofNat_toNat,
    UInt32.ofNat_toNat]

/-- The rule of the three AAC fields the parser checks. -/
def A2dpAacCie.FollowsRule (isCapability : Bool) (ie : A2dpAacCie) : Prop :=
  FieldRule isCapability ie.objectType.toNat ∧ FieldRule isCapability ie.sampleRate.toNat ∧
    FieldRule isCapability ie.channelMode.toNat

instance (isCapability : Bool) (ie : A2dpAacCie) : Decidable (ie.FollowsRule isCapability) :=
  inferInstanceAs (Decidable (_ ∧ _))

/-- `A2DP_BuildInfoAac` succeeds exactly when the object type, the sampling frequency and the
channel mode are non-zero. -/
theorem buildInfoAac_eq_success_iff (mediaType : UInt8) (ie : A2dpAacCie) :
    (buildInfoAac mediaType ie).1 = .success ↔
      ie.objectType ≠ 0 ∧ ie.sampleRate ≠ 0 ∧ ie.channelMode ≠ 0 := by
  by_cases hobj : ie.objectType = 0
  · simp [buildInfoAac, hobj]
  by_cases hrate : ie.sampleRate = 0
  · simp [buildInfoAac, hobj, hrate]
  by_cases hmode : ie.channelMode = 0
  · simp [buildInfoAac, hobj, hrate, hmode]
  simp [buildInfoAac_eq mediaType hobj hrate hmode, hobj, hrate, hmode]

/-! ## The round trips -/

/-- A sampling frequency of zero lies under its masks, yet `A2DP_BuildInfoAac` refuses it after
writing four octets. What a parser then reads from the buffer past them is not the element:
with zeros there, the channel mode, the variable bit rate flag and the bit rate are lost. -/
theorem buildInfoAac_zero_sampleRate_lost :
    buildInfoAac avdtMediaTypeAudio ⟨0x80, 0, 0x04, 0x80, 320000, 0⟩ =
        (.invalidParams, [8, 0, 2, 0x80]) ∧
      parseInfoAac ⟨0, 0, 0, 0, 0, 0⟩ [8, 0, 2, 0x80] false =
        (.badSampFreq, ⟨0x80, 0, 0, 0, 0, 0⟩) :=
  ⟨rfl, rfl⟩

/-- Every element `A2DP_BuildInfoSbc` accepts is read back by `A2DP_ParseInfoSbc`, which
succeeds exactly when the element follows the capability or the configuration rule; every AAC
element whose object type, sampling frequency and channel mode are non-zero and whose fields lie
under their masks is built, and read back by `A2DP_ParseInfoAac`. -/
theorem a2dpCodecInfo_parse_build :
    (∀ (ie ie0 : A2dpSbcCie) (isCapability : Bool),
      (buildInfoSbc avdtMediaTypeAudio ie).1 = .success →
        (parseInfoSbc ie0 (buildInfoSbc avdtMediaTypeAudio ie).2 isCapability).2 =
            { ie with bitsPerSample := ie0.bitsPerSample } ∧
          ((parseInfoSbc ie0 (buildInfoSbc avdtMediaTypeAudio ie).2 isCapability).1 = .success ↔
            ie.FollowsRule isCapability)) ∧
    ∀ (ie ie0 : A2dpAacCie) (isCapability : Bool), ie.objectType ≠ 0 → ie.sampleRate ≠ 0 →
      ie.sampleRate.toNat &&& (a2dpAacSamplingFreqMask0 ||| a2dpAacSamplingFreqMask1) =
        ie.sampleRate.toNat →
      ie.channelMode ≠ 0 → ie.channelMode.toNat &&& a2dpAacChannelModeMask = ie.channelMode.toNat →
      ie.variableBitRateSupport.toNat &&& a2dpAacVariableBitRateMask =
        ie.variableBitRateSupport.toNat →
      ie.bitRate.toNat < 2 ^ 23 →
        (buildInfoAac avdtMediaTypeAudio ie).1 = .success ∧
          (parseInfoAac ie0 (buildInfoAac avdtMediaTypeAudio ie).2 isCapability).2 =
            { ie with bitsPerSample := ie0.bitsPerSample } := by
  constructor
  · intro ie ie0 isCapability hsuccess
    -- a success is a buildable element
    have hb : ie.Buildable := by
      by_contra hb
      rw [buildInfoSbc_eq, if_neg hb] at hsuccess
      cases hsuccess
    rw [parseInfoSbc_buildInfoSbc_eq hb]
    exact ⟨rfl, checkInfoSbc_eq_success_iff hb isCapability⟩
  · intro ie ie0 isCapability hobj hrate hrateMask hmode hmodeMask hvbrMask hbitRate
    refine ⟨(buildInfoAac_eq_success_iff _ ie).2 ⟨hobj, hrate, hmode⟩, ?_⟩
    rw [parseInfoAac_buildInfoAac_eq hobj hrate hmode hrateMask hmodeMask hvbrMask hbitRate]

/-- The round trip at the default SBC configuration of the source (44.1 kHz, joint stereo, 16
blocks, 8 subbands, loudness, bitpools 2 to 53) and at the default AAC configuration (MPEG-2 LC,
44.1 kHz, stereo, constant bit rate of 320 kbps). -/
theorem a2dpCodecInfo_parse_build_defaults :
    (buildInfoSbc avdtMediaTypeAudio ⟨0x20, 0x01, 0x10, 0x04, 0x01, 2, 53, 1⟩).1 = .success ∧
      (parseInfoSbc ⟨0, 0, 0, 0, 0, 0, 0, 1⟩
          (buildInfoSbc avdtMediaTypeAudio ⟨0x20, 0x01, 0x10, 0x04, 0x01, 2, 53, 1⟩).2 false).2 =
        ⟨0x20, 0x01, 0x10, 0x04, 0x01, 2, 53, 1⟩ ∧
      (parseInfoAac ⟨0, 0, 0, 0, 0, 1⟩
          (buildInfoAac avdtMediaTypeAudio ⟨0x80, 0x01, 0x04, 0x00, 320000, 1⟩).2 false).2 =
        ⟨0x80, 0x01, 0x04, 0x00, 320000, 1⟩ :=
  ⟨rfl, (a2dpCodecInfo_parse_build.1 _ ⟨0, 0, 0, 0, 0, 0, 0, 1⟩ false rfl).1,
    (a2dpCodecInfo_parse_build.2 _ ⟨0, 0, 0, 0, 0, 1⟩ false (by decide) (by decide) rfl (by decide)
      rfl rfl (by decide)).2⟩

end BluetoothStack.A2dp
