import BluetoothStack.Lib.Bytes
import BluetoothStack.Lib.Bits

/-!
# AVDTP configuration parameters

`avdt_msg_bld_cfg` (stack/avdt/avdt_msg.cc) writes a stream configuration as information
elements: media transport, reporting, the codec, content protection and delay report, each a
category byte and a length byte followed by its parameters. The codec and protection elements
copy `codec_info` and `protect_info` from their first byte on, that byte being the length.
`avdt_msg_prs_cfg` reads the elements back one at a time: it checks each length against the
tables of the category, marks the category in `psc_mask` (all but the codec and protection,
which it counts instead), and copies the codec and protection parameters back behind their
length byte.

The parser reads only inside the message and writes only inside the two arrays, for every
input (`avdtMsgPrsCfg_isSome`), and its loop ends by its own condition within the fuel the
model gives it (`prsCfgLoop_exit`). A configuration whose mask holds only the categories the
builder writes back, with at most one codec and one protection element, is read back whole
(`prsCfg_bldCfg`). A SET_CONFIGURATION command is parsed the same way behind its two SEIDs,
and `avdt_msg_prs_setconfig_cmd` then asks for a codec: without one it is rejected
(`avdt_cfg_round_trip`).
-/

namespace BluetoothStack.Avdt

open Bytes

/-! ## Constants (stack/avdt/avdt_defs.h, stack/include/avdt_api.h, stack/avdt/avdt_int.h) -/

/-- `AVDT_CODEC_SIZE`: the bytes of `codec_info`. -/
def avdtCodecSize : Nat := 20
/-- `AVDT_PROTECT_SIZE`: the bytes of `protect_info`. -/
def avdtProtectSize : Nat := 90

/-- `AVDT_CAT_TRANS`: media transport. -/
def avdtCatTrans : UInt8 := 1
/-- `AVDT_CAT_REPORT`: reporting. -/
def avdtCatReport : UInt8 := 2
/-- `AVDT_CAT_RECOV`: recovery. -/
def avdtCatRecov : UInt8 := 3
/-- `AVDT_CAT_PROTECT`: content protection. -/
def avdtCatProtect : UInt8 := 4
/-- `AVDT_CAT_HDRCMP`: header compression. -/
def avdtCatHdrcmp : UInt8 := 5
/-- `AVDT_CAT_CODEC`: media codec. -/
def avdtCatCodec : UInt8 := 7
/-- `AVDT_CAT_DELAY_RPT`: delay reporting. -/
def avdtCatDelayRpt : UInt8 := 8
/-- `AVDT_CAT_MAX_CUR`: the last category this stack knows. -/
def avdtCatMaxCur : UInt8 := avdtCatDelayRpt

/-- `AVDT_PSC_TRANS`. -/
def avdtPscTrans : UInt16 := (1 : UInt16) <<< 1
/-- `AVDT_PSC_REPORT`. -/
def avdtPscReport : UInt16 := (1 : UInt16) <<< 2
/-- `AVDT_PSC_PROTECT`. -/
def avdtPscProtect : UInt16 := (1 : UInt16) <<< 4
/-- `AVDT_PSC_CODEC`. -/
def avdtPscCodec : UInt16 := (1 : UInt16) <<< 7
/-- `AVDT_PSC_DELAY_RPT`. -/
def avdtPscDelayRpt : UInt16 := (1 : UInt16) <<< 8
/-- `AVDT_PSC`: the service capabilities a configuration may ask for besides codec and
protection. -/
def avdtPsc : UInt16 := avdtPscTrans ||| avdtPscReport ||| avdtPscDelayRpt

/-- `AVDT_ERR_LENGTH`. -/
def avdtErrLength : UInt8 := 0x11
/-- `AVDT_ERR_SEID`. -/
def avdtErrSeid : UInt8 := 0x12
/-- `AVDT_ERR_CATEGORY`. -/
def avdtErrCategory : UInt8 := 0x17
/-- `AVDT_ERR_PAYLOAD`. -/
def avdtErrPayload : UInt8 := 0x18
/-- `AVDT_ERR_INVALID_CAP`. -/
def avdtErrInvalidCap : UInt8 := 0x1A
/-- `AVDT_ERR_RECOV_TYPE`. -/
def avdtErrRecovType : UInt8 := 0x22
/-- `AVDT_ERR_MEDIA_TRANS`. -/
def avdtErrMediaTrans : UInt8 := 0x23
/-- `AVDT_ERR_RECOV_FMT`. -/
def avdtErrRecovFmt : UInt8 := 0x25
/-- `AVDT_ERR_ROHC_FMT`. -/
def avdtErrRohcFmt : UInt8 := 0x26
/-- `AVDT_ERR_CP_FMT`. -/
def avdtErrCpFmt : UInt8 := 0x27
/-- `AVDT_ERR_MUX_FMT`. -/
def avdtErrMuxFmt : UInt8 := 0x28
/-- `AVDT_ERR_SERVICE`. -/
def avdtErrService : UInt8 := 0x80

/-- `AVDT_SIG_SETCONFIG`. -/
def avdtSigSetconfig : UInt8 := 3
/-- `AVDT_SIG_RECONFIG`. -/
def avdtSigReconfig : UInt8 := 5
/-- `AVDT_SIG_GET_ALLCAP`. -/
def avdtSigGetAllcap : UInt8 := 12

/-- `AVDT_LEN_CFG_MIN`: a category byte and a length byte. -/
def avdtLenCfgMin : Nat := 2
/-- `AVDT_LEN_SETCONFIG_MIN`: the two SEIDs. -/
def avdtLenSetconfigMin : Nat := 2

/-- `AVDT_RECOV_RFC2733`. -/
def avdtRecovRfc2733 : UInt8 := 1
/-- `AVDT_RECOV_MRWS_MIN`. -/
def avdtRecovMrwsMin : UInt8 := 0x01
/-- `AVDT_RECOV_MRWS_MAX`. -/
def avdtRecovMrwsMax : UInt8 := 0x18
/-- `AVDT_RECOV_MNMP_MIN`. -/
def avdtRecovMnmpMin : UInt8 := 0x01
/-- `AVDT_RECOV_MNMP_MAX`. -/
def avdtRecovMnmpMax : UInt8 := 0x18

/-- `AVDT_SEID_MIN`. -/
def avdtSeidMin : UInt8 := 0x01
/-- `AVDT_SEID_MAX`. -/
def avdtSeidMax : UInt8 := 0x3E

/-- `avdt_msg_ie_len_min`: the shortest parameters of each category, from `AVDT_LEN_TRANS_MIN`
to `AVDT_LEN_DELAY_RPT_MIN`. -/
def avdtMsgIeLenMin : List UInt8 := [0, 0, 0, 3, 2, 1, 3, 2, 0]

/-- `avdt_msg_ie_len_max`: the longest parameters of each category. -/
def avdtMsgIeLenMax : List UInt8 := [0, 0, 0, 3, 255, 1, 7, 255, 0]

/-- `avdt_msg_ie_err`: the error for a category whose length is out of range. -/
def avdtMsgIeErr : List UInt8 :=
  [0, avdtErrMediaTrans, avdtErrLength, avdtErrRecovFmt, avdtErrCpFmt, avdtErrRohcFmt,
    avdtErrMuxFmt, avdtErrService, avdtErrService]

/-! ## Configurations -/

/-- `AvdtpSepConfig` (stack/include/avdt_api.h): the two information arrays keep their C
sizes. -/
structure AvdtpSepConfig where
  codecInfo : List UInt8
  protectInfo : List UInt8
  numCodec : UInt8
  numProtect : UInt8
  pscMask : UInt16
  recovType : UInt8
  recovMrws : UInt8
  recovMnmp : UInt8
  hdrcmpMask : UInt8
  codecInfo_length : codecInfo.length = avdtCodecSize
  protectInfo_length : protectInfo.length = avdtProtectSize

namespace AvdtpSepConfig

/-- The constructor `AvdtpSepConfig()`: everything zero. -/
def init : AvdtpSepConfig :=
  ⟨List.replicate avdtCodecSize 0, List.replicate avdtProtectSize 0, 0, 0, 0, 0, 0, 0, 0,
    List.length_replicate, List.length_replicate⟩

/-- `codec_info` with `src` copied in from byte `pos` on. -/
@[simps]
def setCodecInfo (c : AvdtpSepConfig) (pos : Nat) (src : List UInt8) : AvdtpSepConfig :=
  { c with codecInfo := store pos src c.codecInfo
           codecInfo_length := (length_store _ _ _).trans c.codecInfo_length }

/-- `protect_info` with `src` copied in from byte `pos` on. -/
@[simps]
def setProtectInfo (c : AvdtpSepConfig) (pos : Nat) (src : List UInt8) : AvdtpSepConfig :=
  { c with protectInfo := store pos src c.protectInfo
           protectInfo_length := (length_store _ _ _).trans c.protectInfo_length }

/-- A `memcpy` into `codec_info`, failing where it would write past the array. -/
def storeCodecInfo (c : AvdtpSepConfig) (pos : Nat) (src : List UInt8) :
    Option AvdtpSepConfig :=
  if pos + src.length ≤ avdtCodecSize then some (c.setCodecInfo pos src) else none

/-- A `memcpy` into `protect_info`, failing where it would write past the array. -/
def storeProtectInfo (c : AvdtpSepConfig) (pos : Nat) (src : List UInt8) :
    Option AvdtpSepConfig :=
  if pos + src.length ≤ avdtProtectSize then some (c.setProtectInfo pos src) else none

end AvdtpSepConfig

/-! ## Building (`avdt_msg_bld_cfg`, `avdt_msg_bld_setconfig_cmd`) -/

/-- An element without parameters: its category and a zero length. -/
def bldEmpty (cat : UInt8) : List UInt8 := [cat, 0]

/-- The bytes `avdt_msg_bld_cfg` copies from an information array: its first byte plus one,
counted in a `uint8_t`, and at most the array's size. -/
def bldInfoLen (size : Nat) (info : List UInt8) : Nat :=
  min (((info.getD 0 0).toNat + 1) % 256) size

/-- The codec or protection element: the category, then the array from its length byte on. -/
def bldInfo (cat : UInt8) (size : Nat) (info : List UInt8) : List UInt8 :=
  cat :: info.take (bldInfoLen size info)

/-- `avdt_msg_bld_cfg`: media transport, reporting, codec, content protection, delay report. -/
def avdtMsgBldCfg (c : AvdtpSepConfig) : List UInt8 :=
  (if c.pscMask &&& avdtPscTrans ≠ 0 then bldEmpty avdtCatTrans else []) ++
  (if c.pscMask &&& avdtPscReport ≠ 0 then bldEmpty avdtCatReport else []) ++
  (if c.numCodec ≠ 0 then bldInfo avdtCatCodec avdtCodecSize c.codecInfo else []) ++
  (if c.numProtect ≠ 0 then bldInfo avdtCatProtect avdtProtectSize c.protectInfo else []) ++
  (if c.pscMask &&& avdtPscDelayRpt ≠ 0 then bldEmpty avdtCatDelayRpt else [])

/-- `AVDT_MSG_BLD_SEID`: the SEID in the six high bits of a byte. -/
def avdtMsgBldSeid (seid : UInt8) : UInt8 := seid <<< 2

/-- `AVDT_MSG_PRS_SEID`. -/
def avdtMsgPrsSeid (b : UInt8) : UInt8 := (b >>> 2) &&& 0x3F

/-- The fields of `tAVDT_MSG` a SET_CONFIGURATION command uses: `config_cmd.hdr.seid`,
`config_cmd.int_seid`, the configuration `*config_cmd.p_cfg` and `hdr.err_param`. -/
structure ConfigCmd where
  seid : UInt8
  intSeid : UInt8
  cfg : AvdtpSepConfig
  errParam : UInt8

/-- `avdt_msg_bld_setconfig_cmd`. -/
def avdtMsgBldSetconfigCmd (m : ConfigCmd) : List UInt8 :=
  avdtMsgBldSeid m.seid :: avdtMsgBldSeid m.intSeid :: avdtMsgBldCfg m.cfg

/-! ## Parsing (`avdt_msg_prs_cfg`, `avdt_msg_prs_setconfig_cmd`) -/

/-- What the loop of `avdt_msg_prs_cfg` carries from element to element: the configuration
written so far, the read index `p`, the last category read, the error and `protect_offset`. -/
structure PrsCfg where
  cfg : AvdtpSepConfig
  p : Nat
  elem : UInt8
  err : UInt8
  protectOffset : Nat

/-- The `switch` of `avdt_msg_prs_cfg` on a known category whose length passed the tables,
`s.p` standing at its parameters. Its `break`s leave the switch with `err` set, which ends the
loop. -/
def prsCfgCat (msg : List UInt8) (elem elemLen : UInt8) (s : PrsCfg) : Option PrsCfg :=
  let n := elemLen.toNat
  if elem = avdtCatRecov then
    if msg.length - s.p < 3 then some { s with err := avdtErrPayload }
    else do
      let recovType ← msg[s.p]?
      let recovMrws ← msg[s.p + 1]?
      let recovMnmp ← msg[s.p + 2]?
      let cfg := { s.cfg with recovType := recovType, recovMrws := recovMrws,
                              recovMnmp := recovMnmp }
      let s := { s with p := s.p + 3, cfg := cfg }
      if recovType ≠ avdtRecovRfc2733 then some { s with err := avdtErrRecovType }
      else if recovMrws < avdtRecovMrwsMin ∨ avdtRecovMrwsMax < recovMrws ∨
          recovMnmp < avdtRecovMnmpMin ∨ avdtRecovMnmpMax < recovMnmp then
        some { s with err := avdtErrRecovFmt }
      else some s
  else if elem = avdtCatProtect then
    let s := { s with cfg := { s.cfg with pscMask := s.cfg.pscMask &&& ~~~avdtPscProtect } }
    if msg.length < s.p + n then some { s with err := avdtErrLength }
    -- an element that does not fit behind the earlier ones is skipped, not copied
    else if n + s.protectOffset < avdtProtectSize then do
      let info ← loadIn s.p n msg
      let cfg ← s.cfg.storeProtectInfo s.protectOffset (elemLen :: info)
      some { s with cfg := { cfg with numProtect := cfg.numProtect + 1 },
                    protectOffset := s.protectOffset + 1 + n, p := s.p + n }
    else some { s with p := s.p + n }
  else if elem = avdtCatHdrcmp then
    if msg.length - s.p < 1 then some { s with err := avdtErrPayload }
    else do
      let hdrcmpMask ← msg[s.p]?
      some { s with p := s.p + 1, cfg := { s.cfg with hdrcmpMask := hdrcmpMask } }
  else if elem = avdtCatCodec then
    let s := { s with cfg := { s.cfg with pscMask := s.cfg.pscMask &&& ~~~avdtPscCodec } }
    -- the copy is cut to the array, the index still moves over the whole element
    let tmp := if avdtCodecSize ≤ n then avdtCodecSize - 1 else n
    if msg.length < s.p + tmp then some { s with err := avdtErrLength }
    else do
      let info ← loadIn s.p tmp msg
      let cfg ← s.cfg.storeCodecInfo 0 (elemLen :: info)
      some { s with cfg := { cfg with numCodec := cfg.numCodec + 1 }, p := s.p + n }
  else if elem = avdtCatDelayRpt then some s
  else some { s with p := s.p + n }

/-- One pass of the loop of `avdt_msg_prs_cfg`: read a category and a length, skip a category
this stack does not know (an error in a configuration command), check the length against the
tables and mark the category in `psc_mask`. `none` is a read past the message or a write past an
array, which the code never makes (`prsCfgElem_isSome`). -/
def prsCfgElem (msg : List UInt8) (sigId : UInt8) (s : PrsCfg) : Option PrsCfg :=
  if msg.length - s.p < avdtLenCfgMin then some { s with err := avdtErrPayload }
  else do
    let elem ← msg[s.p]?
    let elemLen ← msg[s.p + 1]?
    let s := { s with elem := elem, p := s.p + 2 }
    if elem = 0 ∨ avdtCatMaxCur < elem then
      if sigId = avdtSigSetconfig ∨ sigId = avdtSigReconfig then
        some { s with err := avdtErrCategory }
      else some { s with p := s.p + elemLen.toNat }
    else if avdtMsgIeLenMax.getD elem.toNat 0 < elemLen ∨
        elemLen < avdtMsgIeLenMin.getD elem.toNat 0 then
      some { s with err := avdtMsgIeErr.getD elem.toNat 0 }
    else
      prsCfgCat msg elem elemLen
        { s with cfg := { s.cfg with pscMask := s.cfg.pscMask ||| (1 <<< elem.toUInt16) } }

/-- The loop `while ((p < p_end) && (err == 0))`, on fuel: one unit per byte is enough
(`prsCfgLoop_exit`). -/
def prsCfgLoop (msg : List UInt8) (sigId : UInt8) : Nat → PrsCfg → Option PrsCfg
  | 0, s => some s
  | fuel + 1, s =>
    if s.p < msg.length ∧ s.err = 0 then (prsCfgElem msg sigId s).bind (prsCfgLoop msg sigId fuel)
    else some s

/-- The state `avdt_msg_prs_cfg` starts its loop in: the mask and the counts cleared. -/
def prsCfgInit (cfg : AvdtpSepConfig) : PrsCfg :=
  ⟨{ cfg with pscMask := 0, numCodec := 0, numProtect := 0 }, 0, 0, 0, 0⟩

/-- `avdt_msg_prs_cfg` over the `len` bytes `msg`: the error, the element `*p_elem` and the
configuration written into `*p_cfg`. -/
def avdtMsgPrsCfg (cfg : AvdtpSepConfig) (msg : List UInt8) (sigId : UInt8) :
    Option (UInt8 × UInt8 × AvdtpSepConfig) :=
  (prsCfgLoop msg sigId msg.length (prsCfgInit cfg)).map fun t => (t.err, t.elem, t.cfg)

/-- `avdt_msg_prs_setconfig_cmd`: the two SEIDs, checked against the stream control blocks
(`avdt_scb_by_hdl`) and the SEID range, then the configuration, which may ask only for the
capabilities of `AVDT_PSC` and must name a codec. -/
def avdtMsgPrsSetconfigCmd (avdtScbByHdl : UInt8 → Bool) (m : ConfigCmd) (msg : List UInt8) :
    Option (UInt8 × ConfigCmd) :=
  let m := { m with errParam := 0 }
  if msg.length < avdtLenSetconfigMin then some (avdtErrLength, m)
  else do
    let b0 ← msg[0]?
    let b1 ← msg[1]?
    let m := { m with seid := avdtMsgPrsSeid b0, intSeid := avdtMsgPrsSeid b1 }
    let err : UInt8 := if avdtScbByHdl m.seid then 0 else avdtErrSeid
    let err := if m.intSeid < avdtSeidMin ∨ avdtSeidMax < m.intSeid then avdtErrSeid else err
    if err ≠ 0 then some (err, m)
    else do
      let (err, elem, cfg) ← avdtMsgPrsCfg m.cfg (msg.drop 2) avdtSigSetconfig
      let m := { m with cfg := cfg, errParam := elem }
      if err ≠ 0 then some (err, m)
      else if cfg.pscMask &&& ~~~avdtPsc ≠ 0 ∨ cfg.numCodec = 0 then some (avdtErrInvalidCap, m)
      else some (0, m)

/-! ## Reads and writes stay inside the buffers -/

namespace AvdtpSepConfig

theorem storeCodecInfo_of_le {c : AvdtpSepConfig} {pos : Nat} {src : List UInt8}
    (h : pos + src.length ≤ avdtCodecSize) :
    c.storeCodecInfo pos src = some (c.setCodecInfo pos src) :=
  if_pos h

theorem storeProtectInfo_of_le {c : AvdtpSepConfig} {pos : Nat} {src : List UInt8}
    (h : pos + src.length ≤ avdtProtectSize) :
    c.storeProtectInfo pos src = some (c.setProtectInfo pos src) :=
  if_pos h

end AvdtpSepConfig

/-- Every branch of the category switch reads only bytes it has checked are there, and copies
only what fits `codec_info` and `protect_info`. -/
theorem prsCfgCat_isSome (msg : List UInt8) (elem elemLen : UInt8) (s : PrsCfg) :
    (prsCfgCat msg elem elemLen s).isSome := by
  unfold prsCfgCat
  by_cases hrecov : elem = avdtCatRecov
  · -- three parameter bytes, read only after the check that they are there
    rw [if_pos hrecov]
    by_cases h3 : msg.length - s.p < 3
    · rw [if_pos h3]
      rfl
    · rw [if_neg h3, List.getElem?_eq_getElem (by omega), List.getElem?_eq_getElem (by omega),
        List.getElem?_eq_getElem (by omega)]
      simp only [Option.bind_eq_bind, Option.bind_some]
      split_ifs <;> rfl
  rw [if_neg hrecov]
  by_cases hprotect : elem = avdtCatProtect
  · -- the copy lands behind the earlier elements only when it fits the array
    rw [if_pos hprotect]
    dsimp only
    split_ifs with hlen hfit
    · rfl
    · have hsrc : s.protectOffset + (elemLen :: load s.p elemLen.toNat msg).length ≤
          avdtProtectSize := by
        rw [List.length_cons, length_load_of_le (by omega)]
        omega
      rw [loadIn_of_le (by omega)]
      simp only [Option.bind_eq_bind, Option.bind_some,
        AvdtpSepConfig.storeProtectInfo_of_le hsrc]
      rfl
    · rfl
  rw [if_neg hprotect]
  by_cases hhdr : elem = avdtCatHdrcmp
  · rw [if_pos hhdr]
    by_cases h1 : msg.length - s.p < 1
    · rw [if_pos h1]
      rfl
    · rw [if_neg h1, List.getElem?_eq_getElem (by omega)]
      rfl
  rw [if_neg hhdr]
  by_cases hcodec : elem = avdtCatCodec
  · -- at most `AVDT_CODEC_SIZE - 1` bytes go behind the length byte
    rw [if_pos hcodec]
    dsimp only
    generalize htmp : (if avdtCodecSize ≤ elemLen.toNat then avdtCodecSize - 1
      else elemLen.toNat) = tmp
    have htle : tmp ≤ avdtCodecSize - 1 := by
      rw [← htmp]
      split_ifs with h
      · exact le_rfl
      · simp only [avdtCodecSize] at h ⊢
        omega
    split_ifs with hlen
    · rfl
    · have hsrc : 0 + (elemLen :: load s.p tmp msg).length ≤ avdtCodecSize := by
        rw [List.length_cons, length_load_of_le (by omega)]
        simp only [avdtCodecSize] at htle ⊢
        omega
      rw [loadIn_of_le (by omega)]
      simp only [Option.bind_eq_bind, Option.bind_some, AvdtpSepConfig.storeCodecInfo_of_le hsrc]
      rfl
  rw [if_neg hcodec]
  split_ifs <;> rfl

/-- A pass of the loop reads its header only after checking the two bytes are there. -/
theorem prsCfgElem_isSome (msg : List UInt8) (sigId : UInt8) (s : PrsCfg) :
    (prsCfgElem msg sigId s).isSome := by
  unfold prsCfgElem
  by_cases h2 : msg.length - s.p < avdtLenCfgMin
  · rw [if_pos h2]
    rfl
  · rw [if_neg h2]
    have hp : s.p + 1 < msg.length := by
      simp only [avdtLenCfgMin] at h2
      omega
    rw [List.getElem?_eq_getElem (by omega), List.getElem?_eq_getElem hp]
    simp only [Option.bind_eq_bind, Option.bind_some]
    split_ifs
    · rfl
    · rfl
    · rfl
    · exact prsCfgCat_isSome _ _ _ _

theorem prsCfgLoop_isSome (msg : List UInt8) (sigId : UInt8) :
    ∀ (fuel : Nat) (s : PrsCfg), (prsCfgLoop msg sigId fuel s).isSome
  | 0, _ => rfl
  | fuel + 1, s => by
    rw [prsCfgLoop]
    split_ifs
    · obtain ⟨t, ht⟩ := Option.isSome_iff_exists.1 (prsCfgElem_isSome msg sigId s)
      rw [ht, Option.bind_some]
      exact prsCfgLoop_isSome msg sigId fuel t
    · rfl

/-- `avdt_msg_prs_cfg` reads only inside the message and writes only inside `codec_info` and
`protect_info`, whatever the message. -/
theorem avdtMsgPrsCfg_isSome (cfg : AvdtpSepConfig) (msg : List UInt8) (sigId : UInt8) :
    (avdtMsgPrsCfg cfg msg sigId).isSome := by
  rw [avdtMsgPrsCfg, Option.isSome_map]
  exact prsCfgLoop_isSome _ _ _ _

/-! ## The loop ends by its own test

Each pass either sets an error or moves the index past the two header bytes, so one unit of
fuel per byte of the message is more than the loop can use: the model's loop is the `while` of
the source. -/

/-- A known category: between 1 and `AVDT_CAT_MAX_CUR`, each with an error of its own. -/
theorem avdtMsgIeErr_ne_zero {elem : UInt8} (h : ¬(elem = 0 ∨ avdtCatMaxCur < elem)) :
    avdtMsgIeErr.getD elem.toNat 0 ≠ 0 := by
  have hall : ∀ n, n < 9 → 0 < n → avdtMsgIeErr.getD n 0 ≠ 0 := by decide
  have hzero : elem.toNat ≠ 0 := fun h0 => h (Or.inl (UInt8.toNat_inj.1 h0))
  have hmax : elem.toNat < 9 := by
    have hle := (not_or.1 h).2
    have h8 : avdtCatMaxCur.toNat = 8 := rfl
    rw [UInt8.lt_iff_toNat_lt, h8] at hle
    omega
  exact hall _ hmax (Nat.pos_of_ne_zero hzero)

/-- The category switch never moves the index back. -/
theorem prsCfgCat_p_le {msg : List UInt8} {elem elemLen : UInt8} {s t : PrsCfg}
    (h : prsCfgCat msg elem elemLen s = some t) : s.p ≤ t.p := by
  unfold prsCfgCat at h
  split_ifs at h <;>
    simp only [Option.bind_eq_bind, Option.bind_eq_some_iff, Option.some.injEq] at h <;>
    grind [loadIn, AvdtpSepConfig.storeProtectInfo, AvdtpSepConfig.storeCodecInfo]

theorem prsCfgElem_progress {msg : List UInt8} {sigId : UInt8} {s t : PrsCfg}
    (h : prsCfgElem msg sigId s = some t) : t.err ≠ 0 ∨ s.p + 2 ≤ t.p := by
  unfold prsCfgElem at h
  by_cases h2 : msg.length - s.p < avdtLenCfgMin
  · -- the header is not all there
    rw [if_pos h2] at h
    cases h
    exact Or.inl (show avdtErrPayload ≠ 0 by decide)
  rw [if_neg h2] at h
  simp only [Option.bind_eq_bind, Option.bind_eq_some_iff] at h
  obtain ⟨elem, -, elemLen, -, h⟩ := h
  by_cases hunknown : elem = 0 ∨ avdtCatMaxCur < elem
  · rw [if_pos hunknown] at h
    by_cases hsig : sigId = avdtSigSetconfig ∨ sigId = avdtSigReconfig
    · rw [if_pos hsig] at h
      cases h
      exact Or.inl (show avdtErrCategory ≠ 0 by decide)
    · -- a category too new for this stack is stepped over
      rw [if_neg hsig] at h
      cases h
      exact Or.inr (by dsimp only; omega)
  rw [if_neg hunknown] at h
  by_cases hlen : avdtMsgIeLenMax.getD elem.toNat 0 < elemLen ∨
      elemLen < avdtMsgIeLenMin.getD elem.toNat 0
  · rw [if_pos hlen] at h
    cases h
    exact Or.inl (avdtMsgIeErr_ne_zero hunknown)
  · rw [if_neg hlen] at h
    have hle := prsCfgCat_p_le h
    dsimp only at hle
    exact Or.inr (by omega)

/-- The loop stops where its test fails. -/
theorem prsCfgLoop_stop {msg : List UInt8} {sigId : UInt8} {s : PrsCfg}
    (h : ¬(s.p < msg.length ∧ s.err = 0)) : ∀ fuel, prsCfgLoop msg sigId fuel s = some s
  | 0 => rfl
  | _ + 1 => by rw [prsCfgLoop, if_neg h]

/-- With a unit of fuel for every byte left, the loop ends past the message or on an error, as
the `while` of the source does. By induction on the fuel. -/
theorem prsCfgLoop_exit {msg : List UInt8} {sigId : UInt8} :
    ∀ {fuel : Nat} {s t : PrsCfg}, msg.length ≤ s.p + fuel →
      prsCfgLoop msg sigId fuel s = some t → msg.length ≤ t.p ∨ t.err ≠ 0
  | 0, s, t, hf, h => by
    cases h
    left
    omega
  | fuel + 1, s, t, hf, h => by
    rw [prsCfgLoop] at h
    split_ifs at h with hgo
    · obtain ⟨s', hs', h⟩ := Option.bind_eq_some_iff.1 h
      rcases prsCfgElem_progress hs' with herr | hp
      · -- an error ends the loop at its next test
        rw [prsCfgLoop_stop (fun hc => herr hc.2)] at h
        cases h
        exact Or.inr herr
      · exact prsCfgLoop_exit (by omega) h
    · cases h
      by_cases hp : s.p < msg.length
      · exact Or.inr fun he => hgo ⟨hp, he⟩
      · exact Or.inl (by omega)

/-! ## Reading the elements the builder writes

`msg.drop s.p = blk ++ rest` says the element `blk` stands where the loop is. Each lemma below
says what one pass makes of it, as one of the states `markCat`, `readCodec`, `readProtect`. -/

/-- The loop state after an element without parameters of category `cat`. -/
@[simps]
def markCat (cat : UInt8) (s : PrsCfg) : PrsCfg :=
  { s with elem := cat, p := s.p + 2,
           cfg := { s.cfg with pscMask := s.cfg.pscMask ||| (1 <<< cat.toUInt16) } }

/-- The loop state after the codec element with length byte `elemLen` and parameters `body`. -/
@[simps]
def readCodec (elemLen : UInt8) (body : List UInt8) (s : PrsCfg) : PrsCfg :=
  { s with elem := avdtCatCodec, p := s.p + 2 + elemLen.toNat,
           cfg := { s.cfg.setCodecInfo 0 (elemLen :: body) with
                    pscMask := (s.cfg.pscMask ||| avdtPscCodec) &&& ~~~avdtPscCodec
                    numCodec := s.cfg.numCodec + 1 } }

/-- The loop state after a protection element copied behind the earlier ones. -/
@[simps]
def readProtect (elemLen : UInt8) (body : List UInt8) (s : PrsCfg) : PrsCfg :=
  { s with elem := avdtCatProtect, p := s.p + 2 + elemLen.toNat,
           protectOffset := s.protectOffset + 1 + elemLen.toNat,
           cfg := { s.cfg.setProtectInfo s.protectOffset (elemLen :: body) with
                    pscMask := (s.cfg.pscMask ||| avdtPscProtect) &&& ~~~avdtPscProtect
                    numProtect := s.cfg.numProtect + 1 } }

/-- A pass over the header of a known category whose length passes the tables: the category is
marked and the switch takes over behind the header. -/
theorem prsCfgElem_known {msg rest : List UInt8} {sigId elem elemLen : UInt8} {s : PrsCfg}
    (hmsg : msg.drop s.p = elem :: elemLen :: rest) (hknown : ¬(elem = 0 ∨ avdtCatMaxCur < elem))
    (hlen : ¬(avdtMsgIeLenMax.getD elem.toNat 0 < elemLen ∨
      elemLen < avdtMsgIeLenMin.getD elem.toNat 0)) :
    prsCfgElem msg sigId s = prsCfgCat msg elem elemLen
      { s with elem := elem, p := s.p + 2,
               cfg := { s.cfg with pscMask := s.cfg.pscMask ||| (1 <<< elem.toUInt16) } } := by
  have hfit : s.p + 2 ≤ msg.length := by
    have := congrArg List.length hmsg
    simp only [List.length_drop, List.length_cons] at this
    omega
  have h2 : ¬(msg.length - s.p < avdtLenCfgMin) := by
    simp only [avdtLenCfgMin]
    omega
  have h1 : msg.drop (s.p + 1) = elemLen :: rest := by
    have hsplit : msg.drop s.p = [elem] ++ elemLen :: rest := hmsg
    exact drop_of_drop hsplit
  unfold prsCfgElem
  rw [if_neg h2, getElem?_of_drop hmsg, getElem?_of_drop h1]
  simp only [Option.bind_eq_bind, Option.bind_some]
  rw [if_neg hknown, if_neg hlen]

/-- Media transport, reporting and delay report: the category is marked, nothing is read. -/
theorem prsCfgElem_bldEmpty {msg rest : List UInt8} {sigId cat : UInt8} {s : PrsCfg}
    (hcat : cat = avdtCatTrans ∨ cat = avdtCatReport ∨ cat = avdtCatDelayRpt)
    (hmsg : msg.drop s.p = bldEmpty cat ++ rest) :
    prsCfgElem msg sigId s = some (markCat cat s) := by
  rcases hcat with rfl | rfl | rfl <;>
    rw [prsCfgElem_known hmsg (by decide) (by decide)] <;> rfl

/-- The codec and protection lengths pass the tables from 2 on: their maximum is the largest
byte. -/
theorem ieLen_ok {elem elemLen : UInt8} (hmax : avdtMsgIeLenMax.getD elem.toNat 0 = 255)
    (hmin : avdtMsgIeLenMin.getD elem.toNat 0 = 2) (h : 2 ≤ elemLen.toNat) :
    ¬(avdtMsgIeLenMax.getD elem.toNat 0 < elemLen ∨
      elemLen < avdtMsgIeLenMin.getD elem.toNat 0) := by
  have hbyte := elemLen.toNat_lt
  have e255 : (255 : UInt8).toNat = 255 := rfl
  have e2 : (2 : UInt8).toNat = 2 := rfl
  rw [hmax, hmin, UInt8.lt_iff_toNat_lt, UInt8.lt_iff_toNat_lt, e255, e2]
  omega

/-- A codec element with a length byte in the tables' range and below `AVDT_CODEC_SIZE`: all of
it is copied to `codec_info` behind its length byte. -/
theorem prsCfgElem_codec {msg body rest : List UInt8} {sigId elemLen : UInt8} {s : PrsCfg}
    (hmsg : msg.drop s.p = avdtCatCodec :: elemLen :: body ++ rest)
    (hbody : body.length = elemLen.toNat) (hmin : 2 ≤ elemLen.toNat)
    (hmax : elemLen.toNat < avdtCodecSize) :
    prsCfgElem msg sigId s = some (readCodec elemLen body s) := by
  have hbody' : msg.drop (s.p + 2) = body ++ rest := by
    have hsplit : msg.drop s.p = [_, elemLen] ++ (body ++ rest) := hmsg
    exact drop_of_drop hsplit
  have hfit : s.p + 2 + body.length ≤ msg.length := by
    have := congrArg List.length hbody'
    simp only [List.length_drop, List.length_append] at this
    omega
  have hload : loadIn (s.p + 2) elemLen.toNat msg = some body :=
    hbody ▸ loadIn_of_drop hbody' (by omega)
  have hstore : 0 + (elemLen :: body).length ≤ avdtCodecSize := by
    simp only [List.length_cons, hbody]
    omega
  rw [prsCfgElem_known hmsg (by decide) (ieLen_ok rfl rfl hmin)]
  unfold prsCfgCat
  rw [if_neg (by decide), if_neg (by decide), if_neg (by decide), if_pos rfl]
  dsimp only
  rw [if_neg (Nat.not_le.2 hmax), if_neg (by omega), hload]
  simp only [Option.bind_eq_bind, Option.bind_some, AvdtpSepConfig.storeCodecInfo_of_le hstore]
  rfl

/-- A protection element that fits behind the earlier ones: it is copied there, its length
byte first. -/
theorem prsCfgElem_protect {msg body rest : List UInt8} {sigId elemLen : UInt8} {s : PrsCfg}
    (hmsg : msg.drop s.p = avdtCatProtect :: elemLen :: body ++ rest)
    (hbody : body.length = elemLen.toNat) (hmin : 2 ≤ elemLen.toNat)
    (hfits : elemLen.toNat + s.protectOffset < avdtProtectSize) :
    prsCfgElem msg sigId s = some (readProtect elemLen body s) := by
  have hbody' : msg.drop (s.p + 2) = body ++ rest := by
    have hsplit : msg.drop s.p = [_, elemLen] ++ (body ++ rest) := hmsg
    exact drop_of_drop hsplit
  have hfit : s.p + 2 + body.length ≤ msg.length := by
    have := congrArg List.length hbody'
    simp only [List.length_drop, List.length_append] at this
    omega
  have hload : loadIn (s.p + 2) elemLen.toNat msg = some body :=
    hbody ▸ loadIn_of_drop hbody' (by omega)
  have hstore : s.protectOffset + (elemLen :: body).length ≤ avdtProtectSize := by
    simp only [List.length_cons, hbody]
    omega
  rw [prsCfgElem_known hmsg (by decide) (ieLen_ok rfl rfl hmin)]
  unfold prsCfgCat
  rw [if_neg (by decide), if_pos rfl]
  dsimp only
  rw [if_neg (by omega), if_pos hfits, hload]
  simp only [Option.bind_eq_bind, Option.bind_some, AvdtpSepConfig.storeProtectInfo_of_le hstore]
  rfl

/-! ## Runs of the loop

`Reaches msg sigId s t`: the loop started at `s` ends at `t`, whatever fuel covers the bytes
left. A run over the builder's output is a chain of `Reaches.opt`, one for each element the
builder may write. -/

/-- The loop started at `s` ends at `t` with any fuel that covers the bytes left. -/
def Reaches (msg : List UInt8) (sigId : UInt8) (s t : PrsCfg) : Prop :=
  ∀ fuel, msg.length - s.p ≤ fuel → prsCfgLoop msg sigId fuel s = some t

section Reaches

variable {msg : List UInt8} {sigId : UInt8} {s t : PrsCfg}

theorem Reaches.done (h : msg.length ≤ s.p) : Reaches msg sigId s s :=
  fun fuel _ => prsCfgLoop_stop (fun hc => by omega) fuel

theorem Reaches.step {s' : PrsCfg} (hp : s.p < msg.length) (herr : s.err = 0)
    (hs : prsCfgElem msg sigId s = some s') (hadv : s.p < s'.p) (h : Reaches msg sigId s' t) :
    Reaches msg sigId s t := by
  intro fuel hfuel
  obtain ⟨fuel, rfl⟩ : ∃ f, fuel = f + 1 := ⟨fuel - 1, by omega⟩
  rw [prsCfgLoop, if_pos ⟨hp, herr⟩, hs, Option.bind_some]
  exact h fuel (by omega)

/-- An element the builder may leave out: where it is there, one pass `f` reads it and the loop
goes on behind it. -/
theorem Reaches.opt (f : PrsCfg → PrsCfg) {cond : Prop} [Decidable cond] {blk rest : List UInt8}
    (hmsg : msg.drop s.p = (if cond then blk else []) ++ rest) (herr : s.err = 0)
    (hblk : blk ≠ [])
    (hstep : cond → msg.drop s.p = blk ++ rest → prsCfgElem msg sigId s = some (f s))
    (hp : cond → (f s).p = s.p + blk.length) (herr' : (f s).err = s.err)
    (h : msg.drop (if cond then f s else s).p = rest → (if cond then f s else s).err = 0 →
      Reaches msg sigId (if cond then f s else s) t) :
    Reaches msg sigId s t := by
  by_cases hc : cond
  · rw [if_pos hc] at hmsg
    simp only [if_pos hc] at h
    have hlen : s.p + blk.length ≤ msg.length := by
      have := congrArg List.length hmsg
      simp only [List.length_drop, List.length_append] at this
      have := List.length_pos_iff.2 hblk
      omega
    have hpos := List.length_pos_iff.2 hblk
    have hp := hp hc
    refine Reaches.step (by omega) herr (hstep hc hmsg) (by omega) (h ?_ (herr'.trans herr))
    rw [hp]
    exact drop_of_drop hmsg
  · rw [if_neg hc, List.nil_append] at hmsg
    simp only [if_neg hc] at h
    exact h hmsg herr

/-- `Reaches.opt` for media transport, reporting and delay report. -/
theorem Reaches.optEmpty {cond : Prop} [Decidable cond] {cat : UInt8} {rest : List UInt8}
    (hcat : cat = avdtCatTrans ∨ cat = avdtCatReport ∨ cat = avdtCatDelayRpt)
    (hmsg : msg.drop s.p = (if cond then bldEmpty cat else []) ++ rest) (herr : s.err = 0)
    (h : msg.drop (if cond then markCat cat s else s).p = rest →
      (if cond then markCat cat s else s).err = 0 →
      Reaches msg sigId (if cond then markCat cat s else s) t) :
    Reaches msg sigId s t :=
  Reaches.opt (markCat cat) hmsg herr (List.cons_ne_nil _ _)
    (fun _ hd => prsCfgElem_bldEmpty hcat hd) (fun _ => rfl) rfl h

/-- `Reaches.opt` for the codec element. -/
theorem Reaches.optCodec {cond : Prop} [Decidable cond] {elemLen : UInt8}
    {body rest : List UInt8}
    (hmsg : msg.drop s.p = (if cond then avdtCatCodec :: elemLen :: body else []) ++ rest)
    (herr : s.err = 0)
    (hin : cond → body.length = elemLen.toNat ∧ 2 ≤ elemLen.toNat ∧
      elemLen.toNat < avdtCodecSize)
    (h : msg.drop (if cond then readCodec elemLen body s else s).p = rest →
      (if cond then readCodec elemLen body s else s).err = 0 →
      Reaches msg sigId (if cond then readCodec elemLen body s else s) t) :
    Reaches msg sigId s t := by
  refine Reaches.opt (readCodec elemLen body) hmsg herr (List.cons_ne_nil _ _)
    (fun hc hd => ?_) (fun hc => ?_) rfl h
  · obtain ⟨hbody, hmin, hmax⟩ := hin hc
    exact prsCfgElem_codec hd hbody hmin hmax
  · simp only [readCodec_p, List.length_cons, (hin hc).1]
    omega

/-- `Reaches.opt` for a protection element that fits behind the earlier ones. -/
theorem Reaches.optProtect {cond : Prop} [Decidable cond] {elemLen : UInt8}
    {body rest : List UInt8}
    (hmsg : msg.drop s.p = (if cond then avdtCatProtect :: elemLen :: body else []) ++ rest)
    (herr : s.err = 0)
    (hin : cond → body.length = elemLen.toNat ∧ 2 ≤ elemLen.toNat ∧
      elemLen.toNat + s.protectOffset < avdtProtectSize)
    (h : msg.drop (if cond then readProtect elemLen body s else s).p = rest →
      (if cond then readProtect elemLen body s else s).err = 0 →
      Reaches msg sigId (if cond then readProtect elemLen body s else s) t) :
    Reaches msg sigId s t := by
  refine Reaches.opt (readProtect elemLen body) hmsg herr (List.cons_ne_nil _ _)
    (fun hc hd => ?_) (fun hc => ?_) rfl h
  · obtain ⟨hbody, hmin, hfits⟩ := hin hc
    exact prsCfgElem_protect hd hbody hmin hfits
  · simp only [readProtect_p, List.length_cons, (hin hc).1]
    omega

/-- A run from the start state gives what `avdt_msg_prs_cfg` returns. -/
theorem avdtMsgPrsCfg_of_reaches {cfg : AvdtpSepConfig} (h : Reaches msg sigId (prsCfgInit cfg) t) :
    avdtMsgPrsCfg cfg msg sigId = some (t.err, t.elem, t.cfg) := by
  rw [avdtMsgPrsCfg, h msg.length (Nat.sub_le _ _)]
  rfl

end Reaches

/-! ## Reading back what was built -/

/-- The configurations `avdt_msg_bld_cfg` writes whole: a mask with no capability beyond
`AVDT_PSC`, and at most one codec and one protection element, each with a length byte that
counts at least the two bytes the tables ask for and whose bytes fit the array. -/
structure AvdtpSepConfig.BuiltWhole (c : AvdtpSepConfig) : Prop where
  pscMask : c.pscMask &&& ~~~avdtPsc = 0
  codec : c.numCodec = 0 ∨ c.numCodec = 1 ∧ 2 ≤ (c.codecInfo.getD 0 0).toNat ∧
    (c.codecInfo.getD 0 0).toNat ≤ avdtCodecSize - 1
  protect : c.numProtect = 0 ∨ c.numProtect = 1 ∧ 2 ≤ (c.protectInfo.getD 0 0).toNat ∧
    (c.protectInfo.getD 0 0).toNat ≤ avdtProtectSize - 2

/-- The length byte of an information array. -/
def infoLen (info : List UInt8) : UInt8 := info.getD 0 0

/-- The bytes the length byte of an information array counts. -/
def infoBody (info : List UInt8) : List UInt8 := (info.drop 1).take (infoLen info).toNat

/-- The length byte of an information array and the bytes it counts. -/
def infoPrefix (info : List UInt8) : List UInt8 := info.take ((infoLen info).toNat + 1)

/-- What a parsed configuration keeps of the one that was built: the mask, the counts, and the
codec and protection information the counts describe. -/
structure AvdtpSepConfig.ReadBack (c cfg : AvdtpSepConfig) : Prop where
  pscMask : cfg.pscMask = c.pscMask
  numCodec : cfg.numCodec = c.numCodec
  numProtect : cfg.numProtect = c.numProtect
  codecInfo : c.numCodec ≠ 0 → infoPrefix cfg.codecInfo = infoPrefix c.codecInfo
  protectInfo : c.numProtect ≠ 0 → infoPrefix cfg.protectInfo = infoPrefix c.protectInfo

theorem infoPrefix_eq {info : List UInt8} (h : info ≠ []) :
    infoPrefix info = infoLen info :: infoBody info := by
  obtain ⟨a, t, rfl⟩ := List.exists_cons_of_ne_nil h
  rfl

theorem length_infoBody {info : List UInt8} (h : (infoLen info).toNat + 1 ≤ info.length) :
    (infoBody info).length = (infoLen info).toNat := by
  simp only [infoBody, List.length_take, List.length_drop]
  omega

/-- Where the length byte and its bytes fit the array, the builder copies exactly them. -/
theorem bldInfo_eq {cat : UInt8} {size : Nat} {info : List UInt8}
    (hlen : (infoLen info).toNat + 1 ≤ size) (hsize : size < 256) (hinfo : info ≠ []) :
    bldInfo cat size info = cat :: infoLen info :: infoBody info := by
  have hcopy : bldInfoLen size info = (infoLen info).toNat + 1 := by
    rw [bldInfoLen, ← infoLen, Nat.mod_eq_of_lt (by omega)]
    exact Nat.min_eq_left hlen
  rw [bldInfo, hcopy, ← infoPrefix, infoPrefix_eq hinfo]

/-- The parser's copy of a length byte and its bytes, at the start of the array, reads back as
them. -/
theorem infoPrefix_store {L : UInt8} {body mem : List UInt8} (hbody : body.length = L.toNat)
    (hmem : L.toNat + 1 ≤ mem.length) : infoPrefix (store 0 (L :: body) mem) = L :: body := by
  have hst : store 0 (L :: body) mem = L :: (body ++ mem.drop (L.toNat + 1)) := by
    rw [store, List.take_zero, List.nil_append, Nat.sub_zero,
      List.take_of_length_le (by simp only [List.length_cons]; omega)]
    simp [hbody]
  rw [hst, infoPrefix_eq (List.cons_ne_nil _ _)]
  simp only [infoLen, infoBody, List.getD_cons_zero, List.drop_succ_cons, List.drop_zero,
    List.take_left' hbody]

/-- The state the loop reaches over `avdtMsgBldCfg c`: one pass for each element written. -/
def bldCfgRun (c out : AvdtpSepConfig) : PrsCfg :=
  let s := prsCfgInit out
  let s := if c.pscMask &&& avdtPscTrans ≠ 0 then markCat avdtCatTrans s else s
  let s := if c.pscMask &&& avdtPscReport ≠ 0 then markCat avdtCatReport s else s
  let s := if c.numCodec ≠ 0 then readCodec (infoLen c.codecInfo) (infoBody c.codecInfo) s
    else s
  let s := if c.numProtect ≠ 0 then
    readProtect (infoLen c.protectInfo) (infoBody c.protectInfo) s else s
  if c.pscMask &&& avdtPscDelayRpt ≠ 0 then markCat avdtCatDelayRpt s else s

section BuiltWhole

variable {c : AvdtpSepConfig}

theorem AvdtpSepConfig.BuiltWhole.codecInfo (hc : c.BuiltWhole) (hn : c.numCodec ≠ 0) :
    (infoBody c.codecInfo).length = (infoLen c.codecInfo).toNat ∧
      2 ≤ (infoLen c.codecInfo).toNat ∧ (infoLen c.codecInfo).toNat < avdtCodecSize := by
  obtain ⟨-, hmin, hmax⟩ := hc.codec.resolve_left hn
  have hsize := c.codecInfo_length
  rw [← infoLen] at hmin hmax
  simp only [avdtCodecSize] at hmax hsize ⊢
  exact ⟨length_infoBody (by omega), hmin, by omega⟩

theorem AvdtpSepConfig.BuiltWhole.protectInfo (hc : c.BuiltWhole) (hn : c.numProtect ≠ 0) :
    (infoBody c.protectInfo).length = (infoLen c.protectInfo).toNat ∧
      2 ≤ (infoLen c.protectInfo).toNat ∧
      (infoLen c.protectInfo).toNat + 1 < avdtProtectSize := by
  obtain ⟨-, hmin, hmax⟩ := hc.protect.resolve_left hn
  have hsize := c.protectInfo_length
  rw [← infoLen] at hmin hmax
  simp only [avdtProtectSize] at hmax hsize ⊢
  exact ⟨length_infoBody (by omega), hmin, by omega⟩

/-- The builder's output, element by element, with the codec and protection elements spelled as
their length byte and its bytes. -/
theorem avdtMsgBldCfg_eq (hc : c.BuiltWhole) :
    avdtMsgBldCfg c =
      (if c.pscMask &&& avdtPscTrans ≠ 0 then bldEmpty avdtCatTrans else []) ++
      ((if c.pscMask &&& avdtPscReport ≠ 0 then bldEmpty avdtCatReport else []) ++
      ((if c.numCodec ≠ 0 then avdtCatCodec :: infoLen c.codecInfo :: infoBody c.codecInfo
        else []) ++
      ((if c.numProtect ≠ 0 then avdtCatProtect :: infoLen c.protectInfo :: infoBody c.protectInfo
        else []) ++
      ((if c.pscMask &&& avdtPscDelayRpt ≠ 0 then bldEmpty avdtCatDelayRpt else []) ++
        [])))) := by
  have hcodec : (if c.numCodec ≠ 0 then bldInfo avdtCatCodec avdtCodecSize c.codecInfo else []) =
      if c.numCodec ≠ 0 then avdtCatCodec :: infoLen c.codecInfo :: infoBody c.codecInfo
      else [] := by
    split_ifs with hn
    · have hin := hc.codecInfo hn
      exact bldInfo_eq (by omega) (by decide)
        (List.ne_nil_of_length_pos (by rw [c.codecInfo_length]; decide))
    · rfl
  have hprotect : (if c.numProtect ≠ 0 then bldInfo avdtCatProtect avdtProtectSize c.protectInfo
      else []) = if c.numProtect ≠ 0 then
        avdtCatProtect :: infoLen c.protectInfo :: infoBody c.protectInfo else [] := by
    split_ifs with hn
    · have hin := hc.protectInfo hn
      exact bldInfo_eq (by omega) (by decide)
        (List.ne_nil_of_length_pos (by rw [c.protectInfo_length]; decide))
    · rfl
  rw [avdtMsgBldCfg, hcodec, hprotect]
  simp only [List.append_assoc, List.append_nil]

/-- The parser runs over the builder's output one element at a time. -/
theorem reaches_bldCfg (out : AvdtpSepConfig) (sigId : UInt8) (hc : c.BuiltWhole) :
    Reaches (avdtMsgBldCfg c) sigId (prsCfgInit out) (bldCfgRun c out) := by
  have hmsg := congrArg (List.drop (prsCfgInit out).p) (avdtMsgBldCfg_eq hc)
  rw [show (prsCfgInit out).p = 0 from rfl, List.drop_zero] at hmsg
  refine Reaches.optEmpty (Or.inl rfl) hmsg rfl fun h1 e1 => ?_
  refine Reaches.optEmpty (Or.inr (Or.inl rfl)) h1 e1 fun h2 e2 => ?_
  refine Reaches.optCodec h2 e2 (hc.codecInfo) fun h3 e3 => ?_
  refine Reaches.optProtect h3 e3 (fun hn => ?_) fun h4 e4 => ?_
  · -- nothing has been copied to `protect_info` before
    obtain ⟨hbody, hmin, hfits⟩ := hc.protectInfo hn
    refine ⟨hbody, hmin, ?_⟩
    simp only [apply_ite PrsCfg.protectOffset, readCodec_protectOffset, markCat_protectOffset,
      ite_self]
    exact Nat.lt_of_succ_lt hfits
  refine Reaches.optEmpty (Or.inr (Or.inr rfl)) h4 e4 fun h5 _ => ?_
  exact Reaches.done (List.drop_eq_nil_iff.1 h5)

end BuiltWhole

/-! ## What the run leaves in the configuration -/

/-- An element without parameters is marked exactly when the mask has its bit. -/
theorem markCat_pscMask_ite (x : UInt16) {b : UInt16} {k : Nat} {cat : UInt8}
    (hb : b.toNat = 2 ^ k) (hcat : (1 : UInt16) <<< cat.toUInt16 = b) (s : PrsCfg) :
    (if x &&& b ≠ 0 then markCat cat s else s).cfg.pscMask = s.cfg.pscMask ||| (x &&& b) := by
  rw [← Bits.word_ite_or_bit x _ hb, apply_ite PrsCfg.cfg, apply_ite AvdtpSepConfig.pscMask,
    markCat_cfg_pscMask, hcat]

/-- The codec is counted, not marked: its bit is set and cleared again. -/
theorem readCodec_pscMask_ite {cond : Prop} [Decidable cond] (elemLen : UInt8)
    (body : List UInt8) {s : PrsCfg} (h : s.cfg.pscMask &&& avdtPscCodec = 0) :
    (if cond then readCodec elemLen body s else s).cfg.pscMask = s.cfg.pscMask := by
  split
  · exact Bits.word_or_and_not_cancel h
  · rfl

/-- Content protection is counted, not marked. -/
theorem readProtect_pscMask_ite {cond : Prop} [Decidable cond] (elemLen : UInt8)
    (body : List UInt8) {s : PrsCfg} (h : s.cfg.pscMask &&& avdtPscProtect = 0) :
    (if cond then readProtect elemLen body s else s).cfg.pscMask = s.cfg.pscMask := by
  split
  · exact Bits.word_or_and_not_cancel h
  · rfl

/-- The bit `1 << elem` the parser sets for a category is the category's `AVDT_PSC_*` bit. -/
theorem shiftLeft_catTrans : (1 : UInt16) <<< avdtCatTrans.toUInt16 = avdtPscTrans := by decide
theorem shiftLeft_catReport : (1 : UInt16) <<< avdtCatReport.toUInt16 = avdtPscReport := by
  decide
theorem shiftLeft_catDelayRpt : (1 : UInt16) <<< avdtCatDelayRpt.toUInt16 = avdtPscDelayRpt := by
  decide

theorem bldCfgRun_err (c out : AvdtpSepConfig) : (bldCfgRun c out).err = 0 := by
  simp only [bldCfgRun, apply_ite PrsCfg.err, markCat_err, readCodec_err, readProtect_err,
    ite_self]
  rfl

/-- The run marks transport, reporting and delay report as the mask has them, and nothing
else. -/
theorem bldCfgRun_pscMask {c : AvdtpSepConfig} (out : AvdtpSepConfig)
    (hpsc : c.pscMask &&& ~~~avdtPsc = 0) : (bldCfgRun c out).cfg.pscMask = c.pscMask := by
  unfold bldCfgRun
  dsimp only
  generalize hs1 : (if c.pscMask &&& avdtPscTrans ≠ 0 then markCat avdtCatTrans (prsCfgInit out)
    else prsCfgInit out) = s1
  generalize hs2 : (if c.pscMask &&& avdtPscReport ≠ 0 then markCat avdtCatReport s1
    else s1) = s2
  generalize hs3 : (if c.numCodec ≠ 0 then readCodec (infoLen c.codecInfo) (infoBody c.codecInfo)
    s2 else s2) = s3
  generalize hs4 : (if c.numProtect ≠ 0 then readProtect (infoLen c.protectInfo)
    (infoBody c.protectInfo) s3 else s3) = s4
  have e1 : s1.cfg.pscMask = c.pscMask &&& avdtPscTrans := by
    rw [← hs1,
      markCat_pscMask_ite _ (show avdtPscTrans.toNat = 2 ^ 1 from rfl) shiftLeft_catTrans]
    exact UInt16.zero_or
  have e2 : s2.cfg.pscMask = c.pscMask &&& (avdtPscTrans ||| avdtPscReport) := by
    rw [← hs2,
      markCat_pscMask_ite _ (show avdtPscReport.toNat = 2 ^ 2 from rfl) shiftLeft_catReport, e1,
      Bits.word_and_or_and]
  have e3 : s3.cfg.pscMask = s2.cfg.pscMask := by
    rw [← hs3, readCodec_pscMask_ite]
    rw [e2, UInt16.and_assoc, show (avdtPscTrans ||| avdtPscReport) &&& avdtPscCodec = 0 by decide,
      UInt16.and_zero]
  have e4 : s4.cfg.pscMask = s2.cfg.pscMask := by
    rw [← hs4, readProtect_pscMask_ite, e3]
    rw [e3, e2, UInt16.and_assoc,
      show (avdtPscTrans ||| avdtPscReport) &&& avdtPscProtect = 0 by decide, UInt16.and_zero]
  rw [markCat_pscMask_ite _ (show avdtPscDelayRpt.toNat = 2 ^ 8 from rfl) shiftLeft_catDelayRpt,
    e4, e2,
    Bits.word_and_or_and, ← avdtPsc, Bits.word_and_eq_self_of_and_not hpsc]

theorem bldCfgRun_numCodec (c out : AvdtpSepConfig) :
    (bldCfgRun c out).cfg.numCodec = if c.numCodec ≠ 0 then 1 else 0 := by
  simp only [bldCfgRun, apply_ite PrsCfg.cfg, apply_ite AvdtpSepConfig.numCodec,
    markCat_cfg_numCodec, readCodec_cfg_numCodec, readProtect_cfg_numCodec, ite_self,
    AvdtpSepConfig.setProtectInfo_numCodec]
  rfl

theorem bldCfgRun_numProtect (c out : AvdtpSepConfig) :
    (bldCfgRun c out).cfg.numProtect = if c.numProtect ≠ 0 then 1 else 0 := by
  simp only [bldCfgRun, apply_ite PrsCfg.cfg, apply_ite AvdtpSepConfig.numProtect,
    markCat_cfg_numProtect, readCodec_cfg_numProtect, readProtect_cfg_numProtect, ite_self,
    AvdtpSepConfig.setCodecInfo_numProtect]
  rfl

theorem bldCfgRun_codecInfo (c out : AvdtpSepConfig) :
    (bldCfgRun c out).cfg.codecInfo = if c.numCodec ≠ 0 then
      store 0 (infoLen c.codecInfo :: infoBody c.codecInfo) out.codecInfo else out.codecInfo := by
  simp only [bldCfgRun, apply_ite PrsCfg.cfg, apply_ite AvdtpSepConfig.codecInfo,
    markCat_cfg_codecInfo, readCodec_cfg_codecInfo, readProtect_cfg_codecInfo, ite_self,
    AvdtpSepConfig.setCodecInfo_codecInfo, AvdtpSepConfig.setProtectInfo_codecInfo]
  rfl

theorem bldCfgRun_protectInfo (c out : AvdtpSepConfig) :
    (bldCfgRun c out).cfg.protectInfo = if c.numProtect ≠ 0 then
      store 0 (infoLen c.protectInfo :: infoBody c.protectInfo) out.protectInfo
      else out.protectInfo := by
  simp only [bldCfgRun, apply_ite PrsCfg.cfg, apply_ite AvdtpSepConfig.protectInfo,
    apply_ite PrsCfg.protectOffset, markCat_cfg_protectInfo, readCodec_cfg_protectInfo,
    readProtect_cfg_protectInfo, markCat_protectOffset, readCodec_protectOffset, ite_self,
    AvdtpSepConfig.setCodecInfo_protectInfo, AvdtpSepConfig.setProtectInfo_protectInfo]
  rfl

theorem readBack_bldCfgRun {c : AvdtpSepConfig} (out : AvdtpSepConfig) (hc : c.BuiltWhole) :
    c.ReadBack (bldCfgRun c out).cfg where
  pscMask := bldCfgRun_pscMask out hc.pscMask
  numCodec := by
    rw [bldCfgRun_numCodec]
    rcases hc.codec with h | ⟨h, -⟩ <;> simp [h]
  numProtect := by
    rw [bldCfgRun_numProtect]
    rcases hc.protect with h | ⟨h, -⟩ <;> simp [h]
  codecInfo hn := by
    obtain ⟨hbody, -, hmax⟩ := hc.codecInfo hn
    rw [bldCfgRun_codecInfo, if_pos hn,
      infoPrefix_store hbody (by rw [out.codecInfo_length]; exact hmax),
      infoPrefix_eq (List.ne_nil_of_length_pos (by rw [c.codecInfo_length]; decide))]
  protectInfo hn := by
    obtain ⟨hbody, -, hmax⟩ := hc.protectInfo hn
    rw [bldCfgRun_protectInfo, if_pos hn,
      infoPrefix_store hbody (by rw [out.protectInfo_length]; omega),
      infoPrefix_eq (List.ne_nil_of_length_pos (by rw [c.protectInfo_length]; decide))]

/-- A configuration `avdt_msg_bld_cfg` writes whole is read back by `avdt_msg_prs_cfg` without
error, whatever the signal and whatever configuration it is read into. -/
theorem prsCfg_bldCfg {c : AvdtpSepConfig} (out : AvdtpSepConfig) (sigId : UInt8)
    (hc : c.BuiltWhole) :
    ∃ elem cfg, avdtMsgPrsCfg out (avdtMsgBldCfg c) sigId = some (0, elem, cfg) ∧
      c.ReadBack cfg := by
  refine ⟨(bldCfgRun c out).elem, _, ?_, readBack_bldCfgRun out hc⟩
  rw [avdtMsgPrsCfg_of_reaches (reaches_bldCfg out sigId hc), bldCfgRun_err]

/-! ## SET_CONFIGURATION -/

/-- A SEID goes through its byte as its six low bits. -/
theorem avdtMsgPrsSeid_bldSeid (seid : UInt8) :
    avdtMsgPrsSeid (avdtMsgBldSeid seid) = seid &&& 0x3F := by
  apply UInt8.toNat_inj.1
  have h63 : (0x3F : UInt8).toNat = 2 ^ 6 - 1 := rfl
  have h4 : 2 ^ ((2 : UInt8).toNat % 8) = 4 := rfl
  simp only [avdtMsgPrsSeid, avdtMsgBldSeid, UInt8.toNat_and, UInt8.toNat_shiftRight,
    UInt8.toNat_shiftLeft, h63, Nat.and_two_pow_sub_one_eq_mod, Nat.shiftLeft_eq,
    Nat.shiftRight_eq_div_pow, h4]
  omega

/-- A SET_CONFIGURATION command whose SEIDs pass the peer's checks and whose configuration is
written whole is parsed back: its SEIDs, and its configuration as `prsCfg_bldCfg` reads it. The
peer then accepts it exactly when it names a codec. -/
theorem prsSetconfigCmd_bldSetconfigCmd (avdtScbByHdl : UInt8 → Bool) (m m0 : ConfigCmd)
    (hc : m.cfg.BuiltWhole) (hscb : avdtScbByHdl (m.seid &&& 0x3F) = true)
    (hmin : avdtSeidMin ≤ m.intSeid &&& 0x3F) (hmax : m.intSeid &&& 0x3F ≤ avdtSeidMax) :
    ∃ r, avdtMsgPrsSetconfigCmd avdtScbByHdl m0 (avdtMsgBldSetconfigCmd m) =
        some (if m.cfg.numCodec = 0 then avdtErrInvalidCap else 0, r) ∧
      r.seid = m.seid &&& 0x3F ∧ r.intSeid = m.intSeid &&& 0x3F ∧ m.cfg.ReadBack r.cfg := by
  obtain ⟨elem, cfg, hprs, hback⟩ := prsCfg_bldCfg m0.cfg avdtSigSetconfig hc
  refine ⟨⟨m.seid &&& 0x3F, m.intSeid &&& 0x3F, cfg, elem⟩, ?_, rfl, rfl, hback⟩
  have hrange : ¬(m.intSeid &&& 0x3F < avdtSeidMin ∨ avdtSeidMax < m.intSeid &&& 0x3F) := by
    rw [not_or, UInt8.not_lt, UInt8.not_lt]
    exact ⟨hmin, hmax⟩
  -- the configuration asks for nothing beyond `AVDT_PSC`
  have hpsc : ¬(cfg.pscMask &&& ~~~avdtPsc ≠ 0) := by
    rw [hback.pscMask, hc.pscMask]
    exact not_not_intro rfl
  unfold avdtMsgPrsSetconfigCmd avdtMsgBldSetconfigCmd
  dsimp only
  rw [if_neg (by simp [avdtLenSetconfigMin])]
  simp only [List.getElem?_cons_zero, List.getElem?_cons_succ, Option.bind_eq_bind,
    Option.bind_some, avdtMsgPrsSeid_bldSeid, hscb, if_true, if_neg hrange, ne_eq,
    not_true_eq_false, if_false, List.drop_succ_cons, List.drop_zero, hprs, hback.numCodec]
  by_cases hn : m.cfg.numCodec = 0
  · simp [hn]
  · simp [hn, hpsc]

/-- The round trip of `avdt_msg_bld_cfg` and `avdt_msg_prs_cfg` for every configuration written
whole, and what the peer makes of the SET_CONFIGURATION command that carries it: with SEIDs that
pass its checks, it reads the command back and accepts it exactly when a codec is named, and
rejects it with `AVDT_ERR_INVALID_CAP` otherwise. -/
theorem avdt_cfg_round_trip (c out : AvdtpSepConfig) (hc : c.BuiltWhole) :
    (∃ elem cfg, avdtMsgPrsCfg out (avdtMsgBldCfg c) avdtSigGetAllcap = some (0, elem, cfg) ∧
      c.ReadBack cfg) ∧
    ∀ (avdtScbByHdl : UInt8 → Bool) (seid intSeid errParam : UInt8) (m0 : ConfigCmd),
      avdtScbByHdl (seid &&& 0x3F) = true → avdtSeidMin ≤ intSeid &&& 0x3F →
      intSeid &&& 0x3F ≤ avdtSeidMax →
      ∃ r, avdtMsgPrsSetconfigCmd avdtScbByHdl m0
          (avdtMsgBldSetconfigCmd ⟨seid, intSeid, c, errParam⟩) =
          some (if c.numCodec = 0 then avdtErrInvalidCap else 0, r) ∧
        r.seid = seid &&& 0x3F ∧ r.intSeid = intSeid &&& 0x3F ∧ c.ReadBack r.cfg :=
  ⟨prsCfg_bldCfg out avdtSigGetAllcap hc, fun avdtScbByHdl seid intSeid errParam m0 hscb hmin hmax =>
    prsSetconfigCmd_bldSetconfigCmd avdtScbByHdl ⟨seid, intSeid, c, errParam⟩ m0 hc hscb hmin hmax⟩

/-- An SBC configuration with media transport and delay report: its codec element is the
length byte 6 and six bytes of codec information. It is written whole, it reads back, and the
peer accepts it from SEIDs 1 and 2. -/
theorem avdt_cfg_round_trip_sbc :
    let c : AvdtpSepConfig :=
      { AvdtpSepConfig.init with
        codecInfo := [6, 0, 0, 0x21, 0x15, 2, 0x35] ++ List.replicate 13 0
        numCodec := 1
        pscMask := avdtPscTrans ||| avdtPscDelayRpt
        codecInfo_length := rfl }
    c.BuiltWhole ∧
    (∃ elem cfg, avdtMsgPrsCfg AvdtpSepConfig.init (avdtMsgBldCfg c) avdtSigGetAllcap =
        some (0, elem, cfg) ∧ c.ReadBack cfg) ∧
    ∃ r, avdtMsgPrsSetconfigCmd (fun _ => true) ⟨0, 0, AvdtpSepConfig.init, 0⟩
        (avdtMsgBldSetconfigCmd ⟨1, 2, c, 0⟩) =
        some (if c.numCodec = 0 then avdtErrInvalidCap else 0, r) ∧
      r.seid = 1 &&& 0x3F ∧ r.intSeid = 2 &&& 0x3F ∧ c.ReadBack r.cfg := by
  intro c
  have hc : c.BuiltWhole := ⟨by decide, Or.inr ⟨rfl, by decide, by decide⟩, Or.inl rfl⟩
  have h := avdt_cfg_round_trip c AvdtpSepConfig.init hc
  exact ⟨hc, h.1, h.2 (fun _ => true) 1 2 0 ⟨0, 0, AvdtpSepConfig.init, 0⟩ rfl (by decide)
    (by decide)⟩

/-- A configuration with media transport only and no codec, written whole and sent with SEIDs
the peer knows, is rejected by `avdt_msg_prs_setconfig_cmd` with `AVDT_ERR_INVALID_CAP`. -/
theorem avdt_setconfig_without_codec_rejected :
    (avdtMsgPrsSetconfigCmd (fun _ => true) ⟨0, 0, AvdtpSepConfig.init, 0⟩
      (avdtMsgBldSetconfigCmd
        ⟨1, 2, { AvdtpSepConfig.init with pscMask := avdtPscTrans }, 0⟩)).map Prod.fst =
      some avdtErrInvalidCap := by
  decide

end BluetoothStack.Avdt
