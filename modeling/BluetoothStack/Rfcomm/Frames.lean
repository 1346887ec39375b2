import BluetoothStack.Lib.Crc8

/-!
# RFCOMM frames

The frame check sequence of rfc_utils.cc, the frames that rfc_ts_frames.cc sends and its two
parsers, rfc_parse_data for a received frame and rfc_process_mx_message for a message on the
multiplexer channel.

The table of rfc_calc_fcs is the reflected CRC-8 of $x^8 + x^2 + x + 1$ one byte at a time
(`rfcCrctable_getD`), so rfc_calc_fcs is the GSM 07.10 FCS (`rfcCalcFcs_eq_gsmFcs`) and
rfc_check_fcs accepts exactly that byte (`rfcCheckFcs_iff`, from `Crc8.feed_eq_residue_iff`).
A frame sent by one side parses on the other into the event, DLCI, credit and information field
it was sent with, and the parsers read only within the buffer they are given: every read is an
`Option` that fails past the end, and neither parser fails.
-/

namespace BluetoothStack.Rfcomm

/-! ## The frame check sequence -/

/-- rfc_crctable: "Reversed CRC Table, 8-bit, poly=0x07". -/
def rfcCrctable : List UInt8 := [
  0x00, 0x91, 0xE3, 0x72, 0x07, 0x96, 0xE4, 0x75, 0x0E, 0x9F, 0xED, 0x7C, 0x09, 0x98, 0xEA,
  0x7B, 0x1C, 0x8D, 0xFF, 0x6E, 0x1B, 0x8A, 0xF8, 0x69, 0x12, 0x83, 0xF1, 0x60, 0x15, 0x84,
  0xF6, 0x67, 0x38, 0xA9, 0xDB, 0x4A, 0x3F, 0xAE, 0xDC, 0x4D, 0x36, 0xA7, 0xD5, 0x44, 0x31,
  0xA0, 0xD2, 0x43, 0x24, 0xB5, 0xC7, 0x56, 0x23, 0xB2, 0xC0, 0x51, 0x2A, 0xBB, 0xC9, 0x58,
  0x2D, 0xBC, 0xCE, 0x5F, 0x70, 0xE1, 0x93, 0x02, 0x77, 0xE6, 0x94, 0x05, 0x7E, 0xEF, 0x9D,
  0x0C, 0x79, 0xE8, 0x9A, 0x0B, 0x6C, 0xFD, 0x8F, 0x1E, 0x6B, 0xFA, 0x88, 0x19, 0x62, 0xF3,
  0x81, 0x10, 0x65, 0xF4, 0x86, 0x17, 0x48, 0xD9, 0xAB, 0x3A, 0x4F, 0xDE, 0xAC, 0x3D, 0x46,
  0xD7, 0xA5, 0x34, 0x41, 0xD0, 0xA2, 0x33, 0x54, 0xC5, 0xB7, 0x26, 0x53, 0xC2, 0xB0, 0x21,
  0x5A, 0xCB, 0xB9, 0x28, 0x5D, 0xCC, 0xBE, 0x2F, 0xE0, 0x71, 0x03, 0x92, 0xE7, 0x76, 0x04,
  0x95, 0xEE, 0x7F, 0x0D, 0x9C, 0xE9, 0x78, 0x0A, 0x9B, 0xFC, 0x6D, 0x1F, 0x8E, 0xFB, 0x6A,
  0x18, 0x89, 0xF2, 0x63, 0x11, 0x80, 0xF5, 0x64, 0x16, 0x87, 0xD8, 0x49, 0x3B, 0xAA, 0xDF,
  0x4E, 0x3C, 0xAD, 0xD6, 0x47, 0x35, 0xA4, 0xD1, 0x40, 0x32, 0xA3, 0xC4, 0x55, 0x27, 0xB6,
  0xC3, 0x52, 0x20, 0xB1, 0xCA, 0x5B, 0x29, 0xB8, 0xCD, 0x5C, 0x2E, 0xBF, 0x90, 0x01, 0x73,
  0xE2, 0x97, 0x06, 0x74, 0xE5, 0x9E, 0x0F, 0x7D, 0xEC, 0x99, 0x08, 0x7A, 0xEB, 0x8C, 0x1D,
  0x6F, 0xFE, 0x8B, 0x1A, 0x68, 0xF9, 0x82, 0x13, 0x61, 0xF0, 0x85, 0x14, 0x66, 0xF7, 0xA8,
  0x39, 0x4B, 0xDA, 0xAF, 0x3E, 0x4C, 0xDD, 0xA6, 0x37, 0x45, 0xD4, 0xA1, 0x30, 0x42, 0xD3,
  0xB4, 0x25, 0x57, 0xC6, 0xB3, 0x22, 0x50, 0xC1, 0xBA, 0x2B, 0x59, 0xC8, 0xBD, 0x2C, 0x5E,
  0xCF]

/-- The loop that rfc_calc_fcs and rfc_check_fcs share: `len` bytes through the table from
`0xFF`. -/
def fcsLoop (len : UInt16) (p : List UInt8) : UInt8 :=
  (p.take len.toNat).foldl (fun fcs b => rfcCrctable.getD (fcs ^^^ b).toNat 0) 0xFF

/-- rfc_calc_fcs: the ones' complement of the loop. -/
def rfcCalcFcs (len : UInt16) (p : List UInt8) : UInt8 :=
  0xFF - fcsLoop len p

/-- rfc_check_fcs: the received byte through the table after the message must give 0xCF. -/
def rfcCheckFcs (len : UInt16) (p : List UInt8) (receivedFcs : UInt8) : Bool :=
  rfcCrctable.getD (fcsLoop len p ^^^ receivedFcs).toNat 0 == 0xCF

/-- The generator $x^8 + x^2 + x + 1$, most significant bit first, its $x^8$ term implicit. -/
def gsmFcsPoly : UInt8 := 0x07

/-- The GSM 07.10 frame check sequence: the reflected CRC-8 of `gsmFcsPoly` from all ones,
complemented. -/
def gsmFcs (s : List UInt8) : UInt8 := ~~~(Crc8.crc (Crc8.reflect gsmFcsPoly) 0xFF s)

theorem reflect_gsmFcsPoly : Crc8.reflect gsmFcsPoly = 0xE0 := by decide

/-- Each entry of the table is eight clocks of the register from its index. -/
theorem rfcCrctable_getD (c : UInt8) :
    rfcCrctable.getD c.toNat 0 = Crc8.shifts (Crc8.reflect gsmFcsPoly) 8 c := by
  rw [reflect_gsmFcsPoly]
  exact Crc8.forall_of_toBitVec
    (P := fun c => rfcCrctable.getD c.toNat 0 = Crc8.shifts 0xE0 8 c) (by decide) c

theorem fcsLoop_eq_crc (len : UInt16) (p : List UInt8) :
    fcsLoop len p = Crc8.crc (Crc8.reflect gsmFcsPoly) 0xFF (p.take len.toNat) := by
  have hstep : (fun fcs b => rfcCrctable.getD (fcs ^^^ b).toNat 0) =
      Crc8.feed (Crc8.reflect gsmFcsPoly) := by
    funext fcs b
    exact rfcCrctable_getD (fcs ^^^ b)
  rw [fcsLoop, hstep, Crc8.crc]

theorem sub_eq_complement (c : UInt8) : 0xFF - c = ~~~c :=
  Crc8.forall_of_toBitVec (P := fun c => 0xFF - c = ~~~c) (by decide) c

theorem complement_eq_xor (c : UInt8) : ~~~c = c ^^^ 0xFF :=
  Crc8.forall_of_toBitVec (P := fun c => ~~~c = c ^^^ 0xFF) (by decide) c

/-- rfc_calc_fcs computes the GSM 07.10 FCS of the `len` bytes it is given. -/
theorem rfcCalcFcs_eq_gsmFcs (len : UInt16) (p : List UInt8) :
    rfcCalcFcs len p = gsmFcs (p.take len.toNat) := by
  rw [rfcCalcFcs, sub_eq_complement, fcsLoop_eq_crc, gsmFcs]

/-- The register's residue for this polynomial is the 0xCF that rfc_check_fcs compares with. -/
theorem residue_gsmFcsPoly : Crc8.residue (Crc8.reflect gsmFcsPoly) = 0xCF := by
  rw [reflect_gsmFcsPoly]
  decide

/-- rfc_check_fcs accepts a byte exactly when it is the one rfc_calc_fcs computes. -/
theorem rfcCheckFcs_iff (len : UInt16) (p : List UInt8) (f : UInt8) :
    rfcCheckFcs len p f = true ↔ f = rfcCalcFcs len p := by
  have htop : Crc8.reflect gsmFcsPoly &&& 0x80 = 0x80 := by
    rw [reflect_gsmFcsPoly]
    decide
  rw [rfcCheckFcs, beq_iff_eq, rfcCrctable_getD, ← residue_gsmFcsPoly]
  rw [show Crc8.shifts (Crc8.reflect gsmFcsPoly) 8 (fcsLoop len p ^^^ f) =
    Crc8.feed (Crc8.reflect gsmFcsPoly) (fcsLoop len p) f from rfl]
  rw [Crc8.feed_eq_residue_iff htop, rfcCalcFcs, sub_eq_complement, complement_eq_xor]

/-! ## Frames -/

/-- RFCOMM_SABME, RFCOMM_UA, RFCOMM_DM, RFCOMM_DISC, RFCOMM_UIH: the frame types. -/
def rfcommSabme : UInt8 := 0x2F
def rfcommUa : UInt8 := 0x63
def rfcommDm : UInt8 := 0x0F
def rfcommDisc : UInt8 := 0x43
def rfcommUih : UInt8 := 0xEF

def rfcommCtrlFrameLen : Nat := 3
def rfcommEa : UInt8 := 1
def rfcommCrMask : UInt8 := 0x02
def rfcommShiftCr : UInt8 := 1
def rfcommShiftDlci : UInt8 := 2
def rfcommShiftDlci2 : UInt8 := 6
def rfcommPf : UInt8 := 0x10
def rfcommPfMask : UInt8 := 0x10
def rfcommPfOffset : UInt8 := 4
def rfcommShiftLength1 : UInt8 := 1
def rfcommShiftLength2 : Nat := 7
def rfcommMxDlci : UInt8 := 0
def rfcommMaxDlci : UInt8 := 61

/-- RFCOMM_CR: the C/R bit of a frame sent by the initiator or the responder, as a command or
a response. -/
def rfcommCr (initiator isCommand : Bool) : UInt8 :=
  if (initiator && isCommand) || (!initiator && !isCommand) then 2 else 0

/-- RFCOMM_FRAME_IS_CMD. -/
def rfcommFrameIsCmd (initiator : Bool) (cr : UInt8) : Bool :=
  (initiator && cr == 0) || (!initiator && cr != 0)

/-- RFCOMM_FRAME_IS_RSP. -/
def rfcommFrameIsRsp (initiator : Bool) (cr : UInt8) : Bool :=
  (initiator && cr != 0) || (!initiator && cr == 0)

/-- RFCOMM_VALID_DLCI. -/
def rfcommValidDlci (dlci : UInt8) : Bool :=
  dlci == 0 || (dlci ≥ 2 && dlci ≤ rfcommMaxDlci)

/-- The four bytes of a control frame: address, control field, an empty length and the check
over the three before it. The common body of rfc_send_sabme, rfc_send_ua, rfc_send_dm and
rfc_send_disc, which differ in the C/R bit and the control field. -/
def ctrlFrame (cr control dlci : UInt8) : List UInt8 :=
  let header := [rfcommEa ||| cr ||| (dlci <<< rfcommShiftDlci), control, rfcommEa ||| 0]
  header ++ [rfcCalcFcs 3 header]

/-- rfc_send_sabme: a command with P = 1. -/
def rfcSendSabme (isInitiator : Bool) (dlci : UInt8) : List UInt8 :=
  ctrlFrame (rfcommCr isInitiator true) (rfcommSabme ||| rfcommPf) dlci

/-- rfc_send_ua: a response with F = 1. -/
def rfcSendUa (isInitiator : Bool) (dlci : UInt8) : List UInt8 :=
  ctrlFrame (rfcommCr isInitiator false) (rfcommUa ||| rfcommPf) dlci

/-- rfc_send_dm: a response, its F bit given. -/
def rfcSendDm (isInitiator : Bool) (dlci : UInt8) (pf : Bool) : List UInt8 :=
  ctrlFrame (rfcommCr isInitiator false) (rfcommDm ||| (if pf then rfcommPf else 0)) dlci

/-- rfc_send_disc: a command with P = 1. -/
def rfcSendDisc (isInitiator : Bool) (dlci : UInt8) : List UInt8 :=
  ctrlFrame (rfcommCr isInitiator true) (rfcommDisc ||| rfcommPf) dlci

/-- The length field of rfc_send_buf_uih: one byte with the EA bit up to 127, else two. -/
def uihLength (len : Nat) : List UInt8 :=
  if len ≤ 127 then [rfcommEa ||| UInt8.ofNat (len <<< 1)]
  else [UInt8.ofNat ((len &&& 0x7f) <<< 1), UInt8.ofNat (len >>> rfcommShiftLength2)]

/-- rfc_send_buf_uih: the UIH frame around the buffer's payload, a command. A channel other than
the multiplexer's carries the credits of the buffer's layer_specific, and the P/F bit says that
they are there; the check covers the address and control fields only. -/
def rfcSendBufUih (isInitiator : Bool) (dlci : UInt8) (layerSpecific : UInt16)
    (payload : List UInt8) : List UInt8 :=
  let cr := rfcommCr isInitiator true
  let credits : UInt8 := if dlci ≠ 0 then layerSpecific.toUInt8 else 0
  let header := [rfcommEa ||| cr ||| (dlci <<< rfcommShiftDlci),
    rfcommUih ||| (if credits ≠ 0 then rfcommPf else 0)]
  let frame := header ++ uihLength payload.length ++ (if credits ≠ 0 then [credits] else []) ++
    payload
  frame ++ [rfcCalcFcs 2 header]

/-- The flow control of a multiplexer (PORT_FC_UNDEFINED, PORT_FC_TS710, PORT_FC_CREDIT). -/
inductive PortFlow
  | undefined
  | ts710
  | credit
  deriving DecidableEq, Repr

/-- The events rfc_parse_data returns. -/
inductive RfcEvent
  | sabme
  | ua
  | dm
  | disc
  | uih
  | badFrame
  deriving DecidableEq, Repr

/-- The fields of MX_FRAME that rfc_parse_data writes. -/
structure MxFrame where
  cr : UInt8
  dlci : UInt8
  type : UInt8
  pf : UInt8
  credit : UInt8
  deriving DecidableEq, Repr

/-- What rfc_parse_data returns and leaves: the event, the frame's fields, and the buffer's offset
(from where it stood) and length. -/
structure ParseResult where
  event : RfcEvent
  frame : MxFrame
  offset : Nat
  len : Nat
  deriving DecidableEq, Repr

/-- C's logical negation of a byte, as a number. -/
def notB (x : UInt8) : Nat := if x = 0 then 1 else 0

/-- \`k\` bytes from the start of the buffer, which must hold them. -/
def readPrefix (buf : List UInt8) (k : Nat) : Option (List UInt8) :=
  if k ≤ buf.length then some (buf.take k) else none

/-- The switch of rfc_parse_data on the frame type. A control frame must carry an empty
information field and its P/F bit and C/R bit as the type requires; the check covers the first
three bytes of a control frame and the first two of a UIH frame. -/
def frameEvent (isInitiator : Bool) (frame : MxFrame) (len : Nat) (start : List UInt8)
    (fcs : UInt8) : Option RfcEvent := do
  if frame.type = rfcommSabme then
    if rfcommFrameIsRsp isInitiator frame.cr || frame.pf == 0 || len != 0 ||
        !rfcommValidDlci frame.dlci then return .badFrame
    let header ← readPrefix start 3
    return if rfcCheckFcs 3 header fcs then .sabme else .badFrame
  if frame.type = rfcommUa then
    if rfcommFrameIsCmd isInitiator frame.cr || frame.pf == 0 || len != 0 ||
        !rfcommValidDlci frame.dlci then return .badFrame
    let header ← readPrefix start 3
    return if rfcCheckFcs 3 header fcs then .ua else .badFrame
  if frame.type = rfcommDm then
    if rfcommFrameIsCmd isInitiator frame.cr || len != 0 || !rfcommValidDlci frame.dlci then
      return .badFrame
    let header ← readPrefix start 3
    return if rfcCheckFcs 3 header fcs then .dm else .badFrame
  if frame.type = rfcommDisc then
    if rfcommFrameIsRsp isInitiator frame.cr || frame.pf == 0 || len != 0 ||
        !rfcommValidDlci frame.dlci then return .badFrame
    let header ← readPrefix start 3
    return if rfcCheckFcs 3 header fcs then .disc else .badFrame
  if frame.type = rfcommUih then
    if !rfcommValidDlci frame.dlci then return .badFrame
    let header ← readPrefix start 2
    -- a UIH frame with the response C/R bit is let through as well
    return if rfcCheckFcs 2 header fcs then .uih else .badFrame
  return .badFrame

/-- The end of rfc_parse_data once the credit byte is taken: the length must match the
information field, and the check byte after it decides the event. -/
def checkFrame (isInitiator : Bool) (frame : MxFrame) (buf : List UInt8) (offset bufLen len : Nat) :
    Option ParseResult := do
  if bufLen ≠ len then return ⟨.badFrame, frame, offset, bufLen⟩
  let fcs ← buf[offset + len]?
  let event ← frameEvent isInitiator frame len buf fcs
  return ⟨event, frame, offset, bufLen⟩

/-- rfc_parse_data: a frame received on a multiplexer whose side and flow control are given.
Each byte is read through an \`Option\` that fails past the end of the buffer. -/
def rfcParseData (isInitiator : Bool) (flow : PortFlow) (frame : MxFrame) (buf : List UInt8) :
    Option ParseResult := do
  if buf.length < rfcommCtrlFrameLen then return ⟨.badFrame, frame, 0, buf.length⟩
  -- RFCOMM_PARSE_CTRL_FIELD reads a second address byte where the first lacks its EA bit
  let b0 ← buf[0]?
  let ead := b0 &&& rfcommEa
  let cr := (b0 &&& rfcommCrMask) >>> rfcommShiftCr
  let dlci := b0 >>> rfcommShiftDlci
  if ead = 0 then
    let b1 ← buf[1]?
    return ⟨.badFrame, { frame with cr := cr, dlci := dlci + (b1 <<< rfcommShiftDlci2) }, 0, buf.length⟩
  -- RFCOMM_PARSE_TYPE_FIELD
  let b1 ← buf[1]?
  let frame := { frame with
    cr := cr, dlci := dlci, type := b1 &&& ~~~rfcommPfMask,
    pf := (b1 &&& rfcommPfMask) >>> rfcommPfOffset }
  let b2 ← buf[2]?
  let eal := b2 &&& rfcommEa
  if eal = 0 ∧ buf.length ≤ rfcommCtrlFrameLen then return ⟨.badFrame, frame, 0, buf.length⟩
  let len ← if eal = 0 then
      buf[3]?.map fun b3 => (b2 >>> rfcommShiftLength1).toNat + (b3.toNat <<< rfcommShiftLength2)
    else some (b2 >>> rfcommShiftLength1).toNat
  if buf.length < 3 + notB ead + notB eal + 1 then return ⟨.badFrame, frame, 0, buf.length⟩
  let bufLen := buf.length - (3 + notB ead + notB eal + 1)
  let offset := 3 + notB ead + notB eal
  -- the credit byte of credit based flow control
  if flow = .credit ∧ frame.type = rfcommUih ∧ frame.dlci ≠ rfcommMxDlci ∧ frame.pf = 1 then
    if bufLen < 1 then return ⟨.badFrame, frame, offset, bufLen⟩
    let credit ← buf[offset]?
    checkFrame isInitiator { frame with credit := credit } buf (offset + 1) (bufLen - 1) len
  else
    checkFrame isInitiator { frame with credit := 0 } buf offset bufLen len

/-! ## Multiplexer control messages -/

/-- The message types and lengths of the multiplexer channel (RFCOMM_MX_*). -/
def rfcommMxPn : UInt8 := 0x80
def rfcommMxPnLen : Nat := 8
def rfcommMxTest : UInt8 := 0x20
def rfcommMxFcon : UInt8 := 0xA0
def rfcommMxFconLen : Nat := 0
def rfcommMxFcoff : UInt8 := 0x60
def rfcommMxFcoffLen : Nat := 0
def rfcommMxMsc : UInt8 := 0xE0
def rfcommMxMscLenNoBreak : Nat := 2
def rfcommMxMscLenWithBreak : Nat := 3
def rfcommMxNsc : UInt8 := 0x10
def rfcommMxNscLen : Nat := 1
def rfcommMxRpn : UInt8 := 0x90
def rfcommMxRpnReqLen : Nat := 1
def rfcommMxRpnLen : Nat := 8
def rfcommMxRls : UInt8 := 0x50
def rfcommMxRlsLen : Nat := 2

def rfcommEaMask : UInt8 := 0x01
def rfcommPnDlciMask : UInt8 := 0x3F
def rfcommPnFrameTypeMask : UInt8 := 0x0F
def rfcommPnConvLayerMask : UInt8 := 0xF0
def rfcommPnPriorityMask : UInt8 := 0x3F
def rfcommPnKMask : UInt8 := 0x07
def rfcommMinMtu : Nat := 23
def rfcommMaxMtu : Nat := 32767
def rfcommMscBreakPresentMask : UInt8 := 0x02
def rfcommMscBreakMask : UInt8 := 0xF0
def rfcommMscShiftBreak : UInt8 := 4
def rfcommRpnBitsMask : UInt8 := 0x03
def rfcommRpnBitsShift : UInt8 := 0
def rfcommRpnStopBitsMask : UInt8 := 0x01
def rfcommRpnStopBitsShift : UInt8 := 2
def rfcommRpnParityMask : UInt8 := 0x01
def rfcommRpnParityShift : UInt8 := 3
def rfcommRpnParityTypeMask : UInt8 := 0x03
def rfcommRpnParityTypeShift : UInt8 := 4
def rfcommFcMask : UInt8 := 0x3F
def rfcommRpnPmMask : Nat := 0x3F7F

/-- The fields of a DLC parameter negotiation (u.pn), with the frame's DLCI. -/
structure PnParams where
  dlci : UInt8
  frameType : UInt8
  convLayer : UInt8
  priority : UInt8
  t1 : UInt8
  mtu : Nat
  n2 : UInt8
  k : UInt8
  deriving DecidableEq, Repr

/-- The fields of a remote port negotiation that is not a request (u.rpn). -/
structure RpnParams where
  baudRate : UInt8
  byteSize : UInt8
  stopBits : UInt8
  parity : UInt8
  parityType : UInt8
  fcType : UInt8
  xonChar : UInt8
  xoffChar : UInt8
  paramMask : Nat
  deriving DecidableEq, Repr

/-- What rfc_process_mx_message does with a message: drops it, hands its fields to one of the
rfc_process_* handlers (or the TEST buffer to rfc_send_test or rfc_process_test_rsp), or, where the
switch breaks, drops it and answers a command with NSC. -/
inductive MxMessage
  | dropped
  | pn (isCommand : Bool) (params : PnParams)
  | test (isCommand : Bool) (data : List UInt8)
  | fcon (isCommand : Bool)
  | fcoff (isCommand : Bool)
  | msc (isCommand : Bool) (dlci signals breakPresent breakDuration : UInt8)
  | nsc (ea cr type : UInt8)
  | rpn (isCommand isRequest : Bool) (dlci : UInt8) (params : Option RpnParams)
  | rls (isCommand : Bool) (dlci lineStatus : UInt8)
  | notSupported (isCommand : Bool)
  deriving DecidableEq, Repr

/-- The PN case of rfc_process_mx_message: eight bytes of parameters from \`pos\`; a DLCI or an MTU
out of range makes the switch break. -/
def mxPn (buf : List UInt8) (isCommand : Bool) (length pos : Nat) : Option MxMessage := do
  if length ≠ rfcommMxPnLen then return .notSupported isCommand
  let b0 ← buf[pos]?
  let b1 ← buf[pos + 1]?
  let b2 ← buf[pos + 2]?
  let b3 ← buf[pos + 3]?
  let b4 ← buf[pos + 4]?
  let b5 ← buf[pos + 5]?
  let b6 ← buf[pos + 6]?
  let b7 ← buf[pos + 7]?
  let params : PnParams := ⟨b0 &&& rfcommPnDlciMask, b1 &&& rfcommPnFrameTypeMask,
    b1 &&& rfcommPnConvLayerMask, b2 &&& rfcommPnPriorityMask, b3, b4.toNat + (b5.toNat <<< 8),
    b6, b7 &&& rfcommPnKMask⟩
  if params.dlci = 0 ∨ !rfcommValidDlci params.dlci ∨ params.mtu < rfcommMinMtu ∨
      params.mtu > rfcommMaxMtu then return .notSupported isCommand
  return .pn isCommand params

/-- The DLCI byte that MSC, RPN and RLS begin with is refused without its EA and C/R bits or with
a DLCI that is zero or out of range. -/
def mxDlciBad (b0 : UInt8) : Bool :=
  b0 &&& rfcommEa == 0 || (b0 &&& rfcommCrMask) >>> rfcommShiftCr == 0 ||
    b0 >>> rfcommShiftDlci == 0 || !rfcommValidDlci (b0 >>> rfcommShiftDlci)

/-- The MSC case: a DLCI byte and the signals, then a break byte where the length is three.
A length other than two or three drops the message without an answer. -/
def mxMsc (buf : List UInt8) (isCommand : Bool) (mxLen : UInt8) (length pos : Nat) :
    Option MxMessage := do
  if length ≠ rfcommMxMscLenWithBreak ∧ length ≠ rfcommMxMscLenNoBreak then return .dropped
  let b0 ← buf[pos]?
  if mxDlciBad b0 then return .notSupported isCommand
  let signals ← buf[pos + 1]?
  if mxLen.toNat = rfcommMxMscLenWithBreak then
    let b2 ← buf[pos + 2]?
    return .msc isCommand (b0 >>> rfcommShiftDlci) signals (b2 &&& rfcommMscBreakPresentMask)
      ((b2 &&& rfcommMscBreakMask) >>> rfcommMscShiftBreak)
  return .msc isCommand (b0 >>> rfcommShiftDlci) signals 0 0

/-- The NSC case: one byte, and only as a command. -/
def mxNsc (buf : List UInt8) (isCommand : Bool) (length pos : Nat) : Option MxMessage := do
  if length ≠ rfcommMxNscLen ∨ !isCommand then return .notSupported isCommand
  let b0 ← buf[pos]?
  return .nsc (b0 &&& rfcommEa) ((b0 &&& rfcommCrMask) >>> rfcommShiftCr) (b0 >>> rfcommShiftDlci)

/-- The RPN case: a DLCI byte alone is a request; otherwise seven bytes of parameters follow. -/
def mxRpn (buf : List UInt8) (isCommand : Bool) (length pos : Nat) : Option MxMessage := do
  if length ≠ rfcommMxRpnReqLen ∧ length ≠ rfcommMxRpnLen then return .notSupported isCommand
  let b0 ← buf[pos]?
  if mxDlciBad b0 then return .notSupported isCommand
  if length = rfcommMxRpnReqLen then return .rpn isCommand true (b0 >>> rfcommShiftDlci) none
  let baudRate ← buf[pos + 1]?
  let b2 ← buf[pos + 2]?
  let fc ← buf[pos + 3]?
  let xon ← buf[pos + 4]?
  let xoff ← buf[pos + 5]?
  let pm0 ← buf[pos + 6]?
  let pm1 ← buf[pos + 7]?
  return .rpn isCommand false (b0 >>> rfcommShiftDlci) (some ⟨baudRate,
    (b2 >>> rfcommRpnBitsShift) &&& rfcommRpnBitsMask,
    (b2 >>> rfcommRpnStopBitsShift) &&& rfcommRpnStopBitsMask,
    (b2 >>> rfcommRpnParityShift) &&& rfcommRpnParityMask,
    (b2 >>> rfcommRpnParityTypeShift) &&& rfcommRpnParityTypeMask,
    fc &&& rfcommFcMask, xon, xoff, (pm0.toNat + (pm1.toNat <<< 8)) &&& rfcommRpnPmMask⟩)

/-- The RLS case: a DLCI byte and the line status, both read before the DLCI is checked. -/
def mxRls (buf : List UInt8) (isCommand : Bool) (length pos : Nat) : Option MxMessage := do
  if length ≠ rfcommMxRlsLen then return .notSupported isCommand
  let b0 ← buf[pos]?
  let lineStatus ← (buf[pos + 1]?).map fun b => b &&& ~~~0x01
  if mxDlciBad b0 then return .notSupported isCommand
  return .rls isCommand (b0 >>> rfcommShiftDlci) lineStatus

/-- The switch of rfc_process_mx_message on the message type, once the length field is read:
\`length\` bytes of value follow from \`pos\`. -/
def mxMessage (buf : List UInt8) (isCommand : Bool) (type mxLen : UInt8) (length pos : Nat) :
    Option MxMessage :=
  if mxLen.toNat ≠ length then some .dropped
  else if type = rfcommMxPn then mxPn buf isCommand length pos
  else if type = rfcommMxTest then
    if length = 0 then some (.notSupported isCommand)
    -- the buffer is handed on with its offset moved by two, whatever the length field took
    else some (.test isCommand (buf.drop 2))
  else if type = rfcommMxFcon then
    some (if length ≠ rfcommMxFconLen then .notSupported isCommand else .fcon isCommand)
  else if type = rfcommMxFcoff then
    some (if length ≠ rfcommMxFcoffLen then .notSupported isCommand else .fcoff isCommand)
  else if type = rfcommMxMsc then mxMsc buf isCommand mxLen length pos
  else if type = rfcommMxNsc then mxNsc buf isCommand length pos
  else if type = rfcommMxRpn then mxRpn buf isCommand length pos
  else if type = rfcommMxRls then mxRls buf isCommand length pos
  else some (.notSupported isCommand)

/-- rfc_process_mx_message: a UIH frame on the multiplexer channel, its information field
\`buf\`. The type byte, then the length in one byte or two; the length kept in a byte, as
mx_len is. -/
def rfcProcessMxMessage (buf : List UInt8) : Option MxMessage := do
  if buf.length < 2 then return .dropped
  let b0 ← buf[0]?
  let type := b0 &&& ~~~(rfcommCrMask ||| rfcommEaMask)
  if b0 &&& rfcommEa = 0 ∨ buf.length = 0 then return .dropped
  let isCommand := (b0 &&& rfcommCrMask) >>> rfcommShiftCr ≠ 0
  let b1 ← buf[1]?
  let mxLen := b1 >>> rfcommShiftLength1
  if b1 &&& rfcommEa = 0 then
    if buf.length - 2 < 1 then return .dropped
    let b2 ← buf[2]?
    mxMessage buf isCommand type (mxLen + (b2 <<< 7)) (buf.length - 3) 3
  else
    mxMessage buf isCommand type mxLen (buf.length - 2) 2

/-! ## Frames read back -/

theorem rfcommCr_cases (i c : Bool) : rfcommCr i c = 0 ∨ rfcommCr i c = 2 := by
  cases i <;> cases c <;> simp [rfcommCr]

theorem address_fields (i c : Bool) : ∀ dlci : UInt8, dlci ≤ rfcommMaxDlci →
    (rfcommEa ||| rfcommCr i c ||| (dlci <<< rfcommShiftDlci)) &&& rfcommEa ≠ 0 ∧
    ((rfcommEa ||| rfcommCr i c ||| (dlci <<< rfcommShiftDlci)) &&& rfcommCrMask) >>> rfcommShiftCr =
      rfcommCr i c >>> 1 ∧
    (rfcommEa ||| rfcommCr i c ||| (dlci <<< rfcommShiftDlci)) >>> rfcommShiftDlci = dlci := by
  rcases rfcommCr_cases i c with hcr | hcr <;> rw [hcr] <;>
    exact Crc8.forall_of_toBitVec (by decide)

/-- The fields rfc_parse_data reads from an address byte and a control field, no credit taken. -/
def headerFields (a control : UInt8) : MxFrame :=
  ⟨(a &&& rfcommCrMask) >>> rfcommShiftCr, a >>> rfcommShiftDlci, control &&& ~~~rfcommPfMask,
    (control &&& rfcommPfMask) >>> rfcommPfOffset, 0⟩

/-- A frame of four bytes with an empty one-byte length field and a type other than UIH parses
into its header's fields, its event left to the switch. -/
theorem rfcParseData_four (isInitiator : Bool) (flow : PortFlow) (fr : MxFrame)
    (a control e f : UInt8) (hea : a &&& rfcommEa ≠ 0) (heal : e &&& rfcommEa ≠ 0)
    (hlen : e >>> rfcommShiftLength1 = 0) (hc : control &&& ~~~rfcommPfMask ≠ rfcommUih) :
    rfcParseData isInitiator flow fr [a, control, e, f] =
      (frameEvent isInitiator (headerFields a control) 0 [a, control, e, f] f).map
        fun ev => ⟨ev, headerFields a control, 3, 0⟩ := by
  simp only [rfcParseData, checkFrame, List.getElem?_cons_zero, List.getElem?_cons_succ,
    Option.bind_eq_bind, Option.bind_some]
  simp [notB, rfcommCtrlFrameLen, hea, heal, hlen, hc, headerFields, Option.map_eq_bind]

theorem ctrlFrame_eq (cr control dlci : UInt8) :
    ctrlFrame cr control dlci =
      [rfcommEa ||| cr ||| (dlci <<< rfcommShiftDlci), control, rfcommEa ||| 0,
        rfcCalcFcs 3 [rfcommEa ||| cr ||| (dlci <<< rfcommShiftDlci), control, rfcommEa ||| 0]] :=
  rfl

theorem frameIsRsp_peer (i c : Bool) : rfcommFrameIsRsp (!i) (rfcommCr i c >>> 1) = !c := by
  cases i <;> cases c <;> decide

theorem frameIsCmd_peer (i c : Bool) : rfcommFrameIsCmd (!i) (rfcommCr i c >>> 1) = c := by
  cases i <;> cases c <;> decide

theorem validDlci_le {dlci : UInt8} (h : rfcommValidDlci dlci = true) : dlci ≤ rfcommMaxDlci := by
  revert dlci h
  apply Crc8.forall_of_toBitVec
  decide

/-- The control field of a frame type whose P/F bit is clear, with the bit set or not. -/
theorem control_fields (t : UInt8) (pf : Bool) (ht : t &&& rfcommPfMask = 0) :
    (t ||| (if pf then rfcommPf else 0)) &&& ~~~rfcommPfMask = t ∧
    ((t ||| (if pf then rfcommPf else 0)) &&& rfcommPfMask) >>> rfcommPfOffset =
      if pf then 1 else 0 := by
  revert t
  cases pf <;> apply Crc8.forall_of_toBitVec <;> decide

/-- A control frame sent by one side parses on the other into the header it was sent with; its
event is left to the switch. -/
theorem rfcParseData_ctrlFrame (i c : Bool) (flow : PortFlow) (fr : MxFrame) (t dlci : UInt8)
    (pf : Bool) (hd : rfcommValidDlci dlci = true) (ht : t &&& rfcommPfMask = 0)
    (huih : t ≠ rfcommUih) :
    rfcParseData (!i) flow fr (ctrlFrame (rfcommCr i c) (t ||| (if pf then rfcommPf else 0)) dlci) =
      (frameEvent (!i) ⟨rfcommCr i c >>> 1, dlci, t, if pf then 1 else 0, 0⟩ 0
        (ctrlFrame (rfcommCr i c) (t ||| (if pf then rfcommPf else 0)) dlci)
        (rfcCalcFcs 3 ((ctrlFrame (rfcommCr i c) (t ||| (if pf then rfcommPf else 0)) dlci).take 3))).map
      fun ev => ⟨ev, ⟨rfcommCr i c >>> 1, dlci, t, if pf then 1 else 0, 0⟩, 3, 0⟩ := by
  obtain ⟨hea, hcr, hdlci⟩ := address_fields i c dlci (validDlci_le hd)
  obtain ⟨htype, hpf⟩ := control_fields t pf ht
  rw [ctrlFrame_eq, rfcParseData_four _ _ _ _ _ _ _ hea (by decide) (by decide) (by rw [htype]; exact huih)]
  simp only [headerFields, hcr, hdlci, htype, hpf, List.take_succ_cons, List.take_zero]

theorem rfcParseData_rfcSendSabme (i : Bool) (flow : PortFlow) (fr : MxFrame) (dlci : UInt8)
    (hd : rfcommValidDlci dlci = true) :
    (rfcParseData (!i) flow fr (rfcSendSabme i dlci)).map (fun r => (r.event, r.frame.dlci)) =
      some (.sabme, dlci) := by
  have h := rfcParseData_ctrlFrame i true flow fr rfcommSabme dlci true hd (by decide) (by decide)
  rw [if_pos rfl] at h
  rw [rfcSendSabme, h]
  simp [frameEvent, frameIsRsp_peer, hd, readPrefix, ctrlFrame_eq, (rfcCheckFcs_iff _ _ _).mpr rfl,
    rfcommSabme]

theorem rfcParseData_rfcSendUa (i : Bool) (flow : PortFlow) (fr : MxFrame) (dlci : UInt8)
    (hd : rfcommValidDlci dlci = true) :
    (rfcParseData (!i) flow fr (rfcSendUa i dlci)).map (fun r => (r.event, r.frame.dlci)) =
      some (.ua, dlci) := by
  have h := rfcParseData_ctrlFrame i false flow fr rfcommUa dlci true hd (by decide) (by decide)
  rw [if_pos rfl] at h
  rw [rfcSendUa, h]
  simp [frameEvent, frameIsCmd_peer, hd, readPrefix, ctrlFrame_eq, (rfcCheckFcs_iff _ _ _).mpr rfl,
    rfcommSabme, rfcommUa]

theorem rfcParseData_rfcSendDm (i : Bool) (flow : PortFlow) (fr : MxFrame) (dlci : UInt8)
    (pf : Bool) (hd : rfcommValidDlci dlci = true) :
    (rfcParseData (!i) flow fr (rfcSendDm i dlci pf)).map (fun r => (r.event, r.frame.dlci)) =
      some (.dm, dlci) := by
  rw [rfcSendDm, rfcParseData_ctrlFrame i false flow fr rfcommDm dlci pf hd (by decide) (by decide)]
  simp [frameEvent, frameIsCmd_peer, hd, readPrefix, ctrlFrame_eq, (rfcCheckFcs_iff _ _ _).mpr rfl,
    rfcommSabme, rfcommUa, rfcommDm]

theorem rfcParseData_rfcSendDisc (i : Bool) (flow : PortFlow) (fr : MxFrame) (dlci : UInt8)
    (hd : rfcommValidDlci dlci = true) :
    (rfcParseData (!i) flow fr (rfcSendDisc i dlci)).map (fun r => (r.event, r.frame.dlci)) =
      some (.disc, dlci) := by
  have h := rfcParseData_ctrlFrame i true flow fr rfcommDisc dlci true hd (by decide) (by decide)
  rw [if_pos rfl] at h
  rw [rfcSendDisc, h]
  simp [frameEvent, frameIsRsp_peer, hd, readPrefix, ctrlFrame_eq, (rfcCheckFcs_iff _ _ _).mpr rfl,
    rfcommSabme, rfcommUa, rfcommDm, rfcommDisc]

/-- A length of at most 127 in one byte, the EA bit set. -/
theorem uihLength_short : ∀ n, n < 128 →
    (rfcommEa ||| UInt8.ofNat (n <<< 1)) &&& rfcommEa ≠ 0 ∧
    ((rfcommEa ||| UInt8.ofNat (n <<< 1)) >>> rfcommShiftLength1).toNat = n := by
  decide

/-- The low seven bits of a length in the first of two bytes, the EA bit clear. -/
theorem uihLength_low : ∀ m, m < 128 →
    UInt8.ofNat (m <<< 1) &&& rfcommEa = 0 ∧ (UInt8.ofNat (m <<< 1) >>> rfcommShiftLength1).toNat = m := by
  decide

/-- A length of 128 to 32767 in two bytes reads back whole. -/
theorem uihLength_long {n : Nat} (hn : n < 32768) :
    UInt8.ofNat ((n &&& 0x7f) <<< 1) &&& rfcommEa = 0 ∧
    (UInt8.ofNat ((n &&& 0x7f) <<< 1) >>> rfcommShiftLength1).toNat +
      (UInt8.ofNat (n >>> rfcommShiftLength2)).toNat <<< rfcommShiftLength2 = n := by
  have hmask : n &&& 0x7f = n % 128 := Nat.and_two_pow_sub_one_eq_mod n 7
  obtain ⟨hea, hlow⟩ := uihLength_low (n % 128) (Nat.mod_lt n (by decide))
  have hhigh : (UInt8.ofNat (n >>> rfcommShiftLength2)).toNat = n / 128 := by
    rw [Nat.shiftRight_eq_div_pow, rfcommShiftLength2]
    exact UInt8.toNat_ofNat_of_lt' (by simp [UInt8.size]; omega)
  refine ⟨hmask ▸ hea, ?_⟩
  rw [hmask, hlow, hhigh, Nat.shiftLeft_eq, rfcommShiftLength2]
  omega

/-- The end of the parse of a frame whose information field and check byte close it. -/
theorem checkFrame_of_append (isInitiator : Bool) (frame : MxFrame) (pre payload : List UInt8)
    (f : UInt8) {buf : List UInt8} {offset bufLen : Nat} (hbuf : buf = pre ++ payload ++ [f])
    (hoff : offset = pre.length) (hlen : bufLen = payload.length) :
    checkFrame isInitiator frame buf offset bufLen payload.length =
      (frameEvent isInitiator frame payload.length buf f).map
        fun ev => ⟨ev, frame, offset, bufLen⟩ := by
  subst hbuf hoff hlen
  simp [checkFrame, Option.map_eq_bind]

/-- The switch passes a UIH frame on a valid DLCI whose check byte is right. -/
theorem frameEvent_uih (isInitiator : Bool) (frame : MxFrame) (len : Nat) (a u f : UInt8)
    (rest : List UInt8) (htype : frame.type = rfcommUih) (hd : rfcommValidDlci frame.dlci = true)
    (hf : rfcCalcFcs 2 [a, u] = f) :
    frameEvent isInitiator frame len (a :: u :: rest) f = some .uih := by
  subst hf
  simp [frameEvent, htype, hd, readPrefix, (rfcCheckFcs_iff _ _ _).mpr rfl, rfcommSabme, rfcommUa,
    rfcommDm, rfcommDisc, rfcommUih]

theorem uih_control_fields (c : UInt8) :
    (rfcommUih ||| (if c ≠ 0 then rfcommPf else 0)) &&& ~~~rfcommPfMask = rfcommUih ∧
    ((rfcommUih ||| (if c ≠ 0 then rfcommPf else 0)) &&& rfcommPfMask) >>> rfcommPfOffset =
      if c ≠ 0 then 1 else 0 := by
  by_cases hc : c = 0 <;> simp only [hc, ne_eq, not_true_eq_false, not_false_eq_true, if_true,
    if_false] <;> decide

theorem rfcParseData_rfcSendBufUih (i : Bool) (flow : PortFlow) (fr : MxFrame) (dlci c : UInt8)
    (payload : List UInt8) (hd : rfcommValidDlci dlci = true) (hlen : payload.length ≤ 32767)
    (hc : c ≠ 0 → dlci ≠ 0 ∧ flow = .credit) :
    ∃ r, rfcParseData (!i) flow fr (rfcSendBufUih i dlci c.toUInt16 payload) = some r ∧
      r.event = .uih ∧ r.frame.dlci = dlci ∧ r.frame.credit = c ∧
      ((rfcSendBufUih i dlci c.toUInt16 payload).drop r.offset).take r.len = payload := by
  have hcredits : (if dlci ≠ 0 then c.toUInt16.toUInt8 else 0) = c := by
    by_cases hc0 : c = 0
    · simp [hc0]
    · simp [(hc hc0).1]
  obtain ⟨hea, hcr, hdlci⟩ := address_fields i true dlci (validDlci_le hd)
  obtain ⟨htype, hpf⟩ := uih_control_fields c
  simp only [rfcSendBufUih, hcredits]
  generalize rfcommEa ||| rfcommCr i true ||| (dlci <<< rfcommShiftDlci) = a at hea hcr hdlci ⊢
  generalize rfcommUih ||| (if c ≠ 0 then rfcommPf else 0) = u at htype hpf ⊢
  generalize hf : rfcCalcFcs 2 [a, u] = f
  by_cases hshort : payload.length ≤ 127
  · obtain ⟨heal, hl⟩ := uihLength_short payload.length (by omega)
    simp only [uihLength, if_pos hshort]
    generalize rfcommEa ||| UInt8.ofNat (payload.length <<< 1) = l0 at heal hl ⊢
    by_cases hc0 : c = 0
    · simp only [hc0, ne_eq, not_true_eq_false, if_false, List.append_nil, List.cons_append,
        List.nil_append, rfcParseData, List.getElem?_cons_zero, List.getElem?_cons_succ,
        Option.bind_eq_bind, Option.bind_some]
      simp [hea, heal, hl, htype, hpf, hc0, hdlci, notB, rfcommCtrlFrameLen]
      rw [checkFrame_of_append _ _ [a, u, l0] payload f (by simp) (by simp) (by simp),
        frameEvent_uih _ _ _ a u f _ rfl hd hf]
      simp only [show ¬payload.length + 1 + 1 + 1 + 1 < 3 by omega,
        show ¬payload.length + 1 + 1 + 1 + 1 < 4 by omega, if_false]
      simp
    · obtain ⟨hdlci0, hflow⟩ := hc hc0
      simp only [hc0, ne_eq, not_false_eq_true, if_true, List.cons_append, List.nil_append,
        rfcParseData, List.getElem?_cons_zero, List.getElem?_cons_succ, Option.bind_eq_bind,
        Option.bind_some]
      simp [hea, heal, hl, htype, hpf, hc0, hdlci, hdlci0, hflow, notB, rfcommCtrlFrameLen,
        rfcommMxDlci]
      rw [checkFrame_of_append _ _ [a, u, l0, c] payload f (by simp) (by simp) (by simp),
        frameEvent_uih _ _ _ a u f _ rfl hd hf]
      simp only [show ¬payload.length + 1 + 1 + 1 + 1 + 1 < 3 by omega,
        show ¬payload.length + 1 + 1 + 1 + 1 + 1 < 4 by omega, if_false]
      simp
  · obtain ⟨heal, hl⟩ := uihLength_long (n := payload.length) (by omega)
    simp only [uihLength, if_neg hshort]
    generalize UInt8.ofNat ((payload.length &&& 0x7f) <<< 1) = l0 at heal hl ⊢
    generalize UInt8.ofNat (payload.length >>> rfcommShiftLength2) = l1 at hl ⊢
    by_cases hc0 : c = 0
    · simp only [hc0, ne_eq, not_true_eq_false, if_false, List.append_nil, List.cons_append,
        List.nil_append, rfcParseData, List.getElem?_cons_zero, List.getElem?_cons_succ,
        Option.bind_eq_bind, Option.bind_some, Option.map_some, hl]
      simp only [List.length_cons, List.length_append, List.length_nil, zero_add,
        rfcommCtrlFrameLen, Option.pure_def, hea, ↓reduceIte, heal, Nat.reduceLeDiff, and_false, notB,
        add_zero, Nat.reduceAdd, hdlci, htype, hpf, hc0, ne_eq, not_true_eq_false, Nat.reduceSubDiff]
      rw [checkFrame_of_append _ _ [a, u, l0, l1] payload f (by simp) (by simp) (by simp),
        frameEvent_uih _ _ _ a u f _ rfl hd hf]
      simp only [show ¬payload.length + 1 + 1 + 1 + 1 + 1 < 3 by omega,
        show ¬payload.length + 1 + 1 + 1 + 1 + 1 < 5 by omega, if_false]
      simp
    · obtain ⟨hdlci0, hflow⟩ := hc hc0
      simp only [hc0, ne_eq, not_false_eq_true, if_true, List.cons_append, List.nil_append,
        rfcParseData, List.getElem?_cons_zero, List.getElem?_cons_succ, Option.bind_eq_bind,
        Option.bind_some, Option.map_some, hl]
      simp only [List.length_cons, List.length_append, List.length_nil, zero_add,
        rfcommCtrlFrameLen, Option.pure_def, hea, ↓reduceIte, heal, Nat.reduceLeDiff, and_false, notB,
        add_zero, Nat.reduceAdd, hdlci, htype, hpf, ne_eq, hc0, not_false_eq_true, hflow, rfcommMxDlci,
        hdlci0, and_self, Nat.reduceSubDiff, Nat.lt_one_iff, Nat.add_eq_zero_iff,
        List.length_eq_zero_iff, one_ne_zero, Nat.lt_add_left_iff_pos, Nat.zero_lt_succ, getElem?_pos,
        List.getElem_cons_succ, List.getElem_cons_zero, Nat.add_one_sub_one, Option.bind_some]
      rw [checkFrame_of_append _ _ [a, u, l0, l1, c] payload f (by simp) (by simp) (by simp),
        frameEvent_uih _ _ _ a u f _ rfl hd hf]
      simp only [show ¬payload.length + 1 + 1 + 1 + 1 + 1 + 1 < 3 by omega,
        show ¬payload.length + 1 + 1 + 1 + 1 + 1 + 1 < 5 by omega, if_false]
      simp

theorem readPrefix_isSome {buf : List UInt8} {k : Nat} (h : k ≤ buf.length) :
    (readPrefix buf k).isSome := by
  simp [readPrefix, h]

/-- The switch reads no more than the first three bytes. -/
theorem frameEvent_isSome (isInitiator : Bool) (frame : MxFrame) (len : Nat) {start : List UInt8}
    (fcs : UInt8) (h : 3 ≤ start.length) : (frameEvent isInitiator frame len start fcs).isSome := by
  obtain ⟨h2, h3⟩ : (readPrefix start 2).isSome ∧ (readPrefix start 3).isSome :=
    ⟨readPrefix_isSome (by omega), readPrefix_isSome h⟩
  rw [Option.isSome_iff_exists] at h2 h3
  obtain ⟨p2, hp2⟩ := h2
  obtain ⟨p3, hp3⟩ := h3
  unfold frameEvent
  split_ifs <;> simp [hp2, hp3]

/-- The end of the parse reads the check byte at the last place of the buffer. -/
theorem checkFrame_isSome (isInitiator : Bool) (frame : MxFrame) {buf : List UInt8}
    {offset bufLen : Nat} (len : Nat) (hlast : offset + bufLen < buf.length)
    (h3 : 3 ≤ buf.length) : (checkFrame isInitiator frame buf offset bufLen len).isSome := by
  unfold checkFrame
  by_cases hlen : bufLen = len
  · subst hlen
    obtain ⟨ev, hev⟩ := Option.isSome_iff_exists.mp
      (frameEvent_isSome isInitiator frame bufLen (buf[offset + bufLen]) h3)
    simp [List.getElem?_eq_getElem hlast, hev]
  · simp [hlen]

theorem getElem?_bind_isSome {β : Type} {l : List UInt8} {i : Nat} {g : UInt8 → Option β}
    (h : i < l.length) (hg : ∀ x, (g x).isSome) : (l[i]?.bind g).isSome := by
  rw [List.getElem?_eq_getElem h]
  exact hg _

/-- rfc_parse_data reads only within the buffer it is given. -/
theorem rfcParseData_isSome (isInitiator : Bool) (flow : PortFlow) (frame : MxFrame)
    (buf : List UInt8) : (rfcParseData isInitiator flow frame buf).isSome := by
  rcases buf with _ | ⟨b0, _ | ⟨b1, _ | ⟨b2, rest⟩⟩⟩
  · simp [rfcParseData, rfcommCtrlFrameLen]
  · simp [rfcParseData, rfcommCtrlFrameLen]
  · simp [rfcParseData, rfcommCtrlFrameLen]
  rcases rest with _ | ⟨b3, rest⟩
  · -- three bytes: too short for any frame
    have h0 : 0 ≤ notB (b0 &&& rfcommEa) := Nat.zero_le _
    simp only [rfcParseData, List.getElem?_cons_zero, List.getElem?_cons_succ, Option.bind_eq_bind,
      Option.bind_some, List.length_cons, List.length_nil, rfcommCtrlFrameLen]
    split_ifs <;> first | rfl | omega | simp_all
  have hnotB : ∀ x : UInt8, notB x ≤ 1 := fun x => by unfold notB; split <;> omega
  have h0 := hnotB (b0 &&& rfcommEa)
  have h2 := hnotB (b2 &&& rfcommEa)
  simp only [rfcParseData, List.getElem?_cons_zero, List.getElem?_cons_succ, Option.bind_eq_bind,
    Option.bind_some, Option.map_some, List.length_cons]
  generalize b0 &&& rfcommEa = e0 at h0 ⊢
  generalize b2 &&& rfcommEa = e2 at h2 ⊢
  split_ifs <;> subst_vars <;> first
    | rfl
    | apply checkFrame_isSome <;> simp <;> omega
    | exact getElem?_bind_isSome (by simp; omega)
        fun _ => checkFrame_isSome _ _ _ (by simp; omega) (by simp)

/-! ## Reads within the buffer -/

section MxBounds

variable {buf : List UInt8} {isCommand : Bool} {length pos : Nat}

/-- Each case of the switch reads only the \`length\` bytes from \`pos\`, which end the buffer;
the cases are proved alike: the length guard fixes \`length\`, and then every read is in range. -/
theorem mxPn_isSome (h : pos + length = buf.length) : (mxPn buf isCommand length pos).isSome := by
  unfold mxPn
  split_ifs with hl
  · rfl
  · have hlen : length = 8 := by simpa [rfcommMxPnLen] using hl
    simp (disch := omega) only [List.getElem?_eq_getElem, Option.bind_eq_bind, Option.bind_some]
    split_ifs <;> rfl

theorem mxMsc_isSome (mxLen : UInt8) (h : pos + length = buf.length) (hlen : mxLen.toNat = length) :
    (mxMsc buf isCommand mxLen length pos).isSome := by
  unfold mxMsc
  by_cases hl : length ≠ rfcommMxMscLenWithBreak ∧ length ≠ rfcommMxMscLenNoBreak
  · rw [if_pos hl]
    rfl
  have hlen' : 2 ≤ length := by simp [rfcommMxMscLenWithBreak, rfcommMxMscLenNoBreak] at hl; omega
  rw [if_neg hl]
  simp (disch := omega) only [List.getElem?_eq_getElem, Option.bind_eq_bind, Option.bind_some]
  split_ifs with _ hbreak
  · rfl
  · have h3 : length = 3 := by rw [← hlen]; exact hbreak
    simp (disch := omega) only [List.getElem?_eq_getElem, Option.bind_some]
    rfl
  · rfl

theorem mxNsc_isSome (h : pos + length = buf.length) : (mxNsc buf isCommand length pos).isSome := by
  unfold mxNsc
  split_ifs with hl
  · rfl
  · have hlen : length = 1 := by simp [rfcommMxNscLen] at hl; exact hl.1
    simp (disch := omega) only [List.getElem?_eq_getElem, Option.bind_eq_bind, Option.bind_some]
    rfl

theorem mxRpn_isSome (h : pos + length = buf.length) : (mxRpn buf isCommand length pos).isSome := by
  unfold mxRpn
  by_cases hl : length ≠ rfcommMxRpnReqLen ∧ length ≠ rfcommMxRpnLen
  · rw [if_pos hl]
    rfl
  have hlen : length = 1 ∨ length = 8 := by simp [rfcommMxRpnReqLen, rfcommMxRpnLen] at hl; omega
  rw [if_neg hl, List.getElem?_eq_getElem (by omega : pos < buf.length)]
  simp only [Option.bind_eq_bind, Option.bind_some]
  split_ifs with _ hreq
  · rfl
  · rfl
  · have h8 : length = 8 := by simp [rfcommMxRpnReqLen] at hreq; omega
    simp (disch := omega) only [List.getElem?_eq_getElem, Option.bind_some]
    rfl

theorem mxRls_isSome (h : pos + length = buf.length) : (mxRls buf isCommand length pos).isSome := by
  unfold mxRls
  split_ifs with hl
  · rfl
  · have hlen : length = 2 := by simpa [rfcommMxRlsLen] using hl
    simp (disch := omega) only [List.getElem?_eq_getElem, Option.bind_eq_bind, Option.bind_some,
      Option.map_some]
    split_ifs <;> rfl

theorem mxMessage_isSome (type mxLen : UInt8) (h : pos + length = buf.length) :
    (mxMessage buf isCommand type mxLen length pos).isSome := by
  unfold mxMessage
  split_ifs with hlen
  · rfl
  · exact mxPn_isSome h
  all_goals first
    | rfl
    | exact mxMsc_isSome mxLen h (by simpa using hlen)
    | exact mxNsc_isSome h
    | exact mxRpn_isSome h
    | exact mxRls_isSome h

end MxBounds

/-- rfc_process_mx_message reads only within the information field it is given. -/
theorem rfcProcessMxMessage_isSome (buf : List UInt8) : (rfcProcessMxMessage buf).isSome := by
  rcases buf with _ | ⟨b0, _ | ⟨b1, rest⟩⟩
  · rfl
  · rfl
  simp only [rfcProcessMxMessage, List.getElem?_cons_zero, List.getElem?_cons_succ,
    Option.bind_eq_bind, Option.bind_some, List.length_cons]
  split_ifs with _ _ hea1 hshort
  · rfl
  · rfl
  · rfl
  · rcases rest with _ | ⟨b2, rest⟩
    · simp at hshort
    · simp only [List.getElem?_cons_zero, Option.bind_some]
      exact mxMessage_isSome _ _ (by simp; omega)
  · exact mxMessage_isSome _ _ (by simp; omega)

/-! ## The frame check sequence, the frames and the parsers together -/

/-- The FCS of rfc_calc_fcs is the GSM 07.10 one and rfc_check_fcs accepts exactly it; each frame
rfc_ts_frames.cc sends, delivered to the peer, parses into the event, DLCI, credit and information
field it was sent with; and both parsers read only within their buffer. -/
theorem rfcomm_fcs_frames_parse :
    (∀ (s : List UInt8) (f : UInt8),
      rfcCheckFcs (UInt16.ofNat s.length) s f = true ↔
        f = rfcCalcFcs (UInt16.ofNat s.length) s) ∧
    (∀ (len : UInt16) (p : List UInt8), rfcCalcFcs len p = gsmFcs (p.take len.toNat)) ∧
    (∀ (i : Bool) (flow : PortFlow) (fr : MxFrame) (dlci c : UInt8) (payload : List UInt8),
      rfcommValidDlci dlci = true → payload.length ≤ 32767 →
      (c ≠ 0 → dlci ≠ 0 ∧ flow = .credit) →
      ∃ r, rfcParseData (!i) flow fr (rfcSendBufUih i dlci c.toUInt16 payload) = some r ∧
        r.event = .uih ∧ r.frame.dlci = dlci ∧ r.frame.credit = c ∧
        ((rfcSendBufUih i dlci c.toUInt16 payload).drop r.offset).take r.len = payload) ∧
    (∀ (i : Bool) (flow : PortFlow) (fr : MxFrame) (dlci : UInt8), rfcommValidDlci dlci = true →
      (rfcParseData (!i) flow fr (rfcSendSabme i dlci)).map (fun r => (r.event, r.frame.dlci)) =
        some (.sabme, dlci) ∧
      (rfcParseData (!i) flow fr (rfcSendUa i dlci)).map (fun r => (r.event, r.frame.dlci)) =
        some (.ua, dlci) ∧
      (∀ pf, (rfcParseData (!i) flow fr (rfcSendDm i dlci pf)).map
        (fun r => (r.event, r.frame.dlci)) = some (.dm, dlci)) ∧
      (rfcParseData (!i) flow fr (rfcSendDisc i dlci)).map (fun r => (r.event, r.frame.dlci)) =
        some (.disc, dlci)) ∧
    (∀ (i : Bool) (flow : PortFlow) (fr : MxFrame) (buf : List UInt8),
      (rfcParseData i flow fr buf).isSome) ∧
    (∀ buf : List UInt8, (rfcProcessMxMessage buf).isSome) :=
  ⟨fun s f => rfcCheckFcs_iff _ s f, rfcCalcFcs_eq_gsmFcs,
    fun i flow fr dlci c payload hd hlen hc =>
      rfcParseData_rfcSendBufUih i flow fr dlci c payload hd hlen hc,
    fun i flow fr dlci hd => ⟨rfcParseData_rfcSendSabme i flow fr dlci hd,
      rfcParseData_rfcSendUa i flow fr dlci hd, fun pf => rfcParseData_rfcSendDm i flow fr dlci pf hd,
      rfcParseData_rfcSendDisc i flow fr dlci hd⟩,
    rfcParseData_isSome, rfcProcessMxMessage_isSome⟩

/-- A UIH frame with three credits and two bytes on DLCI 2 from the initiator, read back on the
responder. -/
theorem rfcomm_fcs_frames_parse_dlci2 :
    ∃ r, rfcParseData false .credit ⟨0, 0, 0, 0, 0⟩ (rfcSendBufUih true 2 (3 : UInt8).toUInt16 [7, 8])
        = some r ∧ r.event = .uih ∧ r.frame.dlci = 2 ∧ r.frame.credit = 3 ∧
      ((rfcSendBufUih true 2 (3 : UInt8).toUInt16 [7, 8]).drop r.offset).take r.len = [7, 8] :=
  rfcomm_fcs_frames_parse.2.2.1 true .credit ⟨0, 0, 0, 0, 0⟩ 2 3 [7, 8] (by decide) (by decide)
    (fun _ => ⟨by decide, rfl⟩)

end BluetoothStack.Rfcomm
