import BluetoothStack.L2cap.Types
import BluetoothStack.Lib.Bits

/-!
# The ERTM transmitter of l2c_fcr.cc

The functions of the sending side of enhanced retransmission mode, as l2c_fcr.cc computes
them: framing of I-frames (`prepare_I_frame`), the choice of the next frame for the link
(`l2c_fcr_get_next_xmit_sdu_seg`), the processing of the acknowledgement number of a received
frame (`process_reqseq`), retransmission (`retransmit_i_frames`), supervisory frames
(`l2c_fcr_send_S_frame`) and the retransmission timeout (`l2c_fcr_proc_tout`).

Where the C code calls `l2c_link_check_send_pkts`, the link may pull frames from the channel
again; that pull is an `l2c_fcr_get_next_xmit_sdu_seg` call of its own, and the models here
leave it to the caller. A function returns `none` where the C code would dereference the
`NULL` a `fixed_queue_try_*` returns on an empty queue.
-/

namespace BluetoothStack.L2cap

open Bytes Bits

/-- `l2cu_disconnect_chnl` on a dynamic channel sends a disconnect request and releases the
channel (`l2cu_release_ccb`): the transmit queue is freed, `l2c_fcr_cleanup` zeroes the control
block, and the channel is no longer in use. A fixed channel is left alone. -/
def l2cuDisconnectChnl (c : Ccb) : Ccb :=
  if c.localCid ≥ l2capBaseApplCid ∧ c.inUse then
    { c with inUse := false, remoteCid := 0, xmitHoldQ := [], fcrb := Fcrb.zero }
  else c

/-- `l2c_enqueue_peer_data` (l2c_csm.cc): an SDU from the upper layer joins `xmit_hold_q`.
Outside basic mode `event = 0` marks it as not yet segmented; in basic mode the basic header is
put in front of it at once. A released channel has no queue, and the SDU is dropped. -/
def l2cEnqueuePeerData (c : Ccb) (pBuf : BtHdr) : Ccb :=
  if !c.inUse then c
  else
    let pBuf :=
      if c.peerCfgFcr.mode ≠ l2capFcrBasicMode then { pBuf with event := 0 }
      else
        let pBuf :=
          { pBuf with
            event := c.localCid
            offset := pBuf.offset - l2capPktOverhead
            len := pBuf.len + l2capPktOverhead }
        let data := store pBuf.offset (uint16ToStream (pBuf.len - l2capPktOverhead)) pBuf.data
        { pBuf with data := store (pBuf.offset + 2) (uint16ToStream c.remoteCid) data }
    { c with xmitHoldQ := c.xmitHoldQ ++ [pBuf] }

/-- `l2c_fcr_is_flow_controlled`: in ERTM the peer has flowed us off or the transmit window
is full. -/
def l2cFcrIsFlowControlled (c : Ccb) : Bool :=
  c.peerCfgFcr.mode == l2capFcrErtmMode &&
    (c.fcrb.remoteBusy || decide (c.peerCfgFcr.txWinSz ≤ c.fcrb.waitingForAckQ.length))

/-- The TxSeq a queued I-frame carries: the control word after the basic header, read the way
`retransmit_i_frames` reads it. -/
def frameTxSeq (pBuf : BtHdr) : Nat :=
  (streamToUint16 pBuf.data (pBuf.offset + l2capPktOverhead) &&& l2capFcrTxSeqBits) >>>
    l2capFcrTxSeqBitsShift

/-! ## Framing -/

/-- The control word `prepare_I_frame` writes: for a new frame the SAR bits of
`layer_specific` and the next TxSeq, for a retransmission the old word without its ReqSeq and
F bit; in ERTM then the F bit if one is owed and the current ReqSeq. -/
def iFrameCtrlWord (c : Ccb) (pBuf : BtHdr) (isRetransmission : Bool) : Nat :=
  -- `ctrl_word &= ~(L2CAP_FCR_REQ_SEQ_BITS + L2CAP_FCR_F_BIT)`, the complement taken in 16 bits
  let ctrlWord :=
    if isRetransmission then
      streamToUint16 pBuf.data (pBuf.offset + l2capPktOverhead) &&&
        (0xFFFF ^^^ (l2capFcrReqSeqBits + l2capFcrFBit))
    else
      (pBuf.layerSpecific &&& l2capFcrSegBits) |||
        (c.fcrb.nextTxSeq <<< l2capFcrTxSeqBitsShift)
  if c.peerCfgFcr.mode = l2capFcrErtmMode then
    (if c.fcrb.sendFRsp then ctrlWord ||| l2capFcrFBit else ctrlWord) |||
      (c.fcrb.nextSeqExpected <<< l2capFcrReqSeqBitsShift)
  else ctrlWord

/-- `prepare_I_frame`: write the control word, the length field and the FCS of an I-frame
that is about to go to the link, take a new TxSeq for a first transmission, and clear the
pending F bit. -/
def prepareIFrame (c : Ccb) (pBuf : BtHdr) (isRetransmission : Bool) : Ccb × BtHdr :=
  let nextTxSeq :=
    if isRetransmission then c.fcrb.nextTxSeq
    else (c.fcrb.nextTxSeq + 1) &&& l2capFcrSeqModulo
  let lastAckSent :=
    if c.peerCfgFcr.mode = l2capFcrErtmMode then c.fcrb.nextSeqExpected else c.fcrb.lastAckSent
  let data := store (pBuf.offset + l2capPktOverhead)
    (uint16ToStream (iFrameCtrlWord c pBuf isRetransmission)) pBuf.data
  let data :=
    store pBuf.offset (uint16ToStream (pBuf.len + l2capFcsLen - l2capPktOverhead)) data
  let fcs := l2cFcrTxGetFcs { pBuf with data }
  ({ c with fcrb := { c.fcrb with sendFRsp := false, nextTxSeq, lastAckSent } },
    { pBuf with
      data := store (pBuf.offset + pBuf.len) (uint16ToStream fcs) data
      len := pBuf.len + l2capFcsLen })

/-- `prepare_I_frame` changes of the channel only the F-bit flag, the next TxSeq and the last
ReqSeq sent. -/
@[simp] theorem prepareIFrame_fst (c : Ccb) (pBuf : BtHdr) (isRetransmission : Bool) :
    (prepareIFrame c pBuf isRetransmission).1 =
      { c with fcrb := { c.fcrb with
          sendFRsp := false
          nextTxSeq := if isRetransmission then c.fcrb.nextTxSeq
            else (c.fcrb.nextTxSeq + 1) &&& l2capFcrSeqModulo
          lastAckSent := if c.peerCfgFcr.mode = l2capFcrErtmMode then c.fcrb.nextSeqExpected
            else c.fcrb.lastAckSent } } := rfl

@[simp] theorem prepareIFrame_snd_offset (c : Ccb) (pBuf : BtHdr) (isRetransmission : Bool) :
    (prepareIFrame c pBuf isRetransmission).2.offset = pBuf.offset := rfl

@[simp] theorem prepareIFrame_snd_len (c : Ccb) (pBuf : BtHdr) (isRetransmission : Bool) :
    (prepareIFrame c pBuf isRetransmission).2.len = pBuf.len + l2capFcsLen := rfl

@[simp] theorem prepareIFrame_snd_layerSpecific (c : Ccb) (pBuf : BtHdr) (isRetransmission : Bool) :
    (prepareIFrame c pBuf isRetransmission).2.layerSpecific = pBuf.layerSpecific := rfl

@[simp] theorem length_prepareIFrame_data (c : Ccb) (pBuf : BtHdr) (isRetransmission : Bool) :
    (prepareIFrame c pBuf isRetransmission).2.data.length = pBuf.data.length := by
  simp [prepareIFrame]

/-- The control word of a framed I-frame reads back after the length field and the FCS are
written, as long as the frame has its header and the header lies in the storage. -/
theorem streamToUint16_prepareIFrame {c : Ccb} {pBuf : BtHdr} (isRetransmission : Bool)
    (hhdr : l2capPktOverhead + l2capFcrOverhead ≤ pBuf.len)
    (hfit : pBuf.offset + l2capPktOverhead + l2capFcrOverhead ≤ pBuf.data.length) :
    streamToUint16 (prepareIFrame c pBuf isRetransmission).2.data
        (pBuf.offset + l2capPktOverhead) =
      iFrameCtrlWord c pBuf isRetransmission % 65536 := by
  simp only [l2capPktOverhead, l2capFcrOverhead] at hhdr hfit
  simp only [streamToUint16, prepareIFrame, l2capPktOverhead]
  rw [load_store_of_disjoint (by simp [uint16ToStream]; omega),
    load_store_of_disjoint (by simp [uint16ToStream]),
    ← streamToUint16, streamToUint16_store _ (by omega)]

/-- The largest information part of an I-frame: `tx_mps`, lowered to what a packet of
`max_packet_length` bytes can carry when that is given (an AMP controller). -/
def maxPdu (c : Ccb) (maxPacketLength : Nat) : Nat :=
  if maxPacketLength > l2capMaxHeaderFcs ∧ c.txMps + l2capMaxHeaderFcs > maxPacketLength then
    maxPacketLength - l2capMaxHeaderFcs
  else c.txMps

/-- The piece of the SDU `pBuf` at the head of `xmit_hold_q` that the next I-frame carries,
still without headers, and what stays in the queue. A longer SDU than `max_pdu` is cut: the
first `max_pdu` bytes are copied out and the queued buffer advances past them, and its `event`
records that segmentation has started. -/
def nextSegment (c : Ccb) (maxPdu : Nat) (pBuf : BtHdr) (rest : List BtHdr) :
    List BtHdr × BtHdr :=
  if pBuf.len > maxPdu then
    let pXmit := l2cFcrCloneBuf pBuf (l2capMinOffset + l2capSduLenOffset) maxPdu
    ({ pBuf with event := c.localCid, len := pBuf.len - maxPdu, offset := pBuf.offset + maxPdu }
        :: rest,
      { pXmit with event := c.localCid, layerSpecific := pBuf.layerSpecific })
  else (rest, { pBuf with event := c.localCid })

/-- The SAR bits of the next segment of `pBuf`: a first piece of a long SDU starts it, a later
piece of a long SDU continues it, the rest of a started SDU ends it, and a short SDU travels
unsegmented. -/
def segmentSar (maxPdu : Nat) (pBuf : BtHdr) : Nat :=
  if pBuf.len > maxPdu then
    if pBuf.event = 0 then l2capFcrStartSdu else l2capFcrContSdu
  else if pBuf.event ≠ 0 then l2capFcrEndSdu else l2capFcrUnsegSdu

/-- Put the basic header (and for a start frame the SDU length) in front of a segment, and
record its SAR bits in `layer_specific`. -/
def addSegmentHeader (c : Ccb) (sar sduLen : Nat) (pXmit : BtHdr) : BtHdr :=
  let firstSeg := sar = l2capFcrStartSdu
  let pXmit :=
    { pXmit with
      offset := pXmit.offset - (l2capPktOverhead + l2capFcrOverhead)
      len := pXmit.len + (l2capPktOverhead + l2capFcrOverhead) }
  let pXmit :=
    if firstSeg then
      { pXmit with
        offset := pXmit.offset - l2capSduLenOverhead
        len := pXmit.len + l2capSduLenOverhead }
    else pXmit
  let p := pXmit.offset
  let data := store p (uint16ToStream (pXmit.len - l2capPktOverhead)) pXmit.data
  let data := store (p + 2) (uint16ToStream c.remoteCid) data
  -- the control word is skipped here and written by `prepare_I_frame`
  let data := if firstSeg then store (p + 6) (uint16ToStream sduLen) data else data
  { pXmit with data, layerSpecific := pXmit.layerSpecific ||| sar }

/-- The header steps back over the basic header and control word, and over the SDU length in
a start frame. -/
theorem addSegmentHeader_offset_len (c : Ccb) (sar sduLen : Nat) (pXmit : BtHdr) :
    let hdr := if sar = l2capFcrStartSdu then 8 else 6
    (addSegmentHeader c sar sduLen pXmit).offset = pXmit.offset - hdr ∧
      (addSegmentHeader c sar sduLen pXmit).len = pXmit.len + hdr := by
  by_cases hs : sar = l2capFcrStartSdu
  · simp [addSegmentHeader, hs, l2capPktOverhead, l2capFcrOverhead, l2capSduLenOverhead]
    omega
  · simp [addSegmentHeader, hs, l2capPktOverhead, l2capFcrOverhead]

@[simp] theorem length_addSegmentHeader_data (c : Ccb) (sar sduLen : Nat) (pXmit : BtHdr) :
    (addSegmentHeader c sar sduLen pXmit).data.length = pXmit.data.length := by
  by_cases hs : sar = l2capFcrStartSdu <;> simp [addSegmentHeader, hs]

/-- The copy of a sent I-frame that ERTM keeps in `waiting_for_ack_q`, without its FCS. -/
def waitAckCopy (pXmit : BtHdr) : BtHdr :=
  let pWack := l2cFcrCloneBuf pXmit hciDataPreambleSize pXmit.len
  { pWack with len := pWack.len - l2capFcsLen, layerSpecific := pXmit.layerSpecific }

/-! ## The TxSeq of a framed I-frame -/

/-- The TxSeq field of a control word: bits 1 to 6. -/
theorem txSeq_field (x : Nat) :
    (x &&& l2capFcrTxSeqBits) >>> l2capFcrTxSeqBitsShift = x / 2 % 64 := by
  have h := field_shiftRight x 6 1
  simpa [l2capFcrTxSeqBits, l2capFcrTxSeqBitsShift] using h

/-- A new I-frame's control word has the TxSeq in bits 1 to 6 and a clear bit 0, whatever the
SAR, F and ReqSeq bits around it. -/
theorem iFrameCtrlWord_mod_128 (c : Ccb) (pBuf : BtHdr) :
    iFrameCtrlWord c pBuf false % 128 = c.fcrb.nextTxSeq % 64 * 2 := by
  have hseg : (pBuf.layerSpecific &&& l2capFcrSegBits) % 2 ^ 7 = 0 := by
    have h := and_field pBuf.layerSpecific 2 14
    simp only [show l2capFcrSegBits = (2 ^ 2 - 1) <<< 14 from rfl, h]
    omega
  have htx : (c.fcrb.nextTxSeq <<< l2capFcrTxSeqBitsShift) % 2 ^ 7 = c.fcrb.nextTxSeq % 64 * 2 := by
    simp only [l2capFcrTxSeqBitsShift, Nat.shiftLeft_eq]
    omega
  have hreq : (c.fcrb.nextSeqExpected <<< l2capFcrReqSeqBitsShift) % 2 ^ 7 = 0 := by
    simp only [l2capFcrReqSeqBitsShift, Nat.shiftLeft_eq]
    omega
  have hf : l2capFcrFBit % 2 ^ 7 = 0 := rfl
  have hnew : ((pBuf.layerSpecific &&& l2capFcrSegBits) |||
      (c.fcrb.nextTxSeq <<< l2capFcrTxSeqBitsShift)) % 2 ^ 7 = c.fcrb.nextTxSeq % 64 * 2 := by
    rw [or_mod_two_pow_of_left hseg, htx]
  show iFrameCtrlWord c pBuf false % 2 ^ 7 = _
  unfold iFrameCtrlWord
  simp only [Bool.false_eq_true, ↓reduceIte]
  split
  · split
    · rw [or_mod_two_pow_of_right hreq, or_mod_two_pow_of_right hf, hnew]
    · rw [or_mod_two_pow_of_right hreq, hnew]
  · exact hnew


/-- A new I-frame carries the channel's next TxSeq. -/
theorem frameTxSeq_prepareIFrame {c : Ccb} {pBuf : BtHdr}
    (hhdr : l2capPktOverhead + l2capFcrOverhead ≤ pBuf.len)
    (hfit : pBuf.offset + l2capPktOverhead + l2capFcrOverhead ≤ pBuf.data.length) :
    frameTxSeq (prepareIFrame c pBuf false).2 = c.fcrb.nextTxSeq % 64 := by
  have hw := iFrameCtrlWord_mod_128 c pBuf
  rw [frameTxSeq, prepareIFrame_snd_offset, streamToUint16_prepareIFrame false hhdr hfit,
    txSeq_field]
  omega

/-- The copy kept for acknowledgement carries the TxSeq of the frame sent. -/
theorem frameTxSeq_waitAckCopy {pXmit : BtHdr}
    (hhdr : l2capPktOverhead + l2capFcrOverhead ≤ pXmit.len)
    (hfit : pXmit.offset + l2capPktOverhead + l2capFcrOverhead ≤ pXmit.data.length)
    (hsz : pXmit.len + btHdrSize + hciDataPreambleSize + l2capFcsLen < 65536) :
    frameTxSeq (waitAckCopy pXmit) = frameTxSeq pXmit := by
  simp only [l2capPktOverhead, l2capFcrOverhead] at hhdr hfit
  have hcopy : load (hciDataPreambleSize + l2capPktOverhead) 2
      (l2cFcrCloneBuf pXmit hciDataPreambleSize pXmit.len).data =
        load (pXmit.offset + l2capPktOverhead) 2 pXmit.data :=
    load_l2cFcrCloneBuf (by simp only [l2capPktOverhead]; omega)
      (by simp only [l2capPktOverhead]; omega) hsz
  simp only [frameTxSeq, streamToUint16, waitAckCopy, l2cFcrCloneBuf_offset]
  rw [hcopy]

/-! ## What a framed segment carries -/

/-- `prepare_I_frame` writes the basic header, the control word and the FCS, and leaves the bytes
between the control word and the FCS alone. -/
theorem load_prepareIFrame_body {c : Ccb} {pBuf : BtHdr} (isRetransmission : Bool) {q n : Nat}
    (hq : pBuf.offset + l2capPktOverhead + l2capFcrOverhead ≤ q)
    (hn : q + n ≤ pBuf.offset + pBuf.len) :
    load q n (prepareIFrame c pBuf isRetransmission).2.data = load q n pBuf.data := by
  simp only [l2capPktOverhead, l2capFcrOverhead] at hq
  simp only [prepareIFrame, l2capPktOverhead]
  rw [load_store_of_disjoint (by simp [uint16ToStream]; omega),
    load_store_of_disjoint (by simp [uint16ToStream]; omega),
    load_store_of_disjoint (by simp [uint16ToStream]; omega)]

/-- The SAR bits of a new I-frame's control word are those of its `layer_specific`, whatever the
6-bit sequence numbers written around them. -/
theorem iFrameCtrlWord_segBits {c : Ccb} {pBuf : BtHdr} (hnts : c.fcrb.nextTxSeq < 64)
    (hnse : c.fcrb.nextSeqExpected < 64) :
    iFrameCtrlWord c pBuf false % 65536 &&& l2capFcrSegBits =
      pBuf.layerSpecific &&& l2capFcrSegBits := by
  have hm : l2capFcrSegBits % 2 ^ 14 = 0 := rfl
  have htx : c.fcrb.nextTxSeq <<< l2capFcrTxSeqBitsShift < 2 ^ 14 := by
    simp only [Nat.shiftLeft_eq, l2capFcrTxSeqBitsShift]
    omega
  have hreq : c.fcrb.nextSeqExpected <<< l2capFcrReqSeqBitsShift < 2 ^ 14 := by
    simp only [Nat.shiftLeft_eq, l2capFcrReqSeqBitsShift]
    omega
  have hf : l2capFcrFBit < 2 ^ 14 := by decide
  have hnew : ((pBuf.layerSpecific &&& l2capFcrSegBits) |||
      (c.fcrb.nextTxSeq <<< l2capFcrTxSeqBitsShift)) &&& l2capFcrSegBits =
        pBuf.layerSpecific &&& l2capFcrSegBits := by
    rw [or_and_of_lt htx hm, Nat.and_assoc, Nat.and_self]
  -- the mask lies in the low 16 bits, so the reduction to a `uint16_t` does not matter
  have hmod : ∀ w : Nat, w % 2 ^ 16 &&& l2capFcrSegBits = w &&& l2capFcrSegBits := by
    intro w
    have hlt : w &&& l2capFcrSegBits < 2 ^ 16 :=
      lt_of_le_of_lt Nat.and_le_right (by decide)
    rw [← Nat.mod_eq_of_lt hlt, Nat.and_mod_two_pow,
      Nat.mod_eq_of_lt (by decide : l2capFcrSegBits < 2 ^ 16)]
  rw [show (65536 : Nat) = 2 ^ 16 from rfl, hmod]
  unfold iFrameCtrlWord
  simp only [Bool.false_eq_true, if_false]
  split
  · split
    · rw [or_and_of_lt hreq hm, or_and_of_lt hf hm, hnew]
    · rw [or_and_of_lt hreq hm, hnew]
  · exact hnew

@[simp] theorem addSegmentHeader_layerSpecific (c : Ccb) (sar sduLen : Nat) (pXmit : BtHdr) :
    (addSegmentHeader c sar sduLen pXmit).layerSpecific = pXmit.layerSpecific ||| sar := by
  by_cases hs : sar = l2capFcrStartSdu <;> simp [addSegmentHeader, hs]

/-- The headers go in front of the segment and leave its own bytes alone. -/
theorem load_addSegmentHeader_of_le {c : Ccb} {sar sduLen q n : Nat} {pXmit : BtHdr}
    (hroom : (if sar = l2capFcrStartSdu then 8 else 6) ≤ pXmit.offset) (hq : pXmit.offset ≤ q) :
    load q n (addSegmentHeader c sar sduLen pXmit).data = load q n pXmit.data := by
  by_cases hs : sar = l2capFcrStartSdu
  · rw [if_pos hs] at hroom
    simp only [addSegmentHeader, hs, if_true, l2capPktOverhead, l2capFcrOverhead,
      l2capSduLenOverhead]
    rw [load_store_of_disjoint (by simp [uint16ToStream]; omega),
      load_store_of_disjoint (by simp [uint16ToStream]; omega),
      load_store_of_disjoint (by simp [uint16ToStream]; omega)]
  · rw [if_neg hs] at hroom
    simp only [addSegmentHeader, hs, if_false, l2capPktOverhead, l2capFcrOverhead]
    rw [load_store_of_disjoint (by simp [uint16ToStream]; omega),
      load_store_of_disjoint (by simp [uint16ToStream]; omega)]

/-- A start frame carries the SDU length in the two bytes before the segment. -/
theorem load_addSegmentHeader_sduLen {c : Ccb} {sduLen : Nat} {pXmit : BtHdr}
    (hroom : 8 ≤ pXmit.offset) (hfit : pXmit.offset ≤ pXmit.data.length) :
    load (pXmit.offset - l2capSduLenOverhead) 2
      (addSegmentHeader c l2capFcrStartSdu sduLen pXmit).data = uint16ToStream sduLen := by
  have hself : load (pXmit.offset - 6 - 2 + 6) (uint16ToStream sduLen).length
      (store (pXmit.offset - 6 - 2 + 6) (uint16ToStream sduLen)
        (store (pXmit.offset - 6 - 2 + 2) (uint16ToStream c.remoteCid)
          (store (pXmit.offset - 6 - 2) (uint16ToStream (pXmit.len + 4)) pXmit.data))) =
      uint16ToStream sduLen :=
    load_store_self (by simp [uint16ToStream]; omega)
  simp only [uint16ToStream, length_leBytes] at hself
  simp only [addSegmentHeader, if_true, l2capPktOverhead, l2capFcrOverhead, l2capSduLenOverhead]
  rw [show pXmit.offset - 2 = pXmit.offset - 6 - 2 + 6 by omega]
  simpa [uint16ToStream] using hself

/-- `l2c_fcr_get_next_xmit_sdu_seg`: the next frame for the link. A frame waiting in
`retrans_q` goes first, reframed with the current ReqSeq. Otherwise the next piece of the SDU
at the head of `xmit_hold_q` is framed with a new TxSeq, and in ERTM a copy of it is kept in
`waiting_for_ack_q` until it is acknowledged. The `NULL` checks of the clones are dead code,
since `osi_malloc` does not return `NULL`. -/
def l2cFcrGetNextXmitSduSeg (c : Ccb) (maxPacketLength : Nat) : Option (Ccb × BtHdr) :=
  match c.fcrb.retransQ with
  | pBuf :: rest =>
      let (c, pBuf) := prepareIFrame { c with fcrb := { c.fcrb with retransQ := rest } } pBuf true
      some (c, { pBuf with event := c.localCid })
  | [] =>
      match c.xmitHoldQ with
      | [] => none
      | pBuf :: rest =>
          let maxPdu := maxPdu c maxPacketLength
          let sar := segmentSar maxPdu pBuf
          let (xmitHoldQ, pXmit) := nextSegment c maxPdu pBuf rest
          let pXmit := addSegmentHeader c sar pBuf.len pXmit
          let (c, pXmit) := prepareIFrame { c with xmitHoldQ } pXmit false
          if c.peerCfgFcr.mode = l2capFcrErtmMode then
            some ({ c with fcrb :=
                { c.fcrb with waitingForAckQ := c.fcrb.waitingForAckQ ++ [waitAckCopy pXmit] } },
              pXmit)
          else some (c, pXmit)

/-- A frame waiting for retransmission goes first. -/
theorem l2cFcrGetNextXmitSduSeg_of_retransQ {c : Ccb} {pBuf : BtHdr} {rest : List BtHdr}
    (maxPacketLength : Nat) (h : c.fcrb.retransQ = pBuf :: rest) :
    l2cFcrGetNextXmitSduSeg c maxPacketLength =
      let p := prepareIFrame { c with fcrb := { c.fcrb with retransQ := rest } } pBuf true
      some (p.1, { p.2 with event := p.1.localCid }) := by
  rw [l2cFcrGetNextXmitSduSeg, h]

/-- With nothing to retransmit, the next piece of the SDU at the head of `xmit_hold_q` is framed,
and in ERTM its copy joins `waiting_for_ack_q`. -/
theorem l2cFcrGetNextXmitSduSeg_of_xmitHoldQ {c : Ccb} {pBuf : BtHdr} {rest : List BtHdr}
    (maxPacketLength : Nat) (hr : c.fcrb.retransQ = []) (h : c.xmitHoldQ = pBuf :: rest) :
    l2cFcrGetNextXmitSduSeg c maxPacketLength =
      let maxPdu := maxPdu c maxPacketLength
      let seg := nextSegment c maxPdu pBuf rest
      let p := prepareIFrame { c with xmitHoldQ := seg.1 }
        (addSegmentHeader c (segmentSar maxPdu pBuf) pBuf.len seg.2) false
      if c.peerCfgFcr.mode = l2capFcrErtmMode then
        some ({ p.1 with fcrb :=
            { p.1.fcrb with waitingForAckQ := p.1.fcrb.waitingForAckQ ++ [waitAckCopy p.2] } }, p.2)
      else some p := by
  rw [l2cFcrGetNextXmitSduSeg, hr, h]
  rfl

/-- With nothing queued there is no frame to send. -/
theorem l2cFcrGetNextXmitSduSeg_of_nil {c : Ccb} (maxPacketLength : Nat)
    (hr : c.fcrb.retransQ = []) (h : c.xmitHoldQ = []) :
    l2cFcrGetNextXmitSduSeg c maxPacketLength = none := by
  rw [l2cFcrGetNextXmitSduSeg, hr, h]

/-! ## Acknowledgement -/

/-- The dequeue loop of `process_reqseq`: release `n` frames from the front of
`waiting_for_ack_q`, counting those that end an SDU. `none` is a dequeue from an empty queue,
whose `NULL` the loop would dereference. -/
def releaseAcked : Nat → List BtHdr → Nat → Option (List BtHdr × Nat)
  | 0, q, full => some (q, full)
  | _ + 1, [], _ => none
  | n + 1, pTmp :: q, full =>
      let ls := pTmp.layerSpecific &&& l2capFcrSarBits
      releaseAcked n q (if ls = l2capFcrUnsegSdu ∨ ls = l2capFcrEndSdu then full + 1 else full)

/-- The acknowledgement number (ReqSeq) of a control word. -/
def ctrlReqSeq (ctrlWord : Nat) : Nat :=
  (ctrlWord &&& l2capFcrReqSeqBits) >>> l2capFcrReqSeqBitsShift

/-- Whether a control word is an SREJ with the P bit clear, which acknowledges nothing. -/
def isSrejWithoutPoll (ctrlWord : Nat) : Bool :=
  ctrlWord &&& l2capFcrSFrameBit != 0 &&
    ctrlWord &&& l2capFcrSupBits == l2capFcrSupSrej <<< l2capFcrSupShift &&
    ctrlWord &&& l2capFcrPBit == 0

/-- `num_bufs_acked`: how many frames a ReqSeq acknowledges, the `int` difference from
`last_rx_ack` masked with `L2CAP_FCR_SEQ_MODULO`, that is taken modulo 64. -/
def numBufsAcked (reqSeq lastRxAck : Nat) : Nat :=
  Int.toNat (((reqSeq : Int) - lastRxAck) % (l2capFcrSeqModulo + 1))

/-- The result of `process_reqseq`: the new channel, the value it returns (whether the frame is
processed further) and the argument of the `pL2CA_TxComplete_Cb` call it made, if it made one. -/
structure ReqseqResult where
  ccb : Ccb
  ok : Bool
  txComplete : Option Nat

/-- `process_reqseq`: a ReqSeq outside the window of unacknowledged frames disconnects the
channel; otherwise the frames it acknowledges are released and `last_rx_ack` moves to it. -/
def processReqseq (c : Ccb) (ctrlWord : Nat) : Option ReqseqResult :=
  if isSrejWithoutPoll ctrlWord then some ⟨c, true, none⟩
  else
    let reqSeq := ctrlReqSeq ctrlWord
    let n := numBufsAcked reqSeq c.fcrb.lastRxAck
    if n > c.fcrb.waitingForAckQ.length then some ⟨l2cuDisconnectChnl c, false, none⟩
    else
      let c := { c with fcrb := { c.fcrb with lastRxAck := reqSeq } }
      if n ≠ 0 then
        (releaseAcked n c.fcrb.waitingForAckQ 0).map fun (q, full) =>
          let c := { c with fcrb := { c.fcrb with numTries := 0, waitingForAckQ := q } }
          -- when everything is acknowledged and nothing is queued the callback gets 0xFFFF
          let arg := if q = [] ∧ c.xmitHoldQ = [] then 0xFFFF else full
          ⟨c, true, if c.txCompleteCb ∧ full ≠ 0 then some arg else none⟩
      else some ⟨c, true, none⟩

/-- Releasing at most as many frames as are queued never meets an empty queue, and leaves the
queue without its first `n` frames. -/
theorem releaseAcked_of_le {n : Nat} {q : List BtHdr} (h : n ≤ q.length) (full : Nat) :
    ∃ full', releaseAcked n q full = some (q.drop n, full') := by
  induction n generalizing q full with
  | zero => exact ⟨full, rfl⟩
  | succ n ih =>
    cases q with
    | nil => simp at h
    | cons b q =>
      have hq : n ≤ q.length := by simp at h; omega
      obtain ⟨full', hrel⟩ := ih hq _
      exact ⟨full', by rw [releaseAcked, hrel, List.drop_succ_cons]⟩

/-- An SREJ without the P bit is accepted whatever its ReqSeq, and changes nothing. -/
theorem processReqseq_of_srej {c : Ccb} {ctrlWord : Nat} (hs : isSrejWithoutPoll ctrlWord = true) :
    processReqseq c ctrlWord = some ⟨c, true, none⟩ := by
  simp [processReqseq, hs]

/-- A ReqSeq acknowledging more frames than are outstanding disconnects the channel. -/
theorem processReqseq_of_lt {c : Ccb} {ctrlWord : Nat} (hs : isSrejWithoutPoll ctrlWord = false)
    (hn : c.fcrb.waitingForAckQ.length < numBufsAcked (ctrlReqSeq ctrlWord) c.fcrb.lastRxAck) :
    processReqseq c ctrlWord = some ⟨l2cuDisconnectChnl c, false, none⟩ := by
  simp [processReqseq, hs, hn]

/-- Any other ReqSeq is accepted: `last_rx_ack` moves to it, the frames it acknowledges leave
`waiting_for_ack_q`, and a release resets the try count. -/
theorem processReqseq_of_le {c : Ccb} {ctrlWord : Nat} (hs : isSrejWithoutPoll ctrlWord = false)
    (hn : numBufsAcked (ctrlReqSeq ctrlWord) c.fcrb.lastRxAck ≤ c.fcrb.waitingForAckQ.length) :
    let n := numBufsAcked (ctrlReqSeq ctrlWord) c.fcrb.lastRxAck
    ∃ txComplete, processReqseq c ctrlWord =
      some ⟨{ c with fcrb := { c.fcrb with
          lastRxAck := ctrlReqSeq ctrlWord
          numTries := if n = 0 then c.fcrb.numTries else 0
          waitingForAckQ := c.fcrb.waitingForAckQ.drop n } }, true, txComplete⟩ := by
  dsimp only
  have hle := Nat.not_lt.2 hn
  by_cases h0 : numBufsAcked (ctrlReqSeq ctrlWord) c.fcrb.lastRxAck = 0
  · refine ⟨none, ?_⟩
    simp [processReqseq, hs, h0]
  · obtain ⟨full, hrel⟩ := releaseAcked_of_le hn 0
    simp [processReqseq, hs, hle, h0, hrel]

/-! ## Retransmission -/

/-- The copy of an unacknowledged frame that `retransmit_i_frames` queues in `retrans_q`. -/
def retransCopy (pBuf : BtHdr) : BtHdr :=
  { l2cFcrCloneBuf pBuf pBuf.offset pBuf.len with layerSpecific := pBuf.layerSpecific }

/-- The frames `retransmit_i_frames` copies: every unacknowledged frame, or the first one whose
TxSeq is `txSeq` (none when no frame carries it). -/
def framesToRetransmit (q : List BtHdr) (txSeq : Nat) : List BtHdr :=
  if txSeq = l2cFcrRetxAllPkts then q
  else ((q.find? fun b => frameTxSeq b == txSeq).map fun b => [b]).getD []

/-- `retransmit_i_frames`: after `max_transmit` tries with frames outstanding the channel is
disconnected; otherwise the requested frames are copied to `retrans_q` (for a full
retransmission after flushing `retrans_q` and this channel's complete frames from the link
queue) and, with frames outstanding, the try count goes up. -/
def retransmitIFrames (c : Ccb) (txSeq : Nat) : Ccb × Bool :=
  let q := c.fcrb.waitingForAckQ
  if q ≠ [] ∧ c.peerCfgFcr.maxTransmit ≠ 0 ∧ c.fcrb.numTries ≥ c.peerCfgFcr.maxTransmit then
    (l2cuDisconnectChnl c, false)
  -- a single frame asked for while nothing is outstanding: nothing to do
  else if txSeq ≠ l2cFcrRetxAllPkts ∧ q = [] then (c, true)
  else
    let c :=
      if txSeq = l2cFcrRetxAllPkts then
        { c with
          linkXmitDataQ := c.linkXmitDataQ.filter fun b =>
            !(b.layerSpecific == 0 && b.event == c.localCid)
          fcrb := { c.fcrb with retransQ := [] } }
      else c
    let retransQ := c.fcrb.retransQ ++ (framesToRetransmit q txSeq).map retransCopy
    let numTries := if q ≠ [] then (c.fcrb.numTries + 1) % 256 else c.fcrb.numTries
    ({ c with fcrb := { c.fcrb with retransQ, numTries } }, true)

/-! ## Supervisory frames and timeouts -/

/-- `l2c_fcr_send_S_frame`: on an open channel, build the S-frame with the current ReqSeq
(setting `wait_ack` for a poll) and put it on the link queue. The HCI preamble that
`l2cu_set_acl_hci_header` adds in front of it is not modelled. -/
def l2cFcrSendSFrame (c : Ccb) (functionCode pfBit : Nat) : Ccb :=
  if !c.inUse || !c.isOpen then c
  else
    let waitAck := if pfBit = l2capFcrPBit then true else c.fcrb.waitAck
    let ctrlWord := (functionCode <<< l2capFcrSupShift) ||| l2capFcrSFrameBit
    let ctrlWord := ctrlWord ||| (c.fcrb.nextSeqExpected <<< l2capFcrReqSeqBitsShift)
    let ctrlWord := ctrlWord ||| pfBit
    let pBuf := osiMallocBuf l2capCmdBufSize
    let p := hciDataPreambleSize
    let data := store p (uint16ToStream (l2capFcrOverhead + l2capFcsLen)) pBuf.data
    let data := store (p + 2) (uint16ToStream c.remoteCid) data
    let data := store (p + 4) (uint16ToStream ctrlWord) data
    let pBuf := { pBuf with offset := p, len := l2capPktOverhead + l2capFcrOverhead, data }
    let data := store (p + 6) (uint16ToStream (l2cFcrTxGetFcs pBuf)) data
    -- `l2c_link_check_send_pkts(p_lcb, 0, p_buf)` clears `event` and `layer_specific`
    let pBuf := { pBuf with data, len := pBuf.len + l2capFcsLen, event := 0, layerSpecific := 0 }
    { c with
      linkXmitDataQ := c.linkXmitDataQ ++ [pBuf]
      fcrb := { c.fcrb with waitAck, lastAckSent := c.fcrb.nextSeqExpected } }

/-- `l2c_fcr_proc_tout`: the retransmission or monitor timer expired. After `max_transmit`
tries (counted in a `uint8_t`) the channel is disconnected; otherwise, unless a reject is
outstanding, the peer is polled with an RR. -/
def l2cFcrProcTout (c : Ccb) : Ccb :=
  if c.peerCfgFcr.maxTransmit ≠ 0 then
    let c := { c with fcrb := { c.fcrb with numTries := (c.fcrb.numTries + 1) % 256 } }
    if c.fcrb.numTries > c.peerCfgFcr.maxTransmit then l2cuDisconnectChnl c
    else if !c.fcrb.srejSent && !c.fcrb.rejSent then
      l2cFcrSendSFrame c l2capFcrSupRr l2capFcrPBit
    else c
  else if !c.fcrb.srejSent && !c.fcrb.rejSent then l2cFcrSendSFrame c l2capFcrSupRr l2capFcrPBit
  else c

end BluetoothStack.L2cap
