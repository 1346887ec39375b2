import BluetoothStack.L2cap.Reassembly
import BluetoothStack.L2cap.TxWindow

/-!
# The ERTM receiver of l2c_fcr.cc

The receiving side of enhanced retransmission mode: `l2c_fcr_proc_pdu` checks a frame's
length and FCS, handles the final bit of a poll we sent, passes the ReqSeq to `process_reqseq`
and the frame to `process_s_frame` or `process_i_frame`.

`process_i_frame` hands the next expected I-frame to `do_sar_reassembly`. A frame that is one
ahead of it is asked for again with an SREJ and held in `srej_rcv_hold_q`. While that SREJ is
outstanding, the frames that follow the last held one are held too. When the missing frame
comes, `srej_sent` is cleared, and `l2c_fcr_proc_pdu` drains the hold queue through
`process_i_frame` once more. It does so only if the channel is open. The drain reads each held
frame's control word back from the bytes before its payload.

Each function returns the frames it handed to `do_sar_reassembly`, with the control word it
passed along. A result of `none` stands where the C code would dereference the `NULL` that
`fixed_queue_try_peek_last` returns on an empty queue. The ack timer and the monitor timer are
not modelled. Where the C code calls `l2c_link_check_send_pkts`, the link may pull frames, and
the models leave that to the caller, as in `Fcr.lean`.
-/

namespace BluetoothStack.L2cap

open Bytes

/-! ## Control words -/

/-- The TxSeq of an I-frame's control word. -/
def ctrlTxSeq (ctrlWord : Nat) : Nat :=
  (ctrlWord &&& l2capFcrTxSeqBits) >>> l2capFcrTxSeqBitsShift

/-- `ctrl_word &= ~bit` on the `uint16_t` control word. -/
def ctrlClear (ctrlWord bit : Nat) : Nat := ctrlWord &&& (0xFFFF ^^^ bit)

/-- The control word of a held frame: `l2c_fcr_proc_pdu` stepped over it, so it lies just before
the frame's payload. -/
def heldCtrlWord (pBuf : BtHdr) : Nat := streamToUint16 pBuf.data (pBuf.offset - l2capFcrOverhead)

/-- `l2c_fcr_rx_get_fcs`: the CRC of a received frame from its basic header on, which lies just
before `offset`. -/
def l2cFcrRxGetFcs (pBuf : BtHdr) : Nat :=
  l2cFcrTxGetFcs
    { pBuf with offset := pBuf.offset - l2capPktOverhead, len := pBuf.len + l2capPktOverhead }

/-! ## Supervisory frames -/

/-- The `switch` of `process_s_frame` on the S-frame type: the channel and `all_ok`. An RR
retransmits everything when it has the F bit or the peer was busy, a REJ always, an SREJ the
frame its ReqSeq names; an RNR marks the peer busy. -/
def sFrameAction (c : Ccb) (ctrlWord : Nat) : Ccb × Bool :=
  let sFrameType := (ctrlWord &&& l2capFcrSupBits) >>> l2capFcrSupShift
  let remoteWasBusy := c.fcrb.remoteBusy
  let c' := { c with fcrb := { c.fcrb with remoteBusy := false } }
  if sFrameType = l2capFcrSupRr then
    if ctrlWord &&& l2capFcrFBit ≠ 0 ∨ remoteWasBusy then retransmitIFrames c' l2cFcrRetxAllPkts
    else (c', true)
  else if sFrameType = l2capFcrSupRej then retransmitIFrames c' l2cFcrRetxAllPkts
  else if sFrameType = l2capFcrSupRnr then ({ c with fcrb := { c.fcrb with remoteBusy := true } }, true)
  else retransmitIFrames c' (ctrlReqSeq ctrlWord)

/-- `process_s_frame`: a poll clears `rej_sent` and owes the peer an F bit, which goes out in an
SREJ while one is outstanding and in an RR otherwise, unless the retransmission disconnected. -/
def processSFrame (c : Ccb) (ctrlWord : Nat) : Ccb :=
  let c :=
    if ctrlWord &&& l2capFcrPBit ≠ 0 then
      { c with fcrb := { c.fcrb with rejSent := false, sendFRsp := true } }
    else c
  let (c, allOk) := sFrameAction c ctrlWord
  if allOk ∧ c.fcrb.sendFRsp then
    let c := l2cFcrSendSFrame c (if c.fcrb.srejSent then l2capFcrSupSrej else l2capFcrSupRr)
      l2capFcrFBit
    { c with fcrb := { c.fcrb with sendFRsp := false } }
  else c

/-! ## Information frames -/

/-- A frame put in `srej_rcv_hold_q`, its TxSeq kept in `layer_specific`. -/
def holdFrame (c : Ccb) (pBuf : BtHdr) (txSeq : Nat) : Ccb :=
  { c with fcrb := { c.fcrb with
      srejRcvHoldQ := c.fcrb.srejRcvHoldQ ++ [{ pBuf with layerSpecific := txSeq }] } }

/-- The branch of `process_i_frame` for a frame that is not the next expected one. `num_lost`
is the masked difference `num_bufs_acked` also computes. A frame `tx_win_sz` or more ahead is a
duplicate and is dropped. With an SREJ outstanding, the frame after the last held one is held
too while there is room; any other frame is dropped and a REJ is owed. With a REJ outstanding
the frame is dropped. Otherwise a single lost frame is asked for with an SREJ and this frame
held, and more than one with a REJ. -/
def processOutOfSeq (c : Ccb) (pBuf : BtHdr) (txSeq : Nat) : Option Ccb :=
  let numLost := numBufsAcked txSeq c.fcrb.nextSeqExpected
  if numLost ≥ c.ourCfgFcr.txWinSz then some c
  else if c.fcrb.srejSent then
    c.fcrb.srejRcvHoldQ.getLast?.map fun last =>
      let nextSrej := (last.layerSpecific + 1) &&& l2capFcrSeqModulo
      if txSeq = nextSrej ∧ c.fcrb.srejRcvHoldQ.length < c.ourCfgFcr.txWinSz then
        holdFrame c pBuf txSeq
      else { c with fcrb := { c.fcrb with rejAfterSrej := true } }
  else if c.fcrb.rejSent then some c
  else if numLost > 1 then
    some (l2cFcrSendSFrame { c with fcrb := { c.fcrb with rejSent := true } } l2capFcrSupRej 0)
  else
    let c := holdFrame c pBuf txSeq
    some (l2cFcrSendSFrame { c with fcrb := { c.fcrb with srejSent := true } } l2capFcrSupSrej 0)

/-- The acknowledgement at the end of `process_i_frame`. With fewer than `max_held_acks` frames
unacknowledged, or for a frame drained from the hold queue, only the ack timer is started. Otherwise
an RR goes out if nothing waits to be sent (or the window is closed) and nothing is held. -/
def ackIFrame (c : Ccb) (delayAck : Bool) : Ccb :=
  let numToAck := numBufsAcked c.fcrb.nextSeqExpected c.fcrb.lastAckSent
  let delayAck := delayAck || decide (numToAck < c.fcrb.maxHeldAcks)
  if numToAck ≠ 0 ∧ c.inUse ∧ c.isOpen ∧ !delayAck ∧
      (c.xmitHoldQ = [] ∨ l2cFcrIsFlowControlled c) ∧ c.fcrb.srejRcvHoldQ = [] then
    l2cFcrSendSFrame c l2capFcrSupRr 0
  else c

/-- The next expected frame: any reject is cleared, `next_seq_expected` moves on, and the frame
goes to `do_sar_reassembly`, where a SAR error disconnects the channel. -/
def acceptIFrame (c : Ccb) (pBuf : BtHdr) (ctrlWord : Nat) (delayAck : Bool) : Ccb :=
  let c := { c with fcrb := { c.fcrb with
    rejSent := false
    srejSent := false
    nextSeqExpected := (ctrlTxSeq ctrlWord + 1) &&& l2capFcrSeqModulo } }
  let r := doSarReassembly c pBuf ctrlWord
  if !r.packetOk then l2cuDisconnectChnl r.ccb else ackIFrame r.ccb delayAck

/-- Checkpoint recovery at the start of `process_i_frame`: an F bit retransmits every
unacknowledged frame. -/
def checkpointRetransmit (c : Ccb) (ctrlWord : Nat) : Ccb × Bool :=
  if ctrlWord &&& l2capFcrFBit ≠ 0 then retransmitIFrames c l2cFcrRetxAllPkts else (c, true)

/-- `process_i_frame`. After the checkpoint retransmission, the frame is dropped if that
disconnected. The next expected frame is accepted; any other goes to `processOutOfSeq`. -/
def processIFrame (c : Ccb) (pBuf : BtHdr) (ctrlWord : Nat) (delayAck : Bool) :
    Option (Ccb × List (BtHdr × Nat)) :=
  let (c, ok) := checkpointRetransmit c ctrlWord
  if !ok then some (c, [])
  else if ctrlTxSeq ctrlWord ≠ c.fcrb.nextSeqExpected then
    (processOutOfSeq c pBuf (ctrlTxSeq ctrlWord)).map fun c => (c, [])
  else some (acceptIFrame c pBuf ctrlWord delayAck, [(pBuf, ctrlWord)])

/-! ## `l2c_fcr_proc_pdu` -/

/-- "If more frames were lost during SREJ, send a REJ." -/
def sendOwedRej (c : Ccb) : Ccb :=
  if c.fcrb.rejAfterSrej then
    l2cFcrSendSFrame { c with fcrb := { c.fcrb with rejAfterSrej := false, rejSent := true } }
      l2capFcrSupRej 0
  else c

/-- One frame taken out of the hold queue: while the channel is open it goes through
`process_i_frame` again, with the control word read back from the buffer and the
acknowledgement held back; otherwise it is freed. -/
def drainOne (c : Ccb) (pBuf : BtHdr) : Option (Ccb × List (BtHdr × Nat)) :=
  if c.inUse ∧ c.isOpen then processIFrame c pBuf (heldCtrlWord pBuf) true else some (c, [])

/-- The loop of `l2c_fcr_proc_pdu` over the frames taken out of the hold queue, with the REJ
owed for frames lost during the SREJ sent after each. -/
def drainLoop (c : Ccb) : List BtHdr → Option (Ccb × List (BtHdr × Nat))
  | [] => some (c, [])
  | pBuf :: tempQ =>
    (drainOne c pBuf).bind fun (c, handed) =>
      (drainLoop (sendOwedRej c) tempQ).map fun (c, handed') => (c, handed ++ handed')

/-- The drain of the SREJ hold queue: the queue is swapped for an empty one and its frames are
processed in order, then one RR acknowledges them unless a reject is outstanding. -/
def drainHoldQ (c : Ccb) : Option (Ccb × List (BtHdr × Nat)) :=
  (drainLoop { c with fcrb := { c.fcrb with srejRcvHoldQ := [] } } c.fcrb.srejRcvHoldQ).map
    fun (c, handed) =>
      if !c.fcrb.rejSent ∧ !c.fcrb.srejSent ∧ c.fcrb.nextSeqExpected ≠ c.fcrb.lastAckSent then
        (l2cFcrSendSFrame c l2capFcrSupRr 0, handed)
      else (c, handed)

/-- After the frame: if the channel is still open, no SREJ is outstanding and frames are held,
they are drained. -/
def afterFrame (c : Ccb) (handed : List (BtHdr × Nat)) : Option (Ccb × List (BtHdr × Nat)) :=
  if c.inUse ∧ c.isOpen ∧ !c.fcrb.srejSent ∧ c.fcrb.srejRcvHoldQ ≠ [] then
    (drainHoldQ c).map fun (c, handed') => (c, handed ++ handed')
  else some (c, handed)

/-- `l2c_fcr_proc_pdu` from `process_reqseq` on: a ReqSeq outside the window ends the frame
there; otherwise the S-frame or I-frame is processed and the hold queue drained. -/
def procCtrl (c : Ccb) (pBuf : BtHdr) (ctrlWord : Nat) : Option (Ccb × List (BtHdr × Nat)) :=
  (processReqseq c ctrlWord).bind fun r =>
    if !r.ok then some (r.ccb, [])
    else
      let res :=
        if ctrlWord &&& l2capFcrSFrameBit ≠ 0 then some (processSFrame r.ccb ctrlWord, [])
        else processIFrame r.ccb pBuf ctrlWord false
      res.bind fun (c, handed) => afterFrame c handed

/-- `l2c_fcr_proc_pdu`: a frame too short or with a bad FCS is dropped. While a poll of ours
waits for its final bit, a frame without the F bit is dropped too, and a polled S-frame among
them is answered at once. A frame with the F bit ends the wait; the P bit of an S-frame is then
cleared. With no poll outstanding the F bit is ignored. -/
def l2cFcrProcPdu (c : Ccb) (pBuf : BtHdr) : Option (Ccb × List (BtHdr × Nat)) :=
  if pBuf.len < l2capFcsLen + l2capFcrOverhead then some (c, [])
  else if l2cFcrRxGetFcs { pBuf with len := pBuf.len - l2capFcsLen } ≠
      streamToUint16 pBuf.data (pBuf.offset + pBuf.len - l2capFcsLen) then some (c, [])
  else
    let (pBuf, ctrlWord) := fcrIFramePayload pBuf
    if c.fcrb.waitAck then
      if ctrlWord &&& l2capFcrFBit = 0 then
        if ctrlWord &&& l2capFcrPBit ≠ 0 ∧ ctrlWord &&& l2capFcrSFrameBit ≠ 0 then
          some (l2cFcrSendSFrame c (if c.fcrb.srejSent then l2capFcrSupSrej else l2capFcrSupRr)
            l2capFcrFBit, [])
        else some (c, [])
      else
        let ctrlWord :=
          if ctrlWord &&& l2capFcrSFrameBit ≠ 0 then ctrlClear ctrlWord l2capFcrPBit else ctrlWord
        let numTries := if c.fcrb.waitingForAckQ = [] then 0 else c.fcrb.numTries
        procCtrl { c with fcrb := { c.fcrb with waitAck := false, numTries } } pBuf ctrlWord
    else procCtrl c pBuf (ctrlClear ctrlWord l2capFcrFBit)

/-! ## What the steps leave of the receive state -/

/-- `c'` has the receive state of `c`: our configuration, whether the channel is in use and open,
the next expected TxSeq, the SREJ flag and the hold queue. -/
structure SameRx (c c' : Ccb) : Prop where
  ourCfgFcr : c'.ourCfgFcr = c.ourCfgFcr
  inUse : c'.inUse = c.inUse
  isOpen : c'.isOpen = c.isOpen
  nextSeqExpected : c'.fcrb.nextSeqExpected = c.fcrb.nextSeqExpected
  srejSent : c'.fcrb.srejSent = c.fcrb.srejSent
  srejRcvHoldQ : c'.fcrb.srejRcvHoldQ = c.fcrb.srejRcvHoldQ

/-- `c'` is `c` released: out of use, with the receive state of a zeroed control block. -/
structure Released (c c' : Ccb) : Prop where
  ourCfgFcr : c'.ourCfgFcr = c.ourCfgFcr
  inUse : c'.inUse = false
  nextSeqExpected : c'.fcrb.nextSeqExpected = 0
  srejSent : c'.fcrb.srejSent = false
  srejRcvHoldQ : c'.fcrb.srejRcvHoldQ = []

/-- A step keeps the receive state, or releases the channel. -/
def RxKept (c c' : Ccb) : Prop := SameRx c c' ∨ Released c c'

variable {c c₁ c₂ : Ccb}

theorem SameRx.refl (c : Ccb) : SameRx c c := ⟨rfl, rfl, rfl, rfl, rfl, rfl⟩

theorem SameRx.trans (h₁ : SameRx c c₁) (h₂ : SameRx c₁ c₂) : SameRx c c₂ :=
  ⟨h₂.ourCfgFcr.trans h₁.ourCfgFcr, h₂.inUse.trans h₁.inUse, h₂.isOpen.trans h₁.isOpen,
    h₂.nextSeqExpected.trans h₁.nextSeqExpected, h₂.srejSent.trans h₁.srejSent,
    h₂.srejRcvHoldQ.trans h₁.srejRcvHoldQ⟩

theorem Released.of_sameRx (h₁ : Released c c₁) (h₂ : SameRx c₁ c₂) : Released c c₂ :=
  ⟨h₂.ourCfgFcr.trans h₁.ourCfgFcr, h₂.inUse.trans h₁.inUse,
    h₂.nextSeqExpected.trans h₁.nextSeqExpected, h₂.srejSent.trans h₁.srejSent,
    h₂.srejRcvHoldQ.trans h₁.srejRcvHoldQ⟩

theorem SameRx.released (h₁ : SameRx c c₁) (h₂ : Released c₁ c₂) : Released c c₂ :=
  ⟨h₂.ourCfgFcr.trans h₁.ourCfgFcr, h₂.inUse, h₂.nextSeqExpected, h₂.srejSent, h₂.srejRcvHoldQ⟩

theorem Released.trans (h₁ : Released c c₁) (h₂ : Released c₁ c₂) : Released c c₂ :=
  ⟨h₂.ourCfgFcr.trans h₁.ourCfgFcr, h₂.inUse, h₂.nextSeqExpected, h₂.srejSent, h₂.srejRcvHoldQ⟩

theorem RxKept.refl (c : Ccb) : RxKept c c := .inl (SameRx.refl c)

theorem RxKept.trans (h₁ : RxKept c c₁) (h₂ : RxKept c₁ c₂) : RxKept c c₂ := by
  rcases h₁ with h₁ | h₁ <;> rcases h₂ with h₂ | h₂
  · exact .inl (h₁.trans h₂)
  · exact .inr (h₁.released h₂)
  · exact .inr (h₁.of_sameRx h₂)
  · exact .inr (h₁.trans h₂)

/-- `l2cu_disconnect_chnl` releases a dynamic channel and leaves a fixed one alone. -/
theorem l2cuDisconnectChnl_cases (c : Ccb) :
    l2cuDisconnectChnl c = c ∨ Released c (l2cuDisconnectChnl c) := by
  unfold l2cuDisconnectChnl
  split
  · exact .inr ⟨rfl, rfl, rfl, rfl, rfl⟩
  · exact .inl rfl

theorem l2cuDisconnectChnl_rxKept (c : Ccb) : RxKept c (l2cuDisconnectChnl c) := by
  rcases l2cuDisconnectChnl_cases c with h | h
  · rw [h]
    exact RxKept.refl c
  · exact .inr h

theorem l2cFcrSendSFrame_sameRx (c : Ccb) (functionCode pfBit : Nat) :
    SameRx c (l2cFcrSendSFrame c functionCode pfBit) := by
  unfold l2cFcrSendSFrame
  split
  · exact SameRx.refl c
  · exact ⟨rfl, rfl, rfl, rfl, rfl, rfl⟩

/-- `retransmit_i_frames` disconnects, or changes only the transmit side. -/
theorem retransmitIFrames_cases (c : Ccb) (txSeq : Nat) :
    (retransmitIFrames c txSeq = (l2cuDisconnectChnl c, false)) ∨
      ((retransmitIFrames c txSeq).2 = true ∧ SameRx c (retransmitIFrames c txSeq).1) := by
  unfold retransmitIFrames
  dsimp only
  split_ifs
  · exact .inl rfl
  all_goals exact .inr ⟨rfl, ⟨rfl, rfl, rfl, rfl, rfl, rfl⟩⟩

theorem retransmitIFrames_rxKept (c : Ccb) (txSeq : Nat) :
    RxKept c (retransmitIFrames c txSeq).1 := by
  rcases retransmitIFrames_cases c txSeq with h | ⟨-, h⟩
  · rw [h]
    exact l2cuDisconnectChnl_rxKept c
  · exact .inl h

/-- `process_reqseq` disconnects, refusing the frame, or accepts it keeping the receive state. -/
theorem processReqseq_cases {r : ReqseqResult} {ctrlWord : Nat}
    (h : processReqseq c ctrlWord = some r) :
    (r.ccb = l2cuDisconnectChnl c ∧ r.ok = false) ∨ (r.ok = true ∧ SameRx c r.ccb) := by
  cases hs : isSrejWithoutPoll ctrlWord
  · by_cases hn : c.fcrb.waitingForAckQ.length < numBufsAcked (ctrlReqSeq ctrlWord) c.fcrb.lastRxAck
    · rw [processReqseq_of_lt hs hn] at h
      cases h
      exact .inl ⟨rfl, rfl⟩
    · obtain ⟨txComplete, hp⟩ := processReqseq_of_le hs (Nat.le_of_not_lt hn)
      rw [hp] at h
      cases h
      exact .inr ⟨rfl, ⟨rfl, rfl, rfl, rfl, rfl, rfl⟩⟩
  · rw [processReqseq_of_srej hs] at h
    cases h
    exact .inr ⟨rfl, SameRx.refl c⟩

/-- `process_reqseq` never meets the empty queue its release loop would dereference. -/
theorem processReqseq_isSome (c : Ccb) (ctrlWord : Nat) : (processReqseq c ctrlWord).isSome := by
  cases hs : isSrejWithoutPoll ctrlWord
  · by_cases hn : c.fcrb.waitingForAckQ.length < numBufsAcked (ctrlReqSeq ctrlWord) c.fcrb.lastRxAck
    · rw [processReqseq_of_lt hs hn]
      rfl
    · obtain ⟨txComplete, hp⟩ := processReqseq_of_le hs (Nat.le_of_not_lt hn)
      rw [hp]
      rfl
  · rw [processReqseq_of_srej hs]
    rfl

theorem sFrameAction_rxKept (c : Ccb) (ctrlWord : Nat) : RxKept c (sFrameAction c ctrlWord).1 := by
  have hbusy : ∀ b, SameRx c { c with fcrb := { c.fcrb with remoteBusy := b } } :=
    fun _ => ⟨rfl, rfl, rfl, rfl, rfl, rfl⟩
  unfold sFrameAction
  dsimp only
  split_ifs
  -- each retransmission starts from the channel with the peer no longer busy
  all_goals first
    | exact RxKept.trans (.inl (hbusy _)) (retransmitIFrames_rxKept _ _)
    | exact .inl (hbusy _)

theorem processSFrame_rxKept (c : Ccb) (ctrlWord : Nat) : RxKept c (processSFrame c ctrlWord) := by
  unfold processSFrame
  dsimp only
  set c₁ := (if ctrlWord &&& l2capFcrPBit ≠ 0 then
      { c with fcrb := { c.fcrb with rejSent := false, sendFRsp := true } } else c) with hc₁
  -- the poll changes only the reject flag and the owed F bit
  have hpoll : SameRx c c₁ := by
    rw [hc₁]
    split
    · exact ⟨rfl, rfl, rfl, rfl, rfl, rfl⟩
    · exact SameRx.refl c
  have hact := RxKept.trans (.inl hpoll) (sFrameAction_rxKept c₁ ctrlWord)
  rcases hs : sFrameAction c₁ ctrlWord with ⟨c₂, allOk⟩
  rw [hs] at hact
  dsimp only
  split
  · exact hact.trans (.inl ((l2cFcrSendSFrame_sameRx c₂ _ _).trans ⟨rfl, rfl, rfl, rfl, rfl, rfl⟩))
  · exact hact

theorem l2cFcrProcTout_rxKept (c : Ccb) : RxKept c (l2cFcrProcTout c) := by
  have htries : SameRx c { c with fcrb := { c.fcrb with numTries := (c.fcrb.numTries + 1) % 256 } } :=
    ⟨rfl, rfl, rfl, rfl, rfl, rfl⟩
  unfold l2cFcrProcTout
  dsimp only
  split_ifs
  · exact RxKept.trans (.inl htries) (l2cuDisconnectChnl_rxKept _)
  · exact .inl (htries.trans (l2cFcrSendSFrame_sameRx _ _ _))
  · exact .inl htries
  · exact .inl (l2cFcrSendSFrame_sameRx _ _ _)
  · exact RxKept.refl c

theorem l2cEnqueuePeerData_sameRx (c : Ccb) (pBuf : BtHdr) :
    SameRx c (l2cEnqueuePeerData c pBuf) := by
  unfold l2cEnqueuePeerData
  split
  · exact SameRx.refl c
  · exact ⟨rfl, rfl, rfl, rfl, rfl, rfl⟩

theorem l2cFcrGetNextXmitSduSeg_sameRx {pXmit : BtHdr} {maxPacketLength : Nat}
    (h : l2cFcrGetNextXmitSduSeg c maxPacketLength = some (c₁, pXmit)) : SameRx c c₁ := by
  cases hr : c.fcrb.retransQ with
  | cons b rest =>
    rw [l2cFcrGetNextXmitSduSeg_of_retransQ maxPacketLength hr] at h
    cases h
    exact ⟨rfl, rfl, rfl, rfl, rfl, rfl⟩
  | nil =>
    cases hq : c.xmitHoldQ with
    | nil =>
      rw [l2cFcrGetNextXmitSduSeg_of_nil maxPacketLength hr hq] at h
      cases h
    | cons pBuf rest =>
      rw [l2cFcrGetNextXmitSduSeg_of_xmitHoldQ maxPacketLength hr hq] at h
      simp only [prepareIFrame_fst] at h
      split at h <;>
      · cases h
        exact ⟨rfl, rfl, rfl, rfl, rfl, rfl⟩

/-- Every event of the sending side keeps the receive state or releases the channel. -/
theorem TxStep.rxKept (h : TxStep c c₁) : RxKept c c₁ := by
  cases h with
  | dataWrite pBuf hbuf => exact .inl (l2cEnqueuePeerData_sameRx c pBuf)
  | linkPull maxPacketLength hguard hnext => exact .inl (l2cFcrGetNextXmitSduSeg_sameRx hnext)
  | reqSeq ctrlWord hr =>
    rcases processReqseq_cases hr with ⟨hd, -⟩ | ⟨-, hs⟩
    · rw [hd]
      exact l2cuDisconnectChnl_rxKept c
    · exact .inl hs
  | retransmit txSeq => exact retransmitIFrames_rxKept c txSeq
  | timeout => exact l2cFcrProcTout_rxKept c

theorem sarStart_sameRx (c : Ccb) (pBuf : BtHdr) : SameRx c (sarStart c pBuf).1 := by
  unfold sarStart
  dsimp only
  split
  · exact ⟨rfl, rfl, rfl, rfl, rfl, rfl⟩
  · exact ⟨rfl, rfl, rfl, rfl, rfl, rfl⟩

theorem sarAppend_sameRx (c : Ccb) (rxSdu pBuf : BtHdr) (sarType : Nat) :
    SameRx c (sarAppend c rxSdu pBuf sarType).ccb := by
  unfold sarAppend
  split_ifs
  all_goals exact ⟨rfl, rfl, rfl, rfl, rfl, rfl⟩

/-- `do_sar_reassembly` changes only the SDU being reassembled. -/
theorem doSarReassembly_sameRx (c : Ccb) (pBuf : BtHdr) (ctrlWord : Nat) :
    SameRx c (doSarReassembly c pBuf ctrlWord).ccb := by
  have hstart : SameRx c (if ctrlWord &&& l2capFcrSegBits = l2capFcrStartSdu then sarStart c pBuf
      else (c, pBuf, true)).1 := by
    split
    · exact sarStart_sameRx c pBuf
    · exact SameRx.refl c
  unfold doSarReassembly
  dsimp only
  rcases hst : (if ctrlWord &&& l2capFcrSegBits = l2capFcrStartSdu then sarStart c pBuf
      else (c, pBuf, true)) with ⟨c₁, p₁, ok⟩
  rw [hst] at hstart
  dsimp only
  split_ifs
  · exact SameRx.refl c
  · exact SameRx.refl c
  · exact hstart
  · split
    · exact hstart.trans (sarAppend_sameRx _ _ _ _)
    · exact hstart

/-! ## One frame -/

theorem ctrlTxSeq_lt (ctrlWord : Nat) : ctrlTxSeq ctrlWord < 64 := by
  rw [ctrlTxSeq, txSeq_field]
  omega

/-- Clearing a bit leaves the bits of a mask it does not touch. -/
theorem ctrlClear_and {ctrlWord bit mask : Nat} (h : (0xFFFF ^^^ bit) &&& mask = mask) :
    ctrlClear ctrlWord bit &&& mask = ctrlWord &&& mask := by
  rw [ctrlClear, Nat.land_assoc, h]

theorem ctrlTxSeq_ctrlClear_fBit (ctrlWord : Nat) :
    ctrlTxSeq (ctrlClear ctrlWord l2capFcrFBit) = ctrlTxSeq ctrlWord := by
  rw [ctrlTxSeq, ctrlClear_and (by decide), ← ctrlTxSeq]

theorem ctrlClear_pBit_sFrameBit (ctrlWord : Nat) :
    ctrlClear ctrlWord l2capFcrPBit &&& l2capFcrSFrameBit = ctrlWord &&& l2capFcrSFrameBit :=
  ctrlClear_and (by decide)

/-- The control word `l2c_fcr_proc_pdu` stepped over is the one the drain reads back. -/
theorem heldCtrlWord_fcrIFramePayload (pBuf : BtHdr) :
    heldCtrlWord (fcrIFramePayload pBuf).1 = (fcrIFramePayload pBuf).2 := by
  simp [heldCtrlWord, fcrIFramePayload, l2capFcrOverhead]

theorem checkpointRetransmit_cases (c : Ccb) (ctrlWord : Nat) :
    checkpointRetransmit c ctrlWord = (l2cuDisconnectChnl c, false) ∨
      ((checkpointRetransmit c ctrlWord).2 = true ∧ SameRx c (checkpointRetransmit c ctrlWord).1) := by
  unfold checkpointRetransmit
  split
  · exact retransmitIFrames_cases c _
  · exact .inr ⟨rfl, SameRx.refl c⟩

theorem checkpointRetransmit_refused {ctrlWord : Nat}
    (h : checkpointRetransmit c ctrlWord = (c₁, false)) : c₁ = l2cuDisconnectChnl c := by
  rcases checkpointRetransmit_cases c ctrlWord with hd | ⟨hok, -⟩
  · rw [h] at hd
    exact (Prod.mk.inj hd).1
  · rw [h] at hok
    cases hok

theorem checkpointRetransmit_ok {ctrlWord : Nat} (h : (checkpointRetransmit c ctrlWord).2 = true) :
    SameRx c (checkpointRetransmit c ctrlWord).1 := by
  rcases checkpointRetransmit_cases c ctrlWord with hd | ⟨-, hs⟩
  · rw [hd] at h
    cases h
  · exact hs

theorem holdFrame_sameRx_srej (c : Ccb) (pBuf : BtHdr) (txSeq : Nat) (hs : c.fcrb.srejSent = true) :
    SameRx (holdFrame { c with fcrb := { c.fcrb with srejSent := true } } pBuf txSeq)
      (holdFrame c pBuf txSeq) :=
  ⟨rfl, rfl, rfl, rfl, hs, rfl⟩

/-- **What an out-of-sequence frame does.** It leaves the receive state alone, or it is held,
within the window: after the last held frame while an SREJ is outstanding, or as the first held
frame, the one after a single lost frame, with the SREJ sent for that one. -/
theorem processOutOfSeq_cases {pBuf : BtHdr} {txSeq : Nat}
    (h : processOutOfSeq c pBuf txSeq = some c₁) :
    SameRx c c₁ ∨
      (numBufsAcked txSeq c.fcrb.nextSeqExpected < c.ourCfgFcr.txWinSz ∧
        ((c.fcrb.srejSent = true ∧ ∃ last, c.fcrb.srejRcvHoldQ.getLast? = some last ∧
            txSeq = (last.layerSpecific + 1) &&& l2capFcrSeqModulo) ∨
          (c.fcrb.srejSent = false ∧ numBufsAcked txSeq c.fcrb.nextSeqExpected ≤ 1)) ∧
        SameRx (holdFrame { c with fcrb := { c.fcrb with srejSent := true } } pBuf txSeq) c₁) := by
  unfold processOutOfSeq at h
  dsimp only at h
  split_ifs at h with hdup hsrej hrej hmany
  · -- a duplicate
    cases h
    exact .inl (SameRx.refl c)
  · -- an SREJ is outstanding: the frame after the last held one is held, any other dropped
    obtain ⟨last, hlast, hc₁⟩ := Option.map_eq_some_iff.1 h
    subst hc₁
    dsimp only
    split
    · rename_i hnext
      exact .inr ⟨Nat.lt_of_not_le hdup, .inl ⟨hsrej, last, hlast, hnext.1⟩,
        holdFrame_sameRx_srej c pBuf txSeq hsrej⟩
    · exact .inl ⟨rfl, rfl, rfl, rfl, rfl, rfl⟩
  · -- a REJ is outstanding
    cases h
    exact .inl (SameRx.refl c)
  · -- more than one frame lost: a REJ
    cases h
    have hrej : SameRx c { c with fcrb := { c.fcrb with rejSent := true } } :=
      ⟨rfl, rfl, rfl, rfl, rfl, rfl⟩
    exact .inl (hrej.trans (l2cFcrSendSFrame_sameRx _ _ _))
  · -- one frame lost: an SREJ for it, and this frame held
    cases h
    refine .inr ⟨Nat.lt_of_not_le hdup, .inr ⟨by simpa using hsrej, Nat.le_of_not_lt hmany⟩, ?_⟩
    exact (l2cFcrSendSFrame_sameRx _ _ _).trans ⟨rfl, rfl, rfl, rfl, rfl, rfl⟩

/-- While an SREJ outstanding has frames held, an out-of-sequence frame never meets an empty hold
queue. -/
theorem processOutOfSeq_isSome {pBuf : BtHdr} {txSeq : Nat}
    (h : c.fcrb.srejSent = true → c.fcrb.srejRcvHoldQ ≠ []) :
    (processOutOfSeq c pBuf txSeq).isSome := by
  unfold processOutOfSeq
  dsimp only
  split_ifs with hdup hsrej
  · rfl
  · obtain ⟨last, hlast⟩ := Option.isSome_iff_exists.1
      (List.getLast?_isSome.2 (h hsrej))
    rw [hlast]
    rfl
  all_goals rfl

/-- **What an I-frame does.** The checkpoint retransmission disconnects and the frame is
dropped; or the frame is out of sequence; or it is the next expected one and is accepted. -/
theorem processIFrame_cases {pBuf : BtHdr} {ctrlWord : Nat} {delayAck : Bool}
    {handed : List (BtHdr × Nat)} (h : processIFrame c pBuf ctrlWord delayAck = some (c₁, handed)) :
    (checkpointRetransmit c ctrlWord = (c₁, false) ∧ handed = []) ∨
      ((checkpointRetransmit c ctrlWord).2 = true ∧
        ctrlTxSeq ctrlWord ≠ (checkpointRetransmit c ctrlWord).1.fcrb.nextSeqExpected ∧
        processOutOfSeq (checkpointRetransmit c ctrlWord).1 pBuf (ctrlTxSeq ctrlWord) = some c₁ ∧
        handed = []) ∨
      ((checkpointRetransmit c ctrlWord).2 = true ∧
        ctrlTxSeq ctrlWord = (checkpointRetransmit c ctrlWord).1.fcrb.nextSeqExpected ∧
        c₁ = acceptIFrame (checkpointRetransmit c ctrlWord).1 pBuf ctrlWord delayAck ∧
        handed = [(pBuf, ctrlWord)]) := by
  unfold processIFrame at h
  rcases hcp : checkpointRetransmit c ctrlWord with ⟨c₀, ok⟩
  rw [hcp] at h
  dsimp only at h
  cases ok with
  | false =>
    simp only [Bool.not_false, if_true, Option.some.injEq, Prod.mk.injEq] at h
    obtain ⟨rfl, rfl⟩ := h
    exact .inl ⟨rfl, rfl⟩
  | true =>
    simp only [Bool.not_true, Bool.false_eq_true, if_false] at h
    split_ifs at h with hseq
    · obtain ⟨c₂, hc₂, hh⟩ := Option.map_eq_some_iff.1 h
      simp only [Prod.mk.injEq] at hh
      obtain ⟨rfl, rfl⟩ := hh
      exact .inr (.inl ⟨rfl, hseq, hc₂, rfl⟩)
    · simp only [Option.some.injEq, Prod.mk.injEq] at h
      obtain ⟨rfl, rfl⟩ := h
      exact .inr (.inr ⟨rfl, not_not.1 hseq, rfl, rfl⟩)

theorem sendOwedRej_sameRx (c : Ccb) : SameRx c (sendOwedRej c) := by
  have hrej : SameRx c { c with fcrb := { c.fcrb with rejAfterSrej := false, rejSent := true } } :=
    ⟨rfl, rfl, rfl, rfl, rfl, rfl⟩
  unfold sendOwedRej
  split
  · exact hrej.trans (l2cFcrSendSFrame_sameRx _ _ _)
  · exact SameRx.refl c

theorem ackIFrame_sameRx (c : Ccb) (delayAck : Bool) : SameRx c (ackIFrame c delayAck) := by
  unfold ackIFrame
  dsimp only
  split
  · exact l2cFcrSendSFrame_sameRx c _ _
  · exact SameRx.refl c

/-- An accepted frame clears the SREJ flag and moves `next_seq_expected` one past its TxSeq; a
SAR error may then release the channel. -/
theorem acceptIFrame_rxKept (c : Ccb) (pBuf : BtHdr) (ctrlWord : Nat) (delayAck : Bool) :
    RxKept { c with fcrb := { c.fcrb with
        srejSent := false
        nextSeqExpected := (ctrlTxSeq ctrlWord + 1) % 64 } }
      (acceptIFrame c pBuf ctrlWord delayAck) := by
  unfold acceptIFrame
  dsimp only
  have hnext : SameRx
      { c with fcrb := { c.fcrb with
          srejSent := false
          nextSeqExpected := (ctrlTxSeq ctrlWord + 1) % 64 } }
      { c with fcrb := { c.fcrb with
          rejSent := false
          srejSent := false
          nextSeqExpected := (ctrlTxSeq ctrlWord + 1) &&& l2capFcrSeqModulo } } :=
    ⟨rfl, rfl, rfl, succ_and_seqModulo _, rfl, rfl⟩
  have hr := hnext.trans (doSarReassembly_sameRx _ pBuf ctrlWord)
  split
  · exact RxKept.trans (.inl hr) (l2cuDisconnectChnl_rxKept _)
  · exact .inl (hr.trans (ackIFrame_sameRx _ _))

end BluetoothStack.L2cap
