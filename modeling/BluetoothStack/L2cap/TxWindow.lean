import BluetoothStack.L2cap.Fcr
import BluetoothStack.Lib.ModSeq

/-!
# The ERTM transmit window

The sending side of an ERTM channel keeps a copy of every I-frame it sent and the peer has not
yet acknowledged in `waiting_for_ack_q`. `TxReachable` are the channel states reachable from a
freshly configured channel by any interleaving of SDUs from the upper layer, pulls from the link
(`l2c_fcr_get_next_xmit_sdu_seg` under the guard of `l2cu_get_next_buffer_to_send`),
acknowledgements (`process_reqseq`), retransmission requests and timeouts.

`TxWindowInv` is the invariant of the window: the queued frames carry the TxSeqs
`last_rx_ack, last_rx_ack + 1, ...` modulo 64, `next_tx_seq` is one past the last of them, and
the queue fits the peer's window. `txWindowInv_of_reachable` proves it of every reachable state,
from one lemma per event. Against the window, `process_reqseq` accepts a ReqSeq exactly when it
lies in `[last_rx_ack, next_tx_seq]`, never dequeues from an empty queue, and releases exactly
the frames numbered in `[last_rx_ack, ReqSeq)`; an SREJ without the P bit is the exception, and
is accepted whatever its ReqSeq (`ertm_transmit_window`).
-/

namespace BluetoothStack.L2cap

open Bytes ModSeq

/-! ## Channels and events -/

/-- `max_retrans_size` of `l2c_fcr_process_peer_cfg_req`: the largest MPS configuration accepts
from the peer, and so the largest `tx_mps` of an ERTM channel. -/
def maxRetransSize : Nat :=
  btDefaultBufferSize - btHdrSize - l2capMinOffset - l2capSduLenOffset - l2capFcsLen

/-- The configuration an ERTM channel sends with: ERTM towards the peer, a window that 6-bit
sequence numbers can address, and an MPS that configuration accepted. -/
structure ErtmConfig (c : Ccb) : Prop where
  mode : c.peerCfgFcr.mode = l2capFcrErtmMode
  txWinSz_le : c.peerCfgFcr.txWinSz ≤ 63
  txMps_le : c.txMps ≤ maxRetransSize

/-- A buffer as `L2CA_DataWrite` takes it: `L2CAP_MIN_OFFSET` bytes of headroom for the
headers, and the message inside the storage. -/
def SduBuffer (b : BtHdr) : Prop :=
  l2capMinOffset ≤ b.offset ∧ b.offset + b.len ≤ b.data.length

/-- A buffer in `xmit_hold_q`: headroom for the basic header and the control word, and the
rest of its message inside the storage. Segmentation moves `offset` forward over the part sent,
so the buffer stays one. -/
def HoldBuffer (b : BtHdr) : Prop :=
  l2capPktOverhead + l2capFcrOverhead ≤ b.offset ∧ b.offset + b.len ≤ b.data.length

/-- One event on the sending side of an ERTM channel. -/
inductive TxStep : Ccb → Ccb → Prop
  /-- `L2CA_DataWrite` hands an SDU to `l2c_enqueue_peer_data`. -/
  | dataWrite {c : Ccb} (pBuf : BtHdr) (hbuf : SduBuffer pBuf) :
      TxStep c (l2cEnqueuePeerData c pBuf)
  /-- The link takes the next frame; `l2cu_get_next_buffer_to_send` asks for one only when a
  retransmission is queued or the channel is not flow controlled. -/
  | linkPull {c c' : Ccb} {pXmit : BtHdr} (maxPacketLength : Nat)
      (hguard : c.fcrb.retransQ ≠ [] ∨ l2cFcrIsFlowControlled c = false)
      (hnext : l2cFcrGetNextXmitSduSeg c maxPacketLength = some (c', pXmit)) : TxStep c c'
  /-- The control word of a received frame goes through `process_reqseq`. -/
  | reqSeq {c : Ccb} {r : ReqseqResult} (ctrlWord : Nat)
      (hr : processReqseq c ctrlWord = some r) : TxStep c r.ccb
  /-- A REJ, an SREJ or a poll asks for `retransmit_i_frames`. -/
  | retransmit {c : Ccb} (txSeq : Nat) : TxStep c (retransmitIFrames c txSeq).1
  /-- The retransmission or monitor timer expires. -/
  | timeout {c : Ccb} : TxStep c (l2cFcrProcTout c)

/-- A channel just configured for ERTM: the control block as `l2c_fcr_cleanup` zeroed it, and
well-formed SDUs queued. -/
structure ErtmStart (c : Ccb) : Prop where
  config : ErtmConfig c
  fcrb : c.fcrb = Fcrb.zero
  hold : ∀ b ∈ c.xmitHoldQ, HoldBuffer b

/-- The states a channel reaches from `c₀` by any sequence of events. -/
inductive TxReachable (c₀ : Ccb) : Ccb → Prop
  | refl : TxReachable c₀ c₀
  | tail {c c' : Ccb} : TxReachable c₀ c → TxStep c c' → TxReachable c₀ c'

/-! ## The invariant -/

/-- The transmit window: the outstanding frames are numbered consecutively from `last_rx_ack`,
`next_tx_seq` follows the last of them, and there are at most `tx_win_sz` of them. -/
structure TxWindowInv (c : Ccb) : Prop where
  config : ErtmConfig c
  lastRxAck_lt : c.fcrb.lastRxAck < 64
  nextTxSeq_eq : c.fcrb.nextTxSeq = (c.fcrb.lastRxAck + c.fcrb.waitingForAckQ.length) % 64
  consecutive : Consecutive frameTxSeq 64 c.fcrb.lastRxAck c.fcrb.waitingForAckQ
  length_le : c.fcrb.waitingForAckQ.length ≤ c.peerCfgFcr.txWinSz
  hold : ∀ b ∈ c.xmitHoldQ, HoldBuffer b

/-- `c'` has the transmit state of `c`: its configuration, sequence numbers and queues. -/
structure SameWindow (c c' : Ccb) : Prop where
  peerCfgFcr : c'.peerCfgFcr = c.peerCfgFcr
  txMps : c'.txMps = c.txMps
  lastRxAck : c'.fcrb.lastRxAck = c.fcrb.lastRxAck
  nextTxSeq : c'.fcrb.nextTxSeq = c.fcrb.nextTxSeq
  waitingForAckQ : c'.fcrb.waitingForAckQ = c.fcrb.waitingForAckQ
  xmitHoldQ : c'.xmitHoldQ = c.xmitHoldQ

variable {c c' : Ccb}

theorem ErtmConfig.of_eq (h : ErtmConfig c) (hcfg : c'.peerCfgFcr = c.peerCfgFcr)
    (hmps : c'.txMps = c.txMps) : ErtmConfig c' :=
  ⟨by rw [hcfg]; exact h.mode, by rw [hcfg]; exact h.txWinSz_le, by rw [hmps]; exact h.txMps_le⟩

theorem TxWindowInv.of_sameWindow (h : TxWindowInv c) (hs : SameWindow c c') : TxWindowInv c' := by
  obtain ⟨hcfg, hmps, hack, hnext, hq, hhold⟩ := hs
  obtain ⟨⟨hmode, hwin, hmpsle⟩, hlt, heq, hcons, hlen, hbufs⟩ := h
  refine ⟨⟨?_, ?_, ?_⟩, ?_, ?_, ?_, ?_, ?_⟩ <;>
    simp only [hcfg, hmps, hack, hnext, hq, hhold] <;> assumption

theorem ErtmStart.txWindowInv (h : ErtmStart c) : TxWindowInv c := by
  obtain ⟨hcfg, hf, hhold⟩ := h
  refine ⟨hcfg, ?_, ?_, ?_, ?_, hhold⟩ <;> rw [hf]
  · decide
  · rfl
  · exact consecutive_nil _ _ _
  · exact Nat.zero_le _

/-- A released channel has an empty window. -/
theorem TxWindowInv.disconnect (h : TxWindowInv c) : TxWindowInv (l2cuDisconnectChnl c) := by
  unfold l2cuDisconnectChnl
  split
  · exact ⟨h.config.of_eq rfl rfl, by simp [Fcrb.zero], rfl, consecutive_nil _ _ _,
      Nat.zero_le _, by simp⟩
  · exact h

/-! ## Sending -/

theorem maxPdu_le (c : Ccb) (maxPacketLength : Nat) : maxPdu c maxPacketLength ≤ c.txMps := by
  unfold maxPdu
  split <;> omega

/-- The new TxSeq `prepare_I_frame` takes, `(next_tx_seq + 1) & L2CAP_FCR_SEQ_MODULO`. -/
theorem succ_and_seqModulo (x : Nat) : (x + 1) &&& l2capFcrSeqModulo = (x + 1) % 64 :=
  Nat.and_two_pow_sub_one_eq_mod (x + 1) 6

/-- Segmentation keeps `xmit_hold_q` well formed. -/
theorem nextSegment_hold {maxPdu : Nat} {pBuf : BtHdr} {rest : List BtHdr}
    (hb : HoldBuffer pBuf) (hrest : ∀ b ∈ rest, HoldBuffer b) :
    ∀ b ∈ (nextSegment c maxPdu pBuf rest).1, HoldBuffer b := by
  obtain ⟨hb1, hb2⟩ := hb
  unfold nextSegment
  split
  · intro b hmem
    rcases List.mem_cons.1 hmem with rfl | hmem
    · constructor <;> dsimp only <;> omega
    · exact hrest b hmem
  · exact hrest

/-- The piece of the SDU at the head of `xmit_hold_q` that goes out next lies inside its
storage with room before it for its headers, and carries at most `max_pdu` bytes. -/
theorem nextSegment_snd (c : Ccb) (rest : List BtHdr) {maxPdu : Nat} {pBuf : BtHdr}
    (hb : HoldBuffer pBuf) (hpdu : maxPdu ≤ maxRetransSize) :
    let p := (nextSegment c maxPdu pBuf rest).2
    (if segmentSar maxPdu pBuf = l2capFcrStartSdu then 8 else 6) ≤ p.offset ∧
      p.offset ≤ p.data.length ∧ p.len ≤ maxPdu := by
  obtain ⟨hb1, hb2⟩ := hb
  have hhdr : (if segmentSar maxPdu pBuf = l2capFcrStartSdu then 8 else 6) ≤ 8 := by
    split <;> omega
  unfold maxRetransSize btDefaultBufferSize btHdrSize l2capMinOffset l2capSduLenOffset
    l2capFcsLen at hpdu
  by_cases hseg : pBuf.len > maxPdu
  · -- a piece copied out of a long SDU, at `L2CAP_MIN_OFFSET + L2CAP_SDU_LEN_OFFSET`
    have hclone : (l2cFcrCloneBuf pBuf (l2capMinOffset + l2capSduLenOffset) maxPdu).data.length =
        l2capMinOffset + l2capSduLenOffset + maxPdu + l2capFcsLen :=
      length_l2cFcrCloneBuf_data
        (by simp only [btHdrSize, l2capMinOffset, l2capSduLenOffset, l2capFcsLen]; omega)
    simp only [nextSegment, hseg, ↓reduceIte, l2cFcrCloneBuf_offset, l2cFcrCloneBuf_len, hclone]
    simp only [l2capMinOffset, l2capSduLenOffset, l2capFcsLen]
    omega
  · -- the rest of the SDU, framed in place: never a start frame
    have hsar : segmentSar maxPdu pBuf ≠ l2capFcrStartSdu := by
      unfold segmentSar
      simp only [hseg, ↓reduceIte]
      split <;> decide
    simp only [nextSegment, hseg, ↓reduceIte, hsar]
    unfold l2capPktOverhead l2capFcrOverhead at hb1
    omega

/-- The piece framed next has its basic header and control word inside the storage, and at most
`max_pdu` bytes of data after the headers. -/
theorem segment_frame (c : Ccb) (rest : List BtHdr) {maxPdu : Nat} {pBuf : BtHdr}
    (hb : HoldBuffer pBuf) (hpdu : maxPdu ≤ maxRetransSize) :
    let pHdr := addSegmentHeader c (segmentSar maxPdu pBuf) pBuf.len
      (nextSegment c maxPdu pBuf rest).2
    l2capPktOverhead + l2capFcrOverhead ≤ pHdr.len ∧
      pHdr.offset + l2capPktOverhead + l2capFcrOverhead ≤ pHdr.data.length ∧
      pHdr.len ≤ maxPdu + 8 := by
  dsimp only
  obtain ⟨hroom, hin, hle⟩ := nextSegment_snd c rest hb hpdu
  obtain ⟨hoff, hlen⟩ := addSegmentHeader_offset_len c (segmentSar maxPdu pBuf) pBuf.len
    (nextSegment c maxPdu pBuf rest).2
  have hdata := length_addSegmentHeader_data c (segmentSar maxPdu pBuf) pBuf.len
    (nextSegment c maxPdu pBuf rest).2
  simp only [l2capPktOverhead, l2capFcrOverhead]
  by_cases hs : segmentSar maxPdu pBuf = l2capFcrStartSdu
  · rw [if_pos hs] at hroom hoff hlen
    omega
  · rw [if_neg hs] at hroom hoff hlen
    omega

/-- The copy kept of a new I-frame carries the channel's next TxSeq. -/
theorem frameTxSeq_waitAckCopy_prepareIFrame {pHdr : BtHdr}
    (hhdr : l2capPktOverhead + l2capFcrOverhead ≤ pHdr.len)
    (hfit : pHdr.offset + l2capPktOverhead + l2capFcrOverhead ≤ pHdr.data.length)
    (hsz : pHdr.len ≤ maxRetransSize + 8) :
    frameTxSeq (waitAckCopy (prepareIFrame c pHdr false).2) = c.fcrb.nextTxSeq % 64 := by
  have hcopy : frameTxSeq (waitAckCopy (prepareIFrame c pHdr false).2) =
      frameTxSeq (prepareIFrame c pHdr false).2 := frameTxSeq_waitAckCopy
    (by simp only [prepareIFrame_snd_len]; omega) (by simpa using hfit)
    (by
      simp only [prepareIFrame_snd_len, maxRetransSize, btDefaultBufferSize, btHdrSize,
        l2capMinOffset, l2capSduLenOffset, l2capFcsLen, hciDataPreambleSize] at hsz ⊢
      omega)
  rw [hcopy, frameTxSeq_prepareIFrame hhdr hfit]

/-- Pulling the next frame keeps the window: a retransmission leaves it alone, and a new frame,
which the guard lets through only while the window has room, joins its end with the TxSeq
`next_tx_seq`. -/
theorem TxWindowInv.linkPull {pXmit : BtHdr} {maxPacketLength : Nat} (h : TxWindowInv c)
    (hguard : c.fcrb.retransQ ≠ [] ∨ l2cFcrIsFlowControlled c = false)
    (hnext : l2cFcrGetNextXmitSduSeg c maxPacketLength = some (c', pXmit)) : TxWindowInv c' := by
  cases hr : c.fcrb.retransQ with
  | cons b rest =>
    rw [l2cFcrGetNextXmitSduSeg_of_retransQ maxPacketLength hr] at hnext
    cases hnext
    exact h.of_sameWindow ⟨rfl, rfl, rfl, by simp, rfl, rfl⟩
  | nil =>
    have hfc : l2cFcrIsFlowControlled c = false := hguard.resolve_left (by simp [hr])
    have hroom : c.fcrb.waitingForAckQ.length < c.peerCfgFcr.txWinSz := by
      simp only [l2cFcrIsFlowControlled, h.config.mode, beq_self_eq_true, Bool.true_and,
        Bool.or_eq_false_iff, decide_eq_false_iff_not, Nat.not_le] at hfc
      exact hfc.2
    cases hq : c.xmitHoldQ with
    | nil =>
      rw [l2cFcrGetNextXmitSduSeg_of_nil maxPacketLength hr hq] at hnext
      cases hnext
    | cons pBuf rest =>
      rw [l2cFcrGetNextXmitSduSeg_of_xmitHoldQ maxPacketLength hr hq] at hnext
      simp only [prepareIFrame_fst, h.config.mode, ↓reduceIte] at hnext
      cases hnext
      have hbuf := h.hold pBuf (by simp [hq])
      have hrest : ∀ b ∈ rest, HoldBuffer b := fun b hb => h.hold b (by simp [hq, hb])
      have hpdu : maxPdu c maxPacketLength ≤ maxRetransSize :=
        (maxPdu_le c maxPacketLength).trans h.config.txMps_le
      obtain ⟨hhdr, hfit, hsz⟩ := segment_frame c rest hbuf hpdu
      have hcopy := frameTxSeq_waitAckCopy_prepareIFrame
        (c := { c with xmitHoldQ := (nextSegment c (maxPdu c maxPacketLength) pBuf rest).1 })
        hhdr hfit (by omega)
      dsimp only at hcopy
      have hlen := h.length_le
      have hwin := h.config.txWinSz_le
      refine ⟨h.config.of_eq rfl rfl, h.lastRxAck_lt, ?_, ?_, ?_, nextSegment_hold hbuf hrest⟩
      · -- the new TxSeq is one past the window's new last frame
        simp only [Bool.false_eq_true, ↓reduceIte, succ_and_seqModulo, h.nextTxSeq_eq,
          List.length_append, List.length_singleton]
        omega
      · apply h.consecutive.append
        rw [hcopy, h.nextTxSeq_eq, Nat.mod_mod]
      · simp only [List.length_append, List.length_singleton]
        omega

/-- A new SDU joins `xmit_hold_q` (outside basic mode without a header yet). -/
theorem TxWindowInv.dataWrite {pBuf : BtHdr} (h : TxWindowInv c) (hbuf : SduBuffer pBuf) :
    TxWindowInv (l2cEnqueuePeerData c pBuf) := by
  have hmode : c.peerCfgFcr.mode ≠ l2capFcrBasicMode := by
    rw [h.config.mode]
    decide
  unfold l2cEnqueuePeerData
  split
  · exact h
  · refine ⟨h.config.of_eq rfl rfl, h.lastRxAck_lt, h.nextTxSeq_eq, h.consecutive, h.length_le, ?_⟩
    intro b hb
    rcases List.mem_append.1 hb with hb | hb
    · exact h.hold b hb
    · simp only [List.mem_singleton] at hb
      subst hb
      exact ⟨le_trans (by decide) hbuf.1, hbuf.2⟩

/-! ## Acknowledgement -/

/-- The ReqSeq field: bits 8 to 13. -/
theorem ctrlReqSeq_eq (ctrlWord : Nat) : ctrlReqSeq ctrlWord = ctrlWord / 256 % 64 := by
  have h := Bits.field_shiftRight ctrlWord 6 8
  simpa [ctrlReqSeq, l2capFcrReqSeqBits, l2capFcrReqSeqBitsShift] using h

theorem ctrlReqSeq_lt (ctrlWord : Nat) : ctrlReqSeq ctrlWord < 64 := by
  rw [ctrlReqSeq_eq]
  omega

/-- `num_bufs_acked` is the distance from `last_rx_ack` to the ReqSeq on the circle of 64. -/
theorem numBufsAcked_eq_offsetMod (reqSeq lastRxAck : Nat) :
    numBufsAcked reqSeq lastRxAck = offsetMod 64 lastRxAck reqSeq := rfl

/-- Acknowledging the first `n` outstanding frames moves the window's start to the ReqSeq. -/
theorem TxWindowInv.acknowledge {ctrlWord : Nat} (h : TxWindowInv c)
    (hn : numBufsAcked (ctrlReqSeq ctrlWord) c.fcrb.lastRxAck ≤ c.fcrb.waitingForAckQ.length)
    (numTries : Nat) :
    TxWindowInv { c with fcrb := { c.fcrb with
      lastRxAck := ctrlReqSeq ctrlWord
      numTries
      waitingForAckQ :=
        c.fcrb.waitingForAckQ.drop (numBufsAcked (ctrlReqSeq ctrlWord) c.fcrb.lastRxAck) } } := by
  rw [numBufsAcked_eq_offsetMod] at hn ⊢
  -- the ReqSeq lies `n` steps after `last_rx_ack`
  have hreq : (c.fcrb.lastRxAck + offsetMod 64 c.fcrb.lastRxAck (ctrlReqSeq ctrlWord)) % 64 =
      ctrlReqSeq ctrlWord := add_offsetMod (ctrlReqSeq_lt ctrlWord)
  have hlt := ctrlReqSeq_lt ctrlWord
  have hnext := h.nextTxSeq_eq
  refine ⟨h.config.of_eq rfl rfl, hlt, ?_, ?_, ?_, h.hold⟩
  · simp only [List.length_drop]
    omega
  · have hcons := h.consecutive.drop (offsetMod 64 c.fcrb.lastRxAck (ctrlReqSeq ctrlWord))
    rwa [hreq] at hcons
  · simp only [List.length_drop]
    have := h.length_le
    omega

/-- `process_reqseq` keeps the window: an SREJ without poll changes nothing, a ReqSeq outside
the window disconnects, and any other acknowledges. -/
theorem TxWindowInv.reqSeq {ctrlWord : Nat} {r : ReqseqResult} (h : TxWindowInv c)
    (hr : processReqseq c ctrlWord = some r) : TxWindowInv r.ccb := by
  cases hs : isSrejWithoutPoll ctrlWord with
  | true =>
    rw [processReqseq_of_srej hs] at hr
    cases hr
    exact h
  | false =>
    by_cases hn : c.fcrb.waitingForAckQ.length < numBufsAcked (ctrlReqSeq ctrlWord) c.fcrb.lastRxAck
    · rw [processReqseq_of_lt hs hn] at hr
      cases hr
      exact h.disconnect
    · obtain ⟨txComplete, hp⟩ := processReqseq_of_le (c := c) hs (Nat.le_of_not_lt hn)
      rw [hp] at hr
      cases hr
      exact h.acknowledge (Nat.le_of_not_lt hn) _

/-! ## Retransmission and timeouts -/

/-- `retransmit_i_frames` only queues copies for retransmission, or disconnects. -/
theorem retransmitIFrames_sameWindow (c : Ccb) (txSeq : Nat) :
    (retransmitIFrames c txSeq).1 = l2cuDisconnectChnl c ∨
      SameWindow c (retransmitIFrames c txSeq).1 := by
  unfold retransmitIFrames
  dsimp only
  split_ifs
  · exact .inl rfl
  -- every other branch changes only `retrans_q`, the try count and the link queue
  all_goals exact .inr ⟨rfl, rfl, rfl, rfl, rfl, rfl⟩

theorem TxWindowInv.retransmit (h : TxWindowInv c) (txSeq : Nat) :
    TxWindowInv (retransmitIFrames c txSeq).1 := by
  rcases retransmitIFrames_sameWindow c txSeq with hd | hs
  · rw [hd]
    exact h.disconnect
  · exact h.of_sameWindow hs

/-- An S-frame goes to the link queue and leaves the window alone. -/
theorem l2cFcrSendSFrame_sameWindow (c : Ccb) (functionCode pfBit : Nat) :
    SameWindow c (l2cFcrSendSFrame c functionCode pfBit) := by
  unfold l2cFcrSendSFrame
  split
  · exact ⟨rfl, rfl, rfl, rfl, rfl, rfl⟩
  · exact ⟨rfl, rfl, rfl, rfl, rfl, rfl⟩

theorem TxWindowInv.timeout (h : TxWindowInv c) : TxWindowInv (l2cFcrProcTout c) := by
  -- the try count is the only field the timeout changes before it acts
  have hc : TxWindowInv { c with fcrb := { c.fcrb with numTries := (c.fcrb.numTries + 1) % 256 } } :=
    h.of_sameWindow ⟨rfl, rfl, rfl, rfl, rfl, rfl⟩
  unfold l2cFcrProcTout
  dsimp only
  split_ifs
  · exact hc.disconnect
  · exact hc.of_sameWindow (l2cFcrSendSFrame_sameWindow _ _ _)
  · exact hc
  · exact h.of_sameWindow (l2cFcrSendSFrame_sameWindow _ _ _)
  · exact h

/-! ## Every reachable state -/

/-- Every event keeps the window. -/
theorem TxWindowInv.step (h : TxWindowInv c) (hs : TxStep c c') : TxWindowInv c' := by
  cases hs with
  | dataWrite pBuf hbuf => exact h.dataWrite hbuf
  | linkPull maxPacketLength hguard hnext => exact h.linkPull hguard hnext
  | reqSeq ctrlWord hr => exact h.reqSeq hr
  | retransmit txSeq => exact h.retransmit txSeq
  | timeout => exact h.timeout

theorem txWindowInv_of_reachable {c₀ : Ccb} (h₀ : ErtmStart c₀) (h : TxReachable c₀ c) :
    TxWindowInv c := by
  induction h with
  | refl => exact ErtmStart.txWindowInv h₀
  | tail _ hs ih => exact ih.step hs

/-! ## `process_reqseq` against the window -/

/-- Measured from `last_rx_ack`, `next_tx_seq` lies as many steps on as frames are outstanding. -/
theorem TxWindowInv.offsetMod_nextTxSeq (h : TxWindowInv c) :
    offsetMod 64 c.fcrb.lastRxAck c.fcrb.nextTxSeq = c.fcrb.waitingForAckQ.length := by
  have hlen := h.length_le
  have hwin := h.config.txWinSz_le
  rw [h.nextTxSeq_eq, offsetMod_add_mod h.lastRxAck_lt (by omega)]

/-- What `process_reqseq` does, stated against the transmit window. An SREJ without the P bit is
accepted and changes nothing. Any other control word is processed without dequeuing from an empty
queue (the result is `some`), is accepted exactly when its ReqSeq lies in
`[last_rx_ack, next_tx_seq]` modulo 64, and when accepted takes off the front of
`waiting_for_ack_q` exactly the frames numbered in `[last_rx_ack, ReqSeq)`, leaving the others. -/
def ReqseqSpec (c : Ccb) : Prop :=
  (∀ ctrlWord, isSrejWithoutPoll ctrlWord = true →
    processReqseq c ctrlWord = some ⟨c, true, none⟩) ∧
  ∀ ctrlWord, isSrejWithoutPoll ctrlWord = false →
    ∃ r, processReqseq c ctrlWord = some r ∧
      (r.ok = true ↔ offsetMod 64 c.fcrb.lastRxAck (ctrlReqSeq ctrlWord) ≤
        offsetMod 64 c.fcrb.lastRxAck c.fcrb.nextTxSeq) ∧
      (r.ok = true →
        c.fcrb.waitingForAckQ.filter (fun b => offsetMod 64 c.fcrb.lastRxAck (frameTxSeq b) <
            offsetMod 64 c.fcrb.lastRxAck (ctrlReqSeq ctrlWord)) ++ r.ccb.fcrb.waitingForAckQ =
          c.fcrb.waitingForAckQ ∧
        r.ccb.fcrb.waitingForAckQ = c.fcrb.waitingForAckQ.filter (fun b =>
          ¬ offsetMod 64 c.fcrb.lastRxAck (frameTxSeq b) <
            offsetMod 64 c.fcrb.lastRxAck (ctrlReqSeq ctrlWord)))

theorem TxWindowInv.reqseqSpec (h : TxWindowInv c) : ReqseqSpec c := by
  refine ⟨fun ctrlWord hs => processReqseq_of_srej hs, fun ctrlWord hs => ?_⟩
  have hlen : c.fcrb.waitingForAckQ.length ≤ 64 := by
    have := h.length_le
    have := h.config.txWinSz_le
    omega
  rw [h.offsetMod_nextTxSeq, ← numBufsAcked_eq_offsetMod]
  by_cases hn : c.fcrb.waitingForAckQ.length < numBufsAcked (ctrlReqSeq ctrlWord) c.fcrb.lastRxAck
  · -- outside the window: the channel is disconnected and the frame dropped
    refine ⟨_, processReqseq_of_lt hs hn, ?_, fun hok => absurd hok Bool.false_ne_true⟩
    simp only [Bool.false_eq_true, false_iff, Nat.not_le]
    exact hn
  · obtain ⟨txComplete, hp⟩ := processReqseq_of_le hs (Nat.le_of_not_lt hn)
    refine ⟨_, hp, ?_, fun _ => ?_⟩
    · simp only [true_iff]
      exact Nat.le_of_not_lt hn
    · -- the frames acknowledged are the first `n`, and they are those numbered below the ReqSeq
      dsimp only
      rw [numBufsAcked_eq_offsetMod, filter_offsetMod_lt h.consecutive h.lastRxAck_lt hlen,
        filter_offsetMod_ge h.consecutive h.lastRxAck_lt hlen]
      exact ⟨List.take_append_drop _ _, rfl⟩

/-- For every state an ERTM channel reaches, the transmit window holds, and `process_reqseq`
behaves as `ReqseqSpec` says. -/
theorem ertm_transmit_window {c₀ : Ccb} (h₀ : ErtmStart c₀) (h : TxReachable c₀ c) :
    TxWindowInv c ∧ ReqseqSpec c := by
  have hinv := txWindowInv_of_reachable h₀ h
  exact ⟨hinv, hinv.reqseqSpec⟩

/-- A dynamic channel just configured for ERTM, with a window of 10 and nothing sent yet. -/
def ertmChannel : Ccb where
  inUse := true
  isOpen := true
  txCompleteCb := false
  localCid := l2capBaseApplCid
  remoteCid := l2capBaseApplCid
  peerCfgFcr := ⟨l2capFcrErtmMode, 10, 3⟩
  ourCfgFcr := ⟨l2capFcrErtmMode, 10, 3⟩
  txMps := 1000
  maxRxMtu := 672
  xmitHoldQ := []
  linkXmitDataQ := []
  fcrb := Fcrb.zero
  localConnCfg := {}
  peerConnCfg := {}
  isFirstSeg := true
  bleSdu := none
  bleSduLength := 0

theorem ertmChannel_start : ErtmStart ertmChannel :=
  ⟨⟨rfl, by decide, by decide⟩, rfl, by simp [ertmChannel]⟩

/-- A three-byte SDU in a buffer with `L2CAP_MIN_OFFSET` bytes of headroom. -/
def threeByteSdu : BtHdr where
  event := 0
  len := 3
  offset := l2capMinOffset
  layerSpecific := 0
  data := List.replicate 16 7

/-- The channel after the application writes a three-byte SDU and the link takes its frame: one
frame sent and waiting for its acknowledgement. -/
theorem ertmChannel_window :
    ∃ c, TxReachable ertmChannel c ∧ c.fcrb.nextTxSeq = 1 ∧ c.fcrb.waitingForAckQ.length = 1 ∧
      TxWindowInv c ∧ ReqseqSpec c := by
  have hwrite : TxStep ertmChannel (l2cEnqueuePeerData ertmChannel threeByteSdu) :=
    .dataWrite threeByteSdu ⟨le_refl _, by decide⟩
  have hsome : (l2cFcrGetNextXmitSduSeg (l2cEnqueuePeerData ertmChannel threeByteSdu) 1021).map
      (fun r => (r.1.fcrb.nextTxSeq, r.1.fcrb.waitingForAckQ.length)) = some (1, 1) := by
    decide
  obtain ⟨⟨c, pXmit⟩, hnext, hc⟩ := Option.map_eq_some_iff.1 hsome
  have hreach : TxReachable ertmChannel c :=
    .tail (.tail .refl hwrite) (.linkPull 1021 (.inr (by decide)) hnext)
  obtain ⟨hinv, hspec⟩ := ertm_transmit_window ertmChannel_start hreach
  simp only [Prod.mk.injEq] at hc
  exact ⟨c, hreach, hc.1, hc.2, hinv, hspec⟩

/-- The SREJ `0x050D` (P bit clear) carries ReqSeq 5, outside the empty window `[0, 0]` of a fresh
channel, and `process_reqseq` accepts it. -/
theorem srej_accepted_outside_window :
    ErtmStart ertmChannel ∧ TxReachable ertmChannel ertmChannel ∧
      ¬ offsetMod 64 ertmChannel.fcrb.lastRxAck (ctrlReqSeq 0x050D) ≤
        offsetMod 64 ertmChannel.fcrb.lastRxAck ertmChannel.fcrb.nextTxSeq ∧
      processReqseq ertmChannel 0x050D = some ⟨ertmChannel, true, none⟩ :=
  ⟨ertmChannel_start, TxReachable.refl, by decide, processReqseq_of_srej (by decide)⟩

end BluetoothStack.L2cap
