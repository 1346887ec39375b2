import BluetoothStack.L2cap.Reassembly
import BluetoothStack.L2cap.TxWindow

/-!
# ERTM segmentation and the SAR round trip

The link pulls the frames of an SDU from a channel by calling `l2c_fcr_get_next_xmit_sdu_seg`
until `xmit_hold_q` is empty (`pullFrames`). `Sending` describes the channel part-way through
one SDU; one pull either cuts a `max_pdu` piece off a long SDU (`Sending.pull_segment`) or sends
the rest (`Sending.pull_last`). By induction over the pieces, the frames pulled for an SDU `s`,
as the peer's `do_sar_reassembly` gets them, carry exactly `sarPieces max_pdu s`
(`pullFrames_sarPieces`). With `sarReceive_sarPieces` this gives the round trip,
`ertm_sar_round_trip`.
-/

namespace BluetoothStack.L2cap

open Bytes

/-- An I-frame as the peer's `do_sar_reassembly` gets it, past `l2c_rcv_acl_data` and
`l2c_fcr_proc_pdu`. -/
def received (pXmit : BtHdr) : BtHdr × Nat := fcrIFramePayload (rcvL2capPayload pXmit)

/-- The link pulling frames: `l2c_fcr_get_next_xmit_sdu_seg` called while `xmit_hold_q` is not
empty, at most `fuel` times. -/
def pullFrames (maxPacketLength : Nat) : Nat → Ccb → List BtHdr × Ccb
  | 0, c => ([], c)
  | fuel + 1, c =>
    if c.xmitHoldQ.isEmpty then ([], c)
    else
      match l2cFcrGetNextXmitSduSeg c maxPacketLength with
      | none => ([], c)
      | some (c', pXmit) =>
        let rest := pullFrames maxPacketLength fuel c'
        (pXmit :: rest.1, rest.2)

theorem pullFrames_of_nil {c : Ccb} (maxPacketLength fuel : Nat) (h : c.xmitHoldQ = []) :
    pullFrames maxPacketLength fuel c = ([], c) := by
  cases fuel <;> simp [pullFrames, h]

theorem pullFrames_succ {c c' : Ccb} {pXmit : BtHdr} {maxPacketLength : Nat} (fuel : Nat)
    (hq : c.xmitHoldQ ≠ [])
    (hnext : l2cFcrGetNextXmitSduSeg c maxPacketLength = some (c', pXmit)) :
    pullFrames maxPacketLength (fuel + 1) c =
      (pXmit :: (pullFrames maxPacketLength fuel c').1, (pullFrames maxPacketLength fuel c').2) := by
  simp [pullFrames, hq, hnext]

/-! ## What one frame carries -/

/-- What the peer's reassembly sees of a new I-frame: the SAR bits of its `layer_specific` and
the bytes after its basic header and control word. -/
theorem received_prepareIFrame {c : Ccb} {pHdr : BtHdr} (hnts : c.fcrb.nextTxSeq < 64)
    (hnse : c.fcrb.nextSeqExpected < 64) (hhdr : l2capPktOverhead + l2capFcrOverhead ≤ pHdr.len)
    (hfit : pHdr.Fits) :
    pieceOf (received (prepareIFrame c pHdr false).2) =
        (pHdr.layerSpecific &&& l2capFcrSegBits, (pHdr.skip 6).payload) ∧
      (received (prepareIFrame c pHdr false).2).1.Fits := by
  unfold BtHdr.Fits at hfit
  have hctrl := streamToUint16_prepareIFrame (c := c) false hhdr (by omega)
  simp only [l2capPktOverhead, l2capFcrOverhead] at hhdr hctrl
  have hbody : load (pHdr.offset + 6) (pHdr.len - 6) (prepareIFrame c pHdr false).2.data =
      load (pHdr.offset + 6) (pHdr.len - 6) pHdr.data :=
    load_prepareIFrame_body false (by simp only [l2capPktOverhead, l2capFcrOverhead]; omega)
      (by omega)
  refine ⟨?_, ?_⟩
  · simp only [pieceOf, received, rcvL2capPayload, fcrIFramePayload, BtHdr.payload, BtHdr.skip,
      prepareIFrame_snd_offset, prepareIFrame_snd_len, l2capPktOverhead, l2capFcrOverhead,
      l2capFcsLen, Prod.mk.injEq]
    refine ⟨by rw [hctrl, iFrameCtrlWord_segBits hnts hnse], ?_⟩
    rw [show pHdr.offset + 4 + 2 = pHdr.offset + 6 by omega,
      show pHdr.len + 2 - 4 - 2 - 2 = pHdr.len - 6 by omega, hbody]
  · simp only [received, rcvL2capPayload, fcrIFramePayload, BtHdr.Fits, BtHdr.skip,
      prepareIFrame_snd_offset, prepareIFrame_snd_len, length_prepareIFrame_data,
      l2capPktOverhead, l2capFcrOverhead, l2capFcsLen]
    omega

/-- Past the headers, a segment carries its own bytes, after the SDU length in a start frame. -/
theorem payload_skip_addSegmentHeader {c : Ccb} {sar sduLen : Nat} {pXmit : BtHdr}
    (hroom : (if sar = l2capFcrStartSdu then 8 else 6) ≤ pXmit.offset) (hfit : pXmit.Fits) :
    ((addSegmentHeader c sar sduLen pXmit).skip 6).payload =
      (if sar = l2capFcrStartSdu then uint16ToStream sduLen else []) ++ pXmit.payload := by
  unfold BtHdr.Fits at hfit
  obtain ⟨hoff, hlen⟩ := addSegmentHeader_offset_len c sar sduLen pXmit
  have hbody : load pXmit.offset pXmit.len (addSegmentHeader c sar sduLen pXmit).data =
      pXmit.payload := load_addSegmentHeader_of_le hroom (Nat.le_refl _)
  by_cases hs : sar = l2capFcrStartSdu
  · -- the SDU length field, then the segment
    subst hs
    simp only [if_true] at hroom hoff hlen ⊢
    have hsdu : load (pXmit.offset - l2capSduLenOverhead) 2
        (addSegmentHeader c l2capFcrStartSdu sduLen pXmit).data = uint16ToStream sduLen :=
      load_addSegmentHeader_sduLen (by omega) (by omega)
    simp only [BtHdr.payload, BtHdr.skip_offset, BtHdr.skip_len, BtHdr.skip_data, hoff, hlen]
    rw [show pXmit.offset - 8 + 6 = pXmit.offset - l2capSduLenOverhead by
        simp only [l2capSduLenOverhead]; omega,
      show pXmit.len + 8 - 6 = 2 + pXmit.len by omega, load_add, hsdu,
      show pXmit.offset - l2capSduLenOverhead + 2 = pXmit.offset by
        simp only [l2capSduLenOverhead]; omega]
    exact congrArg _ hbody
  · simp only [hs, if_false] at hroom hoff hlen ⊢
    simp only [BtHdr.payload, BtHdr.skip_offset, BtHdr.skip_len, BtHdr.skip_data, hoff, hlen,
      List.nil_append]
    rw [show pXmit.offset - 6 + 6 = pXmit.offset by omega, Nat.add_sub_cancel]
    exact hbody

/-- Flushability flags in `layer_specific` leave the SAR bits or-ed next to them readable. -/
theorem segBits_or_sar {ls sar : Nat} (hls : ls ≤ l2capNonFlushablePkt)
    (hsar : sar = l2capFcrUnsegSdu ∨ sar = l2capFcrStartSdu ∨ sar = l2capFcrEndSdu ∨
      sar = l2capFcrContSdu) :
    (ls ||| sar) &&& l2capFcrSegBits = sar := by
  have hls4 : ls < 2 ^ 2 := by
    simp only [l2capNonFlushablePkt] at hls
    omega
  rw [Nat.lor_comm, Bits.or_and_of_lt hls4 rfl]
  rcases hsar with rfl | rfl | rfl | rfl <;> decide

theorem segmentSar_cases (maxPdu : Nat) (pBuf : BtHdr) :
    segmentSar maxPdu pBuf = l2capFcrUnsegSdu ∨ segmentSar maxPdu pBuf = l2capFcrStartSdu ∨
      segmentSar maxPdu pBuf = l2capFcrEndSdu ∨ segmentSar maxPdu pBuf = l2capFcrContSdu := by
  unfold segmentSar
  split_ifs <;> simp

/-- The piece `nextSegment` takes off the SDU: its first `max_pdu` bytes, copied or in place,
with the SDU's flags. -/
theorem nextSegment_snd_payload (c : Ccb) (rest : List BtHdr) {maxPdu : Nat} {pBuf : BtHdr}
    (hb : HoldBuffer pBuf) (hpdu : maxPdu ≤ maxRetransSize) :
    (nextSegment c maxPdu pBuf rest).2.Fits ∧
      (nextSegment c maxPdu pBuf rest).2.layerSpecific = pBuf.layerSpecific ∧
      (nextSegment c maxPdu pBuf rest).2.payload = pBuf.payload.take maxPdu := by
  obtain ⟨hb1, hb2⟩ := hb
  unfold maxRetransSize btDefaultBufferSize btHdrSize l2capMinOffset l2capSduLenOffset
    l2capFcsLen at hpdu
  by_cases hseg : pBuf.len > maxPdu
  · -- a copy of the first `max_pdu` bytes at `L2CAP_MIN_OFFSET + L2CAP_SDU_LEN_OFFSET`
    have hsz : maxPdu + btHdrSize + (l2capMinOffset + l2capSduLenOffset) + l2capFcsLen < 65536 := by
      simp only [btHdrSize, l2capMinOffset, l2capSduLenOffset, l2capFcsLen]
      omega
    have hclone : (l2cFcrCloneBuf pBuf (l2capMinOffset + l2capSduLenOffset) maxPdu).data.length =
        l2capMinOffset + l2capSduLenOffset + maxPdu + l2capFcsLen :=
      length_l2cFcrCloneBuf_data hsz
    have hcopy : load (l2capMinOffset + l2capSduLenOffset + 0) maxPdu
        (l2cFcrCloneBuf pBuf (l2capMinOffset + l2capSduLenOffset) maxPdu).data =
          load (pBuf.offset + 0) maxPdu pBuf.data :=
      load_l2cFcrCloneBuf (by omega) (by omega) hsz
    simp only [nextSegment, hseg, ↓reduceIte, BtHdr.Fits, BtHdr.payload, l2cFcrCloneBuf_offset,
      l2cFcrCloneBuf_len, take_load, Nat.min_eq_left (Nat.le_of_lt hseg), true_and]
    simp only [Nat.add_zero] at hcopy
    refine ⟨by omega, hcopy⟩
  · -- the SDU itself
    have hlen : pBuf.payload.length = pBuf.len := BtHdr.length_payload hb2
    simp only [nextSegment, hseg, ↓reduceIte, true_and]
    refine ⟨hb2, ?_⟩
    rw [List.take_of_length_le (by omega)]
    rfl

/-- What the peer's reassembly sees of the frame `l2c_fcr_get_next_xmit_sdu_seg` cuts from the SDU
at the head of `xmit_hold_q`: the SAR bits it chose, and the first `max_pdu` bytes of the SDU,
after the SDU length in a start frame. `c` is the channel the headers are written for and `c₁` the
one `prepare_I_frame` numbers the frame in. -/
theorem received_segment (c c₁ : Ccb) (rest : List BtHdr) {maxPdu : Nat} {pBuf : BtHdr}
    (hb : HoldBuffer pBuf) (hpdu : maxPdu ≤ maxRetransSize)
    (hls : pBuf.layerSpecific ≤ l2capNonFlushablePkt) (hnts : c₁.fcrb.nextTxSeq < 64)
    (hnse : c₁.fcrb.nextSeqExpected < 64) :
    let pHdr := addSegmentHeader c (segmentSar maxPdu pBuf) pBuf.len
      (nextSegment c maxPdu pBuf rest).2
    pieceOf (received (prepareIFrame c₁ pHdr false).2) =
        (segmentSar maxPdu pBuf,
          (if segmentSar maxPdu pBuf = l2capFcrStartSdu then uint16ToStream pBuf.len else []) ++
            pBuf.payload.take maxPdu) ∧
      (received (prepareIFrame c₁ pHdr false).2).1.Fits := by
  dsimp only
  obtain ⟨hhdr, -, -⟩ := segment_frame c rest hb hpdu
  obtain ⟨hroom, -, -⟩ := nextSegment_snd c rest hb hpdu
  obtain ⟨hsegfit, hsegls, hsegpay⟩ := nextSegment_snd_payload c rest hb hpdu
  -- the header goes in front of the segment, in the same buffer
  have hfit : (addSegmentHeader c (segmentSar maxPdu pBuf) pBuf.len
      (nextSegment c maxPdu pBuf rest).2).Fits := by
    obtain ⟨hoff, hlen⟩ := addSegmentHeader_offset_len c (segmentSar maxPdu pBuf) pBuf.len
      (nextSegment c maxPdu pBuf rest).2
    unfold BtHdr.Fits at hsegfit ⊢
    rw [hoff, hlen, length_addSegmentHeader_data]
    omega
  obtain ⟨hpiece, hfits⟩ := received_prepareIFrame (c := c₁) hnts hnse hhdr hfit
  refine ⟨?_, hfits⟩
  rw [hpiece, addSegmentHeader_layerSpecific, hsegls,
    segBits_or_sar hls (segmentSar_cases maxPdu pBuf), payload_skip_addSegmentHeader hroom hsegfit,
    hsegpay]

/-! ## The sending channel part-way through an SDU -/

/-- Pulling from the SDU at the head of `xmit_hold_q` of an ERTM channel with nothing to
retransmit: besides the queues only TxSeq moves, by one. -/
theorem l2cFcrGetNextXmitSduSeg_hold {c : Ccb} {pBuf : BtHdr} {rest : List BtHdr}
    (maxPacketLength : Nat) (hmode : c.peerCfgFcr.mode = l2capFcrErtmMode)
    (hr : c.fcrb.retransQ = []) (hq : c.xmitHoldQ = pBuf :: rest) :
    let maxPdu := maxPdu c maxPacketLength
    let seg := nextSegment c maxPdu pBuf rest
    ∃ c', l2cFcrGetNextXmitSduSeg c maxPacketLength =
        some (c', (prepareIFrame { c with xmitHoldQ := seg.1 }
          (addSegmentHeader c (segmentSar maxPdu pBuf) pBuf.len seg.2) false).2) ∧
      c'.xmitHoldQ = seg.1 ∧ c'.txMps = c.txMps ∧ c'.peerCfgFcr = c.peerCfgFcr ∧
      c'.localCid = c.localCid ∧ c'.fcrb.retransQ = c.fcrb.retransQ ∧
      c'.fcrb.nextTxSeq = (c.fcrb.nextTxSeq + 1) % 64 ∧
      c'.fcrb.nextSeqExpected = c.fcrb.nextSeqExpected := by
  dsimp only
  rw [l2cFcrGetNextXmitSduSeg_of_xmitHoldQ maxPacketLength hr hq]
  simp only [prepareIFrame_fst, hmode, ↓reduceIte]
  exact ⟨_, rfl, rfl, rfl, rfl, rfl, rfl, succ_and_seqModulo _, rfl⟩

/-- A channel sending an SDU of which `rem` is left: ERTM as configured, nothing to retransmit,
6-bit sequence numbers, and `rem` alone in `xmit_hold_q`, in a buffer whose `event` says whether
segmentation has started and whose `layer_specific` holds only the flushability flag that
`l2c_data_write` puts there. -/
structure Sending (c : Ccb) (started : Bool) (rem : List UInt8) : Prop where
  config : ErtmConfig c
  cid : c.localCid ≠ 0
  nextTxSeq_lt : c.fcrb.nextTxSeq < 64
  nextSeqExpected_lt : c.fcrb.nextSeqExpected < 64
  retransQ : c.fcrb.retransQ = []
  hold : ∃ b, c.xmitHoldQ = [b] ∧ HoldBuffer b ∧ b.payload = rem ∧
    b.layerSpecific ≤ l2capNonFlushablePkt ∧ (b.event ≠ 0 ↔ started = true)

/-- The SAR bits of the next segment, from what is left and whether segmentation has started. -/
theorem segmentSar_of_sending (maxPdu : Nat) {b : BtHdr} {started : Bool} {rem : List UInt8}
    (hlen : b.len = rem.length) (hev : b.event ≠ 0 ↔ started = true) :
    segmentSar maxPdu b =
      if maxPdu < rem.length then (if started then l2capFcrContSdu else l2capFcrStartSdu)
      else if started then l2capFcrEndSdu else l2capFcrUnsegSdu := by
  have hev' : b.event = 0 ↔ started = false := by
    cases started <;> simp_all
  unfold segmentSar
  rw [hlen]
  cases started <;> simp [hev, hev']

/-- One pull from a channel with more than `max_pdu` bytes of the SDU left: a start or
continuation frame with the next `max_pdu` bytes, and the rest stays queued. -/
theorem Sending.pull_segment {c : Ccb} {started : Bool} {rem : List UInt8}
    {maxPacketLength : Nat} (h : Sending c started rem)
    (hlong : maxPdu c maxPacketLength < rem.length) :
    ∃ c' pXmit, l2cFcrGetNextXmitSduSeg c maxPacketLength = some (c', pXmit) ∧
      Sending c' true (rem.drop (maxPdu c maxPacketLength)) ∧ c'.txMps = c.txMps ∧
      pieceOf (received pXmit) = (if started then l2capFcrContSdu else l2capFcrStartSdu,
        (if started then [] else uint16ToStream rem.length) ++
          rem.take (maxPdu c maxPacketLength)) ∧
      (received pXmit).1.Fits := by
  obtain ⟨hcfg, hcid, hnts, hnse, hr, b, hq, hb, hpay, hls, hev⟩ := h
  have hlen : b.len = rem.length := by rw [← hpay, BtHdr.length_payload hb.2]
  have hpdu := (maxPdu_le c maxPacketLength).trans hcfg.txMps_le
  have hseg : b.len > maxPdu c maxPacketLength := by omega
  have hsar := segmentSar_of_sending (maxPdu c maxPacketLength) hlen hev
  rw [if_pos hlong] at hsar
  obtain ⟨c', hget, hxq, hmps, hcfg', hcid', hr', hnts', hnse'⟩ :=
    l2cFcrGetNextXmitSduSeg_hold maxPacketLength hcfg.mode hr hq
  obtain ⟨hpiece, hfits⟩ := received_segment c
    { c with xmitHoldQ := (nextSegment c (maxPdu c maxPacketLength) b []).1 } [] hb hpdu hls
    hnts hnse
  refine ⟨c', _, hget, ⟨ErtmConfig.of_eq hcfg hcfg' hmps, hcid' ▸ hcid, by omega, by omega,
    hr'.trans hr, ?_⟩, hmps, ?_, hfits⟩
  · -- the queued buffer moves past the bytes sent and records that segmentation started
    obtain ⟨hb1, hb2⟩ := hb
    have hxq' : c'.xmitHoldQ = [{ b with
        event := c.localCid
        len := b.len - maxPdu c maxPacketLength
        offset := b.offset + maxPdu c maxPacketLength }] := by
      rw [hxq, nextSegment, if_pos hseg]
    refine ⟨_, hxq', ⟨by dsimp only; omega, by dsimp only; omega⟩, ?_, hls,
      by simpa using hcid⟩
    rw [← hpay, BtHdr.payload, BtHdr.payload, drop_load]
  · rw [hpiece, hsar, hlen, ← hpay]
    cases started <;> rfl

/-- The last pull for an SDU, with at most `max_pdu` bytes left: an end frame, or an unsegmented
one if segmentation never started, with all of them, and the queue is empty. -/
theorem Sending.pull_last {c : Ccb} {started : Bool} {rem : List UInt8} {maxPacketLength : Nat}
    (h : Sending c started rem) (hshort : rem.length ≤ maxPdu c maxPacketLength) :
    ∃ c' pXmit, l2cFcrGetNextXmitSduSeg c maxPacketLength = some (c', pXmit) ∧
      c'.xmitHoldQ = [] ∧
      pieceOf (received pXmit) = (if started then l2capFcrEndSdu else l2capFcrUnsegSdu, rem) ∧
      (received pXmit).1.Fits := by
  obtain ⟨hcfg, -, hnts, hnse, hr, b, hq, hb, hpay, hls, hev⟩ := h
  have hlen : b.len = rem.length := by rw [← hpay, BtHdr.length_payload hb.2]
  have hpdu := (maxPdu_le c maxPacketLength).trans hcfg.txMps_le
  have hseg : ¬ b.len > maxPdu c maxPacketLength := by omega
  have hsar := segmentSar_of_sending (maxPdu c maxPacketLength) hlen hev
  rw [if_neg (by omega)] at hsar
  obtain ⟨c', hget, hxq, -⟩ := l2cFcrGetNextXmitSduSeg_hold maxPacketLength hcfg.mode hr hq
  obtain ⟨hpiece, hfits⟩ := received_segment c
    { c with xmitHoldQ := (nextSegment c (maxPdu c maxPacketLength) b []).1 } [] hb hpdu hls
    hnts hnse
  refine ⟨c', _, hget, by rw [hxq, nextSegment, if_neg hseg], ?_, hfits⟩
  rw [hpiece, hsar, ← hpay, List.take_of_length_le (by rw [hpay]; exact hshort)]
  cases started <;> rfl

/-! ## Sending a whole SDU -/

/-- `max_pdu` depends on the channel only through `tx_mps`. -/
theorem maxPdu_of_txMps {c c' : Ccb} (maxPacketLength : Nat) (h : c'.txMps = c.txMps) :
    maxPdu c' maxPacketLength = maxPdu c maxPacketLength := by
  simp only [maxPdu, h]

/-- Every I-frame carries at least one byte of the SDU once the peer's MPS is positive. -/
theorem maxPdu_pos {c : Ccb} (maxPacketLength : Nat) (h : 0 < c.txMps) :
    0 < maxPdu c maxPacketLength := by
  unfold maxPdu
  split <;> omega

/-- By induction over the later pieces of an SDU whose segmentation has started: the pulls send
exactly `laterPieces max_pdu rem`, in frames that fit their buffers, and empty the queue. One
pull more than there are bytes left is enough fuel, since each pull sends a byte at least. -/
theorem pullFrames_laterPieces {maxPacketLength m : Nat} (hm : 0 < m) (rem : List UInt8) :
    ∀ {c : Ccb} (fuel : Nat), Sending c true rem → maxPdu c maxPacketLength = m →
      rem.length < fuel →
      (pullFrames maxPacketLength fuel c).2.xmitHoldQ = [] ∧
        ((pullFrames maxPacketLength fuel c).1.map received).map pieceOf = laterPieces m rem ∧
        ∀ f ∈ (pullFrames maxPacketLength fuel c).1.map received, f.1.Fits := by
  induction rem using laterPieces.induct m with
  | case1 rem hshort =>
    -- the end frame
    intro c fuel h hpdu hfuel
    obtain ⟨fuel, rfl⟩ : ∃ k, fuel = k + 1 := ⟨fuel - 1, by omega⟩
    have hq : c.xmitHoldQ ≠ [] := by
      obtain ⟨b, hb, -⟩ := h.hold
      simp [hb]
    obtain ⟨c', pXmit, hget, hxq, hpiece, hfits⟩ :=
      h.pull_last (show rem.length ≤ maxPdu c maxPacketLength by omega)
    rw [pullFrames_succ fuel hq hget, pullFrames_of_nil maxPacketLength fuel hxq, laterPieces,
      if_pos hshort]
    simp [hpiece, hfits, hxq]
  | case2 rem hlong ih =>
    -- a continuation frame, and the rest by induction
    intro c fuel h hpdu hfuel
    obtain ⟨fuel, rfl⟩ : ∃ k, fuel = k + 1 := ⟨fuel - 1, by omega⟩
    have hq : c.xmitHoldQ ≠ [] := by
      obtain ⟨b, hb, -⟩ := h.hold
      simp [hb]
    obtain ⟨c', pXmit, hget, h', hmps, hpiece, hfits⟩ :=
      h.pull_segment (show maxPdu c maxPacketLength < rem.length by omega)
    rw [hpdu] at h' hpiece
    obtain ⟨hxq, hpieces, hfit⟩ :=
      ih fuel h' ((maxPdu_of_txMps maxPacketLength hmps).trans hpdu) (by simp only [List.length_drop]; omega)
    rw [pullFrames_succ fuel hq hget, laterPieces, if_neg hlong]
    refine ⟨hxq, ?_, ?_⟩
    · simp only [List.map_cons, hpiece, hpieces, if_true, List.nil_append]
    · simp only [List.map_cons, List.mem_cons, forall_eq_or_imp]
      exact ⟨hfits, hfit⟩

/-- The frames pulled for a whole SDU `s`, as the peer's `do_sar_reassembly` gets them, carry
exactly `sarPieces max_pdu s`. -/
theorem pullFrames_sarPieces {c : Ccb} {maxPacketLength fuel : Nat} {s : List UInt8}
    (h : Sending c false s) (hm : 0 < maxPdu c maxPacketLength) (hfuel : s.length < fuel) :
    (pullFrames maxPacketLength fuel c).2.xmitHoldQ = [] ∧
      ((pullFrames maxPacketLength fuel c).1.map received).map pieceOf =
        sarPieces (maxPdu c maxPacketLength) s ∧
      ∀ f ∈ (pullFrames maxPacketLength fuel c).1.map received, f.1.Fits := by
  obtain ⟨fuel, rfl⟩ : ∃ k, fuel = k + 1 := ⟨fuel - 1, by omega⟩
  have hq : c.xmitHoldQ ≠ [] := by
    obtain ⟨b, hb, -⟩ := h.hold
    simp [hb]
  by_cases hshort : s.length ≤ maxPdu c maxPacketLength
  · -- one unsegmented frame
    obtain ⟨c', pXmit, hget, hxq, hpiece, hfits⟩ := h.pull_last hshort
    rw [pullFrames_succ fuel hq hget, pullFrames_of_nil maxPacketLength fuel hxq, sarPieces,
      if_pos hshort]
    simp [hpiece, hfits, hxq]
  · -- a start frame, then the later pieces
    obtain ⟨c', pXmit, hget, h', hmps, hpiece, hfits⟩ :=
      h.pull_segment (show maxPdu c maxPacketLength < s.length by omega)
    obtain ⟨hxq, hpieces, hfit⟩ := pullFrames_laterPieces hm (s.drop (maxPdu c maxPacketLength))
      fuel h' (maxPdu_of_txMps maxPacketLength hmps) (by simp only [List.length_drop]; omega)
    rw [pullFrames_succ fuel hq hget, sarPieces, if_neg hshort]
    refine ⟨hxq, ?_, ?_⟩
    · simp only [List.map_cons, hpiece, hpieces, Bool.false_eq_true, if_false]
    · simp only [List.map_cons, List.mem_cons, forall_eq_or_imp]
      exact ⟨hfits, hfit⟩

/-- `l2c_enqueue_peer_data` on an idle ERTM channel starts sending the SDU. -/
theorem sending_enqueue {c : Ccb} {pBuf : BtHdr} (hc : ErtmConfig c) (hcid : c.localCid ≠ 0)
    (hin : c.inUse = true) (hseq : c.fcrb.nextTxSeq < 64) (hexp : c.fcrb.nextSeqExpected < 64)
    (hidle : c.fcrb.retransQ = [] ∧ c.xmitHoldQ = []) (hbuf : SduBuffer pBuf)
    (hflags : pBuf.layerSpecific ≤ l2capNonFlushablePkt) :
    Sending (l2cEnqueuePeerData c pBuf) false pBuf.payload := by
  have hmode : c.peerCfgFcr.mode ≠ l2capFcrBasicMode := by
    rw [hc.mode]
    decide
  have henq : l2cEnqueuePeerData c pBuf = { c with xmitHoldQ := [{ pBuf with event := 0 }] } := by
    unfold l2cEnqueuePeerData
    rw [if_neg (by simp [hin]), if_pos hmode, hidle.2]
    rfl
  obtain ⟨hb1, hb2⟩ := hbuf
  rw [henq]
  refine ⟨hc.of_eq rfl rfl, hcid, hseq, hexp, hidle.1, _, rfl, ⟨?_, hb2⟩, rfl, hflags, by simp⟩
  unfold l2capMinOffset at hb1
  simp only [l2capPktOverhead, l2capFcrOverhead]
  omega

/-! ## The pieces carry data -/

/-- Every later piece of a non-empty remainder carries at least one byte. -/
theorem laterPieces_ne_nil {m : Nat} (hm : 0 < m) (rem : List UInt8) (hrem : rem ≠ []) :
    ∀ p ∈ laterPieces m rem, p.2 ≠ [] := by
  induction rem using laterPieces.induct m with
  | case1 rem hshort =>
    rw [laterPieces, if_pos hshort]
    simpa using hrem
  | case2 rem hlong ih =>
    have hlong' : m < rem.length := by omega
    rw [laterPieces, if_neg hlong]
    simp only [List.mem_cons, forall_eq_or_imp]
    refine ⟨List.ne_nil_of_length_pos (by simp; omega),
      ih (List.ne_nil_of_length_pos (by simp; omega))⟩

/-- In a segmented SDU every frame carries data besides the SDU length of the start frame. -/
theorem sarPieces_data_ne_nil {m : Nat} (hm : 0 < m) (s : List UInt8) :
    ∀ p ∈ sarPieces m s, p.1 ≠ l2capFcrUnsegSdu →
      (if p.1 = l2capFcrStartSdu then p.2.drop 2 else p.2) ≠ [] := by
  unfold sarPieces
  split
  · simp [l2capFcrUnsegSdu]
  · -- the later pieces are continuation and end pieces
    have hlater : ∀ p ∈ laterPieces m (s.drop m), p.1 ≠ l2capFcrStartSdu := by
      intro p hp
      rcases laterPieces_sar m (s.drop m) p hp with h | h <;> rw [h] <;> decide
    simp only [List.mem_cons, forall_eq_or_imp, ↓reduceIte,
      List.drop_left' (length_uint16ToStream _)]
    refine ⟨fun _ => List.ne_nil_of_length_pos (by simp; omega), fun p hp _ => ?_⟩
    rw [if_neg (hlater p hp)]
    exact laterPieces_ne_nil hm _ (List.ne_nil_of_length_pos (by simp; omega)) p hp

/-! ## The round trip -/

/-- An SDU written to an idle ERTM channel is sent as the pieces `sarPieces max_pdu s`, every
segment carrying data, and the peer's `do_sar_reassembly` accepts every frame and delivers the
SDU. The sender needs `tx_mps` positive and at most the size `l2c_fcr_process_peer_cfg_req` caps
it to; the buffer comes as `l2c_data_write` passes it on. -/
theorem ertm_sar_round_trip {c r : Ccb} {pBuf : BtHdr} (maxPacketLength : Nat)
    (hc : ErtmConfig c) (hcid : c.localCid ≠ 0) (hin : c.inUse = true)
    (hseq : c.fcrb.nextTxSeq < 64) (hexp : c.fcrb.nextSeqExpected < 64)
    (hidle : c.fcrb.retransQ = [] ∧ c.xmitHoldQ = []) (hmps : 1 ≤ c.txMps)
    (hbuf : SduBuffer pBuf) (hflags : pBuf.layerSpecific ≤ l2capNonFlushablePkt)
    (hmtu : pBuf.len ≤ r.maxRxMtu) (hmtu16 : r.maxRxMtu < 65536) (hr : r.fcrb.pRxSdu = none) :
    let s := pBuf.payload
    let sent := pullFrames maxPacketLength (s.length + 1) (l2cEnqueuePeerData c pBuf)
    let frames := sent.1.map received
    sent.2.xmitHoldQ = [] ∧ frames.map pieceOf = sarPieces (maxPdu c maxPacketLength) s ∧
      (∀ p ∈ frames.map pieceOf, p.1 ≠ l2capFcrUnsegSdu →
        (if p.1 = l2capFcrStartSdu then p.2.drop 2 else p.2) ≠ []) ∧
      (sarReceive r frames).2.1 = List.replicate frames.length true ∧
      (sarReceive r frames).2.2.map BtHdr.payload = [s] ∧
      (sarReceive r frames).1.fcrb.pRxSdu = none := by
  intro s sent frames
  have hs : s.length = pBuf.len := BtHdr.length_payload hbuf.2
  have hm : 0 < maxPdu c maxPacketLength := maxPdu_pos maxPacketLength (by omega)
  have hsend := sending_enqueue hc hcid hin hseq hexp hidle hbuf hflags
  -- the enqueued channel has the sender's `tx_mps`
  have hpdu : maxPdu (l2cEnqueuePeerData c pBuf) maxPacketLength = maxPdu c maxPacketLength :=
    maxPdu_of_txMps maxPacketLength (by unfold l2cEnqueuePeerData; split <;> rfl)
  obtain ⟨hxq, hpieces, hfit⟩ :=
    pullFrames_sarPieces hsend (hpdu ▸ hm) (Nat.lt_succ_self s.length)
  rw [hpdu] at hpieces
  refine ⟨hxq, hpieces, ?_, sarReceive_sarPieces hr (by omega) (by omega) hpieces hfit⟩
  rw [hpieces]
  exact sarPieces_data_ne_nil hm s

/-- The three-byte SDU over a link whose packets leave one byte of SDU data a frame: it goes in
a start, a continuation and an end frame, and comes back whole. -/
theorem threeByteSdu_segmented_round_trip :
    maxPdu ertmChannel 13 = 1 ∧
      (sarPieces 1 threeByteSdu.payload).map Prod.fst =
        [l2capFcrStartSdu, l2capFcrContSdu, l2capFcrEndSdu] ∧
      let s := threeByteSdu.payload
      let sent := pullFrames 13 (s.length + 1) (l2cEnqueuePeerData ertmChannel threeByteSdu)
      let frames := sent.1.map received
      sent.2.xmitHoldQ = [] ∧ frames.map pieceOf = sarPieces (maxPdu ertmChannel 13) s ∧
        (∀ p ∈ frames.map pieceOf, p.1 ≠ l2capFcrUnsegSdu →
          (if p.1 = l2capFcrStartSdu then p.2.drop 2 else p.2) ≠ []) ∧
        (sarReceive ertmChannel frames).2.1 = List.replicate frames.length true ∧
        (sarReceive ertmChannel frames).2.2.map BtHdr.payload = [s] ∧
        (sarReceive ertmChannel frames).1.fcrb.pRxSdu = none :=
  ⟨by decide, by decide +kernel,
    ertm_sar_round_trip 13 ertmChannel_start.config (by decide) rfl (by decide) (by decide)
      ⟨rfl, rfl⟩ (by decide) ⟨le_refl _, by decide⟩ (by decide) (by decide) (by decide) rfl⟩

end BluetoothStack.L2cap
