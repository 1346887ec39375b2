import BluetoothStack.L2cap.Fcr
import BluetoothStack.L2cap.Reassembly

/-!
# Segmentation and reassembly on LE credit-based channels

`l2c_lcc_get_next_xmit_sdu_seg` (l2c_fcr.cc) cuts the SDU at the head of `xmit_hold_q` into
K-frames: the first carries the 2-byte SDU length and at most `mps - 6` bytes of the SDU, the
later ones at most `mps - 4`. Each piece is copied out by `l2c_fcr_clone_buf`. On the receiving
side `l2c_lcc_proc_pdu` checks each K-frame against the local MPS, the first one's SDU length
against the local MTU, and every later one against what is still missing, and gathers the
pieces in `ble_sdu`.

`l2c_fcr_clone_buf` computes its allocation size in a `uint16_t`. A piece of more than
`65535 - 25` bytes, which a peer MPS above `65516` allows, makes the size wrap, and the copy
runs past the end of a buffer of a few bytes (`leCocSender_first_pdu_overflow`).
-/

namespace BluetoothStack.L2cap

open Bytes

/-! ## Sending -/

/-- `l2c_lcc_get_next_xmit_sdu_seg`: the next K-frame of the SDU at the head of `xmit_hold_q`,
with its basic header, and `last_piece_of_sdu`. The SDU length is written in front of the
first piece, while `p_buf->len` is still the whole SDU's. The peer's MPS is at least
`L2CAP_LE_MIN_MPS` once configured, so the subtractions from it do not wrap. The queue is
peeked without a check; `none` is the empty queue. -/
def l2cLccGetNextXmitSduSeg (c : Ccb) : Option (Ccb × BtHdr × Bool) :=
  match c.xmitHoldQ with
  | [] => none
  | pBuf :: rest =>
    let maxPdu := c.peerConnCfg.mps - 4
    let firstPdu := pBuf.event = 0
    let noOfBytesToSend :=
      min pBuf.len (if firstPdu then maxPdu - l2capLccSduLength else maxPdu)
    let lastPdu := noOfBytesToSend = pBuf.len
    let pXmit := l2cFcrCloneBuf pBuf (if firstPdu then l2capLccOffset else l2capMinOffset)
      noOfBytesToSend
    let pXmit :=
      if firstPdu then
        let offset := pXmit.offset - l2capLccSduLength
        { pXmit with
          offset
          len := pXmit.len + l2capLccSduLength
          data := store offset (uint16ToStream pBuf.len) pXmit.data }
      else pXmit
    let pXmit := { pXmit with event := c.localCid, layerSpecific := pBuf.layerSpecific }
    -- the rest of the SDU stays queued, or the buffer is freed after its last piece
    let xmitHoldQ :=
      if lastPdu then rest
      else
        { pBuf with
          event := c.localCid
          len := pBuf.len - noOfBytesToSend
          offset := pBuf.offset + noOfBytesToSend } :: rest
    let offset := pXmit.offset - l2capPktOverhead
    let len := pXmit.len + l2capPktOverhead
    let data := store offset (uint16ToStream (len - l2capPktOverhead)) pXmit.data
    let data := store (offset + 2) (uint16ToStream c.remoteCid) data
    some ({ c with xmitHoldQ }, { pXmit with offset, len, data }, decide lastPdu)

/-! ## Receiving -/

/-- The tail of `l2c_lcc_proc_pdu`: the K-frame's bytes go after those gathered in the SDU
buffer `p_data`. A complete SDU goes up the stack (`L2CEVT_L2CAP_DATA`) and the channel waits for
a first segment again; an incomplete one stays in `ble_sdu`. -/
def lccAppend (c : Ccb) (pData pBuf : BtHdr) : Ccb × Option BtHdr :=
  let pData := pData.appendPayload pBuf
  if pData.len = c.bleSduLength then
    ({ c with isFirstSeg := true, bleSdu := none, bleSduLength := 0 }, some pData)
  else if pData.len < c.bleSduLength then
    ({ c with isFirstSeg := false, bleSdu := some pData }, none)
  else ({ c with bleSdu := some pData }, none)

/-- `l2c_lcc_proc_pdu`: a K-frame, its basic header stripped, on an LE credit-based channel: the
channel afterwards and the SDU it completes, if any. A frame longer than the local MPS, a first
frame announcing more than the local MTU, and a later frame longer than what is missing
disconnect the channel (the last after dropping the partial SDU); a first frame too short for
the SDU length, or longer than the SDU it announces, is dropped. The SDU buffer of
`osi_malloc(BT_HDR_SIZE + sdu_length)` is sized in `size_t`. `none` is the dereference of a
`NULL` `ble_sdu` in a state that expects a later frame. -/
def l2cLccProcPdu (c : Ccb) (pBuf : BtHdr) : Option (Ccb × Option BtHdr) :=
  if pBuf.len > c.localConnCfg.mps then some (l2cuDisconnectChnl c, none)
  else if c.isFirstSeg then
    if pBuf.len < 2 then some (c, none)
    else
      let sduLength := streamToUint16 pBuf.data pBuf.offset
      if sduLength > c.localConnCfg.mtu then some (l2cuDisconnectChnl c, none)
      else
        let pBuf := pBuf.skip 2
        if sduLength < pBuf.len then some (c, none)
        else
          let pData := { osiMallocBuf (btHdrSize + sduLength) with len := 0, offset := 0 }
          some (lccAppend { c with bleSdu := some pData, bleSduLength := sduLength } pData pBuf)
  else
    match c.bleSdu with
    | none => none
    | some pData =>
      -- `ble_sdu_length - p_data->len` is computed in `int`
      if (pBuf.len : Int) > (c.bleSduLength : Int) - pData.len then
        some (l2cuDisconnectChnl
          { c with isFirstSeg := true, bleSdu := none, bleSduLength := 0 }, none)
      else some (lccAppend c pData pBuf)

/-! ## The size of the copied piece -/

/-- The K-frame of a piece of `n` bytes lies at `new_offset - 6` or `new_offset - 4` (for the
first piece, or a later one) in the clone that `l2c_fcr_clone_buf` allocates, whose storage is
what the 16-bit size leaves. -/
theorem l2cLccGetNextXmitSduSeg_frame {c : Ccb} {pBuf : BtHdr} {rest : List BtHdr}
    (hq : c.xmitHoldQ = pBuf :: rest) :
    let firstPdu := pBuf.event = 0
    let n := min pBuf.len
      (if firstPdu then c.peerConnCfg.mps - 4 - l2capLccSduLength else c.peerConnCfg.mps - 4)
    let newOffset := if firstPdu then l2capLccOffset else l2capMinOffset
    ∃ c' pXmit, l2cLccGetNextXmitSduSeg c = some (c', pXmit, decide (n = pBuf.len)) ∧
      pXmit.offset = newOffset - (if firstPdu then l2capLccSduLength else 0) - l2capPktOverhead ∧
      pXmit.len = n + (if firstPdu then l2capLccSduLength else 0) + l2capPktOverhead ∧
      pXmit.data.length = (n + btHdrSize + newOffset + l2capFcsLen) % 65536 - btHdrSize := by
  dsimp only
  unfold l2cLccGetNextXmitSduSeg
  rw [hq]
  by_cases hfirst : pBuf.event = 0
  · simp only [hfirst, ↓reduceIte]
    refine ⟨_, _, rfl, rfl, rfl, ?_⟩
    simp only [length_store, length_l2cFcrCloneBuf_data_eq]
  · simp only [hfirst, ↓reduceIte, Nat.sub_zero, Nat.add_zero]
    refine ⟨_, _, rfl, rfl, rfl, ?_⟩
    simp only [length_store, length_l2cFcrCloneBuf_data_eq]

/-- An LE credit-based channel whose peer announced `mps`, with `sdu` queued as
`l2c_enqueue_peer_data` queues it, not yet segmented. -/
def leCocSender (mps : Nat) (sdu : BtHdr) : Ccb where
  inUse := true
  isOpen := true
  txCompleteCb := false
  localCid := l2capBaseApplCid
  remoteCid := l2capBaseApplCid
  peerCfgFcr := ⟨l2capFcrBasicMode, 0, 0⟩
  ourCfgFcr := ⟨l2capFcrBasicMode, 0, 0⟩
  txMps := mps
  maxRxMtu := 65535
  xmitHoldQ := [{ sdu with event := 0 }]
  linkXmitDataQ := []
  fcrb := Fcrb.zero
  localConnCfg := { mtu := 65535, mps := mps }
  peerConnCfg := { mtu := 65535, mps := mps }
  isFirstSeg := true
  bleSdu := none
  bleSduLength := 0

/-- The largest SDU, in a buffer with `L2CAP_MIN_OFFSET` bytes of headroom. -/
def largestSdu : BtHdr where
  event := 0
  len := 65535
  offset := l2capMinOffset
  layerSpecific := 0
  data := List.replicate (l2capMinOffset + 65535) 0

/-- With the largest MPS a peer may announce, the first piece of the largest SDU is `65527`
bytes, the size `65527 + 8 + 15 + 2` wraps to `16`, and the K-frame of `65533` bytes at offset
`9` sits in a buffer with `8` bytes of storage. -/
theorem leCocSender_first_pdu_overflow :
    ∃ c' pXmit, l2cLccGetNextXmitSduSeg (leCocSender l2capLeMaxMps largestSdu) =
        some (c', pXmit, false) ∧
      pXmit.offset = 9 ∧ pXmit.len = 65533 ∧ pXmit.data.length = 8 := by
  have hq : (leCocSender l2capLeMaxMps largestSdu).xmitHoldQ =
      [{ largestSdu with event := 0 }] := rfl
  obtain ⟨c', pXmit, hget, hoff, hlen, hdata⟩ := l2cLccGetNextXmitSduSeg_frame hq
  refine ⟨c', pXmit, hget, ?_, ?_, ?_⟩
  · rw [hoff]
    rfl
  · rw [hlen]
    rfl
  · rw [hdata]
    rfl

end BluetoothStack.L2cap
