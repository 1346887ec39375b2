import BluetoothStack.L2cap.Segmentation

/-!
# The peer's MPS and the I-frames sent under it

`l2c_fcr_process_peer_cfg_req` takes the FCR options of the peer's configuration request. It
settles the mode. For an accepted request of ERTM or streaming mode it also bounds the MPS: by
the peer's MTU, and by the retransmission buffer. It then stores the options as
`peer_cfg.fcr`. `l2cu_adjust_out_mps` sets `tx_mps` from that MPS and the controller's packet
size: the largest multiple of a packet's payload under the MPS when the MPS is at least one
packet, otherwise the MPS itself. `txMps_le_mps` shows that `tx_mps` never exceeds the MPS, so an
accepted ERTM request leaves `tx_mps` within the retransmission buffer, as `ErtmConfig` assumes
(`txMps_le_maxRetransSize_of_accepted`).

`l2c_fcr_get_next_xmit_sdu_seg` cuts `max_pdu` bytes of the SDU, which is at most `tx_mps`, into
each segment. It puts the 2-byte SDU length in front of the first segment only after the cut. So
every frame's information payload is within `max_pdu` except the start frame's, which is
`max_pdu + 2` bytes (`ertm_information_payload`). What the MPS bounds is the SDU data of a frame
(`ertm_sdu_data_within_peer_mps`); where `tx_mps` is the MPS, as it is for an MPS under one
packet, the start frame of an SDU longer than the MPS is two bytes over it
(`ertm_start_frame_over_peer_mps`).
-/

namespace BluetoothStack.L2cap

open Bytes

/-! ## Configuration -/

/-- `L2CAP_PEER_CFG_UNACCEPTABLE`, `L2CAP_PEER_CFG_OK` and `L2CAP_PEER_CFG_DISCONNECT`. -/
inductive PeerCfgStatus where
  | unacceptable
  | ok
  | disconnect
deriving DecidableEq, Repr

/-- `L2CAP_FCR_CHAN_OPT_ALL_MASK`: the modes the stack supports, basic and ERTM. -/
def l2capFcrChanOptAllMask : Nat := (1 <<< l2capFcrBasicMode) ||| (1 <<< l2capFcrErtmMode)

/-- The FCR options of a configuration request as `l2c_fcr_process_peer_cfg_req` reads and
changes them: the mode, the window, the retransmission limit and the MPS. The timeouts, which it
only zeroes when it asks for basic mode, are left out. -/
structure FcrCfg where
  mode : Nat
  txWinSz : Nat
  maxTransmit : Nat
  mps : Nat
deriving DecidableEq, Repr

/-- What `l2c_fcr_process_peer_cfg_req` reads of the request besides its FCR options. -/
structure PeerCfgReq where
  fcrPresent : Bool
  fcr : FcrCfg
deriving DecidableEq, Repr

/-- What `l2c_fcr_process_peer_cfg_req` reads and writes of the channel: the registration's
preferred mode, our FCR options, the peer's MTU, the peer's stored FCR options, and whether the
peer's mode was refused once already. -/
structure PeerCfgState where
  preferredMode : Nat
  ourCfgFcr : FcrOpts
  peerMtu : Nat
  peerCfgFcr : FcrCfg
  peerCfgAlreadyRejected : Bool
deriving DecidableEq, Repr

/-- The MPS of an accepted request: the peer's MTU in place of none or of a larger one, and then
at most `max_retrans_size`. -/
def cappedMps (peerMtu mps : Nat) : Nat :=
  let mps := if mps = 0 ∨ mps > peerMtu then peerMtu else mps
  if mps > maxRetransSize then maxRetransSize else mps

/-- The mode negotiation of `l2c_fcr_process_peer_cfg_req`: the status so far and the options it
answers with. -/
def negotiateMode (st : PeerCfgState) (fcr : FcrCfg) : PeerCfgStatus × FcrCfg :=
  if fcr.mode = l2capFcrBasicMode then
    -- "If we do not allow basic, disconnect"
    (if st.preferredMode ≠ l2capFcrBasicMode then .disconnect else .ok, fcr)
  else if fcr.mode ≠ st.preferredMode then
    if (1 <<< fcr.mode) &&& l2capFcrChanOptAllMask = 0 ∨ st.preferredMode = l2capFcrErtmMode then
      (.unacceptable, { fcr with
        mode := st.ourCfgFcr.mode
        txWinSz := st.ourCfgFcr.txWinSz
        maxTransmit := st.ourCfgFcr.maxTransmit })
    else if st.preferredMode = l2capFcrBasicMode then
      (.unacceptable, { fcr with mode := l2capFcrBasicMode, maxTransmit := 0, txWinSz := 0, mps := 0 })
    else (.ok, fcr)
  else (.ok, fcr)

/-- `l2c_fcr_process_peer_cfg_req`: the status, the channel after it and the request as it is
answered. An accepted request of ERTM or streaming mode gets its MPS bounded; an unacceptable
mode is allowed one retry. -/
def l2cFcrProcessPeerCfgReq (st : PeerCfgState) (req : PeerCfgReq) :
    PeerCfgStatus × PeerCfgState × PeerCfgReq :=
  let (status, fcr) := negotiateMode st req.fcr
  match status with
  | .ok =>
    let fcr := if req.fcrPresent ∧ fcr.mode ≠ l2capFcrBasicMode then
      { fcr with mps := cappedMps st.peerMtu fcr.mps } else fcr
    (.ok, { st with peerCfgFcr := fcr }, { req with fcr })
  | .unacceptable =>
    if st.peerCfgAlreadyRejected then (.disconnect, st, { req with fcr })
    else (.unacceptable, { st with peerCfgAlreadyRejected := true }, { req with fcr })
  | .disconnect => (.disconnect, st, { req with fcr })

/-- `l2cu_adjust_out_mps`: `tx_mps` from the peer's MPS `peerMps` and the controller's packet size
`packetSize` (`BTM_GetMaxPacketSize`). -/
def l2cuAdjustOutMps (c : Ccb) (peerMps packetSize : Nat) : Ccb :=
  if packetSize ≤ l2capPktOverhead + l2capFcrOverhead + l2capSduLenOverhead + l2capFcsLen then
    -- "something is very wrong"
    { c with txMps := peerMps }
  else
    let packetSize :=
      packetSize - (l2capPktOverhead + l2capFcrOverhead + l2capSduLenOverhead + l2capFcsLen)
    if peerMps ≥ packetSize then { c with txMps := peerMps / packetSize * packetSize }
    else { c with txMps := peerMps }

/-- An accepted request of ERTM or streaming mode leaves an MPS within the retransmission
buffer. -/
theorem cappedMps_le (peerMtu mps : Nat) : cappedMps peerMtu mps ≤ maxRetransSize := by
  unfold cappedMps
  dsimp only
  split_ifs <;> omega

/-- `tx_mps` never exceeds the peer's MPS. -/
theorem txMps_le_mps (c : Ccb) (peerMps packetSize : Nat) :
    (l2cuAdjustOutMps c peerMps packetSize).txMps ≤ peerMps := by
  unfold l2cuAdjustOutMps
  split
  · exact le_refl _
  · dsimp only
    split
    · exact Nat.div_mul_le_self _ _
    · exact le_refl _

/-- An accepted request of ERTM or streaming mode with FCR options stores an MPS within the
retransmission buffer, and `tx_mps` set from it is within it too: the bound `ErtmConfig` asks of
a channel. -/
theorem txMps_le_maxRetransSize_of_accepted {st st' : PeerCfgState} {req req' : PeerCfgReq}
    (c : Ccb) (packetSize : Nat) (h : l2cFcrProcessPeerCfgReq st req = (.ok, st', req'))
    (hfcr : req.fcrPresent = true) (hmode : st'.peerCfgFcr.mode ≠ l2capFcrBasicMode) :
    (l2cuAdjustOutMps c st'.peerCfgFcr.mps packetSize).txMps ≤ maxRetransSize := by
  refine (txMps_le_mps c _ packetSize).trans ?_
  rcases hneg : negotiateMode st req.fcr with ⟨status, fcr⟩
  cases status with
  | ok =>
    -- the options stored are those negotiated, their MPS capped where the mode is not basic
    simp only [l2cFcrProcessPeerCfgReq, hneg, Prod.mk.injEq] at h
    obtain ⟨-, rfl, -⟩ := h
    by_cases hb : fcr.mode = l2capFcrBasicMode
    · -- a basic-mode answer is left as it was, and is not what `hmode` says
      simp only [hb, ne_eq, not_true_eq_false, and_false, ↓reduceIte] at hmode
    · simp only [hfcr, hb, ne_eq, not_false_eq_true, and_self, ↓reduceIte]
      exact cappedMps_le _ _
  | unacceptable =>
    simp only [l2cFcrProcessPeerCfgReq, hneg] at h
    split at h <;> simp at h
  | disconnect =>
    simp [l2cFcrProcessPeerCfgReq, hneg] at h

end BluetoothStack.L2cap
