import BluetoothStack.L2cap.Types

/-!
# AVCTP fragmentation and reassembly

`avct_lcb_send_msg` (stack/avct/avct_lcb_act.cc) sends a message that fits the peer's MTU as one
single packet and cuts a longer one into a start packet, continue packets and an end packet. The
start packet counts the packets in its NOSP byte; the single and start packets carry the PID.
The fragments go in buffers of their own, and the last piece goes in the message's own buffer,
the offset moved back over the header each time.

On the other side `avct_lcb_msg_asmbl` copies a start packet into a `BT_DEFAULT_BUFFER_SIZE`
buffer, writes the first header byte over NOSP, and appends continue and end packets behind it;
at the end packet it moves the offset back to the copied header, so that `avct_lcb_msg_ind`
parses the reassembled message as it parses a single packet.

The receiving side reads and writes through `loadIn` and `storeIn`, which fail outside the
storage: a run that never fails reads and writes only within the buffers it is given and the
reassembly buffer (`msgIndRun_isSome`).

`avctFrags` says how a message travels: the pieces the packets carry. The sender sends exactly
those pieces behind their headers (`avctLcbSendMsg_payloads`); the receiver, carrying the
invariant `Assembling` from packet to packet, hands the message back exactly when it fits the
reassembly buffer behind the start packet's own offset (`msgIndRun_start`). That buffer keeps the
start packet's offset in front of the message, so a fragmented message of `n` bytes whose start
packet arrives at offset `o` is delivered only when `o + 4 + n` bytes fit its storage, less than
the sender accepts. `avct_fragment_round_trip` puts the three together.
-/

namespace BluetoothStack.Avct

open Bytes L2cap

/-! ## Packet headers (stack/avct/avct_defs.h, stack/include/avct_api.h) -/

/-- `AVCT_PKT_TYPE_SINGLE`. -/
def avctPktTypeSingle : Nat := 0
/-- `AVCT_PKT_TYPE_START`. -/
def avctPktTypeStart : Nat := 1
/-- `AVCT_PKT_TYPE_CONT`. -/
def avctPktTypeCont : Nat := 2
/-- `AVCT_PKT_TYPE_END`. -/
def avctPktTypeEnd : Nat := 3

/-- `AVCT_HDR_LEN_SINGLE`: the header byte and the PID. -/
def avctHdrLenSingle : Nat := 3
/-- `AVCT_HDR_LEN_START`: the header byte, NOSP and the PID. -/
def avctHdrLenStart : Nat := 4
/-- `AVCT_HDR_LEN_CONT`. -/
def avctHdrLenCont : Nat := 1
/-- `AVCT_HDR_LEN_END`. -/
def avctHdrLenEnd : Nat := 1

/-- `AVCT_CR_IPID_INVALID`. -/
def avctCrIpidInvalid : Nat := 1
/-- `AVCT_CMD`. -/
def avctCmd : Nat := 0
/-- `AVCT_RSP`. -/
def avctRsp : Nat := 2
/-- `AVCT_REJ`. -/
def avctRej : Nat := 3
/-- `AVCT_DATA_CTRL`. -/
def avctDataCtrl : Nat := 0x0001
/-- `AVCT_MSG_OFFSET`. -/
def avctMsgOffset : Nat := 15
/-- `AVCT_CMD_BUF_SIZE`. -/
def avctCmdBufSize : Nat := 288

/-- `avct_lcb_pkt_type_len`: the header length of each packet type. -/
def avctLcbPktTypeLen (pktType : Nat) : Nat :=
  [avctHdrLenSingle, avctHdrLenStart, avctHdrLenCont, avctHdrLenEnd].getD pktType 0

/-- `AVCT_BUILD_HDR`: the label, the packet type and cr/ipid in one byte. -/
def avctBuildHdr (label pktType crIpid : Nat) : UInt8 :=
  UInt8.ofNat ((label <<< 4) ||| (pktType <<< 2) ||| crIpid)

/-- `AVCT_PKT_TYPE`. -/
def avctPktType (b : UInt8) : Nat := (b.toNat >>> 2) &&& 3

/-! ## Sending -/

/-- The message `AVCT_MsgReq` queues: its buffer and the label, cr and PID it goes with. -/
structure UlMsg where
  pBuf : BtHdr
  label : Nat
  cr : Nat
  pid : Nat

/-- NOSP as `avct_lcb_send_msg` computes it for a message that does not fit one packet: `temp` is
a `uint16_t` and `nosp` a `uint8_t`. -/
def avctNosp (peerMtu currMsgLen : Nat) : Nat :=
  let temp := (((currMsgLen : Int) + avctHdrLenStart - peerMtu) % 65536).toNat
  (temp / (peerMtu - 1) + 1 + if temp % (peerMtu - 1) ≠ 0 then 1 else 0) % 256

/-- The header of a packet: `AVCT_BUILD_HDR`, then NOSP in a start packet, then the PID, high
byte first, in a single or a start packet. -/
def avctHeader (label pktType cr nosp pid : Nat) : List UInt8 :=
  avctBuildHdr label pktType cr ::
    ((if pktType = avctPktTypeStart then [UInt8.ofNat nosp] else []) ++
      if pktType = avctPktTypeStart ∨ pktType = avctPktTypeSingle then beBytes 2 pid else [])

/-- The buffer a fragment goes in: `peer_mtu - hdr_len` bytes of the message, after room for
L2CAP and the packet's header. -/
def fragmentBuf (peerMtu hdrLen : Nat) (msg : BtHdr) : BtHdr :=
  let buf := osiMallocBuf (peerMtu + l2capMinOffset + btHdrSize)
  { buf with
    offset := l2capMinOffset + hdrLen
    len := peerMtu - hdrLen
    data := store (l2capMinOffset + hdrLen) (load msg.offset (peerMtu - hdrLen) msg.data) buf.data }

/-- `p_buf->len += hdr_len; p_buf->offset -= hdr_len;` and the header built at the new
offset. -/
def prependHdr (hdrLen : Nat) (hdr : List UInt8) (pBuf : BtHdr) : BtHdr :=
  { pBuf with
    len := pBuf.len + hdrLen
    offset := pBuf.offset - hdrLen
    data := store (pBuf.offset - hdrLen) hdr pBuf.data }

/-- The type of the next packet, from what remains of the message: a continue packet while more
remains than an end packet holds. -/
def nextPktType (peerMtu currMsgLen : Nat) : Nat :=
  if (currMsgLen : Int) > (peerMtu : Int) - avctHdrLenEnd then avctPktTypeCont else avctPktTypeEnd

/-- The loop of `avct_lcb_send_msg`, while `curr_msg_len` is not 0: the packets in the order they
go to L2CAP (directly or through `tx_q` while the link is congested). `msg` is the message's own
buffer, its offset moved past the bytes already sent. -/
def sendLoop (peerMtu : Nat) (m : UlMsg) (nosp : Nat) :
    (fuel currMsgLen pktType : Nat) → (msg : BtHdr) → List BtHdr
  | 0, _, _, _ => []
  | fuel + 1, currMsgLen, pktType, msg =>
    if currMsgLen = 0 then [] else
    let hdrLen := avctLcbPktTypeLen pktType
    -- a remainder longer than the packet holds is cut; the last piece goes in `msg` itself
    let (pBuf, msg) :=
      if (msg.len : Int) > (peerMtu : Int) - hdrLen then
        (fragmentBuf peerMtu hdrLen msg, msg.skip (peerMtu - hdrLen))
      else (msg, msg)
    let currMsgLen := currMsgLen - pBuf.len
    let pBuf := prependHdr hdrLen (avctHeader m.label pktType m.cr nosp m.pid) pBuf
    pBuf :: sendLoop peerMtu m nosp fuel currMsgLen (nextPktType peerMtu currMsgLen) msg

/-- `avct_lcb_send_msg` for a link with the peer's MTU `peerMtu`. Every turn of the loop sends at
least one byte where `peerMtu > 4`, so `curr_msg_len + 1` turns are enough. -/
def avctLcbSendMsg (peerMtu : Nat) (m : UlMsg) : List BtHdr :=
  let currMsgLen := m.pBuf.len
  if (currMsgLen : Int) ≤ (peerMtu : Int) - avctHdrLenSingle then
    sendLoop peerMtu m 0 (currMsgLen + 1) currMsgLen avctPktTypeSingle m.pBuf
  else
    sendLoop peerMtu m (avctNosp peerMtu currMsgLen) (currMsgLen + 1) currMsgLen avctPktTypeStart
      m.pBuf

/-! ## Receiving -/

/-- `buf_len`: the storage of the reassembly buffer. -/
def rxBufLen : Nat := btDefaultBufferSize - btHdrSize

/-- A start packet in `avct_lcb_msg_asmbl`: it is copied into a new reassembly buffer, header
and storage up to its end, and its first header byte written over NOSP; the offset goes to the
end of the packet, where the next packet is to be copied. -/
def asmblStart (pBuf : BtHdr) : Option (Option BtHdr × Option BtHdr) := do
  -- the source checks the size a second time
  if btHdrSize + pBuf.offset + pBuf.len > btDefaultBufferSize then return (none, none)
  let copied ← storeIn 0 (← loadIn 0 (pBuf.offset + pBuf.len) pBuf.data)
    (osiMallocBuf btDefaultBufferSize).data
  let hdr ← copied[pBuf.offset]?
  let data ← storeIn (pBuf.offset + 1) [hdr] copied
  return (some { pBuf with data, offset := pBuf.offset + pBuf.len, len := pBuf.len - 1 }, none)

/-- A continue or end packet in `avct_lcb_msg_asmbl`: dropped with no reassembly in progress or
where it would not fit, and otherwise copied after the message so far; an end packet moves the
offset back to the copied header and completes the message. -/
def asmblLater (pRxMsg : Option BtHdr) (pBuf : BtHdr) (pktType : Nat) :
    Option (Option BtHdr × Option BtHdr) :=
  match pRxMsg with
  | none => return (none, none)
  | some rx => do
    let pBuf := pBuf.skip avctHdrLenCont
    if rx.offset + pBuf.len > rxBufLen then return (none, none)
    let data ← storeIn rx.offset (← loadIn pBuf.offset pBuf.len pBuf.data) rx.data
    if pktType = avctPktTypeEnd then
      return (none, some { rx with data, offset := rx.offset - rx.len, len := rx.len + pBuf.len })
    else return (some { rx with data, offset := rx.offset + pBuf.len, len := rx.len + pBuf.len }, none)

/-- `avct_lcb_msg_asmbl` with the reassembly buffer `pRxMsg`: the reassembly buffer after the
packet and the message it completes, or `none` where the code would read or write outside the
packet's storage or the reassembly buffer. -/
def avctLcbMsgAsmbl (pRxMsg : Option BtHdr) (pBuf : BtHdr) :
    Option (Option BtHdr × Option BtHdr) := do
  if pBuf.len < 1 then return (pRxMsg, none)
  let b ← pBuf.data[pBuf.offset]?
  let pktType := avctPktType b
  if pBuf.len < avctLcbPktTypeLen pktType ∨
      btHdrSize + pBuf.offset + pBuf.len > btDefaultBufferSize then
    return (pRxMsg, none)
  -- a single or a start packet drops a reassembly in progress
  if pktType = avctPktTypeSingle then return (none, some pBuf)
  if pktType = avctPktTypeStart then asmblStart pBuf
  else asmblLater pRxMsg pBuf pktType

/-- What `avct_lcb_msg_ind` does with one packet. -/
structure MsgInd where
  pRxMsg : Option BtHdr
  /-- The label, cr/ipid and message handed to the PID's `p_msg_cback`. -/
  delivered : Option (Nat × Nat × BtHdr)
  /-- The reject sent for a command to a PID no connection has. -/
  reject : Option BtHdr

/-- `avct_lcb_msg_ind`, with `hasPid` saying whether `avct_lcb_has_pid` finds a connection of
the link for a PID. -/
def avctLcbMsgInd (hasPid : Nat → Bool) (pRxMsg : Option BtHdr) (pBuf : BtHdr) :
    Option MsgInd := do
  let (rx, ret) ← avctLcbMsgAsmbl pRxMsg { pBuf with layerSpecific := avctDataCtrl }
  match ret with
  | none => return ⟨rx, none, none⟩
  | some msg =>
    let b ← msg.data[msg.offset]?
    let label := b.toNat >>> 4
    let crIpid := b.toNat &&& 3
    if crIpid = avctCrIpidInvalid then return ⟨rx, none, none⟩
    let pid := beValue (← loadIn (msg.offset + 1) 2 msg.data)
    if hasPid pid then return ⟨rx, some (label, crIpid, msg.skip avctHdrLenSingle), none⟩
    if crIpid = avctCmd then
      let buf := osiMallocBuf avctCmdBufSize
      let offset := avctMsgOffset - avctHdrLenSingle
      return ⟨rx, none, some { buf with
        len := avctHdrLenSingle
        offset
        data := store offset (avctBuildHdr label avctPktTypeSingle avctRej :: beBytes 2 pid)
          buf.data }⟩
    return ⟨rx, none, none⟩

/-- `avct_lcb_msg_ind` over packets in turn: the label, cr/ipid and bytes of each message
delivered, or `none` where a packet makes the code read or write outside the buffers. -/
def msgIndRun (hasPid : Nat → Bool) :
    Option BtHdr → List BtHdr → Option (List (Nat × Nat × List UInt8))
  | _, [] => some []
  | rx, p :: ps => do
    let r ← avctLcbMsgInd hasPid rx p
    let rest ← msgIndRun hasPid r.pRxMsg ps
    return (r.delivered.map fun (l, c, b) => (l, c, b.payload)).toList ++ rest

/-! ## The pieces of a message -/

/-- The pieces of a message after the start packet's: `peer_mtu - 1` bytes in each continue
packet while more remains than an end packet holds, then the end packet's. -/
def laterFrags (peerMtu : Nat) (s : List UInt8) : List (Nat × List UInt8) :=
  if s.length ≤ peerMtu - avctHdrLenEnd ∨ peerMtu ≤ avctHdrLenEnd then [(avctPktTypeEnd, s)]
  else (avctPktTypeCont, s.take (peerMtu - avctHdrLenCont)) ::
    laterFrags peerMtu (s.drop (peerMtu - avctHdrLenCont))
termination_by s.length
decreasing_by
  simp only [List.length_drop, avctHdrLenCont, avctHdrLenEnd] at *
  omega

/-- How a message travels for a peer MTU: one single packet where it fits, or a start packet
with the first `peer_mtu - 4` bytes and then `laterFrags`. -/
def avctFrags (peerMtu : Nat) (s : List UInt8) : List (Nat × List UInt8) :=
  if s.length ≤ peerMtu - avctHdrLenSingle then [(avctPktTypeSingle, s)]
  else (avctPktTypeStart, s.take (peerMtu - avctHdrLenStart)) ::
    laterFrags peerMtu (s.drop (peerMtu - avctHdrLenStart))

/-- The bytes of the packet that carries a piece: its header, then the piece. -/
def packetBytes (label cr pid nosp : Nat) (f : Nat × List UInt8) : List UInt8 :=
  avctHeader label f.1 cr nosp pid ++ f.2

theorem packetBytes_cont (label cr pid nosp : Nat) (s : List UInt8) :
    packetBytes label cr pid nosp (avctPktTypeCont, s) = avctBuildHdr label avctPktTypeCont cr :: s :=
  rfl

theorem packetBytes_end (label cr pid nosp : Nat) (s : List UInt8) :
    packetBytes label cr pid nosp (avctPktTypeEnd, s) = avctBuildHdr label avctPktTypeEnd cr :: s :=
  rfl

theorem packetBytes_single (label cr pid nosp : Nat) (s : List UInt8) :
    packetBytes label cr pid nosp (avctPktTypeSingle, s) =
      avctBuildHdr label avctPktTypeSingle cr :: beBytes 2 pid ++ s := rfl

theorem packetBytes_start (label cr pid nosp : Nat) (s : List UInt8) :
    packetBytes label cr pid nosp (avctPktTypeStart, s) =
      avctBuildHdr label avctPktTypeStart cr :: UInt8.ofNat nosp :: beBytes 2 pid ++ s := rfl

section Pieces

variable {peerMtu : Nat}

/-- The later pieces are continue pieces and then one end piece. -/
theorem laterFrags_types (s : List UInt8) :
    ∃ k, (laterFrags peerMtu s).map (·.1) = List.replicate k avctPktTypeCont ++ [avctPktTypeEnd] := by
  induction s using laterFrags.induct peerMtu with
  | case1 s hend =>
    exact ⟨0, by rw [laterFrags, if_pos hend]; rfl⟩
  | case2 s hcont ih =>
    obtain ⟨k, hk⟩ := ih
    refine ⟨k + 1, ?_⟩
    rw [laterFrags, if_neg hcont, List.map_cons, hk]
    rfl

/-- A continue piece is `peer_mtu - 1` bytes, an end piece at most that. -/
theorem laterFrags_length_le (s : List UInt8) :
    ∀ f ∈ laterFrags peerMtu s, f.2.length ≤ peerMtu - avctHdrLenCont ∨ peerMtu ≤ avctHdrLenEnd := by
  induction s using laterFrags.induct peerMtu with
  | case1 s hend =>
    rw [laterFrags, if_pos hend]
    simp only [List.mem_singleton, forall_eq]
    simpa [avctHdrLenCont, avctHdrLenEnd] using hend
  | case2 s hcont ih =>
    rw [laterFrags, if_neg hcont]
    simp only [List.mem_cons, forall_eq_or_imp, List.length_take]
    exact ⟨Or.inl (Nat.min_le_left _ _), ih⟩

/-- A message of `n > 0` bytes after the start piece takes `⌈n / (peer_mtu - 1)⌉` packets, as
the source's NOSP counts them: the quotient, and one more for a remainder. -/
theorem length_laterFrags (hu : 2 ≤ peerMtu) (s : List UInt8) (hs : 0 < s.length) :
    (laterFrags peerMtu s).length = s.length / (peerMtu - 1) +
      if s.length % (peerMtu - 1) ≠ 0 then 1 else 0 := by
  induction s using laterFrags.induct peerMtu with
  | case1 s hend =>
    rw [laterFrags, if_pos hend, List.length_singleton]
    simp only [avctHdrLenEnd] at hend
    rcases Nat.lt_or_eq_of_le (show s.length ≤ peerMtu - 1 by omega) with hlt | heq
    · rw [Nat.div_eq_of_lt hlt, Nat.mod_eq_of_lt hlt, if_pos (by omega)]
    · rw [heq, Nat.div_self (by omega), Nat.mod_self, if_neg (by omega)]
  | case2 s hcont ih =>
    simp only [avctHdrLenEnd, not_or] at hcont
    have hdrop : (s.drop (peerMtu - avctHdrLenCont)).length = s.length - (peerMtu - 1) :=
      List.length_drop
    rw [laterFrags, if_neg (by simp only [avctHdrLenEnd]; omega), List.length_cons,
      ih (by omega)]
    -- one piece of `peer_mtu - 1` bytes less: the quotient one less, the remainder the same
    have hdiv := Nat.div_eq_sub_div (show 0 < peerMtu - 1 by omega)
      (show peerMtu - 1 ≤ s.length by omega)
    have hmod := Nat.mod_eq_sub_mod (show peerMtu - 1 ≤ s.length by omega)
    simp only [hdrop, hdiv, hmod]
    omega

theorem avctFrags_of_le {s : List UInt8} (hs : s.length ≤ peerMtu - avctHdrLenSingle) :
    avctFrags peerMtu s = [(avctPktTypeSingle, s)] := by
  rw [avctFrags, if_pos hs]

theorem avctFrags_of_lt {s : List UInt8} (hs : peerMtu - avctHdrLenSingle < s.length) :
    avctFrags peerMtu s = (avctPktTypeStart, s.take (peerMtu - avctHdrLenStart)) ::
      laterFrags peerMtu (s.drop (peerMtu - avctHdrLenStart)) := by
  rw [avctFrags, if_neg (by omega)]

/-- NOSP as the source computes it is the number of packets, while that fits its byte. -/
theorem avctNosp_eq_length (hu : 5 ≤ peerMtu) {s : List UInt8}
    (hs : peerMtu - avctHdrLenSingle < s.length) (h16 : s.length < 65536)
    (h256 : (avctFrags peerMtu s).length < 256) :
    avctNosp peerMtu s.length = (avctFrags peerMtu s).length := by
  simp only [avctHdrLenSingle] at hs
  have hdrop : (s.drop (peerMtu - avctHdrLenStart)).length = s.length + 4 - peerMtu := by
    simp only [List.length_drop, avctHdrLenStart]
    omega
  have htemp : (((s.length : Int) + avctHdrLenStart - peerMtu) % 65536).toNat =
      s.length + 4 - peerMtu := by
    simp only [avctHdrLenStart]
    omega
  rw [avctFrags_of_lt (by simp only [avctHdrLenSingle]; omega)] at h256 ⊢
  rw [List.length_cons, length_laterFrags (by omega) _ (by rw [hdrop]; omega), hdrop] at h256 ⊢
  rw [avctNosp]
  rw [htemp]
  generalize (s.length + 4 - peerMtu) / (peerMtu - 1) = q at h256 ⊢
  generalize (if (s.length + 4 - peerMtu) % (peerMtu - 1) ≠ 0 then 1 else 0) = r at h256 ⊢
  omega

/-- Past an MTU of 48, a message that fits a default buffer is fewer than 256 packets. -/
theorem length_avctFrags_lt (hu : 48 ≤ peerMtu) {s : List UInt8} (hs : s.length ≤ 4101) :
    (avctFrags peerMtu s).length < 256 := by
  by_cases hsingle : s.length ≤ peerMtu - avctHdrLenSingle
  · rw [avctFrags_of_le hsingle]
    simp
  have hdrop : (s.drop (peerMtu - avctHdrLenStart)).length = s.length + 4 - peerMtu := by
    simp only [List.length_drop, avctHdrLenStart]
    omega
  have hq : (s.length + 4 - peerMtu) / (peerMtu - 1) ≤ 4057 / 47 :=
    Nat.div_le_div (by omega) (by omega) (by omega)
  rw [avctFrags_of_lt (by omega), List.length_cons,
    length_laterFrags (by omega) _ (by simp only [avctHdrLenSingle] at hsingle; rw [hdrop]; omega),
    hdrop]
  split_ifs <;> omega

/-- Each packet is at most the peer's MTU. -/
theorem length_packetBytes_le (hu : 5 ≤ peerMtu) (label cr pid nosp : Nat) (s : List UInt8) :
    ∀ f ∈ avctFrags peerMtu s, (packetBytes label cr pid nosp f).length ≤ peerMtu := by
  by_cases hsingle : s.length ≤ peerMtu - avctHdrLenSingle
  · rw [avctFrags_of_le hsingle]
    simp only [List.mem_singleton, forall_eq, packetBytes_single, List.length_cons,
      List.length_append, length_beBytes]
    simp only [avctHdrLenSingle] at hsingle
    omega
  rw [avctFrags_of_lt (by omega)]
  simp only [List.mem_cons, forall_eq_or_imp, packetBytes_start, List.length_cons,
    List.length_append, length_beBytes, List.length_take]
  refine ⟨by simp only [avctHdrLenStart]; omega, fun f hf => ?_⟩
  obtain ⟨k, hk⟩ : ∃ k, (laterFrags peerMtu (s.drop (peerMtu - avctHdrLenStart))).map (·.1) =
      List.replicate k avctPktTypeCont ++ [avctPktTypeEnd] := laterFrags_types _
  have htype : f.1 = avctPktTypeCont ∨ f.1 = avctPktTypeEnd := by
    have hmem : f.1 ∈ (laterFrags peerMtu (s.drop (peerMtu - avctHdrLenStart))).map (·.1) :=
      List.mem_map_of_mem hf
    rw [hk] at hmem
    simp only [List.mem_append, List.mem_replicate, List.mem_singleton] at hmem
    omega
  have hle := laterFrags_length_le _ f hf
  obtain ⟨t, piece⟩ := f
  simp only at htype hle
  rcases htype with rfl | rfl
  · rw [packetBytes_cont, List.length_cons]
    simp only [avctHdrLenCont, avctHdrLenEnd] at hle
    omega
  · rw [packetBytes_end, List.length_cons]
    simp only [avctHdrLenCont, avctHdrLenEnd] at hle
    omega

end Pieces

/-! ## The buffers of the sender -/

theorem payload_prependHdr {k : Nat} {hdr : List UInt8} {b : BtHdr} (hk : hdr.length = k)
    (ho : k ≤ b.offset) (hfit : b.Fits) : (prependHdr k hdr b).payload = hdr ++ b.payload := by
  unfold BtHdr.Fits at hfit
  have hstore : load (b.offset - k) k (store (b.offset - k) hdr b.data) = hdr := by
    rw [← hk]
    exact load_store_self (by omega)
  have hrest : load b.offset b.len (store (b.offset - k) hdr b.data) = b.payload :=
    load_store_of_disjoint (Or.inr (by omega))
  simp only [prependHdr, BtHdr.payload]
  rw [Nat.add_comm, load_add, hstore, Nat.sub_add_cancel ho, hrest]
  rfl

theorem prependHdr_fits {k : Nat} {hdr : List UInt8} {b : BtHdr} (ho : k ≤ b.offset)
    (hfit : b.Fits) : (prependHdr k hdr b).Fits := by
  unfold BtHdr.Fits at hfit ⊢
  simp only [prependHdr, length_store]
  omega

theorem payload_fragmentBuf {peerMtu hdrLen : Nat} {msg : BtHdr} (hh : hdrLen ≤ peerMtu)
    (hmsg : msg.offset + (peerMtu - hdrLen) ≤ msg.data.length) :
    (fragmentBuf peerMtu hdrLen msg).payload = load msg.offset (peerMtu - hdrLen) msg.data := by
  have hlen := length_load_of_le hmsg
  have hroom : l2capMinOffset + hdrLen + (load msg.offset (peerMtu - hdrLen) msg.data).length ≤
      (List.replicate (peerMtu + l2capMinOffset + btHdrSize - btHdrSize) (0 : UInt8)).length := by
    rw [hlen, List.length_replicate]
    simp only [l2capMinOffset, btHdrSize]
    omega
  have hself := load_store_self hroom
  rw [hlen] at hself
  exact hself

theorem fragmentBuf_fits {peerMtu hdrLen : Nat} {msg : BtHdr} (hh : hdrLen ≤ peerMtu) :
    (fragmentBuf peerMtu hdrLen msg).Fits := by
  unfold BtHdr.Fits fragmentBuf osiMallocBuf
  dsimp only
  simp only [length_store, List.length_replicate, l2capMinOffset, btHdrSize]
  omega

@[simp] theorem length_avctHeader (label pktType cr nosp pid : Nat) (ht : pktType < 4) :
    (avctHeader label pktType cr nosp pid).length = avctLcbPktTypeLen pktType := by
  rcases (by omega : pktType = 0 ∨ pktType = 1 ∨ pktType = 2 ∨ pktType = 3) with h | h | h | h <;>
    subst h <;> simp [avctHeader, avctLcbPktTypeLen, avctPktTypeStart, avctPktTypeSingle,
      avctHdrLenSingle, avctHdrLenStart, avctHdrLenCont, avctHdrLenEnd]

/-! ## One turn of the sender's loop -/

section SendLoop

variable {peerMtu : Nat} {m : UlMsg} {nosp fuel currMsgLen pktType : Nat} {msg : BtHdr}

/-- A remainder longer than the packet holds: a fragment of `peer_mtu - hdr_len` bytes goes out
in a buffer of its own. -/
theorem sendLoop_cut (hcurr : currMsgLen ≠ 0)
    (hlong : (msg.len : Int) > (peerMtu : Int) - avctLcbPktTypeLen pktType) :
    sendLoop peerMtu m nosp (fuel + 1) currMsgLen pktType msg =
      prependHdr (avctLcbPktTypeLen pktType) (avctHeader m.label pktType m.cr nosp m.pid)
          (fragmentBuf peerMtu (avctLcbPktTypeLen pktType) msg) ::
        sendLoop peerMtu m nosp fuel (currMsgLen - (peerMtu - avctLcbPktTypeLen pktType))
          (nextPktType peerMtu (currMsgLen - (peerMtu - avctLcbPktTypeLen pktType)))
          (msg.skip (peerMtu - avctLcbPktTypeLen pktType)) := by
  simp only [sendLoop, if_neg hcurr, if_pos hlong]
  rfl

/-- A remainder the packet holds goes out in the message's own buffer. -/
theorem sendLoop_last (hcurr : currMsgLen ≠ 0)
    (hshort : ¬(msg.len : Int) > (peerMtu : Int) - avctLcbPktTypeLen pktType) :
    sendLoop peerMtu m nosp (fuel + 1) currMsgLen pktType msg =
      prependHdr (avctLcbPktTypeLen pktType) (avctHeader m.label pktType m.cr nosp m.pid) msg ::
        sendLoop peerMtu m nosp fuel (currMsgLen - msg.len)
          (nextPktType peerMtu (currMsgLen - msg.len)) msg := by
  simp only [sendLoop, if_neg hcurr, if_neg hshort]

theorem sendLoop_zero : sendLoop peerMtu m nosp fuel 0 pktType msg = [] := by
  cases fuel <;> simp [sendLoop]

end SendLoop

theorem nextPktType_of_le {peerMtu n : Nat} (hu : 1 ≤ peerMtu) (h : n ≤ peerMtu - 1) :
    nextPktType peerMtu n = avctPktTypeEnd := by
  rw [nextPktType, if_neg (by simp only [avctHdrLenEnd]; omega)]

theorem nextPktType_of_lt {peerMtu n : Nat} (h : peerMtu - 1 < n) :
    nextPktType peerMtu n = avctPktTypeCont := by
  rw [nextPktType, if_pos (by simp only [avctHdrLenEnd]; omega)]

/-- The packets after the start packet carry the later pieces of what remains, whatever the
fuel left as long as it exceeds the bytes left. By induction along `laterFrags`: a continue
packet takes `peer_mtu - 1` bytes off the message's buffer, the end packet the rest. -/
theorem sendLoop_laterFrags {peerMtu : Nat} (hu : 2 ≤ peerMtu) (m : UlMsg) (nosp : Nat) :
    ∀ (s : List UInt8) (msg : BtHdr) (fuel : Nat), msg.payload = s → msg.Fits →
      1 ≤ msg.offset → 0 < msg.len → msg.len < fuel →
      (sendLoop peerMtu m nosp fuel msg.len (nextPktType peerMtu msg.len) msg).map
          BtHdr.payload = (laterFrags peerMtu s).map (packetBytes m.label m.cr m.pid nosp) := by
  intro s
  induction s using laterFrags.induct peerMtu with
  | case1 s hend =>
    intro msg fuel hs hfit hoff hpos hfuel
    have hlen : msg.len = s.length := by rw [← hs, BtHdr.length_payload hfit]
    simp only [avctHdrLenEnd] at hend
    have hk : avctLcbPktTypeLen avctPktTypeEnd = 1 := rfl
    have hshort : ¬(msg.len : Int) > (peerMtu : Int) - avctLcbPktTypeLen avctPktTypeEnd := by
      rw [hk]
      omega
    obtain ⟨fuel, rfl⟩ : ∃ f, fuel = f + 1 := ⟨fuel - 1, by omega⟩
    rw [nextPktType_of_le (by omega) (by omega), sendLoop_last (by omega) hshort, Nat.sub_self,
      sendLoop_zero, laterFrags, if_pos (by simp only [avctHdrLenEnd]; omega)]
    simp only [List.map_cons, List.map_nil, packetBytes, List.cons.injEq, and_true]
    rw [payload_prependHdr (by simp [avctPktTypeEnd]) (by rw [hk]; omega) hfit, hs]
  | case2 s hcont ih =>
    intro msg fuel hs hfit hoff hpos hfuel
    have hlen : msg.len = s.length := by rw [← hs, BtHdr.length_payload hfit]
    simp only [avctHdrLenEnd, not_or] at hcont
    have hk : avctLcbPktTypeLen avctPktTypeCont = 1 := rfl
    have hlong : (msg.len : Int) > (peerMtu : Int) - avctLcbPktTypeLen avctPktTypeCont := by
      rw [hk]
      omega
    obtain ⟨fuel, rfl⟩ : ∃ f, fuel = f + 1 := ⟨fuel - 1, by omega⟩
    rw [nextPktType_of_lt (by omega), sendLoop_cut (by omega) hlong, laterFrags,
      if_neg (by simp only [avctHdrLenEnd]; omega)]
    simp only [hk, List.map_cons, packetBytes]
    have hroom : msg.offset + msg.len ≤ msg.data.length := hfit
    have hfrag : (fragmentBuf peerMtu 1 msg).payload = s.take (peerMtu - avctHdrLenCont) := by
      rw [payload_fragmentBuf (by omega) (by omega), ← hs, BtHdr.payload, take_load,
        avctHdrLenCont, Nat.min_eq_left (by omega)]
    refine congrArg₂ List.cons ?_ ?_
    · rw [payload_prependHdr (by simp [avctPktTypeCont, avctLcbPktTypeLen, avctHdrLenCont])
        (by simp [fragmentBuf, l2capMinOffset])
        (fragmentBuf_fits (by omega)), hfrag]
    · have hrest := ih (msg.skip (peerMtu - 1)) fuel
        (by rw [BtHdr.payload_skip, hs, avctHdrLenCont]) (hfit.skip (by omega))
        (by simp; omega) (by simp; omega) (by simp; omega)
      simpa using hrest

/-- What `avct_lcb_send_msg` sends: the packets of `avctFrags`, each with its header, NOSP as
the source computes it. Every packet takes at least one byte where `peer_mtu > 4`. -/
theorem avctLcbSendMsg_payloads {peerMtu : Nat} (hu : 5 ≤ peerMtu) (m : UlMsg)
    (hfit : m.pBuf.Fits) (hoff : avctHdrLenSingle ≤ m.pBuf.offset) (hpos : 0 < m.pBuf.len) :
    (avctLcbSendMsg peerMtu m).map BtHdr.payload =
      (avctFrags peerMtu m.pBuf.payload).map
        (packetBytes m.label m.cr m.pid (avctNosp peerMtu m.pBuf.len)) := by
  have hlen := BtHdr.length_payload hfit
  simp only [avctHdrLenSingle] at hoff
  by_cases hsingle : (m.pBuf.len : Int) ≤ (peerMtu : Int) - avctHdrLenSingle
  · -- one single packet in the message's own buffer
    have hk : avctLcbPktTypeLen avctPktTypeSingle = 3 := rfl
    have hshort : ¬(m.pBuf.len : Int) > (peerMtu : Int) - avctLcbPktTypeLen avctPktTypeSingle := by
      rw [hk]
      simp only [avctHdrLenSingle] at hsingle
      omega
    rw [avctLcbSendMsg, if_pos hsingle, sendLoop_last (show m.pBuf.len ≠ 0 by omega) hshort,
      Nat.sub_self,
      sendLoop_zero, avctFrags, if_pos (by simp only [avctHdrLenSingle] at hsingle ⊢; omega)]
    simp only [List.map_cons, List.map_nil, packetBytes, List.cons.injEq, and_true]
    rw [payload_prependHdr (by simp [avctPktTypeSingle, avctLcbPktTypeLen, avctHdrLenSingle])
      (by rw [hk]; omega) hfit]
    simp [avctHeader, avctPktTypeSingle, avctPktTypeStart]
  · -- a start packet in a buffer of its own, then the later packets
    have hk : avctLcbPktTypeLen avctPktTypeStart = 4 := rfl
    have hlong : (m.pBuf.len : Int) > (peerMtu : Int) - avctLcbPktTypeLen avctPktTypeStart := by
      rw [hk]
      simp only [avctHdrLenSingle] at hsingle
      omega
    have hroom : m.pBuf.offset + m.pBuf.len ≤ m.pBuf.data.length := hfit
    rw [avctLcbSendMsg, if_neg hsingle, sendLoop_cut (show m.pBuf.len ≠ 0 by omega) hlong, avctFrags,
      if_neg (by simp only [avctHdrLenSingle] at hsingle ⊢; omega)]
    simp only [hk, List.map_cons, packetBytes]
    have hfrag : (fragmentBuf peerMtu 4 m.pBuf).payload =
        m.pBuf.payload.take (peerMtu - avctHdrLenStart) := by
      rw [payload_fragmentBuf (by omega) (by omega), BtHdr.payload, take_load,
        avctHdrLenStart, Nat.min_eq_left (by simp only [avctHdrLenSingle] at hsingle; omega)]
    refine congrArg₂ List.cons ?_ ?_
    · rw [payload_prependHdr (by simp [avctPktTypeStart, avctLcbPktTypeLen, avctHdrLenStart])
        (by simp [fragmentBuf, l2capMinOffset]) (fragmentBuf_fits (by omega)), hfrag]
    · have hrest := sendLoop_laterFrags (show 2 ≤ peerMtu by omega) m (avctNosp peerMtu m.pBuf.len)
        (m.pBuf.payload.drop (peerMtu - avctHdrLenStart)) (m.pBuf.skip (peerMtu - 4))
        m.pBuf.len (by rw [BtHdr.payload_skip, avctHdrLenStart]) (hfit.skip (by omega))
        (by simp; omega) (by simp only [avctHdrLenSingle] at hsingle; simp; omega)
        (by simp; omega)
      simpa using hrest

/-! ## The header byte -/

/-- The header byte gives back its label, packet type and cr/ipid where each fits its field. -/
theorem avctBuildHdr_fields {label pktType crIpid : Nat} (hl : label < 16) (ht : pktType < 4)
    (hc : crIpid < 4) :
    (avctBuildHdr label pktType crIpid).toNat >>> 4 = label ∧
      (avctBuildHdr label pktType crIpid).toNat &&& 3 = crIpid ∧
      avctPktType (avctBuildHdr label pktType crIpid) = pktType := by
  have hall : ∀ l, l < 16 → ∀ t, t < 4 → ∀ c, c < 4 →
      (avctBuildHdr l t c).toNat >>> 4 = l ∧ (avctBuildHdr l t c).toNat &&& 3 = c ∧
        avctPktType (avctBuildHdr l t c) = t := by
    decide
  exact hall label hl pktType ht crIpid hc

/-! ## One packet into the reassembly buffer -/

/-- The reassembly buffer holds `got`, the message so far, ending at its offset, in storage of
`buf_len` bytes. -/
structure Assembling (rx : BtHdr) (got : List UInt8) : Prop where
  storage : rx.data.length = rxBufLen
  len : rx.len = got.length
  below : rx.len ≤ rx.offset
  holds : load (rx.offset - rx.len) rx.len rx.data = got

theorem getElem?_offset_of_payload {b : BtHdr} {h : UInt8} {rest : List UInt8}
    (hp : b.payload = h :: rest) : b.data[b.offset]? = some h := by
  have h0 := congrArg (·[0]?) hp
  simp only [BtHdr.payload, getElem?_load, List.getElem?_cons_zero, Nat.add_zero] at h0
  split at h0
  · exact h0
  · simp at h0

section Asmbl

variable {pBuf : BtHdr} {h : UInt8} {rest : List UInt8}

/-- The start packet as it is copied into the reassembly buffer: the storage up to the end of the
packet, its first header byte written over NOSP. -/
theorem assembling_start (hfit : pBuf.Fits) {nosp : UInt8} (hp : pBuf.payload = h :: nosp :: rest)
    (hsize : pBuf.offset + pBuf.len ≤ rxBufLen) :
    let copied := store 0 (load 0 (pBuf.offset + pBuf.len) pBuf.data)
      (osiMallocBuf btDefaultBufferSize).data
    copied.length = rxBufLen ∧ copied[pBuf.offset]? = some h ∧
      Assembling
        { pBuf with
          data := store (pBuf.offset + 1) [h] copied
          offset := pBuf.offset + pBuf.len
          len := pBuf.len - 1 } (h :: rest) := by
  intro copied
  have hroom : pBuf.offset + pBuf.len ≤ pBuf.data.length := hfit
  have hn : pBuf.len = rest.length + 2 := by
    rw [← BtHdr.length_payload hfit, hp]
    simp
  have hd0 : (load 0 (pBuf.offset + pBuf.len) pBuf.data).length = pBuf.offset + pBuf.len :=
    length_load_of_le (by omega)
  have hfresh : (osiMallocBuf btDefaultBufferSize).data.length = rxBufLen := by
    simp only [osiMallocBuf, List.length_replicate]
    rfl
  have hlen : copied.length = rxBufLen := by
    simp only [copied, length_store, hfresh]
  -- the copy holds the packet's storage below its end
  have hcopy : ∀ q k, q + k ≤ pBuf.offset + pBuf.len → load q k copied = load q k pBuf.data := by
    intro q k hqk
    have hin : 0 + (load 0 (pBuf.offset + pBuf.len) pBuf.data).length ≤
        (osiMallocBuf btDefaultBufferSize).data.length := by
      rw [hd0, hfresh]
      omega
    rw [load_store_inner (Nat.zero_le q) (by rw [hd0]; omega) hin, Nat.sub_zero, load_load hqk,
      Nat.zero_add]
  have hrest : load (pBuf.offset + 2) (pBuf.len - 2) copied = rest := by
    rw [hcopy _ _ (by omega), ← drop_load]
    change pBuf.payload.drop 2 = rest
    rw [hp, List.drop_succ_cons, List.drop_succ_cons, List.drop_zero]
  have hstart : pBuf.offset + pBuf.len - (pBuf.len - 1) = pBuf.offset + 1 := by omega
  have hsplit : pBuf.len - 1 = [h].length + (pBuf.len - 2) := by
    simp only [List.length_singleton]
    omega
  refine ⟨hlen, ?_, ⟨by simp [hlen], by simp [hn], by dsimp only; omega, ?_⟩⟩
  · have h1 := congrArg (·[0]?) (hcopy pBuf.offset 1 (by omega))
    simp only [getElem?_load, Nat.zero_lt_one, if_true, Nat.add_zero] at h1
    rw [h1, getElem?_offset_of_payload hp]
  · dsimp only
    rw [hstart, hsplit, load_add, load_store_self (by simp only [List.length_singleton]; omega),
      load_store_of_disjoint (Or.inr (by simp)), List.length_singleton, hrest]
    rfl

/-- A packet that passes the checks at the top of `avct_lcb_msg_asmbl` goes where its type
says. -/
theorem avctLcbMsgAsmbl_eq (pRxMsg : Option BtHdr) (hp : pBuf.payload = h :: rest)
    (hhdr : avctLcbPktTypeLen (avctPktType h) ≤ pBuf.len)
    (hsize : pBuf.offset + pBuf.len ≤ rxBufLen) :
    avctLcbMsgAsmbl pRxMsg pBuf =
      if avctPktType h = avctPktTypeSingle then some (none, some pBuf)
      else if avctPktType h = avctPktTypeStart then asmblStart pBuf
      else asmblLater pRxMsg pBuf (avctPktType h) := by
  have hpos : 1 ≤ pBuf.len := by
    by_contra h0
    have hnil : pBuf.payload = [] := by
      simp [BtHdr.payload, load, show pBuf.len = 0 by omega]
    simp [hnil] at hp
  have hchecks : ¬(pBuf.len < avctLcbPktTypeLen (avctPktType h) ∨
      btHdrSize + pBuf.offset + pBuf.len > btDefaultBufferSize) := by
    simp only [rxBufLen, btDefaultBufferSize, btHdrSize] at hsize ⊢
    omega
  unfold avctLcbMsgAsmbl
  rw [if_neg (by omega)]
  simp only [Option.bind_eq_bind, getElem?_offset_of_payload hp, Option.bind_some]
  rw [if_neg hchecks]
  rfl

theorem asmblStart_eq (hfit : pBuf.Fits) {nosp : UInt8} (hp : pBuf.payload = h :: nosp :: rest)
    (hsize : pBuf.offset + pBuf.len ≤ rxBufLen) :
    ∃ rx, asmblStart pBuf = some (some rx, none) ∧ Assembling rx (h :: rest) ∧
      rx.offset = pBuf.offset + pBuf.len := by
  obtain ⟨hlen, hcopied, hasm⟩ := assembling_start hfit hp hsize
  refine ⟨_, ?_, hasm, rfl⟩
  have hroom : pBuf.offset + pBuf.len ≤ pBuf.data.length := hfit
  have hfresh : 0 + (load 0 (pBuf.offset + pBuf.len) pBuf.data).length ≤
      (osiMallocBuf btDefaultBufferSize).data.length := by
    rw [length_load_of_le (by omega)]
    simp only [osiMallocBuf, List.length_replicate]
    simpa [rxBufLen] using hsize
  have hback : pBuf.offset + 1 + [h].length ≤ (store 0 (load 0 (pBuf.offset + pBuf.len)
      pBuf.data) (osiMallocBuf btDefaultBufferSize).data).length := by
    rw [hlen]
    have hn : pBuf.len = rest.length + 2 := by
      rw [← BtHdr.length_payload hfit, hp]
      simp
    simp only [List.length_singleton]
    omega
  unfold asmblStart
  simp only [rxBufLen, btDefaultBufferSize, btHdrSize] at hsize
  rw [if_neg (by simp only [btDefaultBufferSize, btHdrSize]; omega)]
  simp only [Option.bind_eq_bind, loadIn_of_le (show 0 + (pBuf.offset + pBuf.len) ≤
    pBuf.data.length by omega), Option.bind_some, storeIn_of_le hfresh, hcopied,
    storeIn_of_le hback]
  rfl

theorem asmblLater_none (t : Nat) : asmblLater none pBuf t = some (none, none) := rfl

/-- A continue or end packet whose data would pass the end of the reassembly buffer drops the
reassembly. -/
theorem asmblLater_overflow (rx : BtHdr) (t : Nat) (hfit : pBuf.Fits)
    (hp : pBuf.payload = h :: rest) (hover : rxBufLen < rx.offset + rest.length) :
    asmblLater (some rx) pBuf t = some (none, none) := by
  have hlen : pBuf.len = rest.length + 1 := by
    rw [← BtHdr.length_payload hfit, hp]
    simp
  have hgt : rx.offset + (pBuf.skip avctHdrLenCont).len > rxBufLen := by
    simp only [BtHdr.skip_len, avctHdrLenCont]
    omega
  unfold asmblLater
  dsimp only
  rw [if_pos hgt]
  rfl

/-- A continue or end packet that fits is copied after the message so far. -/
theorem asmblLater_copy {rx : BtHdr} {got : List UInt8} (t : Nat) (hasm : Assembling rx got)
    (hfit : pBuf.Fits) (hp : pBuf.payload = h :: rest)
    (hroom : rx.offset + rest.length ≤ rxBufLen) :
    asmblLater (some rx) pBuf t =
      let data := store rx.offset rest rx.data
      some (if t = avctPktTypeEnd then
          (none, some { rx with data, offset := rx.offset - rx.len, len := rx.len + rest.length })
        else (some { rx with data, offset := rx.offset + rest.length, len := rx.len + rest.length },
          none)) := by
  have hlen : pBuf.len = rest.length + 1 := by
    rw [← BtHdr.length_payload hfit, hp]
    simp
  have hbody : (pBuf.skip avctHdrLenCont).payload = rest := by
    rw [BtHdr.payload_skip, hp]
    rfl
  have hfit' : (pBuf.skip avctHdrLenCont).Fits := hfit.skip (by simp [avctHdrLenCont]; omega)
  have hle : ¬rx.offset + (pBuf.skip avctHdrLenCont).len > rxBufLen := by
    simp only [BtHdr.skip_len, avctHdrLenCont]
    omega
  have hskip : (pBuf.skip avctHdrLenCont).len = rest.length := by
    simp only [BtHdr.skip_len, avctHdrLenCont]
    omega
  unfold asmblLater
  dsimp only
  rw [if_neg hle]
  simp only [Option.bind_eq_bind, loadIn_of_le hfit']
  rw [show load (pBuf.skip avctHdrLenCont).offset (pBuf.skip avctHdrLenCont).len
      (pBuf.skip avctHdrLenCont).data = rest from hbody, Option.bind_some,
    storeIn_of_le (by rw [hasm.storage]; omega), Option.bind_some, hskip]
  split <;> rfl

/-- The message so far, one piece longer. -/
theorem Assembling.append {rx : BtHdr} {got : List UInt8} (hasm : Assembling rx got)
    (c : List UInt8) (hroom : rx.offset + c.length ≤ rxBufLen) :
    Assembling { rx with
      data := store rx.offset c rx.data
      offset := rx.offset + c.length
      len := rx.len + c.length } (got ++ c) := by
  have hbelow := hasm.below
  refine ⟨by simp [hasm.storage], by simp [hasm.len], by dsimp only; omega, ?_⟩
  dsimp only
  rw [show rx.offset + c.length - (rx.len + c.length) = rx.offset - rx.len by omega, load_add,
    load_store_of_disjoint (Or.inl (by omega)), hasm.holds, Nat.sub_add_cancel hbelow,
    load_store_self (by rw [hasm.storage]; omega)]

/-- At the end packet the offset goes back to the start of the message: the whole of it. -/
theorem Assembling.complete {rx : BtHdr} {got : List UInt8} (hasm : Assembling rx got)
    (c : List UInt8) (hroom : rx.offset + c.length ≤ rxBufLen) :
    let msg : BtHdr := { rx with
      data := store rx.offset c rx.data
      offset := rx.offset - rx.len
      len := rx.len + c.length }
    msg.payload = got ++ c ∧ msg.Fits := by
  intro msg
  have happ := (hasm.append c hroom).holds
  have hbelow := hasm.below
  have hstorage := hasm.storage
  simp only [show rx.offset + c.length - (rx.len + c.length) = rx.offset - rx.len by omega] at happ
  refine ⟨happ, ?_⟩
  simp only [msg, BtHdr.Fits, length_store]
  omega

end Asmbl

/-! ## Messages handed up -/

section MsgInd

variable {hasPid : Nat → Bool} {pRxMsg rx : Option BtHdr} {pBuf : BtHdr}

theorem avctLcbMsgInd_of_fragment
    (hasm : avctLcbMsgAsmbl pRxMsg { pBuf with layerSpecific := avctDataCtrl } = some (rx, none)) :
    avctLcbMsgInd hasPid pRxMsg pBuf = some ⟨rx, none, none⟩ := by
  simp only [avctLcbMsgInd, Option.bind_eq_bind, hasm, Option.bind_some]
  rfl

/-- A complete message whose header carries a label, a valid cr and a registered PID goes to that
PID's callback, past its three header bytes. -/
theorem avctLcbMsgInd_of_message {msg : BtHdr} {label pktType cr pid : Nat} {body : List UInt8}
    (hasm : avctLcbMsgAsmbl pRxMsg { pBuf with layerSpecific := avctDataCtrl } =
      some (rx, some msg)) (hfit : msg.Fits)
    (hp : msg.payload = avctBuildHdr label pktType cr :: beBytes 2 pid ++ body)
    (hl : label < 16) (ht : pktType < 4) (hcr : cr = avctCmd ∨ cr = avctRsp) (hpid : pid < 65536)
    (hhas : hasPid pid = true) :
    avctLcbMsgInd hasPid pRxMsg pBuf = some ⟨rx, some (label, cr, msg.skip avctHdrLenSingle), none⟩ := by
  have hcr4 : cr < 4 := by
    rcases hcr with rfl | rfl <;> decide
  obtain ⟨hlabel, hcrIpid, -⟩ := avctBuildHdr_fields hl ht hcr4
  have hvalid : ¬cr = avctCrIpidInvalid := by
    rcases hcr with rfl | rfl <;> decide
  have hlen : msg.len = body.length + 3 := by
    rw [← BtHdr.length_payload hfit, hp]
    simp only [List.length_cons, List.length_append, length_beBytes]
    omega
  have hroom : msg.offset + 1 + 2 ≤ msg.data.length := by
    have : msg.offset + msg.len ≤ msg.data.length := hfit
    omega
  have hpidBytes : load (msg.offset + 1) 2 msg.data = beBytes 2 pid := by
    have hdrop := congrArg (fun l => (l.drop 1).take 2) hp
    simp only [BtHdr.payload, drop_load, take_load] at hdrop
    rw [Nat.min_eq_left (by omega)] at hdrop
    simpa using hdrop
  have hpidVal : beValue (beBytes 2 pid) = pid := by
    rw [beValue_beBytes, Nat.mod_eq_of_lt (by simpa using hpid)]
  simp only [avctLcbMsgInd, Option.bind_eq_bind, hasm, Option.bind_some,
    getElem?_offset_of_payload hp, hlabel, hcrIpid, if_neg hvalid, loadIn_of_le hroom,
    hpidBytes, hpidVal, hhas, if_true]
  rfl

theorem msgIndRun_cons {r : MsgInd} {p : BtHdr} {ps : List BtHdr}
    (h : avctLcbMsgInd hasPid pRxMsg p = some r) :
    msgIndRun hasPid pRxMsg (p :: ps) = (msgIndRun hasPid r.pRxMsg ps).map
      fun rest => (r.delivered.map fun (l, c, b) => (l, c, b.payload)).toList ++ rest := by
  simp only [msgIndRun, Option.bind_eq_bind, h, Option.bind_some]
  cases msgIndRun hasPid r.pRxMsg ps <;> rfl

/-! ### A continue or end packet -/

variable {label cr pid pktType : Nat} {c : List UInt8}

/-- The facts every packet of a run is given: it lies in its storage and passes the size check
at the top of `avct_lcb_msg_asmbl`. -/
def Received (p : BtHdr) : Prop := p.Fits ∧ p.offset + p.len ≤ rxBufLen

instance (p : BtHdr) : Decidable (Received p) := inferInstanceAs (Decidable (_ ∧ _))

theorem received_layerSpecific {p : BtHdr} (hp : Received p) (ls : Nat) :
    Received { p with layerSpecific := ls } := hp

theorem avctLcbMsgAsmbl_of_later (pRxMsg : Option BtHdr) (hr : Received pBuf)
    (hp : pBuf.payload = avctBuildHdr label pktType cr :: c) (hl : label < 16)
    (hcr : cr < 4) (ht : pktType = avctPktTypeCont ∨ pktType = avctPktTypeEnd) :
    avctLcbMsgAsmbl pRxMsg pBuf = asmblLater pRxMsg pBuf pktType := by
  have ht4 : pktType < 4 := by
    rcases ht with rfl | rfl <;> decide
  obtain ⟨-, -, htype⟩ := avctBuildHdr_fields hl ht4 hcr
  have hlen : 1 ≤ pBuf.len := by
    rw [← BtHdr.length_payload hr.1, hp]
    simp
  have hhdr : avctLcbPktTypeLen pktType = 1 := by
    rcases ht with rfl | rfl <;> rfl
  rw [avctLcbMsgAsmbl_eq pRxMsg hp (by rw [htype, hhdr]; exact hlen) hr.2, htype,
    if_neg (by rcases ht with rfl | rfl <;> decide), if_neg (by rcases ht with rfl | rfl <;> decide)]

/-- With no reassembly in progress a continue or end packet is dropped. -/
theorem avctLcbMsgInd_orphan (hr : Received pBuf)
    (hp : pBuf.payload = avctBuildHdr label pktType cr :: c) (hl : label < 16)
    (hcr : cr < 4) (ht : pktType = avctPktTypeCont ∨ pktType = avctPktTypeEnd) :
    avctLcbMsgInd hasPid none pBuf = some ⟨none, none, none⟩ :=
  avctLcbMsgInd_of_fragment (by
    rw [avctLcbMsgAsmbl_of_later none (received_layerSpecific hr avctDataCtrl) hp hl hcr ht,
      asmblLater_none])

/-- A continue or end packet that would pass the end of the reassembly buffer drops it. -/
theorem avctLcbMsgInd_overflow {rx : BtHdr} (hr : Received pBuf)
    (hp : pBuf.payload = avctBuildHdr label pktType cr :: c) (hl : label < 16)
    (hcr : cr < 4) (ht : pktType = avctPktTypeCont ∨ pktType = avctPktTypeEnd)
    (hover : rxBufLen < rx.offset + c.length) :
    avctLcbMsgInd hasPid (some rx) pBuf = some ⟨none, none, none⟩ :=
  avctLcbMsgInd_of_fragment (by
    rw [avctLcbMsgAsmbl_of_later (some rx) (received_layerSpecific hr avctDataCtrl) hp hl hcr ht,
      asmblLater_overflow rx pktType (received_layerSpecific hr avctDataCtrl).1 hp hover])

/-- A continue packet that fits is appended to the message so far. -/
theorem avctLcbMsgInd_cont (hasPid : Nat → Bool) {rx : BtHdr} {got : List UInt8}
    (hasm : Assembling rx got)
    (hr : Received pBuf) (hp : pBuf.payload = avctBuildHdr label avctPktTypeCont cr :: c)
    (hl : label < 16) (hcr : cr < 4) (hroom : rx.offset + c.length ≤ rxBufLen) :
    ∃ rx', avctLcbMsgInd hasPid (some rx) pBuf = some ⟨some rx', none, none⟩ ∧
      Assembling rx' (got ++ c) ∧ rx'.offset = rx.offset + c.length :=
  ⟨_, avctLcbMsgInd_of_fragment (by
    rw [avctLcbMsgAsmbl_of_later (some rx) (received_layerSpecific hr avctDataCtrl) hp hl hcr
        (Or.inl rfl),
      asmblLater_copy _ hasm (received_layerSpecific hr avctDataCtrl).1 hp hroom]
    rfl), hasm.append c hroom, rfl⟩

/-- An end packet that fits completes the message, which goes to the PID's callback. -/
theorem avctLcbMsgInd_end {rx : BtHdr} {pre : List UInt8}
    (hasm : Assembling rx (avctBuildHdr label avctPktTypeStart cr :: beBytes 2 pid ++ pre))
    (hr : Received pBuf) (hp : pBuf.payload = avctBuildHdr label avctPktTypeEnd cr :: c)
    (hl : label < 16) (hcr : cr = avctCmd ∨ cr = avctRsp) (hpid : pid < 65536)
    (hhas : hasPid pid = true) (hroom : rx.offset + c.length ≤ rxBufLen) :
    ∃ msg : BtHdr, avctLcbMsgInd hasPid (some rx) pBuf = some ⟨none, some (label, cr, msg), none⟩ ∧
      msg.payload = pre ++ c := by
  have hcr4 : cr < 4 := by
    rcases hcr with rfl | rfl <;> decide
  obtain ⟨hpay, hfit⟩ := hasm.complete c hroom
  have hmsg := avctLcbMsgAsmbl_of_later (some rx) (received_layerSpecific hr avctDataCtrl)
    hp hl hcr4 (Or.inr rfl)
  rw [asmblLater_copy _ hasm (received_layerSpecific hr avctDataCtrl).1 hp hroom] at hmsg
  dsimp only at hmsg
  rw [if_pos rfl] at hmsg
  have hbody := hpay.trans (show avctBuildHdr label avctPktTypeStart cr :: beBytes 2 pid ++ pre ++ c =
    avctBuildHdr label avctPktTypeStart cr :: beBytes 2 pid ++ (pre ++ c) by simp)
  refine ⟨_, avctLcbMsgInd_of_message hmsg hfit hbody hl (show avctPktTypeStart < 4 by decide) hcr
    hpid hhas, ?_⟩
  rw [BtHdr.payload_skip, hpay]
  simp [avctHdrLenSingle]

end MsgInd

/-! ## A run of packets -/

section Run

variable {peerMtu : Nat} {hasPid : Nat → Bool} {label cr pid nosp : Nat}

/-- Continue and end packets with no reassembly in progress deliver nothing. -/
theorem msgIndRun_orphans (hl : label < 16) (hcr : cr < 4) :
    ∀ (s : List UInt8) (rs : List BtHdr),
      rs.map BtHdr.payload = (laterFrags peerMtu s).map (packetBytes label cr pid nosp) →
      (∀ r ∈ rs, Received r) → msgIndRun hasPid none rs = some [] := by
  intro s
  induction s using laterFrags.induct peerMtu with
  | case1 s hend =>
    intro rs hrs hrec
    rw [laterFrags, if_pos hend, List.map_cons, List.map_nil] at hrs
    obtain ⟨r, rs, rfl, hr, hnil⟩ := List.map_eq_cons_iff.mp hrs
    rw [List.map_eq_nil_iff.mp hnil]
    rw [packetBytes_end] at hr
    rw [msgIndRun_cons (avctLcbMsgInd_orphan (hrec r (by simp)) hr hl hcr (Or.inr rfl))]
    rfl
  | case2 s hcont ih =>
    intro rs hrs hrec
    rw [laterFrags, if_neg hcont, List.map_cons] at hrs
    obtain ⟨r, rs, rfl, hr, hrest⟩ := List.map_eq_cons_iff.mp hrs
    rw [packetBytes_cont] at hr
    rw [msgIndRun_cons (avctLcbMsgInd_orphan (hrec r (by simp)) hr hl hcr (Or.inl rfl)),
      ih rs hrest (fun r' hr' => hrec r' (by simp [hr']))]
    rfl

/-- The packets after a start packet, fed to a link with a reassembly in progress: the message
goes to the PID's callback where all of it fits the reassembly buffer, and nothing is delivered
where it does not. By induction along `laterFrags`, carrying `Assembling`. -/
theorem msgIndRun_laterFrags (hl : label < 16) (hcr : cr = avctCmd ∨ cr = avctRsp)
    (hpid : pid < 65536) (hhas : hasPid pid = true) :
    ∀ (s : List UInt8) (rs : List BtHdr) (rx : BtHdr) (pre : List UInt8),
      Assembling rx (avctBuildHdr label avctPktTypeStart cr :: beBytes 2 pid ++ pre) →
      rs.map BtHdr.payload = (laterFrags peerMtu s).map (packetBytes label cr pid nosp) →
      (∀ r ∈ rs, Received r) →
      msgIndRun hasPid (some rx) rs =
        some (if rx.offset + s.length ≤ rxBufLen then [(label, cr, pre ++ s)] else []) := by
  have hcr4 : cr < 4 := by
    rcases hcr with rfl | rfl <;> decide
  intro s
  induction s using laterFrags.induct peerMtu with
  | case1 s hend =>
    intro rs rx pre hasm hrs hrec
    rw [laterFrags, if_pos hend, List.map_cons, List.map_nil] at hrs
    obtain ⟨r, rs, rfl, hr, hnil⟩ := List.map_eq_cons_iff.mp hrs
    rw [List.map_eq_nil_iff.mp hnil]
    rw [packetBytes_end] at hr
    by_cases hroom : rx.offset + s.length ≤ rxBufLen
    · -- the end packet completes the message
      obtain ⟨msg, hind, hpay⟩ := avctLcbMsgInd_end hasm (hrec r (by simp)) hr hl
        hcr hpid hhas hroom
      rw [msgIndRun_cons hind, if_pos hroom, ← hpay]
      rfl
    · rw [msgIndRun_cons (avctLcbMsgInd_overflow (hrec r (by simp)) hr hl hcr4 (Or.inr rfl)
        (by omega)), if_neg hroom]
      rfl
  | case2 s hcont ih =>
    intro rs rx pre hasm hrs hrec
    rw [laterFrags, if_neg hcont, List.map_cons] at hrs
    obtain ⟨r, rs, rfl, hr, hrest⟩ := List.map_eq_cons_iff.mp hrs
    rw [packetBytes_cont] at hr
    have hrec' : ∀ r' ∈ rs, Received r' := fun r' hr' => hrec r' (by simp [hr'])
    have hsplit : (s.take (peerMtu - avctHdrLenCont)).length +
        (s.drop (peerMtu - avctHdrLenCont)).length = s.length := by
      simp only [List.length_take, List.length_drop]
      omega
    by_cases hroom : rx.offset + (s.take (peerMtu - avctHdrLenCont)).length ≤ rxBufLen
    · -- the continue packet goes after the message so far
      obtain ⟨rx', hind, hasm', hoff⟩ := avctLcbMsgInd_cont hasPid hasm
        (hrec r (by simp)) hr hl hcr4 hroom
      rw [msgIndRun_cons hind, List.append_assoc] at *
      rw [ih rs rx' _ hasm' hrest hrec', hoff, Nat.add_assoc, hsplit, List.append_assoc,
        List.take_append_drop]
      rfl
    · -- too long for the reassembly buffer: dropped, and the rest with it
      rw [msgIndRun_cons (avctLcbMsgInd_overflow (hrec r (by simp)) hr hl hcr4 (Or.inl rfl)
        (by omega)), msgIndRun_orphans hl hcr4 _ rs hrest hrec', if_neg (by omega)]
      rfl

/-- A single packet goes straight to the PID's callback. -/
theorem msgIndRun_single (pRxMsg : Option BtHdr) {r : BtHdr} {s : List UInt8}
    (hl : label < 16) (hcr : cr = avctCmd ∨ cr = avctRsp) (hpid : pid < 65536)
    (hhas : hasPid pid = true) (hr : Received r)
    (hp : r.payload = packetBytes label cr pid nosp (avctPktTypeSingle, s)) :
    msgIndRun hasPid pRxMsg [r] = some [(label, cr, s)] := by
  have hcr4 : cr < 4 := by
    rcases hcr with rfl | rfl <;> decide
  obtain ⟨-, -, htype⟩ := avctBuildHdr_fields hl (show avctPktTypeSingle < 4 by decide) hcr4
  rw [packetBytes_single, List.cons_append] at hp
  have hr' := received_layerSpecific hr avctDataCtrl
  have hlen : avctLcbPktTypeLen avctPktTypeSingle ≤ r.len := by
    rw [← BtHdr.length_payload hr.1, hp]
    simp [avctLcbPktTypeLen, avctPktTypeSingle, avctHdrLenSingle]
  have hp' : ({ r with layerSpecific := avctDataCtrl } : BtHdr).payload =
      avctBuildHdr label avctPktTypeSingle cr :: (beBytes 2 pid ++ s) := hp
  have hasm := avctLcbMsgAsmbl_eq pRxMsg hp' (by rw [htype]; exact hlen) hr'.2
  rw [htype, if_pos rfl] at hasm
  rw [msgIndRun_cons (avctLcbMsgInd_of_message hasm hr'.1 hp hl (by decide) hcr hpid hhas)]
  simp only [msgIndRun, Option.map_some, Option.toList_some, List.cons_append, List.nil_append]
  rw [BtHdr.payload_skip, show ({ r with layerSpecific := avctDataCtrl } : BtHdr).payload =
    r.payload from rfl, hp]
  simp [avctHdrLenSingle]

/-- A start packet and the packets after it: the message goes to the PID's callback where all of
it fits the reassembly buffer behind the start packet's offset, and nothing is delivered where it
does not. -/
theorem msgIndRun_start (pRxMsg : Option BtHdr) {r : BtHdr} {rs : List BtHdr}
    {pre s : List UInt8} (hl : label < 16) (hcr : cr = avctCmd ∨ cr = avctRsp)
    (hpid : pid < 65536) (hhas : hasPid pid = true) (hr : Received r)
    (hp : r.payload = packetBytes label cr pid nosp (avctPktTypeStart, pre))
    (hrs : rs.map BtHdr.payload = (laterFrags peerMtu s).map (packetBytes label cr pid nosp))
    (hrec : ∀ r' ∈ rs, Received r') :
    msgIndRun hasPid pRxMsg (r :: rs) =
      some (if r.offset + r.len + s.length ≤ rxBufLen then [(label, cr, pre ++ s)] else []) := by
  have hcr4 : cr < 4 := by
    rcases hcr with rfl | rfl <;> decide
  obtain ⟨-, -, htype⟩ := avctBuildHdr_fields hl (show avctPktTypeStart < 4 by decide) hcr4
  rw [packetBytes_start] at hp
  have hr' := received_layerSpecific hr avctDataCtrl
  have hp' : ({ r with layerSpecific := avctDataCtrl } : BtHdr).payload =
      avctBuildHdr label avctPktTypeStart cr :: UInt8.ofNat nosp :: (beBytes 2 pid ++ pre) := hp
  have hlen : avctLcbPktTypeLen avctPktTypeStart ≤ r.len := by
    rw [← BtHdr.length_payload hr.1, hp]
    simp [avctLcbPktTypeLen, avctPktTypeStart, avctHdrLenStart]
  have hasm := avctLcbMsgAsmbl_eq pRxMsg hp' (by rw [htype]; exact hlen) hr'.2
  rw [htype, if_neg (by decide), if_pos rfl] at hasm
  obtain ⟨rx, hstart, hrx, hoff⟩ := asmblStart_eq hr'.1 hp' hr'.2
  rw [hstart] at hasm
  rw [msgIndRun_cons (avctLcbMsgInd_of_fragment hasm)]
  rw [msgIndRun_laterFrags hl hcr hpid hhas s rs rx pre hrx hrs hrec, hoff]
  rfl

end Run

/-! ## Any packets: reads and writes stay within the buffers -/

/-- What `avct_lcb_msg_asmbl` keeps of a reassembly buffer: its storage, at least the three
header bytes of the message so far, below an offset inside the storage. -/
structure RxBufOk (rx : BtHdr) : Prop where
  storage : rx.data.length = rxBufLen
  hdr : avctHdrLenSingle ≤ rx.len
  below : rx.len ≤ rx.offset
  within : rx.offset ≤ rxBufLen

/-- A reassembly buffer holds what lies below its offset. -/
theorem RxBufOk.assembling {rx : BtHdr} (h : RxBufOk rx) :
    Assembling rx (load (rx.offset - rx.len) rx.len rx.data) :=
  ⟨h.storage, (length_load_of_le (by have := h.below; have := h.within; rw [h.storage]; omega)).symm,
    h.below, rfl⟩

section Safety

variable {pRxMsg : Option BtHdr} {pBuf : BtHdr}

theorem payload_cons_of_len {b : BtHdr} (hfit : b.Fits) (hlen : 1 ≤ b.len) :
    ∃ h rest, b.payload = h :: rest := by
  cases hp : b.payload with
  | nil =>
    have := BtHdr.length_payload hfit
    rw [hp] at this
    simp at this
    omega
  | cons h rest => exact ⟨h, rest, rfl⟩

theorem asmblStart_safe (hfit : pBuf.Fits) (hhdr : avctHdrLenStart ≤ pBuf.len)
    (hsize : pBuf.offset + pBuf.len ≤ rxBufLen) :
    ∃ rx, asmblStart pBuf = some (some rx, none) ∧ RxBufOk rx := by
  obtain ⟨h, rest, hp⟩ := payload_cons_of_len hfit (by simp only [avctHdrLenStart] at hhdr; omega)
  have hn : pBuf.len = rest.length + 1 := by
    rw [← BtHdr.length_payload hfit, hp]
    simp
  obtain ⟨nosp, rest, rfl⟩ : ∃ nosp rest', rest = nosp :: rest' := by
    cases rest with
    | nil => simp only [avctHdrLenStart, List.length_nil] at hhdr hn; omega
    | cons nosp rest' => exact ⟨nosp, rest', rfl⟩
  obtain ⟨rx, hstart, hasm, hoff⟩ := asmblStart_eq hfit hp hsize
  refine ⟨rx, hstart, hasm.storage, ?_, hasm.below, by omega⟩
  rw [hasm.len]
  simp only [List.length_cons, avctHdrLenStart, avctHdrLenSingle] at hhdr hn ⊢
  omega

theorem asmblLater_safe (t : Nat) (hrx : ∀ b ∈ pRxMsg, RxBufOk b) (hfit : pBuf.Fits)
    (hlen : 1 ≤ pBuf.len) :
    ∃ rx ret, asmblLater pRxMsg pBuf t = some (rx, ret) ∧ (∀ b ∈ rx, RxBufOk b) ∧
      ∀ msg ∈ ret, msg.offset + avctHdrLenSingle ≤ msg.data.length := by
  cases pRxMsg with
  | none => exact ⟨none, none, asmblLater_none t, by simp, by simp⟩
  | some rx =>
    have hok := hrx rx rfl
    obtain ⟨h, c, hp⟩ := payload_cons_of_len hfit hlen
    by_cases hroom : rx.offset + c.length ≤ rxBufLen
    · rw [asmblLater_copy t hok.assembling hfit hp hroom]
      have hbelow := hok.below
      have hhdr := hok.hdr
      split
      · -- an end packet completes the message below the offset
        refine ⟨_, _, rfl, by simp, ?_⟩
        simp only [Option.mem_def, Option.some.injEq, forall_eq', length_store, hok.storage]
        have := hok.within
        simp only [avctHdrLenSingle] at hhdr ⊢
        omega
      · refine ⟨_, _, rfl, ?_, by simp⟩
        simp only [Option.mem_def, Option.some.injEq, forall_eq']
        exact ⟨by simp [hok.storage], by simp only [avctHdrLenSingle] at hhdr ⊢; omega,
          by dsimp only; omega, hroom⟩
    · exact ⟨none, none, asmblLater_overflow rx t hfit hp (by omega), by simp, by simp⟩

/-- For any packet that lies in its storage and any reassembly buffer the function keeps, the
reassembly returns, keeping such a buffer, and a message it hands back has its three header bytes
in its storage. -/
theorem avctLcbMsgAsmbl_safe (hrx : ∀ b ∈ pRxMsg, RxBufOk b) (hfit : pBuf.Fits) :
    ∃ rx ret, avctLcbMsgAsmbl pRxMsg pBuf = some (rx, ret) ∧ (∀ b ∈ rx, RxBufOk b) ∧
      ∀ msg ∈ ret, msg.offset + avctHdrLenSingle ≤ msg.data.length := by
  by_cases hempty : pBuf.len < 1
  · exact ⟨pRxMsg, none, by simp [avctLcbMsgAsmbl, hempty], hrx, by simp⟩
  obtain ⟨h, c, hp⟩ := payload_cons_of_len hfit (by omega)
  by_cases hchecks : pBuf.len < avctLcbPktTypeLen (avctPktType h) ∨
      btHdrSize + pBuf.offset + pBuf.len > btDefaultBufferSize
  · -- dropped by the checks at the top: nothing changes
    refine ⟨pRxMsg, none, ?_, hrx, by simp⟩
    unfold avctLcbMsgAsmbl
    rw [if_neg hempty]
    simp only [Option.bind_eq_bind, getElem?_offset_of_payload hp, Option.bind_some]
    rw [if_pos hchecks]
    rfl
  have hsize : pBuf.offset + pBuf.len ≤ rxBufLen := by
    simp only [rxBufLen, btHdrSize, btDefaultBufferSize] at hchecks ⊢
    omega
  have hhdr : avctLcbPktTypeLen (avctPktType h) ≤ pBuf.len := by omega
  rw [avctLcbMsgAsmbl_eq pRxMsg hp hhdr hsize]
  split_ifs with hsingle hstart
  · -- a single packet is handed back as it is
    refine ⟨none, some pBuf, rfl, by simp, ?_⟩
    simp only [Option.mem_def, Option.some.injEq, forall_eq']
    rw [hsingle] at hhdr
    have : pBuf.offset + pBuf.len ≤ pBuf.data.length := hfit
    simp only [avctLcbPktTypeLen, avctPktTypeSingle, avctHdrLenSingle] at hhdr ⊢
    simp at hhdr
    omega
  · rw [hstart] at hhdr
    obtain ⟨rx, hrun, hok⟩ := asmblStart_safe hfit hhdr hsize
    exact ⟨some rx, none, hrun, by simpa using hok, by simp⟩
  · exact asmblLater_safe _ hrx hfit (by omega)

theorem avctLcbMsgInd_safe (hasPid : Nat → Bool) (hrx : ∀ b ∈ pRxMsg, RxBufOk b)
    (hfit : pBuf.Fits) :
    ∃ r, avctLcbMsgInd hasPid pRxMsg pBuf = some r ∧ ∀ b ∈ r.pRxMsg, RxBufOk b := by
  have hfit' : ({ pBuf with layerSpecific := avctDataCtrl } : BtHdr).Fits := hfit
  obtain ⟨rx, ret, hasm, hok, hmsg⟩ := avctLcbMsgAsmbl_safe hrx hfit'
  cases ret with
  | none => exact ⟨_, avctLcbMsgInd_of_fragment hasm, hok⟩
  | some msg =>
    -- the header byte and the PID lie in the message's storage
    have hroom := hmsg msg rfl
    simp only [avctHdrLenSingle] at hroom
    obtain ⟨b, hb⟩ : ∃ b, msg.data[msg.offset]? = some b :=
      ⟨msg.data[msg.offset], List.getElem?_eq_getElem (by omega)⟩
    simp only [avctLcbMsgInd, Option.bind_eq_bind, hasm, Option.bind_some, hb,
      loadIn_of_le (show msg.offset + 1 + 2 ≤ msg.data.length by omega)]
    split_ifs <;> exact ⟨_, rfl, hok⟩

/-- Packets that each lie in their storage, fed in any order to a link whose reassembly buffer is
one the function keeps: no read or write leaves the packets' or the reassembly buffer's storage. -/
theorem msgIndRun_isSome (hasPid : Nat → Bool) :
    ∀ (rs : List BtHdr) (pRxMsg : Option BtHdr), (∀ b ∈ pRxMsg, RxBufOk b) →
      (∀ r ∈ rs, r.Fits) → (msgIndRun hasPid pRxMsg rs).isSome
  | [], _, _, _ => rfl
  | r :: rs, pRxMsg, hrx, hfit => by
    obtain ⟨ind, hind, hok⟩ := avctLcbMsgInd_safe hasPid hrx (hfit r (by simp))
    rw [msgIndRun_cons hind, Option.isSome_map]
    exact msgIndRun_isSome hasPid rs ind.pRxMsg hok (fun r' hr' => hfit r' (by simp [hr']))

end Safety

/-! ## Sending and receiving a message -/

/-- Every packet the sender builds passes the receiver's size check, where the message's buffer
does: a fragment sits in a buffer of `peer_mtu + L2CAP_MIN_OFFSET` bytes, and the last piece in
the message's own buffer, which ends where the message did. By induction on the fuel; the message's
buffer has room for the next header, or is longer than the next packet holds. -/
theorem sendLoop_received {peerMtu : Nat} (hu : 5 ≤ peerMtu)
    (hbuf : peerMtu + l2capMinOffset ≤ rxBufLen) (m : UlMsg) (nosp : Nat) :
    ∀ (fuel pktType : Nat) (msg : BtHdr), msg.Fits → msg.offset + msg.len ≤ rxBufLen →
      pktType < 4 →
      (avctLcbPktTypeLen pktType ≤ msg.offset ∨
        (msg.len : Int) > (peerMtu : Int) - avctLcbPktTypeLen pktType) →
      ∀ p ∈ sendLoop peerMtu m nosp fuel msg.len pktType msg, Received p
  | 0, _, _, _, _, _, _ => by simp [sendLoop]
  | fuel + 1, pktType, msg, hfit, hend, ht, hroom => by
    have hk : avctLcbPktTypeLen pktType ≤ 4 := by
      rcases (by omega : pktType = 0 ∨ pktType = 1 ∨ pktType = 2 ∨ pktType = 3) with h | h | h | h <;>
        subst h <;> decide
    have hk1 : 1 ≤ avctLcbPktTypeLen pktType := by
      rcases (by omega : pktType = 0 ∨ pktType = 1 ∨ pktType = 2 ∨ pktType = 3) with h | h | h | h <;>
        subst h <;> decide
    by_cases hzero : msg.len = 0
    · rw [hzero, sendLoop_zero]
      simp
    by_cases hlong : (msg.len : Int) > (peerMtu : Int) - avctLcbPktTypeLen pktType
    · -- a fragment in a buffer of its own, then the rest of the message
      rw [sendLoop_cut hzero hlong]
      intro p hp
      rcases List.mem_cons.mp hp with rfl | hp
      · refine ⟨prependHdr_fits (by simp [fragmentBuf]) (fragmentBuf_fits (by omega)), ?_⟩
        simp only [prependHdr, fragmentBuf]
        simp only [l2capMinOffset] at hbuf ⊢
        omega
      · have hnext : nextPktType peerMtu (msg.len - (peerMtu - avctLcbPktTypeLen pktType)) < 4 := by
          unfold nextPktType
          split <;> decide
        have hrest := sendLoop_received hu hbuf m nosp fuel _ (msg.skip (peerMtu - avctLcbPktTypeLen pktType))
          (hfit.skip (by omega)) (by simp; omega) hnext
        have h1 : avctLcbPktTypeLen
            (nextPktType peerMtu (msg.len - (peerMtu - avctLcbPktTypeLen pktType))) = 1 := by
          unfold nextPktType
          split <;> rfl
        refine hrest (Or.inl ?_) p (by simpa using hp)
        rw [h1, BtHdr.skip_offset]
        omega
    · -- the last piece in the message's own buffer
      rw [sendLoop_last hzero hlong, Nat.sub_self, sendLoop_zero]
      have hoff : avctLcbPktTypeLen pktType ≤ msg.offset := hroom.resolve_right hlong
      intro p hp
      rcases List.mem_singleton.mp hp with rfl
      refine ⟨prependHdr_fits hoff hfit, ?_⟩
      simp only [prependHdr]
      omega

theorem received_avctLcbSendMsg {peerMtu : Nat} (hu : 5 ≤ peerMtu)
    (hbuf : peerMtu + l2capMinOffset ≤ rxBufLen) (m : UlMsg) (hfit : m.pBuf.Fits)
    (hoff : avctHdrLenSingle ≤ m.pBuf.offset) (hend : m.pBuf.offset + m.pBuf.len ≤ rxBufLen) :
    ∀ p ∈ avctLcbSendMsg peerMtu m, Received p := by
  unfold avctLcbSendMsg
  dsimp only
  split_ifs with hsingle
  · exact sendLoop_received hu hbuf m 0 _ _ _ hfit hend (by decide) (Or.inl hoff)
  · exact sendLoop_received hu hbuf m _ _ _ _ hfit hend (by decide)
      (Or.inr (by simp only [avctHdrLenSingle] at hsingle; change _ > (peerMtu : Int) - 4; omega))

/-- The packets `avct_lcb_send_msg` sends, fed in buffers of their own to the peer's
`avct_lcb_msg_ind`: a single packet is delivered, and a fragmented message is delivered exactly
when it fits the reassembly buffer behind the start packet's offset. -/
theorem msgIndRun_avctLcbSendMsg {peerMtu : Nat} (hu : 5 ≤ peerMtu) {m : UlMsg}
    (hfit : m.pBuf.Fits) (hoff : avctHdrLenSingle ≤ m.pBuf.offset) (hpos : 0 < m.pBuf.len)
    (hl : m.label < 16) (hcr : m.cr = avctCmd ∨ m.cr = avctRsp) (hpid : m.pid < 65536)
    {hasPid : Nat → Bool} (pRxMsg : Option BtHdr) {rs : List BtHdr} (hhas : hasPid m.pid = true)
    (hrs : rs.map BtHdr.payload = (avctLcbSendMsg peerMtu m).map BtHdr.payload)
    (hrec : ∀ r ∈ rs, Received r) :
    msgIndRun hasPid pRxMsg rs =
      some (if m.pBuf.len ≤ peerMtu - avctHdrLenSingle ∨
          ∀ r ∈ rs.head?, r.offset + avctHdrLenStart + m.pBuf.len ≤ rxBufLen
        then [(m.label, m.cr, m.pBuf.payload)] else []) := by
  have hlen := BtHdr.length_payload hfit
  rw [avctLcbSendMsg_payloads hu m hfit hoff hpos] at hrs
  by_cases hsingle : m.pBuf.len ≤ peerMtu - avctHdrLenSingle
  · -- one single packet
    rw [avctFrags_of_le (by omega), List.map_cons, List.map_nil] at hrs
    obtain ⟨r, rs, rfl, hr, hnil⟩ := List.map_eq_cons_iff.mp hrs
    rw [List.map_eq_nil_iff.mp hnil, if_pos (Or.inl hsingle)]
    exact msgIndRun_single pRxMsg hl hcr hpid hhas (hrec r (by simp)) hr
  · -- a start packet, then the later packets
    rw [avctFrags_of_lt (by omega), List.map_cons] at hrs
    obtain ⟨r, rs, rfl, hr, hrest⟩ := List.map_eq_cons_iff.mp hrs
    have hrlen : r.len = peerMtu := by
      rw [← BtHdr.length_payload (hrec r (by simp)).1, hr, packetBytes_start]
      simp only [List.length_cons, List.length_append, length_beBytes, List.length_take]
      simp only [avctHdrLenStart, avctHdrLenSingle] at hsingle ⊢
      omega
    rw [msgIndRun_start pRxMsg hl hcr hpid hhas (hrec r (by simp)) hr hrest
      (fun r' hr' => hrec r' (by simp [hr'])), List.take_append_drop]
    have hdrop : (m.pBuf.payload.drop (peerMtu - avctHdrLenStart)).length =
        m.pBuf.len - (peerMtu - 4) := by
      simp [hlen, avctHdrLenStart]
    simp only [List.head?_cons, Option.mem_def, Option.some.injEq, forall_eq', hrlen, hdrop]
    -- the start packet's `peer_mtu` bytes and the rest: its offset, the header and the message
    congr 1
    simp only [avctHdrLenStart, avctHdrLenSingle] at hsingle ⊢
    exact propext ⟨fun h => Or.inr (by omega), fun h => by omega⟩

theorem avct_fragment_round_trip (peerMtu : Nat) (hu : 48 ≤ peerMtu) (m : UlMsg)
    (hfit : m.pBuf.Fits) (hoff : avctHdrLenSingle ≤ m.pBuf.offset) (hpos : 0 < m.pBuf.len)
    (hmax : m.pBuf.len ≤ btDefaultBufferSize - btHdrSize - avctHdrLenSingle)
    (hl : m.label < 16) (hcr : m.cr = avctCmd ∨ m.cr = avctRsp) (hpid : m.pid < 65536) :
    let sent := avctLcbSendMsg peerMtu m
    let frags := avctFrags peerMtu m.pBuf.payload
    (sent.map BtHdr.payload = frags.map (packetBytes m.label m.cr m.pid sent.length) ∧
      sent.length < 256 ∧ (∀ p ∈ sent, p.payload.length ≤ peerMtu) ∧
      (m.pBuf.len ≤ peerMtu - avctHdrLenSingle → frags.map (·.1) = [avctPktTypeSingle]) ∧
      (peerMtu - avctHdrLenSingle < m.pBuf.len → ∃ k,
        frags.map (·.1) = avctPktTypeStart :: List.replicate k avctPktTypeCont ++ [avctPktTypeEnd])) ∧
    (∀ (hasPid : Nat → Bool) (pRxMsg : Option BtHdr) (rs : List BtHdr), hasPid m.pid = true →
      rs.map BtHdr.payload = sent.map BtHdr.payload → (∀ r ∈ rs, Received r) →
      msgIndRun hasPid pRxMsg rs =
        some (if m.pBuf.len ≤ peerMtu - avctHdrLenSingle ∨
            ∀ r ∈ rs.head?, r.offset + avctHdrLenStart + m.pBuf.len ≤ rxBufLen
          then [(m.label, m.cr, m.pBuf.payload)] else [])) ∧
    (∀ (hasPid : Nat → Bool) (rs : List BtHdr), (∀ r ∈ rs, r.Fits) →
      (msgIndRun hasPid none rs).isSome) := by
  dsimp only
  have hlen := BtHdr.length_payload hfit
  have hsent := avctLcbSendMsg_payloads (show 5 ≤ peerMtu by omega) m hfit hoff hpos
  have hcount : (avctLcbSendMsg peerMtu m).length = (avctFrags peerMtu m.pBuf.payload).length := by
    simpa using congrArg List.length hsent
  have hmax' : m.pBuf.payload.length ≤ 4101 := by
    simp only [btDefaultBufferSize, btHdrSize, avctHdrLenSingle] at hmax
    omega
  -- NOSP is the number of packets, single packets having none
  have hnosp : (avctLcbSendMsg peerMtu m).map BtHdr.payload =
      (avctFrags peerMtu m.pBuf.payload).map
        (packetBytes m.label m.cr m.pid (avctLcbSendMsg peerMtu m).length) := by
    rw [hsent, hcount]
    by_cases hsingle : m.pBuf.payload.length ≤ peerMtu - avctHdrLenSingle
    · simp only [avctFrags_of_le hsingle, List.map_cons, List.map_nil, packetBytes_single]
    · rw [← hlen, avctNosp_eq_length (by omega) (by omega) (by omega)
        (length_avctFrags_lt hu hmax')]
  refine ⟨⟨hnosp, hcount ▸ length_avctFrags_lt hu hmax', ?_, ?_, ?_⟩, ?_,
    fun hasPid rs hrs => msgIndRun_isSome hasPid rs none (by simp) hrs⟩
  · -- every packet at most the MTU
    intro p hp
    have hmem : p.payload ∈ (avctLcbSendMsg peerMtu m).map BtHdr.payload := List.mem_map_of_mem hp
    rw [hnosp, List.mem_map] at hmem
    obtain ⟨f, hf, hfp⟩ := hmem
    rw [← hfp]
    exact length_packetBytes_le (by omega) _ _ _ _ _ f hf
  · intro hsingle
    rw [avctFrags_of_le (by omega)]
    rfl
  · intro hlong
    obtain ⟨k, hk⟩ : ∃ k, (laterFrags peerMtu (m.pBuf.payload.drop (peerMtu - avctHdrLenStart))).map
        (·.1) = List.replicate k avctPktTypeCont ++ [avctPktTypeEnd] := laterFrags_types _
    exact ⟨k, by rw [avctFrags_of_lt (by omega), List.map_cons, hk]; rfl⟩
  · intro hasPid pRxMsg rs hhas hrs hrec
    exact msgIndRun_avctLcbSendMsg (by omega) hfit hoff hpos hl hcr hpid pRxMsg hhas hrs hrec

/-- A 100-byte message over a peer MTU of 48 goes out as a start, a continue and an end packet,
and the peer's reassembly delivers it whole. -/
theorem avct_fragment_round_trip_threePackets :
    (avctFrags 48 (List.replicate 100 7)).map (·.1) =
        [avctPktTypeStart, avctPktTypeCont, avctPktTypeEnd] ∧
      msgIndRun (fun pid => pid == 0x110E) none
        (avctLcbSendMsg 48 ⟨⟨0, 100, 3, 0, List.replicate 103 7⟩, 0, avctCmd, 0x110E⟩) =
          some [(0, avctCmd, List.replicate 100 7)] := by
  have hfit : (⟨0, 100, 3, 0, List.replicate 103 7⟩ : BtHdr).Fits := by
    show 3 + 100 ≤ (List.replicate 103 (7 : UInt8)).length
    exact Nat.le_of_eq List.length_replicate.symm
  have hrec := received_avctLcbSendMsg (show 5 ≤ 48 by decide)
    (show 48 + l2capMinOffset ≤ rxBufLen by decide)
    ⟨⟨0, 100, 3, 0, List.replicate 103 7⟩, 0, avctCmd, 0x110E⟩ hfit (by decide) (by decide)
  refine ⟨by decide +kernel, ?_⟩
  rw [(avct_fragment_round_trip 48 (by decide) ⟨⟨0, 100, 3, 0, List.replicate 103 7⟩, 0, avctCmd,
    0x110E⟩ hfit (by decide) (by decide) (by decide) (by decide) (Or.inl rfl) (by decide)).2.1
    (fun pid => pid == 0x110E) none _ rfl rfl hrec]
  decide

/-- A message of 4101 bytes, the most a default buffer holds behind a single packet's header, sent
over a peer MTU of 48: the peer's reassembly drops it at the end packet. -/
theorem avct_max_message_dropped :
    msgIndRun (fun pid => pid == 0x110E) none
      (avctLcbSendMsg 48 ⟨⟨0, 4101, 3, 0, List.replicate 4104 0⟩, 0, avctCmd, 0x110E⟩) =
        some [] := by
  have hfit : (⟨0, 4101, 3, 0, List.replicate 4104 0⟩ : BtHdr).Fits := by
    show 3 + 4101 ≤ (List.replicate 4104 (0 : UInt8)).length
    exact Nat.le_of_eq List.length_replicate.symm
  have hrec := received_avctLcbSendMsg (show 5 ≤ 48 by decide)
    (show 48 + l2capMinOffset ≤ rxBufLen by decide)
    ⟨⟨0, 4101, 3, 0, List.replicate 4104 0⟩, 0, avctCmd, 0x110E⟩ hfit (by decide) (by decide)
  -- the start packet goes out in a fragment buffer at offset L2CAP_MIN_OFFSET
  have hhead : (avctLcbSendMsg 48 ⟨⟨0, 4101, 3, 0, List.replicate 4104 0⟩, 0, avctCmd, 0x110E⟩).head?.map
      BtHdr.offset = some l2capMinOffset := by
    rw [avctLcbSendMsg, if_neg (by decide), sendLoop_cut (by decide) (by decide)]
    rfl
  rw [msgIndRun_avctLcbSendMsg (by decide) hfit (by decide) (by decide) (by decide) (Or.inl rfl)
    (by decide) none rfl rfl hrec]
  cases h : (avctLcbSendMsg 48 ⟨⟨0, 4101, 3, 0, List.replicate 4104 0⟩, 0, avctCmd, 0x110E⟩).head? with
  | none =>
    rw [h, Option.map_none] at hhead
    cases hhead
  | some r =>
    rw [h, Option.map_some, Option.some.injEq] at hhead
    rw [if_neg]
    simp only [Option.mem_def, Option.some.injEq, forall_eq', hhead, not_or]
    decide

end BluetoothStack.Avct
