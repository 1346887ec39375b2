import BluetoothStack.Stack.BtHdr

/-!
# Data of the L2CAP flow-control and retransmission layer

The constants of stack/include/l2cdefs.h and stack/include/l2c_api.h that l2c_fcr.cc uses, the
control blocks `tL2C_FCRB` and `tL2C_CCB` of l2c_int.h restricted to the fields the modelled
functions read or write, and the two helpers every frame goes through: the frame check sequence
`l2c_fcr_updcrc` with its table `crctab`, and `l2c_fcr_clone_buf`.

Timers are left out: starting, stopping or cancelling an alarm changes none of the data below.
-/

namespace BluetoothStack.L2cap

open Bytes

/-! ## Constants -/

/-- `L2CAP_PKT_OVERHEAD`: length and channel id of the basic header. -/
def l2capPktOverhead : Nat := 4
/-- `L2CAP_FCR_OVERHEAD`: the control word. -/
def l2capFcrOverhead : Nat := 2
/-- `L2CAP_FCS_LEN`. -/
def l2capFcsLen : Nat := 2
/-- `L2CAP_SDU_LEN_OVERHEAD`. -/
def l2capSduLenOverhead : Nat := 2
/-- `L2CAP_SDU_LEN_OFFSET`. -/
def l2capSduLenOffset : Nat := 2
/-- `L2CAP_EXT_CONTROL_OVERHEAD`. -/
def l2capExtControlOverhead : Nat := 4
/-- `L2CAP_MAX_HEADER_FCS`: length, channel, extended control, SDU length and FCS. -/
def l2capMaxHeaderFcs : Nat :=
  l2capPktOverhead + l2capExtControlOverhead + l2capSduLenOverhead + l2capFcsLen
/-- `L2CAP_MIN_OFFSET`: the headroom a buffer handed to L2CAP must leave. -/
def l2capMinOffset : Nat := 13
/-- `HCI_DATA_PREAMBLE_SIZE`. -/
def hciDataPreambleSize : Nat := 4
/-- `L2CAP_CMD_BUF_SIZE`, that is `BT_SMALL_BUFFER_SIZE`. -/
def l2capCmdBufSize : Nat := 660
/-- `L2CAP_NON_FLUSHABLE_PKT`. -/
def l2capNonFlushablePkt : Nat := 0x0002
/-- `BT_DEFAULT_BUFFER_SIZE` (bt_target.h). -/
def btDefaultBufferSize : Nat := 4096 + 16
/-- `OBX_BUF_MIN_OFFSET`: headroom of a reassembled SDU. -/
def obxBufMinOffset : Nat := 4
/-- `L2CAP_BASE_APPL_CID`: the first dynamically allocated channel id. -/
def l2capBaseApplCid : Nat := 0x0040
/-- `L2CAP_LCC_SDU_LENGTH`: the SDU length field of the first K-frame of an SDU. -/
def l2capLccSduLength : Nat := 2
/-- `L2CAP_LCC_OFFSET`: headroom of the first K-frame, for the headers and the SDU length. -/
def l2capLccOffset : Nat := l2capMinOffset + l2capLccSduLength
/-- `L2CAP_CREDIT_BASED_MIN_MPS` (l2c_int.h): the least MPS a credit-based connection accepts. -/
def l2capCreditBasedMinMps : Nat := 64
/-- `L2CAP_LE_MAX_MPS` (l2c_api.h). -/
def l2capLeMaxMps : Nat := 65533

/-- `L2CAP_FCR_BASIC_MODE`. -/
def l2capFcrBasicMode : Nat := 0x00
/-- `L2CAP_FCR_ERTM_MODE`. -/
def l2capFcrErtmMode : Nat := 0x03
/-- `L2C_FCR_RETX_ALL_PKTS`: the `tx_seq` argument that asks for every unacked frame. -/
def l2cFcrRetxAllPkts : Nat := 0xFF

/-- `L2CAP_FCR_UNSEG_SDU`. -/
def l2capFcrUnsegSdu : Nat := 0x0000
/-- `L2CAP_FCR_START_SDU`. -/
def l2capFcrStartSdu : Nat := 0x4000
/-- `L2CAP_FCR_END_SDU`. -/
def l2capFcrEndSdu : Nat := 0x8000
/-- `L2CAP_FCR_CONT_SDU`. -/
def l2capFcrContSdu : Nat := 0xc000

/-- `L2CAP_FCR_SUP_RR`. -/
def l2capFcrSupRr : Nat := 0x0000
/-- `L2CAP_FCR_SUP_REJ`. -/
def l2capFcrSupRej : Nat := 0x0001
/-- `L2CAP_FCR_SUP_RNR`. -/
def l2capFcrSupRnr : Nat := 0x0002
/-- `L2CAP_FCR_SUP_SREJ`. -/
def l2capFcrSupSrej : Nat := 0x0003

/-- `L2CAP_FCR_SAR_BITS`. -/
def l2capFcrSarBits : Nat := 0xC000
/-- `L2CAP_FCR_S_FRAME_BIT`. -/
def l2capFcrSFrameBit : Nat := 0x0001
/-- `L2CAP_FCR_REQ_SEQ_BITS`. -/
def l2capFcrReqSeqBits : Nat := 0x3F00
/-- `L2CAP_FCR_REQ_SEQ_BITS_SHIFT`. -/
def l2capFcrReqSeqBitsShift : Nat := 8
/-- `L2CAP_FCR_TX_SEQ_BITS`. -/
def l2capFcrTxSeqBits : Nat := 0x007E
/-- `L2CAP_FCR_TX_SEQ_BITS_SHIFT`. -/
def l2capFcrTxSeqBitsShift : Nat := 1
/-- `L2CAP_FCR_F_BIT`. -/
def l2capFcrFBit : Nat := 0x0080
/-- `L2CAP_FCR_P_BIT`. -/
def l2capFcrPBit : Nat := 0x0010
/-- `L2CAP_FCR_SEG_BITS`. -/
def l2capFcrSegBits : Nat := 0xC000
/-- `L2CAP_FCR_SUP_SHIFT`. -/
def l2capFcrSupShift : Nat := 2
/-- `L2CAP_FCR_SUP_BITS`. -/
def l2capFcrSupBits : Nat := 0x000C
/-- `L2CAP_FCR_INIT_CRC`. -/
def l2capFcrInitCrc : Nat := 0
/-- `L2CAP_FCR_SEQ_MODULO`: sequence numbers are taken modulo 64 by masking with it. -/
def l2capFcrSeqModulo : Nat := 0x3F

/-! ## Control blocks -/

/-- `tL2CAP_FCR_OPTS`: the negotiated mode, transmit window and retransmission limit. The
timeouts and the MPS of the structure are read only by configuration code. -/
structure FcrOpts where
  mode : Nat
  txWinSz : Nat
  maxTransmit : Nat
  deriving DecidableEq, Repr

/-- `tL2C_FCRB`: the sequence variables, flags, the SDU being reassembled and the three
queues of a flow-controlled channel. -/
structure Fcrb where
  nextTxSeq : Nat
  lastRxAck : Nat
  nextSeqExpected : Nat
  lastAckSent : Nat
  numTries : Nat
  maxHeldAcks : Nat
  remoteBusy : Bool
  rejSent : Bool
  srejSent : Bool
  waitAck : Bool
  rejAfterSrej : Bool
  sendFRsp : Bool
  rxSduLen : Nat
  pRxSdu : Option BtHdr
  waitingForAckQ : List BtHdr
  srejRcvHoldQ : List BtHdr
  retransQ : List BtHdr
  deriving DecidableEq, Repr

/-- The control block `l2c_fcr_cleanup` leaves behind with its `memset` and a newly allocated
channel starts from (its queues created empty). -/
def Fcrb.zero : Fcrb :=
  ⟨0, 0, 0, 0, 0, 0, false, false, false, false, false, false, 0, none, [], [], []⟩

/-- `tL2CAP_LE_CFG_INFO`: the MTU and MPS of one side of an LE credit-based channel, with the
defaults of its declaration. The credits are read only by `l2cu_get_next_buffer_to_send`. -/
structure LeCfgInfo where
  mtu : Nat := 100
  mps : Nat := 100
  deriving DecidableEq, Repr

/-- `tL2C_CCB`, with `chnl_state == CST_OPEN` as `isOpen`, whether the registration has a
`pL2CA_TxComplete_Cb` as `txCompleteCb`, and the link queue `p_lcb->link_xmit_data_q` that
supervisory frames are put on. The last five fields are those of an LE credit-based channel:
both sides' configuration and the SDU being reassembled. -/
structure Ccb where
  inUse : Bool
  isOpen : Bool
  txCompleteCb : Bool
  localCid : Nat
  remoteCid : Nat
  peerCfgFcr : FcrOpts
  ourCfgFcr : FcrOpts
  txMps : Nat
  maxRxMtu : Nat
  xmitHoldQ : List BtHdr
  linkXmitDataQ : List BtHdr
  fcrb : Fcrb
  localConnCfg : LeCfgInfo
  peerConnCfg : LeCfgInfo
  isFirstSeg : Bool
  bleSdu : Option BtHdr
  bleSduLength : Nat
  deriving DecidableEq, Repr

/-! ## Frame check sequence -/

/-- `crctab`, the lookup table of `l2c_fcr_updcrc`. -/
def crctab : List Nat := [
  0x0000, 0xc0c1, 0xc181, 0x0140, 0xc301, 0x03c0, 0x0280, 0xc241, 0xc601,
  0x06c0, 0x0780, 0xc741, 0x0500, 0xc5c1, 0xc481, 0x0440, 0xcc01, 0x0cc0,
  0x0d80, 0xcd41, 0x0f00, 0xcfc1, 0xce81, 0x0e40, 0x0a00, 0xcac1, 0xcb81,
  0x0b40, 0xc901, 0x09c0, 0x0880, 0xc841, 0xd801, 0x18c0, 0x1980, 0xd941,
  0x1b00, 0xdbc1, 0xda81, 0x1a40, 0x1e00, 0xdec1, 0xdf81, 0x1f40, 0xdd01,
  0x1dc0, 0x1c80, 0xdc41, 0x1400, 0xd4c1, 0xd581, 0x1540, 0xd701, 0x17c0,
  0x1680, 0xd641, 0xd201, 0x12c0, 0x1380, 0xd341, 0x1100, 0xd1c1, 0xd081,
  0x1040, 0xf001, 0x30c0, 0x3180, 0xf141, 0x3300, 0xf3c1, 0xf281, 0x3240,
  0x3600, 0xf6c1, 0xf781, 0x3740, 0xf501, 0x35c0, 0x3480, 0xf441, 0x3c00,
  0xfcc1, 0xfd81, 0x3d40, 0xff01, 0x3fc0, 0x3e80, 0xfe41, 0xfa01, 0x3ac0,
  0x3b80, 0xfb41, 0x3900, 0xf9c1, 0xf881, 0x3840, 0x2800, 0xe8c1, 0xe981,
  0x2940, 0xeb01, 0x2bc0, 0x2a80, 0xea41, 0xee01, 0x2ec0, 0x2f80, 0xef41,
  0x2d00, 0xedc1, 0xec81, 0x2c40, 0xe401, 0x24c0, 0x2580, 0xe541, 0x2700,
  0xe7c1, 0xe681, 0x2640, 0x2200, 0xe2c1, 0xe381, 0x2340, 0xe101, 0x21c0,
  0x2080, 0xe041, 0xa001, 0x60c0, 0x6180, 0xa141, 0x6300, 0xa3c1, 0xa281,
  0x6240, 0x6600, 0xa6c1, 0xa781, 0x6740, 0xa501, 0x65c0, 0x6480, 0xa441,
  0x6c00, 0xacc1, 0xad81, 0x6d40, 0xaf01, 0x6fc0, 0x6e80, 0xae41, 0xaa01,
  0x6ac0, 0x6b80, 0xab41, 0x6900, 0xa9c1, 0xa881, 0x6840, 0x7800, 0xb8c1,
  0xb981, 0x7940, 0xbb01, 0x7bc0, 0x7a80, 0xba41, 0xbe01, 0x7ec0, 0x7f80,
  0xbf41, 0x7d00, 0xbdc1, 0xbc81, 0x7c40, 0xb401, 0x74c0, 0x7580, 0xb541,
  0x7700, 0xb7c1, 0xb681, 0x7640, 0x7200, 0xb2c1, 0xb381, 0x7340, 0xb101,
  0x71c0, 0x7080, 0xb041, 0x5000, 0x90c1, 0x9181, 0x5140, 0x9301, 0x53c0,
  0x5280, 0x9241, 0x9601, 0x56c0, 0x5780, 0x9741, 0x5500, 0x95c1, 0x9481,
  0x5440, 0x9c01, 0x5cc0, 0x5d80, 0x9d41, 0x5f00, 0x9fc1, 0x9e81, 0x5e40,
  0x5a00, 0x9ac1, 0x9b81, 0x5b40, 0x9901, 0x59c0, 0x5880, 0x9841, 0x8801,
  0x48c0, 0x4980, 0x8941, 0x4b00, 0x8bc1, 0x8a81, 0x4a40, 0x4e00, 0x8ec1,
  0x8f81, 0x4f40, 0x8d01, 0x4dc0, 0x4c80, 0x8c41, 0x4400, 0x84c1, 0x8581,
  0x4540, 0x8701, 0x47c0, 0x4680, 0x8641, 0x8201, 0x42c0, 0x4380, 0x8341,
  0x4100, 0x81c1, 0x8081, 0x4040]

/-- `l2c_fcr_updcrc`: the table-driven CRC over `icp`, starting from `icrc`. -/
def l2cFcrUpdcrc (icrc : Nat) (icp : List UInt8) : Nat :=
  icp.foldl (fun crc b => ((crc >>> 8) &&& 0xff) ^^^ crctab.getD ((crc &&& 0xff) ^^^ b.toNat) 0)
    icrc

/-- `l2c_fcr_tx_get_fcs`: the CRC of the frame bytes `[offset, offset + len)`. -/
def l2cFcrTxGetFcs (b : BtHdr) : Nat := l2cFcrUpdcrc l2capFcrInitCrc b.payload

/-! ## Buffer cloning -/

/-- `l2c_fcr_clone_buf`: a new buffer holding `no_of_bytes` bytes of `p_buf`'s message at
`new_offset`, with room for an FCS after them. The size is computed in a `uint16_t`, hence the
reduction modulo `2 ^ 16`; the header fields other than `offset` and `len` are left as
`osi_malloc` gives them. -/
def l2cFcrCloneBuf (pBuf : BtHdr) (newOffset noOfBytes : Nat) : BtHdr :=
  let bufSize := (noOfBytes + btHdrSize + newOffset + l2capFcsLen) % 65536
  let pBuf2 := osiMallocBuf bufSize
  { pBuf2 with
    offset := newOffset
    len := noOfBytes
    data := store newOffset (load pBuf.offset noOfBytes pBuf.data) pBuf2.data }

@[simp] theorem l2cFcrCloneBuf_offset (pBuf : BtHdr) (newOffset noOfBytes : Nat) :
    (l2cFcrCloneBuf pBuf newOffset noOfBytes).offset = newOffset := rfl

@[simp] theorem l2cFcrCloneBuf_len (pBuf : BtHdr) (newOffset noOfBytes : Nat) :
    (l2cFcrCloneBuf pBuf newOffset noOfBytes).len = noOfBytes := rfl

/-- The clone's storage is what `osi_malloc` gives for the size after its reduction to 16 bits. -/
theorem length_l2cFcrCloneBuf_data_eq (pBuf : BtHdr) (newOffset noOfBytes : Nat) :
    (l2cFcrCloneBuf pBuf newOffset noOfBytes).data.length =
      (noOfBytes + btHdrSize + newOffset + l2capFcsLen) % 65536 - btHdrSize := by
  simp only [l2cFcrCloneBuf, osiMallocBuf, length_store, List.length_replicate]

/-- Where its size does not wrap, the clone has room for `new_offset`, the copied bytes and
an FCS. -/
theorem length_l2cFcrCloneBuf_data {pBuf : BtHdr} {newOffset noOfBytes : Nat}
    (hsz : noOfBytes + btHdrSize + newOffset + l2capFcsLen < 65536) :
    (l2cFcrCloneBuf pBuf newOffset noOfBytes).data.length = newOffset + noOfBytes + l2capFcsLen := by
  simp only [l2cFcrCloneBuf, osiMallocBuf, length_store, List.length_replicate]
  simp only [btHdrSize, l2capFcsLen] at hsz ⊢
  omega

/-- Where its size does not wrap, the clone holds at `new_offset + i` the bytes the original
holds at `offset + i`. -/
theorem load_l2cFcrCloneBuf {pBuf : BtHdr} {newOffset noOfBytes i k : Nat}
    (hik : i + k ≤ noOfBytes) (hsrc : pBuf.offset + i + k ≤ pBuf.data.length)
    (hsz : noOfBytes + btHdrSize + newOffset + l2capFcsLen < 65536) :
    load (newOffset + i) k (l2cFcrCloneBuf pBuf newOffset noOfBytes).data =
      load (pBuf.offset + i) k pBuf.data := by
  have hcopy := length_load pBuf.offset noOfBytes pBuf.data
  have hroom : (osiMallocBuf ((noOfBytes + btHdrSize + newOffset + l2capFcsLen) % 65536)).data.length
      = newOffset + noOfBytes + l2capFcsLen := by
    simp only [osiMallocBuf, List.length_replicate]
    simp only [btHdrSize, l2capFcsLen] at hsz ⊢
    omega
  simp only [l2cFcrCloneBuf]
  rw [load_store_inner (by omega) (by omega) (by omega), Nat.add_sub_cancel_left,
    load_load (by omega)]

end BluetoothStack.L2cap
