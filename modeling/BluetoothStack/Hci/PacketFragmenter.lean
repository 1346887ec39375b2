import Mathlib
import BluetoothStack.Stack.BtHdr

/-!
# The HCI packet fragmenter

`fragment_and_dispatch` and `reassemble_and_dispatch` (hci/src/packet_fragmenter.cc) stand
between the stack and the HCI transport. Going down, an ACL packet longer than the controller's
buffers is cut in place into fragments of at most `max_data_size` data bytes, each behind its own
4-byte ACL header. Coming up, fragments are gathered by connection handle in `partial_packets`
until the L2CAP length the start fragment announced is reached.

The model keeps the transport's buffers as `BtHdr` values. A fragment handed to
`callbacks->fragmented` is the buffer as it stands at the call; the fragmenter then overwrites
the last four bytes of that fragment with the next header, so the callee must take the bytes
before it returns, and the model's snapshot is what it takes. `partial_packets` is a finite map,
a function from handles to an optional buffer. A step of the reassembler that would read or
write outside a buffer, or trip its `CHECK`, has no result (`none`).
-/

namespace BluetoothStack.Hci

open Bytes

/-! ## Constants of the HCI layer -/

/-- `HCI_ACL_PREAMBLE_SIZE`: the handle word and the data length. -/
def hciAclPreambleSize : Nat := 4

/-- `L2CAP_HEADER_PDU_LEN_SIZE`. -/
def l2capHeaderPduLenSize : Nat := 2

/-- `L2CAP_HEADER_CID_SIZE`. -/
def l2capHeaderCidSize : Nat := 2

/-- `L2CAP_HEADER_SIZE`. -/
def l2capHeaderSize : Nat := l2capHeaderPduLenSize + l2capHeaderCidSize

/-- `HANDLE_MASK`. -/
def handleMask : Nat := 0x0FFF

/-- `START_PACKET_BOUNDARY`. -/
def startPacketBoundary : Nat := 2

/-- `POINT_TO_POINT`. -/
def pointToPoint : Nat := 0

/-- `BT_DEFAULT_BUFFER_SIZE` (bt_target.h). -/
def btDefaultBufferSize : Nat := 4096 + 16

/-- `MSG_EVT_MASK`. -/
def msgEvtMask : Nat := 0xFF00

/-- `MSG_SUB_EVT_MASK`. -/
def msgSubEvtMask : Nat := 0x00FF

/-- `MSG_HC_TO_STACK_HCI_ACL`. -/
def msgHcToStackHciAcl : Nat := 0x1100

/-- `MSG_HC_TO_STACK_HCI_SCO`. -/
def msgHcToStackHciSco : Nat := 0x1200

/-- `MSG_HC_TO_STACK_HCI_ISO`. -/
def msgHcToStackHciIso : Nat := 0x1700

/-- `MSG_STACK_TO_HC_HCI_ACL`. -/
def msgStackToHcHciAcl : Nat := 0x2100

/-- `MSG_STACK_TO_HC_HCI_ISO`. -/
def msgStackToHcHciIso : Nat := 0x2d00

/-- `LOCAL_BR_EDR_CONTROLLER_ID`. -/
def localBrEdrControllerId : Nat := 0

/-- `BT_EVT_TO_BTU_L2C_SEG_XMIT`. -/
def btEvtToBtuL2cSegXmit : Nat := 0x1900

/-- `APPLY_CONTINUATION_FLAG(handle)`: packet boundary flag `01`. -/
def applyContinuationFlag (handle : Nat) : Nat := (handle &&& 0xCFFF) ||| 0x1000

/-- `GET_BOUNDARY_FLAG(handle)`. -/
def getBoundaryFlag (handle : Nat) : Nat := (handle >>> 12) &&& 0x0003

/-- `GET_BROADCAST_FLAG(handle)`. -/
def getBroadcastFlag (handle : Nat) : Nat := (handle >>> 14) &&& 0x0003

/-- `check_uint16_overflow(a, b)`: whether `a + b` passes `UINT16_MAX`. -/
def checkUint16Overflow (a b : Nat) : Bool := 65535 - a < b

/-- `HCI_ISO_PREAMBLE_SIZE`. -/
def hciIsoPreambleSize : Nat := 4

/-- `HCI_ISO_BF_FIRST_FRAGMENTED_PACKET`. -/
def hciIsoBfFirstFragmentedPacket : Nat := 0

/-- `HCI_ISO_BF_CONTINUATION_FRAGMENT_PACKET`. -/
def hciIsoBfContinuationFragmentPacket : Nat := 1

/-- `HCI_ISO_BF_COMPLETE_PACKET`. -/
def hciIsoBfCompletePacket : Nat := 2

/-- `HCI_ISO_BF_LAST_FRAGMENT_PACKET`. -/
def hciIsoBfLastFragmentPacket : Nat := 3

/-- `HCI_ISO_HEADER_TIMESTAMP_SIZE`. -/
def hciIsoHeaderTimestampSize : Nat := 4

/-- `HCI_ISO_HEADER_ISO_LEN_SIZE`. -/
def hciIsoHeaderIsoLenSize : Nat := 2

/-- `HCI_ISO_HEADER_PACKET_SEQ_SIZE`. -/
def hciIsoHeaderPacketSeqSize : Nat := 2

/-- `HCI_ISO_HEADER_LEN_WITHOUT_TS`. -/
def hciIsoHeaderLenWithoutTs : Nat := hciIsoHeaderIsoLenSize + hciIsoHeaderPacketSeqSize

/-- `HCI_ISO_HEADER_LEN_WITH_TS`. -/
def hciIsoHeaderLenWithTs : Nat := hciIsoHeaderLenWithoutTs + hciIsoHeaderTimestampSize

/-- `HCI_ISO_SDU_LENGTH_MASK`. -/
def hciIsoSduLengthMask : Nat := 0x0FFF

/-- `BT_ISO_HDR_CONTAINS_TS` (bt_types.h). -/
def btIsoHdrContainsTs : Nat := 0x0001

/-- `BT_ISO_HDR_OFFSET_POINTS_DATA` (bt_types.h). -/
def btIsoHdrOffsetPointsData : Nat := 0x0002

/-- `HCI_ISO_SET_CONTINUATION_FLAG(handle)`. -/
def hciIsoSetContinuationFlag (handle : Nat) : Nat := (handle &&& 0x4FFF) ||| (0x0001 <<< 12)

/-- `HCI_ISO_SET_COMPLETE_FLAG(handle)`. -/
def hciIsoSetCompleteFlag (handle : Nat) : Nat := (handle &&& 0x4FFF) ||| (0x0002 <<< 12)

/-- `HCI_ISO_SET_END_FRAG_FLAG(handle)`. -/
def hciIsoSetEndFragFlag (handle : Nat) : Nat := (handle &&& 0x4FFF) ||| (0x0003 <<< 12)

/-- `HCI_ISO_SET_TIMESTAMP_FLAG(handle)`. -/
def hciIsoSetTimestampFlag (handle : Nat) : Nat := (handle &&& 0x3FFF) ||| (0x0001 <<< 14)

/-- `HCI_ISO_GET_TS_FLAG(handle)`. -/
def hciIsoGetTsFlag (handle : Nat) : Nat := (handle >>> 14) &&& 0x0001

/-! ## Sending: `fragment_and_dispatch` -/

/-- What the fragmenter hands to the HCI layer's callbacks: `fragmented(packet, send_complete)`
and `transmit_finished(packet, all_fragments_sent)`. -/
inductive FragOut where
  | fragmented (packet : BtHdr) (sendTransmitFinished : Bool)
  | transmitFinished (packet : BtHdr) (allFragmentsSent : Bool)
  deriving DecidableEq, Repr

/-- The controller's buffer sizes the fragmenter asks for: `get_acl_data_size_classic`,
`get_acl_data_size_ble` and `get_iso_data_size`. -/
structure Controller where
  aclDataSizeClassic : Nat
  aclDataSizeBle : Nat
  isoDataSize : Nat
  deriving DecidableEq, Repr

/-- The `while (remaining_length > max_packet_size)` loop of `fragment_and_dispatch_acl` and the
final `fragmented(packet, true)`. Each round writes `max_data_size` as the length of the
fragment at `offset`, hands the fragment on, moves `offset` on by `max_data_size` and writes the
next header over the last four bytes of the fragment just sent. `layer_specific`, when set,
counts down the fragments L2CAP allows, and at zero the buffer goes back to L2CAP. The loop runs
at most `fuel` rounds. -/
def fragmentAclLoop (maxDataSize continuationHandle : Nat) :
    Nat → BtHdr → Nat → Option (List FragOut)
  | 0, _, _ => none
  | fuel + 1, packet, remainingLength =>
    let maxPacketSize := (maxDataSize + hciAclPreambleSize) % 65536
    if remainingLength > maxPacketSize then
      let data := store (packet.offset + 2) (uint16ToStream maxDataSize) packet.data
      let sent := { packet with data, len := maxPacketSize }
      let offset := (packet.offset + maxDataSize) % 65536
      let remainingLength := remainingLength - maxDataSize
      let data := store offset (uint16ToStream continuationHandle) data
      let data := store (offset + 2) (uint16ToStream (remainingLength - hciAclPreambleSize)) data
      let packet := { packet with data, offset, len := remainingLength }
      if packet.layerSpecific ≠ 0 then
        let packet := { packet with layerSpecific := packet.layerSpecific - 1 }
        if packet.layerSpecific = 0 then
          some [.fragmented sent false,
            .transmitFinished { packet with event := btEvtToBtuL2cSegXmit } false]
        else (fragmentAclLoop maxDataSize continuationHandle fuel packet remainingLength).map
          (.fragmented sent false :: ·)
      else (fragmentAclLoop maxDataSize continuationHandle fuel packet remainingLength).map
        (.fragmented sent false :: ·)
    else some [.fragmented packet true]

/-- `fragment_and_dispatch_acl`: the buffer size by the controller the sub-event names, the
continuation handle from the packet's own handle word, then the loop. The loop ends after at
most `len` rounds when `max_data_size` is positive. -/
def fragmentAndDispatchAcl (controller : Controller) (packet : BtHdr) : Option (List FragOut) :=
  let maxDataSize :=
    if packet.event &&& msgSubEvtMask = localBrEdrControllerId then controller.aclDataSizeClassic
    else controller.aclDataSizeBle
  let continuationHandle := applyContinuationFlag (streamToUint16 packet.data packet.offset)
  fragmentAclLoop maxDataSize continuationHandle (packet.len + 1) packet packet.len

/-- The loop of `fragment_and_dispatch_iso`: as the ACL loop, except that the next header
carries the end flag when what is left fits in one fragment and the continuation flag
otherwise, and that `layer_specific` is left alone. -/
def fragmentIsoLoop (maxDataSize handle : Nat) : Nat → BtHdr → Nat → Option (List FragOut)
  | 0, _, _ => none
  | fuel + 1, packet, remainingLength =>
    let maxPacketSize := (maxDataSize + hciIsoPreambleSize) % 65536
    if remainingLength > maxPacketSize then
      let data := store (packet.offset + 2) (uint16ToStream maxDataSize) packet.data
      let sent := { packet with data, len := maxPacketSize }
      let offset := (packet.offset + maxDataSize) % 65536
      let remainingLength := remainingLength - maxDataSize
      let flagged :=
        if remainingLength > maxPacketSize then hciIsoSetContinuationFlag (handle &&& handleMask)
        else hciIsoSetEndFragFlag (handle &&& handleMask)
      let data := store offset (uint16ToStream flagged) data
      let data := store (offset + 2) (uint16ToStream (remainingLength - hciIsoPreambleSize)) data
      let packet := { packet with data, offset, len := remainingLength }
      (fragmentIsoLoop maxDataSize handle fuel packet remainingLength).map
        (.fragmented sent false :: ·)
    else some [.fragmented packet true]

/-- `fragment_and_dispatch_iso`: the time stamp flag goes into the handle when `layer_specific`
says the packet has one; a packet that fits goes down whole with the complete flag, a longer one
through the loop. -/
def fragmentAndDispatchIso (controller : Controller) (packet : BtHdr) : Option (List FragOut) :=
  let maxDataSize := controller.isoDataSize
  let maxPacketSize := (maxDataSize + hciIsoPreambleSize) % 65536
  let handle := streamToUint16 packet.data packet.offset
  let handle :=
    if packet.layerSpecific &&& btIsoHdrContainsTs ≠ 0 then hciIsoSetTimestampFlag handle
    else handle
  if packet.len ≤ maxPacketSize then
    let data := store packet.offset (uint16ToStream (hciIsoSetCompleteFlag handle)) packet.data
    some [.fragmented { packet with data } true]
  else fragmentIsoLoop maxDataSize handle (packet.len + 1) packet packet.len

/-- `fragment_and_dispatch`: by the event of the packet. -/
def fragmentAndDispatch (controller : Controller) (packet : BtHdr) : Option (List FragOut) :=
  let event := packet.event &&& msgEvtMask
  if event = msgStackToHcHciAcl then fragmentAndDispatchAcl controller packet
  else if event = msgHcToStackHciSco then some [.fragmented packet true]
  else if event = msgStackToHcHciIso then fragmentAndDispatchIso controller packet
  else some [.fragmented packet true]

/-! ## Receiving: `reassemble_and_dispatch` -/

/-- `WrapPacketAndCopy` (main/shim/hci_layer.cc): a packet read from the controller, as the HCI
layer hands it to `reassemble_and_dispatch`, in storage of its own length at offset `0`. -/
def wrapPacketAndCopy (event : Nat) (data : List UInt8) : BtHdr :=
  { event, len := data.length, offset := 0, layerSpecific := 0, data }

/-- The fragmenter's state: `partial_packets` and `partial_iso_packets`, by connection
handle. -/
structure Fragmenter where
  partialPackets : Nat → Option BtHdr
  partialIsoPackets : Nat → Option BtHdr

/-- `cleanup`, and the state before the first packet. -/
def Fragmenter.empty : Fragmenter := ⟨fun _ => none, fun _ => none⟩

/-- `partial_packets[handle] = p`, or `erase(handle)` for `none`. -/
def Fragmenter.setPartial (s : Fragmenter) (handle : Nat) (p : Option BtHdr) : Fragmenter :=
  { s with partialPackets := Function.update s.partialPackets handle p }

/-- `partial_iso_packets[handle] = p`, or `erase(handle)` for `none`. -/
def Fragmenter.setPartialIso (s : Fragmenter) (handle : Nat) (p : Option BtHdr) : Fragmenter :=
  { s with partialIsoPackets := Function.update s.partialIsoPackets handle p }

/-- What the ACL and the ISO start branches both do to open a partial packet of `fullLength`
bytes: `alloc(full_length + sizeof(BT_HDR))`, the `memcpy` of the packet to the start of the new
storage, and the full length less the preamble written over the length after the handle. This is
the storage of the new partial packet. -/
def allocPartial (packet : BtHdr) (fullLength : Nat) : Option (List UInt8) := do
  let buf := osiMallocBuf (fullLength + btHdrSize)
  let src ← loadIn 0 packet.len packet.data
  let data ← storeIn 0 src buf.data
  storeIn 2 (uint16ToStream (fullLength - hciAclPreambleSize)) data

/-- A start fragment of `reassemble_and_dispatch`, once the handle is masked: an old partial
packet for the handle is dropped; a packet that holds the whole L2CAP PDU goes up at once; a
longer PDU gets a buffer of `full_length` bytes that starts with the fragment, its ACL length
rewritten to the whole PDU's. -/
def reassembleStart (s : Fragmenter) (packet : BtHdr) (handle aclLength : Nat) :
    Option (Option BtHdr × Fragmenter) :=
  if aclLength < 2 then some (none, s)
  else do
    let l2capLength := leValue (← loadIn 4 2 packet.data)
    let s := s.setPartial handle none
    if aclLength < l2capHeaderPduLenSize then some (none, s)
    else
      let fullLength := (l2capLength + l2capHeaderSize + hciAclPreambleSize) % 65536
      if checkUint16Overflow l2capLength (l2capHeaderSize + hciAclPreambleSize) ∨
          fullLength + btHdrSize > btDefaultBufferSize then some (none, s)
      else if fullLength ≤ packet.len then some (some packet, s)
      else
        let data ← allocPartial packet fullLength
        let partialPacket : BtHdr :=
          { osiMallocBuf (fullLength + btHdrSize) with
            event := packet.event, len := fullLength, offset := packet.len, data }
        some (none, s.setPartial handle (some partialPacket))

/-- A continuation fragment of `reassemble_and_dispatch`: without a partial packet for the
handle it is dropped; otherwise its data goes after what the partial packet holds, cut to what
is still missing, and a partial packet that is full goes up with its offset back at `0`. The
comparison and the truncated length are `int` arithmetic on the `uint16_t` fields. -/
def reassembleContinuation (s : Fragmenter) (packet : BtHdr) (handle : Nat) :
    Option (Option BtHdr × Fragmenter) :=
  match s.partialPackets handle with
  | none => some (none, s)
  | some partialPacket => do
    let packet := { packet with offset := hciAclPreambleSize }
    let projectedOffset :=
      (partialPacket.offset + (packet.len - hciAclPreambleSize)) % 65536
    let (packet, projectedOffset) :=
      if (packet.len : Int) - packet.offset > (partialPacket.len : Int) - partialPacket.offset then
        ({ packet with
            len := (((partialPacket.len : Int) - partialPacket.offset + packet.offset) % 65536).toNat },
          partialPacket.len)
      else (packet, projectedOffset)
    let src ← loadIn packet.offset (packet.len - packet.offset) packet.data
    let data ← storeIn partialPacket.offset src partialPacket.data
    let partialPacket := { partialPacket with data, offset := projectedOffset }
    if partialPacket.offset = partialPacket.len then
      some (some { partialPacket with offset := 0 }, s.setPartial handle none)
    else some (none, s.setPartial handle (some partialPacket))

/-- The ACL branch of `reassemble_and_dispatch`: the handle word and the ACL length from the
first four bytes, the `CHECK` that the length is the packet's, broadcast packets dropped, then a
start or a continuation fragment by the packet boundary flag. -/
def reassembleAcl (s : Fragmenter) (packet : BtHdr) : Option (Option BtHdr × Fragmenter) := do
  let hdr ← loadIn 0 hciAclPreambleSize packet.data
  let handle := leValue (hdr.take 2)
  let aclLength := leValue (hdr.drop 2)
  if aclLength + hciAclPreambleSize ≠ packet.len then none
  else if getBroadcastFlag handle ≠ pointToPoint then some (none, s)
  else if getBoundaryFlag handle = startPacketBoundary then
    reassembleStart s packet (handle &&& handleMask) aclLength
  else reassembleContinuation s packet (handle &&& handleMask)

/-- A first or complete ISO packet of `reassemble_and_dispatch_iso`, once the handle is masked:
an old partial packet for the handle is dropped; the header is four bytes longer with a time
stamp; the SDU length field gives the whole packet's length. A complete packet goes up in a
buffer of its own with its offset at the data; a first fragment is kept. The flag
`BT_ISO_HDR_OFFSET_POINTS_DATA` the code sets for a complete packet is set on the incoming
buffer, which is then freed, and never reaches the copy that goes up. `alloc` never fails. -/
def reassembleIsoStart (s : Fragmenter) (packet : BtHdr) (handle isoLength boundaryFlag
    tsFlag : Nat) : Option (Option BtHdr × Fragmenter) := do
  let s := s.setPartialIso handle none
  let (packet, isoHdrLen) :=
    if tsFlag ≠ 0 then
      ({ packet with layerSpecific := packet.layerSpecific ||| btIsoHdrContainsTs },
        hciIsoHeaderLenWithTs)
    else (packet, hciIsoHeaderLenWithoutTs)
  if isoLength < isoHdrLen then some (none, s)
  else
    -- the SDU length is the last field of the ISO header, after the packet sequence number
    let isoSduLength := leValue (← loadIn (hciIsoPreambleSize + isoHdrLen - 2) 2 packet.data)
    if isoSduLength = 0 then some (none, s)
    else
      let isoSduLength := isoSduLength &&& hciIsoSduLengthMask
      let isoFullLen := (isoSduLength + isoHdrLen + hciIsoPreambleSize) % 65536
      if isoFullLen + btHdrSize > btDefaultBufferSize then some (none, s)
      else if (boundaryFlag = hciIsoBfCompletePacket ∧ isoFullLen ≠ packet.len) ∨
          (boundaryFlag = hciIsoBfFirstFragmentedPacket ∧ isoFullLen ≤ packet.len) then
        some (none, s)
      else
        -- `HCI_ISO_PREAMBLE_SIZE` is `HCI_ACL_PREAMBLE_SIZE`, so the copy is the ACL one
        let data ← allocPartial packet isoFullLen
        let partialPacket : BtHdr :=
          { osiMallocBuf (isoFullLen + btHdrSize) with
            event := packet.event, len := isoFullLen, layerSpecific := packet.layerSpecific, data }
        if boundaryFlag = hciIsoBfFirstFragmentedPacket then
          some (none, s.setPartialIso handle (some { partialPacket with offset := packet.len }))
        else some (some { partialPacket with offset := isoHdrLen + hciIsoPreambleSize }, s)

/-- A continuation or last ISO fragment: without a partial packet it is dropped; one that would
pass the expected length drops the partial packet too; a last fragment that does not fill the
packet exactly drops both; a filled packet goes up with its offset at the data. -/
def reassembleIsoContinuation (s : Fragmenter) (packet : BtHdr) (handle boundaryFlag : Nat) :
    Option (Option BtHdr × Fragmenter) :=
  match s.partialIsoPackets handle with
  | none => some (none, s)
  | some partialPacket =>
    if partialPacket.len < partialPacket.offset + packet.len - hciIsoPreambleSize then
      some (none, s.setPartialIso handle none)
    else do
      let src ← loadIn hciIsoPreambleSize (packet.len - hciIsoPreambleSize) packet.data
      let data ← storeIn partialPacket.offset src partialPacket.data
      let partialPacket := { partialPacket with data }
      if boundaryFlag = hciIsoBfContinuationFragmentPacket then
        let offset := (partialPacket.offset + (packet.len - hciIsoPreambleSize)) % 65536
        some (none, s.setPartialIso handle (some { partialPacket with offset }))
      else if partialPacket.len ≠ partialPacket.offset + packet.len - hciIsoPreambleSize then
        some (none, s.setPartialIso handle none)
      else
        let layerSpecific := partialPacket.layerSpecific ||| btIsoHdrOffsetPointsData
        let offset := hciIsoPreambleSize +
          (if layerSpecific &&& btIsoHdrContainsTs ≠ 0 then hciIsoHeaderLenWithTs
           else hciIsoHeaderLenWithoutTs)
        some (some { partialPacket with layerSpecific, offset }, s.setPartialIso handle none)

/-- `reassemble_and_dispatch_iso`: the handle word and the ISO length, whose two top bits are
reserved, the `CHECK` that the length is the packet's, then by the packet boundary flag. The
flag has two bits, so the `default` branch is dead. -/
def reassembleIso (s : Fragmenter) (packet : BtHdr) : Option (Option BtHdr × Fragmenter) := do
  let hdr ← loadIn 0 hciIsoPreambleSize packet.data
  let handle := leValue (hdr.take 2)
  let isoLength := leValue (hdr.drop 2) &&& 0x3FFF
  if isoLength + hciIsoPreambleSize ≠ packet.len then none
  else
    let boundaryFlag := getBoundaryFlag handle
    if boundaryFlag = hciIsoBfCompletePacket ∨ boundaryFlag = hciIsoBfFirstFragmentedPacket then
      reassembleIsoStart s packet (handle &&& handleMask) isoLength boundaryFlag
        (hciIsoGetTsFlag handle)
    else reassembleIsoContinuation s packet (handle &&& handleMask) boundaryFlag

/-- `reassemble_and_dispatch`: ACL and ISO packets are reassembled, SCO and other packets go up
as they are. The result is what goes up through `callbacks->reassembled`, if anything, and the
state after the call. -/
def reassembleAndDispatch (s : Fragmenter) (packet : BtHdr) : Option (Option BtHdr × Fragmenter) :=
  if packet.event &&& msgEvtMask = msgHcToStackHciAcl then reassembleAcl s packet
  else if packet.event &&& msgEvtMask = msgHcToStackHciSco then some (some packet, s)
  else if packet.event &&& msgEvtMask = msgHcToStackHciIso then reassembleIso s packet
  else some (some packet, s)

end BluetoothStack.Hci
