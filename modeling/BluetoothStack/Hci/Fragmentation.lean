import Mathlib
import BluetoothStack.Lib.Bits
import BluetoothStack.Hci.Reassembly

/-!
# Fragmentation and reassembly of ACL packets

The two halves of packet_fragmenter.cc against each other. Read `fragment_and_reassemble_acl`
first: an ACL packet that L2CAP hands down whole is cut by `fragment_and_dispatch` into fragments
for the controller, and when the bytes of those fragments come back up through
`reassemble_and_dispatch`, in order, the packet comes up once and whole, with the last fragment,
whatever the reassembler held before.

The proof follows the sending loop. Its first round hands on the packet's first bytes with their
own length written into the header (`payload_roundSent_first`), and the reassembler opens a
partial packet with them (`reassembleAndDispatch_startFrame`). Every round leaves a buffer that
starts with a continuation header for what is still to go (`ContinuationBuffer`, kept by
`ContinuationBuffer.next`); each later fragment extends the partial packet by its bytes
(`reassembleAndDispatch_continuationFrame`), and the last one completes it
(`trace_continuationRounds`, by induction on the loop's fuel). A partial packet that holds the
first `off` bytes of a PDU is `partialAt event pdu off`.
-/

namespace BluetoothStack.Hci

open Bytes

/-! ## The handle word of a continuation fragment -/

section HandleWord

theorem and_handleMask (x : Nat) : x &&& handleMask = x % 4096 := by
  rw [show handleMask = 2 ^ 12 - 1 from rfl, Nat.and_two_pow_sub_one_eq_mod]

theorem getBoundaryFlag_eq (x : Nat) : getBoundaryFlag x = x / 4096 % 4 := by
  rw [getBoundaryFlag, show (0x0003 : Nat) = 2 ^ 2 - 1 from rfl, Nat.and_two_pow_sub_one_eq_mod,
    Nat.shiftRight_eq_div_pow]

theorem getBroadcastFlag_eq (x : Nat) : getBroadcastFlag x = x / 16384 % 4 := by
  rw [getBroadcastFlag, show (0x0003 : Nat) = 2 ^ 2 - 1 from rfl, Nat.and_two_pow_sub_one_eq_mod,
    Nat.shiftRight_eq_div_pow]

/-- `APPLY_CONTINUATION_FLAG` as arithmetic: the handle and the broadcast flag stay, the packet
boundary flag becomes `01`. -/
theorem applyContinuationFlag_eq {w : Nat} (hw : w < 65536) :
    applyContinuationFlag w = w / 16384 * 16384 + 4096 + w % 4096 := by
  have hhi : w &&& 0xC000 = w / 16384 * 16384 := by
    rw [show (0xC000 : Nat) = (2 ^ 2 - 1) <<< 14 from rfl, Bits.and_field,
      Nat.mod_eq_of_lt (by omega : w / 2 ^ 14 < 2 ^ 2)]
    norm_num
  have hlo : w &&& 0x0FFF = w % 4096 := and_handleMask w
  have hsplit : w &&& 0xCFFF = w / 16384 * 16384 ||| w % 4096 := by
    rw [show (0xCFFF : Nat) = 0xC000 ||| 0x0FFF from rfl, Nat.and_or_distrib_left, hhi, hlo]
  have hlow : w % 4096 ||| 4096 = 4096 + w % 4096 := by
    rw [Nat.or_comm]
    exact Bits.or_eq_add (k := 12) (by norm_num) (by omega)
  rw [applyContinuationFlag, hsplit, Nat.or_assoc, hlow,
    Bits.or_eq_add (k := 14) (by omega) (by omega), Nat.add_assoc]

variable {w : Nat} (hw : w < 65536)
include hw

theorem applyContinuationFlag_lt : applyContinuationFlag w < 65536 := by
  rw [applyContinuationFlag_eq hw]
  omega

theorem getBoundaryFlag_applyContinuationFlag : getBoundaryFlag (applyContinuationFlag w) = 1 := by
  rw [getBoundaryFlag_eq, applyContinuationFlag_eq hw]
  omega

theorem getBroadcastFlag_applyContinuationFlag :
    getBroadcastFlag (applyContinuationFlag w) = getBroadcastFlag w := by
  rw [getBroadcastFlag_eq, getBroadcastFlag_eq, applyContinuationFlag_eq hw]
  omega

theorem applyContinuationFlag_and_handleMask :
    applyContinuationFlag w &&& handleMask = w &&& handleMask := by
  rw [and_handleMask, and_handleMask, applyContinuationFlag_eq hw]
  omega

end HandleWord

/-! ## Frames on the wire -/

/-- The buffer handed to a callback. -/
def FragOut.packet : FragOut → BtHdr
  | .fragmented packet _ => packet
  | .transmitFinished packet _ => packet

/-- A fragment as the receiving side's HCI layer hands it to `reassemble_and_dispatch`: the bytes
the fragment carries, wrapped by `WrapPacketAndCopy` with the event of its kind of data. -/
def FragOut.received (event : Nat) (f : FragOut) : BtHdr :=
  wrapPacketAndCopy event f.packet.payload

/-- The storage of a partial packet once the first `off` bytes of `pdu` have come: `pdu.length`
bytes holding those bytes and zeros after them. -/
def partialData (pdu : List UInt8) (off : Nat) : List UInt8 :=
  pdu.take off ++ List.replicate (pdu.length - off) 0

/-- The partial packet a reassembler holds once the first `off` bytes of `pdu` have come, for
packets of event `event`. -/
def partialAt (event : Nat) (pdu : List UInt8) (off : Nat) : BtHdr :=
  { event, len := pdu.length, offset := off, layerSpecific := 0, data := partialData pdu off }

section Frames

theorem streamToUint16_uint16ToStream_append (a : Nat) (rest : List UInt8) :
    streamToUint16 (uint16ToStream a ++ rest) 0 = a % 65536 := by
  unfold streamToUint16 load
  rw [List.drop_zero, List.take_left' (length_uint16ToStream a), uint16ToStream, leValue_leBytes]
  norm_num

theorem streamToUint16_append_right (pre rest : List UInt8) (i : Nat) :
    streamToUint16 (pre ++ rest) (pre.length + i) = streamToUint16 rest i := by
  unfold streamToUint16 load
  rw [List.drop_append, List.drop_eq_nil_of_le (by omega), List.nil_append,
    Nat.add_sub_cancel_left]

theorem streamToUint16_append_left {pre : List UInt8} {pos : Nat} (rest : List UInt8)
    (h : pos + 2 ≤ pre.length) : streamToUint16 (pre ++ rest) pos = streamToUint16 pre pos := by
  unfold streamToUint16 load
  rw [List.drop_append_of_le_length (by omega), List.take_append_of_le_length (by simp; omega)]

theorem streamToUint16_load {pdu : List UInt8} {pos i n : Nat} (h : i + 2 ≤ n) :
    streamToUint16 (load pos n pdu) i = streamToUint16 pdu (pos + i) := by
  unfold streamToUint16
  rw [load_load h]

/-- The handle word and the length of a frame that starts with them. -/
theorem streamToUint16_frame (a b : Nat) (rest : List UInt8) :
    streamToUint16 (uint16ToStream a ++ uint16ToStream b ++ rest) 0 = a % 65536 ∧
      streamToUint16 (uint16ToStream a ++ uint16ToStream b ++ rest) 2 = b % 65536 := by
  rw [List.append_assoc]
  refine ⟨streamToUint16_uint16ToStream_append a _, ?_⟩
  have h2 : (2 : Nat) = (uint16ToStream a).length + 0 := by simp
  rw [h2, streamToUint16_append_right, streamToUint16_uint16ToStream_append]

theorem length_partialData {pdu : List UInt8} {off : Nat} (h : off ≤ pdu.length) :
    (partialData pdu off).length = pdu.length := by
  rw [partialData, List.length_append, List.length_take, List.length_replicate]
  omega

theorem partialData_length (pdu : List UInt8) : partialData pdu pdu.length = pdu := by
  rw [partialData, List.take_length, Nat.sub_self, List.replicate_zero, List.append_nil]

/-- A chunk of the PDU stored at the write position of a partial packet extends what it holds. -/
theorem store_partialData {pdu : List UInt8} {off n : Nat} (h : off + n ≤ pdu.length) :
    store off (load off n pdu) (partialData pdu off) = partialData pdu (off + n) := by
  have hchunk : (load off n pdu).length = n := length_load_of_le h
  have htake : pdu.take (off + n) = pdu.take off ++ load off n pdu := by
    rw [load, List.take_add]
  have hpre : (pdu.take off).length = off := by
    rw [List.length_take]
    omega
  have hrep : List.replicate (pdu.length - off) (0 : UInt8) =
      List.replicate n 0 ++ List.replicate (pdu.length - (off + n)) 0 := by
    rw [List.replicate_append_replicate]
    congr 1
    omega
  have hmid := @store_middle (pdu.take off) (List.replicate n 0) (load off n pdu)
    (List.replicate (pdu.length - (off + n)) 0) (by rw [hchunk, List.length_replicate])
  rw [hpre] at hmid
  rw [partialData, partialData, hrep, ← List.append_assoc, hmid, htake]

/-- The first fragment of a PDU that the fragmenter cuts: the handle word, the fragment's own
length `m`, and the `m` bytes after the header. -/
theorem streamToUint16_startFrame {pdu : List UInt8} {m : Nat} (hm : 2 ≤ m)
    (h4 : 4 ≤ pdu.length) :
    streamToUint16 (load 0 2 pdu ++ uint16ToStream m ++ load 4 m pdu) 0 = streamToUint16 pdu 0 ∧
      streamToUint16 (load 0 2 pdu ++ uint16ToStream m ++ load 4 m pdu) 2 = m % 65536 ∧
      streamToUint16 (load 0 2 pdu ++ uint16ToStream m ++ load 4 m pdu) 4 =
        streamToUint16 pdu 4 := by
  have h2 : (load 0 2 pdu).length = 2 := length_load_of_le (by omega)
  refine ⟨?_, ?_, ?_⟩
  · rw [List.append_assoc, streamToUint16_append_left _ (by omega), streamToUint16_load le_rfl]
  · have hright := streamToUint16_append_right (load 0 2 pdu) (uint16ToStream m ++ load 4 m pdu) 0
    rw [h2, Nat.add_zero] at hright
    rw [List.append_assoc, hright, streamToUint16_uint16ToStream_append]
  · have hright := streamToUint16_append_right (load 0 2 pdu ++ uint16ToStream m) (load 4 m pdu) 0
    rw [List.length_append, h2, length_uint16ToStream, Nat.add_zero] at hright
    rw [hright, streamToUint16_load hm]

/-- The storage the start fragment opens, with the fragment at its start and the whole PDU's
ACL length over the fragment's, is the partial packet after the fragment's bytes. -/
theorem store_startFrame_data {pdu : List UInt8} {m : Nat} (hm : m + 4 ≤ pdu.length) :
    store 2 (uint16ToStream (streamToUint16 pdu 2))
      (store 0 (load 0 2 pdu ++ uint16ToStream m ++ load 4 m pdu) (List.replicate pdu.length 0)) =
      partialData pdu (m + 4) := by
  have h2 : (load 0 2 pdu).length = 2 := length_load_of_le (by omega)
  have hword : uint16ToStream (streamToUint16 pdu 2) = load 2 2 pdu := by
    have hback := leBytes_leValue (load 2 2 pdu)
    rwa [length_load_of_le (by omega)] at hback
  have hframe : (load 0 2 pdu ++ uint16ToStream m ++ load 4 m pdu).length = m + 4 := by
    simp only [List.length_append, h2, length_uint16ToStream,
      length_load_of_le (by omega : 4 + m ≤ pdu.length)]
    omega
  have hrep : List.replicate pdu.length (0 : UInt8) =
      [] ++ List.replicate (m + 4) 0 ++ List.replicate (pdu.length - (m + 4)) 0 := by
    rw [List.nil_append, List.replicate_append_replicate]
    congr 1
    omega
  have hfirst := @store_middle [] (List.replicate (m + 4) 0) _
    (List.replicate (pdu.length - (m + 4)) 0) (by rw [hframe, List.length_replicate])
  have hsecond := @store_middle (load 0 2 pdu) (uint16ToStream m) (load 2 2 pdu)
    (load 4 m pdu ++ List.replicate (pdu.length - (m + 4)) 0)
    (by simp [length_load_of_le (by omega : 2 + 2 ≤ pdu.length)])
  rw [h2] at hsecond
  rw [List.length_nil] at hfirst
  have htake : pdu.take (m + 4) = load 0 2 pdu ++ load 2 2 pdu ++ load 4 m pdu := by
    have hload : load 0 (2 + (2 + m)) pdu = load 0 2 pdu ++ (load 2 2 pdu ++ load 4 m pdu) := by
      rw [load_add, load_add]
    rw [List.append_assoc, ← hload, load, List.drop_zero, show 2 + (2 + m) = m + 4 by omega]
  rw [hrep, hfirst, List.nil_append, hword, List.append_assoc, hsecond]
  simp only [partialData, htake, List.append_assoc]

/-- The bytes of a fragment whose length word was just written. -/
theorem load_store_lengthWord {p n : Nat} {mem : List UInt8} (v : Nat) (hn : 4 ≤ n)
    (h : p + n ≤ mem.length) :
    load p n (store (p + 2) (uint16ToStream v) mem) =
      load p 2 mem ++ uint16ToStream v ++ load (p + 4) (n - 4) mem := by
  rw [load_store_within (by omega) (by simp only [length_uint16ToStream]; omega) h,
    length_uint16ToStream, show p + 2 - p = 2 by omega, show p + 2 + 2 = p + 4 by omega,
    show p + n - (p + 4) = n - 4 by omega]

/-- The bytes after a header just written at `p`: the handle word, the length, then what the
memory held. -/
theorem load_store_header {p n : Nat} {mem : List UInt8} (a b : Nat) (hn : 4 ≤ n)
    (h : p + n ≤ mem.length) :
    load p n (store (p + 2) (uint16ToStream b) (store p (uint16ToStream a) mem)) =
      uint16ToStream a ++ uint16ToStream b ++ load (p + 4) (n - 4) mem := by
  have hword : load p (uint16ToStream a).length (store p (uint16ToStream a) mem) =
      uint16ToStream a := load_store_self (by simp only [length_uint16ToStream]; omega)
  rw [length_uint16ToStream] at hword
  rw [load_store_lengthWord b hn (by rw [length_store]; exact h), hword,
    load_store_of_disjoint (Or.inr (by simp only [length_uint16ToStream]; omega))]

theorem load_frame_header (a b : Nat) (rest : List UInt8) :
    load 0 2 (uint16ToStream a ++ uint16ToStream b ++ rest) = uint16ToStream a := by
  rw [load, List.drop_zero, List.append_assoc, List.take_left' (length_uint16ToStream a)]

theorem load_frame_body (a b : Nat) (rest : List UInt8) (i n : Nat) :
    load (4 + i) n (uint16ToStream a ++ uint16ToStream b ++ rest) = load i n rest := by
  have h4 : (uint16ToStream a ++ uint16ToStream b).length = 4 := by simp
  rw [load, List.drop_append, List.drop_eq_nil_of_le (by omega), List.nil_append, h4,
    Nat.add_sub_cancel_left, load]

end Frames

/-! ## The reassembler on the frames -/

section Wrap

variable (event : Nat) (data : List UInt8)

@[simp] theorem wrapPacketAndCopy_event : (wrapPacketAndCopy event data).event = event := rfl
@[simp] theorem wrapPacketAndCopy_len : (wrapPacketAndCopy event data).len = data.length := rfl
@[simp] theorem wrapPacketAndCopy_offset : (wrapPacketAndCopy event data).offset = 0 := rfl
@[simp] theorem wrapPacketAndCopy_data : (wrapPacketAndCopy event data).data = data := rfl
@[simp] theorem wrapPacketAndCopy_layerSpecific :
    (wrapPacketAndCopy event data).layerSpecific = 0 := rfl

end Wrap

theorem acl_event_mask : msgHcToStackHciAcl &&& msgEvtMask = msgHcToStackHciAcl := rfl

/-- An ACL frame from the controller whose length word is right and that is not a broadcast
goes to the start or the continuation branch by its packet boundary flag. -/
theorem reassembleAndDispatch_aclFrame {t : Fragmenter} {frame : List UInt8}
    (hlen : streamToUint16 frame 2 + hciAclPreambleSize = frame.length)
    (hbc : getBroadcastFlag (streamToUint16 frame 0) = pointToPoint) :
    reassembleAndDispatch t (wrapPacketAndCopy msgHcToStackHciAcl frame) =
      if getBoundaryFlag (streamToUint16 frame 0) = startPacketBoundary then
        reassembleStart t (wrapPacketAndCopy msgHcToStackHciAcl frame)
          (streamToUint16 frame 0 &&& handleMask) (streamToUint16 frame 2)
      else reassembleContinuation t (wrapPacketAndCopy msgHcToStackHciAcl frame)
          (streamToUint16 frame 0 &&& handleMask) := by
  unfold reassembleAndDispatch
  simp only [wrapPacketAndCopy_event, acl_event_mask, ↓reduceIte]
  unfold reassembleAcl
  simp only [wrapPacketAndCopy_data, wrapPacketAndCopy_len]
  rw [loadIn_of_le (by omega), Option.bind_eq_bind, Option.bind_some,
    leValue_take_load_header _ hciAclPreambleSize (by simp [hciAclPreambleSize]),
    leValue_drop_load_header _ hciAclPreambleSize rfl]
  simp only [hlen, hbc, ne_eq, not_true_eq_false, ↓reduceIte]

/-- A continuation frame with the next `n` bytes of the PDU whose first `off` bytes the partial
packet of its handle holds: the bytes go after them, and the PDU goes up once it is whole. -/
theorem reassembleAndDispatch_continuationFrame {t : Fragmenter} {pdu : List UInt8}
    {off n cont : Nat} (hcont : cont < 65536) (hpb : getBoundaryFlag cont ≠ startPacketBoundary)
    (hbc : getBroadcastFlag cont = pointToPoint)
    (ht : t.partialPackets (cont &&& handleMask) = some (partialAt msgHcToStackHciAcl pdu off))
    (hoff : off + n ≤ pdu.length) (hmax : pdu.length < 65536) :
    reassembleAndDispatch t (wrapPacketAndCopy msgHcToStackHciAcl
        (uint16ToStream cont ++ uint16ToStream n ++ load off n pdu)) =
      if off + n = pdu.length then
        some (some (wrapPacketAndCopy msgHcToStackHciAcl pdu),
          t.setPartial (cont &&& handleMask) none)
      else some (none, t.setPartial (cont &&& handleMask)
        (some (partialAt msgHcToStackHciAcl pdu (off + n)))) := by
  have hchunk : (load off n pdu).length = n := length_load_of_le hoff
  obtain ⟨hw, hn⟩ := streamToUint16_frame cont n (load off n pdu)
  rw [Nat.mod_eq_of_lt hcont] at hw
  rw [Nat.mod_eq_of_lt (by omega)] at hn
  generalize hframe : uint16ToStream cont ++ uint16ToStream n ++ load off n pdu = frame at hw hn
  have hlen : frame.length = n + hciAclPreambleSize := by
    rw [← hframe]
    simp only [List.length_append, length_uint16ToStream, hchunk, hciAclPreambleSize]
    omega
  rw [reassembleAndDispatch_aclFrame (by rw [hn, hlen]) (by rw [hw, hbc]), hw, if_neg hpb]
  unfold reassembleContinuation
  rw [ht]
  dsimp only [partialAt, wrapPacketAndCopy]
  -- the frame brings no more than the partial packet misses
  rw [if_neg (by rw [hlen]; simp only [hciAclPreambleSize]; omega)]
  dsimp only
  have hn4 : frame.length - hciAclPreambleSize = n := by
    rw [hlen]
    rfl
  have hdrop : frame.drop hciAclPreambleSize = load off n pdu ++ [] := by
    rw [← hframe, List.append_nil]
    exact List.drop_left' (by simp [hciAclPreambleSize])
  rw [hn4, ← hchunk, loadIn_of_drop hdrop (by rw [hlen]; simp [hciAclPreambleSize]),
    Option.bind_eq_bind, Option.bind_some, hchunk,
    storeIn_of_le (by rw [hchunk, length_partialData (by omega)]; omega),
    Option.bind_some, Nat.mod_eq_of_lt (by omega), store_partialData hoff]
  by_cases hfull : off + n = pdu.length
  · rw [if_pos hfull, if_pos hfull, hfull, partialData_length]
  · rw [if_neg hfull, if_neg hfull]

/-- An ACL packet as L2CAP hands it down whole: a first packet of the PDU, point to point, with
the HCI and the L2CAP lengths of the packet and room in a buffer of the default pool. -/
structure WholeAclPacket (pdu : List UInt8) : Prop where
  boundary : getBoundaryFlag (streamToUint16 pdu 0) = startPacketBoundary
  broadcast : getBroadcastFlag (streamToUint16 pdu 0) = pointToPoint
  aclLength : streamToUint16 pdu 2 + hciAclPreambleSize = pdu.length
  l2capLength : streamToUint16 pdu 4 + l2capHeaderSize + hciAclPreambleSize = pdu.length
  buffer : pdu.length + btHdrSize ≤ btDefaultBufferSize

theorem WholeAclPacket.length_lt {pdu : List UInt8} (hpdu : WholeAclPacket pdu) :
    8 ≤ pdu.length ∧ pdu.length < 65536 := by
  have hl2 := hpdu.l2capLength
  have hbuf := hpdu.buffer
  simp only [l2capHeaderSize, l2capHeaderPduLenSize, l2capHeaderCidSize, hciAclPreambleSize,
    btHdrSize, btDefaultBufferSize] at hl2 hbuf
  omega

theorem reassembleAndDispatch_startFrame {t : Fragmenter} {pdu : List UInt8} {m : Nat}
    (hpdu : WholeAclPacket pdu) (hm : 2 ≤ m) (hmL : m + hciAclPreambleSize < pdu.length) :
    reassembleAndDispatch t (wrapPacketAndCopy msgHcToStackHciAcl
        (load 0 2 pdu ++ uint16ToStream m ++ load 4 m pdu)) =
      some (none, t.setPartial (streamToUint16 pdu 0 &&& handleMask)
        (some (partialAt msgHcToStackHciAcl pdu (m + hciAclPreambleSize)))) := by
  obtain ⟨h8, hmax⟩ := hpdu.length_lt
  simp only [hciAclPreambleSize] at hmL
  obtain ⟨h0, h2, h4⟩ := @streamToUint16_startFrame pdu m hm (by omega)
  rw [Nat.mod_eq_of_lt (by omega)] at h2
  have hlen : (load 0 2 pdu ++ uint16ToStream m ++ load 4 m pdu).length =
      m + hciAclPreambleSize := by
    simp only [List.length_append, @length_load_of_le 0 2 pdu (by omega), length_uint16ToStream,
      @length_load_of_le 4 m pdu (by omega), hciAclPreambleSize]
    omega
  rw [reassembleAndDispatch_aclFrame (by rw [h2, hlen]) (by rw [h0, hpdu.broadcast]), h0,
    if_pos hpdu.boundary, h2]
  unfold reassembleStart
  rw [if_neg (by omega), wrapPacketAndCopy_data,
    loadIn_of_le (by rw [hlen]; simp [hciAclPreambleSize]; omega)]
  simp only [Option.bind_eq_bind, Option.bind_some]
  rw [show leValue (load 4 2 (load 0 2 pdu ++ uint16ToStream m ++ load 4 m pdu)) =
    streamToUint16 (load 0 2 pdu ++ uint16ToStream m ++ load 4 m pdu) 4 from rfl, h4,
    hpdu.l2capLength, Nat.mod_eq_of_lt hmax]
  have hl2 := hpdu.l2capLength
  have hacl := hpdu.aclLength
  have hbuf := hpdu.buffer
  simp only [l2capHeaderSize, l2capHeaderPduLenSize, l2capHeaderCidSize, hciAclPreambleSize,
    btHdrSize, btDefaultBufferSize] at hl2 hacl hbuf hlen
  -- the length checks of the start branch pass, and the fragment is shorter than the PDU
  rw [if_neg (by unfold l2capHeaderPduLenSize; omega),
    if_neg (by simp only [checkUint16Overflow_eq_true, l2capHeaderSize, l2capHeaderPduLenSize,
      l2capHeaderCidSize, hciAclPreambleSize, btHdrSize, btDefaultBufferSize]; omega),
    wrapPacketAndCopy_len, hlen, if_neg (by omega),
    allocPartial_eq le_rfl (by rw [wrapPacketAndCopy_len, hlen]; omega) (by omega),
    Option.bind_some, Fragmenter.setPartial_setPartial]
  have hall : load 0 (m + 4) (load 0 2 pdu ++ uint16ToStream m ++ load 4 m pdu) =
      load 0 2 pdu ++ uint16ToStream m ++ load 4 m pdu := by
    rw [← hlen, load, List.drop_zero, List.take_length]
  simp only [wrapPacketAndCopy_data, wrapPacketAndCopy_len, wrapPacketAndCopy_event, hlen, hall,
    show pdu.length - 4 = streamToUint16 pdu 2 by omega,
    store_startFrame_data (by omega : m + 4 ≤ pdu.length)]
  rfl

/-- A packet that goes down whole comes up whole. -/
theorem reassembleAndDispatch_wholeFrame {t : Fragmenter} {pdu : List UInt8}
    (hpdu : WholeAclPacket pdu) :
    reassembleAndDispatch t (wrapPacketAndCopy msgHcToStackHciAcl pdu) =
      some (some (wrapPacketAndCopy msgHcToStackHciAcl pdu),
        t.setPartial (streamToUint16 pdu 0 &&& handleMask) none) := by
  obtain ⟨h8, hmax⟩ := hpdu.length_lt
  have hl2 := hpdu.l2capLength
  have hacl := hpdu.aclLength
  have hbuf := hpdu.buffer
  simp only [l2capHeaderSize, l2capHeaderPduLenSize, l2capHeaderCidSize, hciAclPreambleSize,
    btHdrSize, btDefaultBufferSize] at hl2 hacl hbuf
  rw [reassembleAndDispatch_aclFrame hpdu.aclLength hpdu.broadcast, if_pos hpdu.boundary]
  unfold reassembleStart
  rw [if_neg (by omega), wrapPacketAndCopy_data, loadIn_of_le (by omega)]
  simp only [Option.bind_eq_bind, Option.bind_some]
  rw [show leValue (load 4 2 pdu) = streamToUint16 pdu 4 from rfl, hpdu.l2capLength,
    Nat.mod_eq_of_lt hmax, if_neg (by unfold l2capHeaderPduLenSize; omega),
    if_neg (by simp only [checkUint16Overflow_eq_true, l2capHeaderSize, l2capHeaderPduLenSize,
      l2capHeaderCidSize, hciAclPreambleSize, btHdrSize, btDefaultBufferSize]; omega),
    wrapPacketAndCopy_len, if_pos le_rfl]

/-! ## The rounds of the sending loop -/

/-- The fragment a round of the loop hands on: the buffer from its offset, with
`max_data_size` written as the length of the fragment. -/
def roundSent (maxDataSize : Nat) (packet : BtHdr) : BtHdr :=
  { packet with
    data := store (packet.offset + 2) (uint16ToStream maxDataSize) packet.data
    len := (maxDataSize + hciAclPreambleSize) % 65536 }

/-- The buffer a round leaves for the next: its offset `max_data_size` on, and there the next
header over the last four bytes of the fragment just handed on. -/
def roundNext (maxDataSize continuationHandle : Nat) (packet : BtHdr) : BtHdr :=
  let offset := (packet.offset + maxDataSize) % 65536
  let remainingLength := packet.len - maxDataSize
  { packet with
    data := store (offset + 2) (uint16ToStream (remainingLength - hciAclPreambleSize))
      (store offset (uint16ToStream continuationHandle) (roundSent maxDataSize packet).data)
    offset
    len := remainingLength }

section Rounds

variable {maxDataSize continuationHandle fuel : Nat} {packet : BtHdr}

theorem fragmentAclLoop_round (hls : packet.layerSpecific = 0)
    (hlong : (maxDataSize + hciAclPreambleSize) % 65536 < packet.len) :
    fragmentAclLoop maxDataSize continuationHandle (fuel + 1) packet packet.len =
      (fragmentAclLoop maxDataSize continuationHandle fuel
        (roundNext maxDataSize continuationHandle packet) (packet.len - maxDataSize)).map
        (.fragmented (roundSent maxDataSize packet) false :: ·) := by
  rw [fragmentAclLoop, if_pos hlong]
  simp only [hls, ne_eq, not_true_eq_false, ↓reduceIte, roundSent, roundNext]

theorem fragmentAclLoop_last {remainingLength : Nat}
    (hshort : ¬(maxDataSize + hciAclPreambleSize) % 65536 < remainingLength) :
    fragmentAclLoop maxDataSize continuationHandle (fuel + 1) packet remainingLength =
      some [.fragmented packet true] := by
  rw [fragmentAclLoop, if_neg hshort]

end Rounds

section Payloads

variable {maxDataSize continuationHandle : Nat} {packet : BtHdr}

theorem payload_roundSent (hmax : maxDataSize + hciAclPreambleSize < 65536)
    (hlong : maxDataSize + hciAclPreambleSize ≤ packet.len) (hfit : packet.Fits) :
    (roundSent maxDataSize packet).payload =
      load packet.offset 2 packet.data ++ uint16ToStream maxDataSize ++
        load (packet.offset + 4) maxDataSize packet.data := by
  unfold hciAclPreambleSize at hmax hlong
  unfold BtHdr.Fits at hfit
  simp only [BtHdr.payload, roundSent, hciAclPreambleSize, Nat.mod_eq_of_lt hmax]
  rw [load_store_lengthWord _ (by omega) (by omega), Nat.add_sub_cancel]

theorem payload_roundNext (hsize : 2 ≤ maxDataSize)
    (hlong : maxDataSize + hciAclPreambleSize < packet.len) (hfit : packet.Fits)
    (hlt : packet.offset + packet.len < 65536) :
    (roundNext maxDataSize continuationHandle packet).payload =
      uint16ToStream continuationHandle ++
        uint16ToStream (packet.len - maxDataSize - hciAclPreambleSize) ++
        load (packet.offset + maxDataSize + 4) (packet.len - maxDataSize - 4) packet.data := by
  unfold hciAclPreambleSize at hlong
  unfold BtHdr.Fits at hfit
  simp only [BtHdr.payload, roundNext, roundSent,
    Nat.mod_eq_of_lt (by omega : packet.offset + maxDataSize < 65536)]
  rw [load_store_header _ _ (by omega) (by rw [length_store]; omega),
    load_store_of_disjoint (Or.inr (by simp only [length_uint16ToStream]; omega))]

end Payloads

/-- The buffer as a round of the loop leaves it: at its offset a continuation header for the
`len - 4` bytes of the PDU still to go, then those bytes, inside the storage. -/
structure ContinuationBuffer (continuationHandle : Nat) (pdu : List UInt8) (q : BtHdr) : Prop where
  four_le : 4 ≤ q.len
  len_le : q.len ≤ pdu.length + 4
  fits : q.Fits
  lt : q.offset + q.len < 65536
  bytes : q.payload = uint16ToStream continuationHandle ++ uint16ToStream (q.len - 4) ++
    load (pdu.length - (q.len - 4)) (q.len - 4) pdu

section Continuation

variable {maxDataSize continuationHandle : Nat} {pdu : List UInt8} {q : BtHdr}
  (hq : ContinuationBuffer continuationHandle pdu q) (hsize : 2 ≤ maxDataSize)
  (hmax : maxDataSize + hciAclPreambleSize < 65536)
  (hlong : maxDataSize + hciAclPreambleSize < q.len)
include hq hsize hmax hlong

/-- A later round hands on the continuation header and the next `max_data_size` bytes. -/
theorem ContinuationBuffer.sent_payload :
    (roundSent maxDataSize q).payload = uint16ToStream continuationHandle ++
      uint16ToStream maxDataSize ++ load (pdu.length - (q.len - 4)) maxDataSize pdu := by
  have hbytes := hq.bytes
  unfold hciAclPreambleSize at hlong
  rw [BtHdr.payload] at hbytes
  have hhead := @load_load q.offset q.len 0 2 q.data (by omega)
  rw [hbytes, load_frame_header, Nat.add_zero] at hhead
  have hbody := @load_load q.offset q.len 4 maxDataSize q.data (by omega)
  have hskip := load_frame_body continuationHandle (q.len - 4)
    (load (pdu.length - (q.len - 4)) (q.len - 4) pdu) 0 maxDataSize
  rw [Nat.add_zero] at hskip
  rw [hbytes, hskip, load_load (by omega), Nat.add_zero] at hbody
  rw [payload_roundSent hmax (by unfold hciAclPreambleSize; omega) hq.fits, ← hhead, ← hbody]

/-- The buffer a round leaves is one again, with `max_data_size` bytes fewer to go, whatever
handle word the round writes into the next header. -/
theorem ContinuationBuffer.next (word : Nat) :
    ContinuationBuffer word pdu (roundNext maxDataSize word q) := by
  have hbytes := hq.bytes
  have hfit := hq.fits
  have hlen := hq.len_le
  unfold hciAclPreambleSize at hlong
  unfold BtHdr.Fits at hfit
  rw [BtHdr.payload] at hbytes
  have hoff : (q.offset + maxDataSize) % 65536 = q.offset + maxDataSize :=
    Nat.mod_eq_of_lt (by have := hq.lt; omega)
  refine ⟨?_, ?_, ?_, ?_, ?_⟩
  · simp only [roundNext]
    omega
  · simp only [roundNext]
    omega
  · simp only [BtHdr.Fits, roundNext, roundSent, length_store, hoff]
    omega
  · simp only [roundNext, hoff]
    have := hq.lt
    omega
  · rw [payload_roundNext hsize hlong hq.fits hq.lt,
      show q.offset + maxDataSize + 4 = q.offset + (4 + maxDataSize) by omega,
      ← @load_load q.offset q.len (4 + maxDataSize) _ q.data (by omega), hbytes, load_frame_body,
      load_load (by omega)]
    simp only [roundNext, hciAclPreambleSize]
    congr 3
    omega

end Continuation

section First

variable {maxDataSize continuationHandle : Nat} {packet : BtHdr} (hfit : packet.Fits)
  (hlong : maxDataSize + hciAclPreambleSize < packet.len)
include hfit hlong

/-- The first round hands on the packet's handle word, `max_data_size` as the length, and the
first `max_data_size` bytes after the header. -/
theorem payload_roundSent_first (hmax : maxDataSize + hciAclPreambleSize < 65536) :
    (roundSent maxDataSize packet).payload = load 0 2 packet.payload ++
      uint16ToStream maxDataSize ++ load 4 maxDataSize packet.payload := by
  unfold hciAclPreambleSize at hlong
  rw [payload_roundSent hmax (by unfold hciAclPreambleSize; omega) hfit, BtHdr.payload,
    load_load (by omega), load_load (by omega)]
  simp only [Nat.add_zero]

/-- The buffer the first round leaves holds a continuation header for the rest of the packet. -/
theorem continuationBuffer_roundNext (hsize : 2 ≤ maxDataSize)
    (hlt : packet.offset + packet.len < 65536) :
    ContinuationBuffer continuationHandle packet.payload
      (roundNext maxDataSize continuationHandle packet) := by
  have hlen := BtHdr.length_payload hfit
  have hfit' := hfit
  unfold hciAclPreambleSize at hlong
  unfold BtHdr.Fits at hfit'
  have hoff : (packet.offset + maxDataSize) % 65536 = packet.offset + maxDataSize :=
    Nat.mod_eq_of_lt (by omega)
  refine ⟨?_, ?_, ?_, ?_, ?_⟩
  · simp only [roundNext]
    omega
  · simp only [roundNext]
    omega
  · simp only [BtHdr.Fits, roundNext, roundSent, length_store, hoff]
    omega
  · simp only [roundNext, hoff]
    omega
  · rw [payload_roundNext hsize hlong hfit hlt]
    simp only [roundNext, hlen, hciAclPreambleSize]
    rw [BtHdr.payload, load_load (by omega),
      show packet.offset + (packet.len - (packet.len - maxDataSize - 4)) =
        packet.offset + maxDataSize + 4 by omega]

end First

section RoundTrip

variable {maxDataSize continuationHandle : Nat} {pdu : List UInt8}
  (hsize : 2 ≤ maxDataSize) (hmax : maxDataSize + hciAclPreambleSize < 65536)
  (hch : continuationHandle < 65536)
  (hpb : getBoundaryFlag continuationHandle ≠ startPacketBoundary)
  (hbc : getBroadcastFlag continuationHandle = pointToPoint)
  (hpdu : pdu.length < 65536)
include hsize hmax hch hpb hbc hpdu

/-- The later rounds of the loop, against a reassembler that holds the PDU up to the bytes the
buffer still has to send: the fragments bring the PDU up whole, once, with the last of them. By
induction on the fuel, for every buffer and every state of the reassembler. -/
theorem trace_continuationRounds :
    ∀ (fuel : Nat) (q : BtHdr) (t : Fragmenter), q.layerSpecific = 0 →
      ContinuationBuffer continuationHandle pdu q →
      q.len < fuel → t.partialPackets (continuationHandle &&& handleMask) =
        some (partialAt msgHcToStackHciAcl pdu (pdu.length - (q.len - 4))) →
      ∃ frags n, fragmentAclLoop maxDataSize continuationHandle fuel q q.len = some frags ∧
        Calls.trace reassembleAndDispatch t (frags.map (FragOut.received msgHcToStackHciAcl)) =
          some (List.replicate n none ++ [some (wrapPacketAndCopy msgHcToStackHciAcl pdu)],
            t.setPartial (continuationHandle &&& handleMask) none) := by
  intro fuel
  induction fuel with
  | zero =>
    intro q t _ _ hfuel
    omega
  | succ fuel ih =>
    intro q t hls hq hfuel ht
    have hlen := hq.len_le
    have hmod : (maxDataSize + hciAclPreambleSize) % 65536 = maxDataSize + hciAclPreambleSize :=
      Nat.mod_eq_of_lt hmax
    by_cases hlong : maxDataSize + hciAclPreambleSize < q.len
    · -- a round: its fragment brings the next `max_data_size` bytes to the partial packet
      have hlong' := hlong
      unfold hciAclPreambleSize at hlong'
      have hnext : (roundNext maxDataSize continuationHandle q).len = q.len - maxDataSize := rfl
      have hstep : reassembleAndDispatch t
          (FragOut.received msgHcToStackHciAcl (.fragmented (roundSent maxDataSize q) false)) =
          some (none, t.setPartial (continuationHandle &&& handleMask)
            (some (partialAt msgHcToStackHciAcl pdu
              (pdu.length - (q.len - 4) + maxDataSize)))) := by
        rw [FragOut.received, FragOut.packet, hq.sent_payload hsize hmax hlong,
          reassembleAndDispatch_continuationFrame hch hpb hbc ht (by omega) hpdu, if_neg (by omega)]
      have ht' : (t.setPartial (continuationHandle &&& handleMask)
          (some (partialAt msgHcToStackHciAcl pdu
            (pdu.length - (q.len - 4) + maxDataSize)))).partialPackets
            (continuationHandle &&& handleMask) = some (partialAt msgHcToStackHciAcl pdu
              (pdu.length - ((roundNext maxDataSize continuationHandle q).len - 4))) := by
        rw [Fragmenter.setPartial_partialPackets, Function.update_self, hnext,
          show pdu.length - (q.len - maxDataSize - 4) = pdu.length - (q.len - 4) + maxDataSize by
            omega]
      obtain ⟨frags, n, hloop, htrace⟩ := ih (roundNext maxDataSize continuationHandle q) _ hls
        (hq.next hsize hmax hlong continuationHandle)
        (by rw [hnext]; omega) ht'
      refine ⟨.fragmented (roundSent maxDataSize q) false :: frags, n + 1, ?_, ?_⟩
      · rw [fragmentAclLoop_round hls (by rwa [hmod]), ← hnext, hloop, Option.map_some]
      · rw [List.map_cons, Calls.trace_cons_of_step hstep, htrace, Option.map_some,
          Fragmenter.setPartial_setPartial, List.replicate_succ, List.cons_append]
    · -- the last fragment completes the PDU
      have hstep : reassembleAndDispatch t
          (FragOut.received msgHcToStackHciAcl (.fragmented q true)) =
          some (some (wrapPacketAndCopy msgHcToStackHciAcl pdu),
            t.setPartial (continuationHandle &&& handleMask) none) := by
        have hfour := hq.four_le
        rw [FragOut.received, FragOut.packet, hq.bytes,
          reassembleAndDispatch_continuationFrame hch hpb hbc ht (by omega) hpdu, if_pos (by omega)]
      refine ⟨[.fragmented q true], 0, fragmentAclLoop_last (by rwa [hmod]), ?_⟩
      rw [List.map_cons, List.map_nil, Calls.trace_cons_of_step hstep]
      rfl

end RoundTrip

section Acl

variable {maxDataSize : Nat} {packet : BtHdr} (hls : packet.layerSpecific = 0) (hfit : packet.Fits)
  (hlt : packet.offset + packet.len < 65536) (hpdu : WholeAclPacket packet.payload)
  (hsize : 2 ≤ maxDataSize) (hmax : maxDataSize + hciAclPreambleSize < 65536)
include hls hfit hlt hpdu hsize hmax

/-- The whole loop of `fragment_and_dispatch_acl` against the reassembler, from any state: the
packet comes up once, whole, with the last fragment. The first round opens the partial packet;
the later ones are `trace_continuationRounds`. -/
theorem trace_fragmentAclLoop (t : Fragmenter) :
    ∃ frags n, fragmentAclLoop maxDataSize
        (applyContinuationFlag (streamToUint16 packet.payload 0)) (packet.len + 1) packet
        packet.len = some frags ∧
      Calls.trace reassembleAndDispatch t (frags.map (FragOut.received msgHcToStackHciAcl)) =
        some (List.replicate n none ++ [some (wrapPacketAndCopy msgHcToStackHciAcl packet.payload)],
          t.setPartial (streamToUint16 packet.payload 0 &&& handleMask) none) := by
  have hlen := BtHdr.length_payload hfit
  obtain ⟨h8, hpdu_lt⟩ := hpdu.length_lt
  have hmod : (maxDataSize + hciAclPreambleSize) % 65536 = maxDataSize + hciAclPreambleSize :=
    Nat.mod_eq_of_lt hmax
  have hw := streamToUint16_lt packet.payload 0
  by_cases hlong : maxDataSize + hciAclPreambleSize < packet.len
  · -- the first round opens the partial packet with the first fragment
    have hlong' := hlong
    unfold hciAclPreambleSize at hlong'
    have hstep : reassembleAndDispatch t
        (FragOut.received msgHcToStackHciAcl (.fragmented (roundSent maxDataSize packet) false)) =
        some (none, t.setPartial (streamToUint16 packet.payload 0 &&& handleMask)
          (some (partialAt msgHcToStackHciAcl packet.payload
            (maxDataSize + hciAclPreambleSize)))) := by
      rw [FragOut.received, FragOut.packet, payload_roundSent_first hfit hlong hmax,
        reassembleAndDispatch_startFrame hpdu hsize (by rw [hlen]; exact hlong)]
    have ht : (t.setPartial (streamToUint16 packet.payload 0 &&& handleMask)
        (some (partialAt msgHcToStackHciAcl packet.payload
          (maxDataSize + hciAclPreambleSize)))).partialPackets
          (applyContinuationFlag (streamToUint16 packet.payload 0) &&& handleMask) =
        some (partialAt msgHcToStackHciAcl packet.payload (packet.payload.length -
          ((roundNext maxDataSize (applyContinuationFlag (streamToUint16 packet.payload 0))
            packet).len - 4))) := by
      rw [applyContinuationFlag_and_handleMask hw, Fragmenter.setPartial_partialPackets,
        Function.update_self, hlen,
        show packet.len - ((roundNext maxDataSize (applyContinuationFlag
          (streamToUint16 packet.payload 0)) packet).len - 4) = maxDataSize + hciAclPreambleSize by
            simp only [roundNext, hciAclPreambleSize]; omega]
    obtain ⟨frags, n, hloop, htrace⟩ := trace_continuationRounds hsize hmax
      (applyContinuationFlag_lt hw)
      (by rw [getBoundaryFlag_applyContinuationFlag hw]; simp [startPacketBoundary])
      (by rw [getBroadcastFlag_applyContinuationFlag hw, hpdu.broadcast]) hpdu_lt packet.len
      (roundNext maxDataSize (applyContinuationFlag (streamToUint16 packet.payload 0)) packet) _
      hls (continuationBuffer_roundNext hfit hlong hsize hlt)
      (by simp only [roundNext]; omega) ht
    have hnext : (roundNext maxDataSize (applyContinuationFlag (streamToUint16 packet.payload 0))
        packet).len = packet.len - maxDataSize := rfl
    rw [hnext] at hloop
    refine ⟨.fragmented (roundSent maxDataSize packet) false :: frags, n + 1, ?_, ?_⟩
    · rw [fragmentAclLoop_round hls (by rwa [hmod]), hloop, Option.map_some]
    · rw [List.map_cons, Calls.trace_cons_of_step hstep, htrace, Option.map_some,
        applyContinuationFlag_and_handleMask hw, Fragmenter.setPartial_setPartial,
        List.replicate_succ, List.cons_append]
  · -- a packet that fits goes down whole, and comes up whole
    have hstep : reassembleAndDispatch t
        (FragOut.received msgHcToStackHciAcl (.fragmented packet true)) =
        some (some (wrapPacketAndCopy msgHcToStackHciAcl packet.payload),
          t.setPartial (streamToUint16 packet.payload 0 &&& handleMask) none) := by
      rw [FragOut.received, FragOut.packet, reassembleAndDispatch_wholeFrame hpdu]
    refine ⟨[.fragmented packet true], 0, fragmentAclLoop_last (by rwa [hmod]), ?_⟩
    rw [List.map_cons, List.map_nil, Calls.trace_cons_of_step hstep]
    rfl

end Acl

/-- **ACL fragmentation round trip.** An ACL packet that L2CAP hands down whole, with its HCI and
L2CAP lengths, cut by `fragment_and_dispatch` for a controller whose buffers take at least two
data bytes, each fragment's bytes then handed up to `reassemble_and_dispatch` in order as the HCI
layer wraps what the controller reads, from any state of the reassembler: the packet's bytes come
up once, whole, with the last fragment, nothing comes up before, and no partial packet is left
for its handle. -/
theorem fragment_and_reassemble_acl (c : Controller) (packet : BtHdr) (t : Fragmenter)
    (hev : packet.event &&& msgEvtMask = msgStackToHcHciAcl) (hls : packet.layerSpecific = 0)
    (hfit : packet.Fits) (hlt : packet.offset + packet.len < 65536)
    (hpdu : WholeAclPacket packet.payload)
    (hclassic : 2 ≤ c.aclDataSizeClassic ∧ c.aclDataSizeClassic + hciAclPreambleSize < 65536)
    (hble : 2 ≤ c.aclDataSizeBle ∧ c.aclDataSizeBle + hciAclPreambleSize < 65536) :
    ∃ frags n, fragmentAndDispatch c packet = some frags ∧
      Calls.trace reassembleAndDispatch t (frags.map (FragOut.received msgHcToStackHciAcl)) =
        some (List.replicate n none ++ [some (wrapPacketAndCopy msgHcToStackHciAcl packet.payload)],
          t.setPartial (streamToUint16 packet.payload 0 &&& handleMask) none) := by
  have hhandle : streamToUint16 packet.data packet.offset = streamToUint16 packet.payload 0 := by
    have h8 := hpdu.length_lt.1
    rw [BtHdr.length_payload hfit] at h8
    rw [BtHdr.payload, streamToUint16_load (by omega), Nat.add_zero]
  unfold fragmentAndDispatch fragmentAndDispatchAcl
  dsimp only
  rw [if_pos hev, hhandle]
  -- the controller's buffer size by the sub-event
  split
  · exact trace_fragmentAclLoop hls hfit hlt hpdu hclassic.1 hclassic.2 t
  · exact trace_fragmentAclLoop hls hfit hlt hpdu hble.1 hble.2 t

/-- A twelve-byte packet on handle `1` cut for a controller that takes four data bytes a
fragment. -/
theorem fragment_and_reassemble_acl_in_two :
    ∃ frags n, fragmentAndDispatch ⟨4, 27, 0⟩
        ⟨0x2100, 12, 0, 0, [0x01, 0x20, 0x08, 0x00, 0x04, 0x00, 0x40, 0x00, 0xAA, 0xBB, 0xCC, 0xDD]⟩ =
        some frags ∧
      Calls.trace reassembleAndDispatch Fragmenter.empty (frags.map (FragOut.received msgHcToStackHciAcl)) =
        some (List.replicate n none ++ [some (wrapPacketAndCopy msgHcToStackHciAcl
            [0x01, 0x20, 0x08, 0x00, 0x04, 0x00, 0x40, 0x00, 0xAA, 0xBB, 0xCC, 0xDD])],
          Fragmenter.empty.setPartial 1 none) :=
  fragment_and_reassemble_acl ⟨4, 27, 0⟩ _ Fragmenter.empty (by decide) rfl (by decide) (by decide)
    ⟨by decide, by decide, by decide, by decide, by decide⟩ ⟨by decide, by decide⟩
    ⟨by decide, by decide⟩

end BluetoothStack.Hci
