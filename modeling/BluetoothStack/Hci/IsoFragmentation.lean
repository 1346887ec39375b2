import Mathlib
import BluetoothStack.Hci.Fragmentation

/-!
# Fragmentation and reassembly of ISO packets

The ISO half of packet_fragmenter.cc against itself, as the ACL half is in
`BluetoothStack.Hci.Fragmentation`, whose rounds and buffers this module reuses: the ISO loop
cuts a packet as the ACL loop does and differs in the handle word of the next header.

Read `fragment_and_reassemble_iso` first: an ISO SDU without a time stamp, cut by
`fragment_and_dispatch` and handed back up fragment by fragment, comes up once, with the last
fragment, with its length, handle and bytes (`IsoSduOf`). A packet that fits goes down with the
complete flag and comes up from the start branch of the reassembler
(`reassembleAndDispatch_isoCompleteFrame`); a longer one opens a partial packet with its first
fragment (`reassembleAndDispatch_isoStartFrame`), and the later fragments, whose headers carry the
flags of `isoNextHandle`, extend and complete it (`trace_isoContinuationRounds`). Both start
frames go through one lemma for the start branch on a frame without a time stamp
(`reassembleIsoStart_untimed`).

`fragment_iso_timestamp_flag` is about packets with a time stamp: the flagged handle that
`fragment_and_dispatch_iso` computes reaches the controller only when the packet fits in one
fragment.
-/

namespace BluetoothStack.Hci

open Bytes

section HandleWord

theorem hciIsoGetTsFlag_eq (x : Nat) : hciIsoGetTsFlag x = x / 16384 % 2 := by
  rw [hciIsoGetTsFlag, show (0x0001 : Nat) = 2 ^ 1 - 1 from rfl, Nat.and_two_pow_sub_one_eq_mod,
    Nat.shiftRight_eq_div_pow]

/-- The handle with a packet boundary flag `f` written into bits 12 and 13. -/
theorem and_isoFlagsMask_or {x f : Nat} (hf : f < 4) :
    (x &&& 0x4FFF) ||| (f <<< 12) = x / 16384 % 2 * 16384 + f * 4096 + x % 4096 := by
  have hsplit : x &&& 0x4FFF = x &&& 0x4000 ||| x &&& 0x0FFF := by
    rw [← Nat.and_or_distrib_left]
    rfl
  have hhi : x &&& 0x4000 = x / 16384 % 2 * 16384 := by
    rw [show (0x4000 : Nat) = (2 ^ 1 - 1) <<< 14 from rfl, Bits.and_field]
    rfl
  have hlo : x &&& 0x0FFF = x % 4096 := and_handleMask x
  have hmid : f <<< 12 ||| x % 4096 = f * 4096 + x % 4096 := by
    rw [Nat.shiftLeft_eq]
    exact Bits.or_eq_add (k := 12) (by simp) (by omega)
  rw [hsplit, hhi, hlo, Nat.or_assoc, Nat.or_comm (x % 4096), hmid,
    Bits.or_eq_add (k := 14) (by omega) (by omega), Nat.add_assoc]

theorem hciIsoSetContinuationFlag_eq (x : Nat) :
    hciIsoSetContinuationFlag x = x / 16384 % 2 * 16384 + 1 * 4096 + x % 4096 :=
  and_isoFlagsMask_or (by norm_num)

theorem hciIsoSetCompleteFlag_eq (x : Nat) :
    hciIsoSetCompleteFlag x = x / 16384 % 2 * 16384 + 2 * 4096 + x % 4096 :=
  and_isoFlagsMask_or (by norm_num)

theorem hciIsoSetEndFragFlag_eq (x : Nat) :
    hciIsoSetEndFragFlag x = x / 16384 % 2 * 16384 + 3 * 4096 + x % 4096 :=
  and_isoFlagsMask_or (by norm_num)

theorem hciIsoSetTimestampFlag_eq (x : Nat) :
    hciIsoSetTimestampFlag x = 1 * 16384 + x % 16384 := by
  have hmid : x % 16384 ||| 1 <<< 14 = x % 16384 + 1 * 16384 :=
    @Bits.or_eq_add_of_lt (x % 16384) (1 <<< 14) 14 (Nat.mod_lt _ (by norm_num)) (by decide)
  rw [hciIsoSetTimestampFlag, show (0x3FFF : Nat) = 2 ^ 14 - 1 from rfl,
    Nat.and_two_pow_sub_one_eq_mod, hmid, Nat.add_comm]

/-- The fields of an ISO handle word: the time stamp flag `t`, the packet boundary flag `f` and
the handle `h`. -/
theorem isoWord_fields {t f h : Nat} (ht : t < 2) (hf : f < 4) (hh : h < 4096) :
    t * 16384 + f * 4096 + h < 65536 ∧ getBoundaryFlag (t * 16384 + f * 4096 + h) = f ∧
      hciIsoGetTsFlag (t * 16384 + f * 4096 + h) = t ∧
      (t * 16384 + f * 4096 + h) &&& handleMask = h := by
  refine ⟨by omega, ?_, ?_, ?_⟩
  · rw [getBoundaryFlag_eq]
    omega
  · rw [hciIsoGetTsFlag_eq]
    omega
  · rw [and_handleMask]
    omega

end HandleWord

/-! ## The reassembler on ISO frames -/

theorem iso_event_mask : msgHcToStackHciIso &&& msgEvtMask = msgHcToStackHciIso := rfl

theorem iso_ne_acl : msgHcToStackHciIso ≠ msgHcToStackHciAcl := by decide

theorem iso_ne_sco : msgHcToStackHciIso ≠ msgHcToStackHciSco := by decide

/-- An ISO frame from the controller whose length word is right goes to the start or the
continuation branch by its packet boundary flag. -/
theorem reassembleAndDispatch_isoFrame {t : Fragmenter} {frame : List UInt8}
    (hlen : (streamToUint16 frame 2 &&& 0x3FFF) + hciIsoPreambleSize = frame.length) :
    reassembleAndDispatch t (wrapPacketAndCopy msgHcToStackHciIso frame) =
      if getBoundaryFlag (streamToUint16 frame 0) = hciIsoBfCompletePacket ∨
          getBoundaryFlag (streamToUint16 frame 0) = hciIsoBfFirstFragmentedPacket then
        reassembleIsoStart t (wrapPacketAndCopy msgHcToStackHciIso frame)
          (streamToUint16 frame 0 &&& handleMask) (streamToUint16 frame 2 &&& 0x3FFF)
          (getBoundaryFlag (streamToUint16 frame 0)) (hciIsoGetTsFlag (streamToUint16 frame 0))
      else reassembleIsoContinuation t (wrapPacketAndCopy msgHcToStackHciIso frame)
          (streamToUint16 frame 0 &&& handleMask) (getBoundaryFlag (streamToUint16 frame 0)) := by
  unfold reassembleAndDispatch
  simp only [wrapPacketAndCopy_event, iso_event_mask, iso_ne_acl, iso_ne_sco, ↓reduceIte]
  unfold reassembleIso
  simp only [wrapPacketAndCopy_data, wrapPacketAndCopy_len]
  rw [loadIn_of_le (by omega), Option.bind_eq_bind, Option.bind_some,
    leValue_take_load_header _ hciIsoPreambleSize (by simp [hciIsoPreambleSize]),
    leValue_drop_load_header _ hciIsoPreambleSize rfl]
  simp only [hlen, ne_eq, not_true_eq_false, ↓reduceIte]

theorem offsetPointsData_containsTs :
    (0 ||| btIsoHdrOffsetPointsData) &&& btIsoHdrContainsTs = 0 := by decide

/-- A continuation or last ISO frame with the next `n` bytes of the PDU whose first `off` bytes
the partial packet of its handle holds: the bytes go after them; a continuation fragment keeps the
packet, and a last fragment that fills it hands the SDU up with its offset at the data. -/
theorem reassembleIsoContinuation_frame {t : Fragmenter} {pdu : List UInt8}
    {off n word h bf : Nat}
    (ht : t.partialIsoPackets h = some (partialAt msgHcToStackHciIso pdu off))
    (hoff : off + n ≤ pdu.length) (hmax : pdu.length < 65536) :
    reassembleIsoContinuation t (wrapPacketAndCopy msgHcToStackHciIso
        (uint16ToStream word ++ uint16ToStream n ++ load off n pdu)) h bf =
      if bf = hciIsoBfContinuationFragmentPacket then
        some (none, t.setPartialIso h (some (partialAt msgHcToStackHciIso pdu (off + n))))
      else if off + n = pdu.length then
        some (some { partialAt msgHcToStackHciIso pdu pdu.length with
            layerSpecific := btIsoHdrOffsetPointsData,
            offset := hciIsoPreambleSize + hciIsoHeaderLenWithoutTs },
          t.setPartialIso h none)
      else some (none, t.setPartialIso h none) := by
  have hchunk : (load off n pdu).length = n := length_load_of_le hoff
  generalize hframe : uint16ToStream word ++ uint16ToStream n ++ load off n pdu = frame
  have hlen : frame.length = n + hciIsoPreambleSize := by
    rw [← hframe]
    simp only [List.length_append, length_uint16ToStream, hchunk, hciIsoPreambleSize]
    omega
  unfold reassembleIsoContinuation
  rw [ht]
  dsimp only [partialAt, wrapPacketAndCopy]
  -- the frame brings no more than the partial packet misses
  have hn4 : frame.length - hciIsoPreambleSize = n := by
    rw [hlen]
    rfl
  have hend : off + frame.length - hciIsoPreambleSize = off + n := by
    rw [hlen]
    simp only [hciIsoPreambleSize]
    omega
  simp only [hend, show ¬pdu.length < off + n by omega, ↓reduceIte]
  have hdrop : frame.drop hciIsoPreambleSize = load off n pdu ++ [] := by
    rw [← hframe, List.append_nil]
    exact List.drop_left' (by simp [hciIsoPreambleSize])
  rw [hn4, ← hchunk, loadIn_of_drop hdrop (by rw [hlen]; simp [hciIsoPreambleSize]),
    Option.bind_eq_bind, Option.bind_some, hchunk,
    storeIn_of_le (by rw [hchunk, length_partialData (by omega)]; omega),
    Option.bind_some, store_partialData hoff, Nat.mod_eq_of_lt (by omega)]
  by_cases hbf : bf = hciIsoBfContinuationFragmentPacket
  · rw [if_pos hbf, if_pos hbf]
  rw [if_neg hbf, if_neg hbf]
  by_cases hfull : off + n = pdu.length
  · -- the last fragment fills the packet: it goes up with its offset at the data
    rw [if_neg (not_not.2 hfull.symm), if_pos hfull, offsetPointsData_containsTs, hfull]
    rfl
  · rw [if_pos (Ne.symm hfull), if_neg hfull]

/-- **The start branch on a frame without a time stamp.** Past the checks of its header, a
first fragment opens a partial packet of the length its SDU length gives, and a complete packet
goes up in storage of its own, the offset at the data; both start with the frame and carry the
whole packet's ISO length. -/
theorem reassembleIsoStart_untimed {t : Fragmenter} {frame : List UInt8} {h isoLength bf full : Nat}
    (hbf : bf = hciIsoBfCompletePacket ∨ bf = hciIsoBfFirstFragmentedPacket)
    (hiso : hciIsoHeaderLenWithoutTs ≤ isoLength)
    (hlen : hciIsoPreambleSize + hciIsoHeaderLenWithoutTs ≤ frame.length)
    (hsdu : streamToUint16 frame 6 ≠ 0)
    (hfull : (streamToUint16 frame 6 &&& hciIsoSduLengthMask) + hciIsoHeaderLenWithoutTs +
      hciIsoPreambleSize = full)
    (hbuf : full + btHdrSize ≤ btDefaultBufferSize)
    (hcomplete : bf = hciIsoBfCompletePacket → full = frame.length)
    (hfirst : bf = hciIsoBfFirstFragmentedPacket → frame.length < full) :
    reassembleIsoStart t (wrapPacketAndCopy msgHcToStackHciIso frame) h isoLength bf 0 =
      if bf = hciIsoBfFirstFragmentedPacket then
        some (none, t.setPartialIso h (some ⟨msgHcToStackHciIso, full, frame.length, 0,
          store 2 (uint16ToStream (full - 4)) (store 0 frame (List.replicate full 0))⟩))
      else
        some (some ⟨msgHcToStackHciIso, full, hciIsoPreambleSize + hciIsoHeaderLenWithoutTs, 0,
          store 2 (uint16ToStream (full - 4)) (store 0 frame (List.replicate full 0))⟩,
          t.setPartialIso h none) := by
  have hmask : streamToUint16 frame 6 &&& hciIsoSduLengthMask ≤ 4095 := Nat.and_le_right
  simp only [hciIsoHeaderLenWithoutTs, hciIsoHeaderIsoLenSize, hciIsoHeaderPacketSeqSize,
    hciIsoPreambleSize, btHdrSize, btDefaultBufferSize] at hiso hlen hfull hbuf
  have hlarge : frame.length ≤ full := by
    rcases hbf with rfl | rfl
    · exact (hcomplete rfl).ge
    · exact (hfirst rfl).le
  -- no branch that drops the frame is taken: the header and the SDU length are right, and the
  -- frame is as long as its boundary flag says
  have hkeep : ¬((bf = hciIsoBfCompletePacket ∧ full ≠ frame.length) ∨
      (bf = hciIsoBfFirstFragmentedPacket ∧ full ≤ frame.length)) := by
    rintro (⟨hb, hne⟩ | ⟨hb, hle⟩)
    · exact hne (hcomplete hb)
    · exact absurd (hfirst hb) (by omega)
  unfold reassembleIsoStart
  simp only [ne_eq, not_true_eq_false, ↓reduceIte, wrapPacketAndCopy_data, wrapPacketAndCopy_len,
    wrapPacketAndCopy_event, wrapPacketAndCopy_layerSpecific]
  rw [loadIn_of_le (by simp only [hciIsoPreambleSize, hciIsoHeaderLenWithoutTs,
      hciIsoHeaderIsoLenSize, hciIsoHeaderPacketSeqSize]; omega),
    Option.bind_eq_bind, Option.bind_some,
    show leValue (load (hciIsoPreambleSize + hciIsoHeaderLenWithoutTs - 2) 2 frame) =
      streamToUint16 frame 6 from rfl]
  have hmod : ((streamToUint16 frame 6 &&& hciIsoSduLengthMask) + hciIsoHeaderLenWithoutTs +
      hciIsoPreambleSize) % 65536 = full := by
    simp only [hciIsoHeaderLenWithoutTs, hciIsoHeaderIsoLenSize, hciIsoHeaderPacketSeqSize,
      hciIsoPreambleSize]
    omega
  simp only [show ¬isoLength < hciIsoHeaderLenWithoutTs by
      simp only [hciIsoHeaderLenWithoutTs, hciIsoHeaderIsoLenSize, hciIsoHeaderPacketSeqSize]
      omega,
    hsdu, hmod, hkeep, show ¬full + btHdrSize > btDefaultBufferSize by
      simp only [btHdrSize, btDefaultBufferSize]; omega, ↓reduceIte]
  have hall : load 0 frame.length frame = frame := by
    rw [load, List.drop_zero, List.take_length]
  rw [allocPartial_eq le_rfl hlarge (by omega), Option.bind_some,
    Fragmenter.setPartialIso_setPartialIso]
  simp only [wrapPacketAndCopy_data, wrapPacketAndCopy_len, hall]
  rfl

/-- An ISO SDU as the stack hands it down whole, without a time stamp: the handle word of a first
fragment without the time stamp flag, the ISO length and the SDU length of the packet (the SDU
length not zero), and room in a buffer of the default pool. -/
structure WholeIsoPacket (pdu : List UInt8) : Prop where
  boundary : getBoundaryFlag (streamToUint16 pdu 0) = hciIsoBfFirstFragmentedPacket
  timestamp : hciIsoGetTsFlag (streamToUint16 pdu 0) = 0
  isoLength : streamToUint16 pdu 2 + hciIsoPreambleSize = pdu.length
  sduLength : (streamToUint16 pdu 6 &&& hciIsoSduLengthMask) + hciIsoHeaderLenWithoutTs +
    hciIsoPreambleSize = pdu.length
  sduNonzero : streamToUint16 pdu 6 ≠ 0
  buffer : pdu.length + btHdrSize ≤ btDefaultBufferSize

theorem WholeIsoPacket.length_le {pdu : List UInt8} (hpdu : WholeIsoPacket pdu) :
    8 ≤ pdu.length ∧ pdu.length ≤ 4104 := by
  have hsdu := hpdu.sduLength
  have hbuf := hpdu.buffer
  simp only [hciIsoHeaderLenWithoutTs, hciIsoHeaderIsoLenSize, hciIsoHeaderPacketSeqSize,
    hciIsoPreambleSize, btHdrSize, btDefaultBufferSize] at hsdu hbuf
  omega

/-- What comes up for an ISO SDU the stack sent without a time stamp: an ISO packet from the
controller of the SDU's length, its offset at the data past a header without a time stamp, on the
SDU's handle, with the SDU's bytes after the handle word. -/
structure IsoSduOf (pdu : List UInt8) (q : BtHdr) : Prop where
  event : q.event = msgHcToStackHciIso
  len : q.len = pdu.length
  offset : q.offset = hciIsoPreambleSize + hciIsoHeaderLenWithoutTs
  untimed : q.layerSpecific &&& btIsoHdrContainsTs = 0
  handle : streamToUint16 q.data 0 &&& handleMask = streamToUint16 pdu 0 &&& handleMask
  body : q.data.drop 2 = pdu.drop 2

theorem and_isoLengthMask {x : Nat} (h : x < 16384) : x &&& 0x3FFF = x := by
  rw [show (0x3FFF : Nat) = 2 ^ 14 - 1 from rfl, Nat.and_two_pow_sub_one_eq_mod,
    Nat.mod_eq_of_lt h]

theorem streamToUint16_drop (pdu : List UInt8) (k i : Nat) :
    streamToUint16 (pdu.drop k) i = streamToUint16 pdu (k + i) := by
  unfold streamToUint16 load
  rw [List.drop_drop]

/-- A word of a start frame past its header is the PDU's. -/
theorem streamToUint16_startFrame_body {pdu : List UInt8} {m i : Nat} (hi : i + 2 ≤ m)
    (h4 : 4 ≤ pdu.length) :
    streamToUint16 (load 0 2 pdu ++ uint16ToStream m ++ load 4 m pdu) (4 + i) =
      streamToUint16 pdu (4 + i) := by
  have h2 : (load 0 2 pdu).length = 2 := length_load_of_le (by omega)
  have hright := streamToUint16_append_right (load 0 2 pdu ++ uint16ToStream m) (load 4 m pdu) i
  rw [List.length_append, h2, length_uint16ToStream] at hright
  rw [hright, streamToUint16_load hi]

/-- The first fragment of an SDU opens the partial packet of its handle. -/
theorem reassembleAndDispatch_isoStartFrame {t : Fragmenter} {pdu : List UInt8} {m : Nat}
    (hpdu : WholeIsoPacket pdu) (hm : 4 ≤ m) (hmL : m + hciIsoPreambleSize < pdu.length) :
    reassembleAndDispatch t (wrapPacketAndCopy msgHcToStackHciIso
        (load 0 2 pdu ++ uint16ToStream m ++ load 4 m pdu)) =
      some (none, t.setPartialIso (streamToUint16 pdu 0 &&& handleMask)
        (some (partialAt msgHcToStackHciIso pdu (m + hciIsoPreambleSize)))) := by
  obtain ⟨h8, hmax⟩ := hpdu.length_le
  have hiso := hpdu.isoLength
  simp only [hciIsoPreambleSize] at hmL hiso
  obtain ⟨h0, h2, -⟩ := @streamToUint16_startFrame pdu m (by omega) (by omega)
  have h6 := @streamToUint16_startFrame_body pdu m 2 (by omega) (by omega)
  rw [Nat.mod_eq_of_lt (by omega)] at h2
  have hlen : (load 0 2 pdu ++ uint16ToStream m ++ load 4 m pdu).length =
      m + hciIsoPreambleSize := by
    simp only [List.length_append, @length_load_of_le 0 2 pdu (by omega), length_uint16ToStream,
      @length_load_of_le 4 m pdu (by omega), hciIsoPreambleSize]
    omega
  rw [reassembleAndDispatch_isoFrame (by rw [h2, hlen, and_isoLengthMask (by omega)]), h0, h2,
    hpdu.boundary, and_isoLengthMask (by omega), hpdu.timestamp, if_pos (Or.inr rfl),
    reassembleIsoStart_untimed (Or.inr rfl) (by simp [hciIsoHeaderLenWithoutTs,
      hciIsoHeaderIsoLenSize, hciIsoHeaderPacketSeqSize]; omega)
      (by rw [hlen]; simp [hciIsoHeaderLenWithoutTs, hciIsoHeaderIsoLenSize,
        hciIsoHeaderPacketSeqSize, hciIsoPreambleSize]; omega)
      (by rw [h6]; exact hpdu.sduNonzero) (by rw [h6]; exact hpdu.sduLength) hpdu.buffer
      (fun h => absurd h (by decide)) (fun _ => by rw [hlen]; exact hmL), if_pos rfl,
    show pdu.length - 4 = streamToUint16 pdu 2 by omega, hlen,
    store_startFrame_data (by omega : m + 4 ≤ pdu.length)]
  rfl

/-- A packet that fits in one fragment goes down with the complete flag in its handle word, and
comes up whole in storage of its own, the offset at the data. -/
theorem reassembleAndDispatch_isoCompleteFrame {t : Fragmenter} {pdu : List UInt8}
    (hpdu : WholeIsoPacket pdu) :
    reassembleAndDispatch t (wrapPacketAndCopy msgHcToStackHciIso
        (uint16ToStream (hciIsoSetCompleteFlag (streamToUint16 pdu 0)) ++ pdu.drop 2)) =
      some (some ⟨msgHcToStackHciIso, pdu.length, hciIsoPreambleSize + hciIsoHeaderLenWithoutTs,
          0, uint16ToStream (hciIsoSetCompleteFlag (streamToUint16 pdu 0)) ++ pdu.drop 2⟩,
        t.setPartialIso (streamToUint16 pdu 0 &&& handleMask) none) := by
  obtain ⟨h8, hmax⟩ := hpdu.length_le
  have hiso := hpdu.isoLength
  simp only [hciIsoPreambleSize] at hiso
  have hw := streamToUint16_lt pdu 0
  generalize hc : hciIsoSetCompleteFlag (streamToUint16 pdu 0) = c
  -- the complete flag goes over the boundary flag and leaves the time stamp flag and the handle
  obtain ⟨hclt, hcbf, hcts, hch⟩ := @isoWord_fields 0 2 (streamToUint16 pdu 0 % 4096)
    (by norm_num) (by norm_num) (Nat.mod_lt _ (by norm_num))
  have hcw : c = 0 * 16384 + 2 * 4096 + streamToUint16 pdu 0 % 4096 := by
    have hts := hpdu.timestamp
    rw [hciIsoGetTsFlag_eq] at hts
    rw [← hc, hciIsoSetCompleteFlag_eq, hts]
  rw [← hcw] at hclt hcbf hcts hch
  have hF : (uint16ToStream c ++ pdu.drop 2).length = pdu.length := by
    rw [List.length_append, length_uint16ToStream, List.length_drop]
    omega
  have hword : ∀ i, streamToUint16 (uint16ToStream c ++ pdu.drop 2) (2 + i) =
      streamToUint16 pdu (2 + i) := by
    intro i
    have hright := streamToUint16_append_right (uint16ToStream c) (pdu.drop 2) i
    rw [length_uint16ToStream] at hright
    rw [hright, streamToUint16_drop]
  have h0 : streamToUint16 (uint16ToStream c ++ pdu.drop 2) 0 = c := by
    rw [streamToUint16_uint16ToStream_append, Nat.mod_eq_of_lt hclt]
  have h2 : streamToUint16 (uint16ToStream c ++ pdu.drop 2) 2 = streamToUint16 pdu 2 := hword 0
  have h6 : streamToUint16 (uint16ToStream c ++ pdu.drop 2) 6 = streamToUint16 pdu 6 := hword 4
  have hcomplete : getBoundaryFlag c = hciIsoBfCompletePacket := hcbf
  rw [reassembleAndDispatch_isoFrame
      (by rw [h2, and_isoLengthMask (by omega), hF]; exact hpdu.isoLength), h0, h2, hcomplete,
    hcts, hch, and_isoLengthMask (by omega), if_pos (Or.inl rfl),
    reassembleIsoStart_untimed (Or.inl rfl) (by simp [hciIsoHeaderLenWithoutTs,
      hciIsoHeaderIsoLenSize, hciIsoHeaderPacketSeqSize]; omega)
      (by rw [hF]; simp [hciIsoHeaderLenWithoutTs, hciIsoHeaderIsoLenSize,
        hciIsoHeaderPacketSeqSize, hciIsoPreambleSize]; omega)
      (by rw [h6]; exact hpdu.sduNonzero) (by rw [h6]; exact hpdu.sduLength) hpdu.buffer
      (fun _ => hF.symm) (fun h => absurd h (by decide)), if_neg (by decide),
    store_zero_of_length (by rw [hF, List.length_replicate]), and_handleMask]
  -- the ISO length the reassembler writes is the one the frame carries
  have hlenWord : uint16ToStream (pdu.length - 4) =
      load 2 2 (uint16ToStream c ++ pdu.drop 2) := by
    have hback := leBytes_leValue (load 2 2 (uint16ToStream c ++ pdu.drop 2))
    rw [length_load_of_le (by rw [hF]; omega)] at hback
    rw [← hback, show pdu.length - 4 = streamToUint16 (uint16ToStream c ++ pdu.drop 2) 2 by
      rw [h2]; omega]
    rfl
  rw [hlenWord, store_load_self (by rw [hF]; omega)]

/-- A continuation or last ISO frame goes to the continuation branch with its flag. -/
theorem reassembleAndDispatch_isoContinuationFrame {t : Fragmenter} {pdu : List UInt8}
    {off n word : Nat} (hword : word < 65536)
    (hbf : getBoundaryFlag word = hciIsoBfContinuationFragmentPacket ∨
      getBoundaryFlag word = hciIsoBfLastFragmentPacket)
    (ht : t.partialIsoPackets (word &&& handleMask) =
      some (partialAt msgHcToStackHciIso pdu off))
    (hoff : off + n ≤ pdu.length) (hmax : pdu.length < 16384) :
    reassembleAndDispatch t (wrapPacketAndCopy msgHcToStackHciIso
        (uint16ToStream word ++ uint16ToStream n ++ load off n pdu)) =
      if getBoundaryFlag word = hciIsoBfContinuationFragmentPacket then
        some (none, t.setPartialIso (word &&& handleMask)
          (some (partialAt msgHcToStackHciIso pdu (off + n))))
      else if off + n = pdu.length then
        some (some { partialAt msgHcToStackHciIso pdu pdu.length with
            layerSpecific := btIsoHdrOffsetPointsData,
            offset := hciIsoPreambleSize + hciIsoHeaderLenWithoutTs },
          t.setPartialIso (word &&& handleMask) none)
      else some (none, t.setPartialIso (word &&& handleMask) none) := by
  obtain ⟨h0, h2⟩ := streamToUint16_frame word n (load off n pdu)
  rw [Nat.mod_eq_of_lt hword] at h0
  rw [Nat.mod_eq_of_lt (by omega)] at h2
  have hlen : (uint16ToStream word ++ uint16ToStream n ++ load off n pdu).length =
      n + hciIsoPreambleSize := by
    simp only [List.length_append, length_uint16ToStream, length_load_of_le hoff,
      hciIsoPreambleSize]
    omega
  -- a continuation or an end flag is neither a start nor a complete flag
  have hstart : ¬(getBoundaryFlag word = hciIsoBfCompletePacket ∨
      getBoundaryFlag word = hciIsoBfFirstFragmentedPacket) := by
    rcases hbf with hb | hb <;> rw [hb] <;> decide
  rw [reassembleAndDispatch_isoFrame (by rw [h2, hlen, and_isoLengthMask (by omega)]), h0,
    if_neg hstart, reassembleIsoContinuation_frame ht hoff (by omega)]

/-! ## The rounds of the ISO sending loop -/

/-- The handle word `fragment_and_dispatch_iso` writes into the header of the next fragment when
`remainingLength` bytes are left: the continuation flag while they do not fit in one fragment,
the end flag once they do. -/
def isoNextHandle (maxDataSize handle remainingLength : Nat) : Nat :=
  if remainingLength > (maxDataSize + hciIsoPreambleSize) % 65536 then
    hciIsoSetContinuationFlag (handle &&& handleMask)
  else hciIsoSetEndFragFlag (handle &&& handleMask)

/-- The word of the next header: no time stamp flag, the continuation or the end flag, and the
handle. -/
theorem isoNextHandle_eq (maxDataSize handle remainingLength : Nat) :
    isoNextHandle maxDataSize handle remainingLength = 0 * 16384 +
      (if remainingLength > (maxDataSize + hciIsoPreambleSize) % 65536 then 1 else 3) * 4096 +
      (handle &&& handleMask) := by
  have hh : handle &&& handleMask < 4096 := by
    rw [and_handleMask]
    exact Nat.mod_lt _ (by norm_num)
  unfold isoNextHandle
  split
  · rw [hciIsoSetContinuationFlag_eq]
    omega
  · rw [hciIsoSetEndFragFlag_eq]
    omega

theorem isoNextHandle_fields (maxDataSize handle remainingLength : Nat) :
    isoNextHandle maxDataSize handle remainingLength < 65536 ∧
      getBoundaryFlag (isoNextHandle maxDataSize handle remainingLength) =
        (if remainingLength > (maxDataSize + hciIsoPreambleSize) % 65536 then 1 else 3) ∧
      hciIsoGetTsFlag (isoNextHandle maxDataSize handle remainingLength) = 0 ∧
      isoNextHandle maxDataSize handle remainingLength &&& handleMask = handle &&& handleMask := by
  have hh : handle &&& handleMask < 4096 := by
    rw [and_handleMask]
    exact Nat.mod_lt _ (by norm_num)
  rw [isoNextHandle_eq]
  exact isoWord_fields (by norm_num) (by split <;> norm_num) hh

section IsoRounds

variable {maxDataSize handle fuel : Nat} {packet : BtHdr}

theorem fragmentIsoLoop_round
    (hlong : (maxDataSize + hciIsoPreambleSize) % 65536 < packet.len) :
    fragmentIsoLoop maxDataSize handle (fuel + 1) packet packet.len =
      (fragmentIsoLoop maxDataSize handle fuel
        (roundNext maxDataSize (isoNextHandle maxDataSize handle (packet.len - maxDataSize))
          packet) (packet.len - maxDataSize)).map
        (.fragmented (roundSent maxDataSize packet) false :: ·) := by
  rw [fragmentIsoLoop, if_pos hlong]
  rfl

theorem fragmentIsoLoop_last {remainingLength : Nat}
    (hshort : ¬(maxDataSize + hciIsoPreambleSize) % 65536 < remainingLength) :
    fragmentIsoLoop maxDataSize handle (fuel + 1) packet remainingLength =
      some [.fragmented packet true] := by
  rw [fragmentIsoLoop, if_neg hshort]

end IsoRounds

section IsoRoundTrip

variable {maxDataSize handle : Nat} {pdu : List UInt8}
  (hsize : 2 ≤ maxDataSize) (hmax : maxDataSize + hciIsoPreambleSize < 65536)
  (hpdu : pdu.length < 16384)
include hsize hmax hpdu

/-- The later rounds of the ISO loop, against a reassembler that holds the SDU up to the bytes
the buffer still has to send: continuation fragments extend the partial packet, and the end
fragment hands the SDU up, once. By induction on the fuel, for every buffer whose next header
carries the flag the loop writes, and every state of the reassembler. -/
theorem trace_isoContinuationRounds :
    ∀ (fuel : Nat) (q : BtHdr) (t : Fragmenter),
      ContinuationBuffer (isoNextHandle maxDataSize handle q.len) pdu q → q.len < fuel →
      t.partialIsoPackets (handle &&& handleMask) =
        some (partialAt msgHcToStackHciIso pdu (pdu.length - (q.len - 4))) →
      ∃ frags n, fragmentIsoLoop maxDataSize handle fuel q q.len = some frags ∧
        Calls.trace reassembleAndDispatch t (frags.map (FragOut.received msgHcToStackHciIso)) =
          some (List.replicate n none ++ [some { partialAt msgHcToStackHciIso pdu pdu.length with
              layerSpecific := btIsoHdrOffsetPointsData,
              offset := hciIsoPreambleSize + hciIsoHeaderLenWithoutTs }],
            t.setPartialIso (handle &&& handleMask) none) := by
  intro fuel
  induction fuel with
  | zero =>
    intro q t _ hfuel
    omega
  | succ fuel ih =>
    intro q t hq hfuel ht
    have hlen := hq.len_le
    have hmod : (maxDataSize + hciIsoPreambleSize) % 65536 = maxDataSize + hciIsoPreambleSize :=
      Nat.mod_eq_of_lt hmax
    obtain ⟨hwlt, hwbf, -, hwh⟩ := isoNextHandle_fields maxDataSize handle q.len
    rw [← hwh] at ht
    by_cases hlong : maxDataSize + hciIsoPreambleSize < q.len
    · -- a continuation fragment brings the next `max_data_size` bytes to the partial packet
      have hlong' := hlong
      unfold hciIsoPreambleSize at hlong'
      have hbf : getBoundaryFlag (isoNextHandle maxDataSize handle q.len) =
          hciIsoBfContinuationFragmentPacket := by
        rw [hwbf, if_pos (by rwa [hmod])]
        rfl
      have hnext : (roundNext maxDataSize (isoNextHandle maxDataSize handle (q.len - maxDataSize))
          q).len = q.len - maxDataSize := rfl
      have hstep : reassembleAndDispatch t
          (FragOut.received msgHcToStackHciIso (.fragmented (roundSent maxDataSize q) false)) =
          some (none, t.setPartialIso (handle &&& handleMask) (some (partialAt msgHcToStackHciIso
            pdu (pdu.length - (q.len - 4) + maxDataSize)))) := by
        rw [FragOut.received, FragOut.packet, hq.sent_payload hsize hmax hlong,
          reassembleAndDispatch_isoContinuationFrame hwlt (Or.inl hbf) ht (by omega) hpdu,
          if_pos hbf, hwh]
      have ht' : (t.setPartialIso (handle &&& handleMask) (some (partialAt msgHcToStackHciIso pdu
          (pdu.length - (q.len - 4) + maxDataSize)))).partialIsoPackets (handle &&& handleMask) =
          some (partialAt msgHcToStackHciIso pdu (pdu.length - ((roundNext maxDataSize
            (isoNextHandle maxDataSize handle (q.len - maxDataSize)) q).len - 4))) := by
        rw [Fragmenter.setPartialIso_partialIsoPackets, Function.update_self, hnext,
          show pdu.length - (q.len - maxDataSize - 4) = pdu.length - (q.len - 4) + maxDataSize by
            omega]
      obtain ⟨frags, n, hloop, htrace⟩ := ih (roundNext maxDataSize
        (isoNextHandle maxDataSize handle (q.len - maxDataSize)) q) _
        (hq.next hsize hmax hlong _) (by rw [hnext]; omega) ht'
      refine ⟨.fragmented (roundSent maxDataSize q) false :: frags, n + 1, ?_, ?_⟩
      · rw [hnext] at hloop
        rw [fragmentIsoLoop_round (by rwa [hmod]), hloop, Option.map_some]
      · rw [List.map_cons, Calls.trace_cons_of_step hstep, htrace, Option.map_some,
          Fragmenter.setPartialIso_setPartialIso, List.replicate_succ, List.cons_append]
    · -- the end fragment completes the SDU
      have hfour := hq.four_le
      have hbf : getBoundaryFlag (isoNextHandle maxDataSize handle q.len) =
          hciIsoBfLastFragmentPacket := by
        rw [hwbf, if_neg (by rwa [hmod])]
        rfl
      have hstep : reassembleAndDispatch t
          (FragOut.received msgHcToStackHciIso (.fragmented q true)) =
          some (some { partialAt msgHcToStackHciIso pdu pdu.length with
              layerSpecific := btIsoHdrOffsetPointsData,
              offset := hciIsoPreambleSize + hciIsoHeaderLenWithoutTs },
            t.setPartialIso (handle &&& handleMask) none) := by
        rw [FragOut.received, FragOut.packet, hq.bytes,
          reassembleAndDispatch_isoContinuationFrame hwlt (Or.inr hbf) ht (by omega) hpdu, hbf,
          if_neg (by decide), if_pos (by omega), hwh]
      refine ⟨[.fragmented q true], 0, fragmentIsoLoop_last (by rwa [hmod]), ?_⟩
      rw [List.map_cons, List.map_nil, Calls.trace_cons_of_step hstep]
      rfl

end IsoRoundTrip

section Iso

variable {maxDataSize : Nat} {packet : BtHdr} (hfit : packet.Fits)
  (hlt : packet.offset + packet.len < 65536) (hpdu : WholeIsoPacket packet.payload)
  (hsize : 4 ≤ maxDataSize) (hmax : maxDataSize + hciIsoPreambleSize < 65536)
include hfit hlt hpdu hsize hmax

/-- The whole loop of `fragment_and_dispatch_iso` against the reassembler, from any state: the
first fragment opens the partial packet, the later ones are `trace_isoContinuationRounds`. -/
theorem trace_fragmentIsoLoop (hlong : maxDataSize + hciIsoPreambleSize < packet.len)
    (t : Fragmenter) :
    ∃ frags n, fragmentIsoLoop maxDataSize (streamToUint16 packet.payload 0) (packet.len + 1)
        packet packet.len = some frags ∧
      Calls.trace reassembleAndDispatch t (frags.map (FragOut.received msgHcToStackHciIso)) =
        some (List.replicate n none ++ [some { partialAt msgHcToStackHciIso packet.payload
            packet.payload.length with
            layerSpecific := btIsoHdrOffsetPointsData,
            offset := hciIsoPreambleSize + hciIsoHeaderLenWithoutTs }],
          t.setPartialIso (streamToUint16 packet.payload 0 &&& handleMask) none) := by
  have hlen := BtHdr.length_payload hfit
  obtain ⟨h8, hpdu_le⟩ := hpdu.length_le
  have hmod : (maxDataSize + hciIsoPreambleSize) % 65536 = maxDataSize + hciIsoPreambleSize :=
    Nat.mod_eq_of_lt hmax
  have hlong' := hlong
  unfold hciIsoPreambleSize at hlong'
  have hnext : (roundNext maxDataSize (isoNextHandle maxDataSize (streamToUint16 packet.payload 0)
      (packet.len - maxDataSize)) packet).len = packet.len - maxDataSize := rfl
  have hstep : reassembleAndDispatch t
      (FragOut.received msgHcToStackHciIso (.fragmented (roundSent maxDataSize packet) false)) =
      some (none, t.setPartialIso (streamToUint16 packet.payload 0 &&& handleMask)
        (some (partialAt msgHcToStackHciIso packet.payload
          (maxDataSize + hciIsoPreambleSize)))) := by
    rw [FragOut.received, FragOut.packet, payload_roundSent_first hfit hlong hmax,
      reassembleAndDispatch_isoStartFrame hpdu hsize (by rw [hlen]; exact hlong)]
  have ht : (t.setPartialIso (streamToUint16 packet.payload 0 &&& handleMask)
      (some (partialAt msgHcToStackHciIso packet.payload
        (maxDataSize + hciIsoPreambleSize)))).partialIsoPackets
        (streamToUint16 packet.payload 0 &&& handleMask) =
      some (partialAt msgHcToStackHciIso packet.payload (packet.payload.length -
        ((roundNext maxDataSize (isoNextHandle maxDataSize (streamToUint16 packet.payload 0)
          (packet.len - maxDataSize)) packet).len - 4))) := by
    rw [Fragmenter.setPartialIso_partialIsoPackets, Function.update_self, hnext, hlen,
      show packet.len - (packet.len - maxDataSize - 4) = maxDataSize + hciIsoPreambleSize by
        unfold hciIsoPreambleSize; omega]
  obtain ⟨frags, n, hloop, htrace⟩ := trace_isoContinuationRounds (by omega) hmax
    (by omega) packet.len _ _ (continuationBuffer_roundNext hfit hlong (by omega) hlt)
    (by rw [hnext]; omega) ht
  rw [hnext] at hloop
  refine ⟨.fragmented (roundSent maxDataSize packet) false :: frags, n + 1, ?_, ?_⟩
  · rw [fragmentIsoLoop_round (by rwa [hmod]), hloop, Option.map_some]
  · rw [List.map_cons, Calls.trace_cons_of_step hstep, htrace, Option.map_some,
      Fragmenter.setPartialIso_setPartialIso, List.replicate_succ, List.cons_append]

end Iso

/-- The bytes of a packet once a handle word is written over its first two. -/
theorem payload_store_handle {packet : BtHdr} (x : Nat) (hfit : packet.Fits)
    (h2 : 2 ≤ packet.len) :
    { packet with data := store packet.offset (uint16ToStream x) packet.data }.payload =
      uint16ToStream x ++ packet.payload.drop 2 := by
  unfold BtHdr.Fits at hfit
  simp only [BtHdr.payload]
  rw [load_store_within le_rfl (by rw [length_uint16ToStream]; omega) hfit, Nat.sub_self,
    length_uint16ToStream, drop_load, show packet.offset + packet.len - (packet.offset + 2) =
      packet.len - 2 by omega]
  simp [load]

theorem isoSduOf_reassembled {pdu : List UInt8} :
    IsoSduOf pdu { partialAt msgHcToStackHciIso pdu pdu.length with
      layerSpecific := btIsoHdrOffsetPointsData,
      offset := hciIsoPreambleSize + hciIsoHeaderLenWithoutTs } where
  event := rfl
  len := rfl
  offset := rfl
  untimed := (by decide : btIsoHdrOffsetPointsData &&& btIsoHdrContainsTs = 0)
  handle := by simp only [partialAt, partialData_length]
  body := by simp only [partialAt, partialData_length]

theorem isoSduOf_complete {pdu : List UInt8} :
    IsoSduOf pdu ⟨msgHcToStackHciIso, pdu.length,
      hciIsoPreambleSize + hciIsoHeaderLenWithoutTs, 0,
      uint16ToStream (hciIsoSetCompleteFlag (streamToUint16 pdu 0)) ++ pdu.drop 2⟩ where
  event := rfl
  len := rfl
  offset := rfl
  untimed := Nat.zero_and _
  handle := by
    have hw := streamToUint16_lt pdu 0
    rw [streamToUint16_uint16ToStream_append, hciIsoSetCompleteFlag_eq, and_handleMask,
      and_handleMask]
    omega
  body := by
    rw [List.drop_left' (length_uint16ToStream _)]

/-- **ISO fragmentation round trip.** An ISO SDU without a time stamp that the stack hands down
whole, cut by `fragment_and_dispatch` for a controller whose buffers take at least the four bytes
of the ISO header, each fragment's bytes then handed up to `reassemble_and_dispatch` in order, from
any state of the reassembler: the SDU comes up once, with the last fragment, with its length, its
handle and its bytes, its offset at the data; nothing comes up before, and no partial packet is
left for its handle. -/
theorem fragment_and_reassemble_iso (c : Controller) (packet : BtHdr) (t : Fragmenter)
    (hev : packet.event &&& msgEvtMask = msgStackToHcHciIso)
    (hls : packet.layerSpecific &&& btIsoHdrContainsTs = 0) (hfit : packet.Fits)
    (hlt : packet.offset + packet.len < 65536) (hpdu : WholeIsoPacket packet.payload)
    (hsize : 4 ≤ c.isoDataSize ∧ c.isoDataSize + hciIsoPreambleSize < 65536) :
    ∃ frags n q, fragmentAndDispatch c packet = some frags ∧
      Calls.trace reassembleAndDispatch t (frags.map (FragOut.received msgHcToStackHciIso)) =
        some (List.replicate n none ++ [some q],
          t.setPartialIso (streamToUint16 packet.payload 0 &&& handleMask) none) ∧
      IsoSduOf packet.payload q := by
  have hlen := BtHdr.length_payload hfit
  obtain ⟨h8, -⟩ := hpdu.length_le
  have hhandle : streamToUint16 packet.data packet.offset = streamToUint16 packet.payload 0 := by
    rw [hlen] at h8
    rw [BtHdr.payload, streamToUint16_load (by omega), Nat.add_zero]
  have hmod : (c.isoDataSize + hciIsoPreambleSize) % 65536 = c.isoDataSize + hciIsoPreambleSize :=
    Nat.mod_eq_of_lt hsize.2
  unfold fragmentAndDispatch fragmentAndDispatchIso
  simp only [hev, hhandle, hls, hmod, show msgStackToHcHciIso ≠ msgStackToHcHciAcl by decide,
    show msgStackToHcHciIso ≠ msgHcToStackHciSco by decide, ne_eq, not_true_eq_false,
    ↓reduceIte]
  by_cases hshort : packet.len ≤ c.isoDataSize + hciIsoPreambleSize
  · -- a packet that fits goes down whole with the complete flag, and comes up whole
    rw [if_pos hshort]
    refine ⟨_, 0, _, rfl, ?_, isoSduOf_complete⟩
    rw [List.map_cons, List.map_nil, FragOut.received, FragOut.packet,
      payload_store_handle _ hfit (by rw [← hlen]; omega),
      Calls.trace_cons_of_step (reassembleAndDispatch_isoCompleteFrame hpdu)]
    rfl
  · rw [if_neg hshort]
    obtain ⟨frags, n, hloop, htrace⟩ := trace_fragmentIsoLoop hfit hlt hpdu hsize.1 hsize.2
      (by omega) t
    exact ⟨frags, n, _, hloop, htrace, isoSduOf_reassembled⟩

/-- A twelve-byte SDU on handle `1` cut for a controller that takes four data bytes a
fragment. -/
theorem fragment_and_reassemble_iso_in_two :
    ∃ frags n q, fragmentAndDispatch ⟨27, 27, 4⟩
        ⟨0x2d00, 12, 0, 0,
          [0x01, 0x00, 0x08, 0x00, 0x00, 0x00, 0x04, 0x00, 0xAA, 0xBB, 0xCC, 0xDD]⟩ =
        some frags ∧
      Calls.trace reassembleAndDispatch Fragmenter.empty
          (frags.map (FragOut.received msgHcToStackHciIso)) =
        some (List.replicate n none ++ [some q], Fragmenter.empty.setPartialIso 1 none) ∧
      IsoSduOf [0x01, 0x00, 0x08, 0x00, 0x00, 0x00, 0x04, 0x00, 0xAA, 0xBB, 0xCC, 0xDD] q :=
  fragment_and_reassemble_iso ⟨27, 27, 4⟩ _ Fragmenter.empty (by decide) (by decide) (by decide)
    (by decide) ⟨by decide, by decide, by decide, by decide, by decide, by decide⟩
    ⟨by decide, by decide⟩

section IsoWords

variable {maxDataSize handle : Nat} {pdu : List UInt8}
  (hsize : 2 ≤ maxDataSize) (hmax : maxDataSize + hciIsoPreambleSize < 65536)
include hsize hmax

/-- The later rounds of the ISO loop write no handle word but the ones of `isoNextHandle`: each
fragment they hand on starts with the continuation or the end flag on the handle. By induction on
the fuel, as `trace_isoContinuationRounds`, without the reassembler. -/
theorem fragmentIsoLoop_words :
    ∀ (fuel : Nat) (q : BtHdr),
      ContinuationBuffer (isoNextHandle maxDataSize handle q.len) pdu q → q.len < fuel →
      ∃ frags, fragmentIsoLoop maxDataSize handle fuel q q.len = some frags ∧ frags ≠ [] ∧
        ∀ f ∈ frags, ∃ r, streamToUint16 f.packet.payload 0 =
          isoNextHandle maxDataSize handle r := by
  intro fuel
  induction fuel with
  | zero =>
    intro q _ hfuel
    omega
  | succ fuel ih =>
    intro q hq hfuel
    have hmod : (maxDataSize + hciIsoPreambleSize) % 65536 = maxDataSize + hciIsoPreambleSize :=
      Nat.mod_eq_of_lt hmax
    have hword : streamToUint16 (uint16ToStream (isoNextHandle maxDataSize handle q.len) ++
        uint16ToStream maxDataSize ++ load (pdu.length - (q.len - 4)) maxDataSize pdu) 0 =
        isoNextHandle maxDataSize handle q.len := by
      rw [(streamToUint16_frame _ _ _).1,
        Nat.mod_eq_of_lt (isoNextHandle_fields maxDataSize handle q.len).1]
    by_cases hlong : maxDataSize + hciIsoPreambleSize < q.len
    · -- a continuation fragment, then the rounds of the buffer it leaves
      have hnext : (roundNext maxDataSize (isoNextHandle maxDataSize handle
          (q.len - maxDataSize)) q).len = q.len - maxDataSize := rfl
      obtain ⟨frags, hloop, -, hwords⟩ := ih _ (hq.next hsize hmax hlong _)
        (by rw [hnext]; unfold hciIsoPreambleSize at hlong; omega)
      rw [hnext] at hloop
      refine ⟨.fragmented (roundSent maxDataSize q) false :: frags, ?_, List.cons_ne_nil _ _, ?_⟩
      · rw [fragmentIsoLoop_round (by rwa [hmod]), hloop, Option.map_some]
      · rintro f (_ | ⟨_, hf⟩)
        · exact ⟨q.len, by rw [FragOut.packet, hq.sent_payload hsize hmax hlong, hword]⟩
        · exact hwords f hf
    · -- the end fragment
      refine ⟨[.fragmented q true], fragmentIsoLoop_last (by rwa [hmod]), List.cons_ne_nil _ _, ?_⟩
      rintro f (_ | ⟨_, ⟨⟩⟩)
      refine ⟨q.len, ?_⟩
      rw [FragOut.packet, hq.bytes, (streamToUint16_frame _ _ _).1,
        Nat.mod_eq_of_lt (isoNextHandle_fields maxDataSize handle q.len).1]

end IsoWords

/-- **The time stamp flag of a fragmented ISO packet is lost.** For an ISO packet whose
`layer_specific` says it carries a time stamp, on a handle word without the flag (as the ISO
manager writes it), `fragment_and_dispatch` hands on one fragment with the time stamp flag set
in its handle word when the packet fits in one fragment, and two or more, none with the flag,
when it has to cut the packet: the flagged handle is written only in the branch for a packet that fits, and the loop
writes the continuation headers from the handle without its flags. -/
theorem fragment_iso_timestamp_flag (c : Controller) (packet : BtHdr)
    (hev : packet.event &&& msgEvtMask = msgStackToHcHciIso)
    (hts : packet.layerSpecific &&& btIsoHdrContainsTs ≠ 0)
    (hword : hciIsoGetTsFlag (streamToUint16 packet.payload 0) = 0)
    (hfit : packet.Fits) (hlt : packet.offset + packet.len < 65536) (h4 : 4 ≤ packet.len)
    (hsize : 2 ≤ c.isoDataSize ∧ c.isoDataSize + hciIsoPreambleSize < 65536) :
    ∃ frags, fragmentAndDispatch c packet = some frags ∧
      (if packet.len ≤ c.isoDataSize + hciIsoPreambleSize then frags.length = 1
        else 2 ≤ frags.length) ∧
      ∀ f ∈ frags, hciIsoGetTsFlag (streamToUint16 f.packet.payload 0) =
        if packet.len ≤ c.isoDataSize + hciIsoPreambleSize then 1 else 0 := by
  have hlen := BtHdr.length_payload hfit
  have hhandle : streamToUint16 packet.data packet.offset = streamToUint16 packet.payload 0 := by
    rw [BtHdr.payload, streamToUint16_load (by omega), Nat.add_zero]
  have hmod : (c.isoDataSize + hciIsoPreambleSize) % 65536 = c.isoDataSize + hciIsoPreambleSize :=
    Nat.mod_eq_of_lt hsize.2
  unfold fragmentAndDispatch fragmentAndDispatchIso
  simp only [hev, hhandle, hts, hmod, show msgStackToHcHciIso ≠ msgStackToHcHciAcl by decide,
    show msgStackToHcHciIso ≠ msgHcToStackHciSco by decide, ne_eq, not_false_eq_true,
    ↓reduceIte]
  by_cases hshort : packet.len ≤ c.isoDataSize + hciIsoPreambleSize
  · -- the one fragment carries the flagged handle with the complete flag
    simp only [hshort, ↓reduceIte]
    refine ⟨_, rfl, rfl, ?_⟩
    rintro f (_ | ⟨_, ⟨⟩⟩)
    have hw := streamToUint16_lt packet.payload 0
    rw [FragOut.packet, payload_store_handle _ hfit (by omega),
      streamToUint16_uint16ToStream_append, hciIsoGetTsFlag_eq, hciIsoSetCompleteFlag_eq,
      hciIsoSetTimestampFlag_eq]
    omega
  · -- the first fragment keeps the caller's handle word, the later ones get the handle alone
    simp only [hshort, ↓reduceIte]
    have hlong : c.isoDataSize + hciIsoPreambleSize < packet.len := by omega
    have hnext : (roundNext c.isoDataSize (isoNextHandle c.isoDataSize
        (hciIsoSetTimestampFlag (streamToUint16 packet.payload 0)) (packet.len - c.isoDataSize))
        packet).len = packet.len - c.isoDataSize := rfl
    obtain ⟨frags, hloop, hne, hwords⟩ := fragmentIsoLoop_words hsize.1 hsize.2 packet.len _
      (continuationBuffer_roundNext hfit hlong hsize.1 hlt)
      (by rw [hnext]; unfold hciIsoPreambleSize at hlong; omega)
    rw [hnext] at hloop
    refine ⟨_, by rw [fragmentIsoLoop_round (by rwa [hmod]), hloop, Option.map_some], ?_, ?_⟩
    · -- the first fragment and at least the end fragment of the loop
      rw [List.length_cons]
      have := List.length_pos_of_ne_nil hne
      omega
    rintro f (_ | ⟨_, hf⟩)
    · rw [FragOut.packet, payload_roundSent_first hfit hlong hsize.2,
        (streamToUint16_startFrame hsize.1 (by omega)).1, hword]
    · obtain ⟨r, hr⟩ := hwords f hf
      rw [hr, (isoNextHandle_fields _ _ r).2.2.1]

/-- A sixteen-byte SDU with a time stamp on handle `1`, cut in three for a controller that takes
four data bytes a fragment: no fragment has the time stamp flag. -/
theorem fragment_iso_timestamp_flag_in_three :
    ∃ frags, fragmentAndDispatch ⟨27, 27, 4⟩ ⟨0x2d00, 16, 0, 1,
        [0x01, 0x00, 0x0C, 0x00, 0x10, 0x20, 0x30, 0x40, 0x00, 0x00, 0x04, 0x00, 0xAA, 0xBB, 0xCC,
          0xDD]⟩ = some frags ∧ 2 ≤ frags.length ∧
      ∀ f ∈ frags, hciIsoGetTsFlag (streamToUint16 f.packet.payload 0) = 0 :=
  fragment_iso_timestamp_flag ⟨27, 27, 4⟩ _ (by decide) (by decide) (by decide) (by decide)
    (by decide) (by decide) ⟨by decide, by decide⟩

end BluetoothStack.Hci
