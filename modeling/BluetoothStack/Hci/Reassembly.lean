import Mathlib
import BluetoothStack.Lib.Trace
import BluetoothStack.Hci.PacketFragmenter

/-!
# Reassembly by connection

What `reassemble_and_dispatch` keeps, over every run. Read the three results of the last section
first. A run from a valid state goes through exactly when every packet passes the length `CHECK`
(`reassembly_run_isSome_iff`): no sequence of fragments, however cut or interleaved, makes the
reassembler read or write outside a buffer. Every packet it hands up is well formed for the
packet that completed it (`reassembly_run_delivered`). And the connections are independent
sessions (`reassembly_connection_independent`): each call reads and writes the partial packet of
its own handle only (`local_reassembleAndDispatch`), so the rules of `Calls` for local calls give
each connection the run it would have alone.

The invariant is `Fragmenter.Valid`: every partial packet, ACL or ISO, has storage of its full
length, a write position inside it, and a header that names its handle and its length
(`AclPartial`, `IsoPartial`). `Received` is what the HCI layer guarantees of a packet it hands up.
-/

namespace BluetoothStack.Hci

open Bytes

/-! ## The state, connection by connection -/

namespace Fragmenter

@[simp] theorem setPartial_partialPackets (s : Fragmenter) (h : Nat) (v : Option BtHdr) :
    (s.setPartial h v).partialPackets = Function.update s.partialPackets h v := rfl

@[simp] theorem setPartial_partialIsoPackets (s : Fragmenter) (h : Nat) (v : Option BtHdr) :
    (s.setPartial h v).partialIsoPackets = s.partialIsoPackets := rfl

@[simp] theorem setPartialIso_partialPackets (s : Fragmenter) (h : Nat) (v : Option BtHdr) :
    (s.setPartialIso h v).partialPackets = s.partialPackets := rfl

@[simp] theorem setPartialIso_partialIsoPackets (s : Fragmenter) (h : Nat) (v : Option BtHdr) :
    (s.setPartialIso h v).partialIsoPackets = Function.update s.partialIsoPackets h v := rfl

theorem ext {s t : Fragmenter} (hacl : s.partialPackets = t.partialPackets)
    (hiso : s.partialIsoPackets = t.partialIsoPackets) : s = t := by
  cases s
  cases t
  simp only at hacl hiso
  rw [hacl, hiso]

@[simp] theorem setPartial_self (s : Fragmenter) (h : Nat) :
    s.setPartial h (s.partialPackets h) = s :=
  ext (by simp) rfl

@[simp] theorem setPartialIso_self (s : Fragmenter) (h : Nat) :
    s.setPartialIso h (s.partialIsoPackets h) = s :=
  ext rfl (by simp)

@[simp] theorem setPartial_setPartial (s : Fragmenter) (h : Nat) (v w : Option BtHdr) :
    (s.setPartial h v).setPartial h w = s.setPartial h w :=
  ext (by simp) rfl

@[simp] theorem setPartialIso_setPartialIso (s : Fragmenter) (h : Nat) (v w : Option BtHdr) :
    (s.setPartialIso h v).setPartialIso h w = s.setPartialIso h w :=
  ext rfl (by simp)

end Fragmenter

/-- The two maps of partial packets: `partial_packets` for ACL and `partial_iso_packets` for
ISO. -/
inductive Traffic where
  | acl
  | iso
  deriving DecidableEq, Repr

namespace Fragmenter

/-- The partial packet of one connection: a map and a handle. -/
def pending (s : Fragmenter) : Traffic × Nat → Option BtHdr
  | (.acl, h) => s.partialPackets h
  | (.iso, h) => s.partialIsoPackets h

/-- Set the partial packet of one connection. -/
def setPending (s : Fragmenter) : Traffic × Nat → Option BtHdr → Fragmenter
  | (.acl, h), v => s.setPartial h v
  | (.iso, h), v => s.setPartialIso h v

/-- The connections are the parts of the state. -/
theorem parts_pending : Calls.Parts pending setPending where
  get_set_self s k v := by
    obtain ⟨_ | _, h⟩ := k <;> simp [pending, setPending]
  get_set_of_ne s k k' v hne := by
    obtain ⟨_ | _, h⟩ := k <;> obtain ⟨_ | _, h'⟩ := k' <;>
      simp_all [pending, setPending, Function.update_of_ne]
  set_set s k v v' := by
    obtain ⟨_ | _, h⟩ := k <;> simp [setPending]
  set_get s k := by
    obtain ⟨_ | _, h⟩ := k <;> simp [pending, setPending]

end Fragmenter

/-- The connection a packet belongs to: the map its event selects, at the handle its header
names. SCO packets and other events belong to none. -/
def packetKey (packet : BtHdr) : Option (Traffic × Nat) :=
  if packet.event &&& msgEvtMask = msgHcToStackHciAcl then
    some (.acl, streamToUint16 packet.data 0 &&& handleMask)
  else if packet.event &&& msgEvtMask = msgHcToStackHciSco then none
  else if packet.event &&& msgEvtMask = msgHcToStackHciIso then
    some (.iso, streamToUint16 packet.data 0 &&& handleMask)
  else none

/-! ## Each call works on one connection -/

section Local

variable {s t : Fragmenter} {packet : BtHdr} {h : Nat}

-- Each lemma below pushes the map of the result's state through the `if`s and `bind`s of one
-- function; the state is `s` or `s` with the one entry set, and the map takes both to `t`'s.

theorem reassembleStart_local (n : Nat) (hst : t.partialPackets h = s.partialPackets h) :
    reassembleStart t packet h n =
      (reassembleStart s packet h n).map fun r => (r.1, t.setPartial h (r.2.partialPackets h)) := by
  unfold reassembleStart
  split
  · simp [← hst]
  · simp only [Option.bind_eq_bind, Option.map_bind, Function.comp_def, apply_ite (Option.map _),
      Option.map_some, Fragmenter.setPartial_partialPackets, Function.update_self,
      Fragmenter.setPartial_setPartial]

theorem reassembleContinuation_local (hst : t.partialPackets h = s.partialPackets h) :
    reassembleContinuation t packet h =
      (reassembleContinuation s packet h).map fun r =>
        (r.1, t.setPartial h (r.2.partialPackets h)) := by
  unfold reassembleContinuation
  rw [hst]
  cases s.partialPackets h with
  | none => simp [← hst]
  | some p =>
    simp only [Option.bind_eq_bind, Option.map_bind, Function.comp_def, apply_ite (Option.map _),
      Option.map_some, Fragmenter.setPartial_partialPackets, Function.update_self]

/-- A first or complete ISO packet drops the old partial packet before anything else, so it
does not even read the entry. -/
theorem reassembleIsoStart_local (n bf ts : Nat) :
    reassembleIsoStart t packet h n bf ts =
      (reassembleIsoStart s packet h n bf ts).map fun r =>
        (r.1, t.setPartialIso h (r.2.partialIsoPackets h)) := by
  unfold reassembleIsoStart
  simp only [Option.bind_eq_bind, Option.map_bind, Function.comp_def, apply_ite (Option.map _),
    Option.map_some, Fragmenter.setPartialIso_partialIsoPackets, Function.update_self,
    Fragmenter.setPartialIso_setPartialIso]

theorem reassembleIsoContinuation_local (bf : Nat)
    (hst : t.partialIsoPackets h = s.partialIsoPackets h) :
    reassembleIsoContinuation t packet h bf =
      (reassembleIsoContinuation s packet h bf).map fun r =>
        (r.1, t.setPartialIso h (r.2.partialIsoPackets h)) := by
  unfold reassembleIsoContinuation
  rw [hst]
  cases s.partialIsoPackets h with
  | none => simp [← hst]
  | some p =>
    simp only [Option.bind_eq_bind, Option.map_bind, Function.comp_def, apply_ite (Option.map _),
      Option.map_some, Fragmenter.setPartialIso_partialIsoPackets, Function.update_self]

/-- The handle word of a header read whole, as `STREAM_TO_UINT16` reads it alone. -/
theorem leValue_take_load_header (data : List UInt8) (n : Nat) (hn : 2 ≤ n) :
    leValue ((load 0 n data).take 2) = streamToUint16 data 0 := by
  rw [take_load, Nat.min_eq_left hn]
  rfl

/-- The length word of a four-byte header read whole. -/
theorem leValue_drop_load_header (data : List UInt8) (n : Nat) (hn : n = 4) :
    leValue ((load 0 n data).drop 2) = streamToUint16 data 2 := by
  subst hn
  rw [drop_load]
  rfl

theorem reassembleAcl_local
    (hst : t.partialPackets (streamToUint16 packet.data 0 &&& handleMask) =
      s.partialPackets (streamToUint16 packet.data 0 &&& handleMask)) :
    reassembleAcl t packet =
      (reassembleAcl s packet).map fun r => (r.1, t.setPartial
        (streamToUint16 packet.data 0 &&& handleMask)
        (r.2.partialPackets (streamToUint16 packet.data 0 &&& handleMask))) := by
  unfold reassembleAcl loadIn
  split
  · simp only [Option.bind_eq_bind, Option.bind_some,
      leValue_take_load_header _ hciAclPreambleSize (by unfold hciAclPreambleSize; omega)]
    split_ifs
    · rfl
    · simp [← hst]
    · exact reassembleStart_local _ hst
    · exact reassembleContinuation_local hst
  · rfl

theorem reassembleIso_local
    (hst : t.partialIsoPackets (streamToUint16 packet.data 0 &&& handleMask) =
      s.partialIsoPackets (streamToUint16 packet.data 0 &&& handleMask)) :
    reassembleIso t packet =
      (reassembleIso s packet).map fun r => (r.1, t.setPartialIso
        (streamToUint16 packet.data 0 &&& handleMask)
        (r.2.partialIsoPackets (streamToUint16 packet.data 0 &&& handleMask))) := by
  unfold reassembleIso loadIn
  split
  · simp only [Option.bind_eq_bind, Option.bind_some,
      leValue_take_load_header _ hciIsoPreambleSize (by unfold hciIsoPreambleSize; omega)]
    split_ifs
    · rfl
    · exact reassembleIsoStart_local _ _ _
    · exact reassembleIsoContinuation_local _ hst
  · rfl

/-- **Every packet works on its own connection.** `reassemble_and_dispatch` reads and writes
only the partial packet of the connection the packet's header names, and a packet of no
connection (SCO, other events) reads and writes none. -/
theorem local_reassembleAndDispatch :
    Calls.Local reassembleAndDispatch Fragmenter.pending Fragmenter.setPending packetKey := by
  intro s t packet hagree
  unfold reassembleAndDispatch
  unfold packetKey at hagree ⊢
  split_ifs at hagree ⊢
  · exact reassembleAcl_local (hagree _ rfl)
  · simp
  · exact reassembleIso_local (hagree _ rfl)
  · simp

end Local

/-! ## The bytes of the buffers -/

theorem checkUint16Overflow_eq_true {a b : Nat} : checkUint16Overflow a b = true ↔ 65535 - a < b := by
  simp [checkUint16Overflow]

theorem streamToUint16_lt (mem : List UInt8) (pos : Nat) : streamToUint16 mem pos < 65536 := by
  have hlen : (load pos 2 mem).length ≤ 2 := by
    rw [length_load]
    omega
  calc streamToUint16 mem pos < 256 ^ (load pos 2 mem).length := leValue_lt _
    _ ≤ 256 ^ 2 := Nat.pow_le_pow_right (by norm_num) hlen
    _ = 65536 := by norm_num

/-- A store that does not reach a 16-bit field leaves it. -/
theorem streamToUint16_store_of_disjoint {mem src : List UInt8} {pos q : Nat}
    (h : q + 2 ≤ pos ∨ pos + src.length ≤ q) :
    streamToUint16 (store pos src mem) q = streamToUint16 mem q := by
  unfold streamToUint16
  rw [load_store_of_disjoint h]

/-- The storage `allocPartial` makes, where the packet fits in it. -/
theorem allocPartial_eq {packet : BtHdr} {full : Nat} (hlen : packet.len ≤ packet.data.length)
    (hfull : packet.len ≤ full) (h4 : 4 ≤ full) :
    allocPartial packet full = some (store 2 (uint16ToStream (full - 4))
      (store 0 (load 0 packet.len packet.data) (List.replicate full 0))) := by
  have hsrc : (load 0 packet.len packet.data).length = packet.len :=
    length_load_of_le (by omega)
  unfold allocPartial osiMallocBuf
  simp only [btHdrSize, hciAclPreambleSize, Nat.add_sub_cancel]
  rw [loadIn_of_le (by omega)]
  simp only [Option.bind_eq_bind, Option.bind_some]
  rw [storeIn_of_le (by simp only [hsrc, List.length_replicate]; omega), Option.bind_some,
    storeIn_of_le (by simp only [length_uint16ToStream, length_store, List.length_replicate]; omega)]

section AllocData

variable {packet : BtHdr} {full : Nat}

theorem length_allocData :
    (store 2 (uint16ToStream (full - 4))
      (store 0 (load 0 packet.len packet.data) (List.replicate full 0))).length = full := by
  simp

/-- Outside the length field, the new storage holds the packet's bytes. -/
theorem streamToUint16_allocData {q : Nat} (hlen : packet.len ≤ packet.data.length)
    (hfull : packet.len ≤ full) (hq : q + 2 ≤ 2 ∨ 4 ≤ q) (hqn : q + 2 ≤ packet.len) :
    streamToUint16 (store 2 (uint16ToStream (full - 4))
      (store 0 (load 0 packet.len packet.data) (List.replicate full 0))) q =
      streamToUint16 packet.data q := by
  have hsrc : (load 0 packet.len packet.data).length = packet.len :=
    length_load_of_le (by omega)
  rw [streamToUint16_store_of_disjoint (by simp only [length_uint16ToStream]; omega)]
  unfold streamToUint16
  rw [load_store_inner (by omega) (by omega) (by simp only [hsrc, List.length_replicate]; omega),
    Nat.sub_zero, load_load (by omega), Nat.zero_add]

/-- The length field of the new storage: the full length less the preamble. -/
theorem streamToUint16_two_allocData (h4 : 4 ≤ full) :
    streamToUint16 (store 2 (uint16ToStream (full - 4))
      (store 0 (load 0 packet.len packet.data) (List.replicate full 0))) 2 = (full - 4) % 65536 :=
  streamToUint16_store _ (by simp only [length_store, List.length_replicate]; omega)

end AllocData

/-! ## What the reassembler keeps and what it hands up -/

/-- A packet as the HCI layer hands it to `reassemble_and_dispatch` (`WrapPacketAndCopy`): at
offset `0`, with no flags in `layer_specific`, and with its bytes in its storage. -/
structure Received (packet : BtHdr) : Prop where
  offset_eq : packet.offset = 0
  layerSpecific_eq : packet.layerSpecific = 0
  len_le : packet.len ≤ packet.data.length

theorem received_wrapPacketAndCopy (event : Nat) (data : List UInt8) :
    Received (wrapPacketAndCopy event data) :=
  ⟨rfl, rfl, Nat.le_refl _⟩

theorem received_of_mem_wrapped {event : Nat} {l : List (List UInt8)} :
    ∀ p ∈ l.map (wrapPacketAndCopy event), Received p := by
  intro p hp
  obtain ⟨data, -, rfl⟩ := List.mem_map.1 hp
  exact received_wrapPacketAndCopy event data

/-- The `CHECK`s of `reassemble_and_dispatch` and `reassemble_and_dispatch_iso` that the length in
the header of an ACL or an ISO packet is the packet's: a packet that fails one stops the stack. -/
def LengthChecked (packet : BtHdr) : Prop :=
  (packet.event &&& msgEvtMask = msgHcToStackHciAcl →
    streamToUint16 packet.data 2 + hciAclPreambleSize = packet.len) ∧
  (packet.event &&& msgEvtMask = msgHcToStackHciIso →
    (streamToUint16 packet.data 2 &&& 0x3FFF) + hciIsoPreambleSize = packet.len)

/-- A partial ACL packet kept for handle `h`: storage of exactly its full length, no more than a
default buffer holds, a write position past the L2CAP length and short of the end, and the header
of the start fragment, its ACL length rewritten to the whole packet's. -/
structure AclPartial (h : Nat) (p : BtHdr) : Prop where
  length_data : p.data.length = p.len
  header_le_offset : hciAclPreambleSize + l2capHeaderPduLenSize ≤ p.offset
  offset_lt : p.offset < p.len
  len_le : p.len + btHdrSize ≤ btDefaultBufferSize
  event : p.event &&& msgEvtMask = msgHcToStackHciAcl
  handle : streamToUint16 p.data 0 &&& handleMask = h
  boundary : getBoundaryFlag (streamToUint16 p.data 0) = startPacketBoundary
  aclLength : streamToUint16 p.data 2 + hciAclPreambleSize = p.len
  l2capLength : streamToUint16 p.data 4 + l2capHeaderSize + hciAclPreambleSize = p.len

/-- An ACL packet as `l2c_rcv_acl_data` reads it: its header at offset `0` with the start flag,
the HCI length that of the packet, and the L2CAP PDU within the packet. -/
structure AclPdu (q : BtHdr) : Prop where
  offset_eq : q.offset = 0
  len_le : q.len ≤ q.data.length
  boundary : getBoundaryFlag (streamToUint16 q.data 0) = startPacketBoundary
  aclLength : streamToUint16 q.data 2 + hciAclPreambleSize = q.len
  l2capLength : streamToUint16 q.data 4 + l2capHeaderSize + hciAclPreambleSize ≤ q.len

/-- A partial ISO packet kept for handle `h`: storage of exactly its full length, no more than a
default buffer holds, a write position past the shortest ISO header and at most at the end, the
header of the first fragment with its ISO length rewritten to the whole packet's, and room for the
header that `layer_specific` says the packet has. -/
structure IsoPartial (h : Nat) (p : BtHdr) : Prop where
  length_data : p.data.length = p.len
  header_le_offset : hciIsoPreambleSize + hciIsoHeaderLenWithoutTs ≤ p.offset
  offset_le : p.offset ≤ p.len
  len_le : p.len + btHdrSize ≤ btDefaultBufferSize
  event : p.event &&& msgEvtMask = msgHcToStackHciIso
  handle : streamToUint16 p.data 0 &&& handleMask = h
  isoLength : streamToUint16 p.data 2 + hciIsoPreambleSize = p.len
  dataOffset_le : hciIsoPreambleSize + (if p.layerSpecific &&& btIsoHdrContainsTs ≠ 0
    then hciIsoHeaderLenWithTs else hciIsoHeaderLenWithoutTs) ≤ p.len

/-- An ISO SDU as it goes up: the ISO length that of the packet, and the offset at the data, past
the header that `layer_specific` says the packet has. -/
structure IsoSdu (q : BtHdr) : Prop where
  len_le : q.len ≤ q.data.length
  isoLength : streamToUint16 q.data 2 + hciIsoPreambleSize = q.len
  offset_eq : q.offset = hciIsoPreambleSize + (if q.layerSpecific &&& btIsoHdrContainsTs ≠ 0
    then hciIsoHeaderLenWithTs else hciIsoHeaderLenWithoutTs)
  offset_le : q.offset ≤ q.len

/-- What goes up for `packet`: for an ACL packet a PDU that L2CAP takes, for an ISO packet an SDU,
in both cases of the packet's own connection; for any other packet the packet itself. -/
def Delivered (packet q : BtHdr) : Prop :=
  if packet.event &&& msgEvtMask = msgHcToStackHciAcl then
    AclPdu q ∧ packetKey q = packetKey packet
  else if packet.event &&& msgEvtMask = msgHcToStackHciIso then
    IsoSdu q ∧ packetKey q = packetKey packet
  else q = packet

/-- What the reassembler keeps: every partial packet in either map is whole for its handle. -/
structure Fragmenter.Valid (s : Fragmenter) : Prop where
  acl : ∀ h p, s.partialPackets h = some p → AclPartial h p
  iso : ∀ h p, s.partialIsoPackets h = some p → IsoPartial h p

namespace Fragmenter.Valid

variable {s : Fragmenter} {h : Nat} {v : Option BtHdr}

theorem empty : Fragmenter.empty.Valid :=
  ⟨fun _ _ hp => (by cases hp), fun _ _ hp => (by cases hp)⟩

theorem setPartial (hs : s.Valid) (hv : ∀ p, v = some p → AclPartial h p) :
    (s.setPartial h v).Valid where
  acl h' p hp := by
    by_cases hh : h' = h
    · subst hh
      rw [setPartial_partialPackets, Function.update_self] at hp
      exact hv p hp
    · rw [setPartial_partialPackets, Function.update_of_ne hh] at hp
      exact hs.acl h' p hp
  iso := hs.iso

theorem setPartialIso (hs : s.Valid) (hv : ∀ p, v = some p → IsoPartial h p) :
    (s.setPartialIso h v).Valid where
  acl := hs.acl
  iso h' p hp := by
    by_cases hh : h' = h
    · subst hh
      rw [setPartialIso_partialIsoPackets, Function.update_self] at hp
      exact hv p hp
    · rw [setPartialIso_partialIsoPackets, Function.update_of_ne hh] at hp
      exact hs.iso h' p hp

end Fragmenter.Valid

section Acl

variable {s : Fragmenter} {packet : BtHdr}

/-- A start fragment from a valid state: the state stays valid, and what goes up is a whole PDU
of the fragment's connection. -/
theorem reassembleStart_valid (hs : s.Valid) (hp : Received packet)
    (hev : packet.event &&& msgEvtMask = msgHcToStackHciAcl)
    (hpb : getBoundaryFlag (streamToUint16 packet.data 0) = startPacketBoundary)
    (hn : streamToUint16 packet.data 2 + hciAclPreambleSize = packet.len) :
    ∃ o s', reassembleStart s packet (streamToUint16 packet.data 0 &&& handleMask)
        (streamToUint16 packet.data 2) = some (o, s') ∧ s'.Valid ∧
      ∀ q, o = some q → AclPdu q ∧ packetKey q = packetKey packet := by
  have hlen := hp.len_le
  unfold reassembleStart
  by_cases hn2 : streamToUint16 packet.data 2 < 2
  · rw [if_pos hn2]
    exact ⟨none, s, rfl, hs, by simp⟩
  simp only [hciAclPreambleSize] at hn
  rw [if_neg hn2, loadIn_of_le (by omega)]
  simp only [Option.bind_eq_bind, Option.bind_some]
  rw [show leValue (load 4 2 packet.data) = streamToUint16 packet.data 4 from rfl]
  -- the second length check is the first one again
  rw [if_neg (show ¬streamToUint16 packet.data 2 < l2capHeaderPduLenSize by
    unfold l2capHeaderPduLenSize; omega)]
  have hl2lt := streamToUint16_lt packet.data 4
  split_ifs with hbad hfit
  · exact ⟨none, _, rfl, hs.setPartial (by simp), by simp⟩
  · -- the fragment holds the whole PDU and goes up as it is
    simp only [l2capHeaderSize, l2capHeaderPduLenSize, l2capHeaderCidSize, hciAclPreambleSize,
      checkUint16Overflow_eq_true, not_or] at hbad hfit
    refine ⟨some packet, _, rfl, hs.setPartial (by simp), ?_⟩
    rintro q ⟨⟩
    refine ⟨⟨hp.offset_eq, hlen, hpb, ?_, ?_⟩, rfl⟩
    · simp only [hciAclPreambleSize]
      omega
    · rw [Nat.mod_eq_of_lt (by omega)] at hfit
      simp only [l2capHeaderSize, l2capHeaderPduLenSize, l2capHeaderCidSize, hciAclPreambleSize]
      omega
  · -- a longer PDU opens a partial packet that starts with the fragment
    simp only [l2capHeaderSize, l2capHeaderPduLenSize, l2capHeaderCidSize, hciAclPreambleSize,
      checkUint16Overflow_eq_true, not_or, btHdrSize, btDefaultBufferSize] at hbad hfit ⊢
    have hfull : (streamToUint16 packet.data 4 + (2 + 2) + 4) % 65536 =
        streamToUint16 packet.data 4 + 8 := Nat.mod_eq_of_lt (by omega)
    rw [hfull] at hfit hbad ⊢
    rw [allocPartial_eq hlen (by omega) (by omega), Option.bind_some,
      Fragmenter.setPartial_setPartial]
    refine ⟨none, _, rfl, hs.setPartial ?_, by simp⟩
    rintro p ⟨⟩
    refine ⟨length_allocData, ?_, ?_, ?_, hev, ?_, ?_, ?_, ?_⟩
    · simp only [hciAclPreambleSize, l2capHeaderPduLenSize]
      omega
    · simp only
      omega
    · simp only [btHdrSize, btDefaultBufferSize]
      omega
    · rw [streamToUint16_allocData hlen (by omega) (by omega) (by omega)]
    · rw [streamToUint16_allocData hlen (by omega) (by omega) (by omega), hpb]
    · rw [streamToUint16_two_allocData (by omega), Nat.mod_eq_of_lt (by omega)]
      simp only [hciAclPreambleSize]
      omega
    · rw [streamToUint16_allocData hlen (by omega) (by omega) (by omega)]
      simp only [l2capHeaderSize, l2capHeaderPduLenSize, l2capHeaderCidSize, hciAclPreambleSize]

namespace AclPartial

variable {h : Nat} {P : BtHdr}

/-- Bytes stored from the write position on leave the header of a partial packet. -/
theorem streamToUint16_store (hP : AclPartial h P) (src : List UInt8) (q : Nat)
    (hq : q ≤ 4) : streamToUint16 (store P.offset src P.data) q = streamToUint16 P.data q := by
  have := hP.header_le_offset
  simp only [hciAclPreambleSize, l2capHeaderPduLenSize] at this
  exact streamToUint16_store_of_disjoint (Or.inl (by omega))

/-- A partial packet that takes more bytes and moves its write position on, short of the end,
stays a partial packet for its handle. -/
theorem store (hP : AclPartial h P) (src : List UInt8) {off : Nat} (hoff : P.offset ≤ off)
    (hlt : off < P.len) :
    AclPartial h { P with data := Bytes.store P.offset src P.data, offset := off } where
  length_data := by simp [hP.length_data]
  header_le_offset := le_trans hP.header_le_offset hoff
  offset_lt := hlt
  len_le := hP.len_le
  event := hP.event
  handle := by simpa only [hP.streamToUint16_store src 0 (by omega)] using hP.handle
  boundary := by simpa only [hP.streamToUint16_store src 0 (by omega)] using hP.boundary
  aclLength := by simpa only [hP.streamToUint16_store src 2 (by omega)] using hP.aclLength
  l2capLength := by simpa only [hP.streamToUint16_store src 4 (by omega)] using hP.l2capLength

/-- A partial packet that has taken its last bytes goes up, offset back at `0`, as a PDU of its
connection. -/
theorem delivered (hP : AclPartial h P) (src : List UInt8) :
    AclPdu { P with data := Bytes.store P.offset src P.data, offset := 0 } ∧
      packetKey { P with data := Bytes.store P.offset src P.data, offset := 0 } =
        some (.acl, h) := by
  refine ⟨⟨rfl, by simp [hP.length_data], ?_, ?_, ?_⟩, ?_⟩
  · simpa only [hP.streamToUint16_store src 0 (by omega)] using hP.boundary
  · simpa only [hP.streamToUint16_store src 2 (by omega)] using hP.aclLength
  · simp only [hP.streamToUint16_store src 4 (by omega)]
    exact le_of_eq hP.l2capLength
  · simp only [packetKey, hP.event, if_true, hP.streamToUint16_store src 0 (by omega), hP.handle]

end AclPartial

/-- A continuation fragment from a valid state: the state stays valid, and a partial packet that
the fragment fills goes up as a whole PDU of its connection. Bytes past what the partial packet
misses are cut off. -/
theorem reassembleContinuation_valid (hs : s.Valid) (hp : Received packet)
    (h4 : hciAclPreambleSize ≤ packet.len) (h : Nat) :
    ∃ o s', reassembleContinuation s packet h = some (o, s') ∧ s'.Valid ∧
      ∀ q, o = some q → AclPdu q ∧ packetKey q = some (.acl, h) := by
  unfold reassembleContinuation
  cases hpp : s.partialPackets h with
  | none => exact ⟨none, s, rfl, hs, by simp⟩
  | some P =>
    have hP := hs.acl h P hpp
    have hlen := hp.len_le
    have hoff := hP.offset_lt
    have hmax := hP.len_le
    simp only [hciAclPreambleSize, btHdrSize, btDefaultBufferSize] at h4 hmax
    dsimp only
    -- whether the fragment brings more than the partial packet misses, and whether it fills it
    split_ifs with htr hfull hfull
    · -- the fragment is cut to what is missing, and the partial packet is full
      dsimp only at htr ⊢
      simp only [hciAclPreambleSize, Nat.cast_ofNat] at htr ⊢
      have hcut : ((P.len - P.offset + 4 : Int) % 65536).toNat = P.len - P.offset + 4 := by omega
      rw [hcut, loadIn_of_le (by omega), Option.bind_eq_bind, Option.bind_some,
        storeIn_of_le (by rw [length_load_of_le (by omega), hP.length_data]; omega),
        Option.bind_some]
      exact ⟨_, _, rfl, hs.setPartial (by simp), fun q hq => Option.some.inj hq ▸ hP.delivered _⟩
    · -- a cut fragment always fills the partial packet
      exact absurd rfl hfull
    · dsimp only at htr hfull ⊢
      simp only [hciAclPreambleSize, Nat.cast_ofNat] at htr hfull ⊢
      rw [loadIn_of_le (by omega), Option.bind_eq_bind, Option.bind_some,
        storeIn_of_le (by rw [length_load_of_le (by omega), hP.length_data]; omega),
        Option.bind_some]
      exact ⟨_, _, rfl, hs.setPartial (by simp), fun q hq => Option.some.inj hq ▸ hP.delivered _⟩
    · -- the partial packet takes the fragment and waits for more
      dsimp only at htr hfull ⊢
      simp only [hciAclPreambleSize, Nat.cast_ofNat] at htr hfull ⊢
      have hproj : (P.offset + (packet.len - 4)) % 65536 = P.offset + (packet.len - 4) :=
        Nat.mod_eq_of_lt (by omega)
      rw [hproj] at hfull ⊢
      rw [loadIn_of_le (by omega), Option.bind_eq_bind, Option.bind_some,
        storeIn_of_le (by rw [length_load_of_le (by omega), hP.length_data]; omega),
        Option.bind_some]
      refine ⟨none, _, rfl, hs.setPartial ?_, by simp⟩
      rintro p ⟨⟩
      exact hP.store _ (by omega) (by omega)

end Acl

/-- Two packets with the same event and the same handle word belong to the same connection. -/
theorem packetKey_eq_of_header {p q : BtHdr} (hev : q.event = p.event)
    (hh : streamToUint16 q.data 0 = streamToUint16 p.data 0) : packetKey q = packetKey p := by
  unfold packetKey
  rw [hev, hh]

section Iso

variable {s : Fragmenter} {packet : BtHdr} {n bf : Nat}

/-- A first or complete ISO packet from a valid state: the state stays valid, and a complete
packet goes up as an SDU of its connection. -/
theorem reassembleIsoStart_valid (hs : s.Valid) (hp : Received packet)
    (hev : packet.event &&& msgEvtMask = msgHcToStackHciIso)
    (hn : n + hciIsoPreambleSize = packet.len)
    (hbf : bf = hciIsoBfCompletePacket ∨ bf = hciIsoBfFirstFragmentedPacket) (ts : Nat) :
    ∃ o s', reassembleIsoStart s packet (streamToUint16 packet.data 0 &&& handleMask) n bf ts =
        some (o, s') ∧ s'.Valid ∧
      ∀ q, o = some q → IsoSdu q ∧ packetKey q = packetKey packet := by
  have hlen := hp.len_le
  unfold reassembleIsoStart
  dsimp only
  -- the header is eight bytes with a time stamp and four without, and `layer_specific` says which
  generalize hpair : (if ts ≠ 0 then
      ({ packet with layerSpecific := packet.layerSpecific ||| btIsoHdrContainsTs },
        hciIsoHeaderLenWithTs)
    else (packet, hciIsoHeaderLenWithoutTs)) = pr
  obtain ⟨p', H⟩ := pr
  obtain ⟨hd, hl, he, hH⟩ : p'.data = packet.data ∧ p'.len = packet.len ∧ p'.event = packet.event ∧
      (if p'.layerSpecific &&& btIsoHdrContainsTs ≠ 0 then hciIsoHeaderLenWithTs
        else hciIsoHeaderLenWithoutTs) = H := by
    split_ifs at hpair <;> cases hpair <;> simp [hp.layerSpecific_eq, btIsoHdrContainsTs]
  have hH48 : 4 ≤ H ∧ H ≤ 8 := by
    rw [← hH]
    split_ifs <;> simp [hciIsoHeaderLenWithTs, hciIsoHeaderLenWithoutTs, hciIsoHeaderIsoLenSize,
      hciIsoHeaderPacketSeqSize, hciIsoHeaderTimestampSize]
  dsimp only
  simp only [hciIsoPreambleSize] at hn
  by_cases hshort : n < H
  · rw [if_pos hshort]
    exact ⟨none, _, rfl, hs.setPartialIso (by simp), by simp⟩
  rw [if_neg hshort, hd, loadIn_of_le (by simp only [hciIsoPreambleSize]; omega)]
  simp only [Option.bind_eq_bind, Option.bind_some, hl, he]
  -- the SDU length, masked to twelve bits, gives the whole packet's length
  generalize leValue (load (hciIsoPreambleSize + H - 2) 2 packet.data) = v
  have hmask : v &&& hciIsoSduLengthMask ≤ 4095 := Nat.and_le_right
  generalize v &&& hciIsoSduLengthMask = sdu at hmask ⊢
  have hfull : (sdu + H + hciIsoPreambleSize) % 65536 = sdu + H + 4 :=
    Nat.mod_eq_of_lt (by simp only [hciIsoPreambleSize]; omega)
  rw [hfull]
  split_ifs with hzero hbig hbad hfirst
  · exact ⟨none, _, rfl, hs.setPartialIso (by simp), by simp⟩
  · exact ⟨none, _, rfl, hs.setPartialIso (by simp), by simp⟩
  · exact ⟨none, _, rfl, hs.setPartialIso (by simp), by simp⟩
  all_goals
    simp only [hciIsoBfCompletePacket, hciIsoBfFirstFragmentedPacket, btHdrSize,
      btDefaultBufferSize] at hbig hbad hfirst hbf
    rw [allocPartial_eq (hl ▸ hd ▸ hlen) (by omega) (by omega), Option.bind_some]
    simp only [hl, hd]
  · -- a first fragment is kept, its write position after what it brought
    rw [Fragmenter.setPartialIso_setPartialIso]
    refine ⟨none, _, rfl, hs.setPartialIso ?_, by simp⟩
    rintro p ⟨⟩
    refine ⟨length_allocData, ?_, ?_, ?_, he ▸ hev, ?_, ?_, ?_⟩
    · simp only [hciIsoPreambleSize, hciIsoHeaderLenWithoutTs, hciIsoHeaderIsoLenSize,
        hciIsoHeaderPacketSeqSize]
      omega
    · simp only
      omega
    · simp only [btHdrSize, btDefaultBufferSize]
      omega
    · rw [streamToUint16_allocData hlen (by omega) (by omega) (by omega)]
    · rw [streamToUint16_two_allocData (by omega), Nat.mod_eq_of_lt (by omega)]
      simp only [hciIsoPreambleSize]
      omega
    · simp only [hH, hciIsoPreambleSize]
      omega
  · -- a complete packet goes up in its own storage, its offset at the data
    refine ⟨_, _, rfl, hs.setPartialIso (by simp), ?_⟩
    rintro q ⟨⟩
    refine ⟨⟨by simp, ?_, ?_, ?_⟩, packetKey_eq_of_header rfl ?_⟩
    · rw [streamToUint16_two_allocData (by omega), Nat.mod_eq_of_lt (by omega)]
      simp only [hciIsoPreambleSize]
      omega
    · simp only [hH, hciIsoPreambleSize]
      omega
    · simp only [hciIsoPreambleSize]
      omega
    · rw [streamToUint16_allocData hlen (by omega) (by omega) (by omega)]

namespace IsoPartial

variable {h : Nat} {P : BtHdr}

/-- Bytes stored from the write position on leave the header of a partial packet. -/
theorem streamToUint16_store (hP : IsoPartial h P) (src : List UInt8) (q : Nat)
    (hq : q ≤ 2) : streamToUint16 (store P.offset src P.data) q = streamToUint16 P.data q := by
  have := hP.header_le_offset
  simp only [hciIsoPreambleSize, hciIsoHeaderLenWithoutTs, hciIsoHeaderIsoLenSize,
    hciIsoHeaderPacketSeqSize] at this
  exact streamToUint16_store_of_disjoint (Or.inl (by omega))

/-- A partial packet that takes more bytes and moves its write position on, at most to the end,
stays a partial packet for its handle. -/
theorem store (hP : IsoPartial h P) (src : List UInt8) {off : Nat} (hoff : P.offset ≤ off)
    (hle : off ≤ P.len) :
    IsoPartial h { P with data := Bytes.store P.offset src P.data, offset := off } where
  length_data := by simp [hP.length_data]
  header_le_offset := le_trans hP.header_le_offset hoff
  offset_le := hle
  len_le := hP.len_le
  event := hP.event
  handle := by simpa only [hP.streamToUint16_store src 0 (by omega)] using hP.handle
  isoLength := by simpa only [hP.streamToUint16_store src 2 (by omega)] using hP.isoLength
  dataOffset_le := hP.dataOffset_le

/-- The flag `BT_ISO_HDR_OFFSET_POINTS_DATA` leaves the time stamp flag as it is. -/
theorem or_offsetPointsData_and_containsTs (ls : Nat) :
    (ls ||| btIsoHdrOffsetPointsData) &&& btIsoHdrContainsTs = ls &&& btIsoHdrContainsTs := by
  rw [Nat.and_or_distrib_right]
  simp [btIsoHdrOffsetPointsData, btIsoHdrContainsTs]

/-- A partial packet that has taken its last bytes goes up as an SDU of its connection, flagged
as pointing at its data, its offset past the header that `layer_specific` says it has. -/
theorem delivered (hP : IsoPartial h P) (src : List UInt8) :
    let q : BtHdr :=
      { P with
        data := Bytes.store P.offset src P.data
        layerSpecific := P.layerSpecific ||| btIsoHdrOffsetPointsData
        offset := hciIsoPreambleSize +
          (if (P.layerSpecific ||| btIsoHdrOffsetPointsData) &&& btIsoHdrContainsTs ≠ 0
            then hciIsoHeaderLenWithTs else hciIsoHeaderLenWithoutTs) }
    IsoSdu q ∧ packetKey q = some (.iso, h) := by
  intro q
  refine ⟨⟨by simp [q, hP.length_data], ?_, rfl, ?_⟩, ?_⟩
  · simpa only [q, hP.streamToUint16_store src 2 (by omega)] using hP.isoLength
  · simpa only [q, or_offsetPointsData_and_containsTs] using hP.dataOffset_le
  · have hnacl : msgHcToStackHciIso ≠ msgHcToStackHciAcl := by
      simp [msgHcToStackHciIso, msgHcToStackHciAcl]
    have hnsco : msgHcToStackHciIso ≠ msgHcToStackHciSco := by
      simp [msgHcToStackHciIso, msgHcToStackHciSco]
    simp only [q, packetKey, hP.event, hnacl, hnsco, if_true, if_false,
      hP.streamToUint16_store src 0 (by omega), hP.handle]

end IsoPartial

/-- A continuation or last ISO fragment from a valid state: the state stays valid, and a partial
packet that a last fragment fills exactly goes up as an SDU of its connection. -/
theorem reassembleIsoContinuation_valid (hs : s.Valid) (hp : Received packet)
    (h4 : hciIsoPreambleSize ≤ packet.len) (h bf : Nat) :
    ∃ o s', reassembleIsoContinuation s packet h bf = some (o, s') ∧ s'.Valid ∧
      ∀ q, o = some q → IsoSdu q ∧ packetKey q = some (.iso, h) := by
  unfold reassembleIsoContinuation
  cases hpp : s.partialIsoPackets h with
  | none => exact ⟨none, s, rfl, hs, by simp⟩
  | some P =>
    have hP := hs.iso h P hpp
    have hlen := hp.len_le
    have hPlen := hP.length_data
    have hmax := hP.len_le
    simp only [btHdrSize, btDefaultBufferSize] at hmax
    dsimp only
    -- a fragment that would pass the expected length drops the partial packet
    by_cases hover : P.len < P.offset + packet.len - hciIsoPreambleSize
    · rw [if_pos hover]
      exact ⟨none, _, rfl, hs.setPartialIso (by simp), by simp⟩
    rw [if_neg hover]
    simp only [hciIsoPreambleSize] at h4 hover
    rw [loadIn_of_le (by simp only [hciIsoPreambleSize]; omega), Option.bind_eq_bind,
      Option.bind_some, storeIn_of_le (by
        rw [length_load_of_le (by simp only [hciIsoPreambleSize]; omega)]
        simp only [hciIsoPreambleSize]
        omega), Option.bind_some]
    by_cases hcont : bf = hciIsoBfContinuationFragmentPacket
    · -- a continuation fragment moves the write position on
      rw [if_pos hcont]
      refine ⟨none, _, rfl, hs.setPartialIso ?_, by simp⟩
      rintro p ⟨⟩
      have hproj : (P.offset + (packet.len - hciIsoPreambleSize)) % 65536 =
          P.offset + (packet.len - 4) := Nat.mod_eq_of_lt (by simp only [hciIsoPreambleSize]; omega)
      rw [hproj]
      exact hP.store _ (by omega) (by omega)
    rw [if_neg hcont]
    -- a last fragment must fill the partial packet exactly
    by_cases hfill : P.len ≠ P.offset + packet.len - hciIsoPreambleSize
    · rw [if_pos hfill]
      exact ⟨none, _, rfl, hs.setPartialIso (by simp), by simp⟩
    rw [if_neg hfill]
    exact ⟨_, _, rfl, hs.setPartialIso (by simp), fun q hq => Option.some.inj hq ▸ hP.delivered _⟩

end Iso

/-! ## Every step, and every run -/

section Step

variable {s : Fragmenter} {packet : BtHdr}

theorem reassembleAcl_valid (hs : s.Valid) (hp : Received packet)
    (hev : packet.event &&& msgEvtMask = msgHcToStackHciAcl)
    (hc : streamToUint16 packet.data 2 + hciAclPreambleSize = packet.len) :
    ∃ o s', reassembleAcl s packet = some (o, s') ∧ s'.Valid ∧
      ∀ q, o = some q → AclPdu q ∧ packetKey q = packetKey packet := by
  have hlen := hp.len_le
  have hkey : packetKey packet = some (.acl, streamToUint16 packet.data 0 &&& handleMask) := by
    simp [packetKey, hev]
  unfold reassembleAcl
  rw [loadIn_of_le (by simp only [hciAclPreambleSize] at hc ⊢; omega), Option.bind_eq_bind,
    Option.bind_some]
  simp only [leValue_take_load_header _ hciAclPreambleSize (by simp [hciAclPreambleSize]),
    leValue_drop_load_header _ hciAclPreambleSize rfl]
  rw [if_neg (not_not.2 hc)]
  split_ifs with hbc hpb
  · exact ⟨none, s, rfl, hs, by simp⟩
  · exact reassembleStart_valid hs hp hev hpb hc
  · obtain ⟨o, s', hstep, hs', ho⟩ :=
      reassembleContinuation_valid hs hp (by omega) (streamToUint16 packet.data 0 &&& handleMask)
    exact ⟨o, s', hstep, hs', fun q hq => ⟨(ho q hq).1, (ho q hq).2.trans hkey.symm⟩⟩

theorem reassembleIso_valid (hs : s.Valid) (hp : Received packet)
    (hev : packet.event &&& msgEvtMask = msgHcToStackHciIso)
    (hc : (streamToUint16 packet.data 2 &&& 0x3FFF) + hciIsoPreambleSize = packet.len) :
    ∃ o s', reassembleIso s packet = some (o, s') ∧ s'.Valid ∧
      ∀ q, o = some q → IsoSdu q ∧ packetKey q = packetKey packet := by
  have hlen := hp.len_le
  have hkey : packetKey packet = some (.iso, streamToUint16 packet.data 0 &&& handleMask) := by
    simp [packetKey, hev, msgHcToStackHciIso, msgHcToStackHciAcl, msgHcToStackHciSco]
  have hle : streamToUint16 packet.data 2 &&& 0x3FFF ≤ streamToUint16 packet.data 2 :=
    Nat.and_le_left
  unfold reassembleIso
  rw [loadIn_of_le (by simp only [hciIsoPreambleSize] at hc ⊢; omega), Option.bind_eq_bind,
    Option.bind_some]
  simp only [leValue_take_load_header _ hciIsoPreambleSize (by simp [hciIsoPreambleSize]),
    leValue_drop_load_header _ hciIsoPreambleSize rfl]
  rw [if_neg (not_not.2 hc)]
  split_ifs with hbf
  · exact reassembleIsoStart_valid hs hp hev hc hbf _
  · obtain ⟨o, s', hstep, hs', ho⟩ := reassembleIsoContinuation_valid hs hp
      (by simp only [hciIsoPreambleSize] at hc ⊢; omega)
      (streamToUint16 packet.data 0 &&& handleMask) _
    exact ⟨o, s', hstep, hs', fun q hq => ⟨(ho q hq).1, (ho q hq).2.trans hkey.symm⟩⟩

/-- **One step of the reassembler.** From a valid state, a packet as the HCI layer hands it up
that passes the length `CHECK` never makes `reassemble_and_dispatch` read or write outside a
buffer: the call returns, the state stays valid, and what goes up is delivered as `Delivered`
says. -/
theorem reassembleAndDispatch_valid (hs : s.Valid) (hp : Received packet)
    (hc : LengthChecked packet) :
    ∃ o s', reassembleAndDispatch s packet = some (o, s') ∧ s'.Valid ∧
      ∀ q, o = some q → Delivered packet q := by
  obtain ⟨hacl, hiso⟩ := hc
  unfold reassembleAndDispatch Delivered
  by_cases hA : packet.event &&& msgEvtMask = msgHcToStackHciAcl
  · simp only [hA, ↓reduceIte]
    exact reassembleAcl_valid hs hp hA (hacl hA)
  simp only [hA, ↓reduceIte]
  by_cases hI : packet.event &&& msgEvtMask = msgHcToStackHciIso
  · simp only [hI, ↓reduceIte]
    exact reassembleIso_valid hs hp hI (hiso hI)
  -- SCO packets and other events go up as they are
  simp only [hI, ↓reduceIte, ite_self]
  exact ⟨_, s, rfl, hs, fun q hq => (Option.some.inj hq).symm⟩

/-- A packet that fails the length `CHECK` stops the reassembler, whatever its state. -/
theorem reassembleAndDispatch_eq_none (hc : ¬LengthChecked packet) (s : Fragmenter) :
    reassembleAndDispatch s packet = none := by
  unfold LengthChecked at hc
  simp only [not_and_or, Classical.not_imp] at hc
  unfold reassembleAndDispatch
  rcases hc with ⟨hA, hbad⟩ | ⟨hI, hbad⟩
  · rw [if_pos hA]
    unfold reassembleAcl loadIn
    split
    · simp only [Option.bind_eq_bind, Option.bind_some,
        leValue_drop_load_header _ hciAclPreambleSize rfl]
      rw [if_pos hbad]
    · rfl
  · have hnacl : ¬packet.event &&& msgEvtMask = msgHcToStackHciAcl := by
      rw [hI]
      simp [msgHcToStackHciIso, msgHcToStackHciAcl]
    have hnsco : ¬packet.event &&& msgEvtMask = msgHcToStackHciSco := by
      rw [hI]
      simp [msgHcToStackHciIso, msgHcToStackHciSco]
    rw [if_neg hnacl, if_neg hnsco, if_pos hI]
    unfold reassembleIso loadIn
    split
    · simp only [Option.bind_eq_bind, Option.bind_some,
        leValue_drop_load_header _ hciIsoPreambleSize rfl]
      rw [if_pos hbad]
    · rfl

end Step

section Run

variable {s s' : Fragmenter} {packets : List BtHdr} {outs : List (Option BtHdr)}

/-- **The reassembler stops only on a bad length.** From a valid state, a run of
`reassemble_and_dispatch` over packets as the HCI layer hands them up goes through exactly when
every packet passes the length `CHECK`: no sequence of fragments, however interleaved, cut short
or forged, makes it read or write outside a buffer. -/
theorem reassembly_run_isSome_iff (hs : s.Valid) (hp : ∀ p ∈ packets, Received p) :
    (Calls.trace reassembleAndDispatch s packets).isSome ↔ ∀ p ∈ packets, LengthChecked p := by
  constructor
  · intro hsome p hmem
    by_contra hc
    rw [Calls.trace_eq_none_of_mem (reassembleAndDispatch_eq_none hc) packets s hmem] at hsome
    exact Bool.false_ne_true hsome
  · intro hc
    obtain ⟨outs, s', htrace, -⟩ := Calls.trace_isSome Fragmenter.Valid
      (fun p => Received p ∧ LengthChecked p)
      (fun hs hok => by
        obtain ⟨o, s', hstep, hs', -⟩ := reassembleAndDispatch_valid hs hok.1 hok.2
        exact ⟨o, s', hstep, hs'⟩)
      packets hs fun p hmem => ⟨hp p hmem, hc p hmem⟩
    rw [htrace]
    rfl

/-- A start packet on handle 1 that opens an L2CAP PDU of eight bytes, and the continuation
packet that completes it. -/
def aclStartCont : List (List UInt8) :=
  [[0x01, 0x20, 0x06, 0x00, 0x04, 0x00, 0x40, 0x00, 0xAA, 0xBB], [0x01, 0x10, 0x02, 0x00, 0xCC, 0xDD]]

/-- The same on handles 1 and 2, the packets of the two interleaved. -/
def aclInterleaved : List (List UInt8) :=
  [[0x01, 0x20, 0x06, 0x00, 0x04, 0x00, 0x40, 0x00, 0xAA, 0xBB],
    [0x02, 0x20, 0x06, 0x00, 0x04, 0x00, 0x40, 0x00, 0x11, 0x22],
    [0x01, 0x10, 0x02, 0x00, 0xCC, 0xDD], [0x02, 0x10, 0x02, 0x00, 0x33, 0x44]]

theorem reassembly_run_isSome_iff_startCont :
    (Calls.trace reassembleAndDispatch Fragmenter.empty
        (aclStartCont.map (wrapPacketAndCopy msgHcToStackHciAcl))).isSome ↔
      ∀ p ∈ aclStartCont.map (wrapPacketAndCopy msgHcToStackHciAcl), LengthChecked p :=
  reassembly_run_isSome_iff Fragmenter.Valid.empty received_of_mem_wrapped

/-- **What goes up.** Over a run from a valid state of packets that pass the `CHECK`, the state
stays valid, and every packet handed up is delivered for the packet whose arrival completed it: an
ACL PDU that L2CAP takes, or an ISO SDU, of that packet's connection; any other packet as it
came. -/
theorem reassembly_run_delivered (hs : s.Valid) (hp : ∀ p ∈ packets, Received p ∧ LengthChecked p)
    (hrun : Calls.trace reassembleAndDispatch s packets = some (outs, s')) :
    s'.Valid ∧ ∀ x ∈ packets.zip outs, ∀ q, x.2 = some q → Delivered x.1 q := by
  refine Calls.trace_inv Fragmenter.Valid (fun p => Received p ∧ LengthChecked p)
    (fun p o => ∀ q, o = some q → Delivered p q) ?_ packets hs hp hrun
  intro s a r s₁ hs hok hstep
  obtain ⟨o, s₂, hstep', hs₂, ho⟩ := reassembleAndDispatch_valid hs hok.1 hok.2
  rw [hstep] at hstep'
  obtain ⟨rfl, rfl⟩ := Prod.mk.inj (Option.some.inj hstep')
  exact ⟨hs₂, ho⟩

/-- The start packet goes up as nothing, and the continuation hands up the whole PDU, its ACL
length made the PDU's. -/
theorem reassembly_run_delivered_startCont :
    ∃ outs s', Calls.trace reassembleAndDispatch Fragmenter.empty
        (aclStartCont.map (wrapPacketAndCopy msgHcToStackHciAcl)) = some (outs, s') ∧
      outs.map (Option.map BtHdr.payload) =
        [none, some [0x01, 0x20, 0x08, 0x00, 0x04, 0x00, 0x40, 0x00, 0xAA, 0xBB, 0xCC, 0xDD]] ∧
      s'.Valid ∧ ∀ x ∈ (aclStartCont.map (wrapPacketAndCopy msgHcToStackHciAcl)).zip outs,
        ∀ q, x.2 = some q → Delivered x.1 q := by
  have hrun : (Calls.trace reassembleAndDispatch Fragmenter.empty
      (aclStartCont.map (wrapPacketAndCopy msgHcToStackHciAcl))).map
        (fun r => r.1.map (Option.map BtHdr.payload)) =
      some [none, some [0x01, 0x20, 0x08, 0x00, 0x04, 0x00, 0x40, 0x00, 0xAA, 0xBB, 0xCC, 0xDD]] := by
    decide
  obtain ⟨⟨outs, s'⟩, htrace, hout⟩ := Option.map_eq_some_iff.1 hrun
  have hchecked : ∀ p ∈ aclStartCont.map (wrapPacketAndCopy msgHcToStackHciAcl),
      LengthChecked p := by
    unfold LengthChecked
    decide
  exact ⟨outs, s', htrace, hout, reassembly_run_delivered Fragmenter.Valid.empty
    (fun p hp => ⟨received_of_mem_wrapped p hp, hchecked p hp⟩) htrace⟩

/-- **Connections are independent.** In any run of `reassemble_and_dispatch`, the packets of one
connection (one map, one handle) get the answers, and leave that connection's partial packet, that
they alone would get and leave from the same state; the state is otherwise left as it was. What
other connections send in between changes nothing for it. -/
theorem reassembly_connection_independent
    (hrun : Calls.trace reassembleAndDispatch s packets = some (outs, s')) (k : Traffic × Nat) :
    Calls.trace reassembleAndDispatch s (packets.filter fun p => packetKey p = some k) =
      some (Calls.answersOn packetKey k packets outs, s.setPending k (s'.pending k)) :=
  Calls.trace_filter Fragmenter.parts_pending local_reassembleAndDispatch k packets rfl hrun

/-- Handle 1's packets, picked out of the interleaved run, are its start and continuation, and
they alone get the answers they got in the run. -/
theorem reassembly_connection_independent_interleaved :
    ∃ outs s', Calls.trace reassembleAndDispatch Fragmenter.empty
        (aclInterleaved.map (wrapPacketAndCopy msgHcToStackHciAcl)) = some (outs, s') ∧
      (aclInterleaved.map (wrapPacketAndCopy msgHcToStackHciAcl)).filter
          (fun p => packetKey p = some (.acl, 1)) =
        aclStartCont.map (wrapPacketAndCopy msgHcToStackHciAcl) ∧
      Calls.trace reassembleAndDispatch Fragmenter.empty
          ((aclInterleaved.map (wrapPacketAndCopy msgHcToStackHciAcl)).filter
            fun p => packetKey p = some (.acl, 1)) =
        some (Calls.answersOn packetKey (.acl, 1)
            (aclInterleaved.map (wrapPacketAndCopy msgHcToStackHciAcl)) outs,
          Fragmenter.empty.setPending (.acl, 1) (s'.pending (.acl, 1))) := by
  have hsome : (Calls.trace reassembleAndDispatch Fragmenter.empty
      (aclInterleaved.map (wrapPacketAndCopy msgHcToStackHciAcl))).isSome := by
    decide
  obtain ⟨⟨outs, s'⟩, hrun⟩ := Option.isSome_iff_exists.1 hsome
  exact ⟨outs, s', hrun, by decide, reassembly_connection_independent hrun (.acl, 1)⟩

end Run

end BluetoothStack.Hci
