import BluetoothStack.Sdp.SearchSession

/-!
# Continuation loses nothing

Both attribute requests of the SDP server, followed through their continuations by a client that
sends the request again with each continuation state it is given, deliver the whole attribute
list: a sequence header announcing the length of the body, then the body. For a ServiceAttribute
request the body is the entries of the attributes asked of the record; for a
ServiceSearchAttribute request it is, for each record holding the UUIDs, the sequence of the
attributes asked of it.

What the exchange needs of the server's state: a remote MTU between the response header and
`SDP_MTU_SIZE`, as the configuration handler of `sdp_main.cc` leaves it; records that hold the
record invariant; attributes asked for whose entries are shorter than `SDP_MAX_ATTR_LEN`, since a
longer one that has to be cut is answered with `SDP_NO_RESOURCES`.
-/

namespace BluetoothStack.Sdp

open Bytes

/-- The cap keeps `max_list_len` inside a 16-bit signed length for every MTU the server keeps. -/
theorem capMaxListLen_lt {maxListLen remMtuSize hdrLen : Nat} (h : hdrLen ≤ remMtuSize)
    (hmtu : remMtuSize ≤ sdpMtuSize) : capMaxListLen maxListLen remMtuSize hdrLen < 32768 := by
  unfold sdpMtuSize at hmtu
  have hle : capMaxListLen maxListLen remMtuSize hdrLen ≤ remMtuSize - hdrLen :=
    capMaxListLen_le h (by omega)
  omega

/-- Every exchange a client starts with a first request, on a connection whose MTU the server
keeps, ends within the requests the list needs and delivers the whole list behind a header of
its length, with no error response. -/
theorem continuation_lossless {peer : AvrcPeer} {db : SdpDb} {ccb : ConnCb}
    (hmtu : sdpMaxServattrRsphdrLen ≤ ccb.remMtuSize) (hmtu' : ccb.remMtuSize ≤ sdpMtuSize) :
    (∀ (req : ServiceAttrReq) (r : SdpRecord) (recIdx fuel : Nat),
      AttrRequestOk peer db req r recIdx → req.contState = none →
      4 ≤ capMaxListLen req.maxListLen ccb.remMtuSize sdpMaxAttrRsphdrLen →
      (entries r (requested r req.attrSeq)).length < fuel →
      ∃ rsps hdr, serviceAttrSession peer req fuel db ccb = some rsps ∧
        (∀ x ∈ rsps, x.isAttrList = true) ∧
        rsps.flatMap SdpRsp.attrBytes = hdr ++ entries r (requested r req.attrSeq) ∧
        SeqHeader hdr (entries r (requested r req.attrSeq)).length) ∧
    (∀ (req : ServiceSearchAttrReq) (fuel : Nat),
      SearchRequestOk peer db req → req.contState = none →
      4 ≤ capMaxListLen req.maxListLen ccb.remMtuSize sdpMaxServattrRsphdrLen →
      (searchList db req.uidSeq req.attrSeq 0).length + 1 < fuel →
      ∃ rsps hdr, serviceSearchAttrSession peer req fuel db ccb = some rsps ∧
        (∀ x ∈ rsps, x.isAttrList = true) ∧
        rsps.flatMap SdpRsp.attrBytes = hdr ++ searchList db req.uidSeq req.attrSeq 0 ∧
        SeqHeader hdr (searchList db req.uidSeq req.attrSeq 0).length) := by
  have hattr : sdpMaxAttrRsphdrLen ≤ ccb.remMtuSize := by
    unfold sdpMaxServattrRsphdrLen at hmtu
    unfold sdpMaxAttrRsphdrLen
    omega
  refine ⟨fun req r recIdx fuel hok hnone hM hfuel => ?_,
    fun req fuel hok hnone hM hfuel => ?_⟩
  · -- ServiceAttribute: the list of the record
    obtain ⟨rsps, hs, hall, hcat⟩ :=
      serviceAttrSession_spec hok hM (capMaxListLen_lt hattr hmtu') hnone hfuel
    exact ⟨rsps, _, hs, hall, hcat, seqHeader_listHeader hok.total⟩
  · -- ServiceSearchAttribute: the list of the search
    obtain ⟨rsps, hs, hall, hcat⟩ :=
      serviceSearchAttrSession_spec hok hM (capMaxListLen_lt hmtu hmtu') hnone hfuel
    exact ⟨rsps, _, hs, hall, hcat, seqHeader_listHeader hok.total⟩

/-! ## A serial port record -/

/-- A record of a serial port service: its handle, its service id and its name. -/
def serialPortRecord : SdpRecord where
  recordHandle := 0x10000
  freePadPtr := 11
  attributes := [⟨0x0000, uintDescType, 4, 0⟩, ⟨0x0003, uuidDescType, 2, 4⟩,
    ⟨0x0100, textStrDescType, 5, 6⟩]
  attrPad := [0x00, 0x01, 0x00, 0x00, 0x11, 0x01, 0x53, 0x50, 0x50, 0x20, 0x31]

/-- A peer with no AVRCP interoperability entries. -/
def plainPeer : AvrcPeer := ⟨false, false, false, none⟩

theorem serialPortRecord_served : Served plainPeer serialPortRecord where
  sorted := by decide
  value_le := by decide
  id_lt := by decide
  avrc h := absurd h (by decide)

/-- A connection with the smallest L2CAP MTU, before any request. -/
def minMtuConn : ConnCb := ⟨48, 0, 0, ⟨0, 0, none, false, 0⟩⟩

/-- Asking the record for all its attributes, eight bytes at a time, and searching for the serial
port UUID with the same attributes, seven bytes at a time: both lists take several responses. -/
theorem continuation_lossless_serialPort :
    (∃ rsps hdr, serviceAttrSession plainPeer ⟨0x10000, 8, [⟨0x0000, 0xFFFE⟩], none⟩ 30
        ⟨0, [serialPortRecord]⟩ minMtuConn = some rsps ∧
      (∀ x ∈ rsps, x.isAttrList = true) ∧
      rsps.flatMap SdpRsp.attrBytes =
        hdr ++ entries serialPortRecord (requested serialPortRecord [⟨0x0000, 0xFFFE⟩]) ∧
      SeqHeader hdr (entries serialPortRecord (requested serialPortRecord [⟨0x0000, 0xFFFE⟩])).length) ∧
    (∃ rsps hdr, serviceSearchAttrSession plainPeer ⟨[[0x11, 0x01]], 7, [⟨0x0000, 0xFFFE⟩], none⟩ 40
        ⟨0, [serialPortRecord]⟩ minMtuConn = some rsps ∧
      (∀ x ∈ rsps, x.isAttrList = true) ∧
      rsps.flatMap SdpRsp.attrBytes =
        hdr ++ searchList ⟨0, [serialPortRecord]⟩ [[0x11, 0x01]] [⟨0x0000, 0xFFFE⟩] 0 ∧
      SeqHeader hdr (searchList ⟨0, [serialPortRecord]⟩ [[0x11, 0x01]] [⟨0x0000, 0xFFFE⟩] 0).length) := by
  have hmatch : matchingFrom ⟨0, [serialPortRecord]⟩ [[0x11, 0x01]] 0 = [serialPortRecord] := by
    decide
  have hrecords : RecordsOk plainPeer ⟨0, [serialPortRecord]⟩ [[0x11, 0x01]] [⟨0x0000, 0xFFFE⟩] := by
    intro r hr
    rw [hmatch, List.mem_singleton] at hr
    subst hr
    exact ⟨serialPortRecord_served, by decide⟩
  have hattr : AttrRequestOk plainPeer ⟨0, [serialPortRecord]⟩ ⟨0x10000, 8, [⟨0x0000, 0xFFFE⟩], none⟩
      serialPortRecord 0 :=
    { find := by decide
      record := rfl
      attrSeq := by decide
      served := serialPortRecord_served
      short := by decide
      total := by decide }
  have hsearch : SearchRequestOk plainPeer ⟨0, [serialPortRecord]⟩
      ⟨[[0x11, 0x01]], 7, [⟨0x0000, 0xFFFE⟩], none⟩ :=
    { uidSeq := by decide
      attrSeq := by decide
      records := hrecords
      total := by decide }
  have hmtu : sdpMaxServattrRsphdrLen ≤ minMtuConn.remMtuSize := by decide
  have hmtu' : minMtuConn.remMtuSize ≤ sdpMtuSize := by decide
  exact ⟨(continuation_lossless hmtu hmtu').1 _ _ 0 30 hattr rfl (by decide) (by decide),
    (continuation_lossless hmtu hmtu').2 _ 40 hsearch rfl (by decide) (by decide)⟩

/-! ## An entry too long to cut -/

/-- A record whose service name takes 400 bytes: its entry is 406 bytes long. -/
def longNameRecord : SdpRecord where
  recordHandle := 0x10001
  freePadPtr := 400
  attributes := [⟨0x0100, textStrDescType, 400, 0⟩]
  attrPad := List.replicate 400 0x41

/-- Asking for that name a hundred bytes at a time, on a connection with the default L2CAP MTU:
the entry would have to be cut, and the server answers `SDP_NO_RESOURCES` however many requests
the client would send. -/
theorem serviceAttrSession_long_entry :
    RecordInv longNameRecord ∧ 4 ≤ capMaxListLen 100 672 sdpMaxAttrRsphdrLen ∧
    ∀ fuel, serviceAttrSession plainPeer ⟨0x10001, 100, [⟨0x0100, 0x0100⟩], none⟩ (fuel + 1)
      ⟨0, [longNameRecord]⟩ ⟨672, 0, 0, ⟨0, 0, none, false, 0⟩⟩ = some [.error sdpNoResources] := by
  have hvalue : ∀ a ∈ longNameRecord.attributes,
      a.valuePtr + a.len ≤ longNameRecord.attrPad.length := by
    intro a ha
    rw [List.mem_singleton.mp ha]
    show 0 + 400 ≤ (List.replicate 400 (0x41 : UInt8)).length
    exact Nat.le_of_eq List.length_replicate.symm
  refine ⟨⟨by decide, hvalue⟩, by decide, fun fuel => ?_⟩
  obtain ⟨db', ccb', hreq⟩ : ∃ db' ccb', processServiceAttrReq plainPeer ⟨0, [longNameRecord]⟩
      ⟨672, 0, 0, ⟨0, 0, none, false, 0⟩⟩ ⟨0x10001, 100, [⟨0x0100, 0x0100⟩], none⟩ =
      some (db', ccb', .error sdpNoResources) := ⟨_, _, rfl⟩
  rw [serviceAttrSession, hreq]

end BluetoothStack.Sdp
