import Mathlib
import BluetoothStack.Avrcp.ResponseBuilders
import BluetoothStack.Lib.Cursor

/-!
# AVRCP request packets and their getters

The request classes of packet/avrcp read their fields through `Iterator` (packet/base): a
getter moves `begin()` on by fixed offsets, each step stopped at `end()`, and dereferences it or
extracts a field, where `Iterator::operator*` CHECKs that the index is not `end()`. A getter is
therefore a computation in `Option`, `none` being the CHECK that fails (`Cursor`). `IsValid` of
each class compares the packet's size with what its getters read.

Main results:
* No `IsValid` fails a CHECK itself (`isValid_isSome` of each class).
* For each request class, when `IsValid()` holds every getter of the class succeeds, those it
  inherits from `VendorPacket`, `BrowsePacket` and `Packet` included
  (`getters_of_isValid` of each class).
-/

namespace BluetoothStack.Avrcp

open Bytes Cursor

/-! ## Codes read from the packets -/

/-- `CType::NOT_IMPLEMENTED`. -/
def cTypeNotImplemented : UInt8 := 0x08

/-- `CType::ACCEPTED`: the first response type. -/
def cTypeAccepted : UInt8 := 0x09

/-- `CType::REJECTED`. -/
def cTypeRejected : UInt8 := 0x0a

/-- `CType::CHANGED`. -/
def cTypeChanged : UInt8 := 0x0d

/-- `CType::INTERIM`. -/
def cTypeInterim : UInt8 := 0x0f

/-- `Opcode::UNIT_INFO`. -/
def opcodeUnitInfo : UInt8 := 0x30

/-- `Opcode::SUBUNIT_INFO`. -/
def opcodeSubunitInfo : UInt8 := 0x31

/-- `Opcode::PASS_THROUGH`. -/
def opcodePassThrough : UInt8 := 0x7c

/-- `CommandPdu::GET_CAPABILITIES`. -/
def commandPduGetCapabilities : UInt8 := 0x10

/-- `CommandPdu::GET_PLAY_STATUS`. -/
def commandPduGetPlayStatus : UInt8 := 0x30

/-- `CommandPdu::REGISTER_NOTIFICATION`. -/
def commandPduRegisterNotification : UInt8 := 0x31

/-- `CommandPdu::SET_ABSOLUTE_VOLUME`. -/
def commandPduSetAbsoluteVolume : UInt8 := 0x50

/-- `CommandPdu::SET_ADDRESSED_PLAYER`. -/
def commandPduSetAddressedPlayer : UInt8 := 0x60

/-- `CommandPdu::PLAY_ITEM`. -/
def commandPduPlayItem : UInt8 := 0x74

/-- `BrowsePdu::SET_BROWSED_PLAYER`. -/
def browsePduSetBrowsedPlayer : UInt8 := 0x70

/-- `BrowsePdu::CHANGE_PATH`. -/
def browsePduChangePath : UInt8 := 0x72

/-- `BrowsePdu::GET_TOTAL_NUMBER_OF_ITEMS`. -/
def browsePduGetTotalNumberOfItems : UInt8 := 0x75

/-- `Capability::COMPANY_ID`. -/
def capabilityCompanyId : UInt8 := 0x02

/-- `Capability::EVENTS_SUPPORTED`. -/
def capabilityEventsSupported : UInt8 := 0x03

/-- `Event::PLAYBACK_STATUS_CHANGED`. -/
def eventPlaybackStatusChanged : UInt8 := 0x01

/-- `Event::TRACK_CHANGED`. -/
def eventTrackChanged : UInt8 := 0x02

/-- `Event::PLAYBACK_POS_CHANGED`. -/
def eventPlaybackPosChanged : UInt8 := 0x05

/-- `Event::NOW_PLAYING_CONTENT_CHANGED`. -/
def eventNowPlayingContentChanged : UInt8 := 0x09

/-- `Event::AVAILABLE_PLAYERS_CHANGED`. -/
def eventAvailablePlayersChanged : UInt8 := 0x0a

/-- `Event::ADDRESSED_PLAYER_CHANGED`. -/
def eventAddressedPlayerChanged : UInt8 := 0x0b

/-- `Event::UIDS_CHANGED`. -/
def eventUidsChanged : UInt8 := 0x0c

/-- `Event::VOLUME_CHANGED`. -/
def eventVolumeChanged : UInt8 := 0x0d

/-- `Scope::MEDIA_PLAYER_LIST`. -/
def scopeMediaPlayerList : UInt8 := 0x00

/-- `Scope::VFS`. -/
def scopeVfs : UInt8 := 0x01

/-- `Scope::NOW_PLAYING`. -/
def scopeNowPlaying : UInt8 := 0x03

/-- `Direction::DOWN`. -/
def directionDown : UInt8 := 0x01

/-- `KeyState::PUSHED`. -/
def keyStatePushed : UInt8 := 0x00

/-! ## Fields at fixed offsets -/

/-- The byte `*(begin() + base + off)`: the iterator moved on twice, each step stopped at the
end, then dereferenced. A getter that adds one offset has `off = 0`. -/
def byteAt (p : List UInt8) (base off : Nat) : Option UInt8 :=
  deref p (advance p (advance p 0 base) off)

/-- The bytes read one at a time by `width` steps of `*it++` from `begin() + base + off`, with the
index they leave. -/
def bytesAt (p : List UInt8) (base off width : Nat) : Option (List UInt8 × Nat) :=
  read p (advance p (advance p 0 base) off) width

/-- `extractBE<T>()` at `begin() + base + off`: a field of `width` bytes, most significant first. -/
def beFieldAt (p : List UInt8) (base off width : Nat) : Option Nat :=
  (bytesAt p base off width).map fun r => beValue r.1

/-- `extract<T>()` at `begin() + base + off`: a field of `width` bytes, least significant first. -/
def leFieldAt (p : List UInt8) (base off width : Nat) : Option Nat :=
  (bytesAt p base off width).map fun r => leValue r.1

/-- `GetAttributesRequested` of the element and item attribute requests: the count read by
`extract<uint8_t>()` at `begin() + base + off`, then that many `extractBE<uint32_t>()`. -/
def attributesAt (p : List UInt8) (base off : Nat) : Option (List Nat) := do
  let count ← bytesAt p base off 1
  let groups ← readGroups p count.2 4 (leValue count.1)
  return groups.1.map beValue

section Fields

variable {p : List UInt8} {base off width : Nat}

theorem advance_base_off (h : base + off ≤ p.length) :
    advance p (advance p 0 base) off = base + off := by
  rw [advance_advance, advance_of_le (by omega), Nat.zero_add]

theorem byteAt_of_lt (h : base + off < p.length) : byteAt p base off = some p[base + off] := by
  rw [byteAt, advance_base_off (by omega), deref_of_lt h]

theorem byteAt_isSome (h : base + off < p.length) : (byteAt p base off).isSome := by
  rw [byteAt_of_lt h]
  rfl

theorem bytesAt_of_le (h : base + off + width ≤ p.length) :
    bytesAt p base off width = some ((p.drop (base + off)).take width, base + off + width) := by
  rw [bytesAt, advance_base_off (by omega), read_of_le h]

theorem beFieldAt_isSome (h : base + off + width ≤ p.length) :
    (beFieldAt p base off width).isSome := by
  rw [beFieldAt, bytesAt_of_le h]
  rfl

theorem leFieldAt_isSome (h : base + off + width ≤ p.length) :
    (leFieldAt p base off width).isSome := by
  rw [leFieldAt, bytesAt_of_le h]
  rfl

/-- The count byte read by `extract<uint8_t>()`. -/
theorem leFieldAt_one (h : base + off < p.length) :
    leFieldAt p base off 1 = some p[base + off].toNat := by
  simp only [leFieldAt, bytesAt_of_le (show base + off + 1 ≤ p.length by omega), Option.map_some,
    List.drop_eq_getElem_cons h, List.take_succ_cons, List.take_zero, leValue, Nat.mul_zero,
    Nat.add_zero]

/-- The attribute list is read whole when the count byte is followed by that many attributes. -/
theorem attributesAt_isSome (h : base + off < p.length)
    (hlen : base + off + 1 + p[base + off].toNat * 4 ≤ p.length) :
    (attributesAt p base off).isSome := by
  have hcount : bytesAt p base off 1 = some ([p[base + off]], base + off + 1) := by
    rw [bytesAt_of_le (by omega), List.drop_eq_getElem_cons h]
    rfl
  obtain ⟨gs, hgs, -⟩ := readGroups_of_le (k := 4) hlen
  simp only [attributesAt, hcount, Option.bind_eq_bind, Option.bind_some, leValue,
    Nat.mul_zero, Nat.add_zero, hgs]
  rfl

end Fields

/-! ## The base classes -/

namespace Packet

/-- `Packet::GetCType`: the low four bits of the first byte. -/
def getCType (p : List UInt8) : Option UInt8 := (byteAt p 0 0).map (· &&& 0x0F)

/-- `Packet::GetSubunitType`. -/
def getSubunitType (p : List UInt8) : Option UInt8 := (byteAt p 1 0).map fun b => b >>> (3 : UInt8)

/-- `Packet::GetSubunitId`. -/
def getSubunitId (p : List UInt8) : Option UInt8 := (byteAt p 1 0).map (· &&& 0b00000111)

/-- `Packet::GetOpcode`. -/
def getOpcode (p : List UInt8) : Option UInt8 := byteAt p 2 0

/-- `Packet::IsValid`. -/
def isValid (p : List UInt8) : Option Bool := some (decide (p.length ≥ packetMinSize))

/-- Every getter of `Packet` succeeds. -/
def GettersSome (p : List UInt8) : Prop :=
  (getCType p).isSome ∧ (getSubunitType p).isSome ∧ (getSubunitId p).isSome ∧
    (getOpcode p).isSome

theorem gettersSome_of_length {p : List UInt8} (h : packetMinSize ≤ p.length) :
    GettersSome p := by
  simp only [packetMinSize] at h
  refine ⟨?_, ?_, ?_, ?_⟩
  · simp only [getCType, Option.isSome_map, byteAt_isSome (show 0 + 0 < p.length by omega)]
  · simp only [getSubunitType, Option.isSome_map, byteAt_isSome (show 1 + 0 < p.length by omega)]
  · simp only [getSubunitId, Option.isSome_map, byteAt_isSome (show 1 + 0 < p.length by omega)]
  · exact byteAt_isSome (show 2 + 0 < p.length by omega)

end Packet

namespace VendorPacket

/-- `VendorPacket::GetCompanyId`: `PullCompanyId` shifts in three bytes, most significant first. -/
def getCompanyId (p : List UInt8) : Option Nat := beFieldAt p packetMinSize 0 3

/-- `VendorPacket::GetCommandPdu`. -/
def getCommandPdu (p : List UInt8) : Option UInt8 := byteAt p packetMinSize 3

/-- `VendorPacket::GetPacketType`. -/
def getPacketType (p : List UInt8) : Option UInt8 := byteAt p packetMinSize 4

/-- `VendorPacket::GetParameterLength`. -/
def getParameterLength (p : List UInt8) : Option Nat := beFieldAt p packetMinSize 5 2

/-- `VendorPacket::IsValid`: the parameter length is what follows the vendor header. -/
def isValid (p : List UInt8) : Option Bool :=
  if p.length < vendorMinSize then some false
  else (getParameterLength p).map fun len => len == p.length - advance p 0 vendorMinSize

/-- Every getter of `VendorPacket` succeeds, those of `Packet` included. -/
def GettersSome (p : List UInt8) : Prop :=
  (getCompanyId p).isSome ∧ (getCommandPdu p).isSome ∧ (getPacketType p).isSome ∧
    (getParameterLength p).isSome ∧ Packet.GettersSome p

theorem gettersSome_of_length {p : List UInt8} (h : vendorMinSize ≤ p.length) :
    GettersSome p := by
  simp only [vendorMinSize, packetMinSize] at h
  exact ⟨beFieldAt_isSome (by simp only [packetMinSize]; omega),
    byteAt_isSome (by simp only [packetMinSize]; omega),
    byteAt_isSome (by simp only [packetMinSize]; omega),
    beFieldAt_isSome (by simp only [packetMinSize]; omega),
    Packet.gettersSome_of_length (by simp only [packetMinSize]; omega)⟩

theorem isValid_isSome (p : List UInt8) : (isValid p).isSome := by
  unfold isValid
  split_ifs with hshort
  · rfl
  · rw [Option.isSome_map]
    exact (gettersSome_of_length (by omega)).2.2.2.1

theorem length_of_isValid {p : List UInt8} (h : isValid p = some true) :
    vendorMinSize ≤ p.length := by
  unfold isValid at h
  split_ifs at h with hshort
  · cases h
  · omega

end VendorPacket

namespace BrowsePacket

/-- `BrowsePacket::GetPdu`. -/
def getPdu (p : List UInt8) : Option UInt8 := byteAt p 0 0

/-- `BrowsePacket::GetLength`. -/
def getLength (p : List UInt8) : Option Nat := beFieldAt p 1 0 2

/-- `BrowsePacket::IsValid`: the length is what follows the browse header. -/
def isValid (p : List UInt8) : Option Bool :=
  if p.length < browseMinSize then some false
  else (getLength p).map fun length => p.length == length + browseMinSize

/-- Every getter of `BrowsePacket` succeeds. -/
def GettersSome (p : List UInt8) : Prop := (getPdu p).isSome ∧ (getLength p).isSome

theorem gettersSome_of_length {p : List UInt8} (h : browseMinSize ≤ p.length) :
    GettersSome p := by
  simp only [browseMinSize] at h
  exact ⟨byteAt_isSome (by omega), beFieldAt_isSome (by omega)⟩

theorem isValid_isSome (p : List UInt8) : (isValid p).isSome := by
  unfold isValid
  split_ifs with hshort
  · rfl
  · rw [Option.isSome_map]
    exact (gettersSome_of_length (by omega)).2

theorem length_of_isValid {p : List UInt8} (h : isValid p = some true) :
    browseMinSize ≤ p.length := by
  unfold isValid at h
  split_ifs at h with hshort
  · cases h
  · omega

end BrowsePacket

/-! ## Requests of a fixed size -/

/-- `IsValid` of the requests whose size is fixed: the base class's `IsValid`, then the size. -/
def fixedSizeValid (baseValid : List UInt8 → Option Bool) (size : Nat) (p : List UInt8) :
    Option Bool := do
  let valid ← baseValid p
  if !valid then return false
  return p.length == size

theorem fixedSizeValid_isSome {baseValid : List UInt8 → Option Bool} {p : List UInt8}
    (hbase : (baseValid p).isSome) (size : Nat) : (fixedSizeValid baseValid size p).isSome := by
  obtain ⟨valid, hvalid⟩ := Option.isSome_iff_exists.1 hbase
  cases valid <;> simp [fixedSizeValid, hvalid]

/-- A valid request of a fixed size has that size, and its base class holds it valid. -/
theorem fixedSizeValid_eq_some_true {baseValid : List UInt8 → Option Bool} {size : Nat}
    {p : List UInt8} (h : fixedSizeValid baseValid size p = some true) :
    baseValid p = some true ∧ p.length = size := by
  simp only [fixedSizeValid, Option.bind_eq_bind] at h
  obtain ⟨valid, hvalid, hrest⟩ := Option.bind_eq_some_iff.1 h
  cases valid with
  | false => cases hrest
  | true =>
    simp only [Bool.not_true, Bool.false_eq_true, if_false, Option.pure_def, Option.some.injEq,
      beq_iff_eq] at hrest
    exact ⟨hvalid, hrest⟩

namespace GetCapabilitiesRequest

/-- `GetCapabilitiesRequest::GetCapabilityRequested`. -/
def getCapabilityRequested (p : List UInt8) : Option UInt8 := byteAt p vendorMinSize 0

/-- `GetCapabilitiesRequest::IsValid`. -/
def isValid (p : List UInt8) : Option Bool :=
  fixedSizeValid VendorPacket.isValid (vendorMinSize + 1) p

theorem isValid_isSome (p : List UInt8) : (isValid p).isSome :=
  fixedSizeValid_isSome (VendorPacket.isValid_isSome p) _

theorem getters_of_isValid {p : List UInt8} (h : isValid p = some true) :
    (getCapabilityRequested p).isSome ∧ VendorPacket.GettersSome p := by
  have hlen := (fixedSizeValid_eq_some_true h).2
  exact ⟨byteAt_isSome (by omega), VendorPacket.gettersSome_of_length (by omega)⟩

end GetCapabilitiesRequest

namespace PlayItemRequest

/-- `PlayItemRequest::kMinSize()`: the scope, the UID and the UID counter. -/
def minSize : Nat := vendorMinSize + 11

/-- `PlayItemRequest::GetScope`. -/
def getScope (p : List UInt8) : Option UInt8 := byteAt p vendorMinSize 0

/-- `PlayItemRequest::GetUid`. -/
def getUid (p : List UInt8) : Option Nat := beFieldAt p vendorMinSize 1 8

/-- `PlayItemRequest::GetUidCounter`. -/
def getUidCounter (p : List UInt8) : Option Nat := beFieldAt p vendorMinSize 9 2

/-- `PlayItemRequest::IsValid`. -/
def isValid (p : List UInt8) : Option Bool := fixedSizeValid VendorPacket.isValid minSize p

theorem isValid_isSome (p : List UInt8) : (isValid p).isSome :=
  fixedSizeValid_isSome (VendorPacket.isValid_isSome p) _

theorem getters_of_isValid {p : List UInt8} (h : isValid p = some true) :
    (getScope p).isSome ∧ (getUid p).isSome ∧ (getUidCounter p).isSome ∧
      VendorPacket.GettersSome p := by
  have hlen := (fixedSizeValid_eq_some_true h).2
  simp only [minSize] at hlen
  exact ⟨byteAt_isSome (by omega), beFieldAt_isSome (by omega), beFieldAt_isSome (by omega),
    VendorPacket.gettersSome_of_length (by omega)⟩

end PlayItemRequest

namespace SetAddressedPlayerRequest

/-- `SetAddressedPlayerRequest::GetPlayerId`. -/
def getPlayerId (p : List UInt8) : Option Nat := beFieldAt p vendorMinSize 0 2

/-- `SetAddressedPlayerRequest::IsValid`. -/
def isValid (p : List UInt8) : Option Bool :=
  fixedSizeValid VendorPacket.isValid (vendorMinSize + 2) p

theorem isValid_isSome (p : List UInt8) : (isValid p).isSome :=
  fixedSizeValid_isSome (VendorPacket.isValid_isSome p) _

theorem getters_of_isValid {p : List UInt8} (h : isValid p = some true) :
    (getPlayerId p).isSome ∧ VendorPacket.GettersSome p := by
  have hlen := (fixedSizeValid_eq_some_true h).2
  exact ⟨beFieldAt_isSome (by omega), VendorPacket.gettersSome_of_length (by omega)⟩

end SetAddressedPlayerRequest

namespace ChangePathRequest

/-- `ChangePathRequest::GetUidCounter`. -/
def getUidCounter (p : List UInt8) : Option Nat := beFieldAt p browseMinSize 0 2

/-- `ChangePathRequest::GetDirection`. -/
def getDirection (p : List UInt8) : Option UInt8 := byteAt p browseMinSize 2

/-- `ChangePathRequest::GetUid`. -/
def getUid (p : List UInt8) : Option Nat := beFieldAt p browseMinSize 3 8

/-- `ChangePathRequest::IsValid`. -/
def isValid (p : List UInt8) : Option Bool :=
  fixedSizeValid BrowsePacket.isValid (browseMinSize + 11) p

theorem isValid_isSome (p : List UInt8) : (isValid p).isSome :=
  fixedSizeValid_isSome (BrowsePacket.isValid_isSome p) _

theorem getters_of_isValid {p : List UInt8} (h : isValid p = some true) :
    (getUidCounter p).isSome ∧ (getDirection p).isSome ∧ (getUid p).isSome ∧
      BrowsePacket.GettersSome p := by
  have hlen := (fixedSizeValid_eq_some_true h).2
  exact ⟨beFieldAt_isSome (by omega), byteAt_isSome (by omega), beFieldAt_isSome (by omega),
    BrowsePacket.gettersSome_of_length (by omega)⟩

end ChangePathRequest

namespace SetBrowsedPlayerRequest

/-- `SetBrowsedPlayerRequest::GetPlayerId`. -/
def getPlayerId (p : List UInt8) : Option Nat := beFieldAt p browseMinSize 0 2

/-- `SetBrowsedPlayerRequest::IsValid`. -/
def isValid (p : List UInt8) : Option Bool :=
  fixedSizeValid BrowsePacket.isValid (browseMinSize + 2) p

theorem isValid_isSome (p : List UInt8) : (isValid p).isSome :=
  fixedSizeValid_isSome (BrowsePacket.isValid_isSome p) _

theorem getters_of_isValid {p : List UInt8} (h : isValid p = some true) :
    (getPlayerId p).isSome ∧ BrowsePacket.GettersSome p := by
  have hlen := (fixedSizeValid_eq_some_true h).2
  exact ⟨beFieldAt_isSome (by omega), BrowsePacket.gettersSome_of_length (by omega)⟩

end SetBrowsedPlayerRequest

namespace GetTotalNumberOfItemsRequest

/-- `GetTotalNumberOfItemsRequest::GetScope`. -/
def getScope (p : List UInt8) : Option UInt8 := byteAt p browseMinSize 0

/-- `GetTotalNumberOfItemsRequest::IsValid`. -/
def isValid (p : List UInt8) : Option Bool :=
  fixedSizeValid BrowsePacket.isValid (browseMinSize + 1) p

theorem isValid_isSome (p : List UInt8) : (isValid p).isSome :=
  fixedSizeValid_isSome (BrowsePacket.isValid_isSome p) _

theorem getters_of_isValid {p : List UInt8} (h : isValid p = some true) :
    (getScope p).isSome ∧ BrowsePacket.GettersSome p := by
  have hlen := (fixedSizeValid_eq_some_true h).2
  exact ⟨byteAt_isSome (by omega), BrowsePacket.gettersSome_of_length (by omega)⟩

end GetTotalNumberOfItemsRequest

/-! ## Requests that read past a header or a count -/

/-- The start shared by the `IsValid` of the requests below: the base class's `IsValid`, then the
minimum size; what follows decides. -/
theorem validPrefix_eq_some_true {base : Option Bool} {n m : Nat} {rest : Option Bool}
    (h : (do
      let valid ← base
      if !valid then return false
      if n < m then return false
      rest) = some true) :
    base = some true ∧ m ≤ n ∧ rest = some true := by
  obtain ⟨valid, hvalid, hrest⟩ := Option.bind_eq_some_iff.1 h
  cases valid with
  | false => cases hrest
  | true =>
    by_cases hnm : n < m
    · simp [hnm] at hrest
    · simp only [Bool.not_true, Bool.false_eq_true, if_false, hnm] at hrest
      exact ⟨hvalid, by omega, hrest⟩

/-- The same start fails no CHECK when the base class's `IsValid` fails none and what follows the
size check fails none. -/
theorem validPrefix_isSome {base : Option Bool} {n m : Nat} {rest : Option Bool}
    (hbase : base.isSome) (hrest : m ≤ n → rest.isSome) :
    (do
      let valid ← base
      if !valid then return false
      if n < m then return false
      rest).isSome := by
  obtain ⟨valid, hvalid⟩ := Option.isSome_iff_exists.1 hbase
  rw [hvalid, Option.bind_eq_bind, Option.bind_some]
  cases valid with
  | false => rfl
  | true =>
    by_cases hnm : n < m
    · simp [hnm]
    · simp only [Bool.not_true, Bool.false_eq_true, if_false, hnm]
      exact hrest (by omega)

namespace RegisterNotificationRequest

/-- `RegisterNotificationRequest::kMinSize()`: the event and the interval. -/
def minSize : Nat := vendorMinSize + 5

/-- `RegisterNotificationRequest::GetEventRegistered`. -/
def getEventRegistered (p : List UInt8) : Option UInt8 := byteAt p vendorMinSize 0

/-- `RegisterNotificationRequest::GetInterval`. -/
def getInterval (p : List UInt8) : Option Nat := beFieldAt p vendorMinSize 1 4

/-- `RegisterNotificationRequest::IsValid`: the size alone, without `VendorPacket::IsValid`. -/
def isValid (p : List UInt8) : Option Bool := some (p.length == minSize)

theorem getters_of_isValid {p : List UInt8} (h : isValid p = some true) :
    (getEventRegistered p).isSome ∧ (getInterval p).isSome ∧ VendorPacket.GettersSome p := by
  have hlen : p.length = minSize := by simpa [isValid] using h
  simp only [minSize] at hlen
  exact ⟨byteAt_isSome (by omega), beFieldAt_isSome (by omega),
    VendorPacket.gettersSome_of_length (by omega)⟩

end RegisterNotificationRequest

namespace RegisterNotificationResponse

/-- `RegisterNotificationResponse::kMinSize()`: the event. -/
def minSize : Nat := vendorMinSize + 1

/-- `RegisterNotificationResponse::IsInterim`. -/
def isInterim (p : List UInt8) : Option Bool := (Packet.getCType p).map (· == cTypeInterim)

/-- `RegisterNotificationResponse::GetEvent`. -/
def getEvent (p : List UInt8) : Option UInt8 := byteAt p vendorMinSize 0

/-- `RegisterNotificationResponse::GetVolume`, which CHECKs first that the event is
`VOLUME_CHANGED`. -/
def getVolume (p : List UInt8) : Option UInt8 :=
  (getEvent p).bind fun event =>
    if event = eventVolumeChanged then byteAt p vendorMinSize 1 else none

/-- `RegisterNotificationResponse::IsValid`. The source reads `GetCType()` up to three times in one
condition; a getter reads the same byte each time, so one read stands for them. -/
def isValid (p : List UInt8) : Option Bool := do
  let valid ← VendorPacket.isValid p
  if !valid then return false
  if p.length < minSize then return false
  let cType ← Packet.getCType p
  if cType ≠ cTypeInterim ∧ cType ≠ cTypeChanged ∧ cType ≠ cTypeRejected then return false
  let event ← getEvent p
  if event = eventVolumeChanged then return p.length == minSize + 1 else return false

/-- A valid response is a `VOLUME_CHANGED` notification of one more byte. -/
theorem length_of_isValid {p : List UInt8} (h : isValid p = some true) :
    p.length = minSize + 1 ∧ p.getD vendorMinSize 0 = eventVolumeChanged := by
  obtain ⟨-, hmin, hrest⟩ := validPrefix_eq_some_true h
  simp only [minSize] at hmin
  have h0 : 0 + 0 < p.length := by
    simp only [vendorMinSize, packetMinSize] at hmin
    omega
  have hc : Packet.getCType p = some (p[0 + 0] &&& 0x0F) := by
    rw [Packet.getCType, byteAt_of_lt h0]
    rfl
  have he : getEvent p = some p[vendorMinSize] := byteAt_of_lt (by omega)
  rw [hc, he] at hrest
  simp only [Option.bind_eq_bind, Option.bind_some] at hrest
  split_ifs at hrest with hcType hevent
  · cases hrest
  · simp only [Option.pure_def, Option.some.injEq, beq_iff_eq] at hrest
    exact ⟨hrest, by rw [List.getD_eq_getElem _ _ (by omega), hevent]⟩
  · cases hrest

theorem isValid_isSome (p : List UInt8) : (isValid p).isSome := by
  refine validPrefix_isSome (VendorPacket.isValid_isSome p) fun hmin => ?_
  simp only [minSize] at hmin
  have hc : (Packet.getCType p).isSome :=
    (Packet.gettersSome_of_length (by simp only [vendorMinSize] at hmin; omega)).1
  obtain ⟨cType, hcType⟩ := Option.isSome_iff_exists.1 hc
  have he : (getEvent p).isSome := byteAt_isSome (by omega)
  obtain ⟨event, hevent⟩ := Option.isSome_iff_exists.1 he
  rw [hcType, Option.bind_eq_bind, Option.bind_some]
  split_ifs
  · rfl
  · simp only [hevent, Option.bind_some]
    split_ifs <;> rfl

theorem getters_of_isValid {p : List UInt8} (h : isValid p = some true) :
    (isInterim p).isSome ∧ (getEvent p).isSome ∧ (getVolume p).isSome ∧
      VendorPacket.GettersSome p := by
  obtain ⟨hlen, hevent⟩ := length_of_isValid h
  simp only [minSize] at hlen
  rw [List.getD_eq_getElem _ _ (by omega)] at hevent
  have he : getEvent p = some p[vendorMinSize] := byteAt_of_lt (by omega)
  have hvendor : VendorPacket.GettersSome p := VendorPacket.gettersSome_of_length (by omega)
  refine ⟨?_, by rw [he]; rfl, ?_, hvendor⟩
  · simp only [isInterim, Option.isSome_map]
    exact hvendor.2.2.2.2.1
  · rw [getVolume, he, Option.bind_some, if_pos hevent]
    exact byteAt_isSome (by omega)

end RegisterNotificationResponse

namespace GetElementAttributesRequest

/-- `GetElementAttributesRequest::kMinSize()`: the identifier and the attribute count. -/
def minSize : Nat := vendorMinSize + 9

/-- `GetElementAttributesRequest::GetIdentifier`, read by `extract<uint64_t>()`. -/
def getIdentifier (p : List UInt8) : Option Nat := leFieldAt p vendorMinSize 0 8

/-- `GetElementAttributesRequest::GetNumAttributes`. -/
def getNumAttributes (p : List UInt8) : Option Nat := leFieldAt p vendorMinSize 8 1

/-- `GetElementAttributesRequest::GetAttributesRequested`. -/
def getAttributesRequested (p : List UInt8) : Option (List Nat) := attributesAt p vendorMinSize 8

/-- `GetElementAttributesRequest::IsValid`: four bytes for each attribute counted. -/
def isValid (p : List UInt8) : Option Bool := do
  let valid ← VendorPacket.isValid p
  if !valid then return false
  if p.length < minSize then return false
  let numAttributes ← getNumAttributes p
  return numAttributes * 4 == p.length - advance p (advance p 0 vendorMinSize) 9

/-- A valid request holds four bytes for each attribute counted. -/
theorem length_of_isValid {p : List UInt8} (h : isValid p = some true) :
    minSize ≤ p.length ∧ (p.getD (vendorMinSize + 8) 0).toNat * 4 = p.length - minSize := by
  obtain ⟨-, hmin, hrest⟩ := validPrefix_eq_some_true h
  simp only [minSize] at hmin
  rw [getNumAttributes, leFieldAt_one (by omega), advance_base_off (by omega)] at hrest
  simp only [Option.bind_eq_bind, Option.bind_some, Option.pure_def, Option.some.injEq,
    beq_iff_eq] at hrest
  exact ⟨hmin, by rw [List.getD_eq_getElem _ _ (by omega)]; exact hrest⟩

theorem isValid_isSome (p : List UInt8) : (isValid p).isSome := by
  refine validPrefix_isSome (VendorPacket.isValid_isSome p) fun hmin => ?_
  simp only [minSize] at hmin
  rw [getNumAttributes, leFieldAt_one (by omega)]
  rfl

theorem getters_of_isValid {p : List UInt8} (h : isValid p = some true) :
    (getIdentifier p).isSome ∧ (getNumAttributes p).isSome ∧
      (getAttributesRequested p).isSome ∧ VendorPacket.GettersSome p := by
  obtain ⟨hmin, hcount⟩ := length_of_isValid h
  simp only [minSize] at hmin hcount
  rw [List.getD_eq_getElem _ _ (by omega)] at hcount
  exact ⟨leFieldAt_isSome (by omega), leFieldAt_isSome (by omega),
    attributesAt_isSome (by omega) (by omega), VendorPacket.gettersSome_of_length (by omega)⟩

end GetElementAttributesRequest

namespace GetFolderItemsRequest

/-- `GetFolderItemsRequest::kMinSize()`: the scope, the two item indices and the count. -/
def minSize : Nat := browseMinSize + 10

/-- `GetFolderItemsRequest::GetScope`. -/
def getScope (p : List UInt8) : Option UInt8 := byteAt p browseMinSize 0

/-- `GetFolderItemsRequest::GetStartItem`. -/
def getStartItem (p : List UInt8) : Option Nat := beFieldAt p browseMinSize 1 4

/-- `GetFolderItemsRequest::GetEndItem`. -/
def getEndItem (p : List UInt8) : Option Nat := beFieldAt p browseMinSize 5 4

/-- `GetFolderItemsRequest::GetNumAttributes`. -/
def getNumAttributes (p : List UInt8) : Option UInt8 := byteAt p browseMinSize 9

/-- `GetFolderItemsRequest::GetAttributesRequested`: a count of `0xFF` requests no attribute and
is followed by none. -/
def getAttributesRequested (p : List UInt8) : Option (List Nat) := do
  let count ← bytesAt p browseMinSize 9 1
  if leValue count.1 = 0xFF then return []
  let groups ← readGroups p count.2 4 (leValue count.1)
  return groups.1.map beValue

/-- `GetFolderItemsRequest::IsValid`: a count of `0xFF` is valid whatever follows it. -/
def isValid (p : List UInt8) : Option Bool := do
  let valid ← BrowsePacket.isValid p
  if !valid then return false
  if p.length < minSize then return false
  let attrCount ← getNumAttributes p
  if attrCount = 0xFF then return true
  return attrCount.toNat * 4 == p.length - advance p 0 minSize

/-- A valid request counts `0xFF` attributes, or holds four bytes for each attribute counted. -/
theorem length_of_isValid {p : List UInt8} (h : isValid p = some true) :
    minSize ≤ p.length ∧ (p.getD (browseMinSize + 9) 0 = 0xFF ∨
      (p.getD (browseMinSize + 9) 0).toNat * 4 = p.length - minSize) := by
  obtain ⟨-, hmin, hrest⟩ := validPrefix_eq_some_true h
  simp only [minSize] at hmin
  rw [getNumAttributes, byteAt_of_lt (by omega)] at hrest
  simp only [Option.bind_eq_bind, Option.bind_some] at hrest
  refine ⟨hmin, ?_⟩
  rw [List.getD_eq_getElem _ _ (by omega)]
  split_ifs at hrest with hff
  · exact Or.inl hff
  · rw [advance_of_le (by simp only [minSize]; omega), Nat.zero_add] at hrest
    simp only [Option.pure_def, Option.some.injEq, beq_iff_eq] at hrest
    exact Or.inr hrest

theorem isValid_isSome (p : List UInt8) : (isValid p).isSome := by
  refine validPrefix_isSome (BrowsePacket.isValid_isSome p) fun hmin => ?_
  simp only [minSize] at hmin
  rw [getNumAttributes, byteAt_of_lt (by omega)]
  simp only [Option.bind_eq_bind, Option.bind_some]
  split_ifs <;> rfl

theorem getters_of_isValid {p : List UInt8} (h : isValid p = some true) :
    (getScope p).isSome ∧ (getStartItem p).isSome ∧ (getEndItem p).isSome ∧
      (getNumAttributes p).isSome ∧ (getAttributesRequested p).isSome ∧
      BrowsePacket.GettersSome p := by
  obtain ⟨hmin, hcount⟩ := length_of_isValid h
  simp only [minSize] at hmin hcount
  rw [List.getD_eq_getElem _ _ (by omega)] at hcount
  have hbytes : bytesAt p browseMinSize 9 1 =
      some ([p[browseMinSize + 9]], browseMinSize + 9 + 1) := by
    rw [bytesAt_of_le (by omega), List.drop_eq_getElem_cons (by omega)]
    rfl
  -- the list is read whole unless the count is 0xFF, and then nothing more is read
  have hattributes : (getAttributesRequested p).isSome := by
    have hvalue : leValue [p[browseMinSize + 9]] = p[browseMinSize + 9].toNat := by
      simp [leValue]
    simp only [getAttributesRequested, hbytes, Option.bind_eq_bind, Option.bind_some]
    by_cases hff : leValue [p[browseMinSize + 9]] = 0xFF
    · rw [if_pos hff]
      rfl
    · have hlen : p[browseMinSize + 9].toNat * 4 = p.length - (browseMinSize + 10) := by
        rcases hcount with hcount | hcount
        · exact absurd (by rw [hvalue, hcount]; rfl) hff
        · exact hcount
      obtain ⟨gs, hgs, -⟩ := readGroups_of_le (b := p) (k := 4)
        (n := leValue [p[browseMinSize + 9]]) (i := browseMinSize + 9 + 1) (by omega)
      rw [if_neg hff, hgs]
      rfl
  exact ⟨byteAt_isSome (by omega), beFieldAt_isSome (by omega), beFieldAt_isSome (by omega),
    byteAt_isSome (by omega), hattributes, BrowsePacket.gettersSome_of_length (by omega)⟩

end GetFolderItemsRequest

namespace GetItemAttributesRequest

/-- `GetItemAttributesRequest::kMinSize()`: the scope, the UID, the UID counter and the count. -/
def minSize : Nat := browseMinSize + 12

/-- `GetItemAttributesRequest::GetScope`. -/
def getScope (p : List UInt8) : Option UInt8 := byteAt p browseMinSize 0

/-- `GetItemAttributesRequest::GetUid`. -/
def getUid (p : List UInt8) : Option Nat := beFieldAt p browseMinSize 1 8

/-- `GetItemAttributesRequest::GetUidCounter`. -/
def getUidCounter (p : List UInt8) : Option Nat := beFieldAt p browseMinSize 9 2

/-- `GetItemAttributesRequest::GetNumAttributes`. -/
def getNumAttributes (p : List UInt8) : Option UInt8 := byteAt p browseMinSize 11

/-- `GetItemAttributesRequest::GetAttributesRequested`. -/
def getAttributesRequested (p : List UInt8) : Option (List Nat) := attributesAt p browseMinSize 11

/-- `GetItemAttributesRequest::IsValid`: four bytes for each attribute counted. -/
def isValid (p : List UInt8) : Option Bool := do
  let valid ← BrowsePacket.isValid p
  if !valid then return false
  if p.length < minSize then return false
  let numAttributes ← getNumAttributes p
  return numAttributes.toNat * 4 == p.length - minSize

/-- A valid request holds four bytes for each attribute counted. -/
theorem length_of_isValid {p : List UInt8} (h : isValid p = some true) :
    minSize ≤ p.length ∧ (p.getD (browseMinSize + 11) 0).toNat * 4 = p.length - minSize := by
  obtain ⟨-, hmin, hrest⟩ := validPrefix_eq_some_true h
  simp only [minSize] at hmin
  rw [getNumAttributes, byteAt_of_lt (by omega)] at hrest
  simp only [Option.bind_eq_bind, Option.bind_some, Option.pure_def, Option.some.injEq,
    beq_iff_eq] at hrest
  exact ⟨hmin, by rw [List.getD_eq_getElem _ _ (by omega)]; exact hrest⟩

theorem isValid_isSome (p : List UInt8) : (isValid p).isSome := by
  refine validPrefix_isSome (BrowsePacket.isValid_isSome p) fun hmin => ?_
  simp only [minSize] at hmin
  rw [getNumAttributes, byteAt_of_lt (by omega)]
  rfl

theorem getters_of_isValid {p : List UInt8} (h : isValid p = some true) :
    (getScope p).isSome ∧ (getUid p).isSome ∧ (getUidCounter p).isSome ∧
      (getNumAttributes p).isSome ∧ (getAttributesRequested p).isSome ∧
      BrowsePacket.GettersSome p := by
  obtain ⟨hmin, hcount⟩ := length_of_isValid h
  simp only [minSize] at hmin hcount
  rw [List.getD_eq_getElem _ _ (by omega)] at hcount
  exact ⟨byteAt_isSome (by omega), beFieldAt_isSome (by omega), beFieldAt_isSome (by omega),
    byteAt_isSome (by omega), attributesAt_isSome (by omega) (by omega),
    BrowsePacket.gettersSome_of_length (by omega)⟩

end GetItemAttributesRequest

namespace PassThroughPacket

/-- `PassThroughPacket::GetKeyState`: the top bit of the operation byte. -/
def getKeyState (p : List UInt8) : Option UInt8 :=
  (byteAt p packetMinSize 0).map fun b => (b &&& 0b10000000) >>> (7 : UInt8)

/-- `PassThroughPacket::GetOperationId`: the other seven bits. -/
def getOperationId (p : List UInt8) : Option UInt8 :=
  (byteAt p packetMinSize 0).map (· &&& 0b01111111)

/-- `PassThroughPacket::IsValid`: the operation byte and its data length. -/
def isValid (p : List UInt8) : Option Bool := some (p.length == packetMinSize + 2)

theorem getters_of_isValid {p : List UInt8} (h : isValid p = some true) :
    (getKeyState p).isSome ∧ (getOperationId p).isSome ∧ Packet.GettersSome p := by
  have hlen : p.length = packetMinSize + 2 := by simpa [isValid] using h
  simp only [packetMinSize] at hlen
  refine ⟨?_, ?_, Packet.gettersSome_of_length (by simp only [packetMinSize]; omega)⟩
  · simp only [getKeyState, Option.isSome_map]
    exact byteAt_isSome (by simp only [packetMinSize]; omega)
  · simp only [getOperationId, Option.isSome_map]
    exact byteAt_isSome (by simp only [packetMinSize]; omega)

end PassThroughPacket

end BluetoothStack.Avrcp
