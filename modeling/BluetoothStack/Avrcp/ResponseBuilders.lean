import BluetoothStack.Avrcp.Items
import BluetoothStack.Lib.Calls

/-!
# AVRCP response builders

`GetFolderItemsResponseBuilder` (packet/avrcp/get_folder_items.cc) lists media players, folders
and songs on the browsing channel; `GetElementAttributesResponseBuilder`
(packet/avrcp/get_element_attributes_packet.cc), on the control channel, and
`GetItemAttributesResponseBuilder` (packet/avrcp/get_item_attributes.cc), on the browsing
channel, list the attributes of one item. Each is made with an MTU, takes items or attribute
entries one call at a time while it keeps count of its `size()`, and is written out by
`Serialize`.

Main results:
* `Serialize` writes `size()` bytes (`GetFolderItemsResponseBuilder.length_serialize`,
  `GetItemAttributesResponseBuilder.length_serialize`); for element attributes only while every
  value is shorter than 65536 bytes (`GetElementAttributesResponseBuilder.length_serialize`),
  since the loop of `PushAttributeValue` stops at the `uint16_t` value length
  (`length_serialize_lt`). A 16-bit MTU keeps every value below that (`run_serialize_of_mtu_lt`).
* Over every run of calls, an attribute builder whose MTU is at least its empty size stays
  within it (`GetElementAttributesResponseBuilder.run_size_le`,
  `GetItemAttributesResponseBuilder.run_size_le`), and none of its `CHECK`s fails (`run_isSome`).
* The folder builder stays within its MTU only up to 4 bytes
  (`GetFolderItemsResponseBuilder.run_withinMtu`): while it holds no item, `size()` leaves out
  the UID counter and the item count, so the first item is checked against a size 4 bytes short
  (`addMediaListItem_first_exceeds`).
* Each length and count a builder writes is read back as the number of bytes or entries after it
  while it fits its field (`serialize_parameterLength`, `serialize_items`, `serialize_entries`,
  and the item lemmas of `Avrcp.Items`).
-/

namespace BluetoothStack.Avrcp

open Bytes

/-! ## Status, scope and headers -/

/-- `Status`: the status a response reports. -/
inductive Status where
  | invalidCommand
  | invalidParameter
  | parameterContentError
  | internalError
  | noError
  | uidsChanged
  | reserved
  | invalidDirection
  | notADirectory
  | doesNotExist
  | invalidScope
  | rangeOutOfBounds
  | folderItemNotPlayable
  | mediaInUse
  | nowPlayingListFull
  | searchNotSupported
  | searchInProgress
  | invalidPlayerId
  | playerNotBrowsable
  | playerNotAddressed
  | noValidSearchResults
  | noAvailablePlayers
  | addressedPlayerChanged
  deriving DecidableEq, Repr

/-- The `uint8_t` code of a status. -/
def Status.toUInt8 : Status → UInt8
  | .invalidCommand => 0x00
  | .invalidParameter => 0x01
  | .parameterContentError => 0x02
  | .internalError => 0x03
  | .noError => 0x04
  | .uidsChanged => 0x05
  | .reserved => 0x06
  | .invalidDirection => 0x07
  | .notADirectory => 0x08
  | .doesNotExist => 0x09
  | .invalidScope => 0x0a
  | .rangeOutOfBounds => 0x0b
  | .folderItemNotPlayable => 0x0c
  | .mediaInUse => 0x0d
  | .nowPlayingListFull => 0x0e
  | .searchNotSupported => 0x0f
  | .searchInProgress => 0x10
  | .invalidPlayerId => 0x11
  | .playerNotBrowsable => 0x12
  | .playerNotAddressed => 0x13
  | .noValidSearchResults => 0x14
  | .noAvailablePlayers => 0x15
  | .addressedPlayerChanged => 0x16

/-- `Scope`: what a folder listing lists. -/
inductive Scope where
  | mediaPlayerList
  | vfs
  | search
  | nowPlaying
  deriving DecidableEq, Repr

/-- `BrowsePacket::kMinSize()`: the PDU and the parameter length. -/
def browseMinSize : Nat := 3

/-- `Packet::kMinSize()`: the command type, the subunit and the opcode. -/
def packetMinSize : Nat := 3

/-- `VendorPacket::kMinSize()`: the AVRCP header, the company id, the PDU, the packet type and
the parameter length. -/
def vendorMinSize : Nat := packetMinSize + 7

/-- `BrowsePdu::GET_FOLDER_ITEMS`. -/
def browsePduGetFolderItems : UInt8 := 0x71

/-- `BrowsePdu::GET_ITEM_ATTRIBUTES`. -/
def browsePduGetItemAttributes : UInt8 := 0x73

/-- `CType::STABLE`. -/
def cTypeStable : UInt8 := 0x0c

/-- `Opcode::VENDOR`. -/
def opcodeVendor : UInt8 := 0x00

/-- `CommandPdu::GET_ELEMENT_ATTRIBUTES`. -/
def commandPduGetElementAttributes : UInt8 := 0x20

/-- `PacketType::SINGLE`. -/
def packetTypeSingle : UInt8 := 0x00

/-- `BLUETOOTH_COMPANY_ID`. -/
def bluetoothCompanyId : Nat := 0x001958

/-- `BrowsePacketBuilder::PushHeader(pkt, length)`: the PDU and the `uint16_t` length. -/
def browseHeader (pdu : UInt8) (length : Nat) : List UInt8 := [pdu] ++ beBytes 2 length

/-- `PacketBuilder::PushHeader` of a vendor command: the command type, the subunit type `0x09`
(panel) shifted over the subunit id `0`, and the opcode. -/
def packetHeader (cType : UInt8) : List UInt8 :=
  [cType, ((0x09 : UInt8) <<< 3) ||| 0x00, opcodeVendor]

/-- `PacketBuilder::PushCompanyId`: the loop shifts the byte-swapped id down one byte at a time,
so it writes the low three bytes of the id, most significant first. -/
def pushCompanyId (companyId : Nat) : List UInt8 := beBytes 3 companyId

/-- `VendorPacketBuilder::PushHeader(pkt, parameter_length)`: the company id, the PDU, the packet
type and the `uint16_t` parameter length. -/
def vendorHeader (pdu packetType : UInt8) (parameterLength : Nat) : List UInt8 :=
  pushCompanyId bluetoothCompanyId ++ [pdu, packetType] ++ beBytes 2 parameterLength

@[simp] theorem length_browseHeader (pdu : UInt8) (length : Nat) :
    (browseHeader pdu length).length = browseMinSize := by
  simp only [browseHeader, List.length_append, List.length_singleton, length_beBytes,
    browseMinSize]

@[simp] theorem length_packetHeader_vendorHeader (cType pdu packetType : UInt8) (n : Nat) :
    (packetHeader cType ++ vendorHeader pdu packetType n).length = vendorMinSize := by
  simp only [packetHeader, vendorHeader, pushCompanyId, List.length_append, List.length_cons,
    List.length_nil, length_beBytes, vendorMinSize, packetMinSize]

/-! ## `GetFolderItemsResponseBuilder` -/

/-- `GetFolderItemsResponseBuilder`: the `size_t` MTU is a 64-bit word. -/
structure GetFolderItemsResponseBuilder where
  scope : Scope
  status : Status
  uidCounter : UInt16
  mtu : UInt64
  items : List MediaListItem

namespace GetFolderItemsResponseBuilder

/-- The constructor, which `MakePlayerListBuilder`, `MakeVFSBuilder` and `MakeNowPlayingBuilder`
call with their scope. -/
def make (scope : Scope) (status : Status) (uidCounter : UInt16) (mtu : UInt64) :
    GetFolderItemsResponseBuilder :=
  ⟨scope, status, uidCounter, mtu, []⟩

/-- `MakePlayerListBuilder`. -/
def makePlayerListBuilder (status : Status) (uidCounter : UInt16) (mtu : UInt64) :
    GetFolderItemsResponseBuilder :=
  make .mediaPlayerList status uidCounter mtu

/-- `MakeVFSBuilder`. -/
def makeVFSBuilder (status : Status) (uidCounter : UInt16) (mtu : UInt64) :
    GetFolderItemsResponseBuilder :=
  make .vfs status uidCounter mtu

/-- `MakeNowPlayingBuilder`. -/
def makeNowPlayingBuilder (status : Status) (uidCounter : UInt16) (mtu : UInt64) :
    GetFolderItemsResponseBuilder :=
  make .nowPlaying status uidCounter mtu

/-- `size()`: the header and the status, and with `NO_ERROR` and at least one item also the UID
counter, the item count and the items. -/
def size (b : GetFolderItemsResponseBuilder) : Nat :=
  if b.status ≠ .noError ∨ b.items.length = 0 then browseMinSize + 1
  else browseMinSize + 1 + 2 + 2 + (b.items.map MediaListItem.size).sum

/-- `Serialize`: the bytes written, and the builder with the status it leaves, which is
`RANGE_OUT_OF_BOUNDS` in place of `NO_ERROR` when there is no item. -/
def serialize (b : GetFolderItemsResponseBuilder) : List UInt8 × GetFolderItemsResponseBuilder :=
  let header := browseHeader browsePduGetFolderItems (b.size - browseMinSize)
  let b' := if b.status = .noError ∧ b.items.length = 0 then
    { b with status := .rangeOutOfBounds } else b
  if b'.status ≠ .noError then (header ++ [b'.status.toUInt8], b')
  else
    (header ++ [b'.status.toUInt8] ++ beBytes 2 b.uidCounter.toNat ++ beBytes 2 b.items.length ++
      b.items.flatMap pushMediaListItem, b')

/-- What `AddMediaPlayer`, `AddSong` and `AddFolder` share: `none` where the `CHECK` on the scope
fails; the item refused when `size() + item.size()` passes the MTU, and appended otherwise. -/
def addMediaListItem (b : GetFolderItemsResponseBuilder) (scopeOk : Scope → Bool)
    (item : MediaListItem) : Option (Bool × GetFolderItemsResponseBuilder) :=
  if scopeOk b.scope then
    if b.size + item.size > b.mtu.toNat then some (false, b)
    else some (true, { b with items := b.items ++ [item] })
  else none

/-- `AddMediaPlayer`: only in the media player list. -/
def addMediaPlayer (b : GetFolderItemsResponseBuilder) (item : MediaPlayerItem) :
    Option (Bool × GetFolderItemsResponseBuilder) :=
  b.addMediaListItem (fun scope => scope == .mediaPlayerList) (.player item)

/-- `AddSong`: only in the virtual file system or the now playing list. -/
def addSong (b : GetFolderItemsResponseBuilder) (item : MediaElementItem) :
    Option (Bool × GetFolderItemsResponseBuilder) :=
  b.addMediaListItem (fun scope => scope == .vfs || scope == .nowPlaying) (.song item)

/-- `AddFolder`: only in the virtual file system. -/
def addFolder (b : GetFolderItemsResponseBuilder) (item : FolderItem) :
    Option (Bool × GetFolderItemsResponseBuilder) :=
  b.addMediaListItem (fun scope => scope == .vfs) (.folder item)

end GetFolderItemsResponseBuilder

/-- A call of the folder builder's `Add*` methods. -/
inductive FolderItemsCall where
  | addMediaPlayer (item : MediaPlayerItem)
  | addSong (item : MediaElementItem)
  | addFolder (item : FolderItem)

namespace GetFolderItemsResponseBuilder

/-- The result of a call and the builder it leaves; `none` where it fails its `CHECK`. -/
def call (b : GetFolderItemsResponseBuilder) : FolderItemsCall →
    Option (Bool × GetFolderItemsResponseBuilder)
  | .addMediaPlayer item => b.addMediaPlayer item
  | .addSong item => b.addSong item
  | .addFolder item => b.addFolder item

/-- The calls in order. -/
def run (b : GetFolderItemsResponseBuilder) (calls : List FolderItemsCall) :
    Option GetFolderItemsResponseBuilder :=
  Calls.run call b calls

end GetFolderItemsResponseBuilder

namespace GetFolderItemsResponseBuilder

variable {b : GetFolderItemsResponseBuilder}

/-- With `NO_ERROR` and at least one item, `size()` counts everything. -/
theorem size_of_listing (hs : b.status = .noError) (hne : b.items ≠ []) :
    b.size = browseMinSize + 1 + 2 + 2 + (b.items.map MediaListItem.size).sum := by
  have hlen : b.items.length ≠ 0 := by simpa only [ne_eq, List.length_eq_zero_iff] using hne
  simp only [size, hs, ne_eq, not_true_eq_false, hlen, or_self, if_false]

/-- Otherwise it counts the header and the status only. -/
theorem size_of_not_listing (h : b.status ≠ .noError ∨ b.items = []) :
    b.size = browseMinSize + 1 := by
  have hcond : b.status ≠ .noError ∨ b.items.length = 0 := by
    simpa only [List.length_eq_zero_iff] using h
  simp only [size, hcond, if_true]

/-- Appending an item adds its size, and with `NO_ERROR` 4 bytes more for the first item: the
UID counter and the item count, which `size()` left out while there was no item. -/
theorem size_append_item (item : MediaListItem) :
    ({ b with items := b.items ++ [item] } : GetFolderItemsResponseBuilder).size =
      if b.status = .noError then b.size + item.size + (if b.items = [] then 4 else 0)
      else b.size := by
  by_cases hs : b.status = .noError
  · have hne : b.items ++ [item] ≠ [] := by simp
    rw [size_of_listing (b := { b with items := b.items ++ [item] }) hs hne, if_pos hs]
    by_cases hnil : b.items = []
    · -- the first item: before it only the header and the status were counted
      rw [size_of_not_listing (.inr hnil), if_pos hnil, hnil]
      simp only [List.nil_append, List.map_cons, List.map_nil, List.sum_cons, List.sum_nil]
      omega
    · rw [size_of_listing hs hnil, if_neg hnil, List.map_append, List.sum_append]
      simp only [List.map_cons, List.map_nil, List.sum_cons, List.sum_nil]
      omega
  · rw [size_of_not_listing (b := { b with items := b.items ++ [item] }) (.inl hs),
      size_of_not_listing (.inl hs), if_neg hs]

/-- What an `Add*` call can do: it passes the scope check, and either refuses the item, which
does not fit, or appends it, which fits as `size()` counts. -/
theorem addMediaListItem_eq_some {scopeOk : Scope → Bool} {item : MediaListItem}
    {r : Bool × GetFolderItemsResponseBuilder} (h : b.addMediaListItem scopeOk item = some r) :
    scopeOk b.scope = true ∧
      (b.mtu.toNat < b.size + item.size ∧ r = (false, b) ∨
        b.size + item.size ≤ b.mtu.toNat ∧
          r = (true, { b with items := b.items ++ [item] })) := by
  unfold addMediaListItem at h
  split at h
  · rename_i hscope
    refine ⟨hscope, ?_⟩
    split at h
    · exact .inl ⟨by omega, (Option.some.inj h).symm⟩
    · exact .inr ⟨by omega, (Option.some.inj h).symm⟩
  · cases h

/-- Every call is an `addMediaListItem`. -/
theorem call_eq (c : FolderItemsCall) :
    ∃ scopeOk item, b.call c = b.addMediaListItem scopeOk item := by
  cases c with
  | addMediaPlayer item => exact ⟨fun scope => scope == .mediaPlayerList, .player item, rfl⟩
  | addSong item => exact ⟨fun scope => scope == .vfs || scope == .nowPlaying, .song item, rfl⟩
  | addFolder item => exact ⟨fun scope => scope == .vfs, .folder item, rfl⟩

/-- What the builder keeps of its MTU: `size()` within it, but for the UID counter and the item
count while exactly one item is listed. -/
def WithinMtu (b : GetFolderItemsResponseBuilder) : Prop :=
  b.size ≤ b.mtu.toNat + if b.status = .noError ∧ b.items.length = 1 then 4 else 0

/-- A new builder keeps it exactly when its MTU is at least its size. -/
theorem withinMtu_make_iff (scope : Scope) (status : Status) (uidCounter : UInt16)
    (mtu : UInt64) :
    (make scope status uidCounter mtu).WithinMtu ↔
      (make scope status uidCounter mtu).size ≤ mtu.toNat := by
  simp only [WithinMtu, make, List.length_nil, zero_ne_one, and_false, if_false, Nat.add_zero]

/-- Every `Add*` call keeps it. -/
theorem WithinMtu.addMediaListItem {scopeOk : Scope → Bool} {item : MediaListItem}
    {r : Bool × GetFolderItemsResponseBuilder} (hb : b.WithinMtu)
    (h : b.addMediaListItem scopeOk item = some r) : r.2.WithinMtu := by
  obtain ⟨-, ⟨-, rfl⟩ | ⟨hfits, rfl⟩⟩ := addMediaListItem_eq_some h
  · exact hb
  · unfold WithinMtu
    rw [size_append_item]
    by_cases hs : b.status = .noError
    · by_cases hnil : b.items = []
      · -- the first item: `size()` is now 4 bytes more than was checked
        simp only [hs, hnil, if_true, List.nil_append, List.length_singleton, and_self]
        omega
      · -- a later item: the check counted everything
        have hlen : (b.items ++ [item]).length ≠ 1 := by
          have := List.length_pos_iff.2 hnil
          simp only [List.length_append, List.length_singleton]
          omega
        simp only [hs, hnil, hlen, if_true, if_false, and_false, Nat.add_zero]
        omega
    · have hsize : b.size ≤ b.mtu.toNat := by simpa only [WithinMtu, hs, false_and, if_false,
        Nat.add_zero] using hb
      simp only [hs, false_and, if_false, Nat.add_zero]
      exact hsize

theorem WithinMtu.size_le (hb : b.WithinMtu) : b.size ≤ b.mtu.toNat + 4 := by
  unfold WithinMtu at hb
  split at hb <;> omega

/-- Unless exactly one item is listed, the builder is within its MTU. -/
theorem WithinMtu.size_le_of_length_ne_one (hb : b.WithinMtu) (h : b.items.length ≠ 1) :
    b.size ≤ b.mtu.toNat := by
  simpa only [WithinMtu, h, and_false, if_false, Nat.add_zero] using hb

/-- Over every run of calls on a new builder whose MTU is at least its size, the builder keeps
its MTU and stays within it but for 4 bytes. By `Calls.run_inv`, one call at a time. -/
theorem run_withinMtu (calls : List FolderItemsCall) {scope : Scope} {status : Status}
    {uidCounter : UInt16} {mtu : UInt64}
    (hmtu : (make scope status uidCounter mtu).size ≤ mtu.toNat)
    (h : (make scope status uidCounter mtu).run calls = some b) : b.mtu = mtu ∧ b.WithinMtu := by
  refine Calls.run_inv (fun b => b.mtu = mtu ∧ b.WithinMtu) (fun {b c r} hb hcall => ?_) calls
    ⟨rfl, (withinMtu_make_iff _ _ _ _).2 hmtu⟩ h
  obtain ⟨scopeOk, item, hc⟩ := call_eq (b := b) c
  rw [hc] at hcall
  refine ⟨?_, hb.2.addMediaListItem hcall⟩
  obtain ⟨-, ⟨-, rfl⟩ | ⟨-, rfl⟩⟩ := addMediaListItem_eq_some hcall <;> exact hb.1

/-- The first item is checked against a size 4 bytes short: one that leaves fewer than 4 bytes
of the MTU is accepted, and the response then passes the MTU. -/
theorem addMediaListItem_first_exceeds {scopeOk : Scope → Bool} {item : MediaListItem}
    (hscope : scopeOk b.scope = true) (hs : b.status = .noError) (hnil : b.items = [])
    (hfits : browseMinSize + 1 + item.size ≤ b.mtu.toNat)
    (hover : b.mtu.toNat < browseMinSize + 1 + 2 + 2 + item.size) :
    ∃ b', b.addMediaListItem scopeOk item = some (true, b') ∧ b'.mtu.toNat < b'.size := by
  have hsize := size_of_not_listing (.inr hnil)
  have hcheck : ¬ b.size + item.size > b.mtu.toNat := by omega
  refine ⟨_, by rw [addMediaListItem, if_pos hscope, if_neg hcheck], ?_⟩
  rw [size_append_item, if_pos hs, if_pos hnil]
  simp only [browseMinSize] at *
  omega

/-- A listing of the virtual file system with an MTU of 21 bytes accepts a song of 17 bytes,
checked as 4 + 17 bytes, and then takes 25 bytes, which `Serialize` writes. -/
theorem getFolderItems_addSong_exceeds_mtu :
    (MediaElementItem.make 0 [] []).size = 17 ∧
      ∃ b, (makeVFSBuilder .noError 0 21).addSong (MediaElementItem.make 0 [] []) =
        some (true, b) ∧ b.mtu.toNat = 21 ∧ b.size = 25 ∧ b.serialize.1.length = 25 :=
  ⟨rfl, _, rfl, rfl, rfl, rfl⟩

/-- With `NO_ERROR` and at least one item, `Serialize` writes the header, the status, the UID
counter, the item count and the items, and leaves the builder as it is. -/
theorem serialize_of_listing (hs : b.status = .noError) (hne : b.items ≠ []) :
    b.serialize = (browseHeader browsePduGetFolderItems (b.size - browseMinSize) ++
      [Status.noError.toUInt8] ++ beBytes 2 b.uidCounter.toNat ++ beBytes 2 b.items.length ++
      b.items.flatMap pushMediaListItem, b) := by
  have hlen : b.items.length ≠ 0 := by simpa only [ne_eq, List.length_eq_zero_iff] using hne
  simp only [serialize, hs, hlen, and_false, if_false, ne_eq, not_true_eq_false]

/-- Otherwise it writes the header and the status only, `RANGE_OUT_OF_BOUNDS` for an empty
folder with `NO_ERROR`. -/
theorem serialize_fst_of_not_listing (h : b.status ≠ .noError ∨ b.items = []) :
    b.serialize.1 = browseHeader browsePduGetFolderItems (b.size - browseMinSize) ++
      [(if b.status = .noError then Status.rangeOutOfBounds else b.status).toUInt8] := by
  by_cases hs : b.status = .noError
  · have hlen : b.items.length = 0 := by
      simpa only [hs, ne_eq, not_true_eq_false, false_or, List.length_eq_zero_iff] using h
    simp only [serialize, hs, hlen, and_self, if_true, ne_eq, reduceCtorEq, not_false_eq_true]
  · simp only [serialize, hs, false_and, if_false, ne_eq, not_false_eq_true, if_true]

/-- `Serialize` writes `size()` bytes. -/
theorem length_serialize (b : GetFolderItemsResponseBuilder) : b.serialize.1.length = b.size := by
  by_cases h : b.status = .noError ∧ b.items ≠ []
  · rw [serialize_of_listing h.1 h.2, size_of_listing h.1 h.2]
    simp only [List.length_append, length_browseHeader, List.length_singleton, length_beBytes,
      List.length_flatMap, length_pushMediaListItem, browseMinSize]
  · have h' : b.status ≠ .noError ∨ b.items = [] := by tauto
    rw [serialize_fst_of_not_listing h', size_of_not_listing h']
    simp only [List.length_append, length_browseHeader, List.length_singleton]

/-- The parameter length `Serialize` writes is the number of bytes after the header, while it
fits its 16 bits. -/
theorem serialize_parameterLength (b : GetFolderItemsResponseBuilder)
    (h : b.size - browseMinSize < 65536) :
    beValue (load 1 2 b.serialize.1) = (b.serialize.1.drop browseMinSize).length := by
  obtain ⟨rest, hrest⟩ : ∃ rest, b.serialize.1 =
      [browsePduGetFolderItems] ++ beBytes 2 (b.size - browseMinSize) ++ rest := by
    by_cases hl : b.status = .noError ∧ b.items ≠ []
    · rw [serialize_of_listing hl.1 hl.2]
      exact ⟨[Status.noError.toUInt8] ++ beBytes 2 b.uidCounter.toNat ++
        beBytes 2 b.items.length ++ b.items.flatMap pushMediaListItem,
        by simp only [browseHeader, List.append_assoc]⟩
    · rw [serialize_fst_of_not_listing (by tauto)]
      exact ⟨_, rfl⟩
  rw [List.length_drop, length_serialize, hrest]
  exact @beValue_load_beBytes [browsePduGetFolderItems] rest 2 _ h

/-- With `NO_ERROR` and at least one item, the item count is the number of items while it fits
its 16 bits, and the items follow it. -/
theorem serialize_items (hs : b.status = .noError) (hne : b.items ≠ [])
    (hn : b.items.length < 65536) :
    beValue (load 6 2 b.serialize.1) = b.items.length ∧
      b.serialize.1.drop 8 = b.items.flatMap pushMediaListItem := by
  rw [serialize_of_listing hs hne]
  generalize hpre : browseHeader browsePduGetFolderItems (b.size - browseMinSize) ++
    [Status.noError.toUInt8] ++ beBytes 2 b.uidCounter.toNat = pre
  have hpreLength : pre.length = 6 := by
    rw [← hpre]
    simp only [List.length_append, length_browseHeader, List.length_singleton, length_beBytes,
      browseMinSize]
  have hcountEnd : (pre ++ beBytes 2 b.items.length).length = 8 := by
    simp only [List.length_append, hpreLength, length_beBytes]
  constructor
  · rw [← hpreLength]
    exact beValue_load_beBytes (by omega)
  · exact List.drop_left' hcountEnd

end GetFolderItemsResponseBuilder

/-! ## The attribute sets of `GetElementAttributesResponseBuilder` and
`GetItemAttributesResponseBuilder` -/

/-- With no room for the header, `resize` drops the whole value. -/
theorem AttributeEntry.resize_snd_eq_nil {n : Nat} (hn : n < AttributeEntry.kHeaderSize)
    (e : AttributeEntry) : (e.resize n).2 = [] := by
  unfold AttributeEntry.resize
  simp only [hn, if_true]
  split
  · rfl
  · rename_i hlen
    exact List.eq_nil_of_length_eq_zero (by omega)

/-- An entry cut to `n` bytes, as `AddAttributeEntry` cuts it, fits them unless its value is left
empty. -/
theorem AttributeEntry.size_cut_le {n : Nat} (e : AttributeEntry)
    (h : (if e.size > n then e.resize n else e).2 ≠ []) :
    (if e.size > n then e.resize n else e).size ≤ n := by
  split
  · by_cases hn : AttributeEntry.kHeaderSize ≤ n
    · exact AttributeEntry.size_resize_le hn e
    · rw [if_pos ‹_›, AttributeEntry.resize_snd_eq_nil (by omega)] at h
      exact absurd rfl h
  · omega

/-- A `std::set<AttributeEntry>`: one entry per attribute, in increasing order of attribute. -/
structure AttributeSet where
  toList : List AttributeEntry
  sorted : toList.Pairwise fun a b => a.1 < b.1

namespace AttributeSet

/-- The empty set. -/
def empty : AttributeSet := ⟨[], List.Pairwise.nil⟩

/-- `insert`: for an attribute the set has already, the set stays as it is. -/
def insert (e : AttributeEntry) (s : AttributeSet) : AttributeSet :=
  ⟨KeyList.emplace e.1 e.2 s.toList, KeyList.pairwise_emplace s.sorted⟩

/-- The sizes of the entries, as the loops of `size()` add them up. -/
def attributesSize (s : AttributeSet) : Nat := (s.toList.map AttributeEntry.size).sum

/-- What both `AddAttributeEntry` do, given the builder's `size()` and MTU: `none` where the
`CHECK` on the number of entries fails; the entry cut to the `size_t` space left,
`mtu_ - size()`, which wraps below zero; the entry refused if its value is then empty, and
inserted otherwise. -/
def addAttributeEntry (s : AttributeSet) (size : Nat) (mtu : UInt64) (entry : AttributeEntry) :
    Option (Bool × AttributeSet) :=
  if s.toList.length < 0xFF then
    let remainingSpace := (mtu - UInt64.ofNat size).toNat
    let entry := if entry.size > remainingSpace then entry.resize remainingSpace else entry
    if entry.2.isEmpty then some (false, s) else some (true, s.insert entry)
  else none

/-- A set holds at most one entry for each of the eight attributes. -/
theorem length_le (s : AttributeSet) : s.toList.length ≤ 8 :=
  length_le_of_sorted s.sorted fun e _ => (Attribute.toUInt32_mem e.1).1

theorem attributesSize_insert_le (e : AttributeEntry) (s : AttributeSet) :
    (s.insert e).attributesSize ≤ s.attributesSize + e.size :=
  KeyList.sum_map_emplace_le AttributeEntry.size e.1 e.2 s.toList

/-- An entry takes at most the size of all of them. -/
theorem size_le_attributesSize {s : AttributeSet} {e : AttributeEntry} (he : e ∈ s.toList) :
    e.size ≤ s.attributesSize :=
  List.le_sum_of_mem (List.mem_map_of_mem he)

/-- Written one after another, the entries take their sizes. -/
theorem length_flatMap_attributeBytes (s : AttributeSet) :
    (s.toList.flatMap attributeBytes).length = s.attributesSize := by
  simp only [List.length_flatMap, length_attributeBytes, attributesSize]

/-- The `size_t` space left is the plain difference while `size()` is within the MTU. -/
theorem toNat_sub_ofNat {mtu : UInt64} {size : Nat} (h : size ≤ mtu.toNat) :
    (mtu - UInt64.ofNat size).toNat = mtu.toNat - size := by
  have hs : size < UInt64.size := Nat.lt_of_le_of_lt h mtu.toNat_lt
  have hle : UInt64.ofNat size ≤ mtu := by
    rw [UInt64.le_iff_toNat_le, UInt64.toNat_ofNat_of_lt' hs]
    exact h
  rw [UInt64.toNat_sub_of_le _ _ hle, UInt64.toNat_ofNat_of_lt' hs]

/-- The `CHECK` never fails: a set has at most eight entries. -/
theorem addAttributeEntry_isSome (s : AttributeSet) (size : Nat) (mtu : UInt64)
    (entry : AttributeEntry) : (s.addAttributeEntry size mtu entry).isSome := by
  have hlen : s.toList.length < 0xFF := by
    have := s.length_le
    omega
  unfold addAttributeEntry
  rw [if_pos hlen]
  dsimp only
  split <;> split <;> rfl

/-- Within the MTU, the entries grow by at most the space left. -/
theorem attributesSize_addAttributeEntry_le {s : AttributeSet} {size : Nat} {mtu : UInt64}
    {entry : AttributeEntry} {r : Bool × AttributeSet} (hsize : size ≤ mtu.toNat)
    (h : s.addAttributeEntry size mtu entry = some r) :
    r.2.attributesSize ≤ s.attributesSize + (mtu.toNat - size) := by
  have hlen : s.toList.length < 0xFF := by
    have := s.length_le
    omega
  unfold addAttributeEntry at h
  rw [if_pos hlen, toNat_sub_ofNat hsize] at h
  simp only at h
  generalize hcut : (if entry.size > mtu.toNat - size then entry.resize (mtu.toNat - size)
    else entry) = cut at h
  by_cases hempty : cut.2.isEmpty
  · rw [if_pos hempty] at h
    cases h
    exact Nat.le_add_right _ _
  · -- the entry inserted, cut to the space left
    rw [if_neg hempty] at h
    cases h
    have hfit := AttributeEntry.size_cut_le entry (n := mtu.toNat - size)
      (by rw [hcut]; simpa only [List.isEmpty_iff] using hempty)
    rw [hcut] at hfit
    have hinsert := attributesSize_insert_le cut s
    dsimp only
    omega

end AttributeSet

/-- `PushAttributeValue` writes an entry whole while its value is shorter than 65536 bytes. -/
theorem pushAttributeValue_eq {e : AttributeEntry} (h : e.2.length < 65536) :
    pushAttributeValue e = attributeBytes e := by
  rw [pushAttributeValue, Nat.mod_eq_of_lt h, List.take_length, attributeBytes]

/-! ## `GetElementAttributesResponseBuilder` -/

/-- `GetElementAttributesResponseBuilder`. -/
structure GetElementAttributesResponseBuilder where
  mtu : UInt64
  entries : AttributeSet

namespace GetElementAttributesResponseBuilder

/-- `MakeBuilder(mtu)`. -/
def makeBuilder (mtu : UInt64) : GetElementAttributesResponseBuilder := ⟨mtu, .empty⟩

/-- `size()`: the vendor header, the number of attributes and the entries. -/
def size (b : GetElementAttributesResponseBuilder) : Nat :=
  vendorMinSize + 1 + b.entries.attributesSize

/-- `AddAttributeEntry`. -/
def addAttributeEntry (b : GetElementAttributesResponseBuilder) (entry : AttributeEntry) :
    Option (Bool × GetElementAttributesResponseBuilder) :=
  (b.entries.addAttributeEntry b.size b.mtu entry).map fun r => (r.1, { b with entries := r.2 })

/-- `Serialize`: the AVRCP and vendor headers, the `uint8_t` number of attributes, and each
entry by `PushAttributeValue`. -/
def serialize (b : GetElementAttributesResponseBuilder) : List UInt8 :=
  packetHeader cTypeStable ++
    vendorHeader commandPduGetElementAttributes packetTypeSingle (b.size - vendorMinSize) ++
    [UInt8.ofNat b.entries.toList.length] ++ b.entries.toList.flatMap pushAttributeValue

/-- The `AddAttributeEntry` calls in order. -/
def run (b : GetElementAttributesResponseBuilder) (entries : List AttributeEntry) :
    Option GetElementAttributesResponseBuilder :=
  Calls.run addAttributeEntry b entries

variable {b : GetElementAttributesResponseBuilder}

theorem addAttributeEntry_eq_some {entry : AttributeEntry}
    {r : Bool × GetElementAttributesResponseBuilder} (h : b.addAttributeEntry entry = some r) :
    ∃ r', b.entries.addAttributeEntry b.size b.mtu entry = some r' ∧
      r = (r'.1, { b with entries := r'.2 }) := by
  obtain ⟨r', hr', rfl⟩ := Option.map_eq_some_iff.1 h
  exact ⟨r', hr', rfl⟩

/-- A call keeps the MTU, and keeps the builder within it. -/
theorem size_le_addAttributeEntry {entry : AttributeEntry}
    {r : Bool × GetElementAttributesResponseBuilder} (hb : b.size ≤ b.mtu.toNat)
    (h : b.addAttributeEntry entry = some r) : r.2.mtu = b.mtu ∧ r.2.size ≤ r.2.mtu.toNat := by
  obtain ⟨r', hr', rfl⟩ := addAttributeEntry_eq_some h
  have hgrow := AttributeSet.attributesSize_addAttributeEntry_le hb hr'
  refine ⟨rfl, ?_⟩
  simp only [size] at hb hgrow ⊢
  omega

/-- Over every run of calls on a new builder whose MTU is at least its size, the builder stays
within its MTU. -/
theorem run_size_le (calls : List AttributeEntry) {mtu : UInt64}
    (hmtu : (makeBuilder mtu).size ≤ mtu.toNat) (h : (makeBuilder mtu).run calls = some b) :
    b.mtu = mtu ∧ b.size ≤ mtu.toNat := by
  have hinv := Calls.run_inv (fun b : GetElementAttributesResponseBuilder =>
      b.mtu = mtu ∧ b.size ≤ b.mtu.toNat)
    (fun {b _ _} hb hcall => by
      obtain ⟨hmtu', hsize⟩ := size_le_addAttributeEntry hb.2 hcall
      exact ⟨hmtu'.trans hb.1, hsize⟩) calls ⟨rfl, hmtu⟩ h
  exact ⟨hinv.1, hinv.1 ▸ hinv.2⟩

/-- No run of calls fails the `CHECK` on the number of entries. -/
theorem run_isSome (b : GetElementAttributesResponseBuilder) (calls : List AttributeEntry) :
    (b.run calls).isSome :=
  Calls.run_isSome (fun _ => True) (fun _ _ => trivial)
    (fun entry _ => by
      rw [addAttributeEntry, Option.isSome_map]
      exact AttributeSet.addAttributeEntry_isSome _ _ _ entry) calls trivial

/-- `Serialize` writes `size()` bytes while every value is shorter than 65536 bytes. -/
theorem length_serialize (h : ∀ e ∈ b.entries.toList, e.2.length < 65536) :
    b.serialize.length = b.size := by
  have hentries :
      (b.entries.toList.flatMap pushAttributeValue).length = b.entries.attributesSize := by
    rw [List.flatMap_congr fun e he => pushAttributeValue_eq (h e he),
      AttributeSet.length_flatMap_attributeBytes]
  rw [serialize, List.length_append, List.length_append, length_packetHeader_vendorHeader,
    List.length_singleton, hentries, size]

/-- With a value of 65536 bytes or more, `Serialize` writes fewer bytes than `size()` counts:
`PushAttributeValue` writes the value only up to its `uint16_t` length. -/
theorem length_serialize_lt {e : AttributeEntry} (he : e ∈ b.entries.toList)
    (hlong : 65536 ≤ e.2.length) : b.serialize.length < b.size := by
  have hpush (x : AttributeEntry) :
      (pushAttributeValue x).length = AttributeEntry.kHeaderSize + x.2.length % 65536 := by
    simp only [pushAttributeValue, List.length_append, length_beBytes, List.length_take,
      Nat.min_eq_left (Nat.mod_le _ _), AttributeEntry.kHeaderSize]
  have hentries : (b.entries.toList.map fun x => (pushAttributeValue x).length).sum <
      b.entries.attributesSize := by
    refine List.sum_lt_sum _ _ (fun x _ => ?_) ⟨e, he, ?_⟩
    · rw [hpush, AttributeEntry.size]
      have := Nat.mod_le x.2.length 65536
      omega
    · rw [hpush, AttributeEntry.size]
      have := Nat.mod_lt e.2.length (by decide : 0 < 65536)
      omega
  rw [serialize, List.length_append, List.length_append, length_packetHeader_vendorHeader,
    List.length_singleton, List.length_flatMap, size]
  omega

/-- The number of attributes is that of the entries, and the entries follow it. -/
theorem serialize_entries (b : GetElementAttributesResponseBuilder) :
    (b.serialize.getD vendorMinSize 0).toNat = b.entries.toList.length ∧
      b.serialize.drop (vendorMinSize + 1) = b.entries.toList.flatMap pushAttributeValue := by
  have hlen := b.entries.length_le
  generalize hpre : packetHeader cTypeStable ++
    vendorHeader commandPduGetElementAttributes packetTypeSingle (b.size - vendorMinSize) = pre
  have hpreLength : pre.length = vendorMinSize := by
    rw [← hpre, length_packetHeader_vendorHeader]
  have hserialize : b.serialize = pre ++ [UInt8.ofNat b.entries.toList.length] ++
      b.entries.toList.flatMap pushAttributeValue := by
    rw [← hpre]
    rfl
  constructor
  · have hcount := @getD_append_middle pre [UInt8.ofNat b.entries.toList.length]
      (b.entries.toList.flatMap pushAttributeValue) 0 (by simp)
    rw [Nat.add_zero, hpreLength] at hcount
    rw [hserialize, hcount, List.getD_cons_zero, UInt8.toNat_ofNat']
    omega
  · rw [hserialize]
    exact List.drop_left' (by simp only [List.length_append, hpreLength, List.length_singleton])

/-- The parameter length is the number of bytes after the vendor header while it fits its
16 bits and every value is shorter than 65536 bytes. -/
theorem serialize_parameterLength (hv : ∀ e ∈ b.entries.toList, e.2.length < 65536)
    (h : b.size - vendorMinSize < 65536) :
    beValue (load (vendorMinSize - 2) 2 b.serialize) = (b.serialize.drop vendorMinSize).length := by
  have hserialize : b.serialize = (packetHeader cTypeStable ++ pushCompanyId bluetoothCompanyId ++
      [commandPduGetElementAttributes, packetTypeSingle]) ++ beBytes 2 (b.size - vendorMinSize) ++
      ([UInt8.ofNat b.entries.toList.length] ++ b.entries.toList.flatMap pushAttributeValue) := by
    simp only [serialize, vendorHeader, List.append_assoc]
  have hpreLength : (packetHeader cTypeStable ++ pushCompanyId bluetoothCompanyId ++
      [commandPduGetElementAttributes, packetTypeSingle]).length = vendorMinSize - 2 := by
    simp only [packetHeader, pushCompanyId, List.length_append, List.length_cons, List.length_nil,
      length_beBytes, vendorMinSize, packetMinSize]
  rw [List.length_drop, length_serialize hv]
  rw [hserialize, ← hpreLength]
  exact beValue_load_beBytes h

/-- With a 16-bit MTU, as `Device` passes its control channel MTU, every value a run admits is
shorter than 65536 bytes: `Serialize` then writes `size()` bytes, and its parameter length is
the number of bytes after the vendor header. -/
theorem run_serialize_of_mtu_lt (calls : List AttributeEntry) {mtu : UInt64}
    (hmtu : (makeBuilder mtu).size ≤ mtu.toNat) (h16 : mtu.toNat < 65536)
    (h : (makeBuilder mtu).run calls = some b) :
    b.serialize.length = b.size ∧
      beValue (load (vendorMinSize - 2) 2 b.serialize) =
        (b.serialize.drop vendorMinSize).length := by
  obtain ⟨-, hsize⟩ := run_size_le calls hmtu h
  have hv : ∀ e ∈ b.entries.toList, e.2.length < 65536 := by
    intro e he
    have hle := AttributeSet.size_le_attributesSize he
    simp only [size, AttributeEntry.size] at hsize hle
    omega
  refine ⟨length_serialize hv, serialize_parameterLength hv ?_⟩
  simp only [size] at hsize ⊢
  omega

end GetElementAttributesResponseBuilder

/-! ## `GetItemAttributesResponseBuilder` -/

/-- `GetItemAttributesResponseBuilder`. -/
structure GetItemAttributesResponseBuilder where
  status : Status
  mtu : UInt64
  entries : AttributeSet

namespace GetItemAttributesResponseBuilder

/-- `MakeBuilder(status, mtu)`. -/
def makeBuilder (status : Status) (mtu : UInt64) : GetItemAttributesResponseBuilder :=
  ⟨status, mtu, .empty⟩

/-- `size()`: the header and the status, and with `NO_ERROR` the number of attributes and the
entries. -/
def size (b : GetItemAttributesResponseBuilder) : Nat :=
  if b.status ≠ .noError then browseMinSize + 1
  else browseMinSize + 1 + 1 + b.entries.attributesSize

/-- `AddAttributeEntry`. -/
def addAttributeEntry (b : GetItemAttributesResponseBuilder) (entry : AttributeEntry) :
    Option (Bool × GetItemAttributesResponseBuilder) :=
  (b.entries.addAttributeEntry b.size b.mtu entry).map fun r => (r.1, { b with entries := r.2 })

/-- `Serialize`: the header and the status, and with `NO_ERROR` the `uint8_t` number of
attributes and each entry: attribute, character set, `uint16_t` value length and value. -/
def serialize (b : GetItemAttributesResponseBuilder) : List UInt8 :=
  browseHeader browsePduGetItemAttributes (b.size - browseMinSize) ++ [b.status.toUInt8] ++
    if b.status ≠ .noError then []
    else [UInt8.ofNat b.entries.toList.length] ++ b.entries.toList.flatMap attributeBytes

/-- The `AddAttributeEntry` calls in order. -/
def run (b : GetItemAttributesResponseBuilder) (entries : List AttributeEntry) :
    Option GetItemAttributesResponseBuilder :=
  Calls.run addAttributeEntry b entries

variable {b : GetItemAttributesResponseBuilder}

theorem addAttributeEntry_eq_some {entry : AttributeEntry}
    {r : Bool × GetItemAttributesResponseBuilder} (h : b.addAttributeEntry entry = some r) :
    ∃ r', b.entries.addAttributeEntry b.size b.mtu entry = some r' ∧
      r = (r'.1, { b with entries := r'.2 }) := by
  obtain ⟨r', hr', rfl⟩ := Option.map_eq_some_iff.1 h
  exact ⟨r', hr', rfl⟩

/-- A call keeps the status and the MTU, and keeps the builder within the MTU: with `NO_ERROR`
the entries grow by at most the space left, and otherwise they do not count. -/
theorem size_le_addAttributeEntry {entry : AttributeEntry}
    {r : Bool × GetItemAttributesResponseBuilder} (hb : b.size ≤ b.mtu.toNat)
    (h : b.addAttributeEntry entry = some r) :
    r.2.status = b.status ∧ r.2.mtu = b.mtu ∧ r.2.size ≤ r.2.mtu.toNat := by
  obtain ⟨r', hr', rfl⟩ := addAttributeEntry_eq_some h
  refine ⟨rfl, rfl, ?_⟩
  by_cases hs : b.status = .noError
  · have hgrow := AttributeSet.attributesSize_addAttributeEntry_le hb hr'
    simp only [size, hs, ne_eq, not_true_eq_false, if_false] at hb hgrow ⊢
    omega
  · simpa only [size, hs, ne_eq, not_false_eq_true, if_true] using hb

/-- Over every run of calls on a new builder whose MTU is at least its size, the builder stays
within its MTU. -/
theorem run_size_le (calls : List AttributeEntry) {status : Status} {mtu : UInt64}
    (hmtu : (makeBuilder status mtu).size ≤ mtu.toNat)
    (h : (makeBuilder status mtu).run calls = some b) : b.mtu = mtu ∧ b.size ≤ mtu.toNat := by
  have hinv := Calls.run_inv (fun b : GetItemAttributesResponseBuilder =>
      b.mtu = mtu ∧ b.size ≤ b.mtu.toNat)
    (fun {b _ _} hb hcall => by
      obtain ⟨-, hmtu', hsize⟩ := size_le_addAttributeEntry hb.2 hcall
      exact ⟨hmtu'.trans hb.1, hsize⟩) calls ⟨rfl, hmtu⟩ h
  exact ⟨hinv.1, hinv.1 ▸ hinv.2⟩

/-- No run of calls fails the `CHECK` on the number of entries. -/
theorem run_isSome (b : GetItemAttributesResponseBuilder) (calls : List AttributeEntry) :
    (b.run calls).isSome :=
  Calls.run_isSome (fun _ => True) (fun _ _ => trivial)
    (fun entry _ => by
      rw [addAttributeEntry, Option.isSome_map]
      exact AttributeSet.addAttributeEntry_isSome _ _ _ entry) calls trivial

/-- `Serialize` writes `size()` bytes. -/
theorem length_serialize (b : GetItemAttributesResponseBuilder) :
    b.serialize.length = b.size := by
  by_cases hs : b.status = .noError
  · simp only [serialize, size, hs, ne_eq, not_true_eq_false, if_false, List.length_append,
      length_browseHeader, List.length_singleton, AttributeSet.length_flatMap_attributeBytes]
    omega
  · simp only [serialize, size, hs, ne_eq, not_false_eq_true, if_true, List.length_append,
      length_browseHeader, List.length_singleton, List.length_nil, Nat.add_zero]

/-- The parameter length is the number of bytes after the header while it fits its 16 bits. -/
theorem serialize_parameterLength (b : GetItemAttributesResponseBuilder)
    (h : b.size - browseMinSize < 65536) :
    beValue (load 1 2 b.serialize) = (b.serialize.drop browseMinSize).length := by
  rw [List.length_drop, length_serialize]
  have hserialize : b.serialize =
      [browsePduGetItemAttributes] ++ beBytes 2 (b.size - browseMinSize) ++
      ([b.status.toUInt8] ++ if b.status ≠ .noError then []
        else [UInt8.ofNat b.entries.toList.length] ++ b.entries.toList.flatMap attributeBytes) := by
    simp only [serialize, browseHeader, List.append_assoc]
  rw [hserialize]
  exact @beValue_load_beBytes [browsePduGetItemAttributes] _ 2 _ h

/-- With `NO_ERROR`, the number of attributes is that of the entries, and the entries follow
it. -/
theorem serialize_entries (hs : b.status = .noError) :
    (b.serialize.getD (browseMinSize + 1) 0).toNat = b.entries.toList.length ∧
      b.serialize.drop (browseMinSize + 2) = b.entries.toList.flatMap attributeBytes := by
  have hlen := b.entries.length_le
  generalize hpre : browseHeader browsePduGetItemAttributes (b.size - browseMinSize) ++
    [b.status.toUInt8] = pre
  have hpreLength : pre.length = browseMinSize + 1 := by
    rw [← hpre, List.length_append, length_browseHeader, List.length_singleton]
  have hserialize : b.serialize = pre ++ [UInt8.ofNat b.entries.toList.length] ++
      b.entries.toList.flatMap attributeBytes := by
    rw [← hpre]
    simp only [serialize, hs, ne_eq, not_true_eq_false, if_false, List.append_assoc]
  constructor
  · have hcount := @getD_append_middle pre [UInt8.ofNat b.entries.toList.length]
      (b.entries.toList.flatMap attributeBytes) 0 (by simp)
    rw [Nat.add_zero, hpreLength] at hcount
    rw [hserialize, hcount, List.getD_cons_zero, UInt8.toNat_ofNat']
    omega
  · rw [hserialize]
    exact List.drop_left' (by simp only [List.length_append, hpreLength, List.length_singleton])

end GetItemAttributesResponseBuilder

end BluetoothStack.Avrcp
