import Mathlib
import BluetoothStack.Lib.Bytes
import BluetoothStack.Lib.KeyList

/-!
# The items of AVRCP responses

`AttributeEntry`, `MediaPlayerItem`, `FolderItem`, `MediaElementItem` and `MediaListItem`
(include/hardware/avrcp/avrcp_common.h), and the functions that write them into a response:
`PushMediaPlayerItem`, `PushFolderItem` and `PushMediaElementItem` of
`GetFolderItemsResponseBuilder` (packet/avrcp/get_folder_items.cc) and `PushAttributeValue` of
`VendorPacketBuilder` (packet/avrcp/vendor_packet.cc). Every item reports its `size()`, and the
writer puts a length or a count in front of every part of variable size.

The constructors cut a name to `MAX_FIELD_LEN` bytes and an attribute entry to `MAX_FIELD_LEN`
bytes in all; the items of the model carry these bounds as fields, and `MediaPlayerItem.make`
and the others are the constructors. A `std::set<AttributeEntry>` orders its entries by
attribute and keeps one per attribute: it is a `KeyList` keyed by the attribute.

Main results: each writer emits `size()` bytes (`length_pushMediaListItem`), and each length or
count it emits is the number of bytes or entries after it (`pushMediaPlayerItem_lengths`,
`pushFolderItem_lengths`, `pushMediaElementItem_lengths`, `attributeBytes_lengths`).
-/

namespace BluetoothStack.Avrcp

open Bytes

/-- `MAX_FIELD_LEN`: the longest name, and the longest attribute entry, an item keeps. -/
def maxFieldLen : Nat := 100

/-! ## Attribute entries -/

/-- `Attribute`: the media attributes, written as their 32-bit codes. -/
inductive Attribute where
  | title
  | artistName
  | albumName
  | trackNumber
  | totalNumberOfTracks
  | genre
  | playingTime
  | defaultCoverArt
  deriving DecidableEq, Repr

/-- The code of an attribute. -/
def Attribute.toUInt32 : Attribute → UInt32
  | .title => 0x01
  | .artistName => 0x02
  | .albumName => 0x03
  | .trackNumber => 0x04
  | .totalNumberOfTracks => 0x05
  | .genre => 0x06
  | .playingTime => 0x07
  | .defaultCoverArt => 0x08

theorem Attribute.toUInt32_injective : Function.Injective Attribute.toUInt32 := by
  intro a b h
  cases a <;> cases b <;> first | rfl | exact absurd h (by decide)

/-- `AttributeEntry::operator<` compares the codes. -/
instance : LinearOrder Attribute :=
  LinearOrder.lift' (fun a => a.toUInt32.toNat)
    fun _ _ h => Attribute.toUInt32_injective (UInt32.toNat_inj.1 h)

/-- An `AttributeEntry`: an attribute with its value. -/
abbrev AttributeEntry := Attribute × List UInt8

/-- `AttributeEntry::kHeaderSize`: the attribute, the length and the character set. -/
def AttributeEntry.kHeaderSize : Nat := 4 + 2 + 2

/-- `AttributeEntry::size`. -/
def AttributeEntry.size (e : AttributeEntry) : Nat := AttributeEntry.kHeaderSize + e.2.length

/-- `AttributeEntry::resize`: cut the value so that the entry takes at most `newSize` bytes, or
drop the whole value when even the header does not fit. -/
def AttributeEntry.resize (newSize : Nat) (e : AttributeEntry) : AttributeEntry :=
  let newSize :=
    if newSize < AttributeEntry.kHeaderSize then 0 else newSize - AttributeEntry.kHeaderSize
  if e.2.length > newSize then (e.1, e.2.take newSize) else e

/-- The UTF-8 character set, `0x006a`, written before every name and value. -/
def utf8CharacterSet : Nat := 0x006a

/-- The bytes of one attribute as `PushMediaElementItem` and
`GetItemAttributesResponseBuilder::Serialize` write it: attribute, character set, value length,
value. -/
def attributeBytes (e : AttributeEntry) : List UInt8 :=
  beBytes 4 e.1.toUInt32.toNat ++ beBytes 2 utf8CharacterSet ++ beBytes 2 e.2.length ++ e.2

/-- `VendorPacketBuilder::PushAttributeValue`: as `attributeBytes`, but the value is written by a
loop up to the `uint16_t` value length, so only its first `length % 65536` bytes. -/
def pushAttributeValue (e : AttributeEntry) : List UInt8 :=
  beBytes 4 e.1.toUInt32.toNat ++ beBytes 2 utf8CharacterSet ++ beBytes 2 e.2.length ++
    e.2.take (e.2.length % 65536)

/-! ## Items -/

/-- `MediaPlayerItem`. -/
structure MediaPlayerItem where
  id : UInt16
  name : List UInt8
  browsable : Bool
  name_le : name.length ≤ maxFieldLen

/-- The constructor `MediaPlayerItem(id, name, browsable)` cuts the name to `MAX_FIELD_LEN`. -/
def MediaPlayerItem.make (id : UInt16) (name : List UInt8) (browsable : Bool) : MediaPlayerItem :=
  ⟨id, name.take maxFieldLen, browsable, List.length_take_le _ _⟩

/-- `MediaPlayerItem::kHeaderSize`: item type, item length, player id, player type, subtype,
play status, 16 bytes of features, character set and name length. -/
def MediaPlayerItem.kHeaderSize : Nat := 1 + 2 + 2 + 1 + 4 + 1 + 16 + 2 + 2

/-- `MediaPlayerItem::size`. -/
def MediaPlayerItem.size (item : MediaPlayerItem) : Nat :=
  MediaPlayerItem.kHeaderSize + item.name.length

/-- `FolderItem`. -/
structure FolderItem where
  uid : UInt64
  folderType : UInt8
  isPlayable : Bool
  name : List UInt8
  name_le : name.length ≤ maxFieldLen

/-- The constructor `FolderItem(uid, folder_type, is_playable, name)`. -/
def FolderItem.make (uid : UInt64) (folderType : UInt8) (isPlayable : Bool) (name : List UInt8) :
    FolderItem :=
  ⟨uid, folderType, isPlayable, name.take maxFieldLen, List.length_take_le _ _⟩

/-- `FolderItem::kHeaderSize`: item type, item length, uid, folder type, playable flag,
character set and name length. -/
def FolderItem.kHeaderSize : Nat := 1 + 2 + 8 + 1 + 1 + 2 + 2

/-- `FolderItem::size`. -/
def FolderItem.size (item : FolderItem) : Nat := FolderItem.kHeaderSize + item.name.length

/-- `MediaElementItem`: its attributes are a set, one entry per attribute in increasing order,
each of at most `MAX_FIELD_LEN` bytes. -/
structure MediaElementItem where
  uid : UInt64
  name : List UInt8
  attributes : List AttributeEntry
  name_le : name.length ≤ maxFieldLen
  sorted : attributes.Pairwise fun a b => a.1 < b.1
  attribute_size_le : ∀ e ∈ attributes, e.size ≤ maxFieldLen

/-- The attribute set the constructor of `MediaElementItem` builds: each entry cut to
`MAX_FIELD_LEN` bytes, then inserted. -/
def MediaElementItem.insertAttributes (acc : List AttributeEntry)
    (attributes : List AttributeEntry) :
    List AttributeEntry :=
  attributes.foldl (fun acc val =>
    let val := val.resize maxFieldLen
    KeyList.emplace val.1 val.2 acc) acc

/-- Once the header fits, a resized entry fits. -/
theorem AttributeEntry.size_resize_le {n : Nat} (hn : AttributeEntry.kHeaderSize ≤ n)
    (e : AttributeEntry) : (e.resize n).size ≤ n := by
  unfold AttributeEntry.resize AttributeEntry.size
  have hlt : ¬ n < AttributeEntry.kHeaderSize := by omega
  simp only [hlt, if_false]
  split
  · simp only [List.length_take]
    omega
  · omega

/-- The set the constructor builds keeps one entry per attribute, in increasing order. By
induction on the entries inserted; each insertion is `KeyList.emplace`. -/
theorem MediaElementItem.insertAttributes_sorted (attributes : List AttributeEntry) :
    ∀ {acc : List AttributeEntry}, (acc.Pairwise fun a b => a.1 < b.1) →
      (MediaElementItem.insertAttributes acc attributes).Pairwise fun a b => a.1 < b.1 := by
  induction attributes with
  | nil => exact id
  | cons val attributes ih =>
    intro acc hacc
    exact ih (KeyList.pairwise_emplace hacc)

/-- Every entry of the set the constructor builds takes at most `MAX_FIELD_LEN` bytes. -/
theorem MediaElementItem.insertAttributes_size_le (attributes : List AttributeEntry) :
    ∀ {acc : List AttributeEntry}, (∀ e ∈ acc, e.size ≤ maxFieldLen) →
      ∀ e ∈ MediaElementItem.insertAttributes acc attributes, e.size ≤ maxFieldLen := by
  induction attributes with
  | nil => exact id
  | cons val attributes ih =>
    intro acc hacc
    apply ih
    intro e he
    rcases KeyList.mem_emplace he with rfl | he
    · exact AttributeEntry.size_resize_le (by decide) val
    · exact hacc e he

/-- The constructor `MediaElementItem(uid, name, attributes)`: the name cut to `MAX_FIELD_LEN`,
each attribute entry cut to `MAX_FIELD_LEN` bytes. -/
def MediaElementItem.make (uid : UInt64) (name : List UInt8) (attributes : List AttributeEntry) :
    MediaElementItem :=
  ⟨uid, name.take maxFieldLen, MediaElementItem.insertAttributes [] attributes,
    List.length_take_le _ _, MediaElementItem.insertAttributes_sorted attributes List.Pairwise.nil,
    MediaElementItem.insertAttributes_size_le attributes fun _ he => nomatch he⟩

/-- `MediaElementItem::size`. -/
def MediaElementItem.size (item : MediaElementItem) : Nat :=
  1 + 2 + 8 + 1 + 2 + 2 + item.name.length + 1 + (item.attributes.map AttributeEntry.size).sum

/-- `MediaListItem`: one of the three items, tagged `PLAYER`, `FOLDER` or `SONG`. -/
inductive MediaListItem where
  | player (item : MediaPlayerItem)
  | folder (item : FolderItem)
  | song (item : MediaElementItem)

/-- `MediaListItem::size`. -/
def MediaListItem.size : MediaListItem → Nat
  | .player item => item.size
  | .folder item => item.size
  | .song item => item.size

/-! ## Writing the items

`AddPayloadOctets2(pkt, base::ByteSwap(v))` writes `v` most significant byte first, as
`beBytes 2`, which keeps the low 16 bits of the value: the `uint16_t` of the source. -/

/-- `PushMediaPlayerItem`. -/
def pushMediaPlayerItem (item : MediaPlayerItem) : List UInt8 :=
  [0x01] ++ beBytes 2 (item.size - 3) ++ beBytes 2 item.id.toNat ++ [0x01] ++ beBytes 4 0 ++
    [0x02] ++ [0x00, 0x00, 0x00, 0x00, 0x00, 0xb7, 0x01] ++
    (if item.browsable then [0x0C, 0x0a] else [0x04, 0x00]) ++
    [0x00, 0x00, 0x00, 0x00, 0x00, 0x00, 0x00] ++ beBytes 2 utf8CharacterSet ++
    beBytes 2 item.name.length ++ item.name

/-- `PushFolderItem`. -/
def pushFolderItem (item : FolderItem) : List UInt8 :=
  [0x02] ++ beBytes 2 (item.size - 3) ++ beBytes 8 item.uid.toNat ++ [item.folderType] ++
    [if item.isPlayable then 0x01 else 0x00] ++ beBytes 2 utf8CharacterSet ++
    beBytes 2 item.name.length ++ item.name

/-- `PushMediaElementItem`: the header, the name, the `uint8_t` number of attributes and the
attributes. -/
def pushMediaElementItem (item : MediaElementItem) : List UInt8 :=
  [0x03] ++ beBytes 2 (item.size - 3) ++ beBytes 8 item.uid.toNat ++ [0x00] ++
    beBytes 2 utf8CharacterSet ++ beBytes 2 item.name.length ++ item.name ++
    [UInt8.ofNat item.attributes.length] ++ item.attributes.flatMap attributeBytes

/-- `PushMediaListItem`. -/
def pushMediaListItem : MediaListItem → List UInt8
  | .player item => pushMediaPlayerItem item
  | .folder item => pushFolderItem item
  | .song item => pushMediaElementItem item

/-! ## Sizes and bounds -/

/-- The order of attributes is the order of their codes. -/
theorem Attribute.lt_iff (a b : Attribute) : a < b ↔ a.toUInt32.toNat < b.toUInt32.toNat :=
  Iff.rfl

theorem Attribute.toUInt32_mem (a : Attribute) :
    1 ≤ a.toUInt32.toNat ∧ a.toUInt32.toNat ≤ 8 := by
  cases a <;> decide

/-- Entries in strictly increasing order of attribute, all with a code of at least `c`, are at
most `9 - c`. By induction on the entries: each takes a code above the one before. -/
theorem length_le_of_sorted {l : List AttributeEntry} (hl : l.Pairwise fun a b => a.1 < b.1) :
    ∀ {c : Nat}, (∀ e ∈ l, c ≤ e.1.toUInt32.toNat) → l.length ≤ 9 - c := by
  induction l with
  | nil => intro c _; simp
  | cons e rest ih =>
    intro c hc
    rw [List.pairwise_cons] at hl
    have he := hc e List.mem_cons_self
    have hcode := Attribute.toUInt32_mem e.1
    have hrest := ih hl.2 (c := e.1.toUInt32.toNat + 1) fun x hx =>
      (Attribute.lt_iff _ _).1 (hl.1 x hx)
    simp only [List.length_cons]
    omega

/-- A media element has at most one entry for each of the eight attributes. -/
theorem MediaElementItem.length_attributes_le (item : MediaElementItem) :
    item.attributes.length ≤ 8 :=
  length_le_of_sorted item.sorted fun e _ => (Attribute.toUInt32_mem e.1).1

@[simp] theorem length_attributeBytes (e : AttributeEntry) :
    (attributeBytes e).length = e.size := by
  simp only [attributeBytes, List.length_append, length_beBytes, AttributeEntry.size,
    AttributeEntry.kHeaderSize]

@[simp] theorem length_pushMediaPlayerItem (item : MediaPlayerItem) :
    (pushMediaPlayerItem item).length = item.size := by
  have hfeatures :
      (if item.browsable then [(0x0C : UInt8), 0x0a] else [0x04, 0x00]).length = 2 := by
    split <;> rfl
  simp only [pushMediaPlayerItem, List.length_append, length_beBytes, hfeatures, List.length_cons,
    List.length_nil, MediaPlayerItem.size, MediaPlayerItem.kHeaderSize]

@[simp] theorem length_pushFolderItem (item : FolderItem) :
    (pushFolderItem item).length = item.size := by
  simp only [pushFolderItem, List.length_append, length_beBytes, List.length_cons, List.length_nil,
    FolderItem.size, FolderItem.kHeaderSize]

@[simp] theorem length_pushMediaElementItem (item : MediaElementItem) :
    (pushMediaElementItem item).length = item.size := by
  simp only [pushMediaElementItem, List.length_append, length_beBytes, List.length_cons,
    List.length_nil, List.length_flatMap, length_attributeBytes, MediaElementItem.size]

/-- Every item writer emits `size()` bytes. -/
@[simp] theorem length_pushMediaListItem (item : MediaListItem) :
    (pushMediaListItem item).length = item.size := by
  cases item <;> simp [pushMediaListItem, MediaListItem.size]

theorem MediaPlayerItem.size_le (item : MediaPlayerItem) : item.size ≤ 131 := by
  have := item.name_le
  simp only [MediaPlayerItem.size, MediaPlayerItem.kHeaderSize, maxFieldLen] at *
  omega

theorem FolderItem.size_le (item : FolderItem) : item.size ≤ 117 := by
  have := item.name_le
  simp only [FolderItem.size, FolderItem.kHeaderSize, maxFieldLen] at *
  omega

/-- A media element takes at most its header, its name and eight attribute entries of
`MAX_FIELD_LEN` bytes. -/
theorem MediaElementItem.size_le (item : MediaElementItem) : item.size ≤ 918 := by
  have hname := item.name_le
  have hcount := item.length_attributes_le
  have hsum := List.sum_le_card_nsmul (item.attributes.map AttributeEntry.size) maxFieldLen
    fun x hx => by
      obtain ⟨e, he, rfl⟩ := List.mem_map.1 hx
      exact item.attribute_size_le e he
  simp only [List.length_map, Nat.nsmul_eq_mul] at hsum
  simp only [MediaElementItem.size, maxFieldLen] at *
  omega

theorem MediaListItem.size_le (item : MediaListItem) : item.size ≤ 918 := by
  cases item with
  | player item => have := item.size_le; simp only [MediaListItem.size]; omega
  | folder item => have := item.size_le; simp only [MediaListItem.size]; omega
  | song item => exact item.size_le

/-! ## Every length and count is that of what follows -/

/-- The item length of a media player item is the number of bytes after it, and the name length,
the last field before the name, the number of bytes of the name. -/
theorem pushMediaPlayerItem_lengths (item : MediaPlayerItem) :
    beValue (load 1 2 (pushMediaPlayerItem item)) = ((pushMediaPlayerItem item).drop 3).length ∧
      beValue (load 29 2 (pushMediaPlayerItem item)) =
        ((pushMediaPlayerItem item).drop 31).length := by
  have hsize := item.size_le
  have hname := item.name_le
  obtain ⟨post, hpost⟩ : ∃ post, pushMediaPlayerItem item =
      [0x01] ++ beBytes 2 (item.size - 3) ++ post :=
    ⟨_, by simp only [pushMediaPlayerItem, List.append_assoc]; rfl⟩
  obtain ⟨pre, hpre⟩ : ∃ pre, pushMediaPlayerItem item =
      pre ++ beBytes 2 item.name.length ++ item.name := ⟨_, rfl⟩
  have hpreLength : pre.length = 29 := by
    have hlength := congrArg List.length hpre
    simp only [length_pushMediaPlayerItem, List.length_append, length_beBytes,
      MediaPlayerItem.size, MediaPlayerItem.kHeaderSize] at hlength
    omega
  constructor
  · rw [List.length_drop, length_pushMediaPlayerItem, hpost]
    exact @beValue_load_beBytes [0x01] _ _ _ (by omega)
  · rw [List.length_drop, length_pushMediaPlayerItem, hpre, ← hpreLength,
      beValue_load_beBytes (by simp only [maxFieldLen] at hname; omega)]
    simp only [MediaPlayerItem.size, MediaPlayerItem.kHeaderSize]
    omega

/-- The item length of a folder item is the number of bytes after it, and the name length, the
last field before the name, the number of bytes of the name. -/
theorem pushFolderItem_lengths (item : FolderItem) :
    beValue (load 1 2 (pushFolderItem item)) = ((pushFolderItem item).drop 3).length ∧
      beValue (load 15 2 (pushFolderItem item)) = ((pushFolderItem item).drop 17).length := by
  have hsize := item.size_le
  have hname := item.name_le
  obtain ⟨post, hpost⟩ : ∃ post, pushFolderItem item =
      [0x02] ++ beBytes 2 (item.size - 3) ++ post :=
    ⟨_, by simp only [pushFolderItem, List.append_assoc]; rfl⟩
  obtain ⟨pre, hpre⟩ : ∃ pre, pushFolderItem item =
      pre ++ beBytes 2 item.name.length ++ item.name := ⟨_, rfl⟩
  have hpreLength : pre.length = 15 := by
    have hlength := congrArg List.length hpre
    simp only [length_pushFolderItem, List.length_append, length_beBytes, FolderItem.size,
      FolderItem.kHeaderSize] at hlength
    omega
  constructor
  · rw [List.length_drop, length_pushFolderItem, hpost]
    exact @beValue_load_beBytes [0x02] _ _ _ (by omega)
  · rw [List.length_drop, length_pushFolderItem, hpre, ← hpreLength,
      beValue_load_beBytes (by simp only [maxFieldLen] at hname; omega)]
    simp only [FolderItem.size, FolderItem.kHeaderSize]
    omega

/-- The value length of an attribute is the number of bytes after it. -/
theorem attributeBytes_lengths {e : AttributeEntry} (h : e.2.length < 65536) :
    beValue (load 6 2 (attributeBytes e)) = ((attributeBytes e).drop 8).length := by
  obtain ⟨pre, hpre⟩ : ∃ pre, attributeBytes e = pre ++ beBytes 2 e.2.length ++ e.2 :=
    ⟨_, rfl⟩
  have hpreLength : pre.length = 6 := by
    have hlength := congrArg List.length hpre
    simp only [length_attributeBytes, List.length_append, length_beBytes, AttributeEntry.size,
      AttributeEntry.kHeaderSize] at hlength
    omega
  rw [List.length_drop, length_attributeBytes, hpre, ← hpreLength, beValue_load_beBytes h]
  simp only [AttributeEntry.size, AttributeEntry.kHeaderSize]
  omega

/-- A media element item: the item length is the number of bytes after it, the name length that
of the name after it, the number of attributes that of the attribute entries after it, each with
its own value length (`attributeBytes_lengths`). -/
theorem pushMediaElementItem_lengths (item : MediaElementItem) :
    beValue (load 1 2 (pushMediaElementItem item)) = ((pushMediaElementItem item).drop 3).length ∧
      beValue (load 14 2 (pushMediaElementItem item)) = item.name.length ∧
      load 16 item.name.length (pushMediaElementItem item) = item.name ∧
      ((pushMediaElementItem item).getD (16 + item.name.length) 0).toNat =
        item.attributes.length ∧
      (pushMediaElementItem item).drop (17 + item.name.length) =
        item.attributes.flatMap attributeBytes := by
  have hsize := item.size_le
  have hname := item.name_le
  have hcount := item.length_attributes_le
  simp only [maxFieldLen] at hname
  obtain ⟨post, hpost⟩ : ∃ post, pushMediaElementItem item =
      [0x03] ++ beBytes 2 (item.size - 3) ++ post :=
    ⟨_, by simp only [pushMediaElementItem, List.append_assoc]; rfl⟩
  -- the fixed header before the name length takes 14 bytes
  have hpre : pushMediaElementItem item = ([0x03] ++ beBytes 2 (item.size - 3) ++
      beBytes 8 item.uid.toNat ++ [0x00] ++ beBytes 2 utf8CharacterSet) ++
      beBytes 2 item.name.length ++ item.name ++ [UInt8.ofNat item.attributes.length] ++
      item.attributes.flatMap attributeBytes := rfl
  generalize hpreDef : [0x03] ++ beBytes 2 (item.size - 3) ++ beBytes 8 item.uid.toNat ++ [0x00] ++
    beBytes 2 utf8CharacterSet = pre at hpre
  have hpreLength : pre.length = 14 := by
    rw [← hpreDef]
    simp only [List.length_append, length_beBytes, List.length_cons, List.length_nil]
  have hnameEnd :
      (pre ++ beBytes 2 item.name.length ++ item.name).length = 16 + item.name.length := by
    simp only [List.length_append, hpreLength, length_beBytes]
  refine ⟨?_, ?_, ?_, ?_, ?_⟩
  · rw [List.length_drop, length_pushMediaElementItem, hpost]
    exact @beValue_load_beBytes [0x03] _ _ _ (by omega)
  · have hfield := @beValue_load_beBytes pre
      (item.name ++ [UInt8.ofNat item.attributes.length] ++ item.attributes.flatMap attributeBytes)
      2 item.name.length (by omega)
    rw [hpre, ← hpreLength]
    simpa only [List.append_assoc] using hfield
  · have hname := @load_append_middle (pre ++ beBytes 2 item.name.length) item.name
      ([UInt8.ofNat item.attributes.length] ++ item.attributes.flatMap attributeBytes) 0
      item.name.length (by omega)
    simp only [Nat.add_zero, List.length_append, hpreLength, length_beBytes, load, List.drop_zero,
      List.take_length] at hname
    rw [hpre]
    simpa only [load, List.append_assoc] using hname
  · have hcountByte := @getD_append_middle (pre ++ beBytes 2 item.name.length ++ item.name)
      [UInt8.ofNat item.attributes.length] (item.attributes.flatMap attributeBytes) 0 (by simp)
    rw [hnameEnd, Nat.add_zero] at hcountByte
    rw [hpre, hcountByte, List.getD_cons_zero, UInt8.toNat_ofNat']
    omega
  · have hcountEnd : (pre ++ beBytes 2 item.name.length ++ item.name ++
        [UInt8.ofNat item.attributes.length]).length = 17 + item.name.length := by
      simp only [List.length_append, hnameEnd, List.length_cons, List.length_nil]
      omega
    rw [hpre, List.drop_left' hcountEnd]

end BluetoothStack.Avrcp
