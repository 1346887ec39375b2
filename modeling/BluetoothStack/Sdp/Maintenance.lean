import Mathlib
import BluetoothStack.Sdp.Db

/-!
# Maintaining the SDP database

The database maintenance API of sdp_db.cc: `SDP_CreateRecord`, `SDP_DeleteRecord`,
`SDP_AddAttribute` and `SDP_DeleteAttribute`. A record keeps its attributes sorted by id in the
first `num_attributes` slots of a fixed array, and their values packed in `attr_pad` below
`free_pad_ptr`; replacing an attribute deletes it first, which closes the hole in `attr_pad` and
moves down every value above it.

`value_ptr` is an offset into the record's `attr_pad`, so `SDP_DeleteRecord`, which moves the
records after the deleted one down a slot and moves their `value_ptr`s with them, leaves the
offsets as they are. The slots past `num_attributes` are not kept: a slot `SDP_AddAttribute` fills
at the end of the array holds whatever was there, and the model gives it offset `0`; only an
attribute of length `0` keeps that offset, and nothing reads the value of one.

`SDP_AddAttribute` has a failure path that does not undo its work: when the value does not fit in
`attr_pad` (or is `NULL`) after the attributes above the new id were moved up a slot, it clears
the slot it was filling and returns `false` with `num_attributes` unchanged. The record then shows
a cleared attribute with id `0` in the middle and has lost its last attribute
(`sdpAddAttribute_failure_corrupts`). A replaced attribute is deleted before that check, so its
failed replacement loses it; `addAttributeRec_false_eq_iff` says exactly when a failure leaves the
record as it was. A text string is cut to the room left by writing `'\0'` into the caller's value
at `SDP_MAX_PAD_LEN - free_pad_ptr - 1`, an unsigned index that is `2^32 - 1` once the pad is full
(`addAttributeValWrite`).
-/

namespace BluetoothStack.Sdp

open Bytes

/-- `ATTR_ID_SERVICE_RECORD_HDL`. -/
def attrIdServiceRecordHdl : Nat := 0x0000

/-! ## `SDP_DeleteAttribute` -/

/-- The pointer fix-up of `SDP_DeleteAttribute`: a value above the removed one moves down by its
length. -/
def shiftValuePtr (padPtr len : Nat) (a : SdpAttribute) : SdpAttribute :=
  if a.valuePtr > padPtr then { a with valuePtr := a.valuePtr - len } else a

/-- `SDP_DeleteAttribute` on record `r`, whose attribute `i` has the id: the later values move
down over its value, the attributes after it move down a slot, and `free_pad_ptr` goes down by its
length. The copy count is a `uint16_t`. -/
def deleteAttrAt (r : SdpRecord) (i : Nat) : SdpRecord :=
  let a := r.attributes.getD i ⟨0, 0, 0, 0⟩
  let padPtr := a.valuePtr
  let len := a.len
  if len ≠ 0 then
    let lastAttributeToAdjust := ((r.freePadPtr : Int) - (padPtr + len)) % 65536
    { r with
      attributes := (r.attributes.map (shiftValuePtr padPtr len)).eraseIdx i
      attrPad := store padPtr (load (padPtr + len) lastAttributeToAdjust.toNat r.attrPad) r.attrPad
      freePadPtr := (r.freePadPtr + 2 ^ 32 - len) % 2 ^ 32 }
  else { r with attributes := r.attributes.eraseIdx i }

/-- `SDP_DeleteAttribute`: the first record with the handle holding an attribute with the id
loses it; `false` if there is none. -/
def sdpDeleteAttribute (db : SdpDb) (handle attrId : Nat) : Bool × SdpDb :=
  match db.record.findIdx? fun r => r.recordHandle = handle ∧ r.attributes.any (·.id == attrId) with
  | none => (false, db)
  | some k =>
    let r := db.record.getD k ⟨0, 0, [], []⟩
    match r.attributes.findIdx? (·.id == attrId) with
    | none => (false, db)
    | some i => (true, { db with record := db.record.set k (deleteAttrAt r i) })

/-! ## `SDP_AddAttribute` -/

/-- The slot the attribute search of `SDP_AddAttribute` stops at: the first attribute with the id
(which is deleted) or a larger one, else the end. -/
def addSlot (r : SdpRecord) (attrId : Nat) : Nat :=
  (r.attributes.findIdx? fun a => a.id == attrId || a.id > attrId).getD r.attributes.length

/-- The record `SDP_AddAttribute` goes on with: an attribute with the id, found where the search
stopped, is deleted first through `SDP_DeleteAttribute`. -/
def addAttributeBase (r : SdpRecord) (attrId : Nat) : SdpRecord :=
  let xx := addSlot r attrId
  if (r.attributes.getD xx ⟨0, 0, 0, 0⟩).id = attrId ∧ xx < r.attributes.length then
    deleteAttrAt r xx else r

/-- `SDP_AddAttribute` on a record: replace or insert the attribute in id order, its value copied
to `free_pad_ptr`. A value that does not fit below `SDP_MAX_PAD_LEN` is cut to what is left if it
is a text string (its last byte then `'\0'`) and refused otherwise. -/
def addAttributeRec (r : SdpRecord) (attrId attrType attrLen : Nat) (pVal : Option (List UInt8)) :
    Bool × SdpRecord :=
  let xx := addSlot r attrId
  -- an attribute with the id is deleted first; the slot is the same
  let r := addAttributeBase r attrId
  let n := r.attributes.length
  if n = sdpMaxRecAttr then (false, r)
  else
    -- the slots from `xx` on move up one; slot `xx` keeps a copy of what it held
    let slots := r.attributes.take xx ++ [r.attributes.getD xx ⟨0, 0, 0, 0⟩] ++ r.attributes.drop xx
    let pAttr := { slots.getD xx ⟨0, 0, 0, 0⟩ with id := attrId, type := attrType, len := attrLen }
    let (attrLen, pVal) :=
      if (r.freePadPtr + attrLen) % 2 ^ 32 ≥ sdpMaxPadLen then
        if attrType = textStrDescType then
          (sdpMaxPadLen - r.freePadPtr, pVal.map (·.set (sdpMaxPadLen - r.freePadPtr - 1) 0))
        else (0, pVal)
      else (attrLen, pVal)
    match pVal with
    | some v =>
      if attrLen > 0 then
        let pAttr := { pAttr with len := attrLen, valuePtr := r.freePadPtr }
        (true, { r with
          attributes := slots.set xx pAttr
          attrPad := store r.freePadPtr (v.take attrLen) r.attrPad
          freePadPtr := r.freePadPtr + attrLen })
      else if pAttr.len ≠ 0 then
        -- cleared, but the slots above it stay moved up
        (false, { r with attributes := (slots.set xx ⟨0, 0, 0, pAttr.valuePtr⟩).take n })
      else (true, { r with attributes := slots.set xx pAttr })
    | none => (false, { r with attributes := (slots.set xx ⟨0, 0, 0, pAttr.valuePtr⟩).take n })

/-- `SDP_AddAttribute`: on the first record with the handle; `false` if there is none. -/
def sdpAddAttribute (db : SdpDb) (handle attrId attrType attrLen : Nat)
    (pVal : Option (List UInt8)) : Bool × SdpDb :=
  match sdpDbFindRecord db handle with
  | none => (false, db)
  | some k =>
    let (ok, r) := addAttributeRec (db.record.getD k ⟨0, 0, [], []⟩) attrId attrType attrLen pVal
    (ok, { db with record := db.record.set k r })

/-- The byte of the caller's value that `SDP_AddAttribute` sets to `'\0'`, if any: a text string
cut to the room left in `attr_pad` ends at index `SDP_MAX_PAD_LEN - free_pad_ptr - 1`, computed
in `uint32_t`. -/
def addAttributeValWrite (r : SdpRecord) (attrId attrType attrLen : Nat) : Option Nat :=
  let r := addAttributeBase r attrId
  if r.attributes.length = sdpMaxRecAttr then none
  else if (r.freePadPtr + attrLen) % 2 ^ 32 ≥ sdpMaxPadLen ∧ attrType = textStrDescType then
    some (((sdpMaxPadLen : Int) - r.freePadPtr - 1) % 2 ^ 32).toNat
  else none

/-- The same write of `SDP_AddAttribute` on the first record with the handle. -/
def sdpAddAttributeValWrite (db : SdpDb) (handle attrId attrType attrLen : Nat) : Option Nat :=
  (sdpDbFindRecord db handle).bind fun k =>
    addAttributeValWrite (db.record.getD k ⟨0, 0, [], []⟩) attrId attrType attrLen

/-! ## Records -/

/-- `SDP_CreateRecord`: a cleared record after the others, with the handle after the last one's,
and its handle as attribute `ATTR_ID_SERVICE_RECORD_HDL`; `0` when the database is full. -/
def sdpCreateRecord (db : SdpDb) : Nat × SdpDb :=
  if db.record.length < sdpMaxRecords then
    let handle := match db.record.getLast? with
      | some r => (r.recordHandle + 1) % 2 ^ 32
      | none => 0x10000
    let db := { db with record := db.record ++ [⟨handle, 0, [], List.replicate sdpMaxPadLen 0⟩] }
    (handle, (sdpAddAttribute db handle attrIdServiceRecordHdl uintDescType 4
      (some (beBytes 4 handle))).2)
  else (0, db)

/-- `SDP_DeleteRecord`: handle `0` (or an empty database) deletes every record; otherwise the
record with the handle goes and the records after it move down a slot. -/
def sdpDeleteRecord (db : SdpDb) (handle : Nat) : Bool × SdpDb :=
  if handle = 0 ∨ db.record = [] then (true, ⟨0, []⟩)
  else
    match sdpDbFindRecord db handle with
    | none => (false, db)
    | some k =>
      (true, ⟨if db.diPrimaryHandle = handle then 0 else db.diPrimaryHandle, db.record.eraseIdx k⟩)

/-! ## The record invariant and the failure path -/

/-- The representation invariant of a record: at most `SDP_MAX_REC_ATTR` attributes, ids strictly
increasing, `free_pad_ptr` within `attr_pad`, and the values of nonzero length lying below
`free_pad_ptr` and covering each byte below it exactly once. -/
def PadInv (r : SdpRecord) : Prop :=
  r.attributes.length ≤ sdpMaxRecAttr ∧
  r.attributes.Pairwise (fun a b => a.id < b.id) ∧
  r.freePadPtr ≤ sdpMaxPadLen ∧
  (∀ a ∈ r.attributes, a.len ≠ 0 → a.valuePtr + a.len ≤ r.freePadPtr) ∧
  ∀ k < r.freePadPtr,
    (r.attributes.filter fun a => a.len ≠ 0 ∧ a.valuePtr ≤ k ∧ k < a.valuePtr + a.len).length = 1

instance (r : SdpRecord) : Decidable (PadInv r) :=
  inferInstanceAs (Decidable (_ ∧ _ ∧ _ ∧ _ ∧ _))

/-- Setting the copy left in slot `xx` and keeping the first `n` slots: the attributes before the
slot, the cleared one, and those after it but the last. -/
theorem take_set_insert {α : Type} (l : List α) (x c : α) {xx : Nat} (h : xx < l.length) :
    ((l.take xx ++ [x] ++ l.drop xx).set xx c).take l.length =
      l.take xx ++ c :: (l.drop xx).dropLast := by
  have htake : (l.take xx).length = xx := List.length_take_of_le (by omega)
  rw [List.append_assoc, List.singleton_append, List.set_append_right _ _ (by omega), htake,
    Nat.sub_self, List.set_cons_zero, List.take_append, htake, List.take_of_length_le (by omega),
    List.dropLast_eq_take, List.length_drop]
  obtain ⟨m, hm⟩ : ∃ m, l.length - xx = m + 1 := ⟨l.length - xx - 1, by omega⟩
  rw [hm, List.take_succ_cons, Nat.add_sub_cancel]

/-- Setting the copy made at the end and keeping the first `n` slots gives the array back. -/
theorem take_set_insert_end {α : Type} (l : List α) (x c : α) :
    ((l.take l.length ++ [x] ++ l.drop l.length).set l.length c).take l.length = l := by
  rw [List.take_length, List.drop_length, List.append_nil,
    List.set_append_right _ _ (Nat.le_refl _), Nat.sub_self, List.set_cons_zero, List.take_left]

/-- Slot `xx` of the array with the slots from `xx` on moved up holds what it held. -/
theorem getD_insert {α : Type} (l : List α) (x : α) {xx : Nat} (h : xx ≤ l.length) (d : α) :
    (l.take xx ++ [x] ++ l.drop xx).getD xx d = x := by
  have htake : (l.take xx).length = xx := List.length_take_of_le h
  rw [List.getD_eq_getElem?_getD, List.append_assoc, List.getElem?_append_right (by omega), htake,
    Nat.sub_self]
  rfl

/-- The failure path of `SDP_AddAttribute` on a new id below the largest: when the value is refused
for want of room in `attr_pad`, the call returns `false` having moved the attributes from the slot
up and cleared the slot, so the record shows a cleared attribute there and has lost its last. -/
theorem addAttributeRec_insert_failure {r : SdpRecord} {attrId attrType attrLen : Nat}
    {v : List UInt8} (hslot : addSlot r attrId < r.attributes.length)
    (hnew : (r.attributes.getD (addSlot r attrId) ⟨0, 0, 0, 0⟩).id ≠ attrId)
    (hroom : r.attributes.length ≠ sdpMaxRecAttr)
    (hfit : (r.freePadPtr + attrLen) % 2 ^ 32 ≥ sdpMaxPadLen) (htext : attrType ≠ textStrDescType)
    (hlen : attrLen ≠ 0) :
    addAttributeRec r attrId attrType attrLen (some v) =
      (false, { r with attributes := r.attributes.take (addSlot r attrId) ++
        ⟨0, 0, 0, (r.attributes.getD (addSlot r attrId) ⟨0, 0, 0, 0⟩).valuePtr⟩ ::
          (r.attributes.drop (addSlot r attrId)).dropLast }) := by
  have hdel : ¬ ((r.attributes.getD (addSlot r attrId) ⟨0, 0, 0, 0⟩).id = attrId ∧
      addSlot r attrId < r.attributes.length) := fun h => hnew h.1
  simp only [addAttributeRec, addAttributeBase, hdel, if_false, hroom, hfit, htext, if_true, Nat.lt_irrefl,
    if_pos hlen, getD_insert _ _ (Nat.le_of_lt hslot), take_set_insert _ _ _ hslot]

/-! ## What a failed call leaves -/
theorem addSlot_le (r : SdpRecord) (attrId : Nat) : addSlot r attrId ≤ r.attributes.length := by
  unfold addSlot
  cases h : r.attributes.findIdx? (fun a => a.id == attrId || a.id > attrId) with
  | none => exact Nat.le_refl _
  | some i =>
    obtain ⟨hi, -⟩ := List.findIdx?_eq_some_iff_getElem.1 h
    exact Nat.le_of_lt hi

theorem le_id_addSlot {r : SdpRecord} {attrId : Nat} (h : addSlot r attrId < r.attributes.length)
    (d : SdpAttribute) : attrId ≤ (r.attributes.getD (addSlot r attrId) d).id := by
  cases hf : r.attributes.findIdx? (fun a => a.id == attrId || a.id > attrId) with
  | none =>
    have hs : addSlot r attrId = r.attributes.length := by simp only [addSlot, hf, Option.getD_none]
    omega
  | some i =>
    obtain ⟨hi, hp, -⟩ := List.findIdx?_eq_some_iff_getElem.1 hf
    have hs : addSlot r attrId = i := by simp only [addSlot, hf, Option.getD_some]
    rw [hs, List.getD_eq_getElem _ _ hi]
    simp only [Bool.or_eq_true, beq_iff_eq, decide_eq_true_eq] at hp
    omega

theorem addSlot_of_getElem {r : SdpRecord} {attrId j : Nat}
    (hs : r.attributes.Pairwise (fun a b => a.id < b.id)) (hj : j < r.attributes.length)
    (hid : r.attributes[j].id = attrId) : addSlot r attrId = j := by
  have hf : r.attributes.findIdx? (fun a => a.id == attrId || a.id > attrId) = some j := by
    refine List.findIdx?_eq_some_iff_getElem.2 ⟨hj, by simp [hid], fun k hk => ?_⟩
    have hlt := List.pairwise_iff_getElem.1 hs k j (by omega) hj hk
    simp only [Bool.or_eq_true, beq_iff_eq, decide_eq_true_eq, not_or]
    omega
  simp only [addSlot, hf, Option.getD_some]

theorem length_deleteAttrAt {r : SdpRecord} {i : Nat} (h : i < r.attributes.length) :
    (deleteAttrAt r i).attributes.length = r.attributes.length - 1 := by
  dsimp only [deleteAttrAt]
  split_ifs
  · rw [List.length_eraseIdx_of_lt (by simpa using h), List.length_map]
  · rw [List.length_eraseIdx_of_lt h]

theorem addAttributeBase_of_not_mem {r : SdpRecord} {attrId : Nat}
    (h : ∀ a ∈ r.attributes, a.id ≠ attrId) : addAttributeBase r attrId = r := by
  dsimp only [addAttributeBase]
  rw [if_neg]
  rintro ⟨hid, hlt⟩
  rw [List.getD_eq_getElem _ _ hlt] at hid
  exact h _ (List.getElem_mem hlt) hid

theorem addAttributeBase_of_mem {r : SdpRecord} {attrId : Nat}
    (hs : r.attributes.Pairwise (fun a b => a.id < b.id)) {a : SdpAttribute} (ha : a ∈ r.attributes)
    (hid : a.id = attrId) :
    addSlot r attrId < r.attributes.length ∧
      addAttributeBase r attrId = deleteAttrAt r (addSlot r attrId) := by
  obtain ⟨j, hj, rfl⟩ := List.mem_iff_getElem.1 ha
  have hslot := addSlot_of_getElem hs hj hid
  refine ⟨hslot ▸ hj, ?_⟩
  dsimp only [addAttributeBase]
  rw [if_pos ⟨by rw [hslot, List.getD_eq_getElem _ _ hj, hid], hslot ▸ hj⟩]

theorem addSlot_le_base (r : SdpRecord) (attrId : Nat) :
    addSlot r attrId ≤ (addAttributeBase r attrId).attributes.length := by
  dsimp only [addAttributeBase]
  split_ifs with h
  · rw [length_deleteAttrAt h.2]
    omega
  · exact addSlot_le r attrId

theorem addAttributeRec_false {r r' : SdpRecord} {attrId attrType attrLen : Nat}
    {pVal : Option (List UInt8)} (h : addAttributeRec r attrId attrType attrLen pVal = (false, r')) :
    (r' = addAttributeBase r attrId ∧
      ((addAttributeBase r attrId).attributes.length = sdpMaxRecAttr ∨
        addSlot r attrId = (addAttributeBase r attrId).attributes.length)) ∨
    ((addAttributeBase r attrId).attributes.length ≠ sdpMaxRecAttr ∧
      addSlot r attrId < (addAttributeBase r attrId).attributes.length ∧
      ∃ vp, r' = { addAttributeBase r attrId with attributes :=
        (addAttributeBase r attrId).attributes.take (addSlot r attrId) ++ ⟨0, 0, 0, vp⟩ ::
          ((addAttributeBase r attrId).attributes.drop (addSlot r attrId)).dropLast }) := by
  have hle := addSlot_le_base r attrId
  dsimp only [addAttributeRec] at h
  set b := addAttributeBase r attrId
  set xx := addSlot r attrId
  by_cases hfull : b.attributes.length = sdpMaxRecAttr
  · rw [if_pos hfull, Prod.mk.injEq] at h
    exact .inl ⟨h.2.symm, .inl hfull⟩
  rw [if_neg hfull] at h
  -- every later `false` clears the slot and cuts the array back to its length
  obtain ⟨vp, rfl⟩ : ∃ vp, r' =
      { b with
        attributes := List.take b.attributes.length
          ((b.attributes.take xx ++ [b.attributes.getD xx ⟨0, 0, 0, 0⟩] ++ b.attributes.drop xx).set
            xx ⟨0, 0, 0, vp⟩) } := by
    repeat' split at h
    all_goals simp only [Prod.mk.injEq, Bool.true_eq_false, false_and] at h
    all_goals exact ⟨_, h.2.symm⟩
  rcases Nat.lt_or_ge xx b.attributes.length with hlt | hge
  · exact .inr ⟨hfull, hlt, vp, by rw [take_set_insert _ _ _ hlt]⟩
  · have hxx : xx = b.attributes.length := by omega
    refine .inl ⟨?_, .inr hxx⟩
    rw [hxx, take_set_insert_end]

/-- A failed call leaves as many attributes as the record had after the deletion. -/
theorem length_of_addAttributeRec_false {r r' : SdpRecord} {attrId attrType attrLen : Nat}
    {pVal : Option (List UInt8)} (h : addAttributeRec r attrId attrType attrLen pVal = (false, r')) :
    r'.attributes.length = (addAttributeBase r attrId).attributes.length := by
  rcases addAttributeRec_false h with ⟨rfl, -⟩ | ⟨-, hlt, vp, rfl⟩
  · rfl
  · simp only [List.length_append, List.length_take, List.length_cons, List.length_dropLast,
      List.length_drop]
    omega

/-- A failed `SDP_AddAttribute` on a record that holds the invariant leaves the record as it was
exactly when the id is new and the call stopped at a full array or at its end: otherwise a
replaced attribute has been deleted, or the attributes above a refused one have moved up. -/
theorem addAttributeRec_false_eq_iff {r r' : SdpRecord} {attrId attrType attrLen : Nat}
    {pVal : Option (List UInt8)} (hr : PadInv r)
    (h : addAttributeRec r attrId attrType attrLen pVal = (false, r')) :
    r' = r ↔ (∀ a ∈ r.attributes, a.id ≠ attrId) ∧
      (r.attributes.length = sdpMaxRecAttr ∨ addSlot r attrId = r.attributes.length) := by
  have hlen := length_of_addAttributeRec_false h
  by_cases hnew : ∀ a ∈ r.attributes, a.id ≠ attrId
  · have hb := addAttributeBase_of_not_mem hnew
    rcases addAttributeRec_false h with ⟨hr', hcase⟩ | ⟨hfull, hlt, vp, hr'⟩
    · rw [hb] at hr' hcase
      exact iff_of_true hr' ⟨hnew, hcase⟩
    rw [hb] at hfull hlt hr'
    refine iff_of_false (fun he => ?_) (fun ⟨_, hc⟩ => hc.elim hfull (by omega))
    -- the slot holds the cleared attribute in `r'`, one with an id above the new one in `r`
    have hget : r'.attributes[addSlot r attrId]? = some ⟨0, 0, 0, vp⟩ := by
      have htake : (r.attributes.take (addSlot r attrId)).length = addSlot r attrId :=
        List.length_take_of_le (Nat.le_of_lt hlt)
      rw [hr', List.getElem?_append_right (by omega), htake, Nat.sub_self]
      rfl
    rw [he, List.getElem?_eq_getElem hlt, Option.some.injEq] at hget
    have hle := le_id_addSlot hlt ⟨0, 0, 0, 0⟩
    have hne := hnew _ (List.getElem_mem hlt)
    rw [List.getD_eq_getElem _ _ hlt] at hle
    rw [hget] at hle hne
    exact hne (by simp only at hle ⊢; omega)
  · obtain ⟨a, ha, hid⟩ : ∃ a ∈ r.attributes, a.id = attrId := by simpa using hnew
    obtain ⟨hlt, hb⟩ := addAttributeBase_of_mem hr.2.1 ha hid
    rw [hb, length_deleteAttrAt hlt] at hlen
    refine iff_of_false (fun he => ?_) (fun ⟨hn, _⟩ => hn a ha hid)
    rw [he] at hlen
    omega

/-- A database of one record, made by `SDP_CreateRecord`, with attribute `9` added after its
record handle. -/
def twoAttrDb : SdpDb :=
  (sdpAddAttribute (sdpCreateRecord ⟨0, []⟩).2 0x10000 9 uintDescType 2 (some [0x00, 0x07])).2

/-- Adding attribute `5` of length 600 to the record of `twoAttrDb`: the call fails, and the record
that held the invariant has ids `0, 0`. -/
theorem sdpAddAttribute_failure_corrupts :
    (∀ r ∈ twoAttrDb.record, PadInv r) ∧
      (sdpAddAttribute twoAttrDb 0x10000 5 uintDescType 600 (some (List.replicate 600 0))).1 = false ∧
      (sdpAddAttribute twoAttrDb 0x10000 5 uintDescType 600 (some (List.replicate 600 0))).2.record.map
        (fun r => r.attributes.map (·.id)) = [[0x0000, 0x0000]] ∧
      ¬ ∀ r ∈ (sdpAddAttribute twoAttrDb 0x10000 5 uintDescType 600
        (some (List.replicate 600 0))).2.record, PadInv r := by
  decide

/-- The record of `SDP_CreateRecord` with a text attribute too long for `attr_pad`, cut to the 596
bytes left: `free_pad_ptr` reaches `SDP_MAX_PAD_LEN`. -/
def fullPadDb : SdpDb :=
  (sdpAddAttribute (sdpCreateRecord ⟨0, []⟩).2 0x10000 0x0100 textStrDescType 600
    (some (List.replicate 600 0x41))).2

set_option maxRecDepth 2000 in
/-- Two failures that are not undone. Replacing attribute `9` of `twoAttrDb` by a value too long
for `attr_pad` returns `false` with the attribute deleted and its two bytes released. Adding a text
attribute to the full record of `fullPadDb` returns `false` and leaves the record as it was, but
writes the byte at index `2^32 - 1` of the caller's one-byte value. -/
theorem sdpAddAttribute_failure_not_atomic :
    (∀ r ∈ twoAttrDb.record, PadInv r) ∧
      twoAttrDb.record.map (fun r => (r.attributes.map (·.id), r.freePadPtr)) =
        [([0x0000, 0x0009], 6)] ∧
      (sdpAddAttribute twoAttrDb 0x10000 9 uintDescType 600 (some (List.replicate 600 0))).1 = false ∧
      (sdpAddAttribute twoAttrDb 0x10000 9 uintDescType 600 (some (List.replicate 600 0))).2.record.map
        (fun r => (r.attributes.map (·.id), r.freePadPtr)) = [([0x0000], 4)] ∧
      (∀ r ∈ fullPadDb.record, PadInv r ∧ r.freePadPtr = sdpMaxPadLen) ∧
      sdpAddAttribute fullPadDb 0x10000 0x0101 textStrDescType 1 (some [0x42]) = (false, fullPadDb) ∧
      sdpAddAttributeValWrite fullPadDb 0x10000 0x0101 textStrDescType 1 = some (2 ^ 32 - 1) := by
  refine ⟨by decide, rfl, rfl, rfl, by decide, rfl, rfl⟩

end BluetoothStack.Sdp
