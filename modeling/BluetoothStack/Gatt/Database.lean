import BluetoothStack.Gatt.Types
import BluetoothStack.Lib.IntervalList

/-!
# Building the GATT server database

`GATTS_AddService`, `GATTS_DeleteService` and `GATTS_StopService` of gatt_api.cc over the
database builders of gatt_db.cc. `GATTS_AddService` reserves a handle range (a fixed one for the
GATT, GAP, GMCS, GTBS and TMAS services, the one after the highest range for any other service),
puts it in `hdl_list_info`, builds the service's attributes in it one handle at a time, and once
every element is in, enters the service in `srv_list_info`.

`allocate_attr_in_db` stops the stack at `LOG(FATAL)` when the reserved handles run out; the model
returns `none` there. That happens in particular for every range that ends at `0xFFFF`:
`end_handle` is then `0x10000`, which its `uint16_t` holds as `0`. So no range that survives ends
at `0xFFFF`, and the `uint16_t` sum `e_handle + 1` that places the next application service never
wraps (`ServerInv`).

An element that `GATTS_AddService` refuses (a characteristic whose authenticated-signed property
and permission disagree, a characteristic or descriptor with the UUID of a declaration, an
included service that does not exist) makes it return `GATT_INTERNAL_ERROR` with the range already
in `hdl_list_info` and the service not started. `gattsAddService_error` says what a failed call
leaves: `srv_list_info` and `last_service_handle` as they were, and `hdl_list_info` as it was
(no registration, no handle space) or with one more range. A service without a fixed start
handle has by then handed that range to `p_nv_save_callback` (`gattsAddServiceNvSave`), and the
range stays reserved: `hdl_list_info` holds a range `srv_list_info` has not, and the next
application service is placed after it (`gattsAddService_refusal_leaks_range`). `ServerInv` is
what survives: both lists ordered and disjoint, every started service made from a reserved range,
though not every reserved range from a started service.
-/

namespace BluetoothStack.Gatt

open IntervalList

/-! ## Attributes of one service -/

/-- `allocate_attr_in_db`, with the value and type the caller gives the new attribute: it takes the
next handle, or stops at `LOG(FATAL)` (`none`) when the reserved ones are used up. -/
def allocateAttrInDb (db : SvcDb) (uuid : Uuid) (perm : Nat) (pValue : AttrValue)
    (gattType : DbAttributeType) : Option (SvcDb × Nat) :=
  if db.nextHandle ≥ db.endHandle then none
  else some ({ db with
    attrList := db.attrList ++ [⟨pValue, perm, db.nextHandle, uuid, gattType⟩]
    nextHandle := (db.nextHandle + 1) % 65536 }, db.nextHandle)

/-- Setting `p_value` of the attribute with handle `h`, through the reference
`allocate_attr_in_db` returned. -/
def setAttrValue (db : SvcDb) (h : Nat) (v : AttrValue) : SvcDb :=
  { db with attrList := db.attrList.map fun a => if a.handle = h then { a with pValue := v } else a }

/-- `gatts_init_service_db`: `num_handle` handles from `s_hdl`, the first the service
declaration. -/
def gattsInitServiceDb (serviceUuid : Uuid) (isPri : Bool) (sHdl numHandle : Nat) :
    Option SvcDb :=
  let uuid := Uuid.from16Bit (if isPri then gattUuidPriService else gattUuidSecService)
  (allocateAttrInDb ⟨[], (sHdl + numHandle) % 65536, sHdl⟩ uuid gattPermRead (.uuid serviceUuid)
    .primaryService).map Prod.fst

/-- `gatts_add_included_service`: nothing is added for an empty UUID or a zero handle. -/
def gattsAddIncludedService (db : SvcDb) (sHandle eHandle : Nat) (service : Uuid) :
    Option (SvcDb × Nat) :=
  if service.isEmpty ∨ sHandle = 0 ∨ eHandle = 0 then some (db, 0)
  else allocateAttrInDb db (Uuid.from16Bit gattUuidIncludeService) gattPermRead
    (.inclHandle sHandle eHandle service) .primaryService

/-- `gatts_add_characteristic`: the declaration, then the value; the declaration's value, set
once the value attribute is allocated, names its handle. -/
def gattsAddCharacteristic (db : SvcDb) (perm property : Nat) (charUuid : Uuid) :
    Option (SvcDb × Nat) := do
  let (db, declHandle) ← allocateAttrInDb db (Uuid.from16Bit gattUuidCharDeclare) gattPermRead
    .none .primaryService
  let (db, valHandle) ← allocateAttrInDb db charUuid perm .none .characteristic
  return (setAttrValue db declHandle (.charDecl property valHandle), valHandle)

/-- `gatts_add_char_ext_prop_descr`. -/
def gattsAddCharExtPropDescr (db : SvcDb) (extendedProperties : Nat) : Option (SvcDb × Nat) :=
  allocateAttrInDb db (Uuid.from16Bit gattUuidCharExtProp) gattPermRead
    (.charExtProp extendedProperties) .descriptor

/-- `gatts_add_char_descr`. -/
def gattsAddCharDescr (db : SvcDb) (perm : Nat) (descrUuid : Uuid) : Option (SvcDb × Nat) :=
  allocateAttrInDb db descrUuid perm .none .descriptor

/-! ## `GATTS_AddService` -/

/-- The handles one element takes in `compute_service_size`. -/
def elementSize (el : DbElement) : Nat :=
  match el.type with
  | .characteristic => if el.properties &&& gattCharPropBitExtProp ≠ 0 then 3 else 2
  | _ => 1

/-- `compute_service_size`. -/
def computeServiceSize (service : List DbElement) : Nat :=
  (service.map elementSize).sum

/-- `is_gatt_attr_type`: the UUIDs of the declarations. -/
def isGattAttrType (uuid : Uuid) : Bool :=
  uuid == Uuid.from16Bit gattUuidPriService || uuid == Uuid.from16Bit gattUuidSecService ||
    uuid == Uuid.from16Bit gattUuidIncludeService || uuid == Uuid.from16Bit gattUuidCharDeclare

/-- `gatt_find_hdl_buffer_by_handle`. -/
def gattFindHdlBufferByHandle (hdlList : List HdlListElem) (handle : Nat) :
    Option HdlListElem :=
  hdlList.find? fun e => e.asgnRange.sHandle == handle

/-- The data validity check of a characteristic in `GATTS_AddService`: the
authenticated-signed-writes property goes with a signed write permission. -/
def charConfigInvalid (el : DbElement) : Bool :=
  (el.properties &&& gattCharPropBitAuth ≠ 0 && el.permissions &&& gattWriteSignedPerm = 0) ||
    (el.permissions &&& gattWriteSignedPerm ≠ 0 && el.properties &&& gattCharPropBitAuth = 0)

/-- The element loop of `GATTS_AddService` from database `db`: the database it leaves and whether
it got through every element (`false` where it returns `GATT_INTERNAL_ERROR`, before the element
it refuses touched the database); `none` where an allocation stops at `LOG(FATAL)`. -/
def addElements (hdlList : List HdlListElem) (db : SvcDb) : List DbElement → Option (SvcDb × Bool)
  | [] => some (db, true)
  | el :: els =>
    match el.type with
    | .characteristic =>
      if charConfigInvalid el then some (db, false)
      else if isGattAttrType el.uuid then some (db, false)
      else do
        let (db, _) ← gattsAddCharacteristic db el.permissions el.properties el.uuid
        -- the Characteristic Extended Properties descriptor, if the property says so
        let db ← if el.properties &&& gattCharPropBitExtProp ≠ 0 then
          (gattsAddCharExtPropDescr db el.extendedProperties).map Prod.fst else some db
        addElements hdlList db els
    | .descriptor =>
      if isGattAttrType el.uuid then some (db, false)
      else do
        let (db, _) ← gattsAddCharDescr db el.permissions el.uuid
        addElements hdlList db els
    | .includedService =>
      match gattFindHdlBufferByHandle hdlList el.attributeHandle with
      | none => some (db, false)
      | some p => do
        let (db, _) ← gattsAddIncludedService db p.asgnRange.sHandle p.asgnRange.eHandle
          p.asgnRange.svcUuid
        addElements hdlList db els
    | _ => addElements hdlList db els

/-- `gatt_add_an_item_to_list`: before the first range that starts below it. -/
def gattAddAnItemToList (hdlList : List HdlListElem) (elem : HdlListElem) : List HdlListElem :=
  insertBefore (fun it => decide (elem.asgnRange.sHandle > it.asgnRange.sHandle)) elem hdlList

/-- Where `GATTS_AddService` puts a new service in `srv_list_info`: before the first one that
starts above it. -/
def srvListInsert (srvList : List SrvListElem) (elem : SrvListElem) : List SrvListElem :=
  insertBefore (fun it => decide (elem.sHdl < it.sHdl)) elem srvList

/-- `gatt_update_last_srv_info`: the start of the last started service, `0` if none. -/
def gattUpdateLastSrvInfo (srvList : List SrvListElem) : Nat :=
  (srvList.getLast?.map SrvListElem.sHdl).getD 0

/-- The entry of `srv_list_info` for the service of `hdl_list_info` entry `x`, started by
`gatt_if`. -/
def srvElemOf (x : HdlListElem) (gattIf : Nat) : SrvListElem :=
  ⟨x.svcDb, x.asgnRange.appUuid128,
    if x.asgnRange.isPrimary then gattUuidPriService else gattUuidSecService, x.asgnRange.sHandle,
    x.asgnRange.eHandle, gattIf, x.asgnRange.isPrimary⟩

/-- The fixed start handle of `hdl_cfg` for the services that have one. -/
def fixedStartHdl (svcUuid : Uuid) : Option Nat :=
  if svcUuid = Uuid.from16Bit uuidServclassGattServer then some gattGattStartHandle
  else if svcUuid = Uuid.from16Bit uuidServclassGapServer then some gattGapStartHandle
  else if svcUuid = Uuid.from16Bit uuidServclassGmcsServer then some gattGmcsStartHandle
  else if svcUuid = Uuid.from16Bit uuidServclassGtbsServer then some gattGtbsStartHandle
  else if svcUuid = Uuid.from16Bit uuidServclassTmasServer then some gattTmasStartHandle
  else none

/-- The start handle of any other service: after the front (highest) range of `hdl_list_info`, in
a `uint16_t`, and not below `app_start_hdl`. -/
def appStartHdl (hdlList : List HdlListElem) : Nat :=
  let sHdl := match hdlList with
    | [] => 0
    | front :: _ => (front.asgnRange.eHandle + 1) % 65536
  if sHdl < gattAppStartHandle then gattAppStartHandle else sHdl

/-- The start handle `GATTS_AddService` gives a service. -/
def serviceStartHdl (hdlList : List HdlListElem) (svcUuid : Uuid) : Nat :=
  (fixedStartHdl svcUuid).getD (appStartHdl hdlList)

/-- `GATTS_AddService` for the application `gatt_if`, whose registration `gatt_get_regcb` finds
with `app_uuid128` (`none` if it finds none), and the elements `service :: rest`:
`GATT_SERVICE_STARTED`, or the error it returns; `none` where it stops at `LOG(FATAL)`. -/
def gattsAddService (g : GattServer) (gattIf : Nat) (pReg : Option Uuid) (service : DbElement)
    (rest : List DbElement) : Option (GattStatus × GattServer) :=
  match pReg with
  | none => some (.internalError, g)
  | some appUuid128 =>
    let isPri := service.type == .primaryService
    let svcUuid := service.uuid
    let numHandles := computeServiceSize (service :: rest) % 65536
    let sHdl := serviceStartHdl g.hdlListInfo svcUuid
    if numHandles > 0xFFFF - sHdl + 1 then some (.internalError, g)
    else do
      let range : HndlRange :=
        ⟨appUuid128, svcUuid, sHdl, (sHdl + numHandles - 1) % 65536, isPri⟩
      let db ← gattsInitServiceDb svcUuid isPri sHdl numHandles
      -- the range is in `hdl_list_info` while the elements are added
      let (db, complete) ← addElements (gattAddAnItemToList g.hdlListInfo ⟨range, db⟩) db rest
      let hdlList := gattAddAnItemToList g.hdlListInfo ⟨range, db⟩
      if complete then
        let srvList := srvListInsert g.srvListInfo (srvElemOf ⟨range, db⟩ gattIf)
        return (.serviceStarted, ⟨hdlList, srvList, gattUpdateLastSrvInfo srvList⟩)
      else return (.internalError, { g with hdlListInfo := hdlList })

/-- The range `GATTS_AddService` hands to `p_nv_save_callback` (with `true`): that of a service
with no fixed start handle, once the space check has passed and before any element is looked at;
`none` where it hands none. -/
def gattsAddServiceNvSave (g : GattServer) (pReg : Option Uuid) (service : DbElement)
    (rest : List DbElement) : Option HndlRange :=
  match pReg with
  | none => none
  | some appUuid128 =>
    let svcUuid := service.uuid
    let numHandles := computeServiceSize (service :: rest) % 65536
    let sHdl := serviceStartHdl g.hdlListInfo svcUuid
    if numHandles > 0xFFFF - sHdl + 1 then none
    else if (fixedStartHdl svcUuid).isSome then none
    else some ⟨appUuid128, svcUuid, sHdl, (sHdl + numHandles - 1) % 65536,
      service.type == .primaryService⟩

/-! ## `GATTS_DeleteService` -/

/-- `gatts_get_service_uuid`: the value of the service declaration. -/
def gattsGetServiceUuid (db : SvcDb) : Option Uuid :=
  match db.attrList with
  | a :: _ => match a.pValue with
    | .uuid u => some u
    | _ => none
  | [] => none

/-- `gatt_sr_find_i_rcb_by_handle`: the first started service whose range holds the handle. -/
def gattSrFindIRcbByHandle (srvList : List SrvListElem) (handle : Nat) : Option Nat :=
  srvList.findIdx? fun el => el.sHdl ≤ handle && handle ≤ el.eHdl

/-- `GATTS_StopService`: the service is taken out of `srv_list_info`. -/
def gattsStopService (g : GattServer) (serviceHandle : Nat) : GattServer :=
  match gattSrFindIRcbByHandle g.srvListInfo serviceHandle with
  | none => g
  | some i =>
    let srvList := g.srvListInfo.eraseIdx i
    { g with srvListInfo := srvList, lastServiceHandle := gattUpdateLastSrvInfo srvList }

/-- `is_active_service`. -/
def isActiveService (srvList : List SrvListElem) (appUuid128 svcUuid : Uuid) (startHandle : Nat) :
    Bool :=
  srvList.any fun info =>
    gattsGetServiceUuid info.pDb == some svcUuid && appUuid128 == info.appUuid &&
      startHandle == info.sHdl

/-- `gatt_find_hdl_buffer_by_app_id`. -/
def gattFindHdlBufferByAppId (hdlList : List HdlListElem) (appUuid128 svcUuid : Uuid)
    (startHandle : Nat) : Option Nat :=
  hdlList.findIdx? fun it =>
    appUuid128 == it.asgnRange.appUuid128 && svcUuid == it.asgnRange.svcUuid &&
      startHandle == it.asgnRange.sHandle

/-- `GATTS_DeleteService` for the application whose registration has `app_uuid128`: the range
goes from `hdl_list_info`, and the service from `srv_list_info` if it is started. -/
def gattsDeleteService (g : GattServer) (pReg : Option Uuid) (svcUuid : Uuid) (svcInst : Nat) :
    Bool × GattServer :=
  match pReg with
  | none => (false, g)
  | some appUuid128 =>
    match gattFindHdlBufferByAppId g.hdlListInfo appUuid128 svcUuid svcInst with
    | none => (false, g)
    | some i =>
      let sHandle := (g.hdlListInfo.getD i ⟨⟨appUuid128, svcUuid, 0, 0, false⟩, ⟨[], 0, 0⟩⟩).asgnRange.sHandle
      let g := if isActiveService g.srvListInfo appUuid128 svcUuid svcInst then
        gattsStopService g sHandle else g
      (true, { g with hdlListInfo := g.hdlListInfo.eraseIdx i })

/-! ## Building one service database -/

/-- Every characteristic declaration is followed at once by the value attribute it names: the
layout `read_attr_value` relies on when it reads `&attr16 + 1`. -/
def CharDeclsFollowed (l : List GattAttr) : Prop :=
  ∀ i (hi : i < l.length), l[i].uuid = Uuid.from16Bit gattUuidCharDeclare →
    ∃ (hj : i + 1 < l.length), ∃ p, l[i].pValue = .charDecl p l[i + 1].handle

/-- A service database while it is built from `s`: consecutive handles from `s` with
`next_handle` just past them and within `end_handle`, the service declaration first, and every
characteristic declaration followed by its value. -/
structure Building (s : Nat) (svcUuid : Uuid) (db : SvcDb) : Prop where
  handles : db.attrList.map GattAttr.handle = List.range' s db.attrList.length
  next : db.nextHandle = s + db.attrList.length
  le_end : db.nextHandle ≤ db.endHandle
  end_lt : db.endHandle < 65536
  head : ∃ a rest, db.attrList = a :: rest ∧ a.pValue = .uuid svcUuid
  follow : CharDeclsFollowed db.attrList

/-- What `allocate_attr_in_db` does when it returns: the attribute is appended with the next
handle, which moves on by one; the end stays. -/
theorem allocateAttrInDb_eq_some {db db' : SvcDb} {uuid : Uuid} {perm : Nat} {v : AttrValue}
    {t : DbAttributeType} {h : Nat} (hend : db.endHandle < 65536)
    (ha : allocateAttrInDb db uuid perm v t = some (db', h)) :
    db.nextHandle < db.endHandle ∧ h = db.nextHandle ∧
      db'.attrList = db.attrList ++ [⟨v, perm, db.nextHandle, uuid, t⟩] ∧
      db'.nextHandle = db.nextHandle + 1 ∧ db'.endHandle = db.endHandle := by
  unfold allocateAttrInDb at ha
  split at ha
  · cases ha
  · rename_i hlt
    simp only [Option.some.injEq, Prod.mk.injEq] at ha
    obtain ⟨rfl, rfl⟩ := ha
    refine ⟨by omega, rfl, rfl, Nat.mod_eq_of_lt (by omega), rfl⟩

theorem charDeclsFollowed_append {l : List GattAttr} {x : GattAttr} (hl : CharDeclsFollowed l)
    (hx : x.uuid ≠ Uuid.from16Bit gattUuidCharDeclare) : CharDeclsFollowed (l ++ [x]) := by
  intro i hi hdecl
  rw [List.length_append, List.length_singleton] at hi
  by_cases hil : i < l.length
  · -- a declaration of `l` has its value in `l`
    rw [List.getElem_append_left hil] at hdecl
    obtain ⟨hj, p, hp⟩ := hl i hil hdecl
    refine ⟨by simp; omega, p, ?_⟩
    rw [List.getElem_append_left hil, List.getElem_append_left hj]
    exact hp
  · have hi' : i = l.length := by omega
    subst hi'
    simp at hdecl
    exact absurd hdecl hx

theorem charDeclsFollowed_append_pair {l : List GattAttr} {d v : GattAttr} {p : Nat}
    (hl : CharDeclsFollowed l) (hd : d.pValue = .charDecl p v.handle)
    (hv : v.uuid ≠ Uuid.from16Bit gattUuidCharDeclare) : CharDeclsFollowed (l ++ [d, v]) := by
  intro i hi hdecl
  simp only [List.length_append, List.length_cons, List.length_nil] at hi
  by_cases hil : i < l.length
  · rw [List.getElem_append_left hil] at hdecl
    obtain ⟨hj, q, hq⟩ := hl i hil hdecl
    refine ⟨by simp; omega, q, ?_⟩
    rw [List.getElem_append_left hil, List.getElem_append_left hj]
    exact hq
  · by_cases hil' : i = l.length
    · -- the new declaration is followed by the new value
      subst hil'
      refine ⟨by simp, p, ?_⟩
      simpa using hd
    · have hi' : i = l.length + 1 := by omega
      subst hi'
      simp at hdecl
      exact absurd hdecl hv

/-- Appending an attribute with the next handle keeps the handles consecutive. -/
theorem handles_append {l : List GattAttr} {s : Nat} {x : GattAttr}
    (hl : l.map GattAttr.handle = List.range' s l.length) (hx : x.handle = s + l.length) :
    (l ++ [x]).map GattAttr.handle = List.range' s (l ++ [x]).length := by
  rw [List.map_append, hl, List.length_append, List.length_singleton, List.range'_1_concat]
  simp [hx]

/-- The handles of a database being built lie below its next handle. -/
theorem Building.handle_lt {s : Nat} {u : Uuid} {db : SvcDb} (hb : Building s u db)
    {a : GattAttr} (ha : a ∈ db.attrList) : a.handle < db.nextHandle := by
  have hmem : a.handle ∈ db.attrList.map GattAttr.handle := List.mem_map_of_mem ha
  rw [hb.handles, List.mem_range'_1] at hmem
  rw [hb.next]
  omega

/-- One allocation of an attribute that is not a characteristic declaration. -/
theorem Building.allocate {s : Nat} {u uuid : Uuid} {db db' : SvcDb} {perm h : Nat}
    {v : AttrValue} {t : DbAttributeType} (hb : Building s u db)
    (huuid : uuid ≠ Uuid.from16Bit gattUuidCharDeclare)
    (ha : allocateAttrInDb db uuid perm v t = some (db', h)) :
    Building s u db' ∧ db'.endHandle = db.endHandle := by
  obtain ⟨hlt, -, hl, hn, he⟩ := allocateAttrInDb_eq_some hb.end_lt ha
  obtain ⟨a, rest, hhead, hval⟩ := hb.head
  refine ⟨⟨?_, ?_, ?_, ?_, ?_, ?_⟩, he⟩
  · rw [hl]
    exact handles_append hb.handles hb.next
  · rw [hn, hl, hb.next, List.length_append, List.length_singleton]
    omega
  · omega
  · rw [he]
    exact hb.end_lt
  · exact ⟨a, rest ++ _, by rw [hl, hhead, List.cons_append], hval⟩
  · rw [hl]
    exact charDeclsFollowed_append hb.follow huuid

/-- Setting the value of the attribute with handle `h`, which only the one appended at `d`
has. -/
theorem setAttrValue_append_pair {db : SvcDb} {l : List GattAttr} {d v : GattAttr} {x : AttrValue}
    (hdb : db.attrList = l ++ [d, v]) (hl : ∀ a ∈ l, a.handle < d.handle)
    (hv : v.handle ≠ d.handle) :
    (setAttrValue db d.handle x).attrList = l ++ [{ d with pValue := x }, v] := by
  have hmap : l.map (fun a => if a.handle = d.handle then { a with pValue := x } else a) = l := by
    conv => rhs; rw [← List.map_id l]
    apply List.map_congr_left
    intro a ha
    rw [if_neg (Nat.ne_of_lt (hl a ha))]
    rfl
  simp only [setAttrValue, hdb, List.map_append, hmap, List.map_cons, List.map_nil, if_pos,
    if_neg hv]

theorem charDeclare_ne_charExtProp :
    Uuid.from16Bit gattUuidCharExtProp ≠ Uuid.from16Bit gattUuidCharDeclare := by decide

theorem charDeclare_ne_includeService :
    Uuid.from16Bit gattUuidIncludeService ≠ Uuid.from16Bit gattUuidCharDeclare := by decide

/-- `gatts_add_characteristic` on a database being built: the declaration and its value. -/
theorem Building.addCharacteristic {s : Nat} {u charUuid : Uuid} {db db' : SvcDb}
    {perm property h : Nat} (hb : Building s u db)
    (huuid : charUuid ≠ Uuid.from16Bit gattUuidCharDeclare)
    (ha : gattsAddCharacteristic db perm property charUuid = some (db', h)) :
    Building s u db' ∧ db'.endHandle = db.endHandle := by
  simp only [gattsAddCharacteristic, Option.bind_eq_bind, Option.bind_eq_some_iff,
    Option.pure_def, Option.some.injEq] at ha
  obtain ⟨⟨db₁, hd⟩, ha₁, ⟨db₂, hv⟩, ha₂, hres⟩ := ha
  cases hres
  obtain ⟨hlt₁, rfl, hl₁, hn₁, he₁⟩ := allocateAttrInDb_eq_some hb.end_lt ha₁
  obtain ⟨hlt₂, rfl, hl₂, hn₂, he₂⟩ := allocateAttrInDb_eq_some (he₁ ▸ hb.end_lt) ha₂
  dsimp only at hlt₂ hl₂ hn₂ he₂
  -- the two new attributes, the declaration first
  have hpair : db₂.attrList = db.attrList ++ [⟨.none, gattPermRead, db.nextHandle,
      Uuid.from16Bit gattUuidCharDeclare, .primaryService⟩,
      ⟨.none, perm, db₁.nextHandle, charUuid, .characteristic⟩] := by
    rw [hl₂, hl₁, List.append_assoc]
    rfl
  have hset := setAttrValue_append_pair (x := .charDecl property db₁.nextHandle) hpair
    (fun a ha => hb.handle_lt ha) (by simp only; omega)
  obtain ⟨a, rest, hhead, hval⟩ := hb.head
  refine ⟨⟨?_, ?_, ?_, ?_, ?_, ?_⟩, by simp [setAttrValue, he₂, he₁]⟩
  · rw [hset, List.append_cons]
    apply handles_append (handles_append hb.handles hb.next)
    simp only [List.length_append, List.length_singleton, hn₁, hb.next]
    omega
  · rw [hset]
    simp only [setAttrValue, hn₂, hn₁, hb.next, List.length_append, List.length_cons,
      List.length_nil]
    omega
  · simp only [setAttrValue]
    omega
  · simp only [setAttrValue, he₂, he₁]
    exact hb.end_lt
  · exact ⟨a, rest ++ _, by rw [hset, hhead, List.cons_append], hval⟩
  · rw [hset]
    exact charDeclsFollowed_append_pair hb.follow rfl huuid

/-- `gatts_add_included_service` on a database being built. -/
theorem Building.addIncludedService {s : Nat} {u service : Uuid} {db db' : SvcDb}
    {sHandle eHandle h : Nat} (hb : Building s u db)
    (ha : gattsAddIncludedService db sHandle eHandle service = some (db', h)) :
    Building s u db' ∧ db'.endHandle = db.endHandle := by
  unfold gattsAddIncludedService at ha
  split at ha
  · -- illegal parameters: nothing is added
    cases ha
    exact ⟨hb, rfl⟩
  · exact hb.allocate charDeclare_ne_includeService ha

/-- The element loop keeps a database being built, whatever it stops at. -/
theorem Building.addElements {s : Nat} {u : Uuid} {hdlList : List HdlListElem}
    {els : List DbElement} {db db' : SvcDb} {complete : Bool} (hb : Building s u db)
    (ha : addElements hdlList db els = some (db', complete)) :
    Building s u db' ∧ db'.endHandle = db.endHandle := by
  induction els generalizing db with
  | nil =>
    simp only [BluetoothStack.Gatt.addElements, Option.some.injEq, Prod.mk.injEq] at ha
    obtain ⟨rfl, -⟩ := ha
    exact ⟨hb, rfl⟩
  | cons el els ih =>
    simp only [BluetoothStack.Gatt.addElements] at ha
    split at ha
    · -- a characteristic: refused, or its declaration, value and extended properties
      split at ha
      · cases ha
        exact ⟨hb, rfl⟩
      split at ha
      · cases ha
        exact ⟨hb, rfl⟩
      rename_i hattr
      have huuid : el.uuid ≠ Uuid.from16Bit gattUuidCharDeclare := by
        intro h
        simp [isGattAttrType, h] at hattr
      simp only [Option.bind_eq_bind, Option.bind_eq_some_iff] at ha
      obtain ⟨⟨db₁, _⟩, h₁, ha⟩ := ha
      obtain ⟨hb₁, he₁⟩ := hb.addCharacteristic huuid h₁
      obtain ⟨db₂, hb₂, h₃⟩ : ∃ db₂, (Building s u db₂ ∧ db₂.endHandle = db₁.endHandle) ∧
          Gatt.addElements hdlList db₂ els = some (db', complete) := by
        by_cases hext : el.properties &&& gattCharPropBitExtProp ≠ 0
        · rw [if_pos hext, Option.bind_eq_some_iff] at ha
          obtain ⟨db₂, h₂, h₃⟩ := ha
          obtain ⟨⟨db₂', _⟩, h₂', hdb⟩ := Option.map_eq_some_iff.1 h₂
          cases hdb
          exact ⟨_, hb₁.allocate charDeclare_ne_charExtProp h₂', h₃⟩
        · rw [if_neg hext] at ha
          exact ⟨db₁, ⟨hb₁, rfl⟩, ha⟩
      obtain ⟨hb₃, he₃⟩ := ih hb₂.1 h₃
      exact ⟨hb₃, he₃.trans (hb₂.2.trans he₁)⟩
    · -- a descriptor: refused, or allocated
      split at ha
      · cases ha
        exact ⟨hb, rfl⟩
      rename_i hattr
      have huuid : el.uuid ≠ Uuid.from16Bit gattUuidCharDeclare := by
        intro h
        simp [isGattAttrType, h] at hattr
      simp only [Option.bind_eq_bind, Option.bind_eq_some_iff] at ha
      obtain ⟨⟨db₁, _⟩, h₁, h₂⟩ := ha
      obtain ⟨hb₁, he₁⟩ := hb.allocate huuid h₁
      obtain ⟨hb₂, he₂⟩ := ih hb₁ h₂
      exact ⟨hb₂, he₂.trans he₁⟩
    · -- an included service: refused if it does not exist
      split at ha
      · cases ha
        exact ⟨hb, rfl⟩
      simp only [Option.bind_eq_bind, Option.bind_eq_some_iff] at ha
      obtain ⟨⟨db₁, _⟩, h₁, h₂⟩ := ha
      obtain ⟨hb₁, he₁⟩ := hb.addIncludedService h₁
      obtain ⟨hb₂, he₂⟩ := ih hb₁ h₂
      exact ⟨hb₂, he₂.trans he₁⟩
    · exact ih hb ha

/-- `gatts_init_service_db` starts a database being built, with at least one handle reserved. -/
theorem gattsInitServiceDb_building {u : Uuid} {isPri : Bool} {s n : Nat} {db : SvcDb}
    (h : gattsInitServiceDb u isPri s n = some db) :
    Building s u db ∧ db.endHandle = (s + n) % 65536 ∧ s < (s + n) % 65536 := by
  unfold gattsInitServiceDb at h
  obtain ⟨⟨db', hd⟩, ha, rfl⟩ := Option.map_eq_some_iff.1 h
  have hend : (s + n) % 65536 < 65536 := Nat.mod_lt _ (by omega)
  obtain ⟨hlt, -, hl, hn, he⟩ := allocateAttrInDb_eq_some hend ha
  dsimp only at hlt hl hn he
  have hdecl : Uuid.from16Bit (if isPri then gattUuidPriService else gattUuidSecService) ≠
      Uuid.from16Bit gattUuidCharDeclare := by
    cases isPri <;> decide
  dsimp only
  refine ⟨⟨?_, ?_, ?_, ?_, ⟨_, [], by rw [hl]; rfl, rfl⟩, ?_⟩, he, hlt⟩
  · rw [hl]
    rfl
  · rw [hn, hl]
    rfl
  · omega
  · omega
  · rw [hl]
    exact charDeclsFollowed_append (fun i hi => absurd hi (Nat.not_lt_zero _)) hdecl

/-! ## The handle space -/

/-- The layout of a service database in its range, as the server's lookups rely on it:
consecutive handles from the start of the range and none past its end, the service declaration
holding the service's UUID first, and every characteristic declaration followed by its value. -/
structure DbLayout (r : HndlRange) (db : SvcDb) : Prop where
  handles : db.attrList.map GattAttr.handle = List.range' r.sHandle db.attrList.length
  within : r.sHandle + db.attrList.length ≤ r.eHandle + 1
  head : ∃ a rest, db.attrList = a :: rest ∧ a.pValue = .uuid r.svcUuid
  follow : CharDeclsFollowed db.attrList

theorem Building.layout {r : HndlRange} {db : SvcDb} (hb : Building r.sHandle r.svcUuid db)
    (he : db.endHandle ≤ r.eHandle + 1) : DbLayout r db :=
  ⟨hb.handles, by have := hb.next; have := hb.le_end; omega, hb.head, hb.follow⟩

/-- The start handles `hdl_cfg` fixes. -/
def fixedStarts : List Nat :=
  [gattGattStartHandle, gattGapStartHandle, gattGmcsStartHandle, gattGtbsStartHandle,
    gattTmasStartHandle]

/-- The last handle of the slot reserved for the fixed service that starts at `start`: the one
before the next fixed start, or before `app_start_hdl` for the last. -/
def slotEnd (start : Nat) : Nat :=
  if start = gattGattStartHandle then gattGapStartHandle - 1
  else if start = gattGapStartHandle then gattGmcsStartHandle - 1
  else if start = gattGmcsStartHandle then gattGtbsStartHandle - 1
  else if start = gattGtbsStartHandle then gattTmasStartHandle - 1
  else gattAppStartHandle - 1

/-- The slots lie in order below `app_start_hdl`, each from its own start. -/
theorem fixedStarts_slots :
    ∀ a ∈ fixedStarts, 1 ≤ a ∧ a ≤ slotEnd a ∧ slotEnd a < gattAppStartHandle ∧
      ∀ b ∈ fixedStarts, a < b → slotEnd a < b := by
  decide

theorem fixedStartHdl_mem {u : Uuid} {start : Nat} (h : fixedStartHdl u = some start) :
    start ∈ fixedStarts := by
  unfold fixedStartHdl at h
  split_ifs at h <;> cases h <;> decide

/-- A range in its place: an application range from `app_start_hdl` up, or a fixed service's
range within its slot. -/
def InSlot (r : HndlRange) : Prop :=
  gattAppStartHandle ≤ r.sHandle ∨ (r.sHandle ∈ fixedStarts ∧ r.eHandle ≤ slotEnd r.sHandle)

/-- A fixed service fits its reserved slot: its handles end within the slot, and no range starts
there yet. Services without a fixed start always pass. -/
def FitsSlot (hdlList : List HdlListElem) (service : DbElement) (rest : List DbElement) : Prop :=
  ∀ start, fixedStartHdl service.uuid = some start →
    start + computeServiceSize (service :: rest) ≤ slotEnd start + 1 ∧
      ∀ x ∈ hdlList, x.asgnRange.sHandle ≠ start

/-- A service without a fixed start handle has no slot to fit. -/
theorem fitsSlot_of_fixedStartHdl_none {hdlList : List HdlListElem} {service : DbElement}
    {rest : List DbElement} (h : fixedStartHdl service.uuid = none) :
    FitsSlot hdlList service rest := by
  intro start hstart
  rw [h] at hstart
  cases hstart

/-- The handle-space invariant of the server: `hdl_list_info` holds pairwise disjoint ranges
within `[1, 0xFFFE]` in descending order, each in its slot and carrying its database laid out in
it; `srv_list_info` holds, in ascending order, started services made from entries of
`hdl_list_info`; `last_service_handle` is the start of the last of them. -/
structure ServerInv (g : GattServer) : Prop where
  hdl_sorted : g.hdlListInfo.Pairwise fun a b => b.asgnRange.eHandle < a.asgnRange.sHandle
  hdl_bounds : ∀ x ∈ g.hdlListInfo, 1 ≤ x.asgnRange.sHandle ∧
    x.asgnRange.sHandle ≤ x.asgnRange.eHandle ∧ x.asgnRange.eHandle < 0xFFFF
  hdl_slot : ∀ x ∈ g.hdlListInfo, InSlot x.asgnRange
  layout : ∀ x ∈ g.hdlListInfo, DbLayout x.asgnRange x.svcDb
  srv_sorted : g.srvListInfo.Pairwise fun a b => a.eHdl < b.sHdl
  srv_started : ∀ el ∈ g.srvListInfo, ∃ x ∈ g.hdlListInfo, ∃ gattIf, el = srvElemOf x gattIf
  last : g.lastServiceHandle = gattUpdateLastSrvInfo g.srvListInfo

theorem serverInv_init : ServerInv ⟨[], [], 0⟩ :=
  ⟨List.Pairwise.nil, by simp, by simp, by simp, List.Pairwise.nil, by simp, rfl⟩

/-- What a `GATTS_AddService` that returns does: nothing, or it reserves the range from the start
handle for the service's handles, builds the database in it, and starts the service if every
element went in. -/
theorem gattsAddService_cases {g g' : GattServer} {gattIf : Nat} {pReg : Option Uuid}
    {service : DbElement} {rest : List DbElement} {st : GattStatus}
    (h : gattsAddService g gattIf pReg service rest = some (st, g')) :
    g' = g ∨ ∃ appUuid128 db₀ db complete hdlList,
      gattsInitServiceDb service.uuid (service.type == .primaryService)
        (serviceStartHdl g.hdlListInfo service.uuid)
        (computeServiceSize (service :: rest) % 65536) = some db₀ ∧
      computeServiceSize (service :: rest) % 65536 ≤
        0xFFFF - serviceStartHdl g.hdlListInfo service.uuid + 1 ∧
      addElements hdlList db₀ rest = some (db, complete) ∧
      let x : HdlListElem := ⟨⟨appUuid128, service.uuid, serviceStartHdl g.hdlListInfo service.uuid,
        (serviceStartHdl g.hdlListInfo service.uuid +
          computeServiceSize (service :: rest) % 65536 - 1) % 65536,
        service.type == .primaryService⟩, db⟩
      g' = if complete then
          ⟨gattAddAnItemToList g.hdlListInfo x, srvListInsert g.srvListInfo (srvElemOf x gattIf),
            gattUpdateLastSrvInfo (srvListInsert g.srvListInfo (srvElemOf x gattIf))⟩
        else { g with hdlListInfo := gattAddAnItemToList g.hdlListInfo x } := by
  unfold gattsAddService at h
  rcases pReg with _ | appUuid128
  · -- no registration
    simp only [Option.some.injEq, Prod.mk.injEq] at h
    exact .inl h.2.symm
  · dsimp only at h
    split at h
    · simp only [Option.some.injEq, Prod.mk.injEq] at h
      exact .inl h.2.symm
    · rename_i hsize
      simp only [Option.bind_eq_bind, Option.bind_eq_some_iff] at h
      obtain ⟨db₀, hinit, ⟨db, complete⟩, hadd, h⟩ := h
      refine .inr ⟨appUuid128, db₀, db, complete, _, hinit, by omega, hadd, ?_⟩
      cases complete
      · simp only [Option.pure_def, Option.some.injEq, Prod.mk.injEq, Bool.false_eq_true,
          if_false] at h ⊢
        exact h.2.symm
      · simp only [Option.pure_def, Option.some.injEq, Prod.mk.injEq, if_true] at h ⊢
        exact h.2.symm

/-- What a `GATTS_AddService` that returns an error leaves: `srv_list_info` and
`last_service_handle` as they were, and `hdl_list_info` as it was or with one more range, from
the start handle it chose for the service. -/
theorem gattsAddService_error {g g' : GattServer} {gattIf : Nat} {pReg : Option Uuid}
    {service : DbElement} {rest : List DbElement} {st : GattStatus}
    (h : gattsAddService g gattIf pReg service rest = some (st, g'))
    (hst : st ≠ .serviceStarted) :
    g'.srvListInfo = g.srvListInfo ∧ g'.lastServiceHandle = g.lastServiceHandle ∧
      (g'.hdlListInfo = g.hdlListInfo ∨ ∃ x : HdlListElem,
        x.asgnRange.sHandle = serviceStartHdl g.hdlListInfo service.uuid ∧
          g'.hdlListInfo = gattAddAnItemToList g.hdlListInfo x) := by
  unfold gattsAddService at h
  rcases pReg with _ | appUuid128
  · -- no registration
    simp only [Option.some.injEq, Prod.mk.injEq] at h
    rw [← h.2]
    exact ⟨rfl, rfl, .inl rfl⟩
  · dsimp only at h
    split at h
    · -- no handle space
      simp only [Option.some.injEq, Prod.mk.injEq] at h
      rw [← h.2]
      exact ⟨rfl, rfl, .inl rfl⟩
    · simp only [Option.bind_eq_bind, Option.bind_eq_some_iff] at h
      obtain ⟨db₀, -, ⟨db, complete⟩, -, h⟩ := h
      cases complete
      · -- an element refused: the range stays in `hdl_list_info`
        simp only [Option.pure_def, Option.some.injEq, Prod.mk.injEq, Bool.false_eq_true,
          if_false] at h
        rw [← h.2]
        exact ⟨rfl, rfl, .inr ⟨_, rfl, rfl⟩⟩
      · simp only [Option.pure_def, Option.some.injEq, Prod.mk.injEq, if_true] at h
        exact absurd h.1.symm hst

@[simp] theorem mem_gattAddAnItemToList {hdlList : List HdlListElem} {x y : HdlListElem} :
    y ∈ gattAddAnItemToList hdlList x ↔ y = x ∨ y ∈ hdlList :=
  mem_insertBefore

@[simp] theorem mem_srvListInsert {srvList : List SrvListElem} {x y : SrvListElem} :
    y ∈ srvListInsert srvList x ↔ y = x ∨ y ∈ srvList :=
  mem_insertBefore

/-- A range handed to `p_nv_save_callback` is in `hdl_list_info` after the call, whether the
service is started or refused. -/
theorem gattsAddService_nvSave_mem {g g' : GattServer} {gattIf : Nat} {pReg : Option Uuid}
    {service : DbElement} {rest : List DbElement} {st : GattStatus} {r : HndlRange}
    (hsave : gattsAddServiceNvSave g pReg service rest = some r)
    (h : gattsAddService g gattIf pReg service rest = some (st, g')) :
    ∃ x ∈ g'.hdlListInfo, x.asgnRange = r := by
  unfold gattsAddServiceNvSave at hsave
  unfold gattsAddService at h
  rcases pReg with _ | appUuid128
  · cases hsave
  · dsimp only at hsave h
    split at hsave
    · cases hsave
    · rename_i hsize
      rw [if_neg hsize] at h
      split at hsave
      · cases hsave
      · simp only [Option.some.injEq] at hsave
        simp only [Option.bind_eq_bind, Option.bind_eq_some_iff] at h
        obtain ⟨db₀, -, ⟨db, complete⟩, -, h⟩ := h
        -- either way the reserved entry is the one `gatt_add_an_item_to_list` put in
        refine ⟨⟨r, db⟩, ?_, rfl⟩
        cases complete
        · simp only [Option.pure_def, Option.some.injEq, Prod.mk.injEq, Bool.false_eq_true,
            if_false] at h
          rw [← h.2, ← hsave]
          exact mem_gattAddAnItemToList.2 (.inl rfl)
        · simp only [Option.pure_def, Option.some.injEq, Prod.mk.injEq, if_true] at h
          rw [← h.2, ← hsave]
          exact mem_gattAddAnItemToList.2 (.inl rfl)

theorem le_appStartHdl (hdlList : List HdlListElem) : gattAppStartHandle ≤ appStartHdl hdlList := by
  unfold appStartHdl
  dsimp only
  split_ifs with h
  · exact Nat.le_refl _
  · omega

theorem serviceStartHdl_lt (hdlList : List HdlListElem) (u : Uuid) :
    serviceStartHdl hdlList u < 65536 := by
  unfold serviceStartHdl
  cases hf : fixedStartHdl u with
  | none =>
    simp only [Option.getD_none, appStartHdl]
    cases hdlList <;> dsimp only <;> split
    all_goals unfold gattAppStartHandle at *
    all_goals omega
  | some start =>
    obtain ⟨-, h₁, h₂, -⟩ := fixedStarts_slots start (fixedStartHdl_mem hf)
    simp only [Option.getD_some]
    unfold gattAppStartHandle at h₂
    omega

/-- Every range ends below the start an application service gets: the front range is the highest,
and it ends below `0xFFFF`, so `e_handle + 1` does not wrap. -/
theorem ServerInv.lt_appStartHdl {g : GattServer} (hinv : ServerInv g) :
    ∀ x ∈ g.hdlListInfo, x.asgnRange.eHandle < appStartHdl g.hdlListInfo := by
  have hsorted := hinv.hdl_sorted
  have hbounds := hinv.hdl_bounds
  cases hl : g.hdlListInfo with
  | nil => simp
  | cons front others =>
    rw [hl] at hsorted hbounds
    intro x hx
    have hfront := hbounds front List.mem_cons_self
    have hwrap : (front.asgnRange.eHandle + 1) % 65536 = front.asgnRange.eHandle + 1 :=
      Nat.mod_eq_of_lt (by omega)
    have hge : front.asgnRange.eHandle + 1 ≤ appStartHdl (front :: others) := by
      simp only [appStartHdl, hwrap]
      split
      · unfold gattAppStartHandle at *
        omega
      · omega
    rcases List.mem_cons.1 hx with rfl | hx
    · omega
    · have := (List.pairwise_cons.1 hsorted).1 x hx
      omega

/-- The range `GATTS_AddService` reserves is apart from every range there is: an application
range starts above them all, and a fixed one that fits its slot meets none. -/
theorem ServerInv.apart_new {g : GattServer} {service : DbElement} {rest : List DbElement}
    (hinv : ServerInv g) (hfits : FitsSlot g.hdlListInfo service rest) {x : HdlListElem}
    (hxs : x.asgnRange.sHandle = serviceStartHdl g.hdlListInfo service.uuid)
    (hxe : x.asgnRange.eHandle + 1 ≤ x.asgnRange.sHandle + computeServiceSize (service :: rest)) :
    ∀ y ∈ g.hdlListInfo, Apart (fun z : HdlListElem => z.asgnRange.sHandle)
      (fun z => z.asgnRange.eHandle) x y := by
  intro y hy
  unfold serviceStartHdl at hxs
  cases hf : fixedStartHdl service.uuid with
  | none =>
    -- an application range: after every range there is
    rw [hf, Option.getD_none] at hxs
    have := hinv.lt_appStartHdl y hy
    exact .inr (by simp only; omega)
  | some start =>
    -- a fixed range: within its free slot
    rw [hf, Option.getD_some] at hxs
    obtain ⟨hend, hfree⟩ := hfits start hf
    have hstart := fixedStartHdl_mem hf
    obtain ⟨-, -, hslot, hbelow⟩ := fixedStarts_slots start hstart
    have hne := hfree y hy
    rcases hinv.hdl_slot y hy with happ | ⟨hy₁, hy₂⟩
    · exact .inl (by simp only; omega)
    · obtain ⟨-, -, -, hbelow'⟩ := fixedStarts_slots _ hy₁
      rcases Nat.lt_or_gt_of_ne hne with hlt | hgt
      · have := hbelow' start hstart hlt
        exact .inr (by simp only; omega)
      · have := hbelow _ hy₁ hgt
        exact .inl (by simp only; omega)

/-- The range `GATTS_AddService` reserves is in its slot. -/
theorem inSlot_new {g : GattServer} {service : DbElement} {rest : List DbElement}
    (hfits : FitsSlot g.hdlListInfo service rest) {x : HdlListElem}
    (hxs : x.asgnRange.sHandle = serviceStartHdl g.hdlListInfo service.uuid)
    (hxe : x.asgnRange.eHandle + 1 ≤ x.asgnRange.sHandle + computeServiceSize (service :: rest)) :
    InSlot x.asgnRange := by
  unfold serviceStartHdl at hxs
  cases hf : fixedStartHdl service.uuid with
  | none =>
    rw [hf, Option.getD_none] at hxs
    exact .inl (hxs ▸ le_appStartHdl _)
  | some start =>
    rw [hf, Option.getD_some] at hxs
    have := (hfits start hf).1
    refine .inr ⟨hxs ▸ fixedStartHdl_mem hf, ?_⟩
    rw [hxs] at hxe ⊢
    omega

theorem one_le_serviceStartHdl (hdlList : List HdlListElem) (u : Uuid) :
    1 ≤ serviceStartHdl hdlList u := by
  unfold serviceStartHdl
  cases hf : fixedStartHdl u with
  | none =>
    have := le_appStartHdl hdlList
    simp only [Option.getD_none]
    unfold gattAppStartHandle at this
    omega
  | some start => exact (fixedStarts_slots start (fixedStartHdl_mem hf)).1

/-- `GATTS_AddService` keeps the handle-space invariant when a fixed service fits its slot. -/
theorem ServerInv.addService {g g' : GattServer} {gattIf : Nat} {pReg : Option Uuid}
    {service : DbElement} {rest : List DbElement} {st : GattStatus} (hinv : ServerInv g)
    (hfits : FitsSlot g.hdlListInfo service rest)
    (h : gattsAddService g gattIf pReg service rest = some (st, g')) : ServerInv g' := by
  rcases gattsAddService_cases h with rfl | ⟨app, db₀, db, complete, hdl, hinit, hsize, hadd, hg'⟩
  · exact hinv
  obtain ⟨hb₀, he₀, hlt₀⟩ := gattsInitServiceDb_building hinit
  obtain ⟨hb, he⟩ := hb₀.addElements hadd
  have hs := serviceStartHdl_lt g.hdlListInfo service.uuid
  have hs₁ := one_le_serviceStartHdl g.hdlListInfo service.uuid
  generalize hsdef : serviceStartHdl g.hdlListInfo service.uuid = s at *
  have hn : computeServiceSize (service :: rest) % 65536 ≤ computeServiceSize (service :: rest) :=
    Nat.mod_le _ _
  generalize computeServiceSize (service :: rest) % 65536 = n at *
  -- the reserved handles stop short of `0x10000`, so the range is `[s, s + n - 1]`
  have hsn : s + n < 65536 := by omega
  generalize hx : (⟨⟨app, service.uuid, s, (s + n - 1) % 65536, service.type == .primaryService⟩,
    db⟩ : HdlListElem) = x at hg'
  have hxs : x.asgnRange.sHandle = s := by rw [← hx]
  have hxe : x.asgnRange.eHandle = s + n - 1 := by rw [← hx]; exact Nat.mod_eq_of_lt (by omega)
  have hlayout : DbLayout x.asgnRange x.svcDb := by
    rw [← hx]
    exact hb.layout (by simp only; rw [he, he₀, Nat.mod_eq_of_lt hsn, Nat.mod_eq_of_lt (by omega)]; omega)
  have hapart := hinv.apart_new hfits (x := x) (by rw [hxs, hsdef]) (by omega)
  have hslot := inSlot_new hfits (x := x) (by rw [hxs, hsdef]) (by omega)
  have hhdl : ∀ y ∈ gattAddAnItemToList g.hdlListInfo x,
      1 ≤ y.asgnRange.sHandle ∧ y.asgnRange.sHandle ≤ y.asgnRange.eHandle ∧
        y.asgnRange.eHandle < 0xFFFF := by
    intro y hy
    rcases mem_gattAddAnItemToList.1 hy with rfl | hy
    · omega
    · exact hinv.hdl_bounds y hy
  have hsorted : (gattAddAnItemToList g.hdlListInfo x).Pairwise
      fun a b => b.asgnRange.eHandle < a.asgnRange.sHandle :=
    pairwise_insertBefore_desc _ _ hinv.hdl_sorted
      (fun y hy => (hinv.hdl_bounds y hy).2.1) (by omega) hapart
  have hslots : ∀ y ∈ gattAddAnItemToList g.hdlListInfo x, InSlot y.asgnRange := by
    intro y hy
    rcases mem_gattAddAnItemToList.1 hy with rfl | hy
    · exact hslot
    · exact hinv.hdl_slot y hy
  have hlayouts : ∀ y ∈ gattAddAnItemToList g.hdlListInfo x, DbLayout y.asgnRange y.svcDb := by
    intro y hy
    rcases mem_gattAddAnItemToList.1 hy with rfl | hy
    · exact hlayout
    · exact hinv.layout y hy
  cases complete
  · -- refused: the range stays reserved, the service is not started
    simp only [Bool.false_eq_true, if_false] at hg'
    subst hg'
    refine ⟨hsorted, hhdl, hslots, hlayouts, hinv.srv_sorted, ?_, hinv.last⟩
    intro el hel
    obtain ⟨y, hy, gi, rfl⟩ := hinv.srv_started el hel
    exact ⟨y, mem_gattAddAnItemToList.2 (.inr hy), gi, rfl⟩
  · -- started: the service goes into `srv_list_info` in order
    simp only [if_true] at hg'
    subst hg'
    have hsrv : ∀ el ∈ g.srvListInfo, el.sHdl ≤ el.eHdl := by
      intro el hel
      obtain ⟨y, hy, gi, rfl⟩ := hinv.srv_started el hel
      exact (hinv.hdl_bounds y hy).2.1
    refine ⟨hsorted, hhdl, hslots, hlayouts, ?_, ?_, rfl⟩
    · apply pairwise_insertBefore_asc _ _ hinv.srv_sorted hsrv
      · simp only [srvElemOf]
        omega
      · intro el hel
        obtain ⟨y, hy, gi, rfl⟩ := hinv.srv_started el hel
        exact hapart y hy
    · intro el hel
      rcases mem_srvListInsert.1 hel with rfl | hel
      · exact ⟨x, mem_gattAddAnItemToList.2 (.inl rfl), gattIf, rfl⟩
      · obtain ⟨y, hy, gi, rfl⟩ := hinv.srv_started el hel
        exact ⟨y, mem_gattAddAnItemToList.2 (.inr hy), gi, rfl⟩

/-! ## `GATTS_DeleteService` keeps the invariant -/

@[simp] theorem gattsStopService_hdlListInfo (g : GattServer) (handle : Nat) :
    (gattsStopService g handle).hdlListInfo = g.hdlListInfo := by
  unfold gattsStopService
  split <;> rfl

theorem gattsStopService_sublist (g : GattServer) (handle : Nat) :
    List.Sublist (gattsStopService g handle).srvListInfo g.srvListInfo := by
  unfold gattsStopService
  split
  · exact List.Sublist.refl _
  · exact List.eraseIdx_sublist _ _

theorem gattsStopService_last {g : GattServer} (hlast : g.lastServiceHandle =
    gattUpdateLastSrvInfo g.srvListInfo) (handle : Nat) :
    (gattsStopService g handle).lastServiceHandle =
      gattUpdateLastSrvInfo (gattsStopService g handle).srvListInfo := by
  unfold gattsStopService
  split
  · exact hlast
  · rfl

/-- After `GATTS_StopService` no started service holds the handle, when the started services are
disjoint: the one it found is the only one that held it. -/
theorem gattsStopService_not_holds {g : GattServer}
    (hsorted : g.srvListInfo.Pairwise fun a b => a.eHdl < b.sHdl) (handle : Nat) :
    ∀ el ∈ (gattsStopService g handle).srvListInfo, ¬ (el.sHdl ≤ handle ∧ handle ≤ el.eHdl) := by
  intro el hel hholds
  unfold gattsStopService at hel
  split at hel
  · -- nothing held the handle
    rename_i hnone
    have := List.findIdx?_eq_none_iff.1 hnone el hel
    simp [hholds.1, hholds.2] at this
  · -- the service found at `j` held it; `el` is another one
    rename_i j hj
    obtain ⟨hjlen, hpj, -⟩ := List.findIdx?_eq_some_iff_getElem.1 hj
    simp only [Bool.and_eq_true, decide_eq_true_eq] at hpj
    obtain ⟨k, hk, hkj, rfl⟩ := List.mem_eraseIdx_iff_getElem.1 hel
    have hpw := List.pairwise_iff_getElem.1 hsorted
    rcases Nat.lt_or_gt_of_ne hkj with hlt | hgt
    · have := hpw k j hk hjlen hlt
      omega
    · have := hpw j k hjlen hk hgt
      omega

/-- The service UUID of a laid-out database is the one its range records. -/
theorem DbLayout.serviceUuid {r : HndlRange} {db : SvcDb} (hl : DbLayout r db) :
    gattsGetServiceUuid db = some r.svcUuid := by
  obtain ⟨a, rest, hdb, hval⟩ := hl.head
  simp [gattsGetServiceUuid, hdb, hval]

/-- `GATTS_DeleteService` keeps the handle-space invariant: the range goes, and with it the
started service made from it, which `is_active_service` finds. -/
theorem ServerInv.deleteService {g : GattServer} (hinv : ServerInv g) (pReg : Option Uuid)
    (svcUuid : Uuid) (svcInst : Nat) : ServerInv (gattsDeleteService g pReg svcUuid svcInst).2 := by
  unfold gattsDeleteService
  rcases pReg with _ | appUuid128
  · exact hinv
  dsimp only
  split
  · exact hinv
  rename_i i hi
  obtain ⟨hilen, hpi, -⟩ := List.findIdx?_eq_some_iff_getElem.1 hi
  simp only [Bool.and_eq_true, beq_iff_eq] at hpi
  obtain ⟨⟨happ, hsvc⟩, hinst⟩ := hpi
  have hget : g.hdlListInfo.getD i ⟨⟨appUuid128, svcUuid, 0, 0, false⟩, ⟨[], 0, 0⟩⟩ =
      g.hdlListInfo[i] := by
    rw [List.getD_eq_getElem?_getD, List.getElem?_eq_getElem hilen, Option.getD_some]
  rw [hget]
  -- the state once the service is stopped, if it was started
  generalize hg₁ : (if isActiveService g.srvListInfo appUuid128 svcUuid svcInst = true then
    gattsStopService g g.hdlListInfo[i].asgnRange.sHandle else g) = g₁
  have hhdl₁ : g₁.hdlListInfo = g.hdlListInfo := by
    rw [← hg₁]
    split <;> simp
  have hsub : List.Sublist g₁.srvListInfo g.srvListInfo := by
    rw [← hg₁]
    split
    · exact gattsStopService_sublist _ _
    · exact List.Sublist.refl _
  have hlast₁ : g₁.lastServiceHandle = gattUpdateLastSrvInfo g₁.srvListInfo := by
    rw [← hg₁]
    split
    · exact gattsStopService_last hinv.last _
    · exact hinv.last
  -- no started service is left from the range that goes
  have hgone : ∀ el ∈ g₁.srvListInfo, ∀ gi, el ≠ srvElemOf g.hdlListInfo[i] gi := by
    intro el hel gi hel'
    subst hel'
    have hbounds := hinv.hdl_bounds _ (List.getElem_mem hilen)
    by_cases hact : isActiveService g.srvListInfo appUuid128 svcUuid svcInst = true
    · -- it was started, so `GATTS_StopService` took it out
      rw [if_pos hact] at hg₁
      subst hg₁
      apply gattsStopService_not_holds hinv.srv_sorted _ _ hel
      simp only [srvElemOf]
      omega
    · -- a started service made from the range is what `is_active_service` looks for
      apply hact
      simp only [isActiveService, List.any_eq_true, Bool.and_eq_true, beq_iff_eq]
      refine ⟨_, hsub.subset hel, ⟨?_, happ⟩, hinst⟩
      rw [hsvc]
      exact (hinv.layout _ (List.getElem_mem hilen)).serviceUuid
  refine ⟨?_, ?_, ?_, ?_, hinv.srv_sorted.sublist hsub, ?_, hlast₁⟩
  · rw [hhdl₁]
    exact hinv.hdl_sorted.eraseIdx i
  · rw [hhdl₁]
    exact fun y hy => hinv.hdl_bounds y (List.mem_of_mem_eraseIdx hy)
  · rw [hhdl₁]
    exact fun y hy => hinv.hdl_slot y (List.mem_of_mem_eraseIdx hy)
  · rw [hhdl₁]
    exact fun y hy => hinv.layout y (List.mem_of_mem_eraseIdx hy)
  · intro el hel
    obtain ⟨y, hy, gi, rfl⟩ := hinv.srv_started el (hsub.subset hel)
    obtain ⟨k, hk, rfl⟩ := List.mem_iff_getElem.1 hy
    by_cases hki : k = i
    · subst hki
      exact absurd rfl (hgone _ hel gi)
    · rw [hhdl₁]
      exact ⟨_, List.mem_eraseIdx_iff_getElem.2 ⟨k, hk, hki, rfl⟩, gi, rfl⟩

/-- The server states reachable from the empty database by `GATTS_AddService`, with each fixed
service fitting its slot, and `GATTS_DeleteService`; a call that stops at `LOG(FATAL)` leads
nowhere. -/
inductive Reachable : GattServer → Prop
  | init : Reachable ⟨[], [], 0⟩
  | addService {g g' : GattServer} {gattIf : Nat} {pReg : Option Uuid} {service : DbElement}
      {rest : List DbElement} {st : GattStatus} : Reachable g →
      FitsSlot g.hdlListInfo service rest →
      gattsAddService g gattIf pReg service rest = some (st, g') → Reachable g'
  | deleteService {g : GattServer} (pReg : Option Uuid) (svcUuid : Uuid) (svcInst : Nat) :
      Reachable g → Reachable (gattsDeleteService g pReg svcUuid svcInst).2

/-- By induction over the run, from the step lemmas of the two calls. -/
theorem Reachable.serverInv {g : GattServer} (h : Reachable g) : ServerInv g := by
  induction h with
  | init => exact serverInv_init
  | addService _ hfits hadd ih => exact ih.addService hfits hadd
  | deleteService pReg svcUuid svcInst _ ih => exact ih.deleteService pReg svcUuid svcInst

/-- The handle-space invariant holds in every reachable state. -/
theorem gattServer_handleSpace {g : GattServer} (h : Reachable g) : ServerInv g :=
  h.serverInv

/-! ## Two services and a refused one -/

/-- The GATT service, with the fixed start handle: its declaration, the Service Changed
characteristic (indicate) and that characteristic's Client Characteristic Configuration. -/
def gattServiceElems : DbElement × List DbElement :=
  (⟨Uuid.from16Bit uuidServclassGattServer, .primaryService, 0, 0, 0, 0⟩,
    [⟨Uuid.from16Bit 0x2A05, .characteristic, 0, 0x20, 0, 0⟩,
      ⟨Uuid.from16Bit gattUuidCharClientConfig, .descriptor, 0, 0, 0, 0x11⟩])

/-- A Battery Service of an application: the Battery Level characteristic (read, notify). -/
def batteryServiceElems : DbElement × List DbElement :=
  (⟨Uuid.from16Bit 0x180F, .primaryService, 0, 0, 0, 0⟩,
    [⟨Uuid.from16Bit 0x2A19, .characteristic, 0, 0x12, 0, gattPermRead⟩])

/-- The GATT service added to the empty server. -/
def gattOnlyServer : GattServer :=
  ((gattsAddService ⟨[], [], 0⟩ 1 (some Uuid.kEmpty) gattServiceElems.1
    gattServiceElems.2).getD (.internalError, ⟨[], [], 0⟩)).2

/-- Then the Battery Service of an application. -/
def gattAndBatteryServer : GattServer :=
  ((gattsAddService gattOnlyServer 2 (some Uuid.kEmpty) batteryServiceElems.1
    batteryServiceElems.2).getD (.internalError, ⟨[], [], 0⟩)).2

/-- Both are added the way `Reachable` allows: the GATT service fits its slot. -/
theorem gattAndBatteryServer_reachable : Reachable gattAndBatteryServer :=
  .addService (.addService .init
    (by
      intro start hstart
      rw [show fixedStartHdl gattServiceElems.1.uuid = some gattGattStartHandle by decide] at hstart
      cases hstart
      exact ⟨by decide, by simp⟩)
    (show gattsAddService ⟨[], [], 0⟩ 1 (some Uuid.kEmpty) gattServiceElems.1 gattServiceElems.2 =
      some (.serviceStarted, gattOnlyServer) by decide))
    (fitsSlot_of_fixedStartHdl_none (by decide))
    (show gattsAddService gattOnlyServer 2 (some Uuid.kEmpty) batteryServiceElems.1
      batteryServiceElems.2 = some (.serviceStarted, gattAndBatteryServer) by decide)

theorem gattServer_handleSpace_gattAndBattery : ServerInv gattAndBatteryServer :=
  gattServer_handleSpace gattAndBatteryServer_reachable

/-- A characteristic with the authenticated-signed-writes property but no signed write
permission, which `GATTS_AddService` refuses. -/
def signedWriteCharElems : DbElement × List DbElement :=
  (⟨Uuid.from16Bit 0x180F, .primaryService, 0, 0, 0, 0⟩,
    [⟨Uuid.from16Bit 0x2A19, .characteristic, 0, gattCharPropBitAuth, 0, gattPermRead⟩])

/-- The refused service from the empty server: `GATTS_AddService` returns `GATT_INTERNAL_ERROR` with
`hdl_list_info` no longer empty, after it handed the range `[134, 136]` to
`p_nv_save_callback`; `srv_list_info` and `last_service_handle` are untouched. -/
theorem gattsAddService_refusal_not_atomic :
    ∃ g', gattsAddService ⟨[], [], 0⟩ 1 (some Uuid.kEmpty) signedWriteCharElems.1
        signedWriteCharElems.2 = some (.internalError, g') ∧
      g'.hdlListInfo.map (fun x => (x.asgnRange.sHandle, x.asgnRange.eHandle)) = [(134, 136)] ∧
      g'.srvListInfo = [] ∧ g'.lastServiceHandle = 0 ∧
      (gattsAddServiceNvSave ⟨[], [], 0⟩ (some Uuid.kEmpty) signedWriteCharElems.1
        signedWriteCharElems.2).map (fun r => (r.sHandle, r.eHandle)) = some (134, 136) :=
  ⟨_, rfl, by decide, rfl, rfl, by decide⟩

/-- What a refused `GATTS_AddService` leaves of the range it handed to `p_nv_save_callback`:
the range stays in `hdl_list_info`, and `srv_list_info` is as it was. -/
theorem gattsAddService_refused_keeps_range {g g' : GattServer} {gattIf : Nat}
    {pReg : Option Uuid} {service : DbElement} {rest : List DbElement} {st : GattStatus}
    {r : HndlRange} (hsave : gattsAddServiceNvSave g pReg service rest = some r)
    (h : gattsAddService g gattIf pReg service rest = some (st, g'))
    (hst : st ≠ .serviceStarted) :
    (∃ x ∈ g'.hdlListInfo, x.asgnRange = r) ∧ g'.srvListInfo = g.srvListInfo :=
  ⟨gattsAddService_nvSave_mem hsave h, (gattsAddService_error h hst).1⟩

/-- The empty server after the refused service. -/
def refusedServer : GattServer :=
  ((gattsAddService ⟨[], [], 0⟩ 1 (some Uuid.kEmpty) signedWriteCharElems.1
    signedWriteCharElems.2).getD (.internalError, ⟨[], [], 0⟩)).2

/-- A refused `GATTS_AddService` keeps the range it reserved: in general, a range handed to
`p_nv_save_callback` stays in `hdl_list_info` with `srv_list_info` untouched; from the empty
server, the refused service returns `GATT_INTERNAL_ERROR` with `[134, 136]` in `hdl_list_info`
and nothing started, and the Battery Service added next starts at 137. -/
theorem gattsAddService_refusal_leaks_range :
    (∀ (g g' : GattServer) (gattIf : Nat) (pReg : Option Uuid) (service : DbElement)
        (rest : List DbElement) (st : GattStatus) (r : HndlRange),
        gattsAddServiceNvSave g pReg service rest = some r →
        gattsAddService g gattIf pReg service rest = some (st, g') → st ≠ .serviceStarted →
        (∃ x ∈ g'.hdlListInfo, x.asgnRange = r) ∧ g'.srvListInfo = g.srvListInfo) ∧
      ∃ g', gattsAddService ⟨[], [], 0⟩ 1 (some Uuid.kEmpty) signedWriteCharElems.1
          signedWriteCharElems.2 = some (.internalError, g') ∧ Reachable g' ∧
        g'.hdlListInfo.map (fun x => (x.asgnRange.sHandle, x.asgnRange.eHandle)) = [(134, 136)] ∧
        g'.srvListInfo = [] ∧
        (gattsAddServiceNvSave ⟨[], [], 0⟩ (some Uuid.kEmpty) signedWriteCharElems.1
          signedWriteCharElems.2).map (fun r => (r.sHandle, r.eHandle)) = some (134, 136) ∧
        ∃ g'', gattsAddService g' 2 (some Uuid.kEmpty) batteryServiceElems.1
            batteryServiceElems.2 = some (.serviceStarted, g'') ∧
          g''.srvListInfo.map (fun s => (s.sHdl, s.eHdl)) = [(137, 139)] := by
  have hrefused : gattsAddService ⟨[], [], 0⟩ 1 (some Uuid.kEmpty) signedWriteCharElems.1
      signedWriteCharElems.2 = some (.internalError, refusedServer) := by
    decide
  -- the refused service has no fixed start handle, so `Reachable` takes it
  have hreach : Reachable refusedServer :=
    .addService .init (fitsSlot_of_fixedStartHdl_none (by decide)) hrefused
  refine ⟨fun _ _ _ _ _ _ _ _ hsave h hst => gattsAddService_refused_keeps_range hsave h hst,
    refusedServer, hrefused, hreach, by decide, by decide, by decide, ?_⟩
  refine ⟨_, show gattsAddService refusedServer 2 (some Uuid.kEmpty) batteryServiceElems.1
    batteryServiceElems.2 = some (.serviceStarted, ((gattsAddService refusedServer 2
      (some Uuid.kEmpty) batteryServiceElems.1 batteryServiceElems.2).getD
        (.internalError, ⟨[], [], 0⟩)).2) by decide, ?_⟩
  decide

end BluetoothStack.Gatt
