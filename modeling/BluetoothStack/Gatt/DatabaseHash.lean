import BluetoothStack.Gatt.Discovery
import BluetoothStack.CryptoToolbox.AesCmac

/-!
# The database hash of the GATT server

`gatts_calculate_database_hash` (stack/gatt/gatt_sr_hash.cc) sizes a buffer with
`calculate_database_info_size`, fills it with `fill_database_info`, reverses it and hands it to
`aes_cmac` with the zero key. Both passes walk the attributes of the started services the same way:
each attribute by the branch its type selects, and a characteristic declaration together with the
attribute after it, which `++attr_it` reads for the characteristic's UUID (`hashWalk`). The size
of an item and the bytes of an item are then the two per-item functions of the walk
(`hashItemSize`, `hashItemBytes`).

The Core specification (Vol 3 Part G 7.3.1) hashes, in ascending handle order, the handle, type
and value of every service, include and characteristic declaration and Extended Properties
descriptor, and the handle and type of five other descriptors (`coreHashInput`).

The two passes agree item by item except on an empty UUID, whose sixteen bytes the size pass
counts and `gatt_build_uuid_to_stream` does not write (`calculateDatabaseInfoSize_eq`). On a server
that keeps the handle-space invariant and whose services are clean (`HashClean`: no empty UUID to
stream, included services with 16-bit UUIDs) the fill pass writes exactly the Core hash input
(`fillDatabaseInfo_eq_coreHashInput`), and up to 4064 bytes the hash is its CMAC
(`gattsCalculateDatabaseHash_eq_core`); past them `aes_cmac` reads beyond its buffer
(`gattsCalculateDatabaseHash_overrun`). `databaseHash_diverges` gives a started database for each
of the three ways the stack parts from the specification.
-/

namespace BluetoothStack.Gatt

open Bytes Cmac CryptoToolbox

/-- `GATT_UUID_CHAR_DESCRIPTION`. -/
def gattUuidCharDescription : Nat := 0x2901

/-- `GATT_UUID_CHAR_AGG_FORMAT`. -/
def gattUuidCharAggFormat : Nat := 0x2905

/-- The descriptors whose handle and type both passes take. -/
def hashDescriptors : List Nat :=
  [gattUuidCharDescription, gattUuidCharClientConfig, gattUuidCharSrvrConfig,
    gattUuidCharPresentFormat, gattUuidCharAggFormat]

/-- The branch of the loops of `gatt_sr_hash.cc` an attribute takes, by its type. -/
inductive HashKind where
  | service
  | included
  | charDecl
  | descriptor
  | extProp
  | other
deriving DecidableEq, Repr

/-- The tests both loops make on `attr_it->uuid`, in their order. -/
def hashKind (u : Uuid) : HashKind :=
  if u = Uuid.from16Bit gattUuidPriService ∨ u = Uuid.from16Bit gattUuidSecService then .service
  else if u = Uuid.from16Bit gattUuidIncludeService then .included
  else if u = Uuid.from16Bit gattUuidCharDeclare then .charDecl
  else if u ∈ hashDescriptors.map Uuid.from16Bit then .descriptor
  else if u = Uuid.from16Bit gattUuidCharExtProp then .extProp
  else .other

/-- `p_value->incl_handle`. -/
def AttrValue.inclHandleFields : AttrValue → Nat × Nat × Uuid
  | .inclHandle s e t => (s, e, t)
  | _ => (0, 0, Uuid.kEmpty)

/-- `p_value->char_decl`. -/
def AttrValue.charDeclFields : AttrValue → Nat × Nat
  | .charDecl p h => (p, h)
  | _ => (0, 0)

/-- `p_value ? p_value->char_ext_prop : 0x0000`. -/
def AttrValue.charExtPropOrZero : AttrValue → Nat
  | .charExtProp v => v
  | _ => 0

/-- The bytes `gatt_build_uuid_to_stream` writes and moves `p_dst` past: none for the empty
UUID, which it returns on at once. -/
def gattBuildUuidToStreamBytes (u : Uuid) : List UInt8 :=
  if u.isEmpty then [] else gattBuildUuidToStream u

/-! ## The two passes -/

/-- The walk both loops make over the attributes of one service: each attribute, and a
characteristic declaration together with the attribute `++attr_it` moves to, which the loop's own
`attr_it++` then steps over; `none` where a declaration is the last attribute and `++attr_it`
reaches the end. -/
def hashWalk : List GattAttr → Option (List (GattAttr × Option GattAttr))
  | [] => some []
  | a :: rest =>
    if hashKind a.uuid = .charDecl then
      match rest with
      | [] => none
      | v :: rest' => ((a, some v) :: ·) <$> hashWalk rest'
    else ((a, none) :: ·) <$> hashWalk rest

/-- What `calculate_database_info_size` adds for one item of the walk. -/
def hashItemSize : GattAttr × Option GattAttr → Nat
  | (a, next) =>
    match hashKind a.uuid with
    | .service => 4 + gattBuildUuidToStreamLen a.pValue.serviceUuid
    | .included => 8 + gattBuildUuidToStreamLen a.pValue.inclHandleFields.2.2
    | .charDecl => 7 + gattBuildUuidToStreamLen ((next.map GattAttr.uuid).getD Uuid.kEmpty)
    | .descriptor => 4
    | .extProp => 6
    | .other => 0

/-- What `fill_database_info` writes for one item of the walk; a service declaration's type is
written from the service's `is_primary`. -/
def hashItemBytes (isPrimary : Bool) : GattAttr × Option GattAttr → List UInt8
  | (a, next) =>
    match hashKind a.uuid with
    | .service =>
      leBytes 2 a.handle ++
        leBytes 2 (if isPrimary then gattUuidPriService else gattUuidSecService) ++
        gattBuildUuidToStreamBytes a.pValue.serviceUuid
    | .included =>
      leBytes 2 a.handle ++ leBytes 2 gattUuidIncludeService ++
        leBytes 2 a.pValue.inclHandleFields.1 ++ leBytes 2 a.pValue.inclHandleFields.2.1 ++
        gattBuildUuidToStreamBytes a.pValue.inclHandleFields.2.2
    | .charDecl =>
      leBytes 2 a.handle ++ leBytes 2 gattUuidCharDeclare ++
        leBytes 1 a.pValue.charDeclFields.1 ++ leBytes 2 a.pValue.charDeclFields.2 ++
        gattBuildUuidToStreamBytes ((next.map GattAttr.uuid).getD Uuid.kEmpty)
    | .descriptor => leBytes 2 a.handle ++ leBytes 2 a.uuid.as16Bit
    | .extProp =>
      leBytes 2 a.handle ++ leBytes 2 a.uuid.as16Bit ++ leBytes 2 a.pValue.charExtPropOrZero
    | .other => []

/-- `calculate_database_info_size(srv_list_info)`. -/
def calculateDatabaseInfoSize (srvList : List SrvListElem) : Option Nat :=
  srvList.foldr (fun el acc => do
    let items ← hashWalk el.pDb.attrList
    let rest ← acc
    pure ((items.map hashItemSize).sum + rest)) (some 0)

/-- `fill_database_info(srv_list_info, p_data)`: the bytes it writes from `p_data` on. -/
def fillDatabaseInfo (srvList : List SrvListElem) : Option (List UInt8) :=
  srvList.foldr (fun el acc => do
    let items ← hashWalk el.pDb.attrList
    let rest ← acc
    pure (items.flatMap (hashItemBytes el.isPrimary) ++ rest)) (some [])

/-- `gatts_calculate_database_hash(srv_list_info)`: `none` where the fill pass writes past the
`len` bytes of `serialized` or `aes_cmac` leaves its buffer. `serialized` starts zeroed, and
`aes_cmac` takes its size as a `uint16_t`. -/
def gattsCalculateDatabaseHash (E : Block → Block → Block) (srvList : List SrvListElem) :
    Option Octet16 := do
  let len ← calculateDatabaseInfoSize srvList
  let written ← fillDatabaseInfo srvList
  if len < written.length then none
  else
    let serialized := (written ++ List.replicate (len - written.length) 0).reverse
    aesCmac E (Vector.replicate 16 0) serialized serialized.length.toUInt16

/-! ## The Core specification -/

/-- A UUID in the value of a declaration: two bytes for a 16-bit UUID, sixteen for any other. -/
def declUuidBytes (u : Uuid) : List UInt8 :=
  if u.is16Bit then leBytes 2 u.as16Bit else u.to128BitLE

/-- The share of one attribute in the Core hash input, `attrs` the whole database: handle, type
and value of the declarations and of the Extended Properties descriptor, handle and type of the
five descriptors, nothing of any other attribute. A characteristic declaration's value holds the
UUID of the attribute it names; an include declaration's holds the included service's UUID only
when it is 16-bit. -/
def coreHashFields (attrs : List GattAttr) (a : GattAttr) : List UInt8 :=
  let header := leBytes 2 a.handle ++ leBytes 2 a.uuid.as16Bit
  if a.uuid = Uuid.from16Bit gattUuidPriService ∨ a.uuid = Uuid.from16Bit gattUuidSecService then
    header ++ declUuidBytes a.pValue.serviceUuid
  else if a.uuid = Uuid.from16Bit gattUuidIncludeService then
    let (s, e, t) := a.pValue.inclHandleFields
    header ++ leBytes 2 s ++ leBytes 2 e ++ (if t.is16Bit then leBytes 2 t.as16Bit else [])
  else if a.uuid = Uuid.from16Bit gattUuidCharDeclare then
    let (p, h) := a.pValue.charDeclFields
    header ++ leBytes 1 p ++ leBytes 2 h ++
      declUuidBytes (((attrs.find? fun b => b.handle = h).map GattAttr.uuid).getD Uuid.kEmpty)
  else if a.uuid ∈ hashDescriptors.map Uuid.from16Bit then header
  else if a.uuid = Uuid.from16Bit gattUuidCharExtProp then
    header ++ leBytes 2 a.pValue.charExtPropOrZero
  else []

/-- The Core hash input of a database: the shares of its attributes in ascending handle order. -/
def coreHashInput (attrs : List GattAttr) : List UInt8 :=
  (attrs.mergeSort fun a b => decide (a.handle ≤ b.handle)).flatMap (coreHashFields attrs)

/-- The attributes of the started services: the database the hash is of. -/
def startedAttrs (srvList : List SrvListElem) : List GattAttr :=
  srvList.flatMap fun el => el.pDb.attrList

/-! ## The size pass against the fill pass -/

/-- The shortest size of a UUID is 2, 4 or 16. -/
theorem getShortestRepresentationSize_cases (u : Uuid) :
    u.getShortestRepresentationSize = Uuid.kNumBytes16 ∨
      u.getShortestRepresentationSize = Uuid.kNumBytes32 ∨
      u.getShortestRepresentationSize = Uuid.kNumBytes128 := by
  unfold Uuid.getShortestRepresentationSize
  split_ifs <;> simp

/-- `gatt_build_uuid_to_stream` writes the bytes `gatt_build_uuid_to_stream_len` counts, except
for the empty UUID: its sixteen bytes are counted and not written. -/
theorem length_gattBuildUuidToStreamBytes (u : Uuid) :
    (gattBuildUuidToStreamBytes u).length + (if u.isEmpty then 16 else 0) =
      gattBuildUuidToStreamLen u := by
  unfold gattBuildUuidToStreamBytes gattBuildUuidToStreamLen
  by_cases he : u.isEmpty
  · have hu : u = Uuid.kEmpty := by simpa [Uuid.isEmpty] using he
    subst hu
    decide
  · rw [if_neg he, if_neg he, Nat.add_zero, gattBuildUuidToStream]
    rcases getShortestRepresentationSize_cases u with h | h | h <;>
      simp [h, Uuid.to128BitLE, Uuid.kNumBytes16, Uuid.kNumBytes32, Uuid.kNumBytes128]

/-- The UUID an item of the walk hands to `gatt_build_uuid_to_stream`, if any. -/
def hashItemUuid : GattAttr × Option GattAttr → Option Uuid
  | (a, next) =>
    match hashKind a.uuid with
    | .service => some a.pValue.serviceUuid
    | .included => some a.pValue.inclHandleFields.2.2
    | .charDecl => some ((next.map GattAttr.uuid).getD Uuid.kEmpty)
    | _ => none

/-- The bytes the size pass counts for an item and the fill pass does not write: the sixteen of
an empty UUID. -/
def hashItemShortfall (i : GattAttr × Option GattAttr) : Nat :=
  match hashItemUuid i with
  | some u => if u.isEmpty then 16 else 0
  | none => 0

/-- Item by item, the size pass counts what the fill pass writes and the shortfall. -/
theorem hashItemSize_eq (isPrimary : Bool) (i : GattAttr × Option GattAttr) :
    hashItemSize i = (hashItemBytes isPrimary i).length + hashItemShortfall i := by
  obtain ⟨a, next⟩ := i
  simp only [hashItemSize, hashItemBytes, hashItemShortfall, hashItemUuid]
  cases hashKind a.uuid <;>
    simp only [List.length_append, length_leBytes, List.length_nil, ←
      length_gattBuildUuidToStreamBytes] <;> omega

/-- Over a walk the size pass counts what the fill pass writes and the shortfalls. By induction
on the items. -/
theorem sum_hashItemSize (isPrimary : Bool) (items : List (GattAttr × Option GattAttr)) :
    (items.map hashItemSize).sum =
      (items.flatMap (hashItemBytes isPrimary)).length + (items.map hashItemShortfall).sum := by
  induction items with
  | nil => rfl
  | cons i items ih =>
    rw [List.map_cons, List.sum_cons, List.flatMap_cons, List.length_append, List.map_cons,
      List.sum_cons, ih, hashItemSize_eq isPrimary i]
    omega

/-- The bytes the size pass counts and the fill pass does not write, over the started services. -/
def hashShortfall (srvList : List SrvListElem) : Nat :=
  srvList.foldr (fun el acc =>
    (((hashWalk el.pDb.attrList).getD []).map hashItemShortfall).sum + acc) 0

theorem hashShortfall_cons (el : SrvListElem) (srvList : List SrvListElem) :
    hashShortfall (el :: srvList) =
      (((hashWalk el.pDb.attrList).getD []).map hashItemShortfall).sum + hashShortfall srvList :=
  rfl

theorem calculateDatabaseInfoSize_cons (el : SrvListElem) (srvList : List SrvListElem) :
    calculateDatabaseInfoSize (el :: srvList) =
      (hashWalk el.pDb.attrList).bind fun items => (calculateDatabaseInfoSize srvList).bind
        fun rest => some ((items.map hashItemSize).sum + rest) :=
  rfl

theorem fillDatabaseInfo_cons (el : SrvListElem) (srvList : List SrvListElem) :
    fillDatabaseInfo (el :: srvList) =
      (hashWalk el.pDb.attrList).bind fun items => (fillDatabaseInfo srvList).bind
        fun rest => some (items.flatMap (hashItemBytes el.isPrimary) ++ rest) :=
  rfl

/-- The size pass counts what the fill pass writes and the shortfall; the two fail together, on a
characteristic declaration that ends a service. By induction on the services. -/
theorem calculateDatabaseInfoSize_eq (srvList : List SrvListElem) :
    calculateDatabaseInfoSize srvList =
      (fillDatabaseInfo srvList).map fun w => w.length + hashShortfall srvList := by
  induction srvList with
  | nil => rfl
  | cons el srvList ih =>
    rw [calculateDatabaseInfoSize_cons, fillDatabaseInfo_cons, ih, hashShortfall_cons]
    cases hwalk : hashWalk el.pDb.attrList with
    | none => rfl
    | some items =>
      cases fillDatabaseInfo srvList with
      | none => rfl
      | some rest =>
        simp only [Option.bind_some, Option.map_some, Option.getD_some, List.length_append,
          sum_hashItemSize el.isPrimary items, Option.some.injEq]
        omega

/-- Up to 4064 bytes, the hash is the CMAC under the zero key of what the fill pass writes,
followed by the zeroes of the shortfall: `serialized` is reversed for `aes_cmac`, which reverses it
back. -/
theorem gattsCalculateDatabaseHash_eq (E : Block → Block → Block) {srvList : List SrvListElem}
    {w : List UInt8} (hfill : fillDatabaseInfo srvList = some w)
    (hlen : w.length + hashShortfall srvList ≤ 4064) :
    gattsCalculateDatabaseHash E srvList =
      some (cmac E zero (w ++ List.replicate (hashShortfall srvList) 0)).reverse := by
  have hsize := calculateDatabaseInfoSize_eq srvList
  rw [hfill, Option.map_some] at hsize
  set serialized := (w ++ List.replicate (hashShortfall srvList) 0).reverse with hser
  have hslen : serialized.length = w.length + hashShortfall srvList := by
    simp only [hser, List.length_reverse, List.length_append, List.length_replicate]
  have hzero : (Vector.replicate 16 0 : Octet16).reverse = zero := reverse_zero
  have hnat : serialized.length.toUInt16.toNat = serialized.length := by
    simp only [Nat.toUInt16_eq, UInt16.toNat_ofNat']
    omega
  simp only [gattsCalculateDatabaseHash, hsize, hfill, Option.bind_eq_bind, Option.bind_some]
  rw [if_neg (show ¬w.length + hashShortfall srvList < w.length by omega),
    Nat.add_sub_cancel_left, ← hser, aesCmac_eq E _ (by omega) (by omega), hnat,
    List.take_length, hser, List.reverse_reverse, hzero]

/-- Past 4064 bytes, and below the 65536 where the length wraps as a `uint16_t`,
`aes_cmac` reads past `serialized` and the hash is `none`. -/
theorem gattsCalculateDatabaseHash_overrun (E : Block → Block → Block) {srvList : List SrvListElem}
    {w : List UInt8} (hfill : fillDatabaseInfo srvList = some w)
    (hlen : 4064 < (w.length + hashShortfall srvList) % 65536) :
    gattsCalculateDatabaseHash E srvList = none := by
  have hsize := calculateDatabaseInfoSize_eq srvList
  rw [hfill, Option.map_some] at hsize
  simp only [gattsCalculateDatabaseHash, hsize, hfill, Option.bind_eq_bind, Option.bind_some]
  rw [if_neg (show ¬w.length + hashShortfall srvList < w.length by omega)]
  apply aesCmacWith_overrun
  simp only [Nat.toUInt16_eq, UInt16.toNat_ofNat', List.length_reverse, List.length_append,
    List.length_replicate]
  omega

/-! ## The fill pass against the Core hash input -/

theorem as16Bit_from16Bit {n : Nat} (hn : n < 65536) : (Uuid.from16Bit n).as16Bit = n := by
  simp [Uuid.as16Bit, Uuid.from16Bit]
  omega

theorem hashKind_eq_charDecl {u : Uuid} (h : hashKind u = .charDecl) :
    u = Uuid.from16Bit gattUuidCharDeclare := by
  unfold hashKind at h
  split_ifs at h with h₁ h₂ h₃
  exact h₃

/-- The Core share of an attribute, by the branch `hashKind` selects: the type of an include or
characteristic declaration is the one the branch tests for. -/
theorem coreHashFields_eq (attrs : List GattAttr) (a : GattAttr) :
    coreHashFields attrs a =
      match hashKind a.uuid with
      | .service =>
        leBytes 2 a.handle ++ leBytes 2 a.uuid.as16Bit ++ declUuidBytes a.pValue.serviceUuid
      | .included =>
        leBytes 2 a.handle ++ leBytes 2 gattUuidIncludeService ++
          leBytes 2 a.pValue.inclHandleFields.1 ++ leBytes 2 a.pValue.inclHandleFields.2.1 ++
          (if a.pValue.inclHandleFields.2.2.is16Bit then
            leBytes 2 a.pValue.inclHandleFields.2.2.as16Bit else [])
      | .charDecl =>
        leBytes 2 a.handle ++ leBytes 2 gattUuidCharDeclare ++
          leBytes 1 a.pValue.charDeclFields.1 ++ leBytes 2 a.pValue.charDeclFields.2 ++
          declUuidBytes (((attrs.find? fun b => b.handle = a.pValue.charDeclFields.2).map
            GattAttr.uuid).getD Uuid.kEmpty)
      | .descriptor => leBytes 2 a.handle ++ leBytes 2 a.uuid.as16Bit
      | .extProp =>
        leBytes 2 a.handle ++ leBytes 2 a.uuid.as16Bit ++ leBytes 2 a.pValue.charExtPropOrZero
      | .other => [] := by
  unfold coreHashFields hashKind
  -- the two if-chains test the same conditions in the same order
  by_cases hs : a.uuid = Uuid.from16Bit gattUuidPriService ∨
    a.uuid = Uuid.from16Bit gattUuidSecService
  · rw [if_pos hs, if_pos hs]
  rw [if_neg hs, if_neg hs]
  by_cases hi : a.uuid = Uuid.from16Bit gattUuidIncludeService
  · rw [if_pos hi, if_pos hi, hi, as16Bit_from16Bit (by decide)]
  rw [if_neg hi, if_neg hi]
  by_cases hc : a.uuid = Uuid.from16Bit gattUuidCharDeclare
  · rw [if_pos hc, if_pos hc, hc, as16Bit_from16Bit (by decide)]
  rw [if_neg hc, if_neg hc]
  by_cases hd : a.uuid ∈ hashDescriptors.map Uuid.from16Bit
  · rw [if_pos hd, if_pos hd]
  rw [if_neg hd, if_neg hd]
  by_cases he : a.uuid = Uuid.from16Bit gattUuidCharExtProp
  · rw [if_pos he, if_pos he]
  rw [if_neg he, if_neg he]

/-- A UUID other than the empty one goes out as the Core value of a declaration has it. -/
theorem gattBuildUuidToStreamBytes_of_isEmpty_eq_false {u : Uuid} (hu : u.isEmpty = false) :
    gattBuildUuidToStreamBytes u = declUuidBytes u := by
  simp [gattBuildUuidToStreamBytes, hu, gattBuildUuidToStream, declUuidBytes, Uuid.is16Bit]

theorem isEmpty_eq_false_of_is16Bit {u : Uuid} (hu : u.is16Bit = true) : u.isEmpty = false := by
  cases he : u.isEmpty
  · rfl
  · have hk : u = Uuid.kEmpty := by simpa [Uuid.isEmpty] using he
    rw [hk] at hu
    exact absurd hu (by decide)

/-- When an item of the walk hashes as the Core fields of its attributes, `attrs` the whole
database: a service declaration of the type its entry's `is_primary` names, with a UUID; an
included service with a 16-bit UUID; a characteristic declaration paired with the attribute its
handle names in `attrs`, which has a UUID and is none of the hashed types. -/
def ItemMatchesCore (isPrimary : Bool) (attrs : List GattAttr) : GattAttr × Option GattAttr → Prop
  | (a, next) =>
    match hashKind a.uuid with
    | .service =>
      next = none ∧
        a.uuid = Uuid.from16Bit (if isPrimary then gattUuidPriService else gattUuidSecService) ∧
        a.pValue.serviceUuid.isEmpty = false
    | .included => next = none ∧ a.pValue.inclHandleFields.2.2.is16Bit = true
    | .charDecl =>
      ∃ v, next = some v ∧ hashKind v.uuid = .other ∧ v.uuid.isEmpty = false ∧
        (attrs.find? fun b => b.handle = a.pValue.charDeclFields.2) = some v
    | _ => next = none

/-- An item of the walk that matches the Core fields writes them: those of its attribute, and of
the characteristic value it is paired with, which are none. -/
theorem hashItemBytes_eq_core {isPrimary : Bool} {attrs : List GattAttr}
    {i : GattAttr × Option GattAttr} (h : ItemMatchesCore isPrimary attrs i) :
    hashItemBytes isPrimary i = coreHashFields attrs i.1 ++ (i.2.map (coreHashFields attrs)).getD [] := by
  obtain ⟨a, next⟩ := i
  simp only [ItemMatchesCore] at h
  rw [hashItemBytes, coreHashFields_eq]
  cases hk : hashKind a.uuid <;> simp only [hk] at h ⊢
  case service =>
    obtain ⟨rfl, hu, hne⟩ := h
    rw [hu, as16Bit_from16Bit (by cases isPrimary <;> decide),
      gattBuildUuidToStreamBytes_of_isEmpty_eq_false hne]
    simp
  case included =>
    obtain ⟨rfl, h16⟩ := h
    rw [if_pos h16, gattBuildUuidToStreamBytes_of_isEmpty_eq_false
      (isEmpty_eq_false_of_is16Bit h16), declUuidBytes, if_pos h16]
    simp
  case charDecl =>
    obtain ⟨v, rfl, hvk, hve, hfind⟩ := h
    simp only [hfind, Option.map_some, Option.getD_some]
    rw [gattBuildUuidToStreamBytes_of_isEmpty_eq_false hve, coreHashFields_eq, hvk, List.append_nil]
  all_goals
    subst h
    simp

theorem hashWalk_cons_charDecl {a v : GattAttr} {rest : List GattAttr}
    (hk : hashKind a.uuid = .charDecl) :
    hashWalk (a :: v :: rest) = (hashWalk rest).map ((a, some v) :: ·) := by
  rw [hashWalk.eq_3, if_pos hk]
  rfl

theorem hashWalk_cons_of_ne {a : GattAttr} {rest : List GattAttr}
    (hk : hashKind a.uuid ≠ .charDecl) :
    hashWalk (a :: rest) = (hashWalk rest).map ((a, none) :: ·) := by
  cases rest with
  | nil =>
    rw [hashWalk.eq_2, if_neg hk]
    rfl
  | cons v rest =>
    rw [hashWalk.eq_3, if_neg hk]
    rfl

/-- The walk takes every attribute once, in order: each item its attribute and, for a
characteristic declaration, the one after it. -/
theorem hashWalk_flatten {l : List GattAttr} {items : List (GattAttr × Option GattAttr)}
    (h : hashWalk l = some items) : items.flatMap (fun i => i.1 :: i.2.toList) = l := by
  induction l using hashWalk.induct generalizing items with
  | case1 =>
    cases h
    rfl
  | case2 a hk => simp [hashWalk, hk] at h
  | case3 a hk v rest ih =>
    rw [hashWalk_cons_charDecl hk, Option.map_eq_some_iff] at h
    obtain ⟨items', h', rfl⟩ := h
    simp [ih h']
  | case4 a rest hk ih =>
    rw [hashWalk_cons_of_ne hk, Option.map_eq_some_iff] at h
    obtain ⟨items', h', rfl⟩ := h
    simp [ih h']

/-- Where every item of the walk matches the Core fields, the fill pass writes the Core shares of
the attributes in their order. -/
theorem flatMap_hashItemBytes_eq_core {isPrimary : Bool} {attrs l : List GattAttr}
    {items : List (GattAttr × Option GattAttr)} (hwalk : hashWalk l = some items)
    (hmatch : ∀ i ∈ items, ItemMatchesCore isPrimary attrs i) :
    items.flatMap (hashItemBytes isPrimary) = l.flatMap (coreHashFields attrs) := by
  conv => rhs; rw [← hashWalk_flatten hwalk]
  rw [List.flatMap_assoc]
  apply List.flatMap_congr
  intro i hi
  rw [hashItemBytes_eq_core (hmatch i hi)]
  cases i.2 <;> simp

theorem CharDeclsFollowed.tail {a : GattAttr} {l : List GattAttr}
    (h : CharDeclsFollowed (a :: l)) : CharDeclsFollowed l := by
  intro i hi hu
  obtain ⟨hj, p, hp⟩ := h (i + 1) (by simp only [List.length_cons]; omega) hu
  exact ⟨by simp only [List.length_cons] at hj; omega, p, hp⟩

/-- A characteristic declaration at the front is followed by the attribute its value names. -/
theorem CharDeclsFollowed.cons_charDecl {a : GattAttr} {l : List GattAttr}
    (h : CharDeclsFollowed (a :: l)) (hk : hashKind a.uuid = .charDecl) :
    ∃ v rest p, l = v :: rest ∧ a.pValue = .charDecl p v.handle := by
  obtain ⟨hj, p, hp⟩ := h 0 (by simp) (hashKind_eq_charDecl hk)
  cases l with
  | nil => simp at hj
  | cons v rest => exact ⟨v, rest, p, rfl, hp⟩

/-- On a database whose characteristic declarations are each followed by the attribute they name,
the walk goes through, pairing each declaration with that attribute. By the walk's own
induction. -/
theorem hashWalk_of_charDeclsFollowed {l : List GattAttr} (hf : CharDeclsFollowed l) :
    ∃ items, hashWalk l = some items ∧ ∀ i ∈ items, i.1 ∈ l ∧
      (hashKind i.1.uuid = .charDecl →
        ∃ v p, i.2 = some v ∧ v ∈ l ∧ i.1.pValue = .charDecl p v.handle) ∧
      (hashKind i.1.uuid ≠ .charDecl → i.2 = none) := by
  induction l using hashWalk.induct with
  | case1 => exact ⟨[], rfl, by simp⟩
  | case2 a hk =>
    obtain ⟨v, rest, p, hl, -⟩ := hf.cons_charDecl hk
    cases hl
  | case3 a hk v rest ih =>
    obtain ⟨v', rest', p, hl, hp⟩ := hf.cons_charDecl hk
    cases hl
    obtain ⟨items, hwalk, hitems⟩ := ih hf.tail.tail
    refine ⟨(a, some v) :: items, by rw [hashWalk_cons_charDecl hk, hwalk]; rfl, ?_⟩
    rintro i (_ | ⟨_, hi⟩)
    · exact ⟨by simp, fun _ => ⟨v, p, rfl, by simp, hp⟩, fun hne => absurd hk hne⟩
    · obtain ⟨hmem, hdecl, hother⟩ := hitems i hi
      refine ⟨by simp [hmem], fun hk' => ?_, hother⟩
      obtain ⟨w, q, hw, hwmem, hq⟩ := hdecl hk'
      exact ⟨w, q, hw, by simp [hwmem], hq⟩
  | case4 a rest hk ih =>
    obtain ⟨items, hwalk, hitems⟩ := ih hf.tail
    refine ⟨(a, none) :: items, by rw [hashWalk_cons_of_ne hk, hwalk]; rfl, ?_⟩
    rintro i (_ | ⟨_, hi⟩)
    · exact ⟨by simp, fun hk' => absurd hk' hk, fun _ => rfl⟩
    · obtain ⟨hmem, hdecl, hother⟩ := hitems i hi
      refine ⟨by simp [hmem], fun hk' => ?_, hother⟩
      obtain ⟨w, q, hw, hwmem, hq⟩ := hdecl hk'
      exact ⟨w, q, hw, by simp [hwmem], hq⟩

/-- The databases whose hash the stack computes as the Core specification does: every service
declaration has the type its entry's `is_primary` names and a UUID, every included service a
16-bit UUID, and the attribute a characteristic declaration names has a UUID and is none of the
hashed types. -/
structure HashClean (isPrimary : Bool) (l : List GattAttr) : Prop where
  service : ∀ a ∈ l, hashKind a.uuid = .service →
    a.uuid = Uuid.from16Bit (if isPrimary then gattUuidPriService else gattUuidSecService) ∧
      a.pValue.serviceUuid.isEmpty = false
  included : ∀ a ∈ l, hashKind a.uuid = .included → a.pValue.inclHandleFields.2.2.is16Bit = true
  charValue : ∀ a ∈ l, hashKind a.uuid = .charDecl → ∀ v ∈ l,
    v.handle = a.pValue.charDeclFields.2 → hashKind v.uuid = .other ∧ v.uuid.isEmpty = false

/-- In a list of attributes with distinct handles, the search by handle finds the one. -/
theorem find?_handle_eq {attrs : List GattAttr} (hnd : (attrs.map GattAttr.handle).Nodup)
    {v : GattAttr} (hv : v ∈ attrs) :
    (attrs.find? fun b => b.handle = v.handle) = some v := by
  cases hfind : attrs.find? fun b => b.handle = v.handle with
  | none => simpa using List.find?_eq_none.1 hfind v hv
  | some b =>
    have hb : b.handle = v.handle := by simpa using List.find?_some hfind
    rw [List.inj_on_of_nodup_map hnd (List.mem_of_find?_eq_some hfind) hv hb]

/-- An item that matches the Core fields streams no empty UUID. -/
theorem hashItemShortfall_eq_zero {isPrimary : Bool} {attrs : List GattAttr}
    {i : GattAttr × Option GattAttr} (h : ItemMatchesCore isPrimary attrs i) :
    hashItemShortfall i = 0 := by
  obtain ⟨a, next⟩ := i
  simp only [ItemMatchesCore] at h
  simp only [hashItemShortfall, hashItemUuid]
  cases hk : hashKind a.uuid <;> simp only [hk] at h ⊢
  case service => simp [h.2.2]
  case included => simp [isEmpty_eq_false_of_is16Bit h.2]
  case charDecl =>
    obtain ⟨v, rfl, -, hve, -⟩ := h
    simp [hve]

/-- On a clean database the walk of each service goes through, and each of its items matches the
Core fields, `attrs` being any list of attributes with distinct handles that holds the service's. -/
theorem hashWalk_matchesCore {isPrimary : Bool} {l attrs : List GattAttr}
    (hf : CharDeclsFollowed l) (hclean : HashClean isPrimary l) (hsub : l ⊆ attrs)
    (hnd : (attrs.map GattAttr.handle).Nodup) :
    ∃ items, hashWalk l = some items ∧ ∀ i ∈ items, ItemMatchesCore isPrimary attrs i := by
  obtain ⟨items, hwalk, hitems⟩ := hashWalk_of_charDeclsFollowed hf
  refine ⟨items, hwalk, fun i hi => ?_⟩
  obtain ⟨hmem, hdecl, hother⟩ := hitems i hi
  obtain ⟨a, next⟩ := i
  simp only at hmem hdecl hother
  simp only [ItemMatchesCore]
  cases hk : hashKind a.uuid
  case service =>
    exact ⟨hother (by simp [hk]), hclean.service a hmem hk⟩
  case included =>
    exact ⟨hother (by simp [hk]), hclean.included a hmem hk⟩
  case charDecl =>
    obtain ⟨v, p, rfl, hv, hp⟩ := hdecl hk
    have hh : v.handle = a.pValue.charDeclFields.2 := by simp [hp, AttrValue.charDeclFields]
    obtain ⟨hvk, hve⟩ := hclean.charValue a hmem hk v hv hh
    exact ⟨v, rfl, hvk, hve, by rw [← hh]; exact find?_handle_eq hnd (hsub hv)⟩
  all_goals exact hother (by simp [hk])

/-- Over clean services, whose attributes lie in a list `attrs` with distinct handles, the fill
pass writes the Core shares of their attributes, service after service, and the size pass counts
exactly those bytes. By induction on the services. -/
theorem fillDatabaseInfo_eq_flatMap_core {srvList : List SrvListElem} {attrs : List GattAttr}
    (hf : ∀ el ∈ srvList, CharDeclsFollowed el.pDb.attrList)
    (hclean : ∀ el ∈ srvList, HashClean el.isPrimary el.pDb.attrList)
    (hsub : ∀ el ∈ srvList, el.pDb.attrList ⊆ attrs) (hnd : (attrs.map GattAttr.handle).Nodup) :
    fillDatabaseInfo srvList =
      some (srvList.flatMap fun el => el.pDb.attrList.flatMap (coreHashFields attrs)) ∧
      hashShortfall srvList = 0 := by
  induction srvList with
  | nil => exact ⟨rfl, rfl⟩
  | cons el srvList ih =>
    obtain ⟨hfill, hshort⟩ := ih (fun e he => hf e (by simp [he]))
      (fun e he => hclean e (by simp [he])) (fun e he => hsub e (by simp [he]))
    obtain ⟨items, hwalk, hmatch⟩ := hashWalk_matchesCore (hf el (by simp))
      (hclean el (by simp)) (hsub el (by simp)) hnd
    have hzero : (items.map hashItemShortfall).sum = 0 := by
      rw [List.sum_eq_zero_iff_forall_eq_nat]
      intro n hn
      obtain ⟨i, hi, rfl⟩ := List.mem_map.1 hn
      exact hashItemShortfall_eq_zero (hmatch i hi)
    refine ⟨?_, ?_⟩
    · rw [fillDatabaseInfo_cons, hwalk, hfill, Option.bind_some, Option.bind_some,
        flatMap_hashItemBytes_eq_core hwalk hmatch, List.flatMap_cons]
    · rw [hashShortfall_cons, hwalk, Option.getD_some, hzero, hshort]

/-- The attributes of the started services of a server that keeps the invariant have strictly
ascending handles: each service's are consecutive within its range, and the ranges ascend. -/
theorem ServerInv.attrs_sorted {g : GattServer} (hinv : ServerInv g) :
    (startedAttrs g.srvListInfo).Pairwise fun a b => a.handle < b.handle := by
  -- the handles of a started service lie in its range
  have hin : ∀ el ∈ g.srvListInfo, ∀ a ∈ el.pDb.attrList, el.sHdl ≤ a.handle ∧ a.handle ≤ el.eHdl := by
    intro el hel a ha
    obtain ⟨x, hx, gi, rfl⟩ := hinv.srv_started el hel
    have hl := hinv.layout x hx
    have hmem : a.handle ∈ List.range' x.asgnRange.sHandle x.svcDb.attrList.length := by
      rw [← hl.handles]
      exact List.mem_map_of_mem ha
    have := hl.within
    simp only [List.mem_range'_1] at hmem
    simp only [srvElemOf]
    omega
  rw [startedAttrs, List.pairwise_flatMap]
  refine ⟨fun el hel => ?_, hinv.srv_sorted.imp_of_mem fun hel hel' hlt a ha b hb => ?_⟩
  · obtain ⟨x, hx, gi, rfl⟩ := hinv.srv_started el hel
    have h := List.pairwise_lt_range' (s := x.asgnRange.sHandle) (n := x.svcDb.attrList.length)
    rw [← (hinv.layout x hx).handles, List.pairwise_map] at h
    exact h
  · have := hin _ hel a ha
    have := hin _ hel' b hb
    omega

/-- Of attributes in ascending handle order, the Core hash input takes the shares as they come. -/
theorem coreHashInput_of_sorted {attrs : List GattAttr}
    (h : attrs.Pairwise fun a b => a.handle < b.handle) :
    coreHashInput attrs = attrs.flatMap (coreHashFields attrs) := by
  rw [coreHashInput, List.mergeSort_of_pairwise (h.imp fun hlt => by simpa using Nat.le_of_lt hlt)]

/-- On a server that keeps the invariant, with clean services, the fill pass writes the Core hash
input of the database and the size pass counts it exactly. -/
theorem fillDatabaseInfo_eq_coreHashInput {g : GattServer} (hinv : ServerInv g)
    (hclean : ∀ el ∈ g.srvListInfo, HashClean el.isPrimary el.pDb.attrList) :
    fillDatabaseInfo g.srvListInfo = some (coreHashInput (startedAttrs g.srvListInfo)) ∧
      hashShortfall g.srvListInfo = 0 := by
  have hsorted := hinv.attrs_sorted
  have hnd : ((startedAttrs g.srvListInfo).map GattAttr.handle).Nodup :=
    (List.pairwise_map.2 hsorted).imp Nat.ne_of_lt
  have hf : ∀ el ∈ g.srvListInfo, CharDeclsFollowed el.pDb.attrList := by
    intro el hel
    obtain ⟨x, hx, gi, rfl⟩ := hinv.srv_started el hel
    exact (hinv.layout x hx).follow
  obtain ⟨hfill, hshort⟩ := fillDatabaseInfo_eq_flatMap_core hf hclean
    (fun el hel _ ha => List.mem_flatMap.2 ⟨el, hel, ha⟩) hnd
  refine ⟨?_, hshort⟩
  rw [hfill, coreHashInput_of_sorted hsorted, startedAttrs, List.flatMap_assoc]

/-- On such a server, up to 4064 bytes of hash input, the hash is the CMAC under the zero key of
the Core hash input. -/
theorem gattsCalculateDatabaseHash_eq_core (E : Block → Block → Block) {g : GattServer}
    (hinv : ServerInv g) (hclean : ∀ el ∈ g.srvListInfo, HashClean el.isPrimary el.pDb.attrList)
    (hlen : (coreHashInput (startedAttrs g.srvListInfo)).length ≤ 4064) :
    gattsCalculateDatabaseHash E g.srvListInfo =
      some (cmac E zero (coreHashInput (startedAttrs g.srvListInfo))).reverse := by
  obtain ⟨hfill, hshort⟩ := fillDatabaseInfo_eq_coreHashInput hinv hclean
  rw [gattsCalculateDatabaseHash_eq E hfill (by rw [hshort]; omega), hshort, List.replicate_zero,
    List.append_nil]

/-! ## Three started databases

Each is reached from the empty server by `GATTS_AddService`. -/

/-- The walk of attributes none of which is a characteristic declaration: each on its own. -/
theorem hashWalk_of_forall_ne {l : List GattAttr} (h : ∀ a ∈ l, hashKind a.uuid ≠ .charDecl) :
    hashWalk l = some (l.map fun a => (a, none)) := by
  induction l with
  | nil => rfl
  | cons a l ih =>
    rw [hashWalk_cons_of_ne (h a (by simp)), ih fun b hb => h b (by simp [hb])]
    rfl

/-- The include declaration `gatts_add_included_service` allocates at handle `h`. -/
def includeAttr (s e : Nat) (u : Uuid) (h : Nat) : GattAttr :=
  ⟨.inclHandle s e u, gattPermRead, h, Uuid.from16Bit gattUuidIncludeService, .primaryService⟩

theorem gattsAddIncludedService_eq {db : SvcDb} {s e : Nat} {u : Uuid}
    (hu : u.isEmpty = false) (hs : s ≠ 0) (he : e ≠ 0) (hnext : db.nextHandle < db.endHandle)
    (hend : db.endHandle < 65536) :
    gattsAddIncludedService db s e u = some (⟨db.attrList ++ [includeAttr s e u db.nextHandle],
      db.endHandle, db.nextHandle + 1⟩, db.nextHandle) := by
  simp only [gattsAddIncludedService, hu, hs, he, Bool.false_eq_true, or_self, if_false,
    allocateAttrInDb, if_neg (show ¬db.nextHandle ≥ db.endHandle by omega),
    Nat.mod_eq_of_lt (show db.nextHandle + 1 < 65536 by omega)]
  rfl

/-- The element loop over `k` copies of one included service: `k` include declarations from the
next handle on. By induction on `k`. -/
theorem addElements_replicate_include {hdlList : List HdlListElem} {el : DbElement}
    {p : HdlListElem} (hel : el.type = .includedService)
    (hp : gattFindHdlBufferByHandle hdlList el.attributeHandle = some p)
    (hu : p.asgnRange.svcUuid.isEmpty = false) (hs : p.asgnRange.sHandle ≠ 0)
    (he : p.asgnRange.eHandle ≠ 0) :
    ∀ (k : Nat) (db : SvcDb), db.nextHandle + k ≤ db.endHandle → db.endHandle < 65536 →
      addElements hdlList db (List.replicate k el) =
        some (⟨db.attrList ++ (List.range' db.nextHandle k).map
          (includeAttr p.asgnRange.sHandle p.asgnRange.eHandle p.asgnRange.svcUuid),
          db.endHandle, db.nextHandle + k⟩, true)
  | 0, db, _, _ => by simp [addElements]
  | k + 1, db, hk, hend => by
    rw [List.replicate_succ]
    simp only [addElements, hel, hp]
    rw [gattsAddIncludedService_eq hu hs he (by omega) hend]
    simp only [Option.bind_eq_bind, Option.bind_some]
    rw [addElements_replicate_include hel hp hu hs he k _ ?_ ?_]
    · simp [List.range'_succ, Nat.add_assoc, Nat.add_comm 1 k]
    · simp only
      omega
    · exact hend
/-- A primary service with UUID `u` that includes itself `k` times: the include elements name
the start handle an application service gets on the empty server. -/
def selfIncludeElems (u : Uuid) (k : Nat) : DbElement × List DbElement :=
  (⟨u, .primaryService, 0, 0, 0, 0⟩,
    List.replicate k ⟨u, .includedService, gattAppStartHandle, 0, 0, 0⟩)

/-- The range `GATTS_AddService` reserves for it on the empty server. -/
def selfIncludeRange (u : Uuid) (k : Nat) : HndlRange :=
  ⟨Uuid.kEmpty, u, gattAppStartHandle, gattAppStartHandle + k, true⟩

/-- The database it builds: the declaration, then one include declaration per element. -/
def selfIncludeDb (u : Uuid) (k : Nat) : SvcDb :=
  ⟨⟨.uuid u, gattPermRead, gattAppStartHandle, Uuid.from16Bit gattUuidPriService,
      .primaryService⟩ :: (List.range' (gattAppStartHandle + 1) k).map
      (includeAttr gattAppStartHandle (gattAppStartHandle + k) u),
    gattAppStartHandle + 1 + k, gattAppStartHandle + 1 + k⟩

/-- The server with that service started. -/
def selfIncludeServer (u : Uuid) (k : Nat) : GattServer :=
  ⟨[⟨selfIncludeRange u k, selfIncludeDb u k⟩],
    [srvElemOf ⟨selfIncludeRange u k, selfIncludeDb u k⟩ 1], gattAppStartHandle⟩

/-- `GATTS_AddService` of the self-including service on the empty server starts it. -/
theorem gattsAddService_selfInclude {u : Uuid} {k : Nat} (hu : u.isEmpty = false)
    (hfix : fixedStartHdl u = none) (hk : k ≤ 1000) :
    gattsAddService ⟨[], [], 0⟩ 1 (some Uuid.kEmpty) (selfIncludeElems u k).1
      (selfIncludeElems u k).2 = some (.serviceStarted, selfIncludeServer u k) := by
  have hsize : computeServiceSize ((selfIncludeElems u k).1 :: (selfIncludeElems u k).2) % 65536 =
      1 + k := by
    simp [computeServiceSize, selfIncludeElems, elementSize]
    omega
  have hstart : serviceStartHdl [] (selfIncludeElems u k).1.uuid = gattAppStartHandle := by
    simp only [serviceStartHdl, selfIncludeElems, hfix, Option.getD_none]
    rfl
  have hinit : gattsInitServiceDb u true gattAppStartHandle (1 + k) =
      some ⟨[⟨.uuid u, gattPermRead, gattAppStartHandle,
        Uuid.from16Bit gattUuidPriService, .primaryService⟩], gattAppStartHandle + 1 + k,
        gattAppStartHandle + 1⟩ := by
    have hend : (gattAppStartHandle + (1 + k)) % 65536 = gattAppStartHandle + 1 + k := by
      simp only [gattAppStartHandle]
      omega
    simp only [gattsInitServiceDb, allocateAttrInDb, if_true, hend,
      show (gattAppStartHandle + 1) % 65536 = gattAppStartHandle + 1 by decide]
    rw [if_neg (by omega)]
    rfl
  unfold gattsAddService
  dsimp only
  rw [hsize, hstart, if_neg (by simp only [gattAppStartHandle]; omega)]
  simp only [selfIncludeElems, beq_self_eq_true, hinit, Option.bind_eq_bind, Option.bind_some]
  have hend : (gattAppStartHandle + (1 + k) - 1) % 65536 = gattAppStartHandle + k := by
    simp only [gattAppStartHandle]
    omega
  rw [hend]
  simp only [gattAddAnItemToList, IntervalList.insertBefore]
  -- the service's own range is in `hdl_list_info` while its elements are added
  have hfind : ∀ db : SvcDb, gattFindHdlBufferByHandle [⟨selfIncludeRange u k, db⟩]
      gattAppStartHandle = some ⟨selfIncludeRange u k, db⟩ := by
    intro db
    simp [gattFindHdlBufferByHandle, selfIncludeRange]
  rw [addElements_replicate_include rfl (hfind _) hu (by simp [selfIncludeRange, gattAppStartHandle])
    (by simp [selfIncludeRange, gattAppStartHandle]) k _ (by simp only; omega)
    (by simp only [gattAppStartHandle]; omega)]
  simp [selfIncludeServer, selfIncludeRange, selfIncludeDb, srvListInsert, IntervalList.insertBefore,
    gattUpdateLastSrvInfo, srvElemOf]

theorem selfIncludeServer_reachable {u : Uuid} {k : Nat} (hu : u.isEmpty = false)
    (hfix : fixedStartHdl u = none) (hk : k ≤ 1000) : Reachable (selfIncludeServer u k) :=
  .addService .init (fitsSlot_of_fixedStartHdl_none hfix)
    (gattsAddService_selfInclude hu hfix hk)

@[simp] theorem hashKind_priService : hashKind (Uuid.from16Bit gattUuidPriService) = .service := by
  decide

@[simp] theorem hashKind_includeService :
    hashKind (Uuid.from16Bit gattUuidIncludeService) = .included := by
  decide

theorem hashWalk_selfIncludeDb (u : Uuid) (k : Nat) :
    hashWalk (selfIncludeDb u k).attrList =
      some ((selfIncludeDb u k).attrList.map fun a => (a, none)) := by
  apply hashWalk_of_forall_ne
  intro a ha
  simp only [selfIncludeDb, List.mem_cons, List.mem_map] at ha
  rcases ha with rfl | ⟨h, -, rfl⟩ <;> simp [includeAttr]

theorem length_hashItemBytes_includeAttr (isPrimary : Bool) (s e : Nat) (u : Uuid) (h : Nat) :
    (hashItemBytes isPrimary (includeAttr s e u h, none)).length =
      8 + (gattBuildUuidToStreamBytes u).length := by
  simp [hashItemBytes, includeAttr, AttrValue.inclHandleFields]
  omega

theorem length_hashItemBytes_priService (isPrimary : Bool) (u : Uuid) (h p : Nat) :
    (hashItemBytes isPrimary (⟨.uuid u, p, h, Uuid.from16Bit gattUuidPriService, .primaryService⟩,
      none)).length = 4 + (gattBuildUuidToStreamBytes u).length := by
  simp [hashItemBytes, AttrValue.serviceUuid]
  omega

/-- The fill pass writes the declaration with the service's UUID and each include declaration with
it again. -/
theorem length_fillDatabaseInfo_selfInclude (u : Uuid) (k : Nat) :
    (fillDatabaseInfo (selfIncludeServer u k).srvListInfo).map List.length =
      some (4 + (gattBuildUuidToStreamBytes u).length +
        k * (8 + (gattBuildUuidToStreamBytes u).length)) := by
  simp only [selfIncludeServer, fillDatabaseInfo_cons, srvElemOf, hashWalk_selfIncludeDb]
  have hnil : fillDatabaseInfo [] = some [] := rfl
  simp [selfIncludeDb, List.length_flatMap, Function.comp_def, length_hashItemBytes_includeAttr,
    hnil, length_hashItemBytes_priService]
/-- With a 16-bit UUID the self-including service is clean. -/
theorem selfIncludeServer_hashClean {u : Uuid} {k : Nat} (hu : u.is16Bit = true) :
    ∀ el ∈ (selfIncludeServer u k).srvListInfo, HashClean el.isPrimary el.pDb.attrList := by
  intro el hel
  simp only [selfIncludeServer, List.mem_singleton] at hel
  subst hel
  -- the declaration is a service declaration, every other attribute an include declaration
  have hattrs : ∀ a ∈ (selfIncludeDb u k).attrList,
      a = ⟨.uuid u, gattPermRead, gattAppStartHandle, Uuid.from16Bit gattUuidPriService,
        .primaryService⟩ ∨ ∃ h, a = includeAttr gattAppStartHandle (gattAppStartHandle + k) u h := by
    intro a ha
    simp only [selfIncludeDb, List.mem_cons, List.mem_map] at ha
    rcases ha with rfl | ⟨h, -, rfl⟩
    · exact .inl rfl
    · exact .inr ⟨h, rfl⟩
  refine ⟨fun a ha hk => ?_, fun a ha hk => ?_, fun a ha hk => ?_⟩
  · rcases hattrs a ha with rfl | ⟨h, rfl⟩
    · exact ⟨rfl, isEmpty_eq_false_of_is16Bit hu⟩
    · simp [includeAttr] at hk
  · rcases hattrs a ha with rfl | ⟨h, rfl⟩
    · simp at hk
    · exact hu
  · rcases hattrs a ha with rfl | ⟨h, rfl⟩ <;> simp [includeAttr] at hk

/-- A 16-bit UUID goes out in two bytes. -/
theorem length_gattBuildUuidToStreamBytes_of_is16Bit {u : Uuid} (hu : u.is16Bit = true) :
    (gattBuildUuidToStreamBytes u).length = 2 := by
  rw [gattBuildUuidToStreamBytes_of_isEmpty_eq_false (isEmpty_eq_false_of_is16Bit hu),
    declUuidBytes, if_pos hu, length_leBytes]

/-- A service with a 16-bit UUID that includes itself 406 to 1000 times is reachable and clean,
and its hash input passes 4064 bytes: `aes_cmac` reads past it. -/
theorem gattsCalculateDatabaseHash_selfInclude (E : Block → Block → Block) {u : Uuid} {k : Nat}
    (hu : u.is16Bit = true) (hfix : fixedStartHdl u = none) (hk : 406 ≤ k) (hk' : k ≤ 1000) :
    gattsCalculateDatabaseHash E (selfIncludeServer u k).srvListInfo = none := by
  have hlen := length_fillDatabaseInfo_selfInclude u k
  rw [length_gattBuildUuidToStreamBytes_of_is16Bit hu] at hlen
  obtain ⟨w, hfill, hw⟩ := Option.map_eq_some_iff.1 hlen
  obtain ⟨-, hshort⟩ := fillDatabaseInfo_eq_coreHashInput
    (Reachable.serverInv (selfIncludeServer_reachable (isEmpty_eq_false_of_is16Bit hu) hfix hk'))
    (selfIncludeServer_hashClean hu)
  have hsum : w.length + hashShortfall (selfIncludeServer u k).srvListInfo = 6 + 10 * k := by
    rw [hw, hshort]
    omega
  have hmod : (6 + 10 * k) % 65536 = 6 + 10 * k := Nat.mod_eq_of_lt (by omega)
  exact gattsCalculateDatabaseHash_overrun E hfill (by rw [hsum, hmod]; omega)

/-- A Battery Service whose characteristic has the empty UUID, which `GATTS_AddService` takes (it
tests a characteristic's UUID against the declaration types only), with a Client Characteristic
Configuration after it. -/
def emptyCharServiceElems : DbElement × List DbElement :=
  (⟨Uuid.from16Bit 0x180F, .primaryService, 0, 0, 0, 0⟩,
    [⟨Uuid.kEmpty, .characteristic, 0, 0x12, 0, gattPermRead⟩,
      ⟨Uuid.from16Bit gattUuidCharClientConfig, .descriptor, 0, 0, 0, 0x11⟩])

/-- That service added to the empty server. -/
def emptyCharServer : GattServer :=
  ((gattsAddService ⟨[], [], 0⟩ 1 (some Uuid.kEmpty) emptyCharServiceElems.1
    emptyCharServiceElems.2).getD (.internalError, ⟨[], [], 0⟩)).2

theorem emptyCharServer_reachable : Reachable emptyCharServer :=
  .addService .init (fitsSlot_of_fixedStartHdl_none (by decide))
    (show gattsAddService ⟨[], [], 0⟩ 1 (some Uuid.kEmpty) emptyCharServiceElems.1
      emptyCharServiceElems.2 = some (.serviceStarted, emptyCharServer) by decide)

/-- A 128-bit UUID. -/
def customUuid : Uuid :=
  ⟨⟨List.toArray [0x12, 0x34, 0x56, 0x78, 0x12, 0x34, 0x56, 0x78, 0x12, 0x34, 0x56, 0x78, 0x12,
    0x34, 0x56, 0x78], rfl⟩⟩

/-- Where the database hash of `gatt_sr_hash.cc` parts from the Core specification, on started
databases: with a characteristic of the empty UUID the size pass counts sixteen bytes more than
the fill pass writes, and the zeroes of `serialized` are hashed at the end instead of in the
declaration; an included service with a 128-bit UUID is hashed with its sixteen bytes, which the
Core value of an include declaration leaves out; and a clean database of 4066 bytes of hash input
has no hash, `aes_cmac` reading past `serialized`. -/
theorem databaseHash_diverges (E : Block → Block → Block) :
    (Reachable emptyCharServer ∧
      calculateDatabaseInfoSize emptyCharServer.srvListInfo = some 33 ∧
      (fillDatabaseInfo emptyCharServer.srvListInfo).map List.length = some 17 ∧
      ∃ m, gattsCalculateDatabaseHash E emptyCharServer.srvListInfo = some (cmac E zero m).reverse ∧
        m ≠ coreHashInput (startedAttrs emptyCharServer.srvListInfo)) ∧
    (Reachable (selfIncludeServer customUuid 1) ∧
      ∃ m, gattsCalculateDatabaseHash E (selfIncludeServer customUuid 1).srvListInfo =
          some (cmac E zero m).reverse ∧ m.length = 44 ∧
        (coreHashInput (startedAttrs (selfIncludeServer customUuid 1).srvListInfo)).length = 28) ∧
    (Reachable (selfIncludeServer (Uuid.from16Bit 0x180F) 406) ∧
      (coreHashInput (startedAttrs (selfIncludeServer (Uuid.from16Bit 0x180F) 406).srvListInfo)).length =
        4066 ∧
      gattsCalculateDatabaseHash E (selfIncludeServer (Uuid.from16Bit 0x180F) 406).srvListInfo =
        none) := by
  refine ⟨⟨emptyCharServer_reachable, by decide, by decide, ?_⟩,
    ⟨selfIncludeServer_reachable (by decide) (by decide) (by decide), ?_⟩,
    ⟨selfIncludeServer_reachable (by decide) (by decide) (by decide), ?_,
      gattsCalculateDatabaseHash_selfInclude E (by decide) (by decide) (by decide) (by decide)⟩⟩
  · -- the empty UUID: its sixteen zeroes go to the end of the hash input
    have hfill : fillDatabaseInfo emptyCharServer.srvListInfo =
        some ((fillDatabaseInfo emptyCharServer.srvListInfo).getD []) := by decide
    have hshort : hashShortfall emptyCharServer.srvListInfo = 16 := by decide
    refine ⟨_, gattsCalculateDatabaseHash_eq E hfill (by rw [hshort]; decide), ?_⟩
    rw [hshort, coreHashInput_of_sorted (by decide)]
    decide
  · -- the 128-bit included service: twenty-four bytes for an include declaration, not eight
    have hfill : fillDatabaseInfo (selfIncludeServer customUuid 1).srvListInfo =
        some ((fillDatabaseInfo (selfIncludeServer customUuid 1).srvListInfo).getD []) := by decide
    have hshort : hashShortfall (selfIncludeServer customUuid 1).srvListInfo = 0 := by decide
    refine ⟨_, gattsCalculateDatabaseHash_eq E hfill (by rw [hshort]; decide), ?_, ?_⟩
    · rw [hshort]
      decide
    · rw [coreHashInput_of_sorted (by decide)]
      decide
  · -- a clean database: the fill pass writes the Core hash input, six bytes and ten per include
    have hu : (Uuid.from16Bit 0x180F).is16Bit = true := by decide
    obtain ⟨hfill, -⟩ := fillDatabaseInfo_eq_coreHashInput
      (Reachable.serverInv (selfIncludeServer_reachable (isEmpty_eq_false_of_is16Bit hu)
        (by decide) (show 406 ≤ 1000 by decide)))
      (selfIncludeServer_hashClean hu)
    have hlen := length_fillDatabaseInfo_selfInclude (Uuid.from16Bit 0x180F) 406
    rw [hfill, Option.map_some, length_gattBuildUuidToStreamBytes_of_is16Bit (by decide)] at hlen
    exact Option.some.inj hlen

end BluetoothStack.Gatt
