import BluetoothStack.Gatt.Client
import BluetoothStack.Types.Codecs

/-!
# The GATT client's discovery responses and notifications

gatt_cl.cc's handlers for the responses a discovery procedure or a read by type gets back
(gatt_process_find_type_value_rsp, gatt_process_read_info_rsp, gatt_process_read_by_type_rsp),
gatt_act_discovery, which sends the next request of a procedure, and gatt_process_notification.
A PDU is given as the bytes after its opcode, `len` of them, and each byte is read through an
`Option` that fails past the end, so a handler that returns at all has read only within the PDU.
The record loops run on fuel, the PDU's length: each record takes at least one byte.

A discovery procedure moves on from the last handle a response names, plus one. No handler
reads the start of the request it answers (`discoveryRsp_sHandle`), so none compares the two: a
server that names a lower handle sends the procedure back, and one that keeps doing so keeps it
going for ever (`discovery_start_rewinds`).
-/

namespace BluetoothStack.Gatt

open Bytes

/-! ## The client control block -/

/-- tGATTC_OPTYPE. -/
inductive ClOpType where
  | none
  | discovery
  | read
  | write
  | exeWrite
  | config
  | notification
  | indication
deriving DecidableEq, Repr

/-- tGATT_DISC_TYPE, and the read types of tGATT_READ_TYPE the handlers compare op_subtype
with. -/
def gattDiscSrvcAll : UInt8 := 1
def gattDiscSrvcByUuid : UInt8 := 2
def gattDiscIncSrvc : UInt8 := 3
def gattDiscChar : UInt8 := 4
def gattDiscCharDscpt : UInt8 := 5
def gattReadByType : UInt8 := 1

/-- The ATT opcodes the client sends and reads. -/
def gattReqFindInfo : UInt8 := 0x04
def gattReqFindTypeValue : UInt8 := 0x06
def gattReqReadByType : UInt8 := 0x08
def gattReqReadByGrpType : UInt8 := 0x10
def gattRspReadByType : UInt8 := 0x09
def gattRspReadByGrpType : UInt8 := 0x11
def gattHandleValueNotif : UInt8 := 0x1B
def gattHandleMultiValueNotif : UInt8 := 0x23

def gattNotificationMinLen : Nat := 2
def gattInfoRspMinLen : Nat := 1
def gattReadByTypeRspMinLen : Nat := 1

/-- GATT_HANDLE_IS_VALID. -/
def gattHandleIsValid (handle : Nat) : Bool := handle != 0

/-- disc_type_to_att_opcode. -/
def discTypeToAttOpcode (subtype : UInt8) : UInt8 :=
  [0, gattReqReadByGrpType, gattReqFindTypeValue, gattReqReadByType, gattReqReadByType,
    gattReqFindInfo].getD subtype.toNat 0

/-- disc_type_to_uuid. -/
def discTypeToUuid (subtype : UInt8) : Nat :=
  [0, gattUuidPriService, gattUuidPriService, gattUuidIncludeService, gattUuidCharDeclare,
    0].getD subtype.toNat 0

/-- The fields of tGATT_CLCB that the handlers read and write; `discResCb` says whether the
registration has a p_disc_res_cb. -/
structure Clcb where
  operation : ClOpType
  opSubtype : UInt8
  sHandle : Nat
  eHandle : Nat
  uuid : Uuid
  discResCb : Bool
deriving DecidableEq, Repr

/-- tGATT_DISC_VALUE: the union of a discovery result, zeroed where nothing is written. -/
inductive DiscValue where
  | none
  | groupValue (eHandle : Nat) (serviceType : Uuid)
  | inclService (sHandle eHandle : Nat) (serviceType : Uuid)
  | dclrValue (charProp : UInt8) (valHandle : Nat) (charUuid : Uuid)
deriving DecidableEq, Repr

/-- tGATT_DISC_RES: what p_disc_res_cb is given. -/
structure DiscRes where
  handle : Nat
  type : Uuid
  value : DiscValue
deriving DecidableEq, Repr

/-- What a handler leaves to be done once it has delivered its results. -/
inductive ClNext where
  /-- The response is not the one the operation waits for; the handler returns. -/
  | ignored
  /-- s_handle is set and gatt_act_discovery called. -/
  | actDiscovery (sHandle : Nat)
  /-- gatt_end_operation, with the bytes a read operation hands the application. -/
  | endOperation (status : GattStatus) (value : Option (List UInt8))
  /-- gatt_act_read from s_handle for a read characteristic value that found no match. -/
  | actRead (sHandle : Nat)
  /-- The first part of a long read by type, kept in p_attr_buf; a Read Blob follows. -/
  | readBlob (handle : Nat) (value : List UInt8)
  /-- An included service with a 128-bit UUID: its declaration is read, and discovery goes on
  from next_disc_start_hdl. -/
  | readInclUuid128 (inclHandle nextDiscStartHdl : Nat) (result : DiscRes)
  /-- The value handle of the first characteristic that matches is read. -/
  | readCharValue (valHandle : Nat)
deriving DecidableEq, Repr

/-! ## Reading a PDU -/

/-- STREAM_TO_UINT16 at `i`. -/
def u16At (p : List UInt8) (i : Nat) : Option Nat := do
  let lo ← p[i]?
  let hi ← p[i + 1]?
  return lo.toNat + hi.toNat * 256

/-- `n` bytes from `i`, as STREAM_TO_ARRAY or memcpy reads them. -/
def bytesAt (p : List UInt8) (i n : Nat) : Option (List UInt8) :=
  if i + n ≤ p.length then some ((p.drop i).take n) else none

/-- The bytes gatt_parse_uuid_from_cmd reads for a size: none for a size it refuses. -/
def uuidReadLen (size : Nat) : Nat :=
  if size = Uuid.kNumBytes16 then Uuid.kNumBytes16
  else if size = Uuid.kNumBytes128 then Uuid.kNumBytes128 else 0

/-- gatt_parse_uuid_from_cmd at `i`. -/
def parseUuidAt (uuidRec : Uuid) (size : Nat) (p : List UInt8) (i : Nat) :
    Option (Bool × Uuid × Nat) :=
  (bytesAt p i (uuidReadLen size)).map (gattParseUuidFromCmd uuidRec size)

/-! ## Find By Type Value -/

/-- The loop of gatt_process_find_type_value_rsp: handle ranges of four bytes while four are
left. It returns the results and the end handle of the last range, which starts zeroed. -/
def findTypeValueLoop (uuid : Uuid) (p : List UInt8) :
    (fuel i len eHandle : Nat) → Option (List DiscRes × Nat)
  | 0, _, _, eHandle => some ([], eHandle)
  | fuel + 1, i, len, eHandle =>
    if len ≥ 4 then do
      let handle ← u16At p i
      let e ← u16At p (i + 2)
      let (rs, last) ← findTypeValueLoop uuid p fuel (i + 4) (len - 4) e
      return (⟨handle, Uuid.from16Bit gattUuidPriService, .groupValue e uuid⟩ :: rs, last)
    else some ([], eHandle)

/-- The start handle a handler leaves after a last handle: one past it, kept in 16 bits, or 0
where it is 0. -/
def nextStart (handle : Nat) : Nat := if handle = 0 then 0 else (handle + 1) % 65536

/-- gatt_process_find_type_value_rsp: the results handed to p_disc_res_cb and what follows. -/
def gattProcessFindTypeValueRsp (c : Clcb) (p : List UInt8) : Option (List DiscRes × ClNext) := do
  if c.operation ≠ .discovery ∨ c.opSubtype ≠ gattDiscSrvcByUuid then return ([], .ignored)
  let (rs, eHandle) ← findTypeValueLoop c.uuid p p.length 0 p.length 0
  return (if c.discResCb then rs else [], .actDiscovery (nextStart eHandle))

/-! ## Find Information -/

/-- The loop of gatt_process_read_info_rsp: a handle and a UUID of `uuidLen` bytes while they fit,
the UUID taken from the operation where the format gives no length. It returns the results and
the handle last read; `type` is result.type as the loop leaves it. -/
def readInfoLoop (c : Clcb) (uuidLen : Nat) (p : List UInt8) :
    (fuel i len handle : Nat) → (type : Uuid) → Option (List DiscRes × Nat)
  | 0, _, _, handle, _ => some ([], handle)
  | fuel + 1, i, len, prev, type =>
    if len ≥ uuidLen + 2 then do
      let handle ← u16At p i
      let (ok, type, read) ← if uuidLen > 0 then parseUuidAt type uuidLen p (i + 2)
        else some (true, c.uuid, 0)
      -- a UUID that does not parse breaks the loop, after its handle was read
      if !ok then return ([], handle)
      let (rs, last) ← readInfoLoop c uuidLen p fuel (i + 2 + read) (len - (uuidLen + 2)) handle type
      return (⟨handle, type, .none⟩ :: rs, last)
    else some ([], prev)

/-- gatt_process_read_info_rsp. `stale` is what result.handle holds before the loop: the
result is not zeroed, so where no entry is read the next start comes from it. -/
def gattProcessReadInfoRsp (c : Clcb) (p : List UInt8) (stale : Nat) :
    Option (List DiscRes × ClNext) := do
  if p.length < gattInfoRspMinLen then return ([], .endOperation .invalidPdu none)
  if c.operation ≠ .discovery ∨ c.opSubtype ≠ gattDiscCharDscpt then return ([], .ignored)
  let format ← p[0]?
  let uuidLen := if format.toNat = gattInfoTypePair16 then Uuid.kNumBytes16
    else if format.toNat = gattInfoTypePair128 then Uuid.kNumBytes128 else 0
  let (rs, handle) ← readInfoLoop c uuidLen p p.length 1 (p.length - 1) stale Uuid.kEmpty
  return (if c.discResCb then rs else [], .actDiscovery (nextStart handle))

/-! ## Read By Type and Read By Group Type -/

section ReadByType

variable (payloadSize : Nat) (c : Clcb) (opCode handleLen valueLen : UInt8) (p : List UInt8)

/-- A record delivered to p_disc_res_cb where the operation is a discovery with a callback. -/
def deliver (r : DiscRes) (rs : List DiscRes) : List DiscRes :=
  if c.operation = .discovery ∧ c.discResCb then r :: rs else rs

/-- The loop of gatt_process_read_by_type_rsp, from the byte `i` with `len` bytes left and
`handle` the last handle read; each record is `handleLen + valueLen` bytes, where `valueLen` is
the declared length less the handles, in a byte. The loop ends by returning the whole handler's
result, as the C function returns from inside it. -/
def readByTypeRspLoop : (fuel i len handle : Nat) → Option (List DiscRes × ClNext)
  | 0, _, _, handle => some ([], afterReadByType c handle)
  | fuel + 1, i, len, handle =>
    if len ≥ handleLen.toNat + valueLen.toNat then do
      let handle ← u16At p i
      if !gattHandleIsValid handle then return ([], .endOperation .invalidHandle none)
      let type := Uuid.from16Bit (discTypeToUuid c.opSubtype)
      if c.operation = .discovery ∧ c.opSubtype = gattDiscSrvcAll ∧ opCode = gattRspReadByGrpType then
        -- discover all services: the end handle overwrites `handle`
        let eHandle ← u16At p (i + 2)
        if !gattHandleIsValid eHandle then return ([], .endOperation .invalidHandle none)
        let (ok, serviceType, read) ← parseUuidAt Uuid.kEmpty valueLen.toNat p (i + 4)
        if !ok then return ([], afterReadByType c eHandle)
        let (rs, next) ← readByTypeRspLoop fuel (i + 4 + read)
          (len - (valueLen.toNat + handleLen.toNat)) eHandle
        return (deliver c ⟨handle, type, .groupValue eHandle serviceType⟩ rs, next)
      else if c.operation = .discovery ∧ c.opSubtype = gattDiscIncSrvc then
        if valueLen.toNat < 4 then return ([], .endOperation .invalidPdu none)
        let inclS ← u16At p (i + 2)
        let inclE ← u16At p (i + 4)
        if !gattHandleIsValid inclS || !gattHandleIsValid inclE then
          return ([], .endOperation .invalidHandle none)
        if valueLen.toNat = 6 then
          let uuid16 ← u16At p (i + 6)
          let (rs, next) ← readByTypeRspLoop fuel (i + 8) (len - (valueLen.toNat + handleLen.toNat))
            handle
          return (deliver c ⟨handle, type, .inclService inclS inclE (Uuid.from16Bit uuid16)⟩ rs,
            next)
        else if valueLen.toNat = 4 then
          return ([], .readInclUuid128 inclS ((handle + 1) % 65536)
            ⟨handle, type, .inclService inclS inclE Uuid.kEmpty⟩)
        else return ([], .endOperation .invalidPdu none)
      else if c.operation = .read ∧ c.opSubtype = gattReadByType then
        -- read by type: counter = len - 2, every byte after the handle
        let counter := len - 2
        if counter = payloadSize - 4 then
          if counter ≤ gattMaxAttrLen then
            return ([], .readBlob handle (← bytesAt p (i + 2) counter))
          else return ([], .endOperation .internalError (← bytesAt p (i + 2) counter))
        else return ([], .endOperation .success (← bytesAt p (i + 2) counter))
      else
        -- discover characteristics, or read a characteristic value by its UUID
        if valueLen.toNat < 3 then return ([], .endOperation .invalidPdu none)
        let charProp ← p[i + 2]?
        let valHandle ← u16At p (i + 3)
        if !gattHandleIsValid valHandle then return ([], .endOperation .invalidHandle none)
        let (ok, charUuid, read) ← parseUuidAt Uuid.kEmpty ((valueLen.toNat - 3) % 65536) p (i + 5)
        if !ok then return ([], .endOperation .success none)
        if !c.uuid.isEmpty ∧ !charUuid.isEmpty ∧ charUuid ≠ c.uuid then
          -- a UUID that does not match is skipped
          readByTypeRspLoop fuel (i + 5 + read) (len - (valueLen.toNat + 2)) handle
        else if c.operation = .read then return ([], .readCharValue valHandle)
        else
          let (rs, next) ← readByTypeRspLoop fuel (i + 5 + read)
            (len - (valueLen.toNat + handleLen.toNat)) handle
          return (deliver c ⟨handle, type, .dclrValue charProp valHandle charUuid⟩ rs, next)
    else some ([], afterReadByType c handle)
where
  /-- After the loop: the start moves past the last handle, and a discovery sends its next
  request, a read by type its next read. -/
  afterReadByType (c : Clcb) (handle : Nat) : ClNext :=
    if c.operation = .discovery then .actDiscovery (nextStart handle)
    else .actRead (nextStart handle)

end ReadByType

/-- gatt_process_read_by_type_rsp, for a PDU received with the given MTU. -/
def gattProcessReadByTypeRsp (payloadSize : Nat) (c : Clcb) (opCode : UInt8) (p : List UInt8) :
    Option (List DiscRes × ClNext) := do
  if !c.discResCb ∧ c.operation = .discovery then return ([], .ignored)
  if p.length < gattReadByTypeRspMinLen then return ([], .endOperation .invalidPdu none)
  let valueLen ← p[0]?
  if (valueLen.toNat : Int) > (payloadSize : Int) - 2 ∨ (valueLen.toNat : Int) > (p.length : Int) - 1
    then return ([], .endOperation .error none)
  let handleLen : UInt8 := if opCode = gattRspReadByGrpType then 4 else 2
  readByTypeRspLoop payloadSize c opCode handleLen (valueLen - handleLen) p p.length 1 (p.length - 1) 0

/-! ## Notifications -/

/-- The loop of gatt_process_notification over the tuples after the first of a multiple
notification: while more than four bytes remain, a handle and a length, the value cut to what
remains. -/
def multiNotifLoop (p : List UInt8) : (fuel i : Nat) → (remLen : Int) → Option (List (Nat × List UInt8))
  | 0, _, _ => some []
  | fuel + 1, i, remLen =>
    if remLen > 4 then do
      let handle ← u16At p i
      let len ← u16At p (i + 2)
      let len := min (remLen - 4).toNat len
      let value ← bytesAt p (i + 4) len
      let rest ← multiNotifLoop p fuel (i + 4 + len) (remLen - 4 - len)
      return (handle, value) :: rest
    else some []

/-- gatt_process_notification: the handles and values handed to the registered clients, in
order. `(int16_t)len` is kept to sixteen bits as the source does. -/
def gattProcessNotification (opCode : UInt8) (p : List UInt8) :
    Option (List (Nat × List UInt8)) := do
  if p.length < gattNotificationMinLen then return []
  let handle ← u16At p 0
  if !gattHandleIsValid handle then return []
  let multi := opCode = gattHandleMultiValueNotif
  if multi ∧ p.length < gattNotificationMinLen + 2 then return []
  let valueLen ← if multi then u16At p 2 else some (p.length - 2)
  if multi ∧ valueLen > p.length - 4 then return []
  if valueLen > gattMaxAttrLen then return []
  let value ← bytesAt p (if multi then 4 else 2) valueLen
  if !multi then return [(handle, value)]
  let rest ← multiNotifLoop p p.length (4 + valueLen)
    (Int.bmod (Int.bmod p.length 65536 - (4 + valueLen)) 65536)
  return (handle, value) :: rest

/-! ## The discovery procedure -/

/-- The request gatt_act_discovery sends: its opcode and range. -/
structure DiscRequest where
  opCode : UInt8
  sHandle : Nat
  eHandle : Nat
deriving DecidableEq, Repr

/-- gatt_act_discovery: the procedure ends where the start is past the end or 0, and otherwise
sends a request over the range. -/
def gattActDiscovery (c : Clcb) : Option DiscRequest :=
  if c.sHandle > c.eHandle ∨ c.sHandle = 0 then none
  else some ⟨discTypeToAttOpcode c.opSubtype, c.sHandle, c.eHandle⟩

/-- The handler a discovery's response goes to, by the procedure's type. -/
def discoveryRsp (payloadSize : Nat) (c : Clcb) (rsp : List UInt8) (stale : Nat) :
    Option (List DiscRes × ClNext) :=
  if c.opSubtype = gattDiscSrvcAll then gattProcessReadByTypeRsp payloadSize c gattRspReadByGrpType rsp
  else if c.opSubtype = gattDiscSrvcByUuid then gattProcessFindTypeValueRsp c rsp
  else if c.opSubtype = gattDiscCharDscpt then gattProcessReadInfoRsp c rsp stale
  else gattProcessReadByTypeRsp payloadSize c gattRspReadByType rsp

/-- The start handle of the next request, where the handler moves discovery on: the 128-bit
UUID of an included service read, discovery goes on past it. -/
def ClNext.discoveryStart : ClNext → Option Nat
  | .actDiscovery s => some s
  | .readInclUuid128 _ next _ => some next
  | _ => none

/-- The start handles of the requests a discovery procedure sends, against the server's
responses in turn. -/
def discoveryRun (payloadSize stale : Nat) (c : Clcb) : List (List UInt8) → List Nat
  | [] => (gattActDiscovery c).toList.map (·.sHandle)
  | rsp :: rsps =>
    match gattActDiscovery c with
    | none => []
    | some req =>
      req.sHandle :: match (discoveryRsp payloadSize c rsp stale).bind (·.2.discoveryStart) with
        | some s => discoveryRun payloadSize stale { c with sHandle := s } rsps
        | none => []

/-! ## Reads within the PDU

Each handler reads its PDU through Option-valued readers, so a read past the end would make
the model return none: that every handler returns a result says that it reads only the bytes
it was given. -/

theorem u16At_eq {p : List UInt8} {i : Nat} (h : i + 2 ≤ p.length) :
    u16At p i = some (p[i].toNat + p[i + 1].toNat * 256) := by
  simp [u16At, List.getElem?_eq_getElem (show i < p.length by omega),
    List.getElem?_eq_getElem (show i + 1 < p.length by omega)]

theorem bytesAt_eq {p : List UInt8} {i n : Nat} (h : i + n ≤ p.length) :
    bytesAt p i n = some ((p.drop i).take n) := by
  simp [bytesAt, h]

theorem uuidReadLen_le (size : Nat) : uuidReadLen size ≤ size := by
  unfold uuidReadLen
  split_ifs <;> omega

/-- gatt_parse_uuid_from_cmd moves past exactly the size it accepts. -/
theorem parseUuidAt_read {uuidRec : Uuid} {size : Nat} {p : List UInt8} {i : Nat}
    {ok : Bool} {u : Uuid} {read : Nat} (h : parseUuidAt uuidRec size p i = some (ok, u, read))
    (hok : ok = true) : read = size := by
  unfold parseUuidAt at h
  obtain ⟨bs, -, hbs⟩ := Option.map_eq_some_iff.mp h
  unfold gattParseUuidFromCmd at hbs
  split_ifs at hbs with h16 h128 h32 <;> simp_all

theorem parseUuidAt_isSome {uuidRec : Uuid} {size : Nat} {p : List UInt8} {i : Nat}
    (h : i + uuidReadLen size ≤ p.length) : (parseUuidAt uuidRec size p i).isSome := by
  simp [parseUuidAt, bytesAt_eq h]

/-- Find By Type Value reads its ranges only within the PDU. By induction on the fuel, the
invariant being that the ranges read so far and the bytes left fit in the PDU. -/
theorem findTypeValueLoop_isSome (uuid : Uuid) (p : List UInt8) :
    ∀ fuel i len eHandle, i + len ≤ p.length →
      (findTypeValueLoop uuid p fuel i len eHandle).isSome
  | 0, _, _, _, _ => rfl
  | fuel + 1, i, len, eHandle, hfit => by
    unfold findTypeValueLoop
    split_ifs with h4
    · obtain ⟨rs, hrs⟩ := Option.isSome_iff_exists.mp
        (findTypeValueLoop_isSome uuid p fuel (i + 4) (len - 4)
          (p[i + 2].toNat + p[i + 2 + 1].toNat * 256) (by omega))
      simp [u16At_eq (show i + 2 ≤ p.length by omega),
        u16At_eq (show i + 2 + 2 ≤ p.length by omega), hrs]
    · rfl

theorem bind_isSome_of {α β : Type} {x : Option α} {f : α → Option β} (hx : x.isSome)
    (hf : ∀ a, x = some a → (f a).isSome) : (x.bind f).isSome := by
  obtain ⟨a, ha⟩ := Option.isSome_iff_exists.mp hx
  rw [ha, Option.bind_some]
  exact hf a ha

theorem u16At_isSome {p : List UInt8} {i : Nat} (h : i + 2 ≤ p.length) : (u16At p i).isSome := by
  rw [u16At_eq h]
  rfl

/-- Find Information reads its entries only within the PDU; the UUID of an entry is read only
where the entry fits. -/
theorem readInfoLoop_isSome (c : Clcb) (uuidLen : Nat) (p : List UInt8) :
    ∀ fuel i len handle type, i + len ≤ p.length →
      (readInfoLoop c uuidLen p fuel i len handle type).isSome
  | 0, _, _, _, _, _ => rfl
  | fuel + 1, i, len, handle, type, hfit => by
    unfold readInfoLoop
    by_cases hlen : len ≥ uuidLen + 2
    · rw [if_pos hlen]
      simp only [Option.bind_eq_bind]
      refine bind_isSome_of (u16At_isSome (by omega)) fun h _ => ?_
      -- the UUID is read where there is one, and the next entry starts past it
      by_cases hpos : uuidLen > 0
      · rw [if_pos hpos]
        refine bind_isSome_of (parseUuidAt_isSome (by have := uuidReadLen_le uuidLen; omega))
          fun ⟨ok, u, read⟩ hparse => ?_
        cases ok
        · rfl
        · have hread := parseUuidAt_read hparse rfl
          exact bind_isSome_of (readInfoLoop_isSome c uuidLen p fuel _ _ h u (by dsimp only; omega))
            fun _ _ => rfl
      · rw [if_neg hpos, Option.bind_some]
        exact bind_isSome_of (readInfoLoop_isSome c uuidLen p fuel _ _ h c.uuid (by dsimp only; omega))
          fun _ _ => rfl
    · rw [if_neg hlen]
      rfl

theorem bytesAt_isSome {p : List UInt8} {i n : Nat} (h : i + n ≤ p.length) :
    (bytesAt p i n).isSome := by
  rw [bytesAt_eq h]
  rfl

/-- Read By Type reads its records only within the PDU. By induction on the fuel; each record
reads at most the `handleLen + valueLen` bytes the loop's guard has found left, and the loop moves
on by no more than it takes off what is left. -/
theorem readByTypeRspLoop_isSome (payloadSize : Nat) (c : Clcb) (opCode handleLen valueLen : UInt8)
    (p : List UInt8) (hhl : 2 ≤ handleLen.toNat)
    (hgrp : opCode = gattRspReadByGrpType → handleLen.toNat = 4) :
    ∀ fuel i len handle, i + len ≤ p.length →
      (readByTypeRspLoop payloadSize c opCode handleLen valueLen p fuel i len handle).isSome
  | 0, _, _, _, _ => rfl
  | fuel + 1, i, len, handle, hfit => by
    have ih := readByTypeRspLoop_isSome payloadSize c opCode handleLen valueLen p hhl hgrp fuel
    unfold readByTypeRspLoop
    by_cases hlen : len ≥ handleLen.toNat + valueLen.toNat
    swap
    · rw [if_neg hlen]
      rfl
    rw [if_pos hlen]
    simp only [Option.bind_eq_bind]
    refine bind_isSome_of (u16At_isSome (by omega)) fun h _ => ?_
    by_cases hvalid : gattHandleIsValid h = true
    swap
    · simp [hvalid]
    simp only [hvalid, Bool.not_true, Bool.false_eq_true, if_false]
    by_cases hall : c.operation = .discovery ∧ c.opSubtype = gattDiscSrvcAll ∧
        opCode = gattRspReadByGrpType
    · -- all services: the end handle and the service UUID fill the record
      rw [if_pos hall]
      have h4 := hgrp hall.2.2
      refine bind_isSome_of (u16At_isSome (by omega)) fun e _ => ?_
      by_cases hevalid : gattHandleIsValid e = true
      swap
      · simp [hevalid]
      simp only [hevalid, Bool.not_true, Bool.false_eq_true, if_false]
      refine bind_isSome_of (parseUuidAt_isSome (by have := uuidReadLen_le valueLen.toNat; omega))
        fun ⟨ok, u, read⟩ hparse => ?_
      cases ok
      · rfl
      · have hread := parseUuidAt_read hparse rfl
        exact bind_isSome_of (ih _ _ e (by dsimp only; omega)) fun _ _ => rfl
    rw [if_neg hall]
    by_cases hinc : c.operation = .discovery ∧ c.opSubtype = gattDiscIncSrvc
    · -- an included service: two handles, then a 16-bit UUID or none
      rw [if_pos hinc]
      by_cases hv4 : valueLen.toNat < 4
      · simp [hv4]
      simp only [hv4, if_false]
      refine bind_isSome_of (u16At_isSome (by omega)) fun s _ => ?_
      refine bind_isSome_of (u16At_isSome (by omega)) fun e _ => ?_
      by_cases hbad : (!gattHandleIsValid s || !gattHandleIsValid e) = true
      · simp [hbad]
      simp only [hbad, Bool.false_eq_true, if_false]
      by_cases hv6 : valueLen.toNat = 6
      · rw [if_pos hv6]
        refine bind_isSome_of (u16At_isSome (by omega)) fun _ _ => ?_
        exact bind_isSome_of (ih _ _ h (by omega)) fun _ _ => rfl
      · rw [if_neg hv6]
        split_ifs <;> rfl
    rw [if_neg hinc]
    by_cases hread : c.operation = .read ∧ c.opSubtype = gattReadByType
    · -- a read by type: every byte after the handle
      rw [if_pos hread]
      have hbytes := bytesAt_isSome (p := p) (i := i + 2) (n := len - 2) (by omega)
      obtain ⟨v, hv⟩ := Option.isSome_iff_exists.mp hbytes
      split_ifs <;> simp [hv]
    rw [if_neg hread]
    -- a characteristic declaration: properties, value handle, UUID
    by_cases hv3 : valueLen.toNat < 3
    · simp [hv3]
    simp only [hv3, if_false]
    have hmod : (valueLen.toNat - 3) % 65536 = valueLen.toNat - 3 := by
      have := valueLen.toNat_lt
      omega
    refine bind_isSome_of (by simp [List.getElem?_eq_getElem (show i + 2 < p.length by omega)])
      fun _ _ => ?_
    refine bind_isSome_of (u16At_isSome (by omega)) fun vh _ => ?_
    by_cases hvh : gattHandleIsValid vh = true
    swap
    · simp [hvh]
    simp only [hvh, Bool.not_true, Bool.false_eq_true, if_false]
    refine bind_isSome_of (parseUuidAt_isSome
      (by have := uuidReadLen_le ((valueLen.toNat - 3) % 65536); omega)) fun ⟨ok, u, read⟩ hparse => ?_
    cases ok
    · rfl
    have hr := parseUuidAt_read hparse rfl
    simp only [Bool.not_true, Bool.false_eq_true, if_false]
    split_ifs
    · exact ih _ _ h (by omega)
    · rfl
    · exact bind_isSome_of (ih _ _ h (by omega)) fun _ _ => rfl

theorem gattProcessReadByTypeRsp_isSome (payloadSize : Nat) (c : Clcb) (opCode : UInt8)
    (p : List UInt8) : (gattProcessReadByTypeRsp payloadSize c opCode p).isSome := by
  unfold gattProcessReadByTypeRsp
  by_cases hign : !c.discResCb ∧ c.operation = .discovery
  · rw [if_pos hign]
    rfl
  rw [if_neg hign]
  by_cases hmin : p.length < gattReadByTypeRspMinLen
  · rw [if_pos hmin]
    rfl
  rw [if_neg hmin]
  simp only [gattReadByTypeRspMinLen, not_lt] at hmin
  simp only [Option.bind_eq_bind, List.getElem?_eq_getElem (show 0 < p.length by omega),
    Option.bind_some]
  -- the handle is four bytes long exactly where the response is Read By Group Type
  split_ifs with herr hgrp
  · rfl
  · refine readByTypeRspLoop_isSome _ _ _ _ _ _ ?_ (fun _ => rfl) _ _ _ _ ?_
    · decide
    · omega
  · refine readByTypeRspLoop_isSome _ _ _ _ _ _ ?_ (fun h => absurd h hgrp) _ _ _ _ ?_
    · decide
    · omega

theorem gattProcessFindTypeValueRsp_isSome (c : Clcb) (p : List UInt8) :
    (gattProcessFindTypeValueRsp c p).isSome := by
  unfold gattProcessFindTypeValueRsp
  by_cases hop : c.operation ≠ .discovery ∨ c.opSubtype ≠ gattDiscSrvcByUuid
  · rw [if_pos hop]
    rfl
  rw [if_neg hop]
  exact bind_isSome_of (findTypeValueLoop_isSome _ _ _ _ _ _ (by omega)) fun ⟨_, _⟩ _ => rfl

theorem gattProcessReadInfoRsp_isSome (c : Clcb) (p : List UInt8) (stale : Nat) :
    (gattProcessReadInfoRsp c p stale).isSome := by
  unfold gattProcessReadInfoRsp
  by_cases hmin : p.length < gattInfoRspMinLen
  · rw [if_pos hmin]
    rfl
  rw [if_neg hmin]
  by_cases hop : c.operation ≠ .discovery ∨ c.opSubtype ≠ gattDiscCharDscpt
  · rw [if_pos hop]
    rfl
  rw [if_neg hop]
  simp only [gattInfoRspMinLen, not_lt] at hmin
  simp only [Option.bind_eq_bind, List.getElem?_eq_getElem (show 0 < p.length by omega),
    Option.bind_some]
  exact bind_isSome_of (readInfoLoop_isSome _ _ _ _ _ _ _ _ (by omega)) fun ⟨_, _⟩ _ => rfl

/-- The tuples of a multiple notification are read within the PDU while the remainder the loop
counts down is at most what is left of it. -/
theorem multiNotifLoop_isSome (p : List UInt8) :
    ∀ (fuel i : Nat) (remLen : Int), remLen ≤ (p.length : Int) - i → (multiNotifLoop p fuel i remLen).isSome
  | 0, _, _, _ => rfl
  | fuel + 1, i, remLen, hrem => by
    unfold multiNotifLoop
    split_ifs with hmore
    swap
    · rfl
    simp only [Option.bind_eq_bind]
    refine bind_isSome_of (u16At_isSome (by omega)) fun _ _ => ?_
    refine bind_isSome_of (u16At_isSome (by omega)) fun len _ => ?_
    refine bind_isSome_of (bytesAt_isSome (by omega)) fun _ _ => ?_
    exact bind_isSome_of (multiNotifLoop_isSome p fuel _ _ (by omega)) fun _ _ => rfl

/-- The sixteen-bit remainder the source starts the loop with is at most what is left of a PDU:
it is that count itself below 0x8000, and below 0x8000 anyway. -/
theorem bmod_remainder_le (n i : Nat) (h : i ≤ n) :
    Int.bmod (Int.bmod n 65536 - i) 65536 ≤ (n : Int) - i := by
  rw [Int.bmod_sub_bmod]
  unfold Int.bmod
  dsimp only
  split_ifs <;> omega

theorem gattProcessNotification_isSome (opCode : UInt8) (p : List UInt8) :
    (gattProcessNotification opCode p).isSome := by
  unfold gattProcessNotification
  split_ifs with hmin
  · rfl
  simp only [gattNotificationMinLen, not_lt] at hmin
  simp only [Option.bind_eq_bind]
  refine bind_isSome_of (u16At_isSome (by omega)) fun handle _ => ?_
  by_cases hinv : (!gattHandleIsValid handle) = true
  · rw [if_pos hinv]
    rfl
  rw [if_neg hinv]
  by_cases hmulti : opCode = gattHandleMultiValueNotif
  · -- a multiple notification: the first length is read, the rest go to the loop
    subst hmulti
    simp only [true_and, if_true, decide_true, Bool.not_true,
      Bool.false_eq_true, if_false]
    by_cases hshort : p.length < gattNotificationMinLen + 2
    · rw [if_pos hshort]
      rfl
    rw [if_neg hshort]
    simp only [gattNotificationMinLen, not_lt] at hshort
    refine bind_isSome_of (u16At_isSome (by omega)) fun valueLen _ => ?_
    split_ifs with hlong
    · rfl
    · rfl
    refine bind_isSome_of (bytesAt_isSome (by omega)) fun _ _ => ?_
    refine bind_isSome_of (multiNotifLoop_isSome _ _ _ _ ?_) fun _ _ => rfl
    have := bmod_remainder_le p.length (4 + valueLen) (by omega)
    push_cast at this
    exact this
  · simp only [hmulti, false_and, if_false, decide_false, Bool.not_false, if_true,
      Option.bind_some]
    split_ifs
    · rfl
    exact bind_isSome_of (bytesAt_isSome (by omega)) fun _ _ => rfl

/-! ## Where discovery goes next -/

theorem readInfoLoop_sHandle (c : Clcb) (s uuidLen : Nat) (p : List UInt8) :
    ∀ fuel i len handle type,
      readInfoLoop { c with sHandle := s } uuidLen p fuel i len handle type =
        readInfoLoop c uuidLen p fuel i len handle type
  | 0, _, _, _, _ => rfl
  | fuel + 1, i, len, handle, type => by
    simp only [readInfoLoop, readInfoLoop_sHandle c s uuidLen p fuel]

theorem readByTypeRspLoop_sHandle (payloadSize : Nat) (c : Clcb) (opCode handleLen valueLen : UInt8)
    (p : List UInt8) (s : Nat) : ∀ fuel i len handle,
      readByTypeRspLoop payloadSize { c with sHandle := s } opCode handleLen valueLen p fuel i len handle =
        readByTypeRspLoop payloadSize c opCode handleLen valueLen p fuel i len handle
  | 0, _, _, _ => rfl
  | fuel + 1, i, len, handle => by
    simp only [readByTypeRspLoop, readByTypeRspLoop.afterReadByType, deliver,
      readByTypeRspLoop_sHandle payloadSize c opCode handleLen valueLen p s fuel]

/-- The handlers never look at the start handle of the request they answer: a response moves
discovery on to the same place from wherever the request started. -/
theorem discoveryRsp_sHandle (payloadSize : Nat) (c : Clcb) (s : Nat) (rsp : List UInt8)
    (stale : Nat) :
    discoveryRsp payloadSize { c with sHandle := s } rsp stale = discoveryRsp payloadSize c rsp stale := by
  simp only [discoveryRsp, gattProcessReadByTypeRsp, gattProcessFindTypeValueRsp,
    gattProcessReadInfoRsp, readByTypeRspLoop_sHandle, readInfoLoop_sHandle]

theorem gattActDiscovery_of_le (c : Clcb) (hs : 0 < c.sHandle) (hle : c.sHandle ≤ c.eHandle) :
    gattActDiscovery c = some ⟨discTypeToAttOpcode c.opSubtype, c.sHandle, c.eHandle⟩ := by
  unfold gattActDiscovery
  rw [if_neg (by omega)]

/-- A characteristic discovery answered by a record at handle 5, its value at handle 6: the
request goes out at the procedure's start, and the next one at 6 whatever that start was. -/
theorem discoveryRun_char_at_five (s : Nat) (hs : 0 < s) (hle : s ≤ 0xFFFF)
    (rsps : List (List UInt8)) :
    discoveryRun 23 0 ⟨.discovery, gattDiscChar, s, 0xFFFF, Uuid.kEmpty, true⟩
        ([7, 5, 0, 2, 6, 0, 0x19, 0x2A] :: rsps) =
      s :: discoveryRun 23 0 ⟨.discovery, gattDiscChar, 6, 0xFFFF, Uuid.kEmpty, true⟩ rsps := by
  have hnext : (discoveryRsp 23 ⟨.discovery, gattDiscChar, s, 0xFFFF, Uuid.kEmpty, true⟩
      [7, 5, 0, 2, 6, 0, 0x19, 0x2A] 0).bind (·.2.discoveryStart) = some 6 := by
    rw [show (⟨.discovery, gattDiscChar, s, 0xFFFF, Uuid.kEmpty, true⟩ : Clcb) =
      { (⟨.discovery, gattDiscChar, 10, 0xFFFF, Uuid.kEmpty, true⟩ : Clcb) with sHandle := s }
      from rfl, discoveryRsp_sHandle]
    decide
  have hreq := gattActDiscovery_of_le ⟨.discovery, gattDiscChar, s, 0xFFFF, Uuid.kEmpty, true⟩ hs hle
  simp only [discoveryRun, hreq, hnext]

/-- No handler compares the next start with the start of the request it answers: a server that
answers every characteristic discovery with the record at handle 5 holds the procedure at
handle 6 for as many requests as it answers, from any start. -/
theorem discovery_start_rewinds (s n : Nat) (hs : 0 < s) (hle : s ≤ 0xFFFF) :
    discoveryRun 23 0 ⟨.discovery, gattDiscChar, s, 0xFFFF, Uuid.kEmpty, true⟩
      (List.replicate n [7, 5, 0, 2, 6, 0, 0x19, 0x2A]) = s :: List.replicate n 6 := by
  induction n generalizing s hs hle with
  | zero =>
    simp [discoveryRun,
      gattActDiscovery_of_le ⟨.discovery, gattDiscChar, s, 0xFFFF, Uuid.kEmpty, true⟩ hs hle]
  | succ n ih =>
    rw [List.replicate_succ, discoveryRun_char_at_five s hs hle, ih 6 (by decide) (by decide),
      List.replicate_succ]

theorem discovery_start_rewinds_from_ten :
    discoveryRun 23 0 ⟨.discovery, gattDiscChar, 10, 0xFFFF, Uuid.kEmpty, true⟩
      (List.replicate 3 [7, 5, 0, 2, 6, 0, 0x19, 0x2A]) = [10, 6, 6, 6] :=
  discovery_start_rewinds 10 3 (by decide) (by decide)

/-! ## What the handlers deliver -/

/-- A Read Using Characteristic UUID answered with a valid first record and a remainder that is
not a full MTU: the operation ends with every byte after the first handle as its value. -/
theorem gattProcessReadByTypeRsp_read_rest (payloadSize : Nat) (c : Clcb)
    (v lo hi : UInt8) (rest : List UInt8)
    (hop : c.operation = .read) (hsub : c.opSubtype = gattReadByType) (hv2 : 2 ≤ v.toNat) (hvmtu : v.toNat + 2 ≤ payloadSize)
    (hvlen : v.toNat ≤ rest.length + 2) (hvalid : lo.toNat + hi.toNat * 256 ≠ 0)
    (hfull : rest.length ≠ payloadSize - 4) :
    gattProcessReadByTypeRsp payloadSize c gattRspReadByType (v :: lo :: hi :: rest) =
      some ([], .endOperation .success (some rest)) := by
  have hv : (v - 2).toNat = v.toNat - 2 := by
    rw [UInt8.toNat_sub_of_le _ _ (by simpa [UInt8.le_iff_toNat_le] using hv2)]
    rfl
  have hloop : readByTypeRspLoop payloadSize c gattRspReadByType 2 (v - 2) (v :: lo :: hi :: rest)
      (rest.length + 3) 1 (rest.length + 2) 0 = some ([], .endOperation .success (some rest)) := by
    rw [readByTypeRspLoop, if_pos (by rw [hv]; simp; omega)]
    simp only [u16At, bytesAt, List.getElem?_cons_zero, List.getElem?_cons_succ,
      Option.bind_eq_bind, Option.bind_some]
    have hne : ¬(lo.toNat = 0 ∧ hi.toNat = 0) := by omega
    have hfit : 3 + rest.length ≤ rest.length + 1 + 1 + 1 := by omega
    simp [gattHandleIsValid, hne, hop, hsub, hfull, hfit]
  have hlen : (v :: lo :: hi :: rest).length = rest.length + 3 := by simp
  simp only [gattProcessReadByTypeRsp, hop, hlen, List.getElem?_cons_zero, Option.bind_eq_bind,
    Option.bind_some, show gattRspReadByType ≠ gattRspReadByGrpType by decide, if_false]
  rw [if_neg (by simp), if_neg (by simp [gattReadByTypeRspMinLen]), if_neg (by omega)]
  exact hloop

theorem clientRsp_value_overrun_tuple_lost :
    ((∀ payloadSize c opCode p, (gattProcessReadByTypeRsp payloadSize c opCode p).isSome) ∧
      (∀ c p stale, (gattProcessReadInfoRsp c p stale).isSome) ∧
      (∀ c p, (gattProcessFindTypeValueRsp c p).isSome) ∧
      (∀ opCode p, (gattProcessNotification opCode p).isSome)) ∧
    (∀ payloadSize (c : Clcb) (v lo hi : UInt8) (rest : List UInt8),
      c.operation = .read → c.opSubtype = gattReadByType → 2 ≤ v.toNat →
      v.toNat + 2 ≤ payloadSize → v.toNat ≤ rest.length + 2 → lo.toNat + hi.toNat * 256 ≠ 0 →
      rest.length ≠ payloadSize - 4 →
      gattProcessReadByTypeRsp payloadSize c gattRspReadByType (v :: lo :: hi :: rest) =
        some ([], .endOperation .success (some rest))) ∧
    gattProcessNotification gattHandleMultiValueNotif [1, 0, 1, 0, 0xAA, 2, 0, 0, 0] =
      some [(1, [0xAA])] :=
  ⟨⟨gattProcessReadByTypeRsp_isSome, gattProcessReadInfoRsp_isSome,
      gattProcessFindTypeValueRsp_isSome, gattProcessNotification_isSome⟩,
    gattProcessReadByTypeRsp_read_rest, by decide⟩

/-- Two records of a Read Using Characteristic UUID response: the value of the first is
[0xAA, 0xBB], and the operation ends with all six bytes after its handle. -/
theorem clientRsp_value_overrun_two_records :
    gattProcessReadByTypeRsp 23 ⟨.read, gattReadByType, 1, 0xFFFF, Uuid.kEmpty, true⟩
      gattRspReadByType [4, 3, 0, 0xAA, 0xBB, 5, 0, 0xCC, 0xDD] =
        some ([], .endOperation .success (some [0xAA, 0xBB, 5, 0, 0xCC, 0xDD])) :=
  clientRsp_value_overrun_tuple_lost.2.1 23 ⟨.read, gattReadByType, 1, 0xFFFF, Uuid.kEmpty, true⟩
    4 3 0 [0xAA, 0xBB, 5, 0, 0xCC, 0xDD] rfl rfl (by decide) (by decide) (by decide) (by decide)
    (by decide)

end BluetoothStack.Gatt
