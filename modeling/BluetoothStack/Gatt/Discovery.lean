import BluetoothStack.Gatt.Database
import BluetoothStack.Lib.SortedFilter

/-!
# Discovery responses of the GATT server

The three ATT requests a client discovers a server with, as gatt_sr.cc and gatt_db.cc answer them
over `srv_list_info`: Read By Group Type and Find By Type Value (`gatt_build_primary_service_rsp`),
Read By Type (`gatts_process_read_by_type_req` over `gatts_db_read_attr_value_by_type`) and Find
Information (`gatts_process_find_info` over `gatt_build_find_info_rsp`). The requests are taken
with their handles and UUIDs decoded; the responses with their length or format byte and their
entries, each a handle and the bytes after it.

Each builder walks the started services in order and the attributes of each service that meets
the range, and stops at the first thing that does not fit. What it lists is a prefix of what the
walk visits (`readByTypeRsp_prefix`, `findInfoRsp_prefix`, `primaryServiceRsp_prefix`). The
walks differ from the ranges the requests name: `gatts_db_read_attr_value_by_type` never looks
at the end handle, so Read By Type lists the attributes of the type that lie past the end of the
range in the last service it visits; and `gatt_build_find_info_rsp` returns after the first
attribute of each service, so Find Information lists one attribute per service and skips the
others (`discovery_range_and_gaps`).
-/

namespace BluetoothStack.Gatt

open Bytes

/-! ## Reading an attribute value -/

/-- `tGATT_SEC_FLAG`: the security of the link. -/
structure SecFlag where
  isLinkKeyKnown : Bool
  isLinkKeyAuthed : Bool
  isEncrypted : Bool
deriving DecidableEq, Repr

/-- `gatts_check_attr_readability`. -/
def gattsCheckAttrReadability (attr : GattAttr) (readLong : Bool) (secFlag : SecFlag)
    (keySize : Nat) : GattStatus :=
  let perm := attr.permission
  let minKeySize := if (perm &&& gattEncryptKeySizeMask) >>> 12 ≠ 0 then
    ((perm &&& gattEncryptKeySizeMask) >>> 12) + 6 else 0
  if perm &&& gattReadAllowed = 0 then .readNotPermit
  else if perm &&& gattReadAuthRequired ≠ 0 ∧ !secFlag.isLinkKeyKnown ∧ !secFlag.isEncrypted then
    .insufAuthentication
  else if perm &&& gattReadMitmRequired ≠ 0 ∧ !secFlag.isLinkKeyAuthed then .insufAuthentication
  else if perm &&& gattReadEncryptedRequired ≠ 0 ∧ !secFlag.isEncrypted then .insufEncryption
  else if perm &&& gattReadEncryptedRequired ≠ 0 ∧ secFlag.isEncrypted ∧ keySize < minKeySize then
    .insufKeySize
  else if readLong ∧ attr.uuid.is16Bit ∧ attr.uuid.as16Bit ∈ [gattUuidPriService,
      gattUuidSecService, gattUuidCharDeclare, gattUuidIncludeService, gattUuidCharExtProp,
      gattUuidCharClientConfig, gattUuidCharSrvrConfig, gattUuidCharPresentFormat] then .notLong
  else .success

/-- `gatt_build_uuid_to_stream_len`: a 32-bit UUID goes out as 128 bits. -/
def gattBuildUuidToStreamLen (u : Uuid) : Nat :=
  if u.getShortestRepresentationSize = Uuid.kNumBytes32 then Uuid.kNumBytes128
  else u.getShortestRepresentationSize

/-- The bytes `gatt_build_uuid_to_stream` writes: two for a 16-bit UUID, sixteen otherwise (for
the empty UUID it writes none, and the sixteen bytes counted for it are the zeroed buffer's, which
is what `To128BitLE` gives). -/
def gattBuildUuidToStream (u : Uuid) : List UInt8 :=
  if u.getShortestRepresentationSize = Uuid.kNumBytes16 then leBytes 2 u.as16Bit
  else u.to128BitLE

/-- The service UUID of a service declaration's value. -/
def AttrValue.serviceUuid : AttrValue → Uuid
  | .uuid u => u
  | _ => Uuid.kEmpty

/-- `read_attr_value` at offset 0 into a response of `mtu` bytes: the status and, on success, the
value; `next` is the attribute after it, which a characteristic declaration reads through
`&attr16 + 1`. -/
def readAttrValue (attr : GattAttr) (next : Option GattAttr) (readLong : Bool) (mtu : Nat)
    (secFlag : SecFlag) (keySize : Nat) : GattStatus × List UInt8 :=
  match gattsCheckAttrReadability attr readLong secFlag keySize with
  | .success =>
    if !attr.uuid.is16Bit then (.pending, [])
    else
      let uuid16 := attr.uuid.as16Bit
      if uuid16 = gattUuidPriService ∨ uuid16 = gattUuidSecService then
        let u := attr.pValue.serviceUuid
        if mtu < gattBuildUuidToStreamLen u then (.noResources, [])
        else (.success, gattBuildUuidToStream u)
      else if uuid16 = gattUuidCharDeclare then
        let valUuid := (next.map GattAttr.uuid).getD Uuid.kEmpty
        let valLen := valUuid.getShortestRepresentationSize
        let pLen := if valLen = Uuid.kNumBytes16 then 5 else 19
        if mtu < pLen then (.noResources, [])
        else
          let (property, charValHandle) := match attr.pValue with
            | .charDecl p h => (p, h)
            | _ => (0, 0)
          (.success, leBytes 1 property ++ leBytes 2 charValHandle ++
            if valLen = Uuid.kNumBytes16 then leBytes 2 valUuid.as16Bit else valUuid.to128BitLE)
      else if uuid16 = gattUuidIncludeService then
        let (sHandle, eHandle, serviceType) := match attr.pValue with
          | .inclHandle s e t => (s, e, t)
          | _ => (0, 0, Uuid.kEmpty)
        let pLen := if serviceType.is16Bit then 6 else 4
        if mtu < pLen then (.noResources, [])
        else (.success, leBytes 2 sHandle ++ leBytes 2 eHandle ++
          if serviceType.is16Bit then leBytes 2 serviceType.as16Bit else [])
      else if uuid16 = gattUuidCharExtProp then
        -- the descriptor may have been added without a value
        let charExtProp := match attr.pValue with
          | .charExtProp v => v
          | _ => 0x0000
        if mtu < 2 then (.noResources, []) else (.success, leBytes 2 charExtProp)
      else (.pending, [])
  | st => (st, [])

/-- `gatts_send_app_read_request` as a discovery request calls it: the application is asked for
the value (`GATT_PENDING`) if no other request of the connection waits for it (`cmdFree`), and
the attribute is a characteristic value or a descriptor. -/
def gattsSendAppReadRequest (gattType : DbAttributeType) (cmdFree : Bool) : GattStatus :=
  if !cmdFree then .busy
  else if gattType = .descriptor ∨ gattType = .characteristic then .pending
  else .error

/-! ## Responses -/

/-- A response being built: the entry length or format byte (`p_msg->offset`), `0` until the
first entry sets it, and the entries so far. -/
structure RspBuf where
  offset : Nat
  entries : List (Nat × List UInt8)
deriving DecidableEq, Repr

/-- What the server sends for a request: a response with its length or format byte and its
entries, an Error Response with the reason and the handle, or nothing yet (the application is
asked for a value, or the connection is busy). -/
inductive AttReply where
  | rsp (format : Nat) (entries : List (Nat × List UInt8))
  | error (reason : GattStatus) (handle : Nat)
  | noReply
deriving DecidableEq, Repr

/-- The handles a reply lists. -/
def AttReply.handles : AttReply → List Nat
  | .rsp _ entries => entries.map Prod.fst
  | _ => []

/-- Whether a started service meets the range `[s, e]`. -/
def overlaps (s e : Nat) (el : SrvListElem) : Bool :=
  el.sHdl ≤ e && el.eHdl ≥ s

/-- `read_handles`: the range of a request, valid when it is not empty and names no handle 0. -/
def validRange (s e : Nat) : Bool :=
  !(s > e || s = 0 || e = 0)

/-! ## Read By Type -/

/-- The attribute loop of `gatts_db_read_attr_value_by_type` over one service from `attrs` on,
with `pLen` bytes left: the status, the response, the bytes left and the handle of an attribute
that could not be read. Every attribute of the type from `s` on is read, whatever the end of the
range. -/
def readAttrValueByType (s : Nat) (type : Uuid) (secFlag : SecFlag) (keySize : Nat)
    (cmdFree : Bool) (status : GattStatus) (buf : RspBuf) (pLen : Nat) :
    List GattAttr → GattStatus × RspBuf × Nat × Option Nat
  | [] => (status, buf, pLen, none)
  | attr :: rest =>
    if attr.handle ≥ s ∧ type = attr.uuid then
      if pLen ≤ 2 then (.noResources, buf, pLen, none)
      else
        match readAttrValue attr rest.head? false (pLen - 2) secFlag keySize with
        | (.pending, _) =>
          -- one callback at a time
          (gattsSendAppReadRequest attr.gattType cmdFree, buf, pLen, none)
        | (.success, value) =>
          let offset := if buf.offset = 0 then value.length + 2 else buf.offset
          if offset = value.length + 2 then
            readAttrValueByType s type secFlag keySize cmdFree .success
              ⟨offset, buf.entries ++ [(attr.handle, value)]⟩ (pLen - (value.length + 2)) rest
          else (.noResources, { buf with offset := offset }, pLen, none)
        | (st, _) => (st, buf, pLen, some attr.handle)
    else readAttrValueByType s type secFlag keySize cmdFree status buf pLen rest

/-- The service loop of `gatts_process_read_by_type_req` from `srvList` on: the reason, the
response, the bytes left and the handle an error response names. -/
def readByTypeLoop (s e : Nat) (type : Uuid) (secFlag : SecFlag) (keySize : Nat) (cmdFree : Bool)
    (reason : GattStatus) (buf : RspBuf) (bufLen : Nat) :
    List SrvListElem → GattStatus × RspBuf × Nat
  | [] => (reason, buf, s)
  | el :: els =>
    if overlaps s e el then
      let (ret, buf, bufLen, errHdl) :=
        readAttrValueByType s type secFlag keySize cmdFree .notFound buf bufLen el.pDb.attrList
      let reason := if ret ≠ .notFound then (if ret = .noResources then .success else ret)
        else reason
      if ret ≠ .success ∧ ret ≠ .notFound then (reason, buf, errHdl.getD 0)
      else readByTypeLoop s e type secFlag keySize cmdFree reason buf bufLen els
    else readByTypeLoop s e type secFlag keySize cmdFree reason buf bufLen els

/-- `gatts_process_read_by_type_req` for the range `[s, e]` and the type, with a payload of
`payloadSize` bytes. -/
def gattsProcessReadByTypeReq (srvList : List SrvListElem) (s e : Nat) (type : Uuid)
    (payloadSize : Nat) (secFlag : SecFlag) (keySize : Nat) (cmdFree : Bool) : AttReply :=
  if !validRange s e then .error .invalidHandle s
  else
    let (reason, buf, errHdl) :=
      readByTypeLoop s e type secFlag keySize cmdFree .notFound ⟨0, []⟩ (payloadSize - 2) srvList
    if reason = .success then .rsp buf.offset buf.entries
    else if reason ≠ .pending ∧ reason ≠ .busy then .error reason errHdl
    else .noReply

/-! ## Find Information -/

/-- `info_pair_len[offset - 1]`: a handle and a 16-bit or a 128-bit UUID. -/
def infoPairLen (offset : Nat) : Nat := if offset = gattInfoTypePair16 then 4 else 18

/-- The attribute loop of `gatt_build_find_info_rsp` over one service: it returns after the first
attribute of the range it lists. -/
def gattBuildFindInfoRsp (s e : Nat) (buf : RspBuf) (len : Nat) :
    List GattAttr → GattStatus × RspBuf × Nat
  | [] => (.notFound, buf, len)
  | attr :: rest =>
    if attr.handle > e then (.notFound, buf, len)
    else if attr.handle < s then gattBuildFindInfoRsp s e buf len rest
    else
      let uuidLen := attr.uuid.getShortestRepresentationSize
      let offset := if buf.offset = 0 then
        (if uuidLen = Uuid.kNumBytes16 then gattInfoTypePair16 else gattInfoTypePair128)
        else buf.offset
      let buf := { buf with offset := offset }
      if len < infoPairLen offset then (.noResources, buf, len)
      else if offset = gattInfoTypePair16 ∧ uuidLen = Uuid.kNumBytes16 then
        (.success, { buf with entries := buf.entries ++ [(attr.handle, leBytes 2 attr.uuid.as16Bit)] },
          len - infoPairLen offset)
      else if offset = gattInfoTypePair128 ∧
          (uuidLen = Uuid.kNumBytes128 ∨ uuidLen = Uuid.kNumBytes32) then
        (.success, { buf with entries := buf.entries ++ [(attr.handle, attr.uuid.to128BitLE)] },
          len - infoPairLen offset)
      else (.noResources, buf, len)

/-- The service loop of `gatts_process_find_info` from `srvList` on. -/
def findInfoLoop (s e : Nat) (reason : GattStatus) (buf : RspBuf) (bufLen : Nat) :
    List SrvListElem → GattStatus × RspBuf
  | [] => (reason, buf)
  | el :: els =>
    if overlaps s e el then
      let (reason, buf, bufLen) := gattBuildFindInfoRsp s e buf bufLen el.pDb.attrList
      if reason = .noResources then (.success, buf)
      else findInfoLoop s e reason buf bufLen els
    else findInfoLoop s e reason buf bufLen els

/-- `gatts_process_find_info` for the range `[s, e]`, with a payload of `payloadSize` bytes. -/
def gattsProcessFindInfo (srvList : List SrvListElem) (s e payloadSize : Nat) : AttReply :=
  if !validRange s e then .error .invalidHandle s
  else
    let (reason, buf) := findInfoLoop s e .notFound ⟨0, []⟩ (payloadSize - 2) srvList
    if reason ≠ .success then .error reason s else .rsp buf.offset buf.entries

/-! ## Read By Group Type and Find By Type Value -/

/-- The two requests `gatt_build_primary_service_rsp` answers. -/
inductive PrimaryOp where
  | readByGrpType
  | findTypeValue
deriving DecidableEq, Repr

/-- The service loop of `gatt_build_primary_service_rsp` from `srvList` on: the status, the
response and its length so far. -/
def primaryServiceLoop (op : PrimaryOp) (s e : Nat) (value : Uuid) (payloadSize : Nat)
    (lastServiceHandle : Nat) (status : GattStatus) (handleLen : Nat) (buf : RspBuf)
    (len : Nat) : List SrvListElem → GattStatus × RspBuf
  | [] => (status, buf)
  | el :: els =>
    if el.sHdl < s ∨ el.sHdl > e ∨ el.type ≠ gattUuidPriService then
      primaryServiceLoop op s e value payloadSize lastServiceHandle status handleLen buf len els
    else
      match gattsGetServiceUuid el.pDb with
      | none =>
        primaryServiceLoop op s e value payloadSize lastServiceHandle status handleLen buf len els
      | some u =>
        let handleLen := if op = .readByGrpType then 4 + gattBuildUuidToStreamLen u else handleLen
        -- the first entry fixes the length, after the opcode and, for Read By Group Type, the
        -- length byte
        let (buf, len) := if buf.offset = 0 then
          ({ buf with offset := handleLen }, len + 1 + (if op = .readByGrpType then 1 else 0))
          else (buf, len)
        if len + buf.offset > payloadSize ∨ handleLen ≠ buf.offset then (status, buf)
        else if op = .findTypeValue ∧ value ≠ u then
          primaryServiceLoop op s e value payloadSize lastServiceHandle status handleLen buf len els
        else
          -- the last service ends at 0xFFFF
          let eHdl := if lastServiceHandle ≠ 0 ∧ lastServiceHandle = el.sHdl then 0xFFFF
            else el.eHdl
          let entry := (el.sHdl, leBytes 2 eHdl ++
            if op = .readByGrpType then gattBuildUuidToStream u else [])
          primaryServiceLoop op s e value payloadSize lastServiceHandle .success handleLen
            { buf with entries := buf.entries ++ [entry] } (len + buf.offset) els

/-- `gatts_process_primary_service_req` for the range `[s, e]`, the group or attribute type and,
for Find By Type Value, the value. -/
def gattsProcessPrimaryServiceReq (g : GattServer) (op : PrimaryOp) (s e : Nat) (type value : Uuid)
    (payloadSize : Nat) : AttReply :=
  if !validRange s e then .error .invalidHandle s
  else if type ≠ Uuid.from16Bit gattUuidPriService then
    if op = .readByGrpType then .error .unsupportGrpType s else .error .notFound s
  else
    let (status, buf) := primaryServiceLoop op s e value payloadSize g.lastServiceHandle .notFound 4
      ⟨0, []⟩ 0 g.srvListInfo
    if status ≠ .success then .error status s else .rsp buf.offset buf.entries

/-! ## What the builders list -/

theorem gattsCheckAttrReadability_ne_notFound (attr : GattAttr) (readLong : Bool)
    (secFlag : SecFlag) (keySize : Nat) :
    gattsCheckAttrReadability attr readLong secFlag keySize ≠ .notFound := by
  unfold gattsCheckAttrReadability
  dsimp only
  split_ifs <;> simp

theorem readAttrValue_ne_notFound (attr : GattAttr) (next : Option GattAttr) (readLong : Bool)
    (mtu : Nat) (secFlag : SecFlag) (keySize : Nat) :
    (readAttrValue attr next readLong mtu secFlag keySize).1 ≠ .notFound := by
  unfold readAttrValue
  split
  · dsimp only
    split_ifs <;> simp
  · exact gattsCheckAttrReadability_ne_notFound attr readLong secFlag keySize

theorem gattsSendAppReadRequest_stops (gattType : DbAttributeType) (cmdFree : Bool) :
    gattsSendAppReadRequest gattType cmdFree ≠ .success ∧
      gattsSendAppReadRequest gattType cmdFree ≠ .notFound := by
  unfold gattsSendAppReadRequest
  split_ifs <;> simp

/-- The attributes Read By Type reads in a service: those of the type from `s` on. -/
def matchesType (s : Nat) (type : Uuid) (a : GattAttr) : Bool :=
  decide (a.handle ≥ s ∧ type = a.uuid)

/-- The attribute loop of Read By Type appends the first attributes of the type from `s` on, all
of them when it ends with `GATT_SUCCESS` or `GATT_NOT_FOUND`. -/
theorem readAttrValueByType_entries (s : Nat) (type : Uuid) (secFlag : SecFlag) (keySize : Nat)
    (cmdFree : Bool) : ∀ (attrs : List GattAttr) (status : GattStatus) (buf : RspBuf) (pLen : Nat),
    ∃ pre, (readAttrValueByType s type secFlag keySize cmdFree status buf pLen attrs).2.1.entries =
        buf.entries ++ pre ∧
      List.IsPrefix (pre.map Prod.fst) ((attrs.filter (matchesType s type)).map GattAttr.handle) ∧
      ((readAttrValueByType s type secFlag keySize cmdFree status buf pLen attrs).1 = .success ∨
        (readAttrValueByType s type secFlag keySize cmdFree status buf pLen attrs).1 = .notFound →
        pre.map Prod.fst = (attrs.filter (matchesType s type)).map GattAttr.handle)
  | [], status, buf, pLen => ⟨[], by simp [readAttrValueByType]⟩
  | attr :: rest, status, buf, pLen => by
    by_cases hm : attr.handle ≥ s ∧ type = attr.uuid
    · have hf : (attr :: rest).filter (matchesType s type) =
          attr :: rest.filter (matchesType s type) :=
        List.filter_cons_of_pos (by simp [matchesType, hm])
      rw [hf]
      -- a stop appends nothing, and its status is neither of the two
      have hstop : ∀ st : GattStatus, st ≠ .success → st ≠ .notFound →
          ∃ pre, buf.entries = buf.entries ++ pre ∧
            List.IsPrefix (pre.map Prod.fst)
              ((attr :: rest.filter (matchesType s type)).map GattAttr.handle) ∧
            (st = .success ∨ st = .notFound →
              pre.map Prod.fst = (attr :: rest.filter (matchesType s type)).map GattAttr.handle) :=
        fun st h₁ h₂ => ⟨[], by simp, List.nil_prefix, fun h => (h.elim h₁ h₂).elim⟩
      simp only [readAttrValueByType, if_pos hm]
      split
      · exact hstop _ (by simp) (by simp)
      split
      · exact hstop _ (gattsSendAppReadRequest_stops _ _).1 (gattsSendAppReadRequest_stops _ _).2
      · -- a value read: it goes in if its length is the response's
        rename_i value _
        generalize (if buf.offset = 0 then value.length + 2 else buf.offset) = offset
        split
        · obtain ⟨pre, hpre, hpfx, hfull⟩ := readAttrValueByType_entries s type secFlag keySize
            cmdFree rest .success ⟨offset, buf.entries ++ [(attr.handle, value)]⟩
            (pLen - (value.length + 2))
          refine ⟨(attr.handle, value) :: pre, ?_, ?_, fun h => ?_⟩
          · rw [hpre, List.append_assoc, List.singleton_append]
          · simpa using hpfx
          · simp [hfull h]
        · exact hstop _ (by simp) (by simp)
      · -- a read that failed stops the loop with its status
        rename_i st _ _ hsucc hr
        refine hstop _ hsucc (fun h => ?_)
        exact readAttrValue_ne_notFound attr rest.head? false (pLen - 2) secFlag keySize
          (by rw [hr]; exact h)
    · have hf : (attr :: rest).filter (matchesType s type) = rest.filter (matchesType s type) :=
        List.filter_cons_of_neg (by simp [matchesType, hm])
      simp only [readAttrValueByType, if_neg hm, hf]
      exact readAttrValueByType_entries s type secFlag keySize cmdFree rest status buf pLen

/-- The handles Read By Type visits: those of the type from `s` on, in the services that meet the
range, in order. -/
def readByTypeCandidates (s e : Nat) (type : Uuid) (srvList : List SrvListElem) : List Nat :=
  (srvList.filter (overlaps s e)).flatMap fun el =>
    (el.pDb.attrList.filter (matchesType s type)).map GattAttr.handle

/-- A loop result in which the status `ret` is not one that stops the service loop. -/
theorem continues_of_not_stop {ret : GattStatus} (h : ¬ (ret ≠ .success ∧ ret ≠ .notFound)) :
    ret = .success ∨ ret = .notFound := by
  by_contra hc
  exact h ⟨fun h' => hc (.inl h'), fun h' => hc (.inr h')⟩

/-- The service loop of Read By Type lists a prefix of what it visits: all of a service's
attributes of the type before it goes on to the next service. -/
theorem readByTypeLoop_entries (s e : Nat) (type : Uuid) (secFlag : SecFlag) (keySize : Nat)
    (cmdFree : Bool) : ∀ (srvList : List SrvListElem) (reason : GattStatus) (buf : RspBuf)
    (bufLen : Nat), ∃ pre,
      (readByTypeLoop s e type secFlag keySize cmdFree reason buf bufLen srvList).2.1.entries =
        buf.entries ++ pre ∧
      List.IsPrefix (pre.map Prod.fst) (readByTypeCandidates s e type srvList)
  | [], reason, buf, bufLen => ⟨[], by simp [readByTypeLoop], by simp⟩
  | el :: els, reason, buf, bufLen => by
    by_cases ho : overlaps s e el = true
    · have hc : readByTypeCandidates s e type (el :: els) =
          (el.pDb.attrList.filter (matchesType s type)).map GattAttr.handle ++
            readByTypeCandidates s e type els := by
        simp [readByTypeCandidates, List.filter_cons_of_pos ho]
      rw [hc]
      simp only [readByTypeLoop, if_pos ho]
      obtain ⟨pre₁, h₁, hp₁, hfull⟩ := readAttrValueByType_entries s type secFlag keySize cmdFree
        el.pDb.attrList .notFound buf bufLen
      generalize readAttrValueByType s type secFlag keySize cmdFree .notFound buf bufLen
        el.pDb.attrList = r at h₁ hp₁ hfull ⊢
      obtain ⟨ret, buf', bufLen', errHdl⟩ := r
      dsimp only at h₁ hfull ⊢
      split
      · -- the service stopped the loop
        exact ⟨pre₁, h₁, hp₁.trans (List.prefix_append _ _)⟩
      · -- the whole service went in; the loop goes on
        rename_i hgo
        obtain ⟨pre₂, h₂, hp₂⟩ := readByTypeLoop_entries s e type secFlag keySize cmdFree els _
          buf' bufLen'
        refine ⟨pre₁ ++ pre₂, by rw [h₂, h₁, List.append_assoc], ?_⟩
        rw [List.map_append, hfull (continues_of_not_stop hgo)]
        exact (List.prefix_append_right_inj _).2 hp₂
    · have hc : readByTypeCandidates s e type (el :: els) = readByTypeCandidates s e type els := by
        simp [readByTypeCandidates, List.filter_cons_of_neg ho]
      rw [hc]
      simp only [readByTypeLoop, if_neg ho]
      exact readByTypeLoop_entries s e type secFlag keySize cmdFree els reason buf bufLen

/-- A Read By Type response lists a prefix of the attributes of the type from `s` on in the
services that meet the range, in their order, whatever the end of the range. -/
theorem readByTypeRsp_prefix {srvList : List SrvListElem} {s e : Nat} {type : Uuid}
    {payloadSize : Nat} {secFlag : SecFlag} {keySize : Nat} {cmdFree : Bool} {format : Nat}
    {entries : List (Nat × List UInt8)}
    (h : gattsProcessReadByTypeReq srvList s e type payloadSize secFlag keySize cmdFree =
      .rsp format entries) :
    List.IsPrefix (entries.map Prod.fst) (readByTypeCandidates s e type srvList) := by
  unfold gattsProcessReadByTypeReq at h
  split at h
  · cases h
  obtain ⟨pre, hpre, hpfx⟩ := readByTypeLoop_entries s e type secFlag keySize cmdFree srvList
    .notFound ⟨0, []⟩ (payloadSize - 2)
  generalize readByTypeLoop s e type secFlag keySize cmdFree .notFound ⟨0, []⟩ (payloadSize - 2)
    srvList = r at hpre h
  obtain ⟨reason, buf, errHdl⟩ := r
  dsimp only at hpre h
  split at h
  · cases h
    rw [hpre]
    simpa using hpfx
  · split at h <;> cases h

/-! ### Find Information -/

/-- The attribute a service offers Find Information: the first from `s` on, if it is in the
range. -/
def findInfoCandidate (s e : Nat) (attrs : List GattAttr) : Option Nat :=
  ((attrs.find? fun a => decide (s ≤ a.handle)).filter fun a => decide (a.handle ≤ e)).map
    GattAttr.handle

/-- The handles Find Information visits: one per service that meets the range. -/
def findInfoCandidates (s e : Nat) (srvList : List SrvListElem) : List Nat :=
  (srvList.filter (overlaps s e)).filterMap fun el => findInfoCandidate s e el.pDb.attrList

/-- `gatt_build_find_info_rsp` lists the service's first attribute of the range, or nothing;
all that the service offers unless the response is full. -/
theorem gattBuildFindInfoRsp_entries {s e : Nat} (hse : s ≤ e) :
    ∀ (buf : RspBuf) (len : Nat) (attrs : List GattAttr), ∃ pre,
      (gattBuildFindInfoRsp s e buf len attrs).2.1.entries = buf.entries ++ pre ∧
      List.IsPrefix (pre.map Prod.fst) (findInfoCandidate s e attrs).toList ∧
      ((gattBuildFindInfoRsp s e buf len attrs).1 ≠ .noResources →
        pre.map Prod.fst = (findInfoCandidate s e attrs).toList)
  | buf, len, [] => ⟨[], by simp [gattBuildFindInfoRsp, findInfoCandidate]⟩
  | buf, len, attr :: rest => by
    by_cases hgt : attr.handle > e
    · -- past the range: the service offers nothing
      have hc : findInfoCandidate s e (attr :: rest) = none := by
        simp [findInfoCandidate, show s ≤ attr.handle by omega]
        omega
      refine ⟨[], by simp [gattBuildFindInfoRsp, hgt], by simp [hc], fun _ => by simp [hc]⟩
    by_cases hlt : attr.handle < s
    · have hc : findInfoCandidate s e (attr :: rest) = findInfoCandidate s e rest := by
        simp [findInfoCandidate, show ¬ s ≤ attr.handle by omega]
      simp only [gattBuildFindInfoRsp, if_neg hgt, if_pos hlt, hc]
      exact gattBuildFindInfoRsp_entries hse buf len rest
    · -- the first attribute of the range
      have hc : findInfoCandidate s e (attr :: rest) = some attr.handle := by
        simp [findInfoCandidate, show s ≤ attr.handle by omega,
          show attr.handle ≤ e by omega]
      simp only [gattBuildFindInfoRsp, if_neg hgt, if_neg hlt, hc, Option.toList_some]
      generalize (if buf.offset = 0 then
        (if attr.uuid.getShortestRepresentationSize = Uuid.kNumBytes16 then gattInfoTypePair16
          else gattInfoTypePair128) else buf.offset) = offset
      split
      · exact ⟨[], by simp, List.nil_prefix, fun h => absurd rfl h⟩
      split
      · exact ⟨[(attr.handle, _)], rfl, List.prefix_refl _, fun _ => rfl⟩
      split
      · exact ⟨[(attr.handle, _)], rfl, List.prefix_refl _, fun _ => rfl⟩
      · exact ⟨[], by simp, List.nil_prefix, fun h => absurd rfl h⟩

/-- The service loop of Find Information lists a prefix of what it visits. -/
theorem findInfoLoop_entries {s e : Nat} (hse : s ≤ e) :
    ∀ (srvList : List SrvListElem) (reason : GattStatus) (buf : RspBuf) (bufLen : Nat), ∃ pre,
      (findInfoLoop s e reason buf bufLen srvList).2.entries = buf.entries ++ pre ∧
      List.IsPrefix (pre.map Prod.fst) (findInfoCandidates s e srvList)
  | [], reason, buf, bufLen => ⟨[], by simp [findInfoLoop], by simp⟩
  | el :: els, reason, buf, bufLen => by
    by_cases ho : overlaps s e el = true
    · have hc : findInfoCandidates s e (el :: els) =
          (findInfoCandidate s e el.pDb.attrList).toList ++ findInfoCandidates s e els := by
        simp only [findInfoCandidates, List.filter_cons_of_pos ho, List.filterMap_cons]
        cases findInfoCandidate s e el.pDb.attrList <;> rfl
      rw [hc]
      simp only [findInfoLoop, if_pos ho]
      obtain ⟨pre₁, h₁, hp₁, hfull⟩ := gattBuildFindInfoRsp_entries hse buf bufLen el.pDb.attrList
      generalize gattBuildFindInfoRsp s e buf bufLen el.pDb.attrList = r at h₁ hp₁ hfull ⊢
      obtain ⟨ret, buf', bufLen'⟩ := r
      dsimp only at h₁ hfull ⊢
      split
      · exact ⟨pre₁, h₁, hp₁.trans (List.prefix_append _ _)⟩
      · rename_i hgo
        obtain ⟨pre₂, h₂, hp₂⟩ := findInfoLoop_entries hse els ret buf' bufLen'
        refine ⟨pre₁ ++ pre₂, by rw [h₂, h₁, List.append_assoc], ?_⟩
        rw [List.map_append, hfull hgo]
        exact (List.prefix_append_right_inj _).2 hp₂
    · have hc : findInfoCandidates s e (el :: els) = findInfoCandidates s e els := by
        simp [findInfoCandidates, List.filter_cons_of_neg ho]
      rw [hc]
      simp only [findInfoLoop, if_neg ho]
      exact findInfoLoop_entries hse els reason buf bufLen

/-- A Find Information response lists a prefix of the first attribute of the range of each
service that meets it. -/
theorem findInfoRsp_prefix {srvList : List SrvListElem} {s e payloadSize format : Nat}
    {entries : List (Nat × List UInt8)}
    (h : gattsProcessFindInfo srvList s e payloadSize = .rsp format entries) :
    List.IsPrefix (entries.map Prod.fst) (findInfoCandidates s e srvList) := by
  unfold gattsProcessFindInfo at h
  split at h
  · cases h
  rename_i hvalid
  have hse : s ≤ e := by
    simp only [validRange, Bool.not_eq_true', Bool.not_eq_false', Bool.or_eq_true,
      decide_eq_true_eq] at hvalid
    omega
  obtain ⟨pre, hpre, hpfx⟩ := findInfoLoop_entries hse srvList .notFound ⟨0, []⟩ (payloadSize - 2)
  generalize findInfoLoop s e .notFound ⟨0, []⟩ (payloadSize - 2) srvList = r at hpre h
  obtain ⟨reason, buf⟩ := r
  dsimp only at hpre h
  split at h
  · cases h
  · cases h
    rw [hpre]
    simpa using hpfx

/-! ### Read By Group Type and Find By Type Value -/

/-- Whether Read By Group Type or Find By Type Value for `value` lists a started service whose
declaration lies in `[s, e]`: a primary service, and for Find By Type Value one with that UUID. -/
def primaryListed (op : PrimaryOp) (s e : Nat) (value : Uuid) (el : SrvListElem) : Bool :=
  decide (s ≤ el.sHdl ∧ el.sHdl ≤ e ∧ el.type = gattUuidPriService) &&
    (gattsGetServiceUuid el.pDb).any fun u => op == .readByGrpType || value == u

/-- The start handles of the services the two requests list, in order. -/
def primaryCandidates (op : PrimaryOp) (s e : Nat) (value : Uuid) (srvList : List SrvListElem) :
    List Nat :=
  (srvList.filter (primaryListed op s e value)).map SrvListElem.sHdl

/-- The service loop of `gatt_build_primary_service_rsp` lists a prefix of the services it
should. -/
theorem primaryServiceLoop_entries (op : PrimaryOp) (s e : Nat) (value : Uuid)
    (payloadSize lastServiceHandle : Nat) : ∀ (srvList : List SrvListElem) (status : GattStatus)
    (handleLen : Nat) (buf : RspBuf) (len : Nat), ∃ pre,
      (primaryServiceLoop op s e value payloadSize lastServiceHandle status handleLen buf len
        srvList).2.entries = buf.entries ++ pre ∧
      List.IsPrefix (pre.map Prod.fst) (primaryCandidates op s e value srvList)
  | [], status, handleLen, buf, len => ⟨[], by simp [primaryServiceLoop], by simp⟩
  | el :: els, status, handleLen, buf, len => by
    have hskip : primaryListed op s e value el = false →
        primaryCandidates op s e value (el :: els) = primaryCandidates op s e value els := by
      intro hl
      simp [primaryCandidates, hl]
    simp only [primaryServiceLoop]
    split
    · -- outside the range, or not a primary service
      rename_i hout
      rw [hskip (by simp only [primaryListed]; simp; omega)]
      exact primaryServiceLoop_entries op s e value payloadSize lastServiceHandle els _ _ _ _
    rename_i hin
    split
    · rename_i hnone
      rw [hskip (by simp [primaryListed, hnone])]
      exact primaryServiceLoop_entries op s e value payloadSize lastServiceHandle els _ _ _ _
    rename_i u hu
    generalize (if op = .readByGrpType then 4 + gattBuildUuidToStreamLen u else handleLen) = hlen
    generalize hp : (if buf.offset = 0 then _ else _ : RspBuf × Nat) = p
    obtain ⟨buf₁, len₁⟩ := p
    -- the first entry only sets the length byte
    have hbuf₁ : buf₁.entries = buf.entries := by
      split at hp <;> cases hp <;> rfl
    dsimp only
    split
    · -- the response is full, or the next entry would have another length
      exact ⟨[], by simp [hbuf₁], List.nil_prefix⟩
    split
    · -- another UUID than the value looked for
      rename_i hval
      rw [hskip (by simp [primaryListed, hu, hval.1, hval.2])]
      obtain ⟨pre, hpre, hpfx⟩ := primaryServiceLoop_entries op s e value payloadSize
        lastServiceHandle els status hlen buf₁ len₁
      exact ⟨pre, by rw [hpre, hbuf₁], hpfx⟩
    · -- the service is listed
      rename_i hval
      have hlisted : primaryListed op s e value el = true := by
        simp only [primaryListed, hu, Option.any_some, Bool.and_eq_true, decide_eq_true_eq,
          Bool.or_eq_true, beq_iff_eq]
        refine ⟨by omega, ?_⟩
        cases op
        · exact .inl rfl
        · exact .inr (by by_contra hne; exact hval ⟨rfl, hne⟩)
      obtain ⟨pre, hpre, hpfx⟩ := primaryServiceLoop_entries op s e value payloadSize
        lastServiceHandle els .success hlen { buf₁ with entries := buf₁.entries ++ [(el.sHdl, _)] }
        (len₁ + buf₁.offset)
      refine ⟨(el.sHdl, _) :: pre, by rw [hpre, hbuf₁, List.append_assoc, List.singleton_append], ?_⟩
      simp only [primaryCandidates, List.filter_cons_of_pos hlisted, List.map_cons, List.map_cons]
      simpa [primaryCandidates] using hpfx

/-- A Read By Group Type or Find By Type Value response lists a prefix of the primary services
whose declarations lie in the range (with the UUID looked for). -/
theorem primaryServiceRsp_prefix {g : GattServer} {op : PrimaryOp} {s e : Nat} {type value : Uuid}
    {payloadSize format : Nat} {entries : List (Nat × List UInt8)}
    (h : gattsProcessPrimaryServiceReq g op s e type value payloadSize = .rsp format entries) :
    List.IsPrefix (entries.map Prod.fst) (primaryCandidates op s e value g.srvListInfo) := by
  unfold gattsProcessPrimaryServiceReq at h
  split at h
  · cases h
  split at h
  · split at h <;> cases h
  obtain ⟨pre, hpre, hpfx⟩ := primaryServiceLoop_entries op s e value payloadSize
    g.lastServiceHandle g.srvListInfo .notFound 4 ⟨0, []⟩ 0
  generalize primaryServiceLoop op s e value payloadSize g.lastServiceHandle .notFound 4 ⟨0, []⟩ 0
    g.srvListInfo = r at hpre h
  obtain ⟨status, buf⟩ := r
  dsimp only at hpre h
  split at h
  · cases h
  · cases h
    rw [hpre]
    simpa using hpfx

/-- The started services of a server that keeps the invariant start in strictly ascending
order. -/
theorem ServerInv.srv_starts_sorted {g : GattServer} (hinv : ServerInv g) :
    g.srvListInfo.Pairwise fun a b => a.sHdl < b.sHdl := by
  apply hinv.srv_sorted.imp_of_mem
  intro a b ha _ hab
  obtain ⟨x, hx, gi, rfl⟩ := hinv.srv_started a ha
  have := (hinv.hdl_bounds x hx).2.1
  simp only [srvElemOf] at hab ⊢
  omega

/-- Discovering primary services does what the discovery procedures rely on: in a server that
keeps the handle-space invariant, a Read By Group Type or Find By Type Value response lists start
handles in strictly ascending order, all in the range, and every service the request asks for up
to the last one listed, so a client that goes on from there misses none. -/
theorem primaryServiceRsp_discovers {g : GattServer} (hinv : ServerInv g) {op : PrimaryOp}
    {s e : Nat} {type value : Uuid} {payloadSize format : Nat} {entries : List (Nat × List UInt8)}
    (h : gattsProcessPrimaryServiceReq g op s e type value payloadSize = .rsp format entries) :
    (entries.map Prod.fst).Pairwise (· < ·) ∧ (∀ x ∈ entries.map Prod.fst, s ≤ x ∧ x ≤ e) ∧
      ∀ last, (entries.map Prod.fst).getLast? = some last → ∀ el ∈ g.srvListInfo,
        primaryListed op s e value el = true → el.sHdl ≤ last → el.sHdl ∈ entries.map Prod.fst := by
  have hpfx := primaryServiceRsp_prefix h
  -- what the request asks for, in ascending order
  have hsorted : (primaryCandidates op s e value g.srvListInfo).Pairwise (· < ·) := by
    unfold primaryCandidates
    rw [List.pairwise_map]
    exact hinv.srv_starts_sorted.filter _
  refine ⟨hsorted.sublist hpfx.sublist, fun x hx => ?_, fun last hlast el hel hlisted hle => ?_⟩
  · obtain ⟨el, hel, rfl⟩ := List.mem_map.1 (hpfx.subset hx)
    have := (List.mem_filter.1 hel).2
    simp only [primaryListed, Bool.and_eq_true, decide_eq_true_eq] at this
    exact ⟨this.1.1, this.1.2.1⟩
  · exact SortedFilter.mem_prefix_of_le_getLast hsorted hpfx hlast
      (List.mem_map_of_mem (List.mem_filter.2 ⟨hel, hlisted⟩)) hle

/-! ## Where Read By Type and Find Information part from the ranges -/

/-- In the server with the GATT service on handles 1 to 4 (its declaration, the Service Changed
declaration and value, and a Client Characteristic Configuration) and an application's Battery
Service on 134 to 136: Read By Type for characteristic declarations in `[1, 1]` lists the one at
handle 2, outside the range; and Find Information over all handles lists handles 1 and 134 only,
so a client that goes on from 135 never learns of handles 2, 3 and 4. -/
theorem discovery_range_and_gaps :
    Reachable gattAndBatteryServer ∧
      (gattAndBatteryServer.srvListInfo.flatMap fun el => el.pDb.attrList.map GattAttr.handle) =
        [1, 2, 3, 4, 134, 135, 136] ∧
      gattsProcessReadByTypeReq gattAndBatteryServer.srvListInfo 1 1
          (Uuid.from16Bit gattUuidCharDeclare) 23 ⟨false, false, false⟩ 0 true =
        .rsp 7 [(2, [0x20, 0x03, 0x00, 0x05, 0x2A])] ∧
      gattsProcessFindInfo gattAndBatteryServer.srvListInfo 1 0xFFFF 23 =
        .rsp gattInfoTypePair16 [(1, [0x00, 0x28]), (134, [0x00, 0x28])] :=
  ⟨gattAndBatteryServer_reachable, by decide, by decide, by decide⟩

end BluetoothStack.Gatt
