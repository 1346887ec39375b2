import BluetoothStack.Sdp.Db

/-!
# The SDP server's attribute requests

`process_service_attr_req` and `process_service_search_attr_req` (sdp_server.cc) after the
request has been parsed. A response carries at most `max_list_len` bytes of the attribute list;
what is left is sent in answer to the same request repeated with the continuation state. Where
to go on is kept in `tSDP_CONT_INFO`: the record after `prev_sdp_rec`, the attribute entry
`next_attr_index` from attribute `next_attr_start_id`, `attr_offset` bytes into that attribute's
entry, and whether the record's sequence header has gone out. Each response builds its part of
the list afresh in `rsp_list`.

The PDU header of a response (PDU id, transaction number, parameter length) and the parsing of
the request are left out; an error response is its error code.
-/

namespace BluetoothStack.Sdp

open Bytes

/-! ## State and messages -/

/-- `tSDP_CONT_INFO`, with `prev_sdp_rec` as the index of that record. -/
structure ContInfo where
  nextAttrIndex : Nat
  nextAttrStartId : Nat
  prevSdpRec : Option Nat
  lastAttrSeqDescSent : Bool
  attrOffset : Nat
  deriving DecidableEq, Repr

/-- The fields of `tCONN_CB` the attribute requests use: the remote MTU, the offset of the
continuation and the length of the whole list, and the continuation information. -/
structure ConnCb where
  remMtuSize : Nat
  contOffset : Nat
  listLen : Nat
  contInfo : ContInfo
  deriving DecidableEq, Repr

/-- A ServiceAttribute request: the record handle, MaximumAttributeByteCount, the attribute
id list and, in a continued request, the offset its continuation state carries. -/
structure ServiceAttrReq where
  recordHandle : Nat
  maxListLen : Nat
  attrSeq : List AttrRange
  contState : Option Nat
  deriving DecidableEq, Repr

/-- A ServiceSearchAttribute request: the UUIDs, MaximumAttributeByteCount, the attribute id
list and the continuation offset. -/
structure ServiceSearchAttrReq where
  uidSeq : List (List UInt8)
  maxListLen : Nat
  attrSeq : List AttrRange
  contState : Option Nat
  deriving DecidableEq, Repr

/-- A response: an error with its code, or a part of the attribute list with the continuation
offset, if anything is left. -/
inductive SdpRsp where
  | error (code : Nat)
  | attrList (bytes : List UInt8) (contState : Option Nat)
  deriving DecidableEq, Repr

/-- How a loop of the server ends: having gone through everything, with the response full, with
an error response (and the state the error leaves), or never. -/
inductive LoopOut (σ : Type) where
  | done (s : σ)
  | maxxed (s : σ)
  | error (code : Nat) (s : σ)
  | diverged

/-- A value stored in an `int16_t`. -/
def toInt16 (x : Int) : Int := (x + 32768) % 65536 - 32768

/-- `max_list_len` capped at the remote MTU less the response header `hdrLen`; the comparison is
made in `int` and the result stored in a `uint16_t`. -/
def capMaxListLen (maxListLen remMtuSize hdrLen : Nat) : Nat :=
  if (maxListLen : Int) > (remMtuSize : Int) - hdrLen then
    (((remMtuSize : Int) - hdrLen) % 65536).toNat
  else maxListLen

/-! ## The attribute loop -/

/-- The variables of the attribute loop: the record (the AVRCP rewrite writes into its pad), the
attribute sequence with the starts of ranges moved on, the response list so far and the
continuation information. -/
structure AttrLoopVars where
  record : SdpRecord
  attrSeq : List AttrRange
  rsp : List UInt8
  contInfo : ContInfo

/-- Where the attribute loop goes on after attribute `pAttr` of entry `xx`: a range stays at
`xx` with its start moved past `pAttr` (the `xx--` of the source), a single id moves on. -/
def rangeNext (xx : Nat) (rg : AttrRange) (pAttr : SdpAttribute) (s : AttrLoopVars) :
    Nat × AttrLoopVars :=
  if rg.start ≠ rg.end then
    (xx, { s with attrSeq := s.attrSeq.set xx { rg with start := (pAttr.id + 1) % 65536 } })
  else (xx + 1, s)

/-- The attribute loop both requests run over one record, from entry `xx`: whole entries while
they fit in `max_list_len`, then the start of the entry that does not, and first the rest of an
entry a previous response cut. An entry that would be cut but is `SDP_MAX_ATTR_LEN` bytes or
longer is answered with `SDP_NO_RESOURCES`. -/
def attrLoop (peer : AvrcPeer) (isServiceAvrcTarget : Bool) (maxListLen : Nat) :
    Nat → Nat → AttrLoopVars → LoopOut AttrLoopVars
  | 0, _, _ => .diverged
  | fuel + 1, xx, s =>
    match s.attrSeq[xx]? with
    | none => .done s
    | some rg =>
      match sdpDbFindAttrInRec s.record rg.start rg.end with
      | none => attrLoop peer isServiceAvrcTarget maxListLen fuel (xx + 1) s
      | some pAttr =>
        let s :=
          if isServiceAvrcTarget then { s with record := sdpuSetAvrcTargetVersion peer s.record pAttr }
          else s
        let remLen := toInt16 ((maxListLen : Int) - s.rsp.length)
        if remLen ≤ 0 then
          .maxxed { s with contInfo :=
            { s.contInfo with nextAttrIndex := xx, nextAttrStartId := pAttr.id } }
        else
          let attrLen := sdpuGetAttribEntryLen pAttr
          if s.contInfo.attrOffset ≠ 0 then
            -- the rest of an entry a previous response cut
            if attrLen < s.contInfo.attrOffset then .error sdpInvalidContState s
            else
              let out := sdpuBuildPartialAttribEntry s.record pAttr remLen.toNat s.contInfo.attrOffset
              let s := { s with
                rsp := s.rsp ++ out.1
                contInfo := { s.contInfo with attrOffset := out.2 } }
              if out.2 ≠ attrLen then .maxxed s
              else
                let next := rangeNext xx rg pAttr
                  { s with contInfo := { s.contInfo with attrOffset := 0 } }
                attrLoop peer isServiceAvrcTarget maxListLen fuel next.1 next.2
          else if remLen < attrLen then
            if attrLen ≥ sdpMaxAttrLen then .error sdpNoResources s
            else
              let out := sdpuBuildPartialAttribEntry s.record pAttr remLen.toNat s.contInfo.attrOffset
              .maxxed { s with
                rsp := s.rsp ++ out.1
                contInfo := { s.contInfo with
                  attrOffset := out.2, nextAttrIndex := xx, nextAttrStartId := pAttr.id } }
          else
            let next := rangeNext xx rg pAttr { s with rsp := s.rsp ++ sdpuBuildAttribEntry s.record pAttr }
            attrLoop peer isServiceAvrcTarget maxListLen fuel next.1 next.2

/-- Whether a record is an A/V Remote Control Target, from its service class list. -/
def isServiceAvrcTarget (r : SdpRecord) : Bool :=
  match sdpDbFindAttrInRec r attrIdServiceClassIdList attrIdServiceClassIdList with
  | some a => sdpuIsServiceIdAvrcTarget r a
  | none => false

/-! ## The list header and the response -/

/-- The sequence header of the whole list, for a `list_len` that counts three header bytes: three
bytes above 255, else two. -/
def listHeader (listLen : Nat) : List UInt8 :=
  if listLen > 255 then descByte dataEleSeqDescType sizeInNextWord :: beBytes 2 (listLen - 3)
  else [descByte dataEleSeqDescType sizeInNextByte, UInt8.ofNat (listLen - 3)]

/-- The end both requests share: the first response puts the list header in front (its two
bytes at `rsp_list[1]`, its three at `rsp_list[0]`), the part of `rsp_list` to send goes out,
and a continuation offset is returned while `cont_offset` is short of `list_len`.
`totalLen` is the length of the list without its header, computed apart. -/
def finishResponse (ccb : ConnCb) (isCont : Bool) (totalLen : Nat) (rsp : List UInt8) :
    ConnCb × SdpRsp :=
  let ccb := if isCont then ccb else { ccb with listLen := (totalLen + 3) % 65536 }
  -- the header, and where the list to send starts in `rsp_list`
  let (rsp, contOffset, ccb, lenToSend) :=
    if isCont then (rsp, 0, ccb, rsp.length)
    else if ccb.listLen > 255 then (store 0 (listHeader ccb.listLen) rsp, 0, ccb, rsp.length)
    else (store 1 (listHeader ccb.listLen) rsp, 1, { ccb with listLen := ccb.listLen - 1 },
      rsp.length - 1)
  let ccb := { ccb with contOffset := (ccb.contOffset + lenToSend) % 65536 }
  (ccb, .attrList ((rsp.drop contOffset).take lenToSend)
    (if ccb.contOffset < ccb.listLen then some ccb.contOffset else none))

/-- The continuation check both requests make: a continued request must carry the offset the
server returned. -/
def contValid (ccb : ConnCb) (contState : Option Nat) : Bool :=
  match contState with
  | some contOffset => contOffset == ccb.contOffset
  | none => true

/-- A continued request starts entry `next_attr_index` at `next_attr_start_id`. -/
def resumeAttrSeq (attrSeq : List AttrRange) (contInfo : ContInfo) : List AttrRange :=
  attrSeq.modify contInfo.nextAttrIndex fun rg => { rg with start := contInfo.nextAttrStartId }

/-! ## ServiceAttribute -/

/-- `process_service_attr_req`: the database (the AVRCP rewrite may have written into it), the
connection, and the response; `none` where the server does not return. -/
def processServiceAttrReq (peer : AvrcPeer) (db : SdpDb) (ccb : ConnCb) (req : ServiceAttrReq) :
    Option (SdpDb × ConnCb × SdpRsp) :=
  let maxListLen := capMaxListLen req.maxListLen ccb.remMtuSize sdpMaxAttrRsphdrLen
  if req.attrSeq = [] then some (db, ccb, .error sdpInvalidReqSyntax)
  else
    match sdpDbFindRecord db req.recordHandle with
    | none => some (db, ccb, .error sdpInvalidServRecHdl)
    | some recIdx =>
      match db.record[recIdx]? with
      | none => some (db, ccb, .error sdpInvalidServRecHdl)
      | some rec =>
        if maxListLen < 4 then some (db, ccb, .error sdpIllegalParameter)
        else if !contValid ccb req.contState then some (db, ccb, .error sdpInvalidContState)
        else
          let isCont := req.contState.isSome
          -- a first response keeps three bytes for the list header
          let (ccb, attrSeq, rsp) :=
            if isCont then (ccb, resumeAttrSeq req.attrSeq ccb.contInfo, ([] : List UInt8))
            else
              ({ ccb with
                  contOffset := 0
                  contInfo := { ccb.contInfo with
                    prevSdpRec := none, nextAttrIndex := 0, attrOffset := 0 } },
                req.attrSeq, ([0, 0, 0] : List UInt8))
          let finish (s : AttrLoopVars) (contInfo : ContInfo) :
              Option (SdpDb × ConnCb × SdpRsp) :=
            let db := { db with record := db.record.set recIdx s.record }
            match (if isCont then some 0 else sdpuGetAttribSeqLen s.record req.attrSeq) with
            | none => none
            | some seqLen =>
              let out := finishResponse { ccb with contInfo } isCont seqLen s.rsp
              some (db, out.1, out.2)
          match attrLoop peer (isServiceAvrcTarget rec) maxListLen (loopBound rec attrSeq)
              ccb.contInfo.nextAttrIndex ⟨rec, attrSeq, rsp, ccb.contInfo⟩ with
          | .diverged => none
          | .error code s =>
            some ({ db with record := db.record.set recIdx s.record },
              { ccb with contInfo := s.contInfo }, .error code)
          -- running through the whole sequence resets `next_attr_index`
          | .done s => finish s { s.contInfo with nextAttrIndex := 0 }
          | .maxxed s => finish s s.contInfo

/-! ## ServiceSearchAttribute -/

/-- The variables of the record loop of `process_service_search_attr_req`. -/
structure SearchLoopVars where
  db : SdpDb
  attrSeq : List AttrRange
  rsp : List UInt8
  contInfo : ContInfo

/-- The record loop of `process_service_search_attr_req` from the record after `prev`: for each
record holding the UUIDs, the 3-byte sequence header (only when at least three bytes are left,
else the response ends there) and the attribute loop, then the header is filled in with
`sdpu_get_attrib_seq_len`, or taken back if the record has none of the attributes. A record cut
by a full response has its header marked as sent. -/
def recordLoop (peer : AvrcPeer) (uidSeq : List (List UInt8)) (attrSeqSav : List AttrRange)
    (maxListLen : Nat) (prev : Option Nat) (s : SearchLoopVars) : LoopOut SearchLoopVars :=
  match _h : sdpDbServiceSearch s.db prev uidSeq with
  | none => .done s
  | some (rec, i) =>
    let pSeqStart := s.rsp.length
    let descSent := s.contInfo.lastAttrSeqDescSent
    if !descSent ∧ toInt16 ((maxListLen : Int) - s.rsp.length) < 3 then
      .done { s with contInfo := { s.contInfo with
        nextAttrIndex := 0, nextAttrStartId := (attrSeqSav[0]?.elim 0 (·.start)) } }
    else
      let rsp := if descSent then s.rsp else s.rsp ++ [0, 0, 0]
      let finish (l : AttrLoopVars) (maxxedOut : Bool) : LoopOut SearchLoopVars :=
        let db := { s.db with record := s.db.record.set i l.record }
        -- the record's sequence header goes in, or comes out again
        let header : Option (List UInt8 × ContInfo) :=
          if descSent then some (l.rsp, l.contInfo)
          else
            match sdpuGetAttribSeqLen l.record attrSeqSav with
            | none => none
            | some seqLen =>
              if seqLen ≠ 0 then
                some (store pSeqStart
                    (descByte dataEleSeqDescType sizeInNextWord :: beBytes 2 seqLen) l.rsp,
                  if maxxedOut then { l.contInfo with lastAttrSeqDescSent := true }
                  else l.contInfo)
              else some (l.rsp.take pSeqStart, l.contInfo)
        match header with
        | none => .diverged
        | some (rsp, contInfo) =>
          if maxxedOut then .maxxed ⟨db, l.attrSeq, rsp, contInfo⟩
          else
            recordLoop peer uidSeq attrSeqSav maxListLen (some i)
              ⟨db, attrSeqSav, rsp, { contInfo with
                nextAttrIndex := 0, prevSdpRec := some i, lastAttrSeqDescSent := false }⟩
      match attrLoop peer (isServiceAvrcTarget rec) maxListLen (loopBound rec s.attrSeq)
          s.contInfo.nextAttrIndex ⟨rec, s.attrSeq, rsp, s.contInfo⟩ with
      | .diverged => .diverged
      | .error code l =>
        .error code ⟨{ s.db with record := s.db.record.set i l.record }, l.attrSeq, l.rsp, l.contInfo⟩
      | .done l => finish l false
      | .maxxed l => finish l true
termination_by s.db.record.length - prev.elim 0 (· + 1)
decreasing_by
  obtain ⟨hle, hlt, -⟩ := sdpDbServiceSearch_index _h
  simp only [Option.elim_some, List.length_set]
  omega

/-- `process_service_search_attr_req`: the database, the connection and the response; `none`
where the server does not return. A continued request that would send nothing is answered with
`SDP_INVALID_CONT_STATE`. -/
def processServiceSearchAttrReq (peer : AvrcPeer) (db : SdpDb) (ccb : ConnCb)
    (req : ServiceSearchAttrReq) : Option (SdpDb × ConnCb × SdpRsp) :=
  if req.uidSeq = [] then some (db, ccb, .error sdpInvalidReqSyntax)
  else
    let maxListLen := capMaxListLen req.maxListLen ccb.remMtuSize sdpMaxServattrRsphdrLen
    if req.attrSeq = [] then some (db, ccb, .error sdpInvalidReqSyntax)
    else if maxListLen < 4 then some (db, ccb, .error sdpIllegalParameter)
    else if !contValid ccb req.contState then some (db, ccb, .error sdpInvalidContState)
    else
      let isCont := req.contState.isSome
      let (ccb, attrSeq, rsp) :=
        if isCont then (ccb, resumeAttrSeq req.attrSeq ccb.contInfo, ([] : List UInt8))
        else
          ({ ccb with
              contOffset := 0
              contInfo := { ccb.contInfo with
                prevSdpRec := none, nextAttrIndex := 0, lastAttrSeqDescSent := false,
                attrOffset := 0 } },
            req.attrSeq, ([0, 0, 0] : List UInt8))
      let finish (s : SearchLoopVars) : Option (SdpDb × ConnCb × SdpRsp) :=
        if isCont ∧ s.rsp.length = 0 then
          some (s.db, { ccb with contInfo := s.contInfo }, .error sdpInvalidContState)
        else
          match (if isCont then some 0 else sdpuGetListLen s.db req.uidSeq req.attrSeq) with
          | none => none
          | some totalLen =>
            let out := finishResponse { ccb with contInfo := s.contInfo } isCont totalLen s.rsp
            some (s.db, out.1, out.2)
      match recordLoop peer req.uidSeq req.attrSeq maxListLen ccb.contInfo.prevSdpRec
          ⟨db, attrSeq, rsp, ccb.contInfo⟩ with
      | .diverged => none
      | .error code s => some (s.db, { ccb with contInfo := s.contInfo }, .error code)
      | .done s | .maxxed s => finish s

/-! ## A client that follows the continuation -/

/-- A client sending `req` and then the same request with each continuation offset the server
returns, for at most `fuel` requests: the responses, or `none` if the exchange has not ended by
then or the server does not return. -/
def serviceAttrSession (peer : AvrcPeer) (req : ServiceAttrReq) :
    Nat → SdpDb → ConnCb → Option (List SdpRsp)
  | 0, _, _ => none
  | fuel + 1, db, ccb =>
    match processServiceAttrReq peer db ccb req with
    | none => none
    | some (db, ccb, rsp) =>
      match rsp with
      | .attrList _ (some contOffset) =>
        (serviceAttrSession peer { req with contState := some contOffset } fuel db ccb).map
          (rsp :: ·)
      | _ => some [rsp]

/-- The same client for ServiceSearchAttribute requests. -/
def serviceSearchAttrSession (peer : AvrcPeer) (req : ServiceSearchAttrReq) :
    Nat → SdpDb → ConnCb → Option (List SdpRsp)
  | 0, _, _ => none
  | fuel + 1, db, ccb =>
    match processServiceSearchAttrReq peer db ccb req with
    | none => none
    | some (db, ccb, rsp) =>
      match rsp with
      | .attrList _ (some contOffset) =>
        (serviceSearchAttrSession peer { req with contState := some contOffset } fuel db ccb).map
          (rsp :: ·)
      | _ => some [rsp]

end BluetoothStack.Sdp
