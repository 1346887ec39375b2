import BluetoothStack.Sdp.Db

/-!
# The SDP client's attribute parser

`process_service_search_attr_rsp`, `save_attr_seq` and `add_attr` (sdp_discovery.cc): the client
keeps the AttributeList bytes of each response in `rsp_list`, and once the last one has come
parses the whole list into its discovery database, one `tSDP_DISC_REC` for each attribute
sequence and one `tSDP_DISC_ATTR` for each data element, the elements of a sequence chained
under it.

A pointer into the received bytes is the list of bytes from it to the end the function is
bounded by (`p_end`, `p_seq_end`, `p_msg_end`). The discovery database is the memory it has left
and its records; the chains of `p_next_rec`, `p_first_attr`, `p_next_attr` and `p_sub_attr` are
lists. A parser that returns `NULL` is `none`, and so is one that runs out of the fuel the model
counts its steps with; the database it leaves half filled is not modelled. The remote address a
record is stamped with and the copy into `raw_data` (for a database without one) are left out.
-/

namespace BluetoothStack.Sdp

open Bytes

/-! ## Limits -/

/-- `MAX_NEST_LEVELS` (sdp_discovery.cc). -/
def maxNestLevels : Nat := 5
/-- `SDP_ADDITIONAL_LIST_MASK`: the bit of `nest_level` that marks the elements of an additional
protocol descriptor list. -/
def sdpAdditionalListMask : Nat := 0x80
/-- `SDP_DISC_ATTR_LEN_MASK`. -/
def sdpDiscAttrLenMask : Nat := 0x0FFF
/-- `ATTR_ID_PROTOCOL_DESC_LIST`. -/
def attrIdProtocolDescList : Nat := 0x0004
/-- `ATTR_ID_ADDITION_PROTO_DESC_LISTS`. -/
def attrIdAdditionProtoDescLists : Nat := 0x000D
/-- `sizeof (tSDP_DISC_ATTR)` on an LP64 build: the next pointer, the id and the length and type,
and the 8-byte union. -/
def sizeofDiscAttr : Nat := 24
/-- `sizeof (tSDP_DISC_REC)` on an LP64 build. -/
def sizeofDiscRec : Nat := 32
/-- `SDP_MAX_LIST_BYTE_COUNT` (bt_target.h): the size of `rsp_list`. -/
def sdpMaxListByteCount : Nat := 4096

/-! ## The discovery database -/

mutual
/-- `tSDP_DISC_ATVAL`: what `add_attr` last stored in the union of an attribute; `unset` where it
stored nothing. -/
inductive DiscVal where
  | unset
  | u8 (v : UInt8)
  | u16 (v : Nat)
  | u32 (v : Nat)
  | array (bytes : List UInt8)
  | sub (attrs : List DiscAttr)

/-- `tSDP_DISC_ATTR`: the attribute id, the length (low 12 bits) and type (high 4 bits) in one
16-bit field, and the value. -/
inductive DiscAttr where
  | mk (attrId : Nat) (attrLenType : Nat) (value : DiscVal)
end

namespace DiscAttr

def attrId : DiscAttr → Nat
  | .mk attrId _ _ => attrId

def attrLenType : DiscAttr → Nat
  | .mk _ attrLenType _ => attrLenType

def value : DiscAttr → DiscVal
  | .mk _ _ value => value

end DiscAttr

/-- `tSDP_DISC_REC`: its chain of attributes. -/
structure DiscRec where
  attrs : List DiscAttr

/-- `tSDP_DISCOVERY_DB`: the memory left, and the chain of records. -/
structure DiscDb where
  memFree : Nat
  records : List DiscRec

/-! ## `add_attr` -/

/-- `sdpu_is_base_uuid`: the last twelve of sixteen bytes are those of the base UUID. -/
def sdpuIsBaseUuid (p : List UInt8) : Bool :=
  (List.range' 4 12).all fun xx => p[xx]? == sdpBaseUuid[xx]?

/-- The integer cases of `add_attr`: 1, 2 and 4 bytes as a number, other lengths as bytes. -/
def intValue (attrLen : Nat) (p : List UInt8) : DiscVal :=
  match attrLen with
  | 1 => .u8 (p.getD 0 0)
  | 2 => .u16 (beValue (p.take 2))
  | 4 => .u32 (beValue (p.take 4))
  | _ => .array (p.take attrLen)

/-- The UUID case of `add_attr`: the length and type field and the value it stores, or `none` for a
length other than 2, 4 or 16. A 32-bit UUID below `0x10000` is kept in 16 bits, a 128-bit one on
the base UUID in 16 or 32 bits. -/
def uuidValue (attrLen lenType : Nat) (p : List UInt8) : Option (Nat × DiscVal) :=
  match attrLen with
  | 2 => some (lenType, .u16 (beValue (p.take 2)))
  | 4 =>
    let u32 := beValue (p.take 4)
    if u32 < 0x10000 then some (2 ||| (uuidDescType <<< 12), .u16 (u32 % 0x10000))
    else some (lenType, .u32 u32)
  | 16 =>
    -- `attr_len_type & ~SDP_DISC_ATTR_LEN_MASK` keeps the type bits
    if sdpuIsBaseUuid p then
      if p.take 2 = [0, 0] then some ((lenType &&& 0xF000) ||| 2, .u16 (beValue ((p.drop 2).take 2)))
      else some ((lenType &&& 0xF000) ||| 4, .u32 (beValue (p.take 4)))
    else some (lenType, .array (p.take 16))
  | _ => none

mutual
/-- `add_attr` on the bytes from `p` to `p_end`, for attribute `attrId` at `nestLevel` (whose bit
`0x80` marks an additional protocol descriptor list): what is left after it, the memory left, and
the attribute to chain after its siblings, if it is chained at all. -/
def addAttr : Nat → List UInt8 → Nat → Nat → Nat → Option (List UInt8 × Nat × Option DiscAttr)
  | 0, _, _, _, _ => none
  | fuel + 1, p, memFree, attrId, nestLevel =>
    let isAdditionalList := nestLevel &&& sdpAdditionalListMask != 0
    -- `nest_level &= ~SDP_ADDITIONAL_LIST_MASK` on a byte
    let nestLevel := nestLevel &&& 0x7F
    match p with
    | [] => none
    | typeByte :: p =>
      match sdpuGetLenFromType p typeByte.toNat with
      | none => none
      | some (attrLen, p) =>
        if p.length < attrLen then none
        else
          let attrLen := attrLen &&& sdpDiscAttrLenMask
          let attrType := (typeByte.toNat >>> 3) &&& 0x0f
          let attrEnd := p.drop attrLen
          -- `(total_len + 3) & ~3`
          let totalLen :=
            ((if attrLen > 4 then attrLen - 4 + sizeofDiscAttr else sizeofDiscAttr) + 3) / 4 * 4
          if memFree < totalLen then none
          else
            let lenType := attrLen ||| (attrType <<< 12)
            match attrType with
            | 1 =>
              if isAdditionalList && attrLen == 2 && beValue (p.take 2) == attrIdProtocolDescList then
                -- the element after the id hangs under this one, at the next level
                let memFree := memFree - sizeofDiscAttr
                if nestLevel ≥ maxNestLevels then some (attrEnd, memFree, none)
                else
                  match addAttr fuel (p.drop 2) memFree attrIdProtocolDescList (nestLevel + 1) with
                  | none => none
                  | some (p, memFree, sub) => some (p, memFree, some (.mk attrId lenType (.sub sub.toList)))
              else some (attrEnd, memFree - totalLen, some (.mk attrId lenType (intValue attrLen p)))
            | 2 => some (attrEnd, memFree - totalLen, some (.mk attrId lenType (intValue attrLen p)))
            | 3 =>
              match uuidValue attrLen lenType p with
              | none => some (attrEnd, memFree, none)
              | some (lenType, value) => some (attrEnd, memFree - totalLen, some (.mk attrId lenType value))
            | 6 | 7 =>
              let memFree := memFree - sizeofDiscAttr
              if nestLevel ≥ maxNestLevels then some (attrEnd, memFree, none)
              else
                let nestLevel :=
                  if isAdditionalList || attrId == attrIdAdditionProtoDescLists then
                    nestLevel ||| sdpAdditionalListMask
                  else nestLevel
                match addAttrLoop fuel p attrEnd.length memFree nestLevel [] with
                | none => none
                | some (p, memFree, subs) => some (p, memFree, some (.mk attrId lenType (.sub subs)))
            | 4 | 8 => some (attrEnd, memFree - totalLen, some (.mk attrId lenType (.array (p.take attrLen))))
            | 5 =>
              if attrLen = 1 then
                some (attrEnd, memFree - totalLen, some (.mk attrId lenType (.u8 (p.getD 0 0))))
              else some (attrEnd, memFree, none)
            | _ => some (p, memFree - totalLen, some (.mk attrId lenType .unset))
termination_by structural fuel _ _ _ _ => fuel

/-- The loop of `add_attr` over the elements of a sequence, while `p` is before `p_attr_end`
(the point `endLen` bytes before `p_end`): each element chained under the sequence. -/
def addAttrLoop : Nat → List UInt8 → Nat → Nat → Nat → List DiscAttr →
    Option (List UInt8 × Nat × List DiscAttr)
  | 0, _, _, _, _, _ => none
  | fuel + 1, p, endLen, memFree, nestLevel, subs =>
    if endLen < p.length then
      match addAttr fuel p memFree 0 (nestLevel + 1) with
      | none => none
      | some (p, memFree, sub) => addAttrLoop fuel p endLen memFree nestLevel (subs ++ sub.toList)
    else some (p, memFree, subs)
termination_by structural fuel _ _ _ _ _ => fuel
end

/-! ## `save_attr_seq` -/

/-- The attribute loop of `save_attr_seq` on the bytes from `p` to `p_msg_end`, while `p` is before
`p_seq_end` (`seqEndLen` bytes before `p_msg_end`): the attribute id, a 16-bit unsigned integer,
then its value through `add_attr`, which is bounded by `p_seq_end`. -/
def saveAttrLoop : Nat → List UInt8 → Nat → Nat → List DiscAttr →
    Option (List UInt8 × Nat × List DiscAttr)
  | 0, _, _, _, _ => none
  | fuel + 1, p, seqEndLen, memFree, attrs =>
    if seqEndLen < p.length then
      match p with
      | [] => none
      | type :: p =>
        match sdpuGetLenFromType p type.toNat with
        | none => none
        | some (attrLen, p) =>
          if p.length < seqEndLen + attrLen then none
          else if type.toNat >>> 3 ≠ uintDescType ∨ attrLen ≠ 2 then none
          else
            let attrId := beValue (p.take 2)
            let p := p.drop 2
            let seqTail := p.drop (p.length - seqEndLen)
            match addAttr fuel (p.take (p.length - seqEndLen)) memFree attrId 0 with
            | none => none
            | some (p, memFree, attr) => saveAttrLoop fuel (p ++ seqTail) seqEndLen memFree (attrs ++ attr.toList)
    else some (p, memFree, attrs)

/-- `save_attr_seq` on the bytes from `p` to `p_msg_end`: one attribute sequence, as a new record
(`add_record`) at the end of the chain. -/
def saveAttrSeq (fuel : Nat) (p : List UInt8) (db : DiscDb) : Option (List UInt8 × DiscDb) :=
  match p with
  | [] => none
  | type :: p =>
    if type.toNat >>> 3 ≠ dataEleSeqDescType then none
    else
      match sdpuGetLenFromType p type.toNat with
      | none => none
      | some (seqLen, p) =>
        if p.length < seqLen then none
        else if db.memFree < sizeofDiscRec then none
        else
          match saveAttrLoop fuel p (p.length - seqLen) (db.memFree - sizeofDiscRec) [] with
          | none => none
          | some (p, memFree, attrs) => some (p, { memFree, records := db.records ++ [⟨attrs⟩] })

/-- The record loop of `process_service_search_attr_rsp`, while `p` is before the end of the
list. -/
def saveAttrSeqs : Nat → List UInt8 → DiscDb → Option DiscDb
  | 0, _, _ => none
  | fuel + 1, p, db =>
    if p = [] then some db
    else
      match saveAttrSeq fuel p db with
      | none => none
      | some (p, db) => saveAttrSeqs fuel p db

/-! ## `process_service_search_attr_rsp` -/

/-- The copy of one response's AttributeList bytes into `rsp_list`, refused past
`SDP_MAX_LIST_BYTE_COUNT`. -/
def appendAttrList (rspList bytes : List UInt8) : Except Nat (List UInt8) :=
  if rspList.length + bytes.length > sdpMaxListByteCount then .error sdpInvalidPduSize
  else .ok (rspList ++ bytes)

/-- The parse of the whole list `rsp` once the last response has come: the status
`sdp_disconnect` is called with, or the database. The length of the outer sequence is read with
`p + list_len` as its bound, one byte past the list, which holds `past`. -/
def parseSearchAttrList (fuel : Nat) (past : UInt8) (rsp : List UInt8) (db : DiscDb) :
    Except Nat DiscDb :=
  match rsp ++ [past] with
  | [] => .error sdpIllegalParameter
  | type :: p =>
    if type.toNat >>> 3 ≠ dataEleSeqDescType then .error sdpIllegalParameter
    else
      match sdpuGetLenFromType (p.take rsp.length) type.toNat with
      | none => .error sdpIllegalParameter
      | some (seqLen, q) =>
        if seqLen > rsp.length then .error sdpIllegalParameter
        else
          -- `q` starts `rsp.length + 1 - q.length` bytes into `rsp_list`
          let start := rsp.length + 1 - q.length
          if start + seqLen ≠ rsp.length then .error sdpInvalidContState
          else
            match saveAttrSeqs fuel (rsp.drop start) db with
            | none => .error sdpDbFull
            | some db => .ok db

/-- `process_service_search_attr_rsp` over the AttributeList bytes of the responses to one
exchange, then the parse of the whole list. -/
def processServiceSearchAttrRsp (fuel : Nat) (past : UInt8) (lists : List (List UInt8))
    (db : DiscDb) : Except Nat DiscDb := do
  let rsp ← lists.foldlM appendAttrList []
  parseSearchAttrList fuel past rsp db

/-! ## Two inputs the bounds do not hold on -/

/-- An attribute list of one record whose attribute `0x0001` is a sequence declaring two bytes,
followed by an unsigned 16-bit integer of three bytes: the element runs one byte past the
sequence's extent, but not past the record's. -/
def overrunList : List UInt8 :=
  [0x35, 10, 0x35, 8, 0x09, 0x00, 0x01, 0x35, 0x02, 0x09, 0x00, 0x05]

/-- Two ways the client's parse goes outside the bounds it is given. A list of the one byte
`0x35` has its sequence length read from `rsp_list[1]`, past the list, and the status the client
disconnects with depends on that byte. And the nested element of `overrunList`, which lies
partly outside the sequence holding it, is accepted and stored under it. -/
theorem searchAttrRsp_bounds_violated :
    processServiceSearchAttrRsp 20 0 [[0x35]] ⟨1000, []⟩ = .error sdpInvalidContState ∧
      processServiceSearchAttrRsp 20 5 [[0x35]] ⟨1000, []⟩ = .error sdpIllegalParameter ∧
      processServiceSearchAttrRsp 20 0 [overrunList] ⟨1000, []⟩ =
        .ok ⟨920, [⟨[.mk 0x0001 0x6002 (.sub [.mk 0 0x1002 (.u16 5)])]⟩]⟩ :=
  ⟨rfl, rfl, rfl⟩

end BluetoothStack.Sdp
