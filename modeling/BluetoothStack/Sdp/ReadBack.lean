import BluetoothStack.Sdp.Decode
import BluetoothStack.Sdp.Lossless

/-!
# A search's attribute list reads back in the client

`process_service_search_attr_rsp` gathers the AttributeList bytes of the responses to one
ServiceSearchAttribute exchange and parses the whole list with `save_attr_seq` and `add_attr`.
`searchAttrList_readBack` says what it makes of the list the server builds with
`sdpu_build_attrib_entry`, however the list is cut into responses: one discovery record for each
record holding the UUIDs that has one of the attributes asked for, in the server's order, whose
attributes are those asked for, in order, each with its id and reading back (`DiscAttr.read`) as
the data element the server's record holds, with its UUIDs in 128 bits.

It needs what the client's limits ask: the list fits `rsp_list` (`SDP_MAX_LIST_BYTE_COUNT`
bytes), the discovery database has the memory the records take, and no value inside attribute
`ATTR_ID_ADDITION_PROTO_DESC_LISTS` holds a 16-bit unsigned integer `ATTR_ID_PROTOCOL_DESC_LIST`,
which `add_attr` reads as the start of a protocol descriptor list
(`additionalProtoDescList_not_read`).
-/

namespace BluetoothStack.Sdp

open Bytes

/-- The responses' lists, gathered into `rsp_list` while they fit. -/
theorem foldlM_appendAttrList :
    ∀ (lists : List (List UInt8)) (acc : List UInt8),
      acc.length + lists.flatten.length ≤ sdpMaxListByteCount →
      lists.foldlM appendAttrList acc = .ok (acc ++ lists.flatten)
  | [], acc, _ => by
    rw [List.foldlM_nil, List.flatten_nil, List.append_nil]
    rfl
  | l :: ls, acc, h => by
    simp only [List.flatten_cons, List.length_append] at h
    have hfit : appendAttrList acc l = .ok (acc ++ l) := by
      rw [appendAttrList, if_neg (by omega)]
    rw [List.foldlM_cons, hfit]
    show List.foldlM appendAttrList (acc ++ l) ls = _
    rw [foldlM_appendAttrList ls (acc ++ l) (by simp only [List.length_append]; omega),
      List.flatten_cons, List.append_assoc]

/-- The parse of a whole attribute list: the outer sequence header is read, one byte past the
list bounding its length field, and the records follow it. -/
theorem parseSearchAttrList_attrList {B : List UInt8} (hB : B.length + 3 < 65536) {fuel : Nat}
    {ddb ddb' : DiscDb} (hsave : saveAttrSeqs fuel B ddb = some ddb') (past : UInt8) :
    parseSearchAttrList fuel past (attrList B) ddb = .ok ddb' := by
  obtain ⟨b, hrest, hhdr, hb, hget⟩ := seqHeader_listHeader hB
  have hget' := sdpuGetLenFromType_append hget (B ++ [past])
  have hlist : attrList B = b :: (hrest ++ B) := by
    rw [attrList, hhdr, List.cons_append]
  have hlen : (attrList B).length = hrest.length + B.length + 1 := by
    simp [hlist]
  have htake : (hrest ++ (B ++ [past])).take (attrList B).length = hrest ++ (B ++ [past]) :=
    List.take_of_length_le (by simp only [hlen, List.length_append, List.length_singleton]; omega)
  have hdrop : (attrList B).drop (hrest.length + 1) = B := by
    rw [hlist, List.drop_succ_cons, List.drop_left]
  rw [parseSearchAttrList]
  conv => lhs; rw [hlist]
  simp only [List.cons_append, List.append_assoc, hb, ne_eq, not_true_eq_false, if_false]
  rw [← hlist, htake, hget', List.nil_append]
  simp only [List.length_append, List.length_singleton, hlen]
  -- the records start right after the header
  have hstart : hrest.length + B.length + 1 + 1 - (B.length + 1) = hrest.length + 1 := by omega
  rw [if_neg (by omega), hstart, if_neg (by omega), hdrop, hsave]

/-- **The client reads back what the server sent.** However the attribute list of a search is cut
into responses, the client parses it into one record for each record holding the UUIDs that has
one of the attributes asked for, in the server's order, each reading back as the server's record,
and takes the memory those records cost. -/
theorem searchAttrList_readBack {db : SdpDb} {uidSeq : List (List UInt8)}
    {attrSeq : List AttrRange} (val : SdpRecord → SdpAttribute → DataElement)
    (hval : ∀ r ∈ matchingFrom db uidSeq 0, ∀ a ∈ requested r attrSeq, AttrStorable r a (val r a))
    {lists : List (List UInt8)} (hlists : lists.flatten = attrList (searchList db uidSeq attrSeq 0))
    (hmax : (attrList (searchList db uidSeq attrSeq 0)).length ≤ sdpMaxListByteCount)
    {ddb : DiscDb}
    (hmem : ((sentFrom attrSeq (matchingFrom db uidSeq 0)).map (recordCost attrSeq val)).sum ≤
      ddb.memFree)
    {fuel : Nat} (hfuel : (searchList db uidSeq attrSeq 0).length < fuel) (past : UInt8) :
    ∃ recs, processServiceSearchAttrRsp fuel past lists ddb =
        .ok ⟨ddb.memFree -
            ((sentFrom attrSeq (matchingFrom db uidSeq 0)).map (recordCost attrSeq val)).sum,
          ddb.records ++ recs⟩ ∧
      List.Forall₂ (RecordReadsBack attrSeq val) (sentFrom attrSeq (matchingFrom db uidSeq 0))
        recs := by
  have hlen : (searchList db uidSeq attrSeq 0).length + 3 < 65536 := by
    have := hmax
    rw [attrList, List.length_append, length_listHeader] at this
    unfold sdpMaxListByteCount at this
    split at this <;> omega
  obtain ⟨recs, hsave, hread⟩ := saveAttrSeqs_recordLists (matchingFrom db uidSeq 0) ddb fuel
    hval (by unfold searchList at hlen; omega) hmem hfuel
  refine ⟨recs, ?_, hread⟩
  -- the responses gathered, then the list parsed
  rw [processServiceSearchAttrRsp, foldlM_appendAttrList lists [] (by simpa [hlists] using hmax)]
  simp only [List.nil_append, hlists]
  exact parseSearchAttrList_attrList hlen hsave past

/-- The values the serial port record holds: its handle, its service id and its name. -/
def serialPortValue (_ : SdpRecord) (a : SdpAttribute) : DataElement :=
  if a.id = 0x0000 then .uint [0x00, 0x01, 0x00, 0x00]
  else if a.id = 0x0003 then .uuid [0x11, 0x01]
  else .text [0x53, 0x50, 0x50, 0x20, 0x31]

/-- A search for the serial port UUID asking for all attributes, in one response, into a discovery
database with a thousand bytes: the client's record reads back as the server's. -/
theorem searchAttrList_readBack_serialPort :
    ∃ recs, processServiceSearchAttrRsp 30 0
        [attrList (searchList ⟨0, [serialPortRecord]⟩ [[0x11, 0x01]] [⟨0x0000, 0xFFFE⟩] 0)]
        ⟨1000, []⟩ = .ok ⟨1000 - 108, recs⟩ ∧
      List.Forall₂ (RecordReadsBack [⟨0x0000, 0xFFFE⟩] serialPortValue) [serialPortRecord] recs := by
  have hmatch : matchingFrom ⟨0, [serialPortRecord]⟩ [[0x11, 0x01]] 0 = [serialPortRecord] := by
    decide
  have hreq : requested serialPortRecord [⟨0x0000, 0xFFFE⟩] = serialPortRecord.attributes := by
    decide
  have hval : ∀ r ∈ matchingFrom ⟨0, [serialPortRecord]⟩ [[0x11, 0x01]] 0,
      ∀ a ∈ requested r [⟨0x0000, 0xFFFE⟩], AttrStorable r a (serialPortValue r a) := by
    intro r hr a ha
    rw [hmatch, List.mem_singleton] at hr
    subst hr
    rw [hreq] at ha
    simp only [serialPortRecord, List.mem_cons, List.not_mem_nil, or_false] at ha
    rcases ha with rfl | rfl | rfl
    all_goals
      exact ⟨⟨rfl, rfl, rfl⟩, ⟨rfl, by decide, fun h => absurd h (by decide),
        fun h => absurd h (by decide)⟩, by decide⟩
  have hsent : sentFrom [⟨0x0000, 0xFFFE⟩] (matchingFrom ⟨0, [serialPortRecord]⟩ [[0x11, 0x01]] 0) =
      [serialPortRecord] := by
    rw [hmatch]
    decide
  have hcost : ([serialPortRecord].map (recordCost [⟨0x0000, 0xFFFE⟩] serialPortValue)).sum = 108 := by
    decide
  obtain ⟨recs, hrun, hread⟩ := searchAttrList_readBack serialPortValue hval
    (show [attrList (searchList ⟨0, [serialPortRecord]⟩ [[0x11, 0x01]] [⟨0x0000, 0xFFFE⟩] 0)].flatten =
      attrList (searchList ⟨0, [serialPortRecord]⟩ [[0x11, 0x01]] [⟨0x0000, 0xFFFE⟩] 0) by simp)
    (by decide)
    (show _ ≤ (⟨1000, []⟩ : DiscDb).memFree by rw [hsent, hcost]; decide)
    (show (searchList ⟨0, [serialPortRecord]⟩ [[0x11, 0x01]] [⟨0x0000, 0xFFFE⟩] 0).length < 30 by
      decide) 0
  rw [hsent, hcost] at hrun
  rw [hsent] at hread
  exact ⟨recs, hrun, hread⟩

/-- A record with a service id and an additional protocol descriptor lists attribute holding a
sequence of two 16-bit unsigned integers, the first `ATTR_ID_PROTOCOL_DESC_LIST`. -/
def protoListRecord : SdpRecord where
  recordHandle := 0x10002
  freePadPtr := 8
  attributes := [⟨0x0003, uuidDescType, 2, 0⟩, ⟨0x000D, dataEleSeqDescType, 6, 2⟩]
  attrPad := [0x11, 0x01, 0x09, 0x00, 0x04, 0x09, 0x00, 0x07]

/-- The client hangs the second integer under the first and reads the attribute back as nothing:
its one element is an unsigned integer holding a list. -/
theorem additionalProtoDescList_not_read :
    AttrHolds protoListRecord ⟨0x000D, dataEleSeqDescType, 6, 2⟩
        (.seq [.uint [0x00, 0x04], .uint [0x00, 0x07]]) ∧
      (DataElement.seq [.uint [0x00, 0x04], .uint [0x00, 0x07]]).wellFormed = true ∧
      processServiceSearchAttrRsp 30 0
          [attrList (searchList ⟨0, [protoListRecord]⟩ [[0x11, 0x01]] [⟨0x000D, 0x000D⟩] 0)]
          ⟨1000, []⟩ =
        .ok ⟨896, [⟨[.mk attrIdAdditionProtoDescLists (6 ||| (dataEleSeqDescType <<< 12))
          (.sub [.mk 0 (2 ||| (uintDescType <<< 12))
            (.sub [.mk attrIdProtocolDescList (2 ||| (uintDescType <<< 12)) (.u16 7)])])]⟩]⟩ ∧
      DiscAttr.read (.mk attrIdAdditionProtoDescLists (6 ||| (dataEleSeqDescType <<< 12))
          (.sub [.mk 0 (2 ||| (uintDescType <<< 12))
            (.sub [.mk attrIdProtocolDescList (2 ||| (uintDescType <<< 12)) (.u16 7)])])) = none :=
  by
  have hmatch : matchingFrom ⟨0, [protoListRecord]⟩ [[0x11, 0x01]] 0 = [protoListRecord] := by
    decide
  refine ⟨⟨rfl, rfl, rfl⟩, rfl, ?_, rfl⟩
  rw [searchList, hmatch]
  rfl

end BluetoothStack.Sdp
