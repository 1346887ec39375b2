import BluetoothStack.Sdp.AttrLoop

/-!
# A ServiceAttribute exchange

A client sends a ServiceAttribute request and repeats it with each continuation state the
server returns. The responses carry, one after the other, the whole attribute list of the
record: the list header of `list_len`, then the entries of the attributes asked for
(`attrList`). Each response sends at most `max_list_len` bytes of it, the first keeping three of
them for the header.

`AttrCursor` is where the exchange stands between two responses: the bytes sent so far, held in
`cont_offset`, and continuation information from which the attribute loop sends the rest.
-/

namespace BluetoothStack.Sdp

open Bytes

/-! ## The attribute list -/

/-- The bytes of the attribute list a response carries; none in an error response. -/
def SdpRsp.attrBytes : SdpRsp → List UInt8
  | .attrList bytes _ => bytes
  | .error _ => []

/-- Whether a response carries a part of the attribute list. -/
def SdpRsp.isAttrList : SdpRsp → Bool
  | .attrList _ _ => true
  | .error _ => false

theorem SdpRsp.isAttrList_cons {bytes : List UInt8} {contState : Option Nat} {rsps : List SdpRsp}
    (h : ∀ x ∈ rsps, x.isAttrList = true) :
    ∀ x ∈ SdpRsp.attrList bytes contState :: rsps, x.isAttrList = true := by
  intro x hx
  rcases List.mem_cons.mp hx with rfl | hx
  · rfl
  · exact h x hx

/-- A data element sequence header announcing `n` bytes: a header byte of type
`DATA_ELE_SEQ_DESC_TYPE`, then the length field, as `sdpu_get_len_from_type` reads it, with
nothing after. -/
def SeqHeader (hdr : List UInt8) (n : Nat) : Prop :=
  ∃ b rest, hdr = b :: rest ∧ b.toNat >>> 3 = dataEleSeqDescType ∧
    sdpuGetLenFromType rest b.toNat = some (n, [])

/-- The whole attribute list the server sends for a list body `body`: the header it writes for
`list_len`, which counts three header bytes, and the body. -/
def attrList (body : List UInt8) : List UInt8 :=
  listHeader (body.length + 3) ++ body

/-- The header the server writes announces the length of the body. -/
theorem seqHeader_listHeader {n : Nat} (h : n + 3 < 65536) : SeqHeader (listHeader (n + 3)) n := by
  unfold listHeader
  split
  · -- a 16-bit length
    refine ⟨_, _, rfl, rfl, ?_⟩
    show (if (beBytes 2 n).length < 2 then none
      else some (beValue ((beBytes 2 n).take 2), (beBytes 2 n).drop 2)) = some (n, [])
    rw [length_beBytes, if_neg (by omega), List.take_of_length_le (by simp), beValue_beBytes,
      Nat.mod_eq_of_lt (by omega), List.drop_of_length_le (by simp)]
  · -- an 8-bit length
    refine ⟨_, _, rfl, rfl, ?_⟩
    show some (beValue [UInt8.ofNat (n + 3 - 3)], []) = some (n, [])
    simp only [beValue, List.reverse_singleton, leValue, Nat.add_sub_cancel,
      UInt8.toNat_ofNat_of_lt' (show n < UInt8.size by simp only [UInt8.size]; omega)]
    rfl

theorem length_listHeader (listLen : Nat) :
    (listHeader listLen).length = if listLen > 255 then 3 else 2 := by
  unfold listHeader
  split <;> simp

/-! ## The end of a response -/

/-- The first response puts the header in front of the part of the list it gathered, `P`, and
returns how much of the whole list it sent. -/
theorem finishResponse_first {ccb : ConnCb} (hc : ccb.contOffset = 0) {B P : List UInt8}
    (hB : B.length + 3 < 65536) (hP : P.length ≤ B.length) :
    finishResponse ccb false B.length ([0, 0, 0] ++ P) =
      ({ ccb with
          listLen := (attrList B).length
          contOffset := (listHeader (B.length + 3) ++ P).length },
        .attrList (listHeader (B.length + 3) ++ P)
          (if (listHeader (B.length + 3) ++ P).length < (attrList B).length
            then some (listHeader (B.length + 3) ++ P).length else none)) := by
  have hmod : (B.length + 3) % 65536 = B.length + 3 := Nat.mod_eq_of_lt hB
  by_cases hbig : 255 < B.length + 3
  · -- three header bytes over the placeholder
    have hstore : store 0 (listHeader (B.length + 3)) (0 :: 0 :: 0 :: P) =
        listHeader (B.length + 3) ++ P := by
      rw [listHeader, if_pos hbig]
      simp [store, List.take_of_length_le]
    have hlen : (listHeader (B.length + 3)).length = 3 := by
      simp [length_listHeader, hbig]
    simp only [finishResponse, hmod, hbig, hc, attrList, hlen, Bool.false_eq_true, ↓reduceIte,
      List.cons_append, List.nil_append, List.drop_zero, List.length_cons, List.length_append,
      hstore, Nat.zero_add]
    have hm : (P.length + 1 + 1 + 1) % 65536 = 3 + P.length := by omega
    rw [hm, List.take_of_length_le (by simp [hlen]; omega)]
    by_cases hPB : P.length < B.length
    · rw [if_pos (by omega), if_pos (by omega), Nat.add_comm B.length 3]
    · rw [if_neg (by omega), if_neg (by omega), Nat.add_comm B.length 3]
  · -- two header bytes after the first placeholder byte
    have hstore : store 1 (listHeader (B.length + 3)) (0 :: 0 :: 0 :: P) =
        0 :: (listHeader (B.length + 3) ++ P) := by
      rw [listHeader, if_neg hbig]
      simp [store]
    have hlen : (listHeader (B.length + 3)).length = 2 := by
      simp [length_listHeader, hbig]
    simp only [finishResponse, hmod, hbig, hc, attrList, hlen, Bool.false_eq_true, ↓reduceIte,
      List.cons_append, List.nil_append, List.drop_one, List.tail_cons, List.length_cons,
      List.length_append, hstore, Nat.zero_add]
    have hm : (P.length + 1 + 1 + 1 - 1) % 65536 = 2 + P.length := by omega
    have hl : B.length + 3 - 1 = 2 + B.length := by omega
    rw [hm, hl, List.take_of_length_le (by simp [hlen]; omega)]

/-- A continued response sends what the loop gathered. -/
theorem finishResponse_cont (ccb : ConnCb) (rsp : List UInt8)
    (h : ccb.contOffset + rsp.length < 65536) :
    finishResponse ccb true 0 rsp =
      ({ ccb with contOffset := ccb.contOffset + rsp.length },
        .attrList rsp (if ccb.contOffset + rsp.length < ccb.listLen
          then some (ccb.contOffset + rsp.length) else none)) := by
  simp only [finishResponse, ↓reduceIte, List.drop_zero, List.take_length, Nat.mod_eq_of_lt h]

/-! ## Where the exchange stands -/

/-- `max_list_len` after the cap is at most what the MTU leaves beside the response header. -/
theorem capMaxListLen_le {maxListLen remMtuSize hdrLen : Nat} (h : hdrLen ≤ remMtuSize)
    (hmtu : remMtuSize < 65536) :
    capMaxListLen maxListLen remMtuSize hdrLen ≤ remMtuSize - hdrLen := by
  unfold capMaxListLen
  split <;> omega

/-- Where a ServiceAttribute exchange for `orig` on record `r` stands after responses that sent
the first `k` bytes of the whole list `L`: the connection holds `k` and the length of `L`, and the
continuation information points into the attributes asked for, from where the attribute loop
sends the rest of `L`. -/
structure AttrCursor (r : SdpRecord) (orig : List AttrRange) (L : List UInt8) (k : Nat)
    (ccb : ConnCb) : Prop where
  contOffset : ccb.contOffset = k
  listLen : ccb.listLen = L.length
  lt : k < L.length
  inEntry : InEntry (resumeView r orig ccb.contInfo) ccb.contInfo.attrOffset
  rest : resumeBytes r orig ccb.contInfo = L.drop k
  sub : ∀ a ∈ resumeView r orig ccb.contInfo, a ∈ requested r orig

/-- A ServiceAttribute request answered in full: it names record `recIdx` of the database, the
record holds the invariant with no attribute `0xFFFF` and is left as it is by the AVRCP rewrite
for this peer, the attributes asked for have entries shorter than `SDP_MAX_ATTR_LEN`, and the
whole list fits in the 16 bits of `list_len`. -/
structure AttrRequestOk (peer : AvrcPeer) (db : SdpDb) (req : ServiceAttrReq) (r : SdpRecord)
    (recIdx : Nat) : Prop where
  find : sdpDbFindRecord db req.recordHandle = some recIdx
  record : db.record[recIdx]? = some r
  attrSeq : req.attrSeq ≠ []
  served : Served peer r
  short : ∀ a ∈ requested r req.attrSeq, sdpuGetAttribEntryLen a < sdpMaxAttrLen
  total : (entries r (requested r req.attrSeq)).length + 3 < 65536

section Exchange

variable {peer : AvrcPeer} {db : SdpDb} {req : ServiceAttrReq} {r : SdpRecord} {recIdx : Nat}

/-- Writing the record back leaves the database as it was. -/
theorem AttrRequestOk.set_record (hok : AttrRequestOk peer db req r recIdx) :
    { db with record := db.record.set recIdx r } = db := by
  obtain ⟨hlt, hget⟩ := List.getElem?_eq_some_iff.mp hok.record
  rw [← hget, List.set_getElem_self hlt]

/-- The attribute loop of a continued request starts where the continuation points. -/
theorem AttrCursor.loopInv {L : List UInt8} {k : Nat} {ccb : ConnCb}
    (hok : AttrRequestOk peer db req r recIdx) (hcur : AttrCursor r req.attrSeq L k ccb)
    {maxListLen : Nat} :
    LoopInv r req.attrSeq maxListLen ccb.contInfo.nextAttrIndex
      ⟨r, resumeAttrSeq req.attrSeq ccb.contInfo, [], ccb.contInfo⟩ where
  record := rfl
  agrees := agreesFrom_resumeAttrSeq _ _
  rsp_le := Nat.zero_le _
  short a ha := hok.short a (hcur.sub a ha)
  inEntry := hcur.inEntry
  resume _ := rfl

/-- A continued request sends the next `max_list_len` bytes of the list, and returns a
continuation while the list goes on. -/
theorem processServiceAttrReq_cont (hok : AttrRequestOk peer db req r recIdx) {ccb : ConnCb}
    (hM : 4 ≤ capMaxListLen req.maxListLen ccb.remMtuSize sdpMaxAttrRsphdrLen)
    (hM' : capMaxListLen req.maxListLen ccb.remMtuSize sdpMaxAttrRsphdrLen < 32768)
    {L : List UInt8} {k : Nat} (hL : L.length < 65536) (hcur : AttrCursor r req.attrSeq L k ccb) :
    ∃ ccb', processServiceAttrReq peer db ccb { req with contState := some k } =
        some (db, ccb', .attrList ((L.drop k).take
            (capMaxListLen req.maxListLen ccb.remMtuSize sdpMaxAttrRsphdrLen))
          (if k + capMaxListLen req.maxListLen ccb.remMtuSize sdpMaxAttrRsphdrLen < L.length
            then some (k + capMaxListLen req.maxListLen ccb.remMtuSize sdpMaxAttrRsphdrLen)
            else none)) ∧
      ccb'.remMtuSize = ccb.remMtuSize ∧
      (k + capMaxListLen req.maxListLen ccb.remMtuSize sdpMaxAttrRsphdrLen < L.length →
        AttrCursor r req.attrSeq L
          (k + capMaxListLen req.maxListLen ccb.remMtuSize sdpMaxAttrRsphdrLen) ccb') := by
  generalize hMdef : capMaxListLen req.maxListLen ccb.remMtuSize sdpMaxAttrRsphdrLen = M at hM hM' ⊢
  obtain ⟨s', hrec, hrsp, -, -, hdone, hmax⟩ := attrLoop_spec hok.served.toRecordInv
    hok.served.id_lt hok.served.avrc hM' (loopBound r (resumeAttrSeq req.attrSeq ccb.contInfo)) _ _
    (hcur.loopInv hok) (loopCost_lt_loopBound _ _ _)
  have hR : (entries r (loopView r (resumeAttrSeq req.attrSeq ccb.contInfo)
      ccb.contInfo.nextAttrIndex)).drop ccb.contInfo.attrOffset = L.drop k := hcur.rest
  simp only [hR, List.length_nil, Nat.sub_zero, List.nil_append] at hrsp hdone hmax
  unfold processServiceAttrReq
  simp only [hMdef, hok.attrSeq, hok.find, hok.record, ↓reduceIte, contValid, hcur.contOffset,
    Option.isSome_some, Nat.not_lt.mpr hM, beq_self_eq_true, Bool.not_true, Bool.false_eq_true]
  have hlen : (L.drop k).length = L.length - k := List.length_drop
  have hlt := hcur.lt
  by_cases hfit : (L.drop k).length ≤ M
  · -- the rest of the list fits: the last response
    rw [(hdone hfit).1]
    simp only [hrec, hok.set_record]
    rw [finishResponse_cont _ _ (by simp [hrsp]; omega)]
    simp only [hrsp, hcur.listLen, List.length_take]
    rw [if_neg (by omega), if_neg (by omega)]
    exact ⟨_, rfl, rfl, fun h => absurd h (by omega)⟩
  · -- the response is full: a continuation to the byte after it
    obtain ⟨hout, hin, hbytes, hsub⟩ := hmax (by omega)
    rw [hout]
    simp only [hrec, hok.set_record]
    rw [finishResponse_cont _ _ (by simp [hrsp]; omega)]
    have hsent : k + (s'.rsp).length = k + M := by
      rw [hrsp, List.length_take]
      omega
    rw [hsent, if_pos (show k + M < ccb.listLen by rw [hcur.listLen]; omega),
      if_pos (show k + M < L.length by omega), hrsp]
    exact ⟨{ ccb with contOffset := k + M, contInfo := s'.contInfo }, rfl, rfl,
      fun h => ⟨rfl, hcur.listLen, h, hin, by rw [hbytes, List.drop_drop],
        fun a ha => hcur.sub a (hsub a ha)⟩⟩

theorem take_attrList (B : List UInt8) (m : Nat) :
    (attrList B).take ((listHeader (B.length + 3)).length + m) =
      listHeader (B.length + 3) ++ B.take m := by
  rw [attrList, List.take_append, List.take_of_length_le (by omega), Nat.add_sub_cancel_left]

theorem drop_attrList (B : List UInt8) (m : Nat) :
    (attrList B).drop ((listHeader (B.length + 3)).length + m) = B.drop m := by
  rw [attrList, List.drop_append, List.drop_of_length_le (by omega), Nat.add_sub_cancel_left,
    List.nil_append]

/-- The attribute loop of a first request starts at the first entry, after the three bytes kept
for the header. -/
theorem AttrRequestOk.loopInv (hok : AttrRequestOk peer db req r recIdx) (ci : ContInfo)
    {maxListLen : Nat} (hM : 4 ≤ maxListLen) :
    LoopInv r req.attrSeq maxListLen 0
      ⟨r, req.attrSeq, [0, 0, 0], { ci with prevSdpRec := none, nextAttrIndex := 0, attrOffset := 0 }⟩ where
  record := rfl
  agrees := agreesFrom_refl _ _
  rsp_le := by simp only [List.length_cons, List.length_nil]; omega
  short a ha := hok.short a ha
  inEntry := inEntry_zero _
  resume h := absurd rfl h

/-- The first request sends the list header and as much of the body as fits beside it, and
returns a continuation if the list goes on. -/
theorem processServiceAttrReq_first (hok : AttrRequestOk peer db req r recIdx) {ccb : ConnCb}
    (hM : 4 ≤ capMaxListLen req.maxListLen ccb.remMtuSize sdpMaxAttrRsphdrLen)
    (hM' : capMaxListLen req.maxListLen ccb.remMtuSize sdpMaxAttrRsphdrLen < 32768)
    (hnone : req.contState = none) :
    let B := entries r (requested r req.attrSeq)
    let n := (listHeader (B.length + 3)).length +
      min B.length (capMaxListLen req.maxListLen ccb.remMtuSize sdpMaxAttrRsphdrLen - 3)
    ∃ ccb', processServiceAttrReq peer db ccb req =
        some (db, ccb', .attrList ((attrList B).take n)
          (if n < (attrList B).length then some n else none)) ∧
      ccb'.remMtuSize = ccb.remMtuSize ∧
      (n < (attrList B).length → AttrCursor r req.attrSeq (attrList B) n ccb') := by
  intro B n
  have hndef : n = (listHeader (B.length + 3)).length +
      min B.length (capMaxListLen req.maxListLen ccb.remMtuSize sdpMaxAttrRsphdrLen - 3) := rfl
  clear_value n
  generalize hMdef : capMaxListLen req.maxListLen ccb.remMtuSize sdpMaxAttrRsphdrLen = M
    at hM hM' hndef ⊢
  obtain ⟨s', hrec, hrsp, -, -, hdone, hmax⟩ := attrLoop_spec hok.served.toRecordInv
    hok.served.id_lt hok.served.avrc hM' (loopBound r req.attrSeq) _ _ (hok.loopInv ccb.contInfo hM)
    (loopCost_lt_loopBound _ _ _)
  have hR : (entries r (loopView r req.attrSeq 0)).drop 0 = B := by
    rw [List.drop_zero]
    rfl
  simp only [hR, List.length_cons, List.length_nil, Nat.zero_add, Nat.reduceAdd] at hrsp hdone hmax
  have hP : (B.take (M - 3)).length ≤ B.length := List.length_take_le' _ _
  have hseqLen : sdpuGetAttribSeqLen r req.attrSeq = some B.length := by
    rw [sdpuGetAttribSeqLen_eq hok.served.toRecordInv hok.served.id_lt,
      Nat.mod_eq_of_lt (by have := hok.total; omega)]
  have hn : (listHeader (B.length + 3) ++ B.take (M - 3)).length = n := by
    simp only [hndef, List.length_append, List.length_take]
    omega
  have hsend : listHeader (B.length + 3) ++ B.take (M - 3) = (attrList B).take n := by
    have htake : B.take (min B.length (M - 3)) = B.take (M - 3) := by
      rcases Nat.le_total B.length (M - 3) with h | h
      · rw [Nat.min_eq_left h, List.take_length, List.take_of_length_le h]
      · rw [Nat.min_eq_right h]
    rw [hndef, take_attrList, htake]
  unfold processServiceAttrReq
  simp only [hMdef, hok.attrSeq, hok.find, hok.record, ↓reduceIte, contValid, hnone,
    Option.isSome_none, Nat.not_lt.mpr hM, Bool.not_true, Bool.false_eq_true]
  by_cases hfit : B.length ≤ M - 3
  · -- the whole list in one response
    rw [(hdone hfit).1]
    simp only [hrec, hok.set_record, hseqLen, hrsp]
    rw [finishResponse_first rfl hok.total hP, hn, hsend]
    have hall : n = (attrList B).length := by
      simp only [hndef, attrList, List.length_append]
      omega
    rw [if_neg (show ¬ n < (attrList B).length by omega)]
    exact ⟨_, rfl, rfl, fun h => absurd h (by omega)⟩
  · -- the response is full
    obtain ⟨hout, hin, hbytes, hsub⟩ := hmax (by omega)
    rw [hout]
    simp only [hrec, hok.set_record, hseqLen, hrsp]
    rw [finishResponse_first rfl hok.total hP, hn, hsend]
    have hlt : n < (attrList B).length := by
      simp only [hndef, attrList, List.length_append]
      omega
    rw [if_pos hlt]
    refine ⟨_, rfl, rfl, fun _ => ⟨rfl, rfl, hlt, hin, ?_, fun a ha => hsub a ha⟩⟩
    rw [hbytes]
    have hn' : n = (listHeader (B.length + 3)).length + (M - 3) := by
      omega
    rw [hn', drop_attrList]

/-- From where a continued request stands, the client's requests go on until the list ends, and
the responses carry the rest of the list. -/
theorem serviceAttrSession_cont (hok : AttrRequestOk peer db req r recIdx) {mtu : Nat}
    (hM : 4 ≤ capMaxListLen req.maxListLen mtu sdpMaxAttrRsphdrLen)
    (hM' : capMaxListLen req.maxListLen mtu sdpMaxAttrRsphdrLen < 32768)
    {L : List UInt8} (hL : L.length < 65536) :
    ∀ (fuel k : Nat) (ccb : ConnCb), ccb.remMtuSize = mtu → AttrCursor r req.attrSeq L k ccb →
      L.length - k < fuel →
      ∃ rsps, serviceAttrSession peer { req with contState := some k } fuel db ccb = some rsps ∧
        (∀ x ∈ rsps, x.isAttrList = true) ∧ rsps.flatMap SdpRsp.attrBytes = L.drop k := by
  intro fuel
  induction fuel with
  | zero =>
    intro k ccb _ _ hfuel
    exact absurd hfuel (Nat.not_lt_zero _)
  | succ fuel ih =>
    intro k ccb hmtu hcur hfuel
    subst hmtu
    obtain ⟨ccb', hreq, hmtu', hnext⟩ := processServiceAttrReq_cont hok hM hM' hL hcur
    generalize capMaxListLen req.maxListLen ccb.remMtuSize sdpMaxAttrRsphdrLen = M
      at hM hM' hreq hnext
    rw [serviceAttrSession, hreq]
    by_cases hmore : k + M < L.length
    · -- a continuation: the client asks again from `k + M`
      rw [if_pos hmore]
      obtain ⟨rsps, hs, hall, hcat⟩ := ih (k + M) ccb' hmtu' (hnext hmore) (by omega)
      refine ⟨_, by simp only [hs, Option.map_some]; rfl, SdpRsp.isAttrList_cons hall, ?_⟩
      rw [List.flatMap_cons, hcat, SdpRsp.attrBytes, ← List.drop_drop,
          List.take_append_drop]
    · -- the last response
      rw [if_neg hmore]
      refine ⟨_, rfl, fun x hx => by rw [List.mem_singleton.mp hx]; rfl, ?_⟩
      rw [List.flatMap_singleton, SdpRsp.attrBytes, List.take_of_length_le (by simp; omega)]

/-- A client starting a ServiceAttribute exchange receives the whole attribute list of the
record: the list header and the entries of the attributes asked for. -/
theorem serviceAttrSession_spec (hok : AttrRequestOk peer db req r recIdx) {ccb : ConnCb}
    (hM : 4 ≤ capMaxListLen req.maxListLen ccb.remMtuSize sdpMaxAttrRsphdrLen)
    (hM' : capMaxListLen req.maxListLen ccb.remMtuSize sdpMaxAttrRsphdrLen < 32768)
    (hnone : req.contState = none) {fuel : Nat}
    (hfuel : (entries r (requested r req.attrSeq)).length < fuel) :
    ∃ rsps, serviceAttrSession peer req fuel db ccb = some rsps ∧
      (∀ x ∈ rsps, x.isAttrList = true) ∧
      rsps.flatMap SdpRsp.attrBytes = attrList (entries r (requested r req.attrSeq)) := by
  obtain ⟨fuel, rfl⟩ : ∃ f, fuel = f + 1 := ⟨fuel - 1, by omega⟩
  obtain ⟨ccb', hreq, hmtu', hnext⟩ := processServiceAttrReq_first hok hM hM' hnone
  generalize hB : entries r (requested r req.attrSeq) = B at hfuel hreq hnext ⊢
  have hlenL : (attrList B).length = (listHeader (B.length + 3)).length + B.length := by
    simp [attrList]
  have hL : (attrList B).length < 65536 := by
    have := hok.total
    rw [hB] at this
    rw [hlenL, length_listHeader]
    split <;> omega
  generalize hn : (listHeader (B.length + 3)).length +
    min B.length (capMaxListLen req.maxListLen ccb.remMtuSize sdpMaxAttrRsphdrLen - 3) = n
    at hreq hnext
  rw [serviceAttrSession, hreq]
  by_cases hmore : n < (attrList B).length
  · -- the first response is full: the rest comes in answer to continued requests
    rw [if_pos hmore]
    obtain ⟨rsps, hs, hall, hcat⟩ := serviceAttrSession_cont hok hM hM' hL fuel n ccb' hmtu'
      (hnext hmore) (by omega)
    refine ⟨_, by simp only [hs, Option.map_some]; rfl, SdpRsp.isAttrList_cons hall, ?_⟩
    rw [List.flatMap_cons, hcat, SdpRsp.attrBytes, List.take_append_drop]
  · -- the whole list in the first response
    rw [if_neg hmore]
    refine ⟨_, rfl, fun x hx => by rw [List.mem_singleton.mp hx]; rfl, ?_⟩
    rw [List.flatMap_singleton, SdpRsp.attrBytes, List.take_of_length_le (by omega)]

end Exchange

end BluetoothStack.Sdp
