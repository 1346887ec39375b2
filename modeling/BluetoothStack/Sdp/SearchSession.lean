import Mathlib
import BluetoothStack.Sdp.AttrSession

/-!
# A ServiceSearchAttribute exchange

The attribute list of a ServiceSearchAttribute response runs over the records holding every UUID
of the request, in database order (`matchingFrom`): for each record having one of the attributes
asked for, a 3-byte sequence header and the entries (`recordList`). A response may stop inside
an entry, after a record's header, or at a record boundary when fewer than three bytes are left
for the next header; the continuation information then says which record comes next, whether
its header has gone out, and where in its attributes to go on (`searchRest`).
-/

namespace BluetoothStack.Sdp

open Bytes

/-! ## The records searched -/

/-- The records from index `start` on that hold every UUID of the sequence, in database order. -/
def matchingFrom (db : SdpDb) (uidSeq : List (List UInt8)) (start : Nat) : List SdpRecord :=
  (db.record.drop start).filter fun r => uidSeq.all (recordHasUuid r)

/-- The first element found in an indexed list heads the filtered list, and the rest is the
filtered list after its index. -/
theorem filter_of_find?_zipIdx {α : Type} {p : α → Bool} :
    ∀ (l : List α) (k : Nat) {a : α} {i : Nat},
      (l.zipIdx k).find? (fun q => p q.1) = some (a, i) →
        k ≤ i ∧ l.filter p = a :: (l.drop (i + 1 - k)).filter p
  | [], _, _, _, h => by simp at h
  | x :: t, k, a, i, h => by
    rw [List.zipIdx_cons] at h
    by_cases hx : p x = true
    · rw [List.find?_cons_of_pos (by exact hx), Option.some.injEq, Prod.mk.injEq] at h
      obtain ⟨rfl, rfl⟩ := h
      refine ⟨Nat.le_refl _, ?_⟩
      rw [List.filter_cons_of_pos hx, Nat.add_sub_cancel_left, List.drop_one, List.tail_cons]
    · rw [List.find?_cons_of_neg (by exact hx)] at h
      obtain ⟨hle, hrest⟩ := filter_of_find?_zipIdx t (k + 1) h
      refine ⟨by omega, ?_⟩
      rw [List.filter_cons_of_neg hx, hrest]
      have : i + 1 - k = (i + 1 - (k + 1)) + 1 := by omega
      rw [this, List.drop_succ_cons]

/-- The search finds nothing: no record after `prev` holds the UUIDs. -/
theorem matchingFrom_of_search_none {db : SdpDb} {prev : Option Nat}
    {uidSeq : List (List UInt8)} (h : sdpDbServiceSearch db prev uidSeq = none) :
    matchingFrom db uidSeq (prev.elim 0 (· + 1)) = [] := by
  rw [sdpDbServiceSearch, List.find?_eq_none] at h
  rw [matchingFrom, List.filter_eq_nil_iff]
  intro r hr hmatch
  -- every record from `start` on sits in the indexed list the search goes through
  rw [← List.zipIdx_map_fst (prev.elim 0 (· + 1)) (db.record.drop (prev.elim 0 (· + 1))),
    List.mem_map] at hr
  obtain ⟨q, hq, rfl⟩ := hr
  exact h q hq hmatch

/-- The search finds record `r` at index `i`: it heads the records after `prev` holding the
UUIDs, and the records after `i` holding them are the rest. -/
theorem matchingFrom_of_search_some {db : SdpDb} {prev : Option Nat}
    {uidSeq : List (List UInt8)} {r : SdpRecord} {i : Nat}
    (h : sdpDbServiceSearch db prev uidSeq = some (r, i)) :
    matchingFrom db uidSeq (prev.elim 0 (· + 1)) = r :: matchingFrom db uidSeq (i + 1) := by
  obtain ⟨hle, hfilter⟩ := filter_of_find?_zipIdx (p := fun r => uidSeq.all (recordHasUuid r)) _ _ h
  rw [matchingFrom, hfilter, matchingFrom, List.drop_drop]
  congr 3
  omega

/-! ## The list a search sends -/

/-- What one record contributes to the attribute list: the entries of the attributes asked for
behind a 3-byte sequence header of their length, or nothing if it has none of them. -/
def recordList (r : SdpRecord) (attrSeq : List AttrRange) : List UInt8 :=
  if requested r attrSeq = [] then []
  else descByte dataEleSeqDescType sizeInNextWord ::
    beBytes 2 (entries r (requested r attrSeq)).length ++ entries r (requested r attrSeq)

/-- The body of the attribute list of a search from index `start` on. -/
def searchList (db : SdpDb) (uidSeq : List (List UInt8)) (attrSeq : List AttrRange)
    (start : Nat) : List UInt8 :=
  (matchingFrom db uidSeq start).flatMap (recordList · attrSeq)

/-- What a search needs of each record holding the UUIDs: the record is served in full and the
attributes asked of it have entries shorter than `SDP_MAX_ATTR_LEN`. -/
def RecordsOk (peer : AvrcPeer) (db : SdpDb) (uidSeq : List (List UInt8))
    (attrSeq : List AttrRange) : Prop :=
  ∀ r ∈ matchingFrom db uidSeq 0, Served peer r ∧
    ∀ a ∈ requested r attrSeq, sdpuGetAttribEntryLen a < sdpMaxAttrLen

theorem matchingFrom_sublist (db : SdpDb) (uidSeq : List (List UInt8)) (start : Nat) :
    List.Sublist (matchingFrom db uidSeq start) (matchingFrom db uidSeq 0) :=
  ((List.drop_sublist _ _).filter _)

theorem length_recordList {r : SdpRecord} {attrSeq : List AttrRange} :
    (recordList r attrSeq).length =
      if requested r attrSeq = [] then 0 else 3 + (entries r (requested r attrSeq)).length := by
  unfold recordList
  split <;> simp
  omega

/-- A record has entries exactly when it has one of the attributes asked for. -/
theorem entries_eq_nil_iff {r : SdpRecord} {as : List SdpAttribute} :
    entries r as = [] ↔ as = [] := by
  cases as with
  | nil => simp
  | cons a _ => simp [sdpuBuildAttribEntry]

theorem searchList_of_search_none {db : SdpDb} {prev : Option Nat}
    {uidSeq : List (List UInt8)} (attrSeq : List AttrRange)
    (h : sdpDbServiceSearch db prev uidSeq = none) :
    searchList db uidSeq attrSeq (prev.elim 0 (· + 1)) = [] := by
  rw [searchList, matchingFrom_of_search_none h, List.flatMap_nil]

theorem searchList_of_search_some {db : SdpDb} {prev : Option Nat}
    {uidSeq : List (List UInt8)} (attrSeq : List AttrRange) {r : SdpRecord} {i : Nat}
    (h : sdpDbServiceSearch db prev uidSeq = some (r, i)) :
    searchList db uidSeq attrSeq (prev.elim 0 (· + 1)) =
      recordList r attrSeq ++ searchList db uidSeq attrSeq (i + 1) := by
  rw [searchList, matchingFrom_of_search_some h, List.flatMap_cons]
  rfl

theorem RecordsOk.of_search {peer : AvrcPeer} {db : SdpDb} {uidSeq : List (List UInt8)}
    {attrSeq : List AttrRange} (hok : RecordsOk peer db uidSeq attrSeq) {prev : Option Nat}
    {r : SdpRecord} {i : Nat} (h : sdpDbServiceSearch db prev uidSeq = some (r, i)) :
    Served peer r ∧ ∀ a ∈ requested r attrSeq, sdpuGetAttribEntryLen a < sdpMaxAttrLen := by
  apply hok r
  apply (matchingFrom_sublist db uidSeq (prev.elim 0 (· + 1))).subset
  rw [matchingFrom_of_search_some h]
  exact List.mem_cons_self

/-- `sdpu_get_list_len` from the record after `prev` adds up, in 16 bits, what each record holding
the UUIDs contributes to the list. -/
theorem sdpuGetListLenFrom_eq {peer : AvrcPeer} {db : SdpDb} {uidSeq : List (List UInt8)}
    {attrSeq : List AttrRange} (hok : RecordsOk peer db uidSeq attrSeq) :
    ∀ (n : Nat) (prev : Option Nat) (len : Nat), db.record.length - prev.elim 0 (· + 1) = n →
      len + (searchList db uidSeq attrSeq (prev.elim 0 (· + 1))).length < 65536 →
      sdpuGetListLenFrom db uidSeq attrSeq prev len =
        some (len + (searchList db uidSeq attrSeq (prev.elim 0 (· + 1))).length) := by
  intro n
  induction n using Nat.strongRecOn with
  | ind n ih =>
    intro prev len hn hlen
    rw [sdpuGetListLenFrom]
    split
    · -- no record left
      rename_i hs
      rw [searchList_of_search_none attrSeq hs, List.length_nil, Nat.add_zero]
    · -- the record found, then the records after it
      rename_i r i hs
      obtain ⟨hle, hlt, -⟩ := sdpDbServiceSearch_index hs
      have hserved := (hok.of_search hs).1
      rw [searchList_of_search_some attrSeq hs, List.length_append] at hlen ⊢
      rw [sdpuGetAttribSeqLen_eq hserved.toRecordInv hserved.id_lt]
      dsimp only
      have hnext := ih (db.record.length - (i + 1)) (by omega) (some i)
      simp only [Option.elim_some] at hnext
      by_cases hreq : requested r attrSeq = []
      · -- a record without the attributes adds nothing
        have hrl : recordList r attrSeq = [] := by rw [recordList, if_pos hreq]
        rw [hrl, List.length_nil, Nat.zero_add] at hlen ⊢
        rw [hreq, entries_nil, List.length_nil, Nat.zero_mod, if_neg (by simp),
          hnext len trivial hlen]
      · -- a header and the entries
        have hrl := @length_recordList r attrSeq
        rw [if_neg hreq] at hrl
        have hne : (entries r (requested r attrSeq)).length ≠ 0 := by
          rw [ne_eq, List.length_eq_zero_iff, entries_eq_nil_iff]
          exact hreq
        rw [Nat.mod_eq_of_lt (by omega), if_pos hne, Nat.mod_eq_of_lt (by omega),
          hnext (len + 3 + (entries r (requested r attrSeq)).length) trivial (by omega)]
        congr 1
        omega

/-- `sdpu_get_list_len` is the length of the body of the list. -/
theorem sdpuGetListLen_eq {peer : AvrcPeer} {db : SdpDb} {uidSeq : List (List UInt8)}
    {attrSeq : List AttrRange} (hok : RecordsOk peer db uidSeq attrSeq)
    (htotal : (searchList db uidSeq attrSeq 0).length < 65536) :
    sdpuGetListLen db uidSeq attrSeq = some (searchList db uidSeq attrSeq 0).length := by
  rw [sdpuGetListLen, sdpuGetListLenFrom_eq hok _ none 0 rfl (by simpa using htotal)]
  simp

/-! ## Where a search stands -/

/-- The bytes of the list a search resumed from `contInfo` has still to send: from the record
after `prev_sdp_rec`, the rest of its attributes if its header has gone out, else all it
contributes, then the records after it. -/
def searchRest (db : SdpDb) (uidSeq : List (List UInt8)) (orig : List AttrRange)
    (ci : ContInfo) : List UInt8 :=
  if ci.lastAttrSeqDescSent then
    match matchingFrom db uidSeq (ci.prevSdpRec.elim 0 (· + 1)) with
    | [] => []
    | r :: rest => resumeBytes r orig ci ++ rest.flatMap (recordList · orig)
  else searchList db uidSeq orig (ci.prevSdpRec.elim 0 (· + 1))

/-- What the continuation information of a search points at: inside a record whose header has
gone out, into the attributes asked of it; or at a record boundary, with the attribute sequence
to be gone through from its first entry. -/
structure SearchResumes (db : SdpDb) (uidSeq : List (List UInt8)) (orig : List AttrRange)
    (ci : ContInfo) : Prop where
  inRecord : ci.lastAttrSeqDescSent = true →
    ∀ r rest, matchingFrom db uidSeq (ci.prevSdpRec.elim 0 (· + 1)) = r :: rest →
      InEntry (resumeView r orig ci) ci.attrOffset ∧ ∀ a ∈ resumeView r orig ci, a ∈ requested r orig
  atBoundary : ci.lastAttrSeqDescSent = false →
    ci.nextAttrIndex = 0 ∧ ci.nextAttrStartId = orig[0]?.elim 0 (·.start) ∧ ci.attrOffset = 0

/-- What holds of the record loop of a search for `orig` from the record after `prev`: it reads the
database unchanged, its continuation information names `prev`, the response is within
`max_list_len`, and the attribute loop is to resume inside the current record or to start at the
next one. -/
structure SearchLoopInv (db : SdpDb) (uidSeq : List (List UInt8)) (orig : List AttrRange)
    (maxListLen : Nat) (prev : Option Nat) (s : SearchLoopVars) : Prop where
  db_eq : s.db = db
  prev_eq : s.contInfo.prevSdpRec = prev
  rsp_le : s.rsp.length ≤ maxListLen
  inRecord : s.contInfo.lastAttrSeqDescSent = true →
    s.attrSeq = resumeAttrSeq orig s.contInfo ∧
    ∀ r rest, matchingFrom db uidSeq (prev.elim 0 (· + 1)) = r :: rest →
      InEntry (resumeView r orig s.contInfo) s.contInfo.attrOffset ∧
      ∀ a ∈ resumeView r orig s.contInfo, a ∈ requested r orig
  atBoundary : s.contInfo.lastAttrSeqDescSent = false →
    s.attrSeq = orig ∧ s.contInfo.nextAttrIndex = 0 ∧ s.contInfo.attrOffset = 0

/-- What a run of the record loop from `s` ends in, for the bytes `S` it has to send and the room
`c` left: the first `k` bytes of `S` appended to the response, at least one if `S` is not empty and
there is room for a record header, and, if `S` goes on, continuation information from which the
next request sends the rest. -/
def SearchPost (db : SdpDb) (uidSeq : List (List UInt8)) (orig : List AttrRange)
    (maxListLen : Nat) (s : SearchLoopVars) (out : LoopOut SearchLoopVars) : Prop :=
  let S := searchRest db uidSeq orig s.contInfo
  let c := maxListLen - s.rsp.length
  ∃ s' k, (out = .done s' ∨ out = .maxxed s') ∧ s'.db = db ∧ s'.rsp = s.rsp ++ S.take k ∧
    k ≤ c ∧ k ≤ S.length ∧ (3 ≤ c → S ≠ [] → 0 < k) ∧
    (k < S.length → searchRest db uidSeq orig s'.contInfo = S.drop k ∧
      SearchResumes db uidSeq orig s'.contInfo)

theorem resumeBytes_congr {r : SdpRecord} {orig : List AttrRange} {ci ci' : ContInfo}
    (h₁ : ci.nextAttrIndex = ci'.nextAttrIndex) (h₂ : ci.nextAttrStartId = ci'.nextAttrStartId)
    (h₃ : ci.attrOffset = ci'.attrOffset) :
    resumeBytes r orig ci = resumeBytes r orig ci' := by
  rw [resumeBytes, resumeBytes, resumeView_congr h₁ h₂, h₃]

/-- With the record after `prev_sdp_rec` found, what is left is its part, then the records after
it. -/
theorem searchRest_of_cons {db : SdpDb} {uidSeq : List (List UInt8)} (orig : List AttrRange)
    (ci : ContInfo) {r : SdpRecord} {rest : List SdpRecord}
    (hm : matchingFrom db uidSeq (ci.prevSdpRec.elim 0 (· + 1)) = r :: rest) :
    searchRest db uidSeq orig ci =
      (if ci.lastAttrSeqDescSent then resumeBytes r orig ci else recordList r orig) ++
        rest.flatMap (recordList · orig) := by
  unfold searchRest searchList
  rw [hm]
  cases ci.lastAttrSeqDescSent <;> rfl

theorem searchRest_of_nil {db : SdpDb} {uidSeq : List (List UInt8)} {orig : List AttrRange}
    {ci : ContInfo} (hm : matchingFrom db uidSeq (ci.prevSdpRec.elim 0 (· + 1)) = []) :
    searchRest db uidSeq orig ci = [] := by
  unfold searchRest searchList
  rw [hm]
  cases ci.lastAttrSeqDescSent <;> rfl

section RecordLoop

variable {db : SdpDb} {uidSeq : List (List UInt8)} {orig : List AttrRange} {maxListLen : Nat}

/-- Sending `P`, the part of the current record, and going on from `t`: what the run from there
ends in is what the run from `s` ends in. -/
theorem SearchPost.of_next {s t : SearchLoopVars} {out : LoopOut SearchLoopVars}
    {P : List UInt8}
    (hS : searchRest db uidSeq orig s.contInfo = P ++ searchRest db uidSeq orig t.contInfo)
    (hrsp : t.rsp = s.rsp ++ P) (hP : P.length ≤ maxListLen - s.rsp.length)
    (h : SearchPost db uidSeq orig maxListLen t out) :
    SearchPost db uidSeq orig maxListLen s out := by
  obtain ⟨s', k, hout, hdb, hrsp', hkc, hkS, hprog, hcont⟩ := h
  have hc : maxListLen - t.rsp.length = maxListLen - s.rsp.length - P.length := by
    rw [hrsp, List.length_append]
    omega
  rw [hc] at hkc hprog
  refine ⟨s', P.length + k, hout, hdb, ?_, by omega, ?_, ?_, ?_⟩
  · rw [hrsp', hrsp, hS, List.take_append, List.take_of_length_le (l := P) (by omega),
      Nat.add_sub_cancel_left, List.append_assoc]
  · rw [hS, List.length_append]
    omega
  · intro h3 hne
    by_cases hPnil : P = []
    · subst hPnil
      rw [hS, List.nil_append] at hne
      have := hprog (by simpa using h3) hne
      omega
    · have := List.length_pos_of_ne_nil hPnil
      omega
  · intro hlt
    rw [hS, List.length_append] at hlt
    obtain ⟨hrest, hres⟩ := hcont (by omega)
    refine ⟨?_, hres⟩
    rw [hrest, hS, List.drop_append, List.drop_of_length_le (l := P) (by omega), List.nil_append,
      Nat.add_sub_cancel_left]

/-- The database with a record written back that was read from it. -/
theorem set_record_of_search {prev : Option Nat} {rec : SdpRecord} {i : Nat}
    (hs : sdpDbServiceSearch db prev uidSeq = some (rec, i)) :
    { db with record := db.record.set i rec } = db := by
  obtain ⟨-, -, hget⟩ := sdpDbServiceSearch_index hs
  obtain ⟨hlt, hget'⟩ := List.getElem?_eq_some_iff.mp hget
  rw [← hget', List.set_getElem_self hlt]

/-- A record whose header went out in an earlier response: the attribute loop goes on where the
continuation points, and the record loop goes on to the next record if it finishes. -/
theorem recordLoop_resumed {peer : AvrcPeer} (hok : RecordsOk peer db uidSeq orig)
    (hM : maxListLen < 32768) {prev : Option Nat} {rec : SdpRecord} {i : Nat}
    (hs : sdpDbServiceSearch db prev uidSeq = some (rec, i))
    (ih : ∀ t, SearchLoopInv db uidSeq orig maxListLen (some i) t →
      SearchPost db uidSeq orig maxListLen t (recordLoop peer uidSeq orig maxListLen (some i) t))
    {s : SearchLoopVars} (hinv : SearchLoopInv db uidSeq orig maxListLen prev s)
    (hd : s.contInfo.lastAttrSeqDescSent = true) :
    SearchPost db uidSeq orig maxListLen s (recordLoop peer uidSeq orig maxListLen prev s) := by
  have hrsp := hinv.rsp_le
  have hm := matchingFrom_of_search_some hs
  obtain ⟨hseq, hres⟩ := hinv.inRecord hd
  obtain ⟨hin, hsub⟩ := hres rec _ hm
  obtain ⟨hserved, hshort⟩ := hok.of_search hs
  -- the attribute loop resumes inside the record
  have hloop : LoopInv rec orig maxListLen s.contInfo.nextAttrIndex
      ⟨rec, s.attrSeq, s.rsp, s.contInfo⟩ :=
    { record := rfl
      agrees := hseq ▸ agreesFrom_resumeAttrSeq _ _
      rsp_le := hrsp
      short := fun a ha => hshort a (hsub a (by rw [resumeView, ← hseq]; exact ha))
      inEntry := by rw [hseq]; exact hin
      resume := fun _ => by rw [hseq]; rfl }
  obtain ⟨l, hlrec, hlrsp, hlprev, hldesc, hdone, hmax⟩ := attrLoop_spec hserved.toRecordInv
    hserved.id_lt hserved.avrc hM _ _ _ hloop (loopCost_lt_loopBound _ _ _)
  dsimp only at hlrsp hlprev hldesc hdone hmax
  -- what is left to send: the rest of this record, then the records after it
  have hS := searchRest_of_cons orig s.contInfo (hinv.prev_eq ▸ hm)
  rw [if_pos hd] at hS
  have hR : (entries rec (loopView rec s.attrSeq s.contInfo.nextAttrIndex)).drop
      s.contInfo.attrOffset = resumeBytes rec orig s.contInfo := by
    rw [hseq]
    rfl
  rw [hR] at hlrsp hdone hmax
  rw [recordLoop]
  split
  · rename_i hnone
    rw [hinv.db_eq] at hnone
    exact absurd (hnone.symm.trans hs) (by simp)
  rename_i rec' i' hs'
  rw [hinv.db_eq] at hs'
  have hsame := hs.symm.trans hs'
  simp only [Option.some.injEq, Prod.mk.injEq] at hsame
  obtain ⟨rfl, rfl⟩ := hsame
  simp only [hd, Bool.not_true, Bool.false_eq_true, false_and, ↓reduceIte]
  have hdb : ({ diPrimaryHandle := s.db.diPrimaryHandle, record := s.db.record.set i rec } : SdpDb)
      = db := by
    rw [hinv.db_eq]
    exact set_record_of_search hs
  by_cases hfit : (resumeBytes rec orig s.contInfo).length ≤ maxListLen - s.rsp.length
  · -- the rest of the record fits: on to the next record
    obtain ⟨hout, hoff⟩ := hdone hfit
    rw [hout]
    dsimp only
    rw [hlrec, hdb]
    refine SearchPost.of_next (P := resumeBytes rec orig s.contInfo) ?_ ?_ hfit (ih _ ?_)
    · rw [hS]
      rfl
    · rw [hlrsp, List.take_of_length_le hfit]
    · refine ⟨rfl, rfl, ?_, fun h => absurd h (by simp), fun _ => ⟨rfl, rfl, hoff⟩⟩
      show l.rsp.length ≤ maxListLen
      rw [hlrsp, List.length_append, List.length_take]
      omega
  · -- the response is full inside this record
    obtain ⟨hout, hin', hbytes, hsub'⟩ := hmax (by omega)
    rw [hout]
    dsimp only
    rw [hlrec, hdb]
    have hrest : maxListLen - s.rsp.length < (searchRest db uidSeq orig s.contInfo).length := by
      rw [hS, List.length_append]
      omega
    refine ⟨_, maxListLen - s.rsp.length, .inr rfl, rfl, ?_, Nat.le_refl _, Nat.le_of_lt hrest,
      fun _ _ => by omega, fun _ => ⟨?_, ?_⟩⟩
    · show l.rsp = _
      rw [hlrsp, hS, List.take_append_of_le_length (by omega)]
    · -- the rest of this record from the new cut, then the records after it
      have hm' : matchingFrom db uidSeq (l.contInfo.prevSdpRec.elim 0 (· + 1)) =
          rec :: matchingFrom db uidSeq (i + 1) := by
        rw [hlprev, hinv.prev_eq, hm]
      show searchRest db uidSeq orig l.contInfo = _
      rw [searchRest_of_cons orig _ hm', if_pos (hldesc.trans hd), hbytes, hS,
        List.drop_append_of_le_length (by omega)]
    · refine ⟨fun _ r rest hmr => ?_,
        fun h => absurd ((hldesc.trans hd).symm.trans h) Bool.noConfusion⟩
      have hm' : matchingFrom db uidSeq (l.contInfo.prevSdpRec.elim 0 (· + 1)) =
          rec :: matchingFrom db uidSeq (i + 1) := by
        rw [hlprev, hinv.prev_eq, hm]
      rw [hm'] at hmr
      obtain ⟨rfl, -⟩ := List.cons.inj hmr
      refine ⟨hin', fun a ha => hsub a ?_⟩
      have := hsub' a ha
      rwa [hseq] at this

/-- Each record's entries are shorter than the whole list. -/
theorem length_entries_lt_of_search (htotal : (searchList db uidSeq orig 0).length < 65536)
    {prev : Option Nat} {rec : SdpRecord} {i : Nat}
    (hs : sdpDbServiceSearch db prev uidSeq = some (rec, i)) :
    (entries rec (requested rec orig)).length + 3 < 65536 ∨ requested rec orig = [] := by
  by_cases hreq : requested rec orig = []
  · exact .inr hreq
  · left
    have hsub : List.Sublist (searchList db uidSeq orig (prev.elim 0 (· + 1)))
        (searchList db uidSeq orig 0) :=
      (matchingFrom_sublist db uidSeq _).flatMap _
    have hlen := hsub.length_le
    rw [searchList_of_search_some orig hs, List.length_append, length_recordList,
      if_neg hreq] at hlen
    omega

/-- A record whose header is still to go out, with room for it: the header is kept, the attribute
loop runs from the first entry, and the header is filled in (or taken back if the record has none
of the attributes); the record loop goes on to the next record if this one finishes. -/
theorem recordLoop_fresh {peer : AvrcPeer} (hok : RecordsOk peer db uidSeq orig)
    (hM : maxListLen < 32768) (htotal : (searchList db uidSeq orig 0).length < 65536)
    {prev : Option Nat} {rec : SdpRecord} {i : Nat}
    (hs : sdpDbServiceSearch db prev uidSeq = some (rec, i))
    (ih : ∀ t, SearchLoopInv db uidSeq orig maxListLen (some i) t →
      SearchPost db uidSeq orig maxListLen t (recordLoop peer uidSeq orig maxListLen (some i) t))
    {s : SearchLoopVars} (hinv : SearchLoopInv db uidSeq orig maxListLen prev s)
    (hd : s.contInfo.lastAttrSeqDescSent = false) (hroom : 3 ≤ maxListLen - s.rsp.length) :
    SearchPost db uidSeq orig maxListLen s (recordLoop peer uidSeq orig maxListLen prev s) := by
  have hrsp := hinv.rsp_le
  have hm := matchingFrom_of_search_some hs
  obtain ⟨hseq, hnai, hoff⟩ := hinv.atBoundary hd
  obtain ⟨hserved, hshort⟩ := hok.of_search hs
  -- the attribute loop starts at the first entry, after three bytes kept for the header
  have hloop : LoopInv rec orig maxListLen s.contInfo.nextAttrIndex
      ⟨rec, s.attrSeq, s.rsp ++ [0, 0, 0], s.contInfo⟩ :=
    { record := rfl
      agrees := by rw [hseq, hnai]; exact agreesFrom_refl _ _
      rsp_le := by simp only [List.length_append, List.length_cons, List.length_nil]; omega
      short := fun a ha => hshort a (by rw [hseq, hnai] at ha; exact ha)
      inEntry := by rw [hoff]; exact inEntry_zero _
      resume := fun h => absurd hoff h }
  obtain ⟨l, hlrec, hlrsp, hlprev, hldesc, hdone, hmax⟩ := attrLoop_spec hserved.toRecordInv
    hserved.id_lt hserved.avrc hM _ _ _ hloop (loopCost_lt_loopBound _ _ _)
  dsimp only at hlrsp hlprev hldesc hdone hmax
  have hR : (entries rec (loopView rec s.attrSeq s.contInfo.nextAttrIndex)).drop
      s.contInfo.attrOffset = entries rec (requested rec orig) := by
    rw [hseq, hnai, hoff]
    rfl
  have hc : maxListLen - (s.rsp ++ [0, 0, 0]).length = maxListLen - s.rsp.length - 3 := by
    simp only [List.length_append, List.length_cons, List.length_nil]
    omega
  rw [hR, hc] at hlrsp hdone hmax
  -- what is left to send: this record's part, then the records after it
  have hS := searchRest_of_cons orig s.contInfo (hinv.prev_eq ▸ hm)
  rw [if_neg (by simp [hd])] at hS
  have hseqLen : sdpuGetAttribSeqLen rec orig =
      some (entries rec (requested rec orig)).length := by
    rw [sdpuGetAttribSeqLen_eq hserved.toRecordInv hserved.id_lt, Nat.mod_eq_of_lt]
    rcases length_entries_lt_of_search htotal hs with h | h
    · omega
    · simp [h]
  have hdb : ({ diPrimaryHandle := s.db.diPrimaryHandle, record := s.db.record.set i rec } : SdpDb)
      = db := by
    rw [hinv.db_eq]
    exact set_record_of_search hs
  have hrem : ¬ toInt16 ((maxListLen : Int) - (s.rsp.length : Int)) < 3 := by
    rw [toInt16_of_lt (by omega) (by omega)]
    omega
  rw [recordLoop]
  split
  · rename_i hnone
    rw [hinv.db_eq] at hnone
    exact absurd (hnone.symm.trans hs) (by simp)
  rename_i rec' i' hs'
  rw [hinv.db_eq] at hs'
  have hsame := hs.symm.trans hs'
  simp only [Option.some.injEq, Prod.mk.injEq] at hsame
  obtain ⟨rfl, rfl⟩ := hsame
  simp only [hd, Bool.not_false, true_and, hrem, ↓reduceIte, Bool.false_eq_true]
  -- the record's header: three bytes, and what follows it
  have hhdr : (descByte dataEleSeqDescType sizeInNextWord ::
      beBytes 2 (entries rec (requested rec orig)).length).length = [(0 : UInt8), 0, 0].length := by
    simp
  by_cases hfit : (entries rec (requested rec orig)).length ≤ maxListLen - s.rsp.length - 3
  · -- the record fits: its header is filled in, or taken back if it has none of the attributes
    obtain ⟨hout, hoff'⟩ := hdone hfit
    rw [hout]
    dsimp only
    rw [hlrec, hdb, hseqLen]
    dsimp only
    have hnext : SearchLoopInv db uidSeq orig maxListLen (some i)
        ⟨db, orig, s.rsp ++ recordList rec orig, ⟨0, l.contInfo.nextAttrStartId, some i, false,
          l.contInfo.attrOffset⟩⟩ :=
      { db_eq := rfl
        prev_eq := rfl
        rsp_le := by
          show (s.rsp ++ recordList rec orig).length ≤ maxListLen
          rw [List.length_append, length_recordList]
          split <;> omega
        inRecord := fun h => absurd h Bool.noConfusion
        atBoundary := fun _ => ⟨rfl, rfl, hoff'⟩ }
    have hS' : searchRest db uidSeq orig s.contInfo = recordList rec orig ++
        searchRest db uidSeq orig ⟨0, l.contInfo.nextAttrStartId, some i, false,
          l.contInfo.attrOffset⟩ := by
      rw [hS]
      rfl
    have hP : (recordList rec orig).length ≤ maxListLen - s.rsp.length := by
      rw [length_recordList]
      split <;> omega
    by_cases hreq : requested rec orig = []
    · have hE : (entries rec (requested rec orig)).length = 0 := by rw [hreq]; rfl
      rw [if_neg (by rw [hE]; exact not_not_intro rfl)]
      have hrsp' : List.take s.rsp.length l.rsp = s.rsp ++ recordList rec orig := by
        rw [hlrsp, recordList, if_pos hreq, List.append_assoc, List.take_left, List.append_nil]
      rw [hrsp'] at ⊢
      exact SearchPost.of_next hS' rfl hP (ih _ hnext)
    · rw [if_pos (fun h => hreq (entries_eq_nil_iff.mp (List.eq_nil_of_length_eq_zero h)))]
      have hrsp' : store s.rsp.length (descByte dataEleSeqDescType sizeInNextWord ::
          beBytes 2 (entries rec (requested rec orig)).length) l.rsp =
          s.rsp ++ recordList rec orig := by
        rw [hlrsp, store_middle hhdr, List.take_of_length_le hfit, recordList, if_neg hreq,
          List.append_assoc]
      rw [hrsp']
      exact SearchPost.of_next hS' rfl hP (ih _ hnext)
  · -- the response is full inside this record, after its header
    obtain ⟨hout, hin', hbytes, hsub'⟩ := hmax (by omega)
    have hreq : requested rec orig ≠ [] := by
      intro h
      rw [h] at hfit
      exact hfit (Nat.zero_le _)
    rw [hout]
    dsimp only
    rw [hlrec, hdb, hseqLen]
    dsimp only
    rw [if_pos (fun h => hreq (entries_eq_nil_iff.mp (List.eq_nil_of_length_eq_zero h)))]
    have hlen : (searchRest db uidSeq orig s.contInfo).length =
        3 + (entries rec (requested rec orig)).length +
          ((matchingFrom db uidSeq (i + 1)).flatMap (recordList · orig)).length := by
      rw [hS, List.length_append, length_recordList, if_neg hreq]
    have hS' : searchRest db uidSeq orig s.contInfo =
        (descByte dataEleSeqDescType sizeInNextWord ::
          beBytes 2 (entries rec (requested rec orig)).length) ++
        (entries rec (requested rec orig) ++
          (matchingFrom db uidSeq (i + 1)).flatMap (recordList · orig)) := by
      rw [hS, recordList, if_neg hreq, List.append_assoc]
    refine ⟨_, maxListLen - s.rsp.length, .inr rfl, rfl, ?_, Nat.le_refl _, by omega,
      fun _ _ => by omega, fun _ => ⟨?_, ?_⟩⟩
    · show store s.rsp.length _ l.rsp = _
      generalize (descByte dataEleSeqDescType sizeInNextWord ::
        beBytes 2 (entries rec (requested rec orig)).length) = H at hhdr hS' ⊢
      have hH : H.length = 3 := hhdr
      rw [hlrsp, store_middle hhdr, hS', List.take_append, List.take_of_length_le (l := H) (by omega),
        hH, List.take_append_of_le_length (by omega), List.append_assoc]
    · -- the rest of this record from the cut, then the records after it
      have hm' : matchingFrom db uidSeq (l.contInfo.prevSdpRec.elim 0 (· + 1)) =
          rec :: matchingFrom db uidSeq (i + 1) := by
        rw [hlprev, hinv.prev_eq, hm]
      have hb : resumeBytes rec orig ⟨l.contInfo.nextAttrIndex, l.contInfo.nextAttrStartId,
          l.contInfo.prevSdpRec, true, l.contInfo.attrOffset⟩ = resumeBytes rec orig l.contInfo :=
        resumeBytes_congr rfl rfl rfl
      show searchRest db uidSeq orig ⟨l.contInfo.nextAttrIndex, l.contInfo.nextAttrStartId,
        l.contInfo.prevSdpRec, true, l.contInfo.attrOffset⟩ = _
      generalize (descByte dataEleSeqDescType sizeInNextWord ::
        beBytes 2 (entries rec (requested rec orig)).length) = H at hhdr hS' ⊢
      have hH : H.length = 3 := hhdr
      rw [searchRest_of_cons orig ⟨l.contInfo.nextAttrIndex, l.contInfo.nextAttrStartId,
          l.contInfo.prevSdpRec, true, l.contInfo.attrOffset⟩ hm', if_pos rfl, hb, hbytes, hS',
        List.drop_append, List.drop_of_length_le (l := H) (by omega), List.nil_append, hH,
        List.drop_append_of_le_length (by omega)]
    · refine ⟨fun _ r rest hmr => ?_, fun h => absurd h Bool.noConfusion⟩
      have hm' : matchingFrom db uidSeq (l.contInfo.prevSdpRec.elim 0 (· + 1)) =
          rec :: matchingFrom db uidSeq (i + 1) := by
        rw [hlprev, hinv.prev_eq, hm]
      rw [hm'] at hmr
      obtain ⟨rfl, -⟩ := List.cons.inj hmr
      refine ⟨hin', fun a ha => ?_⟩
      have := hsub' a ha
      rwa [hseq, hnai] at this

/-- No record left that holds the UUIDs: the record loop ends with nothing more to send. -/
theorem recordLoop_none {peer : AvrcPeer} {prev : Option Nat} {s : SearchLoopVars}
    (hinv : SearchLoopInv db uidSeq orig maxListLen prev s)
    (hs : sdpDbServiceSearch db prev uidSeq = none) :
    SearchPost db uidSeq orig maxListLen s (recordLoop peer uidSeq orig maxListLen prev s) := by
  have hS : searchRest db uidSeq orig s.contInfo = [] :=
    searchRest_of_nil (hinv.prev_eq ▸ matchingFrom_of_search_none hs)
  rw [recordLoop]
  split
  · refine ⟨s, 0, .inl rfl, hinv.db_eq, by simp, Nat.zero_le _, Nat.zero_le _,
      fun _ h => absurd hS h, fun h => absurd h (by simp [hS])⟩
  · rename_i hs'
    rw [hinv.db_eq, hs] at hs'
    exact absurd hs' (by simp)

/-- A record whose header is still to go out, without room for the header: the loop stops before
it, and the continuation information points at the start of the attribute sequence. -/
theorem recordLoop_break {peer : AvrcPeer} (hM : maxListLen < 32768) {prev : Option Nat}
    {rec : SdpRecord} {i : Nat} (hs : sdpDbServiceSearch db prev uidSeq = some (rec, i))
    {s : SearchLoopVars} (hinv : SearchLoopInv db uidSeq orig maxListLen prev s)
    (hd : s.contInfo.lastAttrSeqDescSent = false) (hroom : maxListLen - s.rsp.length < 3) :
    SearchPost db uidSeq orig maxListLen s (recordLoop peer uidSeq orig maxListLen prev s) := by
  have hrsp := hinv.rsp_le
  obtain ⟨-, -, hoff⟩ := hinv.atBoundary hd
  have hbrk : toInt16 ((maxListLen : Int) - (s.rsp.length : Int)) < 3 := by
    rw [toInt16_of_lt (by omega) (by omega)]
    omega
  rw [recordLoop]
  split
  · rename_i hnone
    rw [hinv.db_eq] at hnone
    exact absurd (hnone.symm.trans hs) (by simp)
  simp only [hd, Bool.not_false, true_and, hbrk, ↓reduceIte]
  refine ⟨_, 0, .inl rfl, hinv.db_eq, by simp, Nat.zero_le _, Nat.zero_le _,
    fun h => absurd h (by omega), fun _ => ⟨?_, ?_⟩⟩
  · simp only [searchRest, hd, List.drop_zero]
    rfl
  · exact ⟨fun h => absurd h Bool.false_ne_true, fun _ => ⟨rfl, rfl, hoff⟩⟩

/-- The record loop of a search, over a whole run: from any state the invariant holds of, it ends
having appended to the response a prefix of what the search has left to send, nonempty if there
is room for a record header, and with continuation information for the rest. -/
theorem recordLoop_spec {peer : AvrcPeer} (hok : RecordsOk peer db uidSeq orig)
    (hM : maxListLen < 32768) (htotal : (searchList db uidSeq orig 0).length < 65536) :
    ∀ prev s, SearchLoopInv db uidSeq orig maxListLen prev s →
      SearchPost db uidSeq orig maxListLen s (recordLoop peer uidSeq orig maxListLen prev s) := by
  -- strong induction on the number of records after `prev`
  suffices h : ∀ n prev s, db.record.length - prev.elim 0 (· + 1) = n →
      SearchLoopInv db uidSeq orig maxListLen prev s →
      SearchPost db uidSeq orig maxListLen s (recordLoop peer uidSeq orig maxListLen prev s) from
    fun prev s => h _ prev s rfl
  intro n
  induction n using Nat.strongRecOn with
  | ind n ih =>
    intro prev s hn hinv
    cases hs : sdpDbServiceSearch db prev uidSeq with
    | none => exact recordLoop_none hinv hs
    | some p =>
      obtain ⟨rec, i⟩ := p
      obtain ⟨hle, hlt, -⟩ := sdpDbServiceSearch_index hs
      have ih' : ∀ t, SearchLoopInv db uidSeq orig maxListLen (some i) t →
          SearchPost db uidSeq orig maxListLen t (recordLoop peer uidSeq orig maxListLen (some i) t) :=
        fun t ht => ih (db.record.length - (i + 1)) (by omega) (some i) t rfl ht
      cases hd : s.contInfo.lastAttrSeqDescSent with
      | true => exact recordLoop_resumed hok hM hs ih' hinv hd
      | false =>
        by_cases hroom : 3 ≤ maxListLen - s.rsp.length
        · exact recordLoop_fresh hok hM htotal hs ih' hinv hd hroom
        · exact recordLoop_break hM hs hinv hd (by omega)

end RecordLoop

/-- A continuation at a record boundary asks for the attribute sequence as the client sent it. -/
theorem resumeAttrSeq_of_boundary {orig : List AttrRange} {ci : ContInfo}
    (h₁ : ci.nextAttrIndex = 0) (h₂ : ci.nextAttrStartId = orig[0]?.elim 0 (·.start)) :
    resumeAttrSeq orig ci = orig := by
  cases orig with
  | nil => simp [resumeAttrSeq]
  | cons rg rest =>
    rw [resumeAttrSeq, h₁, h₂]
    rfl

/-! ## The exchange -/

/-- Where a ServiceSearchAttribute exchange for `orig` stands after responses that sent the first
`k` bytes of the whole list `L`: the connection holds `k` and the length of `L`, and the
continuation information resumes the search at the rest of `L`. -/
structure SearchCursor (db : SdpDb) (uidSeq : List (List UInt8)) (orig : List AttrRange)
    (L : List UInt8) (k : Nat) (ccb : ConnCb) : Prop where
  contOffset : ccb.contOffset = k
  listLen : ccb.listLen = L.length
  lt : k < L.length
  rest : searchRest db uidSeq orig ccb.contInfo = L.drop k
  resumes : SearchResumes db uidSeq orig ccb.contInfo

/-- A ServiceSearchAttribute request answered in full: both of its lists are nonempty, every
record holding the UUIDs is served in full with short entries, and the whole list fits in the
16 bits of `list_len`. -/
structure SearchRequestOk (peer : AvrcPeer) (db : SdpDb) (req : ServiceSearchAttrReq) : Prop where
  uidSeq : req.uidSeq ≠ []
  attrSeq : req.attrSeq ≠ []
  records : RecordsOk peer db req.uidSeq req.attrSeq
  total : (searchList db req.uidSeq req.attrSeq 0).length + 3 < 65536

section Exchange

variable {peer : AvrcPeer} {db : SdpDb} {req : ServiceSearchAttrReq}

/-- The record loop of a continued request starts where the continuation points. -/
theorem SearchCursor.loopInv {L : List UInt8} {k : Nat} {ccb : ConnCb}
    (hcur : SearchCursor db req.uidSeq req.attrSeq L k ccb) {maxListLen : Nat} :
    SearchLoopInv db req.uidSeq req.attrSeq maxListLen ccb.contInfo.prevSdpRec
      ⟨db, resumeAttrSeq req.attrSeq ccb.contInfo, [], ccb.contInfo⟩ where
  db_eq := rfl
  prev_eq := rfl
  rsp_le := Nat.zero_le _
  inRecord hd := ⟨rfl, hcur.resumes.inRecord hd⟩
  atBoundary hd := by
    obtain ⟨h₁, h₂, h₃⟩ := hcur.resumes.atBoundary hd
    exact ⟨resumeAttrSeq_of_boundary h₁ h₂, h₁, h₃⟩

/-- A continued request sends the next bytes of the list, at least one, and returns a
continuation while the list goes on. -/
theorem processServiceSearchAttrReq_cont (hok : SearchRequestOk peer db req) {ccb : ConnCb}
    (hM : 4 ≤ capMaxListLen req.maxListLen ccb.remMtuSize sdpMaxServattrRsphdrLen)
    (hM' : capMaxListLen req.maxListLen ccb.remMtuSize sdpMaxServattrRsphdrLen < 32768)
    {L : List UInt8} {k : Nat} (hL : L.length < 65536)
    (hcur : SearchCursor db req.uidSeq req.attrSeq L k ccb) :
    ∃ ccb' m, processServiceSearchAttrReq peer db ccb { req with contState := some k } =
        some (db, ccb', .attrList ((L.drop k).take m)
          (if k + m < L.length then some (k + m) else none)) ∧
      0 < m ∧ ccb'.remMtuSize = ccb.remMtuSize ∧
      (k + m < L.length → SearchCursor db req.uidSeq req.attrSeq L (k + m) ccb') := by
  generalize hMdef : capMaxListLen req.maxListLen ccb.remMtuSize sdpMaxServattrRsphdrLen = M
    at hM hM' ⊢
  have htotal : (searchList db req.uidSeq req.attrSeq 0).length < 65536 := by
    have := hok.total
    omega
  obtain ⟨s', m, hout, hdb, hrsp, hmM, hmS, hprog, hcont⟩ :=
    recordLoop_spec hok.records hM' htotal _ _ hcur.loopInv
  dsimp only at hrsp hmM hmS hprog hcont
  rw [hcur.rest] at hrsp hmS hprog hcont
  have hlt := hcur.lt
  have hmS' : m ≤ L.length - k := by rwa [List.length_drop] at hmS
  -- there is something left to send and room for a record header: the response is not empty
  have hm0 : 0 < m := hprog (by simp only [List.length_nil, Nat.sub_zero]; omega)
    (by rw [ne_eq, List.drop_eq_nil_iff]; omega)
  have hlen : s'.rsp.length = m := by
    rw [hrsp, List.nil_append, List.length_take, List.length_drop]
    omega
  have hfit : k + s'.rsp.length < 65536 := by omega
  -- the connection after the response; its `list_len` is the length of the list
  have hnext : k + m < L.length → SearchCursor db req.uidSeq req.attrSeq L (k + m)
      { ccb with contOffset := k + m, listLen := L.length, contInfo := s'.contInfo } := fun h =>
    { contOffset := rfl
      listLen := rfl
      lt := h
      rest := by rw [(hcont (by rw [List.length_drop]; omega)).1, List.drop_drop]
      resumes := (hcont (by rw [List.length_drop]; omega)).2 }
  unfold processServiceSearchAttrReq
  simp only [hMdef, hok.uidSeq, hok.attrSeq, ↓reduceIte, contValid, hcur.contOffset,
    Option.isSome_some, Nat.not_lt.mpr hM, beq_self_eq_true, Bool.not_true, Bool.false_eq_true]
  -- the loop ends with the response full or with nothing left; both are sent the same way
  rcases hout with hout | hout <;> rw [hout] <;> dsimp only <;>
    rw [if_neg (by rw [hlen]; omega), hdb, finishResponse_cont _ _ hfit] <;>
    dsimp only <;> rw [hlen, hcur.listLen, hrsp, List.nil_append] <;>
    exact ⟨_, m, rfl, hm0, rfl, hnext⟩

/-- The first request sends the list header and as much of the body as the record loop put
beside it, and returns a continuation if the list goes on. -/
theorem processServiceSearchAttrReq_first (hok : SearchRequestOk peer db req) {ccb : ConnCb}
    (hM : 4 ≤ capMaxListLen req.maxListLen ccb.remMtuSize sdpMaxServattrRsphdrLen)
    (hM' : capMaxListLen req.maxListLen ccb.remMtuSize sdpMaxServattrRsphdrLen < 32768)
    (hnone : req.contState = none) :
    let B := searchList db req.uidSeq req.attrSeq 0
    ∃ ccb' n, processServiceSearchAttrReq peer db ccb req =
        some (db, ccb', .attrList ((attrList B).take n)
          (if n < (attrList B).length then some n else none)) ∧
      (listHeader (B.length + 3)).length ≤ n ∧ ccb'.remMtuSize = ccb.remMtuSize ∧
      (n < (attrList B).length → SearchCursor db req.uidSeq req.attrSeq (attrList B) n ccb') := by
  intro B
  generalize hMdef : capMaxListLen req.maxListLen ccb.remMtuSize sdpMaxServattrRsphdrLen = M
    at hM hM' ⊢
  have htot : B.length + 3 < 65536 := hok.total
  have htotal : B.length < 65536 := by omega
  -- the record loop starts at the first record, after the three bytes kept for the list header
  have hinv : SearchLoopInv db req.uidSeq req.attrSeq M none
      ⟨db, req.attrSeq, [0, 0, 0], ⟨0, ccb.contInfo.nextAttrStartId, none, false, 0⟩⟩ :=
    { db_eq := rfl
      prev_eq := rfl
      rsp_le := by simp only [List.length_cons, List.length_nil]; omega
      inRecord := fun h => absurd h Bool.false_ne_true
      atBoundary := fun _ => ⟨rfl, rfl, rfl⟩ }
  obtain ⟨s', k, hout, hdb, hrsp, hkM, hkS, -, hcont⟩ :=
    recordLoop_spec hok.records hM' htotal _ _ hinv
  dsimp only at hrsp hkM hkS hcont
  have hS : searchRest db req.uidSeq req.attrSeq
      ⟨0, ccb.contInfo.nextAttrStartId, none, false, 0⟩ = B := rfl
  rw [hS] at hrsp hkS hcont
  have hP : (B.take k).length ≤ B.length := List.length_take_le' _ _
  have hn : (listHeader (B.length + 3) ++ B.take k).length =
      (listHeader (B.length + 3)).length + k := by
    rw [List.length_append, List.length_take]
    omega
  -- the connection after the response: the offset and `list_len` count the list header
  have hnext : (listHeader (B.length + 3)).length + k < (attrList B).length →
      SearchCursor db req.uidSeq req.attrSeq (attrList B) ((listHeader (B.length + 3)).length + k)
        ⟨ccb.remMtuSize, (listHeader (B.length + 3)).length + k, (attrList B).length,
          s'.contInfo⟩ := fun h =>
    have hk : k < B.length := by
      rw [attrList, List.length_append] at h
      omega
    { contOffset := rfl
      listLen := rfl
      lt := h
      rest := by rw [(hcont hk).1, drop_attrList]
      resumes := (hcont hk).2 }
  unfold processServiceSearchAttrReq
  simp only [hMdef, hok.uidSeq, hok.attrSeq, ↓reduceIte, contValid, hnone, Option.isSome_none,
    Nat.not_lt.mpr hM, Bool.not_true, Bool.false_eq_true]
  -- the loop ends with the response full or with nothing left; both are sent the same way
  rcases hout with hout | hout <;> rw [hout] <;> dsimp only <;>
    rw [if_neg (fun h => h.1), hdb, sdpuGetListLen_eq hok.records htotal] <;> dsimp only <;>
    rw [hrsp, finishResponse_first rfl htot hP] <;> dsimp only <;> rw [hn, ← take_attrList] <;>
    exact ⟨_, _, rfl, Nat.le_add_right _ _, rfl, hnext⟩

/-- From where a continued request stands, the client's requests go on until the list ends, and
the responses carry the rest of the list. -/
theorem serviceSearchAttrSession_cont (hok : SearchRequestOk peer db req) {mtu : Nat}
    (hM : 4 ≤ capMaxListLen req.maxListLen mtu sdpMaxServattrRsphdrLen)
    (hM' : capMaxListLen req.maxListLen mtu sdpMaxServattrRsphdrLen < 32768)
    {L : List UInt8} (hL : L.length < 65536) :
    ∀ (fuel k : Nat) (ccb : ConnCb), ccb.remMtuSize = mtu →
      SearchCursor db req.uidSeq req.attrSeq L k ccb → L.length - k < fuel →
      ∃ rsps, serviceSearchAttrSession peer { req with contState := some k } fuel db ccb =
          some rsps ∧
        (∀ x ∈ rsps, x.isAttrList = true) ∧ rsps.flatMap SdpRsp.attrBytes = L.drop k := by
  intro fuel
  -- each response sends at least one byte, so the bytes left bound the requests left
  induction fuel with
  | zero =>
    intro k ccb _ _ hfuel
    exact absurd hfuel (Nat.not_lt_zero _)
  | succ fuel ih =>
    intro k ccb hmtu hcur hfuel
    subst hmtu
    obtain ⟨ccb', m, hreq, hm0, hmtu', hnext⟩ := processServiceSearchAttrReq_cont hok hM hM' hL hcur
    rw [serviceSearchAttrSession, hreq]
    by_cases hmore : k + m < L.length
    · -- a continuation: the client asks again from `k + m`
      rw [if_pos hmore]
      obtain ⟨rsps, hs, hall, hcat⟩ := ih (k + m) ccb' hmtu' (hnext hmore) (by omega)
      refine ⟨_, by simp only [hs, Option.map_some]; rfl, SdpRsp.isAttrList_cons hall, ?_⟩
      rw [List.flatMap_cons, hcat, SdpRsp.attrBytes, ← List.drop_drop, List.take_append_drop]
    · -- the last response
      rw [if_neg hmore]
      refine ⟨_, rfl, fun x hx => by rw [List.mem_singleton.mp hx]; rfl, ?_⟩
      rw [List.flatMap_singleton, SdpRsp.attrBytes, List.take_of_length_le (by simp; omega)]

/-- A client starting a ServiceSearchAttribute exchange receives the whole attribute list of the
search: the list header, then for each record holding the UUIDs the sequence of the attributes
asked of it. -/
theorem serviceSearchAttrSession_spec (hok : SearchRequestOk peer db req) {ccb : ConnCb}
    (hM : 4 ≤ capMaxListLen req.maxListLen ccb.remMtuSize sdpMaxServattrRsphdrLen)
    (hM' : capMaxListLen req.maxListLen ccb.remMtuSize sdpMaxServattrRsphdrLen < 32768)
    (hnone : req.contState = none) {fuel : Nat}
    (hfuel : (searchList db req.uidSeq req.attrSeq 0).length + 1 < fuel) :
    ∃ rsps, serviceSearchAttrSession peer req fuel db ccb = some rsps ∧
      (∀ x ∈ rsps, x.isAttrList = true) ∧
      rsps.flatMap SdpRsp.attrBytes = attrList (searchList db req.uidSeq req.attrSeq 0) := by
  obtain ⟨fuel, rfl⟩ : ∃ f, fuel = f + 1 := ⟨fuel - 1, by omega⟩
  obtain ⟨ccb', n, hreq, hhdr, hmtu', hnext⟩ := processServiceSearchAttrReq_first hok hM hM' hnone
  have htot := hok.total
  generalize searchList db req.uidSeq req.attrSeq 0 = B at hfuel htot hreq hhdr hnext ⊢
  have hlenL : (attrList B).length = (listHeader (B.length + 3)).length + B.length := by
    simp [attrList]
  have hL : (attrList B).length < 65536 := by
    rw [hlenL, length_listHeader]
    split <;> omega
  rw [serviceSearchAttrSession, hreq]
  by_cases hmore : n < (attrList B).length
  · -- the first response is full: the rest comes in answer to continued requests
    rw [if_pos hmore]
    obtain ⟨rsps, hs, hall, hcat⟩ := serviceSearchAttrSession_cont hok hM hM' hL fuel n ccb'
      hmtu' (hnext hmore) (by omega)
    refine ⟨_, by simp only [hs, Option.map_some]; rfl, SdpRsp.isAttrList_cons hall, ?_⟩
    rw [List.flatMap_cons, hcat, SdpRsp.attrBytes, List.take_append_drop]
  · -- the whole list in the first response
    rw [if_neg hmore]
    refine ⟨_, rfl, fun x hx => by rw [List.mem_singleton.mp hx]; rfl, ?_⟩
    rw [List.flatMap_singleton, SdpRsp.attrBytes, List.take_of_length_le (by omega)]

end Exchange

end BluetoothStack.Sdp
