import BluetoothStack.Sdp.Server
import BluetoothStack.Lib.SortedFilter

/-!
# What the attribute loop sends

The attributes a request asks of a record are `requested r attrSeq`: entry by entry of the
attribute sequence, each range in the record's order, which is ascending id order. Their entries
one after the other are the bytes the record contributes to the attribute list.

`attrLoop_spec` says what one run of the attribute loop sends: from where a previous response
stopped, the next `max_list_len - |rsp|` bytes of those entries (all that is left, if they fit),
and, when it stops short, continuation information from which the next request picks up the rest.
It rests on the record invariant (ids strictly increasing, values inside the pad), on no
attribute `0xFFFF` in the record, on the attributes asked for having entries shorter than
`SDP_MAX_ATTR_LEN`, and on a peer for whom `sdpu_set_avrc_target_version` writes nothing.
-/

namespace BluetoothStack.Sdp

open Bytes SortedFilter

/-! ## The attributes asked for -/

theorem contains_eq (rg : AttrRange) :
    rg.contains = inInterval SdpAttribute.id rg.start rg.end := rfl

/-- The attributes of `r` that the sequence asks for, in the order the server lists them: entry by
entry, each range in the record's order. -/
def requested (r : SdpRecord) (attrSeq : List AttrRange) : List SdpAttribute :=
  attrSeq.flatMap fun rg => r.attributes.filter rg.contains

/-- The entries of attributes of `r`, one after the other. -/
def entries (r : SdpRecord) (as : List SdpAttribute) : List UInt8 :=
  as.flatMap (sdpuBuildAttribEntry r)

@[simp] theorem requested_nil (r : SdpRecord) : requested r [] = [] := rfl

theorem requested_cons (r : SdpRecord) (rg : AttrRange) (rest : List AttrRange) :
    requested r (rg :: rest) = r.attributes.filter rg.contains ++ requested r rest := by
  simp [requested]

@[simp] theorem entries_nil (r : SdpRecord) : entries r [] = [] := rfl

@[simp] theorem entries_cons (r : SdpRecord) (a : SdpAttribute) (as : List SdpAttribute) :
    entries r (a :: as) = sdpuBuildAttribEntry r a ++ entries r as := by
  simp [entries]

/-- What the attribute loop at entry `xx` has still to go through. -/
def loopView (r : SdpRecord) (attrSeq : List AttrRange) (xx : Nat) : List SdpAttribute :=
  requested r (attrSeq.drop xx)

/-- The attributes a continued request goes through: the sequence resumed where the continuation
information points. -/
def resumeView (r : SdpRecord) (attrSeq : List AttrRange) (contInfo : ContInfo) :
    List SdpAttribute :=
  loopView r (resumeAttrSeq attrSeq contInfo) contInfo.nextAttrIndex

/-! ## The record invariant -/

/-- The record invariant the server relies on: ids strictly increasing in the record's order,
each value inside the pad. -/
structure RecordInv (r : SdpRecord) : Prop where
  sorted : r.attributes.Pairwise fun a b => a.id < b.id
  value_le : ∀ a ∈ r.attributes, a.valuePtr + a.len ≤ r.attrPad.length

/-- What a record must satisfy for every request to be answered in full: the invariant, no
attribute `0xFFFF`, and a peer for whom `sdpu_set_avrc_target_version` writes nothing into it. -/
structure Served (peer : AvrcPeer) (r : SdpRecord) : Prop extends RecordInv r where
  id_lt : ∀ a ∈ r.attributes, a.id < 0xFFFF
  avrc : isServiceAvrcTarget r = true → ∀ a ∈ r.attributes, sdpuSetAvrcTargetVersion peer r a = r

theorem RecordInv.length_entry {r : SdpRecord} (h : RecordInv r) {a : SdpAttribute}
    (ha : a ∈ r.attributes) : (sdpuBuildAttribEntry r a).length = sdpuGetAttribEntryLen a :=
  length_sdpuBuildAttribEntry (h.value_le a ha)

theorem RecordInv.length_entries {r : SdpRecord} (h : RecordInv r) :
    ∀ {as : List SdpAttribute}, (∀ a ∈ as, a ∈ r.attributes) →
      (entries r as).length = (as.map sdpuGetAttribEntryLen).sum
  | [], _ => rfl
  | a :: as, has => by
    rw [entries_cons, List.length_append, h.length_entry (has a (by simp)),
      h.length_entries (fun b hb => has b (by simp [hb]))]
    simp

theorem mem_requested {r : SdpRecord} {attrSeq : List AttrRange} {a : SdpAttribute}
    (h : a ∈ requested r attrSeq) : a ∈ r.attributes := by
  simp only [requested, List.mem_flatMap, List.mem_filter] at h
  obtain ⟨_, _, ha, _⟩ := h
  exact ha

/-- An entry of the attribute loop is at least three bytes long. -/
theorem three_le_sdpuGetAttribEntryLen (a : SdpAttribute) : 3 ≤ sdpuGetAttribEntryLen a := by
  unfold sdpuGetAttribEntryLen
  split <;> omega

theorem length_requested_le (r : SdpRecord) (attrSeq : List AttrRange) :
    (requested r attrSeq).length ≤ attrSeq.length * r.attributes.length := by
  induction attrSeq with
  | nil => simp
  | cons rg rest ih =>
    rw [requested_cons, List.length_append, List.length_cons, Nat.succ_mul]
    have := List.length_filter_le rg.contains r.attributes
    omega

/-! ## How the loop walks the view -/

@[simp] theorem rangeNext_record (xx : Nat) (rg : AttrRange) (pAttr : SdpAttribute)
    (s : AttrLoopVars) : (rangeNext xx rg pAttr s).2.record = s.record := by
  unfold rangeNext
  split <;> rfl

@[simp] theorem rangeNext_rsp (xx : Nat) (rg : AttrRange) (pAttr : SdpAttribute)
    (s : AttrLoopVars) : (rangeNext xx rg pAttr s).2.rsp = s.rsp := by
  unfold rangeNext
  split <;> rfl

@[simp] theorem rangeNext_contInfo (xx : Nat) (rg : AttrRange) (pAttr : SdpAttribute)
    (s : AttrLoopVars) : (rangeNext xx rg pAttr s).2.contInfo = s.contInfo := by
  unfold rangeNext
  split <;> rfl

section Walk

variable {r : SdpRecord} {attrSeq : List AttrRange} {xx : Nat} {rg : AttrRange}

theorem loopView_of_getElem?_none (h : attrSeq[xx]? = none) : loopView r attrSeq xx = [] := by
  rw [List.getElem?_eq_none_iff] at h
  simp [loopView, List.drop_eq_nil_of_le h]

theorem loopView_of_getElem? (h : attrSeq[xx]? = some rg) :
    loopView r attrSeq xx = r.attributes.filter rg.contains ++ loopView r attrSeq (xx + 1) := by
  obtain ⟨hlt, hget⟩ := List.getElem?_eq_some_iff.mp h
  rw [loopView, List.drop_eq_getElem_cons hlt, hget, requested_cons]
  rfl

/-- An entry in which the record has nothing is passed over. -/
theorem loopView_of_find_none (hg : attrSeq[xx]? = some rg)
    (hf : sdpDbFindAttrInRec r rg.start rg.end = none) :
    loopView r attrSeq xx = loopView r attrSeq (xx + 1) := by
  rw [loopView_of_getElem? hg, contains_eq, filter_inInterval_of_find?_none hf, List.nil_append]

/-- The attribute found heads the view, and `rangeNext` leaves the rest of it. -/
theorem loopView_rangeNext (hr : RecordInv r) (hid : ∀ a ∈ r.attributes, a.id < 0xFFFF)
    {pAttr : SdpAttribute} (hg : attrSeq[xx]? = some rg)
    (hf : sdpDbFindAttrInRec r rg.start rg.end = some pAttr) (s : AttrLoopVars)
    (hs : s.attrSeq = attrSeq) :
    loopView r attrSeq xx =
      pAttr :: loopView r (rangeNext xx rg pAttr s).2.attrSeq (rangeNext xx rg pAttr s).1 := by
  have hmem : pAttr ∈ r.attributes := List.mem_of_find?_eq_some hf
  rw [loopView_of_getElem? hg, contains_eq]
  unfold rangeNext
  split
  · -- a range: it goes on from the id after `pAttr`
    obtain ⟨hlt, -⟩ := List.getElem?_eq_some_iff.mp hg
    have hnext : (pAttr.id + 1) % 65536 = pAttr.id + 1 :=
      Nat.mod_eq_of_lt (by have := hid pAttr hmem; omega)
    have hdrop : ∀ x : AttrRange, (attrSeq.set xx x).drop xx = x :: attrSeq.drop (xx + 1) := by
      intro x
      rw [List.drop_eq_getElem_cons (by simpa using hlt), List.getElem_set_self,
        List.drop_set_of_lt (by omega)]
    rw [filter_inInterval_of_find? hr.sorted hf]
    simp only [hs, loopView, hnext, hdrop, requested_cons, List.cons_append]
    rfl
  · -- a single id: nothing else is in it
    rename_i hse
    simp only [ne_eq, Decidable.not_not] at hse
    rw [← hse] at hf ⊢
    rw [filter_inInterval_single hr.sorted hf, List.singleton_append, hs]

/-- The loop's sequence from entry `xx` on is the request's, but for the start of entry `xx`,
which the loop moves on through a range. -/
def AgreesFrom (orig attrSeq : List AttrRange) (xx : Nat) : Prop :=
  attrSeq.drop (xx + 1) = orig.drop (xx + 1) ∧ attrSeq[xx]?.map (·.end) = orig[xx]?.map (·.end)

theorem agreesFrom_refl (orig : List AttrRange) (xx : Nat) : AgreesFrom orig orig xx :=
  ⟨rfl, rfl⟩

/-- A continued request starts where its continuation information points. -/
theorem agreesFrom_resumeAttrSeq (orig : List AttrRange) (ci : ContInfo) :
    AgreesFrom orig (resumeAttrSeq orig ci) ci.nextAttrIndex := by
  refine ⟨List.drop_modify_of_lt _ _ _ _ (by omega), ?_⟩
  rw [resumeAttrSeq, List.getElem?_modify]
  cases orig[ci.nextAttrIndex]? <;> simp

theorem AgreesFrom.succ {orig : List AttrRange} (h : AgreesFrom orig attrSeq xx) :
    AgreesFrom orig attrSeq (xx + 1) := by
  have h1 : attrSeq[xx + 1]? = orig[xx + 1]? := by
    have h0 := congrArg (fun l => l[0]?) h.1
    simpa only [List.getElem?_drop, Nat.add_zero] using h0
  refine ⟨?_, by rw [h1]⟩
  rw [← List.drop_drop, h.1, List.drop_drop]

theorem AgreesFrom.next {orig : List AttrRange} (h : AgreesFrom orig attrSeq xx)
    {pAttr : SdpAttribute} (s : AttrLoopVars) (hs : s.attrSeq = attrSeq)
    (hg : attrSeq[xx]? = some rg) :
    AgreesFrom orig (rangeNext xx rg pAttr s).2.attrSeq (rangeNext xx rg pAttr s).1 := by
  unfold rangeNext
  split
  · obtain ⟨hlt, -⟩ := List.getElem?_eq_some_iff.mp hg
    refine ⟨by rw [hs, List.drop_set_of_lt (by omega), h.1], ?_⟩
    rw [hs, List.getElem?_set_self hlt, ← h.2, hg]
    rfl
  · rw [hs]
    exact h.succ

/-- Resuming at the attribute found, from its own id, goes through what the loop had still to go
through. -/
theorem resumeView_of_found (hr : RecordInv r) {orig : List AttrRange}
    (hag : AgreesFrom orig attrSeq xx) (hg : attrSeq[xx]? = some rg) {pAttr : SdpAttribute}
    (hf : sdpDbFindAttrInRec r rg.start rg.end = some pAttr) {ci : ContInfo}
    (hnai : ci.nextAttrIndex = xx) (hnasi : ci.nextAttrStartId = pAttr.id) :
    resumeView r orig ci = loopView r attrSeq xx := by
  obtain ⟨rg₀, hg₀, hend⟩ : ∃ rg₀, orig[xx]? = some rg₀ ∧ rg₀.end = rg.end := by
    have := hag.2
    rw [hg] at this
    cases h : orig[xx]? with
    | none => rw [h] at this; cases this
    | some rg₀ => rw [h] at this; exact ⟨rg₀, rfl, (Option.some.inj this).symm⟩
  have hmod : (resumeAttrSeq orig ci)[xx]? = some { rg₀ with start := pAttr.id } := by
    rw [resumeAttrSeq, List.getElem?_modify, hnai, hg₀, hnasi]
    simp
  have hrest : loopView r (resumeAttrSeq orig ci) (xx + 1) = loopView r attrSeq (xx + 1) := by
    rw [loopView, loopView, resumeAttrSeq, List.drop_modify_of_lt _ _ _ _ (by omega), hag.1]
  rw [resumeView, hnai, loopView_of_getElem? hmod, hrest, loopView_of_getElem? hg, contains_eq,
    contains_eq]
  congr 1
  simp only [hend]
  exact filter_inInterval_restart hr.sorted hf

/-- `resumeView` reads only where the continuation points. -/
theorem resumeView_congr {orig : List AttrRange} {ci ci' : ContInfo}
    (h₁ : ci.nextAttrIndex = ci'.nextAttrIndex) (h₂ : ci.nextAttrStartId = ci'.nextAttrStartId) :
    resumeView r orig ci = resumeView r orig ci' := by
  unfold resumeView resumeAttrSeq
  rw [h₁, h₂]

/-! ## How long the loop runs -/

/-- What the loop has still to go through: the attributes of the view, and the entries. -/
def loopCost (r : SdpRecord) (attrSeq : List AttrRange) (xx : Nat) : Nat :=
  (loopView r attrSeq xx).length + (attrSeq.length - xx)

theorem loopCost_lt_loopBound (r : SdpRecord) (attrSeq : List AttrRange) (xx : Nat) :
    loopCost r attrSeq xx < loopBound r attrSeq := by
  have hview : (loopView r attrSeq xx).length ≤ attrSeq.length * r.attributes.length :=
    calc (loopView r attrSeq xx).length
        ≤ (attrSeq.drop xx).length * r.attributes.length := length_requested_le _ _
      _ ≤ attrSeq.length * r.attributes.length :=
          Nat.mul_le_mul_right _ (by simp)
  unfold loopCost loopBound
  rw [Nat.mul_succ]
  omega

theorem loopCost_succ_lt (hg : attrSeq[xx]? = some rg)
    (hf : sdpDbFindAttrInRec r rg.start rg.end = none) :
    loopCost r attrSeq (xx + 1) < loopCost r attrSeq xx := by
  obtain ⟨hlt, -⟩ := List.getElem?_eq_some_iff.mp hg
  unfold loopCost
  rw [loopView_of_find_none hg hf]
  omega

theorem loopCost_rangeNext_lt (hr : RecordInv r) (hid : ∀ a ∈ r.attributes, a.id < 0xFFFF)
    {pAttr : SdpAttribute} (hg : attrSeq[xx]? = some rg)
    (hf : sdpDbFindAttrInRec r rg.start rg.end = some pAttr) (s : AttrLoopVars)
    (hs : s.attrSeq = attrSeq) :
    loopCost r (rangeNext xx rg pAttr s).2.attrSeq (rangeNext xx rg pAttr s).1 <
      loopCost r attrSeq xx := by
  have hview := loopView_rangeNext hr hid hg hf s hs
  have hlen : (rangeNext xx rg pAttr s).2.attrSeq.length = attrSeq.length ∧
      xx ≤ (rangeNext xx rg pAttr s).1 := by
    unfold rangeNext
    split <;> simp [hs]
  unfold loopCost
  rw [hview, List.length_cons, hlen.1]
  omega

end Walk

/-! ## Cutting an entry -/

/-- How far into the first entry of `view` a response stopped: nowhere if there is none, else
short of that entry's end. -/
def InEntry : List SdpAttribute → Nat → Prop
  | [], o => o = 0
  | a :: _, o => o < sdpuGetAttribEntryLen a

instance (view : List SdpAttribute) (o : Nat) : Decidable (InEntry view o) :=
  match view with
  | [] => inferInstanceAs (Decidable (o = 0))
  | a :: _ => inferInstanceAs (Decidable (o < sdpuGetAttribEntryLen a))

theorem inEntry_zero (view : List SdpAttribute) : InEntry view 0 := by
  cases view with
  | nil => rfl
  | cons a _ =>
    show 0 < sdpuGetAttribEntryLen a
    have := three_le_sdpuGetAttribEntryLen a
    omega

/-- The bytes a request resumed from `contInfo` has still to send of record `r`. -/
def resumeBytes (r : SdpRecord) (orig : List AttrRange) (contInfo : ContInfo) : List UInt8 :=
  (entries r (resumeView r orig contInfo)).drop contInfo.attrOffset

/-- For an entry shorter than `SDP_MAX_ATTR_LEN`, `sdpu_build_partial_attrib_entry` sends the
next `len` bytes of the entry, or what is left of it. -/
theorem sdpuBuildPartialAttribEntry_eq {r : SdpRecord} {a : SdpAttribute}
    (hv : a.valuePtr + a.len ≤ r.attrPad.length) (hshort : sdpuGetAttribEntryLen a < sdpMaxAttrLen)
    (len offset : Nat) :
    sdpuBuildPartialAttribEntry r a len offset =
      (((sdpuBuildAttribEntry r a).drop offset).take len,
        offset + min len (sdpuGetAttribEntryLen a - offset)) := by
  have hlen := length_sdpuBuildAttribEntry hv
  have hcopy : (if sdpuGetAttribEntryLen a - offset < (if len > sdpMaxAttrLen then sdpMaxAttrLen
      else len) then sdpuGetAttribEntryLen a - offset
      else if len > sdpMaxAttrLen then sdpMaxAttrLen else len) =
      min len (sdpuGetAttribEntryLen a - offset) := by
    unfold sdpMaxAttrLen at hshort ⊢
    split <;> split <;> omega
  simp only [sdpuBuildPartialAttribEntry, hcopy, load]
  congr 1
  rw [← List.take_take, List.take_of_length_le (l := (sdpuBuildAttribEntry r a).drop offset)
    (by simp [hlen])]

/-- The length stored in the `int16_t` `rem_len` when it fits. -/
theorem toInt16_of_lt {x : Int} (h₀ : -32768 ≤ x) (h₁ : x < 32768) : toInt16 x = x := by
  unfold toInt16
  omega

/-! ## The loop -/

section Loop

variable {r : SdpRecord} {orig : List AttrRange} {maxListLen : Nat}

/-- What holds of the attribute loop at entry `xx` of a request for `orig`: it reads `r`, its
sequence is the request's from `xx` on, the response is within `max_list_len`, what it has still
to go through is short enough to be cut, and a previous cut, if any, lies in the first entry it
goes through, where the continuation information points. -/
structure LoopInv (r : SdpRecord) (orig : List AttrRange) (maxListLen xx : Nat)
    (s : AttrLoopVars) : Prop where
  record : s.record = r
  agrees : AgreesFrom orig s.attrSeq xx
  rsp_le : s.rsp.length ≤ maxListLen
  short : ∀ a ∈ loopView r s.attrSeq xx, sdpuGetAttribEntryLen a < sdpMaxAttrLen
  inEntry : InEntry (loopView r s.attrSeq xx) s.contInfo.attrOffset
  resume : s.contInfo.attrOffset ≠ 0 → resumeView r orig s.contInfo = loopView r s.attrSeq xx

/-- What a run of the attribute loop from entry `xx` and `s` ends in, for the bytes `R` it has
to send and the room `c` left in the response: the first `c` bytes of `R` appended to the
response; if they are all of `R`, the loop is done and no entry is cut; if not, the response is
full and a request resumed from the continuation information sends the rest of `R`. -/
def LoopPost (r : SdpRecord) (orig : List AttrRange) (maxListLen xx : Nat) (s : AttrLoopVars)
    (out : LoopOut AttrLoopVars) : Prop :=
  let R := (entries r (loopView r s.attrSeq xx)).drop s.contInfo.attrOffset
  let c := maxListLen - s.rsp.length
  ∃ s', s'.record = r ∧ s'.rsp = s.rsp ++ R.take c ∧
    s'.contInfo.prevSdpRec = s.contInfo.prevSdpRec ∧
    s'.contInfo.lastAttrSeqDescSent = s.contInfo.lastAttrSeqDescSent ∧
    (R.length ≤ c → out = .done s' ∧ s'.contInfo.attrOffset = 0) ∧
    (c < R.length → out = .maxxed s' ∧
      InEntry (resumeView r orig s'.contInfo) s'.contInfo.attrOffset ∧
      resumeBytes r orig s'.contInfo = R.drop c ∧
      ∀ a ∈ resumeView r orig s'.contInfo, a ∈ loopView r s.attrSeq xx)

/-- Sending `E`, the rest of the first entry, and going on from `(xx', t)`: what the run from
there ends in is what the run from `(xx, s)` ends in. -/
theorem LoopPost.of_next {xx xx' : Nat} {s t : AttrLoopVars} {out : LoopOut AttrLoopVars}
    {E : List UInt8}
    (hR : (entries r (loopView r s.attrSeq xx)).drop s.contInfo.attrOffset =
      E ++ entries r (loopView r t.attrSeq xx'))
    (hoff : t.contInfo.attrOffset = 0) (hrsp : t.rsp = s.rsp ++ E)
    (hE : E.length ≤ maxListLen - s.rsp.length)
    (hprev : t.contInfo.prevSdpRec = s.contInfo.prevSdpRec)
    (hdesc : t.contInfo.lastAttrSeqDescSent = s.contInfo.lastAttrSeqDescSent)
    (hsub : ∀ a ∈ loopView r t.attrSeq xx', a ∈ loopView r s.attrSeq xx)
    (h : LoopPost r orig maxListLen xx' t out) : LoopPost r orig maxListLen xx s out := by
  obtain ⟨s', hrec, hrsp', hprev', hdesc', hdone, hmax⟩ := h
  rw [hoff, List.drop_zero] at hdone hmax hrsp'
  have hc : maxListLen - t.rsp.length = maxListLen - s.rsp.length - E.length := by
    rw [hrsp, List.length_append]
    omega
  rw [hc] at hdone hmax hrsp'
  refine ⟨s', hrec, ?_, hprev'.trans hprev, hdesc'.trans hdesc, ?_, ?_⟩
  · rw [hrsp', hrsp, hR, List.take_append, List.take_of_length_le hE, List.append_assoc]
  · intro hle
    rw [hR, List.length_append] at hle
    exact hdone (by omega)
  · intro hlt
    rw [hR, List.length_append] at hlt
    obtain ⟨hout, hin, hbytes, hmem⟩ := hmax (by omega)
    refine ⟨hout, hin, ?_, fun a ha => hsub a (hmem a ha)⟩
    rw [hbytes, hR, List.drop_append, List.drop_of_length_le hE, List.nil_append]

/-- The loop stopping inside the first attribute of the view, as many bytes further on as there
is room for, with the continuation information pointing at that attribute. -/
theorem LoopPost.stop {xx : Nat} {s s' : AttrLoopVars} {pAttr : SdpAttribute}
    {post : List SdpAttribute} (hview : loopView r s.attrSeq xx = pAttr :: post)
    (hlen : (sdpuBuildAttribEntry r pAttr).length = sdpuGetAttribEntryLen pAttr)
    (hin : s.contInfo.attrOffset + (maxListLen - s.rsp.length) < sdpuGetAttribEntryLen pAttr)
    (hrec : s'.record = r)
    (hrsp : s'.rsp = s.rsp ++ ((sdpuBuildAttribEntry r pAttr).drop s.contInfo.attrOffset).take
      (maxListLen - s.rsp.length))
    (hoff : s'.contInfo.attrOffset = s.contInfo.attrOffset + (maxListLen - s.rsp.length))
    (hprev : s'.contInfo.prevSdpRec = s.contInfo.prevSdpRec)
    (hdesc : s'.contInfo.lastAttrSeqDescSent = s.contInfo.lastAttrSeqDescSent)
    (hres : resumeView r orig s'.contInfo = loopView r s.attrSeq xx) :
    LoopPost r orig maxListLen xx s (.maxxed s') := by
  -- what is left to send starts with the rest of this attribute's entry
  have hR : (entries r (loopView r s.attrSeq xx)).drop s.contInfo.attrOffset =
      (sdpuBuildAttribEntry r pAttr).drop s.contInfo.attrOffset ++ entries r post := by
    rw [hview, entries_cons, List.drop_append_of_le_length (by omega)]
  have hrest : maxListLen - s.rsp.length <
      ((sdpuBuildAttribEntry r pAttr).drop s.contInfo.attrOffset).length := by
    rw [List.length_drop]
    omega
  refine ⟨s', hrec, ?_, hprev, hdesc, fun hle => ?_, fun _ => ⟨rfl, ?_, ?_, ?_⟩⟩
  · rw [hrsp, hR, List.take_append_of_le_length (Nat.le_of_lt hrest)]
  · rw [hR, List.length_append] at hle
    omega
  · rw [hres, hview, hoff]
    exact hin
  · rw [resumeBytes, hres, hoff, ← List.drop_drop]
  · intro a ha
    rwa [hres] at ha

theorem LoopInv.skip {xx : Nat} {s : AttrLoopVars} {rg : AttrRange}
    (h : LoopInv r orig maxListLen xx s) (hg : s.attrSeq[xx]? = some rg)
    (hf : sdpDbFindAttrInRec r rg.start rg.end = none) :
    LoopInv r orig maxListLen (xx + 1) s := by
  have hview := loopView_of_find_none hg hf
  refine ⟨h.record, h.agrees.succ, h.rsp_le, ?_, ?_, ?_⟩
  · rw [← hview]
    exact h.short
  · rw [← hview]
    exact h.inEntry
  · rw [← hview]
    exact h.resume

/-- Going on after sending the whole rest `E` of the attribute found. -/
theorem LoopInv.next (hr : RecordInv r) (hid : ∀ a ∈ r.attributes, a.id < 0xFFFF) {xx : Nat}
    {s : AttrLoopVars} {rg : AttrRange} {pAttr : SdpAttribute} {E : List UInt8}
    (h : LoopInv r orig maxListLen xx s) (hg : s.attrSeq[xx]? = some rg)
    (hf : sdpDbFindAttrInRec r rg.start rg.end = some pAttr)
    (hE : E.length ≤ maxListLen - s.rsp.length) :
    LoopInv r orig maxListLen (rangeNext xx rg pAttr { s with
        rsp := s.rsp ++ E, contInfo := { s.contInfo with attrOffset := 0 } }).1
      (rangeNext xx rg pAttr { s with
        rsp := s.rsp ++ E, contInfo := { s.contInfo with attrOffset := 0 } }).2 := by
  have hview := loopView_rangeNext hr hid hg hf { s with
    rsp := s.rsp ++ E, contInfo := { s.contInfo with attrOffset := 0 } } rfl
  have hrsp := h.rsp_le
  refine ⟨by simp [h.record], h.agrees.next _ rfl hg, ?_, ?_, ?_, ?_⟩
  · simp only [rangeNext_rsp, List.length_append]
    omega
  · intro a ha
    apply h.short
    rw [hview]
    exact List.mem_cons_of_mem _ ha
  · rw [rangeNext_contInfo]
    exact inEntry_zero _
  · intro hoff
    exact absurd (by simp) hoff

/-- One step of the attribute loop at an attribute it finds, from what the rest of the run does:
no room left, the rest of an entry cut before, an entry to cut, or a whole entry. -/
theorem LoopPost.found {peer : AvrcPeer} {avrc : Bool} (hr : RecordInv r)
    (hid : ∀ a ∈ r.attributes, a.id < 0xFFFF)
    (hav : avrc = true → ∀ a ∈ r.attributes, sdpuSetAvrcTargetVersion peer r a = r)
    (hM : maxListLen < 32768) {fuel xx : Nat} {s : AttrLoopVars} {rg : AttrRange}
    {pAttr : SdpAttribute}
    (ih : ∀ xx' s', LoopInv r orig maxListLen xx' s' → loopCost r s'.attrSeq xx' < fuel →
      LoopPost r orig maxListLen xx' s' (attrLoop peer avrc maxListLen fuel xx' s'))
    (hinv : LoopInv r orig maxListLen xx s) (hcost : loopCost r s.attrSeq xx < fuel + 1)
    (hg : s.attrSeq[xx]? = some rg) (hf : sdpDbFindAttrInRec r rg.start rg.end = some pAttr) :
    LoopPost r orig maxListLen xx s (attrLoop peer avrc maxListLen (fuel + 1) xx s) := by
  obtain ⟨rec, seq, rsp, ⟨nai, nasi, prev, desc, o⟩⟩ := s
  obtain rfl : rec = r := hinv.record
  have hg : seq[xx]? = some rg := hg
  have hmem : pAttr ∈ rec.attributes := List.mem_of_find?_eq_some hf
  have hview := loopView_rangeNext hr hid hg hf ⟨rec, seq, rsp, ⟨nai, nasi, prev, desc, o⟩⟩ rfl
  have hlen := hr.length_entry hmem
  have hshort : sdpuGetAttribEntryLen pAttr < sdpMaxAttrLen :=
    hinv.short pAttr (by rw [hview]; exact List.mem_cons_self)
  have hin : o < sdpuGetAttribEntryLen pAttr := by
    have h := hinv.inEntry
    rw [hview] at h
    exact h
  have hrsp : rsp.length ≤ maxListLen := hinv.rsp_le
  have hcost : loopCost rec seq xx < fuel + 1 := hcost
  -- the loop reads the record unchanged and `rem_len` as the room left
  have havrc : (if avrc = true then
      { (⟨rec, seq, rsp, ⟨nai, nasi, prev, desc, o⟩⟩ : AttrLoopVars) with
        record := sdpuSetAvrcTargetVersion peer rec pAttr }
      else ⟨rec, seq, rsp, ⟨nai, nasi, prev, desc, o⟩⟩) =
      (⟨rec, seq, rsp, ⟨nai, nasi, prev, desc, o⟩⟩ : AttrLoopVars) := by
    cases avrc with
    | false => rfl
    | true => rw [if_pos rfl, hav rfl pAttr hmem]
  have hrem : toInt16 ((maxListLen : Int) - (rsp.length : Int)) =
      ((maxListLen - rsp.length : Nat) : Int) := by
    rw [toInt16_of_lt (by omega) (by omega)]
    omega
  -- sending the whole rest of the entry and going on
  have hcont : ∀ E : List UInt8, E = (sdpuBuildAttribEntry rec pAttr).drop o →
      E.length ≤ maxListLen - rsp.length →
      LoopPost rec orig maxListLen xx ⟨rec, seq, rsp, ⟨nai, nasi, prev, desc, o⟩⟩
        (attrLoop peer avrc maxListLen fuel
          (rangeNext xx rg pAttr ⟨rec, seq, rsp ++ E, ⟨nai, nasi, prev, desc, 0⟩⟩).1
          (rangeNext xx rg pAttr ⟨rec, seq, rsp ++ E, ⟨nai, nasi, prev, desc, 0⟩⟩).2) := by
    intro E hE hEc
    have hnext := loopView_rangeNext hr hid hg hf
      ⟨rec, seq, rsp ++ E, ⟨nai, nasi, prev, desc, 0⟩⟩ rfl
    have hcost' := loopCost_rangeNext_lt hr hid hg hf
      ⟨rec, seq, rsp ++ E, ⟨nai, nasi, prev, desc, 0⟩⟩ rfl
    refine LoopPost.of_next ?_ (by simp) (by simp) hEc (by simp) (by simp)
      (fun a ha => by rw [hnext]; exact List.mem_cons_of_mem _ ha)
      (ih _ _ (hinv.next hr hid hg hf hEc) (by omega))
    show (entries rec (loopView rec seq xx)).drop o = _
    rw [hnext, entries_cons, List.drop_append_of_le_length (by omega), hE]
  rw [attrLoop]
  simp only [hg, hf, havrc, hrem, sdpuBuildPartialAttribEntry_eq (hr.value_le pAttr hmem)
    hshort, Int.toNat_natCast]
  by_cases hc : maxListLen - rsp.length = 0
  · -- no room left: the response ends before this attribute
    rw [if_pos (by omega)]
    exact LoopPost.stop hview hlen (show o + (maxListLen - rsp.length) < _ by omega) rfl
      (by simp [hc]) (by simp [hc]) rfl rfl
      (resumeView_of_found hr hinv.agrees hg hf rfl rfl)
  rw [if_neg (by omega)]
  by_cases ho : o = 0
  · subst ho
    rw [if_neg (by simp)]
    by_cases hfit : maxListLen - rsp.length < sdpuGetAttribEntryLen pAttr
    · -- the entry is cut where the response is full
      rw [if_pos (by omega), if_neg (by omega)]
      exact LoopPost.stop hview hlen (show 0 + (maxListLen - rsp.length) < _ by omega) rfl rfl
        (by simp; omega) rfl rfl (resumeView_of_found hr hinv.agrees hg hf rfl rfl)
    · -- the whole entry fits
      rw [if_neg (by omega)]
      exact hcont _ List.drop_zero.symm (by simp [hlen]; omega)
  · -- the rest of an entry a previous response cut
    rw [if_pos ho, if_neg (by omega)]
    by_cases hfit : sdpuGetAttribEntryLen pAttr - o ≤ maxListLen - rsp.length
    · rw [if_neg (by omega), List.take_of_length_le (by simp [hlen]; omega)]
      exact hcont _ rfl (by simp [hlen]; omega)
    · rw [if_pos (by omega)]
      exact LoopPost.stop hview hlen (show o + (maxListLen - rsp.length) < _ by omega) rfl rfl
        (by simp; omega) rfl rfl ((resumeView_congr rfl rfl).trans (hinv.resume ho))

/-- The run of the attribute loop from a state satisfying the invariant, with enough fuel. -/
theorem attrLoop_spec {peer : AvrcPeer} {avrc : Bool} (hr : RecordInv r)
    (hid : ∀ a ∈ r.attributes, a.id < 0xFFFF)
    (hav : avrc = true → ∀ a ∈ r.attributes, sdpuSetAvrcTargetVersion peer r a = r)
    (hM : maxListLen < 32768) :
    ∀ (fuel xx : Nat) (s : AttrLoopVars), LoopInv r orig maxListLen xx s →
      loopCost r s.attrSeq xx < fuel →
      LoopPost r orig maxListLen xx s (attrLoop peer avrc maxListLen fuel xx s) := by
  intro fuel
  induction fuel with
  | zero =>
    intro xx s _ hcost
    exact absurd hcost (Nat.not_lt_zero _)
  | succ fuel ih =>
    intro xx s hinv hcost
    cases hg : s.attrSeq[xx]? with
    | none =>
      -- the sequence is at its end, and so is the view
      have hview : loopView r s.attrSeq xx = [] := loopView_of_getElem?_none hg
      have hoff : s.contInfo.attrOffset = 0 := by
        have := hinv.inEntry
        rwa [hview] at this
      rw [attrLoop]
      simp only [hg]
      refine ⟨s, hinv.record, ?_, rfl, rfl, fun _ => ⟨rfl, hoff⟩, fun hlt => ?_⟩
      · simp [hview]
      · simp [hview] at hlt
    | some rg =>
      cases hf : sdpDbFindAttrInRec r rg.start rg.end with
      | none =>
        -- an entry the record has nothing in
        have hview := loopView_of_find_none hg hf
        have hrun := ih (xx + 1) s (hinv.skip hg hf)
          (Nat.lt_of_lt_of_le (loopCost_succ_lt hg hf) (Nat.lt_succ_iff.mp hcost))
        have hf' : sdpDbFindAttrInRec s.record rg.start rg.end = none := by
          rw [hinv.record]
          exact hf
        rw [attrLoop]
        simp only [hg, hf']
        unfold LoopPost at hrun ⊢
        rwa [hview]
      | some pAttr => exact LoopPost.found hr hid hav hM ih hinv hcost hg hf

end Loop

/-! ## The length computed apart -/

section SeqLen

variable {r : SdpRecord} {attrSeq : List AttrRange}

/-- What the loop of `sdpu_get_attrib_seq_len` at entry `xx` has still to count: the rest of the
range it is going through, if it is in one, then the entries after. -/
def seqLenView (r : SdpRecord) (attrSeq : List AttrRange) (xx : Nat) (isRange : Bool)
    (startId endId : Nat) : List SdpAttribute :=
  if isRange then
    r.attributes.filter (inInterval SdpAttribute.id startId endId) ++ loopView r attrSeq (xx + 1)
  else loopView r attrSeq xx

/-- At an entry, the loop counts the range it is in, or the entry's own range. -/
theorem seqLenView_of_getElem? {xx : Nat} {rg : AttrRange} (hg : attrSeq[xx]? = some rg)
    (isRange : Bool) (startId endId : Nat) :
    seqLenView r attrSeq xx isRange startId endId =
      r.attributes.filter (inInterval SdpAttribute.id (if isRange then startId else rg.start)
        (if isRange then endId else rg.end)) ++ loopView r attrSeq (xx + 1) := by
  cases isRange with
  | true => rfl
  | false =>
    show loopView r attrSeq xx = _
    rw [loopView_of_getElem? hg, contains_eq]
    rfl

/-- The loop of `sdpu_get_attrib_seq_len` adds up, in 16 bits, the entry lengths of what it has
still to count. -/
theorem attribSeqLenLoop_eq (hr : RecordInv r) (hid : ∀ a ∈ r.attributes, a.id < 0xFFFF) :
    ∀ (fuel xx : Nat) (isRange : Bool) (startId endId len1 : Nat),
      (isRange = true → xx < attrSeq.length) → len1 < 65536 →
      (seqLenView r attrSeq xx isRange startId endId).length + (attrSeq.length - xx) < fuel →
      attribSeqLenLoop r attrSeq fuel xx isRange startId endId len1 =
        some ((len1 + ((seqLenView r attrSeq xx isRange startId endId).map
          sdpuGetAttribEntryLen).sum) % 65536) := by
  intro fuel
  induction fuel with
  | zero =>
    intro xx isRange startId endId len1 _ _ hcost
    exact absurd hcost (Nat.not_lt_zero _)
  | succ fuel ih =>
    intro xx isRange startId endId len1 hrange hlen1 hcost
    cases hg : attrSeq[xx]? with
    | none =>
      -- past the last entry, and so not inside a range
      have hnot : isRange = false := by
        cases isRange with
        | false => rfl
        | true => exact absurd (hrange rfl) (by simpa using List.getElem?_eq_none_iff.mp hg)
      rw [attribSeqLenLoop]
      simp only [hg, hnot, seqLenView, loopView_of_getElem?_none hg]
      simp [Nat.mod_eq_of_lt hlen1]
    | some rg =>
      have hlt : xx < attrSeq.length := (List.getElem?_eq_some_iff.mp hg).1
      have hview := seqLenView_of_getElem? (r := r) hg isRange startId endId
      rw [hview] at hcost ⊢
      rw [attribSeqLenLoop]
      simp only [hg]
      -- the range this step searches
      generalize (if isRange = true then startId else rg.start) = st at hcost ⊢
      generalize (if isRange = true then endId else rg.end) = en at hcost ⊢
      cases hf : sdpDbFindAttrInRec r st en with
      | none =>
        -- nothing in this range: on to the next entry
        have hf' : r.attributes.find? (inInterval SdpAttribute.id st en) = none := hf
        rw [filter_inInterval_of_find?_none hf', List.nil_append] at hcost ⊢
        dsimp only
        rw [ih (xx + 1) false _ _ len1 (by simp) hlen1 (by simp [seqLenView]; omega)]
        rfl
      | some pAttr =>
        have hf' : r.attributes.find? (inInterval SdpAttribute.id st en) = some pAttr := hf
        have hsum : ∀ l : List SdpAttribute,
            ((len1 + sdpuGetAttribEntryLen pAttr) % 65536 + (l.map sdpuGetAttribEntryLen).sum) %
              65536 = (len1 + ((pAttr :: l).map sdpuGetAttribEntryLen).sum) % 65536 := by
          intro l
          simp only [List.map_cons, List.sum_cons]
          omega
        dsimp only
        by_cases hne : st = en
        · -- a single id: on to the next entry
          subst hne
          rw [if_neg (by simp)]
          rw [filter_inInterval_single hr.sorted hf'] at hcost ⊢
          simp only [List.singleton_append, List.length_cons] at hcost
          rw [ih (xx + 1) false _ _ _ (by simp) (Nat.mod_lt _ (by omega))
            (by simp only [seqLenView, Bool.false_eq_true, ↓reduceIte]; omega)]
          simp only [seqLenView, Bool.false_eq_true, ↓reduceIte, List.singleton_append]
          exact congrArg some (hsum _)
        · -- the range goes on from the id after the attribute found
          rw [if_pos hne]
          have hmem : pAttr ∈ r.attributes := List.mem_of_find?_eq_some hf
          have hnext : (pAttr.id + 1) % 65536 = pAttr.id + 1 :=
            Nat.mod_eq_of_lt (by have := hid pAttr hmem; omega)
          rw [filter_inInterval_of_find? hr.sorted hf'] at hcost ⊢
          simp only [List.cons_append, List.length_cons, List.length_append] at hcost
          rw [ih xx true _ _ _ (fun _ => hlt) (Nat.mod_lt _ (by omega))
            (by simp only [seqLenView, ↓reduceIte, hnext, List.length_append]; omega), hnext]
          simp only [seqLenView, ↓reduceIte, List.cons_append]
          exact congrArg some (hsum _)

/-- `sdpu_get_attrib_seq_len` is the length of the entries the request asks of the record, in
16 bits. -/
theorem sdpuGetAttribSeqLen_eq (hr : RecordInv r) (hid : ∀ a ∈ r.attributes, a.id < 0xFFFF)
    (attrSeq : List AttrRange) :
    sdpuGetAttribSeqLen r attrSeq = some ((entries r (requested r attrSeq)).length % 65536) := by
  have hcost := loopCost_lt_loopBound r attrSeq 0
  unfold loopCost at hcost
  rw [sdpuGetAttribSeqLen, attribSeqLenLoop_eq hr hid _ 0 false 0 0 0 (by simp) (by omega)
    (by simpa [seqLenView] using hcost), hr.length_entries (fun a ha => mem_requested ha)]
  simp [seqLenView, loopView]

end SeqLen

end BluetoothStack.Sdp
