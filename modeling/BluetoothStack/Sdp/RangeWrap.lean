import BluetoothStack.Sdp.Lossless
import BluetoothStack.Sdp.Request

/-!
# A range past attribute `0xFFFF`

The server expands a range by starting it again after the attribute it found, at
`p_attr->id + 1` in a `uint16_t`. After attribute `0xFFFF` that start is `0`, and the range
begins again at the record's first attribute. It only ends if the start comes to equal the end,
which needs an attribute `0xFFFE`; in a record without one, a range that reaches `0xFFFF` never
ends. `sdpu_get_attrib_seq_len` then loops for ever (`attribSeqLenLoop_wraps_entry`), and with it
the first response to either request, whose list length it computes. Before that the attribute
loop has sent the record's first attributes a second time.

The range `0x0000`-`0xFFFF` is what a client sends when it names no attribute, the stack's own
client included (`sdpu_build_attrib_seq` with a `NULL` list).
-/

namespace BluetoothStack.Sdp

open Bytes

/-- `sdp_db_find_attr_in_rec` finds an attribute whenever the range holds one. -/
theorem sdpDbFindAttrInRec_of_mem {r : SdpRecord} {startAttr endAttr : Nat} {a : SdpAttribute}
    (ha : a ∈ r.attributes) (hs : startAttr ≤ a.id) (he : a.id ≤ endAttr) :
    ∃ p, sdpDbFindAttrInRec r startAttr endAttr = some p ∧ p ∈ r.attributes ∧
      startAttr ≤ p.id ∧ p.id ≤ endAttr := by
  unfold sdpDbFindAttrInRec
  cases hf : r.attributes.find? (AttrRange.contains ⟨startAttr, endAttr⟩) with
  | none =>
    have := List.find?_eq_none.1 hf a ha
    simp [AttrRange.contains, hs, he] at this
  | some p =>
    have hp := List.find?_some hf
    simp only [AttrRange.contains, Bool.and_eq_true, decide_eq_true_eq] at hp
    exact ⟨p, rfl, List.mem_of_find?_eq_some hf, hp⟩

section Wrap

variable {r : SdpRecord} {attrSeq : List AttrRange} {xx : Nat} {rg : AttrRange}

/-- Inside a range that reaches attribute `0xFFFF` of a record without `0xFFFE`, the loop of
`sdpu_get_attrib_seq_len` finds an attribute at every turn and moves the start to one that is
still below `0xFFFF`: it runs out of every fuel. -/
theorem attribSeqLenLoop_wraps (hF : ∃ a ∈ r.attributes, a.id = 0xFFFF)
    (hE : ∀ a ∈ r.attributes, a.id ≠ 0xFFFE) (hxx : attrSeq[xx]? = some rg) :
    ∀ (fuel startId len1 : Nat), startId < 0xFFFF →
      attribSeqLenLoop r attrSeq fuel xx true startId 0xFFFF len1 = none := by
  obtain ⟨a, ha, haid⟩ := hF
  intro fuel
  induction fuel with
  | zero => intro _ _ _; rfl
  | succ fuel ih =>
    intro startId len1 hs
    obtain ⟨p, hp, hpmem, hps, hpe⟩ :=
      sdpDbFindAttrInRec_of_mem ha (show startId ≤ a.id by omega) (show a.id ≤ 0xFFFF by omega)
    -- the next start is `0` after `0xFFFF`, and below `0xFFFF` after any other attribute
    have hnext : (p.id + 1) % 65536 < 0xFFFF := by
      have := hE p hpmem
      omega
    simp only [attribSeqLenLoop, hxx, if_true, hp, ne_eq, if_pos (show ¬startId = 0xFFFF by omega)]
    exact ih _ _ hnext

/-- A loop that comes to entry `xx`, a range from below `0xFFFF` to `0xFFFF`, never ends: its
first turn there finds an attribute and stays in the range. -/
theorem attribSeqLenLoop_wraps_entry (hF : ∃ a ∈ r.attributes, a.id = 0xFFFF)
    (hE : ∀ a ∈ r.attributes, a.id ≠ 0xFFFE) {s : Nat} (hxx : attrSeq[xx]? = some ⟨s, 0xFFFF⟩)
    (hs : s < 0xFFFF) (fuel startId endId len1 : Nat) :
    attribSeqLenLoop r attrSeq fuel xx false startId endId len1 = none := by
  cases fuel with
  | zero => rfl
  | succ fuel =>
    obtain ⟨a, ha, haid⟩ := hF
    obtain ⟨p, hp, hpmem, -, hpe⟩ :=
      sdpDbFindAttrInRec_of_mem ha (show s ≤ a.id by omega) (show a.id ≤ 0xFFFF by omega)
    have hnext : (p.id + 1) % 65536 < 0xFFFF := by
      have := hE p hpmem
      omega
    simp only [attribSeqLenLoop, hxx, Bool.false_eq_true, if_false, hp, ne_eq,
      if_pos (show ¬s = 0xFFFF by omega)]
    exact attribSeqLenLoop_wraps ⟨a, ha, haid⟩ hE hxx _ _ _ hnext

end Wrap

/-! ## A record with attribute `0xFFFF` -/

/-- The serial port record with one attribute more, `0xFFFF`, a one-byte unsigned integer. -/
def wrapRecord : SdpRecord :=
  { serialPortRecord with
    freePadPtr := 12
    attributes := serialPortRecord.attributes ++ [⟨0xFFFF, uintDescType, 1, 11⟩]
    attrPad := serialPortRecord.attrPad ++ [0x01] }

/-- The wildcard a client sends, asked of `wrapRecord`: `sdpu_get_attrib_seq_len` runs out of
every fuel; the attribute loop, after the four attributes, starts on attribute `0x0000` again and
stops only when the response is full; and neither request is ever answered. -/
theorem wildcard_range_wraps :
    sdpuExtractAttrSeq (sdpuBuildAttribSeq none) 7 = some ([⟨0x0000, 0xFFFF⟩], []) ∧
      RecordInv wrapRecord ∧
      (∀ fuel, attribSeqLenLoop wrapRecord [⟨0x0000, 0xFFFF⟩] fuel 0 false 0 0 0 = none) ∧
      (∃ s, attrLoop plainPeer false 38 (loopBound wrapRecord [⟨0x0000, 0xFFFF⟩]) 0
          ⟨wrapRecord, [⟨0x0000, 0xFFFF⟩], [0, 0, 0], minMtuConn.contInfo⟩ = .maxxed s ∧
        s.rsp = [0, 0, 0] ++ entries wrapRecord wrapRecord.attributes ++
          (sdpuBuildAttribEntry wrapRecord ⟨0x0000, uintDescType, 4, 0⟩).take 6) ∧
      processServiceAttrReq plainPeer ⟨0, [wrapRecord]⟩ minMtuConn
        ⟨0x10000, 100, [⟨0x0000, 0xFFFF⟩], none⟩ = none ∧
      processServiceSearchAttrReq plainPeer ⟨0, [wrapRecord]⟩ minMtuConn
        ⟨[[0x11, 0x01]], 100, [⟨0x0000, 0xFFFF⟩], none⟩ = none := by
  have hext := sdpuExtractAttrSeq_wildcard [] (Nat.le_refl 7)
  rw [List.append_nil] at hext
  have hF : ∃ a ∈ wrapRecord.attributes, a.id = 0xFFFF := ⟨⟨0xFFFF, uintDescType, 1, 11⟩, by decide, rfl⟩
  have hE : ∀ a ∈ wrapRecord.attributes, a.id ≠ 0xFFFE := by decide
  refine ⟨hext, ⟨by decide, by decide⟩,
    fun fuel => attribSeqLenLoop_wraps_entry hF hE rfl (by decide) fuel 0 0 0, ⟨_, rfl, rfl⟩,
    rfl, by decide +kernel⟩

end BluetoothStack.Sdp
