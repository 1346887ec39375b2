import BluetoothStack.Gatt.Types
import BluetoothStack.Sdp.UuidMatch

/-!
# The parameters of a request

A client asks for records by a list of UUIDs and for attributes by a list of attribute ids, each
written as a data element sequence: by `sdpu_build_uuid_seq` and `sdpu_build_attrib_seq` on the
client, read by `sdpu_extract_uid_seq` and `sdpu_extract_attr_seq` on the server.

Both extractors run the same loop over the sequence (`extractSeqEntries`): each entry a data
element of one type, its value length given by the size code or in a length field, at most one
fewer entries than `MAX_ATTR_PER_SEQ` (`MAX_UUIDS_PER_SEQ`). The attribute list takes unsigned
integers of two bytes (one id) and of four (a range from the first id to the second), the UUID
list UUIDs of 2, 4 or 16 bytes; anything else, a value or length field that runs past the
sequence, and a sequence longer than the parameters left are refused. What they accept is well
formed (`sdpuExtractAttrSeq_wf`, `sdpuExtractUidSeq_wf`), and they read back what the builders
write for up to fifteen ids or UUIDs, and the wildcard range `0x0000`-`0xFFFF` a client asks for
when it names no attribute. Nothing checks that a range starts below its end.
-/

namespace BluetoothStack.Sdp

open Bytes

/-- `MAX_ATTR_PER_SEQ`. -/
def maxAttrPerSeq : Nat := 16
/-- `MAX_UUIDS_PER_SEQ`. -/
def maxUuidsPerSeq : Nat := 16

/-! ## Writing the lists -/

/-- `sdpu_build_attrib_seq`: the attribute ids as a data element sequence of 16-bit unsigned
integers. A `NULL` list asks for every attribute, as the one range `0x0000`-`0xFFFF`. The length
of the sequence is a `uint16_t`, written in one byte when it is at most 255. -/
def sdpuBuildAttribSeq (pAttr : Option (List Nat)) : List UInt8 :=
  let xx := match pAttr with
    | none => 5
    | some attrs => attrs.length * 3 % 65536
  let header :=
    if xx > 255 then descByte dataEleSeqDescType sizeInNextWord :: beBytes 2 xx
    else [descByte dataEleSeqDescType sizeInNextByte, UInt8.ofNat xx]
  header ++ match pAttr with
    | none => descByte uintDescType sizeFourBytes :: (beBytes 2 0 ++ beBytes 2 0xFFFF)
    | some attrs => attrs.flatMap fun a => descByte uintDescType sizeTwoBytes :: beBytes 2 a

/-- One UUID as `sdpu_build_uuid_seq` writes it, in its shortest form. -/
def uuidElement (u : Gatt.Uuid) : List UInt8 :=
  let len := u.getShortestRepresentationSize
  if len = Gatt.Uuid.kNumBytes16 then descByte uuidDescType sizeTwoBytes :: beBytes 2 u.as16Bit
  else if len = Gatt.Uuid.kNumBytes32 then
    descByte uuidDescType sizeFourBytes :: beBytes 4 u.as32Bit
  else if len = Gatt.Uuid.kNumBytes128 then
    descByte uuidDescType sizeSixteenBytes :: u.to128BitBE
  -- `DCHECK(0)`: nothing is written
  else []

/-- `sdpu_build_uuid_seq` (sdp_discovery.cc): the UUIDs as a data element sequence whose length,
a `uint16_t`, is written in one byte. -/
def sdpuBuildUuidSeq (uuids : List Gatt.Uuid) : List UInt8 :=
  let body := uuids.flatMap uuidElement
  descByte dataEleSeqDescType sizeInNextByte :: UInt8.ofNat body.length :: body

/-! ## Reading them -/

/-- A reader of the length of a data element's value: the length, and the bytes after its length
field, never more than before. -/
structure LenField where
  read : Nat → List UInt8 → Option (Nat × List UInt8)
  shrinks : ∀ {size n : Nat} {p q : List UInt8}, read size p = some (n, q) →
    q.length ≤ p.length

/-- The loop `sdpu_extract_attr_seq` and `sdpu_extract_uid_seq` both run over the bytes of their
sequence (those before its end): each entry a data element of type `type`, whose value length
`lenField` reads and whose value `entry` reads, and at most `maxEntries - 1` of them; `seq` holds
the entries read so far. -/
def extractSeqEntries {α : Type} (type maxEntries : Nat) (lenField : LenField)
    (entry : Nat → List UInt8 → Option α) (seq : List α) : List UInt8 → Option (List α)
  | [] => some seq
  | descr :: p =>
    if descr.toNat >>> 3 ≠ type then none
    else
      match _h : lenField.read (descr.toNat &&& 7) p with
      | none => none
      | some (len, q) =>
        -- the value has to end inside the sequence
        if q.length < len then none
        else
          match entry len q with
          | none => none
          | some e =>
            if seq.length + 1 ≥ maxEntries then none
            else extractSeqEntries type maxEntries lenField entry (seq ++ [e]) (q.drop len)
termination_by p => p.length
decreasing_by
  have := lenField.shrinks _h
  simp only [List.length_drop, List.length_cons]
  omega

/-- The value length of an entry of the attribute list, from the size code of its descriptor, and
the bytes of the list after its length field; `none` for a size code the parser refuses or a
length field that runs past the list. -/
def attrLenField (size : Nat) (p : List UInt8) : Option (Nat × List UInt8) :=
  if size = sizeTwoBytes then some (2, p)
  else if size = sizeFourBytes then some (4, p)
  else if size = sizeInNextByte then
    if p.length < 1 then none else some (beValue (p.take 1), p.drop 1)
  else if size = sizeInNextWord then
    if p.length < 2 then none else some (beValue (p.take 2), p.drop 2)
  else if size = sizeInNextLong then
    if p.length < 4 then none else some (beValue (p.take 4), p.drop 4)
  else none

theorem length_le_of_attrLenField {size attrLen : Nat} {p q : List UInt8}
    (h : attrLenField size p = some (attrLen, q)) : q.length ≤ p.length := by
  unfold attrLenField at h
  split_ifs at h
  all_goals simp only [Option.some.injEq, Prod.mk.injEq] at h
  all_goals
    obtain ⟨-, rfl⟩ := h
    simp

/-- The value length of a UUID of the UUID list: sixteen bytes for `SIZE_SIXTEEN_BYTES`, the
other size codes as in the attribute list. -/
def uuidLenField (size : Nat) (p : List UInt8) : Option (Nat × List UInt8) :=
  if size = sizeSixteenBytes then some (16, p) else attrLenField size p

theorem length_le_of_uuidLenField {size uuidLen : Nat} {p q : List UInt8}
    (h : uuidLenField size p = some (uuidLen, q)) : q.length ≤ p.length := by
  unfold uuidLenField at h
  split_ifs at h
  · simp only [Option.some.injEq, Prod.mk.injEq] at h
    obtain ⟨-, rfl⟩ := h
    exact Nat.le_refl _
  · exact length_le_of_attrLenField h

/-- The entry a value of `attrLen` bytes holds: one id in two bytes, a range in four; `none` for
any other length. -/
def attrEntry (attrLen : Nat) (p : List UInt8) : Option AttrRange :=
  if attrLen = 2 then some ⟨beValue (p.take 2), beValue (p.take 2)⟩
  else if attrLen = 4 then some ⟨beValue (p.take 2), beValue ((p.drop 2).take 2)⟩
  else none

/-- The UUID a value of `uuidLen` bytes holds, its bytes as they came; `none` for a length other
than 2, 4 or 16. -/
def uuidEntry (uuidLen : Nat) (p : List UInt8) : Option (List UInt8) :=
  if uuidLen = 2 ∨ uuidLen = 4 ∨ uuidLen = 16 then some (p.take uuidLen) else none

/-- The loop of `sdpu_extract_attr_seq` over the bytes of the list (those before `p_end_list`). -/
def extractAttrEntries (seq : List AttrRange) (p : List UInt8) : Option (List AttrRange) :=
  extractSeqEntries uintDescType maxAttrPerSeq ⟨attrLenField, length_le_of_attrLenField⟩
    attrEntry seq p

/-- The loop of `sdpu_extract_uid_seq` over the bytes of the list (those before `p_seq_end`);
the check that it ends at `p_seq_end` never fails, each value being inside the list. -/
def extractUidEntries (seq : List (List UInt8)) (p : List UInt8) : Option (List (List UInt8)) :=
  extractSeqEntries uuidDescType maxUuidsPerSeq ⟨uuidLenField, length_le_of_uuidLenField⟩
    uuidEntry seq p

/-- The bytes of the length field of a sequence, for the size code of its descriptor; `none` for
a size code `sdpu_extract_attr_seq` refuses. -/
def seqLenFieldBytes (size : Nat) : Option Nat :=
  if size = sizeInNextByte then some 1
  else if size = sizeInNextWord then some 2
  else if size = sizeInNextLong then some 4
  else none

/-- `sdpu_extract_attr_seq`: the attribute id list at the front of the request's `param_len`
bytes left, and the bytes after it; `none` where the source returns `NULL`. The three forms of
the sequence length differ only in the bytes of its field. -/
def sdpuExtractAttrSeq (p : List UInt8) (paramLen : Nat) : Option (List AttrRange × List UInt8) :=
  if paramLen < 1 then none
  else
    let descr := p.headD 0
    let paramLen := paramLen - 1
    let p := p.drop 1
    if descr.toNat >>> 3 ≠ dataEleSeqDescType then none
    else
      match seqLenFieldBytes (descr.toNat &&& 7) with
      | none => none
      | some k =>
        if paramLen < k then none
        else
          let listLen := beValue (p.take k)
          let paramLen := paramLen - k
          let p := p.drop k
          if listLen > paramLen then none
          else (extractAttrEntries [] (p.take listLen)).map fun seq => (seq, p.drop listLen)

/-- The length of the UUID list and the bytes of its length field: the size codes of 2, 4 and 16
bytes give that length and have no field, the others as in the attribute list, with the field
inside the parameters left. -/
def uidSeqHeader (size : Nat) (p : List UInt8) (paramLen : Nat) : Option (Nat × Nat) :=
  if size = sizeTwoBytes then some (2, 0)
  else if size = sizeFourBytes then some (4, 0)
  else if size = sizeSixteenBytes then some (16, 0)
  else
    match seqLenFieldBytes size with
    | none => none
    | some k => if paramLen < k then none else some (beValue (p.take k), k)

/-- `sdpu_extract_uid_seq`: the UUID list at the front of the request's `param_len` bytes left,
each UUID the bytes of its value, and the bytes after the list; `none` where the source returns
`NULL`. -/
def sdpuExtractUidSeq (p : List UInt8) (paramLen : Nat) :
    Option (List (List UInt8) × List UInt8) :=
  if paramLen < 1 then none
  else
    let descr := p.headD 0
    let paramLen := paramLen - 1
    let p := p.drop 1
    if descr.toNat >>> 3 ≠ dataEleSeqDescType then none
    else
      match uidSeqHeader (descr.toNat &&& 7) p paramLen with
      | none => none
      | some (seqLen, k) =>
        let paramLen := paramLen - k
        let p := p.drop k
        if seqLen > paramLen then none
        else (extractUidEntries [] (p.take seqLen)).map fun seq => (seq, p.drop seqLen)

/-! ## What they accept -/

section Loop

variable {α : Type} {type maxEntries : Nat} {lenField : LenField}
  {entry : Nat → List UInt8 → Option α}

/-- The loop adds an entry only below the cap, and only one `entry` read from a value inside the
sequence. -/
theorem extractSeqEntries_wf (P : α → Prop)
    (hentry : ∀ {n : Nat} {q : List UInt8} {e : α}, n ≤ q.length → entry n q = some e →
      P e)
    {seq seq' : List α} {p : List UInt8} (hlen : seq.length < maxEntries) (hP : ∀ e ∈ seq, P e)
    (h : extractSeqEntries type maxEntries lenField entry seq p = some seq') :
    seq'.length < maxEntries ∧ ∀ e ∈ seq', P e := by
  fun_induction extractSeqEntries type maxEntries lenField entry seq p with
  | case1 seq =>
    rw [← Option.some.inj h]
    exact ⟨hlen, hP⟩
  | case7 seq descr p hty len q hf hq e he hs ih =>
    -- one entry more, below the cap
    refine ih ?_ (fun x hx => ?_) h
    · simp only [List.length_append, List.length_singleton]
      omega
    · rcases List.mem_append.1 hx with hx | hx
      · exact hP x hx
      · rw [List.mem_singleton.1 hx]
        exact hentry (by omega) he
  | _ => cases h

/-- One entry of the sequence: a data element of the type, whose value lies inside the sequence,
read below the cap. -/
theorem extractSeqEntries_cons {seq : List α} {descr : UInt8} {p q : List UInt8} {len : Nat}
    {e : α} (hty : descr.toNat >>> 3 = type)
    (hf : lenField.read (descr.toNat &&& 7) p = some (len, q)) (hq : len ≤ q.length)
    (he : entry len q = some e) (hs : seq.length + 1 < maxEntries) :
    extractSeqEntries type maxEntries lenField entry seq (descr :: p) =
      extractSeqEntries type maxEntries lenField entry (seq ++ [e]) (q.drop len) := by
  rw [extractSeqEntries, if_neg (not_not.2 hty)]
  split
  · rename_i h
    rw [hf] at h
    cases h
  · rename_i len' q' h
    rw [hf, Option.some.injEq, Prod.mk.injEq] at h
    obtain ⟨rfl, rfl⟩ := h
    rw [if_neg (by omega), he]
    dsimp only
    rw [if_neg (by omega)]

end Loop

/-- An attribute id list the server can work with: fewer than `MAX_ATTR_PER_SEQ` entries, each
bound a 16-bit id. -/
structure AttrSeqWf (seq : List AttrRange) : Prop where
  length_lt : seq.length < maxAttrPerSeq
  bounded : ∀ rg ∈ seq, rg.start < 65536 ∧ rg.end < 65536

/-- A UUID list the server can work with: fewer than `MAX_UUIDS_PER_SEQ` UUIDs, each of 2, 4 or
16 bytes. -/
structure UidSeqWf (seq : List (List UInt8)) : Prop where
  length_lt : seq.length < maxUuidsPerSeq
  uuid_len : ∀ u ∈ seq, u.length = 2 ∨ u.length = 4 ∨ u.length = 16

theorem beValue_take_two_lt (p : List UInt8) : beValue (p.take 2) < 65536 := by
  have h := leValue_lt (p.take 2).reverse
  rw [List.length_reverse, List.length_take] at h
  have hle : 256 ^ min 2 p.length ≤ 256 ^ 2 :=
    Nat.pow_le_pow_right (by omega) (Nat.min_le_left _ _)
  unfold beValue
  omega

theorem attrEntry_lt {attrLen : Nat} {q : List UInt8} {rg : AttrRange}
    (h : attrEntry attrLen q = some rg) : rg.start < 65536 ∧ rg.end < 65536 := by
  unfold attrEntry at h
  split_ifs at h
  all_goals simp only [Option.some.injEq] at h
  all_goals
    subst h
    exact ⟨beValue_take_two_lt _, beValue_take_two_lt _⟩

theorem length_of_uuidEntry {uuidLen : Nat} {q u : List UInt8} (hq : uuidLen ≤ q.length)
    (h : uuidEntry uuidLen q = some u) : u.length = 2 ∨ u.length = 4 ∨ u.length = 16 := by
  unfold uuidEntry at h
  split_ifs at h with hl
  simp only [Option.some.injEq] at h
  subst h
  rw [List.length_take_of_le hq]
  exact hl

theorem AttrSeqWf.of_extractAttrEntries {seq seq' : List AttrRange} {p : List UInt8}
    (hwf : AttrSeqWf seq) (h : extractAttrEntries seq p = some seq') : AttrSeqWf seq' :=
  let hs := extractSeqEntries_wf (fun rg : AttrRange => rg.start < 65536 ∧ rg.end < 65536)
    (fun _ he => attrEntry_lt he) hwf.length_lt hwf.bounded h
  ⟨hs.1, hs.2⟩

theorem UidSeqWf.of_extractUidEntries {seq seq' : List (List UInt8)} {p : List UInt8}
    (hwf : UidSeqWf seq) (h : extractUidEntries seq p = some seq') : UidSeqWf seq' :=
  let hs := extractSeqEntries_wf
    (fun u : List UInt8 => u.length = 2 ∨ u.length = 4 ∨ u.length = 16)
    length_of_uuidEntry hwf.length_lt hwf.uuid_len h
  ⟨hs.1, hs.2⟩

/-- What `sdpu_extract_attr_seq` accepts is well formed, and what it leaves are the bytes after
the sequence, inside the parameters. -/
theorem sdpuExtractAttrSeq_wf {p rest : List UInt8} {paramLen : Nat} {seq : List AttrRange}
    (h : sdpuExtractAttrSeq p paramLen = some (seq, rest)) :
    AttrSeqWf seq ∧ ∃ n ≤ paramLen, rest = p.drop n := by
  dsimp only [sdpuExtractAttrSeq] at h
  split_ifs at h with h0 hty
  split at h
  · cases h
  rename_i k hk
  split_ifs at h with hk' hlen
  obtain ⟨seq', hseq, hres⟩ := Option.map_eq_some_iff.1 h
  simp only [Prod.mk.injEq] at hres
  obtain ⟨rfl, rfl⟩ := hres
  have hnil : AttrSeqWf [] := ⟨by simp [maxAttrPerSeq], by simp⟩
  refine ⟨hnil.of_extractAttrEntries hseq, _, ?_, by rw [List.drop_drop, List.drop_drop]⟩
  omega

/-- A UUID list's length field lies inside the parameters left. -/
theorem le_of_uidSeqHeader {size paramLen seqLen k : Nat} {p : List UInt8}
    (h : uidSeqHeader size p paramLen = some (seqLen, k)) : k ≤ paramLen := by
  unfold uidSeqHeader at h
  split_ifs at h
  · simp only [Option.some.injEq, Prod.mk.injEq] at h
    omega
  · simp only [Option.some.injEq, Prod.mk.injEq] at h
    omega
  · simp only [Option.some.injEq, Prod.mk.injEq] at h
    omega
  · split at h
    · cases h
    · split_ifs at h with hk
      simp only [Option.some.injEq, Prod.mk.injEq] at h
      omega

/-- What `sdpu_extract_uid_seq` accepts is well formed, and what it leaves are the bytes after
the list, inside the parameters. -/
theorem sdpuExtractUidSeq_wf {p rest : List UInt8} {paramLen : Nat} {seq : List (List UInt8)}
    (h : sdpuExtractUidSeq p paramLen = some (seq, rest)) :
    UidSeqWf seq ∧ ∃ n ≤ paramLen, rest = p.drop n := by
  dsimp only [sdpuExtractUidSeq] at h
  split_ifs at h with h0 hty
  split at h
  · cases h
  rename_i seqLen k hk
  have hkle := le_of_uidSeqHeader hk
  split_ifs at h with hlen
  obtain ⟨seq', hseq, hres⟩ := Option.map_eq_some_iff.1 h
  simp only [Prod.mk.injEq] at hres
  obtain ⟨rfl, rfl⟩ := hres
  have hnil : UidSeqWf [] := ⟨by simp [maxUuidsPerSeq], by simp⟩
  refine ⟨hnil.of_extractUidEntries hseq, _, ?_, by rw [List.drop_drop, List.drop_drop]⟩
  omega

/-! ## What they read back -/

theorem descByte_and_seven {type size : Nat} (ht : type < 32) (hs : size < 8) :
    (descByte type size).toNat &&& 7 = size := by
  rw [descByte_toNat ht hs, show (7 : Nat) = 2 ^ 3 - 1 from rfl, Nat.and_two_pow_sub_one_eq_mod]
  omega

theorem beValue_take_beBytes_two {a : Nat} (ha : a < 65536) (rest : List UInt8) :
    beValue ((beBytes 2 a ++ rest).take 2) = a := by
  rw [List.take_left' (length_beBytes 2 a), beValue_beBytes]
  omega

/-- The ids `sdpu_build_attrib_seq` writes read back as one range each. -/
theorem extractAttrEntries_ids {attrs : List Nat} (hid : ∀ a ∈ attrs, a < 65536) :
    ∀ {seq : List AttrRange}, seq.length + attrs.length < maxAttrPerSeq →
      extractAttrEntries seq
          (attrs.flatMap fun a => descByte uintDescType sizeTwoBytes :: beBytes 2 a) =
        some (seq ++ attrs.map fun a => ⟨a, a⟩) := by
  unfold extractAttrEntries
  induction attrs with
  | nil =>
    intro seq _
    simp [extractSeqEntries]
  | cons a attrs ih =>
    intro seq hlen
    set rest := attrs.flatMap fun a => descByte uintDescType sizeTwoBytes :: beBytes 2 a
    have ha : a < 65536 := hid a List.mem_cons_self
    have hty : (descByte uintDescType sizeTwoBytes).toNat >>> 3 = uintDescType :=
      descByte_shiftRight (by decide) (by decide)
    have hf : attrLenField ((descByte uintDescType sizeTwoBytes).toNat &&& 7)
        (beBytes 2 a ++ rest) =
        some (2, beBytes 2 a ++ rest) := by
      rw [descByte_and_seven (by decide) (by decide)]
      rfl
    have he : attrEntry 2 (beBytes 2 a ++ rest) = some ⟨a, a⟩ := by
      simp only [attrEntry, if_true, beValue_take_beBytes_two ha]
    simp only [List.length_cons] at hlen
    have hlen' : (seq ++ [(⟨a, a⟩ : AttrRange)]).length + attrs.length < maxAttrPerSeq := by
      simp only [List.length_append, List.length_singleton]
      omega
    rw [List.flatMap_cons, List.cons_append, extractSeqEntries_cons hty hf (by simp) he (by omega),
      List.drop_left' (length_beBytes 2 a),
      ih (fun b hb => hid b (List.mem_cons_of_mem a hb)) hlen']
    simp

theorem beValue_ofNat_single {n : Nat} (h : n < 256) : beValue [UInt8.ofNat n] = n := by
  simp only [beValue, List.reverse_singleton, leValue, Nat.mul_zero, Nat.add_zero]
  exact UInt8.toNat_ofNat_of_lt' (by simp only [UInt8.size]; omega)

/-- A sequence with a one-byte length, inside the parameters, reads as its list, whatever
follows it. -/
theorem sdpuExtractAttrSeq_byteHeader {body rest : List UInt8} {paramLen : Nat}
    (hb : body.length < 256) (hp : body.length + 2 ≤ paramLen) :
    sdpuExtractAttrSeq (descByte dataEleSeqDescType sizeInNextByte :: UInt8.ofNat body.length ::
      (body ++ rest)) paramLen = (extractAttrEntries [] body).map fun seq => (seq, rest) := by
  have hty : (descByte dataEleSeqDescType sizeInNextByte).toNat >>> 3 = dataEleSeqDescType :=
    descByte_shiftRight (by decide) (by decide)
  have hf : seqLenFieldBytes ((descByte dataEleSeqDescType sizeInNextByte).toNat &&& 7) =
      some 1 := by
    rw [descByte_and_seven (by decide) (by decide)]
    rfl
  dsimp only [sdpuExtractAttrSeq]
  rw [if_neg (by omega), List.headD_cons, if_neg (not_not.2 hty), hf]
  dsimp only
  rw [if_neg (by omega), List.drop_one, List.tail_cons, List.take_succ_cons, List.take_zero,
    beValue_ofNat_single hb, if_neg (by omega), List.drop_one, List.tail_cons, List.take_left' rfl,
    List.drop_left' rfl]

theorem length_attrIds (attrs : List Nat) :
    (attrs.flatMap fun a => descByte uintDescType sizeTwoBytes :: beBytes 2 a).length =
      attrs.length * 3 := by
  induction attrs with
  | nil => rfl
  | cons a attrs ih =>
    rw [List.flatMap_cons, List.length_append, ih, List.length_cons, length_beBytes,
      List.length_cons]
    omega

/-- `sdpu_extract_attr_seq` reads back the ids `sdpu_build_attrib_seq` writes, each as the range
of that one id, and stops right after them: for every list of fewer than `MAX_ATTR_PER_SEQ` 16-bit
ids and parameters that hold the sequence. -/
theorem sdpuExtractAttrSeq_build {attrs : List Nat} (hlen : attrs.length < maxAttrPerSeq)
    (hid : ∀ a ∈ attrs, a < 65536) (rest : List UInt8) {paramLen : Nat}
    (hp : (sdpuBuildAttribSeq (some attrs)).length ≤ paramLen) :
    sdpuExtractAttrSeq (sdpuBuildAttribSeq (some attrs) ++ rest) paramLen =
      some (attrs.map fun a => ⟨a, a⟩, rest) := by
  set body := attrs.flatMap fun a => descByte uintDescType sizeTwoBytes :: beBytes 2 a
  have hbody : body.length = attrs.length * 3 := length_attrIds attrs
  have hlen' : attrs.length < 16 := hlen
  -- fewer than sixteen ids take a one-byte length
  have hshape : sdpuBuildAttribSeq (some attrs) =
      descByte dataEleSeqDescType sizeInNextByte :: UInt8.ofNat body.length :: body := by
    have hxx : attrs.length * 3 % 65536 = body.length := by
      rw [hbody]
      exact Nat.mod_eq_of_lt (by omega)
    simp only [sdpuBuildAttribSeq, hxx, if_neg (show ¬body.length > 255 by omega),
      List.cons_append, List.nil_append, body]
  rw [hshape] at hp ⊢
  simp only [List.length_cons] at hp
  rw [List.cons_append, List.cons_append, sdpuExtractAttrSeq_byteHeader (by omega) (by omega),
    extractAttrEntries_ids hid (by simpa using hlen)]
  rfl

/-- The wildcard a client sends when it names no ids reads as the one range
`0x0000`-`0xFFFF`. -/
theorem sdpuExtractAttrSeq_wildcard (rest : List UInt8) {paramLen : Nat} (hp : 7 ≤ paramLen) :
    sdpuExtractAttrSeq (sdpuBuildAttribSeq none ++ rest) paramLen =
      some ([⟨0, 0xFFFF⟩], rest) := by
  set body := descByte uintDescType sizeFourBytes :: (beBytes 2 0 ++ beBytes 2 0xFFFF)
  have hshape : sdpuBuildAttribSeq none =
      descByte dataEleSeqDescType sizeInNextByte :: UInt8.ofNat body.length :: body := rfl
  have hty : (descByte uintDescType sizeFourBytes).toNat >>> 3 = uintDescType :=
    descByte_shiftRight (by decide) (by decide)
  have hf : attrLenField ((descByte uintDescType sizeFourBytes).toNat &&& 7)
      (beBytes 2 0 ++ beBytes 2 0xFFFF) = some (4, beBytes 2 0 ++ beBytes 2 0xFFFF) := by
    rw [descByte_and_seven (by decide) (by decide)]
    rfl
  have he : attrEntry 4 (beBytes 2 0 ++ beBytes 2 0xFFFF) = some ⟨0, 0xFFFF⟩ := by decide
  have hloop : extractAttrEntries [] body = some [⟨0, 0xFFFF⟩] := by
    unfold extractAttrEntries
    rw [extractSeqEntries_cons hty hf (by decide) he (by decide),
      List.drop_eq_nil_of_le (by simp), extractSeqEntries]
    rfl
  have hbody : body.length = 5 := rfl
  rw [hshape, List.cons_append, List.cons_append, sdpuExtractAttrSeq_byteHeader (by omega)
    (by omega), hloop]
  rfl

/-! ## The UUID list -/

theorem length_to128BitBE (u : Gatt.Uuid) : u.to128BitBE.length = 16 := by
  simp [Gatt.Uuid.to128BitBE]

theorem as32Bit_eq (u : Gatt.Uuid) : u.as32Bit = beValue (u.to128BitBE.take 4) := by
  rw [Gatt.Uuid.to128BitBE_take_four]
  simp only [Gatt.Uuid.as32Bit, beValue, leValue, List.reverse_cons, List.reverse_nil,
    List.nil_append, List.cons_append]
  omega

theorem as16Bit_eq (u : Gatt.Uuid) : u.as16Bit = beValue ((u.to128BitBE.drop 2).take 2) := by
  have h : (u.to128BitBE.drop 2).take 2 = (u.to128BitBE.take 4).drop 2 := by
    rw [List.drop_take]
  rw [h, Gatt.Uuid.to128BitBE_take_four]
  simp only [Gatt.Uuid.as16Bit, beValue, leValue, List.drop_succ_cons, List.drop_zero,
    List.reverse_cons, List.reverse_nil, List.nil_append, List.cons_append]
  omega

theorem beBytes_beValue_of_length {bs : List UInt8} {w : Nat} (h : bs.length = w) :
    beBytes w (beValue bs) = bs := by
  rw [← h, beBytes_beValue]

/-- Each UUID as `sdpu_build_uuid_seq` writes it: a UUID data element whose size code gives the
length of its value, 2, 4 or 16 bytes, a value that is the UUID in 128 bits. -/
theorem uuidElement_spec (u : Gatt.Uuid) :
    ∃ size v, uuidElement u = descByte uuidDescType size :: v ∧ size < 8 ∧
      (∀ p, uuidLenField size p = some (v.length, p)) ∧
      (v.length = 2 ∨ v.length = 4 ∨ v.length = 16) ∧ expandUuid v = u.to128BitBE := by
  have hL := length_to128BitBE u
  unfold uuidElement Gatt.Uuid.getShortestRepresentationSize
  by_cases h128 : u.uu.toList.drop Gatt.Uuid.kNumBytes32 =
      Gatt.Uuid.kBase.uu.toList.drop Gatt.Uuid.kNumBytes32
  · -- on the base UUID: the first four bytes tell the UUID
    have hdrop : u.to128BitBE.drop 4 = sdpBaseUuid.drop 4 := h128
    rw [if_neg (not_not.2 h128)]
    by_cases h0 : u.uu[0] = 0 ∧ u.uu[1] = 0
    · rw [if_pos h0, if_pos rfl]
      have hv : beBytes 2 u.as16Bit = (u.to128BitBE.drop 2).take 2 := by
        rw [as16Bit_eq]
        exact beBytes_beValue_of_length (by simp [hL])
      have htwo : u.to128BitBE.take 2 = [0, 0] := by
        have h : u.to128BitBE.take 2 = (u.to128BitBE.take 4).take 2 := by
          rw [List.take_take]
          rfl
        rw [h, Gatt.Uuid.to128BitBE_take_four, h0.1, h0.2]
        rfl
      refine ⟨sizeTwoBytes, beBytes 2 u.as16Bit, rfl, by decide, fun p => rfl,
        Or.inl (length_beBytes 2 _), ?_⟩
      rw [hv, expandUuid_of_length_two (by simp [hL]), ← htwo, ← hdrop, ← List.take_add,
        List.take_append_drop]
    · rw [if_neg h0, if_neg (by decide), if_pos rfl]
      refine ⟨sizeFourBytes, beBytes 4 u.as32Bit, rfl, by decide, fun p => rfl,
        Or.inr (Or.inl (length_beBytes 4 _)), ?_⟩
      rw [as32Bit_eq, beBytes_beValue_of_length (by simp [hL]),
        expandUuid_of_length_four (by simp [hL]), ← hdrop, List.take_append_drop]
  · -- all sixteen bytes
    rw [if_pos h128, if_neg (by decide), if_neg (by decide), if_pos rfl]
    exact ⟨sizeSixteenBytes, u.to128BitBE, rfl, by decide, fun p => by rw [hL]; rfl,
      Or.inr (Or.inr hL), expandUuid_of_length_sixteen hL⟩

/-- The UUIDs `sdpu_build_uuid_seq` writes read back, each as bytes that are the UUID in 128 bits
once expanded. -/
theorem extractUidEntries_uuids {uuids : List Gatt.Uuid} :
    ∀ {seq : List (List UInt8)}, seq.length + uuids.length < maxUuidsPerSeq →
      ∃ vs, extractUidEntries seq (uuids.flatMap uuidElement) = some (seq ++ vs) ∧
        List.Forall₂ (fun v u => expandUuid v = Gatt.Uuid.to128BitBE u) vs uuids := by
  unfold extractUidEntries
  induction uuids with
  | nil =>
    intro seq _
    exact ⟨[], by simp [extractSeqEntries], List.Forall₂.nil⟩
  | cons u uuids ih =>
    intro seq hlen
    obtain ⟨size, v, hel, hs, hf, hv, hexp⟩ := uuidElement_spec u
    set rest := uuids.flatMap uuidElement
    have hty : (descByte uuidDescType size).toNat >>> 3 = uuidDescType :=
      descByte_shiftRight (by decide) hs
    have hf' : uuidLenField ((descByte uuidDescType size).toNat &&& 7) (v ++ rest) =
        some (v.length, v ++ rest) := by
      rw [descByte_and_seven (by decide) hs]
      exact hf _
    have he : uuidEntry v.length (v ++ rest) = some v := by
      rw [uuidEntry, if_pos hv, List.take_left]
    simp only [List.length_cons] at hlen
    have hlen' : (seq ++ [v]).length + uuids.length < maxUuidsPerSeq := by
      simp only [List.length_append, List.length_singleton]
      omega
    obtain ⟨vs, hvs, hall⟩ := ih hlen'
    refine ⟨v :: vs, ?_, List.Forall₂.cons hexp hall⟩
    rw [List.flatMap_cons, hel, List.cons_append,
      extractSeqEntries_cons hty hf' (by simp) he (by omega), List.drop_left, hvs,
      List.append_assoc, List.singleton_append]

theorem length_uuidElement_le (u : Gatt.Uuid) : (uuidElement u).length ≤ 17 := by
  obtain ⟨size, v, hel, -, -, hv, -⟩ := uuidElement_spec u
  rw [hel, List.length_cons]
  omega

theorem length_uuids_le (uuids : List Gatt.Uuid) :
    (uuids.flatMap uuidElement).length ≤ 17 * uuids.length := by
  induction uuids with
  | nil => simp
  | cons u uuids ih =>
    rw [List.flatMap_cons, List.length_append, List.length_cons]
    have := length_uuidElement_le u
    omega

/-- A UUID list with a one-byte length, inside the parameters, reads as its UUIDs, whatever
follows it. -/
theorem sdpuExtractUidSeq_byteHeader {body rest : List UInt8} {paramLen : Nat}
    (hb : body.length < 256) (hp : body.length + 2 ≤ paramLen) :
    sdpuExtractUidSeq (descByte dataEleSeqDescType sizeInNextByte :: UInt8.ofNat body.length ::
      (body ++ rest)) paramLen = (extractUidEntries [] body).map fun seq => (seq, rest) := by
  have hty : (descByte dataEleSeqDescType sizeInNextByte).toNat >>> 3 = dataEleSeqDescType :=
    descByte_shiftRight (by decide) (by decide)
  have hsize : (descByte dataEleSeqDescType sizeInNextByte).toNat &&& 7 = sizeInNextByte :=
    descByte_and_seven (by decide) (by decide)
  have hhdr : uidSeqHeader sizeInNextByte (UInt8.ofNat body.length :: (body ++ rest))
      (paramLen - 1) = some (body.length, 1) := by
    have hk : seqLenFieldBytes sizeInNextByte = some 1 := rfl
    rw [uidSeqHeader, if_neg (by decide), if_neg (by decide), if_neg (by decide), hk]
    dsimp only
    rw [if_neg (by omega), List.take_succ_cons, List.take_zero, beValue_ofNat_single hb]
  dsimp only [sdpuExtractUidSeq]
  rw [if_neg (by omega), List.headD_cons, if_neg (not_not.2 hty), hsize, List.drop_one,
    List.tail_cons, hhdr]
  dsimp only
  rw [if_neg (by omega), List.drop_one, List.tail_cons, List.take_left' rfl, List.drop_left' rfl]

/-- `sdpu_extract_uid_seq` reads back the UUIDs `sdpu_build_uuid_seq` writes, in their order, and
stops right after them: fifteen UUIDs of seventeen bytes at most fit the one-byte length. -/
theorem sdpuExtractUidSeq_build {uuids : List Gatt.Uuid} (hlen : uuids.length < maxUuidsPerSeq)
    (rest : List UInt8) {paramLen : Nat} (hp : (sdpuBuildUuidSeq uuids).length ≤ paramLen) :
    ∃ vs, sdpuExtractUidSeq (sdpuBuildUuidSeq uuids ++ rest) paramLen = some (vs, rest) ∧
      List.Forall₂ (fun v u => expandUuid v = Gatt.Uuid.to128BitBE u) vs uuids := by
  have hlen' : uuids.length < 16 := hlen
  have hbody := length_uuids_le uuids
  have hnil : ([] : List (List UInt8)).length + uuids.length < maxUuidsPerSeq := by
    simpa using hlen
  obtain ⟨vs, hvs, hall⟩ := extractUidEntries_uuids hnil
  refine ⟨vs, ?_, hall⟩
  simp only [sdpuBuildUuidSeq, List.length_cons] at hp
  rw [sdpuBuildUuidSeq, List.cons_append, List.cons_append,
    sdpuExtractUidSeq_byteHeader (by omega) (by omega), hvs]
  rfl

/-- What the client writes, the server reads: for fewer than `MAX_ATTR_PER_SEQ` attribute ids, the
range of each id in their order, for the wildcard the range `0x0000`-`0xFFFF`, and for fewer than
`MAX_UUIDS_PER_SEQ` UUIDs, bytes that `sdpu_compare_uuid_arrays` finds equal to each UUID in
their order; each time the bytes after the list are left. -/
theorem request_lists_round_trip :
    (∀ (attrs : List Nat) (rest : List UInt8) (paramLen : Nat), attrs.length < maxAttrPerSeq →
        (∀ a ∈ attrs, a < 65536) → (sdpuBuildAttribSeq (some attrs)).length ≤ paramLen →
        sdpuExtractAttrSeq (sdpuBuildAttribSeq (some attrs) ++ rest) paramLen =
          some (attrs.map fun a => ⟨a, a⟩, rest)) ∧
      (∀ (rest : List UInt8) (paramLen : Nat), 7 ≤ paramLen →
        sdpuExtractAttrSeq (sdpuBuildAttribSeq none ++ rest) paramLen =
          some ([⟨0x0000, 0xFFFF⟩], rest)) ∧
      ∀ (uuids : List Gatt.Uuid) (rest : List UInt8) (paramLen : Nat),
        uuids.length < maxUuidsPerSeq → (sdpuBuildUuidSeq uuids).length ≤ paramLen →
        ∃ vs, sdpuExtractUidSeq (sdpuBuildUuidSeq uuids ++ rest) paramLen = some (vs, rest) ∧
          List.Forall₂ (fun v u => sdpuCompareUuidArrays v u.to128BitBE = true) vs uuids := by
  refine ⟨fun attrs rest _ hlen hid hp => sdpuExtractAttrSeq_build hlen hid rest hp,
    fun rest _ hp => sdpuExtractAttrSeq_wildcard rest hp, fun uuids rest _ hlen hp => ?_⟩
  obtain ⟨vs, hvs, hall⟩ := sdpuExtractUidSeq_build hlen rest hp
  refine ⟨vs, hvs, hall.imp fun {v u} hexp => ?_⟩
  -- a UUID's own bytes are its 128-bit form
  have hL := length_to128BitBE u
  rw [sdpuCompareUuidArrays_eq_decide (Or.inr (Or.inr hL)), expandUuid_of_length_sixteen hL, hexp]
  exact decide_eq_true rfl

/-- The serial port attributes `0x0001` and `0x0004`, the wildcard, and the serial port UUID, each
written alone with nothing after it. -/
theorem serialPort_request_round_trip :
    sdpuExtractAttrSeq (sdpuBuildAttribSeq (some [0x0001, 0x0004])) 8 =
        some ([⟨0x0001, 0x0001⟩, ⟨0x0004, 0x0004⟩], []) ∧
      sdpuExtractAttrSeq (sdpuBuildAttribSeq none) 7 = some ([⟨0x0000, 0xFFFF⟩], []) ∧
      ∃ vs, sdpuExtractUidSeq (sdpuBuildUuidSeq [Gatt.Uuid.from16Bit 0x1101]) 5 = some (vs, []) ∧
        List.Forall₂ (fun v u => sdpuCompareUuidArrays v u.to128BitBE = true) vs
          [Gatt.Uuid.from16Bit 0x1101] := by
  obtain ⟨hattrs, hwild, huuids⟩ := request_lists_round_trip
  have h₁ := hattrs [0x0001, 0x0004] [] 8 (by decide) (by decide) (by decide)
  have h₂ := hwild [] 7 (Nat.le_refl 7)
  have h₃ := huuids [Gatt.Uuid.from16Bit 0x1101] [] 5 (by decide) (by decide)
  rw [List.append_nil] at h₁ h₂ h₃
  exact ⟨h₁, h₂, h₃⟩

end BluetoothStack.Sdp
