import BluetoothStack.LeAudio.Storage

/-!
# PAC records of a characteristic value

`ParsePacs` (bta/le_audio/client_parser.cc) reads the value of a Sink or Source PAC
characteristic: a record count, then that many records, each read by `ParseSinglePac`
(`parseSinglePac`, which the storage reads its records with too). `ParseSinglePac` returns the
length left after the record, and `ParsePacs` moves on by what it used.

The format is stated apart from the parser: a record is `RawPacRecord.bytes`, its codec id, its
capabilities after their length octet and its metadata after theirs, and it is well formed when
the capabilities are an LTV sequence (`LtvSeq`). `parsePacs_true_iff`: `ParsePacs` returns
`true` exactly on a value that starts with a count `n` and `n` well-formed records, and it then
appends their codec ids, parsed capabilities and metadata; whatever follows the last record is
not read. `parsePacs_append_middle`: it reads only the bytes of the value. Both rest on two
lemmas for one record, `parseSinglePac_bytes` (a record is read back) and
`parseSinglePac_nonneg` (what is read is a record), and `parsePacs_exact` gathers them.
-/

namespace BluetoothStack.LeAudio

open Bytes

/-- `kAcsPacDiscoverRspMinLen`: the record count. -/
def kAcsPacDiscoverRspMinLen : Nat := 1

/-- The loop of `ParsePacs`: `count` records from `pos` with `len` bytes left, each moving the
position on by what `ParseSinglePac` used of the length. -/
def parsePacsLoop (mem : List UInt8) :
    Nat → List AcsAcRecord → Nat → Nat → Bool × List AcsAcRecord
  | 0, pacRecs, _, _ => (true, pacRecs)
  | count + 1, pacRecs, len, pos =>
    let (remainingLen, pacRecs) := parseSinglePac pacRecs len mem pos
    if remainingLen < 0 then (false, pacRecs)
    else parsePacsLoop mem count pacRecs remainingLen.toNat (pos + (len - remainingLen.toNat))

/-- `ParsePacs` of the `len` bytes of `mem` from `pos`: whether it succeeded, and the records. -/
def parsePacs (pacRecs : List AcsAcRecord) (len : Nat) (mem : List UInt8) (pos : Nat) :
    Bool × List AcsAcRecord :=
  if len < kAcsPacDiscoverRspMinLen then (false, pacRecs)
  else
    let pacRecNb := (streamToUint8 mem pos).toNat
    parsePacsLoop mem pacRecNb pacRecs (len - kAcsPacDiscoverRspMinLen) (pos + 1)

/-! ## The format -/

/-- A PAC record as a characteristic value carries it. -/
structure RawPacRecord where
  codingFormat : UInt8
  vendorCompanyId : UInt16
  vendorCodecId : UInt16
  codecSpecCaps : List UInt8
  metadata : List UInt8

namespace RawPacRecord

/-- Its octets: the codec id (five octets), the length of the capabilities and the
capabilities, the length of the metadata and the metadata. -/
def bytes (r : RawPacRecord) : List UInt8 :=
  [r.codingFormat] ++ u16Bytes r.vendorCompanyId ++ u16Bytes r.vendorCodecId ++
    [UInt8.ofNat r.codecSpecCaps.length] ++ r.codecSpecCaps ++ [UInt8.ofNat r.metadata.length] ++
      r.metadata

/-- The lengths fit their octets and the capabilities are an LTV sequence. -/
structure WellFormed (r : RawPacRecord) : Prop where
  caps_lt : r.codecSpecCaps.length < 256
  metadata_lt : r.metadata.length < 256
  caps_ltv : LtvSeq r.codecSpecCaps

/-- The record it stands for: its codec id, its capabilities parsed as an LTV map, its
metadata. -/
def record (r : RawPacRecord) : AcsAcRecord :=
  ⟨⟨r.codingFormat, r.vendorCompanyId, r.vendorCodecId⟩,
    (LtvMap.parse r.codecSpecCaps 0 r.codecSpecCaps.length).1, r.metadata⟩

end RawPacRecord

/-! ## Reads inside a window of memory -/

section Window

variable {pre v after : List UInt8}

theorem streamToUint8_append_middle {q : Nat} (h : q < v.length) :
    streamToUint8 (pre ++ v ++ after) (pre.length + q) = streamToUint8 v q :=
  getD_append_middle h

theorem streamToU16_append_middle {q : Nat} (h : q + 2 ≤ v.length) :
    streamToU16 (pre ++ v ++ after) (pre.length + q) = streamToU16 v q := by
  unfold streamToU16 streamToUint16
  rw [load_append_middle h]

/-- `Parse` of `c` bytes of a string is `Parse` of those bytes alone. -/
theorem parse_eq_load {q c : Nat} (h : q + c ≤ v.length) :
    LtvMap.parse v q c = LtvMap.parse (load q c v) 0 c := by
  have hw : (load q c v).length = c := length_load_of_le h
  have hv : v = v.take q ++ load q c v ++ v.drop (q + c) := by
    rw [load, ← List.drop_drop, List.append_assoc, List.take_append_drop, List.take_append_drop]
  have hq : (v.take q).length = q := List.length_take_of_le (by omega)
  have hparse := LtvMap.parse_append_middle (v.take q) (load q c v) (v.drop (q + c))
  rw [hq, hw, ← hv] at hparse
  exact hparse

/-- `Parse` of `c` bytes inside the window reads them from the window. -/
theorem parse_append_window {q c : Nat} (h : q + c ≤ v.length) :
    LtvMap.parse (pre ++ v ++ after) (pre.length + q) c = LtvMap.parse v q c := by
  have hmem : pre.length + q + c ≤ (pre ++ v ++ after).length := by simp; omega
  rw [parse_eq_load hmem, load_append_middle h, ← parse_eq_load h]

/-- A byte string from `p` is `n` bytes loaded and then the rest from `q = p + n`. -/
theorem drop_eq_load_append {mem : List UInt8} {p n q : Nat} (hq : p + n = q) :
    mem.drop p = load p n mem ++ mem.drop q := by
  rw [load, ← hq, ← List.drop_drop, List.take_append_drop]

theorem load_one {mem : List UInt8} {p : Nat} (h : p < mem.length) :
    load p 1 mem = [streamToUint8 mem p] := by
  rw [load, List.drop_eq_getElem_cons h, List.take_succ_cons, List.take_zero]
  simp [streamToUint8, List.getD_eq_getElem?_getD, List.getElem?_eq_getElem h]

/-- A 16-bit field read with `STREAM_TO_UINT16` and written back with `UINT16_TO_STREAM` gives
its two bytes. -/
theorem u16Bytes_streamToU16 {mem : List UInt8} {p : Nat} (h : p + 2 ≤ mem.length) :
    u16Bytes (streamToU16 mem p) = load p 2 mem := by
  have hlen : (load p 2 mem).length = 2 := length_load_of_le h
  have hlt : leValue (load p 2 mem) < 2 ^ 16 := by
    have := leValue_lt (load p 2 mem)
    rw [hlen] at this
    exact this
  unfold u16Bytes streamToU16 streamToUint16 uint16ToStream
  have hround := leBytes_leValue (load p 2 mem)
  rw [hlen] at hround
  rw [UInt16.toNat_ofNat', Nat.mod_eq_of_lt hlt, hround]

end Window

/-- The bytes of a record laid out from the start of a string: the codec id, the
capabilities' length octet, `c` capability octets, the metadata's length octet, `k` metadata
octets and the rest. -/
theorem eq_recordLayout (v : List UInt8) (c k : Nat) :
    v = load 0 1 v ++ (load 1 2 v ++ (load 3 2 v ++ (load 5 1 v ++ (load 6 c v ++
      (load (6 + c) 1 v ++ (load (7 + c) k v ++ v.drop (7 + c + k))))))) := by
  conv_lhs => rw [← List.drop_zero (l := v)]
  rw [drop_eq_load_append (p := 0) (n := 1) (q := 1) rfl,
    drop_eq_load_append (p := 1) (n := 2) (q := 3) rfl,
    drop_eq_load_append (p := 3) (n := 2) (q := 5) rfl,
    drop_eq_load_append (p := 5) (n := 1) (q := 6) rfl,
    drop_eq_load_append (p := 6) (n := c) (q := 6 + c) rfl,
    drop_eq_load_append (p := 6 + c) (n := 1) (q := 7 + c) (by omega),
    drop_eq_load_append (p := 7 + c) (n := k) (q := 7 + c + k) rfl]

/-! ## One record -/

/-- `ParseSinglePac` reads a well-formed record back, returning the length after it. -/
theorem parseSinglePac_bytes (r : RawPacRecord) (hr : r.WellFormed) (rest : List UInt8)
    (got : List AcsAcRecord) :
    parseSinglePac got (r.bytes ++ rest).length (r.bytes ++ rest) 0 =
      ((rest.length : Int), got ++ [r.record]) := by
  obtain ⟨cf, company, codec, caps, md⟩ := r
  obtain ⟨hcaps, hmd, hltv⟩ := hr
  -- six octets of header, then the capabilities
  obtain ⟨hdr, hhdr⟩ : ∃ hdr : List UInt8, hdr = [cf] ++ u16Bytes company ++ u16Bytes codec ++
      [UInt8.ofNat caps.length] := ⟨_, rfl⟩
  have hlenHdr : hdr.length = 6 := by simp [hhdr]
  generalize hmem : RawPacRecord.bytes ⟨cf, company, codec, caps, md⟩ ++ rest = mem
  have hmem' : hdr ++ caps ++ ([UInt8.ofNat md.length] ++ md ++ rest) = mem := by
    simp [← hmem, hhdr, RawPacRecord.bytes]
  have hlen : mem.length = 7 + caps.length + md.length + rest.length := by
    rw [← hmem', List.length_append, List.length_append, hlenHdr]
    simp
    omega
  have h0 : streamToUint8 mem 0 = cf := by simp [← hmem', hhdr, streamToUint8]
  have h1 : streamToU16 mem 1 = company := by
    rw [streamToU16_eq_drop]
    simp [← hmem', hhdr]
  have h3 : streamToU16 mem 3 = codec := by
    rw [streamToU16_eq_drop]
    simp [← hmem', hhdr]
  have h5 : streamToUint8 mem 5 = UInt8.ofNat caps.length := by
    simp [← hmem', hhdr, streamToUint8, List.getElem?_append_right]
  have hparse : LtvMap.parse mem 6 caps.length = LtvMap.parse caps 0 caps.length := by
    rw [← hmem', show 6 = hdr.length + 0 by omega]
    exact parse_append_window (by omega)
  have hparsed : (LtvMap.parse caps 0 caps.length).2 = true := (LtvMap.parse_snd_iff caps).2 hltv
  have hk : streamToUint8 mem (6 + caps.length) = UInt8.ofNat md.length := by
    simp [← hmem', streamToUint8, hlenHdr]
  have hload : load (6 + caps.length + 1) md.length mem = md := by
    simp [← hmem', load, List.drop_append, List.drop_eq_nil_of_le, hlenHdr, Nat.add_assoc]
  unfold parseSinglePac
  simp only [kAcsPacRecordMinLen, kAcsPacMetadataLenLen, Nat.zero_add, h0, h1, h3, h5,
    toNat_ofNat_of_lt hcaps, hparse, hparsed, Bool.not_true, hk, toNat_ofNat_of_lt hmd, hload, hlen]
  -- the length checks pass, and what is left after the metadata is the rest
  rw [if_neg (by omega), if_neg (by omega), if_neg Bool.false_ne_true, if_neg (by omega)]
  exact Prod.ext (by simp only; omega) rfl


/-- `ParseSinglePac` reads only the `len` bytes it is given. The reads are compared one by one,
each once the check before it has passed. -/
theorem parseSinglePac_append_middle (pre v after : List UInt8) (got : List AcsAcRecord) :
    parseSinglePac got v.length (pre ++ v ++ after) pre.length = parseSinglePac got v.length v 0 := by
  unfold parseSinglePac
  simp only [kAcsPacRecordMinLen, kAcsPacMetadataLenLen, Nat.zero_add]
  by_cases h7 : v.length < 7
  · simp only [h7, if_true]
  simp only [h7, if_false]
  have h0 : streamToUint8 (pre ++ v ++ after) pre.length = streamToUint8 v 0 := by
    simpa using @streamToUint8_append_middle pre v after 0 (by omega)
  rw [h0, streamToU16_append_middle (by omega), streamToU16_append_middle (by omega),
    streamToUint8_append_middle (by omega)]
  generalize hc : (streamToUint8 v 5).toNat = c
  by_cases hcap : v.length - (7 - 1) < c + 1
  · simp only [hcap, if_true]
  simp only [hcap, if_false]
  rw [parse_append_window (by omega)]
  -- the metadata length octet and the metadata lie inside the window too
  have hk : streamToUint8 (pre ++ v ++ after) (pre.length + 6 + c) = streamToUint8 v (6 + c) := by
    rw [Nat.add_assoc]
    exact streamToUint8_append_middle (by omega)
  rw [hk]
  generalize hkdef : (streamToUint8 v (6 + c)).toNat = k
  by_cases hmeta : v.length - (7 - 1) - c - 1 < k
  · simp only [hmeta, if_true]
  simp only [hmeta, if_false]
  have hload : load (pre.length + 6 + c + 1) k (pre ++ v ++ after) = load (6 + c + 1) k v := by
    rw [show pre.length + 6 + c + 1 = pre.length + (6 + c + 1) by omega]
    exact load_append_middle (by omega)
  rw [hload]

/-- What a `ParseSinglePac` that returns a length read: a well-formed record, whose bytes start
the string, and the length is that of what follows it. Each refusal returns `-1`; past them the
record is laid out as `RawPacRecord.bytes` with the lengths the parser read. -/
theorem parseSinglePac_nonneg {v : List UInt8} {got recs : List AcsAcRecord} {r : Int}
    (h : parseSinglePac got v.length v 0 = (r, recs)) (hr : 0 ≤ r) :
    ∃ (rec : RawPacRecord) (rest : List UInt8), v = rec.bytes ++ rest ∧ rec.WellFormed ∧
      r = rest.length ∧ recs = got ++ [rec.record] := by
  unfold parseSinglePac at h
  simp only [kAcsPacRecordMinLen, kAcsPacMetadataLenLen, Nat.zero_add] at h
  by_cases h7 : v.length < 7
  · simp only [h7, if_true, Prod.mk.injEq] at h
    omega
  simp only [h7, if_false] at h
  generalize hc : (streamToUint8 v 5).toNat = c at h
  by_cases hcap : v.length - (7 - 1) < c + 1
  · simp only [hcap, if_true, Prod.mk.injEq] at h
    omega
  simp only [hcap, if_false] at h
  by_cases hparsed : (LtvMap.parse v 6 c).2 = true
  swap
  · simp only [hparsed, Bool.not_false, if_true, Prod.mk.injEq] at h
    omega
  simp only [hparsed, Bool.not_true, Bool.false_eq_true, if_false] at h
  generalize hk : (streamToUint8 v (6 + c)).toNat = k at h
  by_cases hmeta : v.length - (7 - 1) - c - 1 < k
  · simp only [hmeta, if_true, Prod.mk.injEq] at h
    omega
  simp only [hmeta, if_false, Prod.mk.injEq] at h
  obtain ⟨hr', hrecs⟩ := h
  have hcapLen : (load 6 c v).length = c := length_load_of_le (by omega)
  have hmdLen : (load (7 + c) k v).length = k := length_load_of_le (by omega)
  have hcaps : LtvMap.parse v 6 c = LtvMap.parse (load 6 c v) 0 (load 6 c v).length := by
    rw [hcapLen]
    exact parse_eq_load (by omega)
  -- the record, its fields taken where `ParseSinglePac` read them
  refine ⟨⟨streamToUint8 v 0, streamToU16 v 1, streamToU16 v 3, load 6 c v, load (7 + c) k v⟩,
    v.drop (7 + c + k), ?_, ⟨?_, ?_, ?_⟩, ?_, ?_⟩
  · have hc5 : UInt8.ofNat c = streamToUint8 v 5 := by rw [← hc, UInt8.ofNat_toNat]
    have hk6 : UInt8.ofNat k = streamToUint8 v (6 + c) := by rw [← hk, UInt8.ofNat_toNat]
    simp only [RawPacRecord.bytes, hcapLen, hmdLen, hc5, hk6,
      u16Bytes_streamToU16 (show 1 + 2 ≤ v.length by omega),
      u16Bytes_streamToU16 (show 3 + 2 ≤ v.length by omega), List.append_assoc]
    rw [← load_one (show 0 < v.length by omega), ← load_one (show 5 < v.length by omega),
      ← load_one (show 6 + c < v.length by omega)]
    exact eq_recordLayout v c k
  · rw [hcapLen, ← hc]
    exact UInt8.toNat_lt _
  · rw [hmdLen, ← hk]
    exact UInt8.toNat_lt _
  · exact (LtvMap.parse_snd_iff _).1 (hcaps ▸ hparsed)
  · rw [← hr', List.length_drop]
    omega
  · rw [← hrecs, RawPacRecord.record, ← hcaps, show 6 + c + 1 = 7 + c by omega]

/-! ## The records of a value -/

/-- The loop of `ParsePacs` reads only the bytes it is given. By induction on the records still
to read: a record that parses leaves a window of what follows it. -/
theorem parsePacsLoop_append_middle (count : Nat) :
    ∀ (pre v after : List UInt8) (pacRecs : List AcsAcRecord),
      parsePacsLoop (pre ++ v ++ after) count pacRecs v.length pre.length =
        parsePacsLoop v count pacRecs v.length 0 := by
  induction count with
  | zero => intro _ _ _ _; rfl
  | succ count ih =>
    intro pre v after pacRecs
    rw [parsePacsLoop, parsePacsLoop, parseSinglePac_append_middle]
    rcases hs : parseSinglePac pacRecs v.length v 0 with ⟨r, recs⟩
    dsimp only
    split_ifs with hr
    · rfl
    · obtain ⟨rec, rest, rfl, -, rfl, -⟩ := parseSinglePac_nonneg hs (by omega)
      simp only [Int.toNat_natCast, List.length_append, Nat.add_sub_cancel, Nat.zero_add]
      have hleft := ih (pre ++ rec.bytes) rest after recs
      have hright := ih rec.bytes rest [] recs
      rw [List.append_nil] at hright
      rw [List.length_append] at hleft
      simp only [List.append_assoc] at hleft hright ⊢
      rw [hleft, hright]

/-- `ParsePacs`'s loop reads well-formed records back, one after the other. By induction on the
records. -/
theorem parsePacsLoop_bytes (recs : List RawPacRecord) :
    ∀ (rest : List UInt8) (pacRecs : List AcsAcRecord), (∀ r ∈ recs, r.WellFormed) →
      parsePacsLoop (recs.flatMap RawPacRecord.bytes ++ rest) recs.length pacRecs
          (recs.flatMap RawPacRecord.bytes ++ rest).length 0 =
        (true, pacRecs ++ recs.map RawPacRecord.record) := by
  induction recs with
  | nil => intro _ _ _; simp [parsePacsLoop]
  | cons r recs ih =>
    intro rest pacRecs hwf
    have hmem : (r :: recs).flatMap RawPacRecord.bytes ++ rest =
        r.bytes ++ (recs.flatMap RawPacRecord.bytes ++ rest) := by simp
    rw [hmem, List.length_cons, parsePacsLoop, parseSinglePac_bytes r (hwf r List.mem_cons_self)]
    dsimp only
    rw [if_neg (by omega)]
    have hused : (r.bytes ++ (recs.flatMap RawPacRecord.bytes ++ rest)).length -
        (recs.flatMap RawPacRecord.bytes ++ rest).length = r.bytes.length := by simp
    rw [Int.toNat_natCast, hused, Nat.zero_add]
    -- the next record starts a window after this one
    have hshift := parsePacsLoop_append_middle recs.length r.bytes
      (recs.flatMap RawPacRecord.bytes ++ rest) [] (pacRecs ++ [r.record])
    rw [List.append_nil] at hshift
    rw [hshift, ih rest _ fun x hx => hwf x (List.mem_cons_of_mem _ hx)]
    simp

/-- What a loop of `ParsePacs` that succeeds read: as many well-formed records as it counted,
at the start of the string. By induction on the count, the record lemma at each step. -/
theorem parsePacsLoop_true (count : Nat) :
    ∀ (v : List UInt8) (pacRecs recs' : List AcsAcRecord),
      parsePacsLoop v count pacRecs v.length 0 = (true, recs') →
      ∃ (recs : List RawPacRecord) (rest : List UInt8), recs.length = count ∧
        v = recs.flatMap RawPacRecord.bytes ++ rest ∧ (∀ r ∈ recs, r.WellFormed) ∧
        recs' = pacRecs ++ recs.map RawPacRecord.record := by
  induction count with
  | zero =>
    intro v pacRecs recs' h
    simp only [parsePacsLoop, Prod.mk.injEq, true_and] at h
    exact ⟨[], v, rfl, rfl, by simp, by simp [h]⟩
  | succ count ih =>
    intro v pacRecs recs' h
    rw [parsePacsLoop] at h
    rcases hs : parseSinglePac pacRecs v.length v 0 with ⟨r, recs₁⟩
    rw [hs] at h
    dsimp only at h
    split_ifs at h with hr
    · simp at h
    · obtain ⟨rec, rest, rfl, hwf, rfl, rfl⟩ := parseSinglePac_nonneg hs (by omega)
      simp only [Int.toNat_natCast, List.length_append, Nat.add_sub_cancel, Nat.zero_add] at h
      have hshift := parsePacsLoop_append_middle count rec.bytes rest [] (pacRecs ++ [rec.record])
      rw [List.append_nil] at hshift
      rw [hshift] at h
      obtain ⟨recs, rest', hlen, rfl, hwfs, rfl⟩ := ih rest _ _ h
      refine ⟨rec :: recs, rest', by simp [hlen], by simp, fun x hx => ?_, by simp⟩
      rcases List.mem_cons.1 hx with rfl | hx
      · exact hwf
      · exact hwfs x hx

/-- `ParsePacs` of a value: the count octet, then the loop over the rest. -/
theorem parsePacs_cons (pacRecs : List AcsAcRecord) (b : UInt8) (tl : List UInt8) :
    parsePacs pacRecs (b :: tl).length (b :: tl) 0 = parsePacsLoop tl b.toNat pacRecs tl.length 0 := by
  unfold parsePacs
  rw [if_neg (by simp [kAcsPacDiscoverRspMinLen])]
  have hshift := parsePacsLoop_append_middle b.toNat [b] tl [] pacRecs
  simp only [List.append_nil, List.singleton_append, List.length_singleton] at hshift
  simpa [kAcsPacDiscoverRspMinLen, streamToUint8] using hshift

/-- `ParsePacs` reads only the bytes of the value it is given. -/
theorem parsePacs_append_middle (pacRecs : List AcsAcRecord) (pre value after : List UInt8) :
    parsePacs pacRecs value.length (pre ++ value ++ after) pre.length =
      parsePacs pacRecs value.length value 0 := by
  cases value with
  | nil =>
    -- too short for the count octet
    simp [parsePacs, kAcsPacDiscoverRspMinLen]
  | cons b tl =>
    rw [parsePacs_cons]
    unfold parsePacs
    rw [if_neg (by simp [kAcsPacDiscoverRspMinLen])]
    have hcount : streamToUint8 (pre ++ b :: (tl ++ after)) pre.length = b := by
      simp [streamToUint8]
    have hshift := parsePacsLoop_append_middle b.toNat (pre ++ [b]) tl after pacRecs
    simp only [List.append_assoc, List.singleton_append, List.length_append,
      List.length_singleton] at hshift
    simpa [kAcsPacDiscoverRspMinLen, hcount] using hshift

/-- `ParsePacs` succeeds exactly on a value that starts with a count and as many well-formed
records, and then appends those records. -/
theorem parsePacs_true_iff (pacRecs recs' : List AcsAcRecord) (value : List UInt8) :
    parsePacs pacRecs value.length value 0 = (true, recs') ↔
      ∃ (recs : List RawPacRecord) (rest : List UInt8), recs.length < 256 ∧
        value = UInt8.ofNat recs.length :: (recs.flatMap RawPacRecord.bytes ++ rest) ∧
        (∀ r ∈ recs, r.WellFormed) ∧ recs' = pacRecs ++ recs.map RawPacRecord.record := by
  constructor
  · intro h
    cases value with
    | nil => simp [parsePacs, kAcsPacDiscoverRspMinLen] at h
    | cons b tl =>
      rw [parsePacs_cons] at h
      obtain ⟨recs, rest, hlen, rfl, hwf, rfl⟩ := parsePacsLoop_true b.toNat tl pacRecs recs' h
      refine ⟨recs, rest, hlen ▸ b.toNat_lt, ?_, hwf, rfl⟩
      rw [hlen, UInt8.ofNat_toNat]
  · rintro ⟨recs, rest, hlt, rfl, hwf, rfl⟩
    rw [parsePacs_cons, toNat_ofNat_of_lt hlt]
    exact parsePacsLoop_bytes recs rest pacRecs hwf

/-- `ParsePacs` is bounded and exact: it reads only the bytes of the value, and it returns
`true` exactly on a value that starts with a record count and as many well-formed records,
appending those records. -/
theorem parsePacs_exact :
    (∀ (pacRecs : List AcsAcRecord) (pre value after : List UInt8),
      parsePacs pacRecs value.length (pre ++ value ++ after) pre.length =
        parsePacs pacRecs value.length value 0) ∧
    ∀ (pacRecs recs' : List AcsAcRecord) (value : List UInt8),
      parsePacs pacRecs value.length value 0 = (true, recs') ↔
        ∃ (recs : List RawPacRecord) (rest : List UInt8), recs.length < 256 ∧
          value = UInt8.ofNat recs.length :: (recs.flatMap RawPacRecord.bytes ++ rest) ∧
          (∀ r ∈ recs, r.WellFormed) ∧ recs' = pacRecs ++ recs.map RawPacRecord.record :=
  ⟨parsePacs_append_middle, parsePacs_true_iff⟩

end BluetoothStack.LeAudio
