import BluetoothStack.Lib.Bytes
import BluetoothStack.Lib.KeyList

/-!
# LTV maps of LE Audio

`LeAudioLtvMap` (bta/le_audio/le_audio_types.cc) holds codec capabilities and configurations as a
map from a type byte to a value, a `std::map<uint8_t, std::vector<uint8_t>>`: here the list of its
entries in increasing order of type, which the structure keeps as a field. `RawPacket` writes one
length-type-value triple per entry, the length byte counting the type and the value; `Parse` reads
them back, skipping a zero length, keeping the first value of a type (`std::map::emplace`) and
failing on a triple that runs past the end.

`parse_rawPacket`: what `RawPacket` writes, `Parse` reads back as the same map, when every value
is shorter than 255 bytes, so that its length byte holds it. The loop of `Parse` is taken apart
by one turn lemma per branch; from them, `Parse` reads only the bytes it is given
(`parse_append_middle`), and what it returns has short values and a raw packet no longer than
its input (`parse_true`), so that writing it and parsing again gives it back. `Append` assigns
the entries of the other map, which makes it the right-biased union (`find_append`).
`ltvMap_codec_laws` gathers these.
-/

namespace BluetoothStack.LeAudio

open Bytes

/-- `LeAudioLtvMap`: its entries in strictly increasing order of type. -/
@[ext] structure LtvMap where
  values : List (UInt8 × List UInt8)
  sorted : values.Pairwise fun a b => a.1 < b.1

/-- The byte strings `Parse` accepts, as a grammar: zero bytes, which it skips, and
length-type-value triples whose length byte counts the type and the value. -/
inductive LtvSeq : List UInt8 → Prop
  | nil : LtvSeq []
  | skip {rest : List UInt8} : LtvSeq rest → LtvSeq (0 :: rest)
  | entry {type : UInt8} {value rest : List UInt8} : value.length < 255 → LtvSeq rest →
      LtvSeq (UInt8.ofNat (value.length + 1) :: type :: (value ++ rest))

namespace LtvSeq

/-- What a nonempty sequence starts with: a zero byte or a triple. -/
theorem cases_cons {l : UInt8} {rest : List UInt8} (h : LtvSeq (l :: rest)) :
    (l = 0 ∧ LtvSeq rest) ∨ ∃ type value rest', value.length < 255 ∧
      l = UInt8.ofNat (value.length + 1) ∧ rest = type :: (value ++ rest') ∧ LtvSeq rest' := by
  generalize hs : l :: rest = s at h
  cases h with
  | nil => cases hs
  | skip h =>
    obtain ⟨rfl, rfl⟩ := List.cons.inj hs
    exact .inl ⟨rfl, h⟩
  | entry hlen h =>
    obtain ⟨rfl, rfl⟩ := List.cons.inj hs
    exact .inr ⟨_, _, _, hlen, rfl, rfl, h⟩

theorem zero_cons_iff {rest : List UInt8} : LtvSeq (0 :: rest) ↔ LtvSeq rest := by
  refine ⟨fun h => ?_, skip⟩
  rcases cases_cons h with ⟨-, h⟩ | ⟨type, value, rest', hlen, hzero, -, -⟩
  · exact h
  · -- a length byte of a triple is never zero: it counts at most 255 bytes
    have := congrArg UInt8.toNat hzero
    rw [UInt8.toNat_ofNat', Nat.mod_eq_of_lt (by omega)] at this
    simp at this

/-- A sequence that starts with a nonzero length byte: the triple fits, and a sequence follows
it. -/
theorem cons_iff {l : UInt8} {rest : List UInt8} (hl : l ≠ 0) :
    LtvSeq (l :: rest) ↔ l.toNat ≤ rest.length ∧ LtvSeq (rest.drop l.toNat) := by
  constructor
  · intro h
    rcases cases_cons h with ⟨hzero, -⟩ | ⟨type, value, rest', hlen, rfl, rfl, hrest⟩
    · exact absurd hzero hl
    · have hbyte : (UInt8.ofNat (value.length + 1)).toNat = value.length + 1 := by
        rw [UInt8.toNat_ofNat', Nat.mod_eq_of_lt (by omega)]
      rw [hbyte]
      simpa using hrest
  · rintro ⟨hfit, h⟩
    have hpos : 0 < l.toNat := by
      rcases Nat.eq_zero_or_pos l.toNat with h0 | h0
      · exact absurd (UInt8.toNat_inj.1 h0) hl
      · exact h0
    obtain ⟨type, tl, rfl⟩ : ∃ type tl, rest = type :: tl := by
      cases rest with
      | nil => simp at hfit; omega
      | cons type tl => exact ⟨type, tl, rfl⟩
    -- the value is what the length byte counts after the type
    have hvalue : (tl.take (l.toNat - 1)).length = l.toNat - 1 := by
      simp at hfit ⊢
      omega
    have hbyte : UInt8.ofNat ((tl.take (l.toNat - 1)).length + 1) = l := by
      rw [hvalue, Nat.sub_add_cancel hpos, UInt8.ofNat_toNat]
    have hrest : (type :: tl).drop l.toNat = tl.drop (l.toNat - 1) := by
      rw [show l.toNat = l.toNat - 1 + 1 by omega, List.drop_succ_cons, Nat.add_sub_cancel]
    have hentry := @entry type (tl.take (l.toNat - 1)) (tl.drop (l.toNat - 1))
      (by have := l.toNat_lt; omega) (hrest ▸ h)
    rwa [hbyte, List.take_append_drop] at hentry

end LtvSeq

namespace LtvMap

instance : DecidableEq LtvMap := fun a b =>
  decidable_of_iff (a.values = b.values) ⟨LtvMap.ext, fun h => h ▸ rfl⟩

/-- The map without entries. -/
def empty : LtvMap := ⟨[], .nil⟩

/-- `values.emplace`: the entry is added unless the type has one already. -/
def emplace (m : LtvMap) (type : UInt8) (value : List UInt8) : LtvMap :=
  ⟨KeyList.emplace type value m.values, KeyList.pairwise_emplace m.sorted⟩

/-- The triple `RawPacket` writes for one entry: the length of the type and value, the type,
the value. -/
def entryBytes (e : UInt8 × List UInt8) : List UInt8 :=
  UInt8.ofNat (e.2.length + 1) :: e.1 :: e.2

/-- `RawPacketSize`. -/
def rawPacketSize (m : LtvMap) : Nat := (m.values.map fun e => 2 + e.2.length).sum

/-- `RawPacket`: the triples of the entries in order of type. -/
def rawPacket (m : LtvMap) : List UInt8 := m.values.flatMap entryBytes

/-- The loop of `Parse` over the bytes of `mem` from `pos` to `pEnd`, adding the entries to `acc`;
`none` where a triple runs past `pEnd`. -/
def parseLoop (mem : List UInt8) (pEnd : Nat) (acc : LtvMap) (pos : Nat) : Option LtvMap :=
  if pEnd - pos > 0 then
    let ltvLen := (mem.getD pos 0).toNat
    -- "unusual, but possible": a zero length is skipped
    if ltvLen = 0 then parseLoop mem pEnd acc (pos + 1)
    else if pEnd < pos + 1 + ltvLen then none
    else
      let ltvType := mem.getD (pos + 1) 0
      parseLoop mem pEnd (acc.emplace ltvType (load (pos + 2) (ltvLen - 1) mem)) (pos + 1 + ltvLen)
  else some acc
termination_by pEnd - pos

/-- `Parse` of the `len` bytes of `mem` from `pos`: the map and `success`. -/
def parse (mem : List UInt8) (pos len : Nat) : LtvMap × Bool :=
  if len > 0 then
    match parseLoop mem (pos + len) empty pos with
    | some m => (m, true)
    | none => (empty, false)
  else (empty, true)

/-- `Find`: the value of the entry for `type`, which `find_if` looks for. -/
def find (m : LtvMap) (type : UInt8) : Option (List UInt8) := m.values.lookup type

/-- `Append`: every entry of `other` assigned in turn, `values[el.first] = el.second`, which
overrides the value a type had. -/
def append (m other : LtvMap) : LtvMap :=
  ⟨other.values.foldl (fun acc el => KeyList.assign el.1 el.2 acc) m.values,
    KeyList.pairwise_foldl_assign other.values m.sorted⟩

/-- `values[type] = value`: the entry for `type` set to `value`. -/
def assign (m : LtvMap) (type : UInt8) (value : List UInt8) : LtvMap :=
  ⟨KeyList.assign type value m.values, KeyList.pairwise_assign m.sorted⟩

/-- Assigning an entry adds at most its triple to `RawPacketSize`. -/
theorem rawPacketSize_assign_le (m : LtvMap) (type : UInt8) (value : List UInt8) :
    (m.assign type value).rawPacketSize ≤ m.rawPacketSize + (2 + value.length) :=
  KeyList.sum_map_assign_le (fun e => 2 + e.2.length) type value m.values

/-! ## One turn of the loop of `Parse` -/

section Turn

variable {mem : List UInt8} {pEnd pos : Nat} {acc : LtvMap}

theorem parseLoop_end (h : pEnd ≤ pos) : parseLoop mem pEnd acc pos = some acc := by
  rw [parseLoop, if_neg (by omega)]

/-- A zero length byte is skipped. -/
theorem parseLoop_skip (h : pos < pEnd) (hzero : (mem.getD pos 0).toNat = 0) :
    parseLoop mem pEnd acc pos = parseLoop mem pEnd acc (pos + 1) := by
  rw [parseLoop, if_pos (by omega)]
  simp only [hzero, if_true]

/-- A triple whose length runs past the end fails the loop. -/
theorem parseLoop_overrun (h : pos < pEnd) (hlen : (mem.getD pos 0).toNat ≠ 0)
    (hover : pEnd < pos + 1 + (mem.getD pos 0).toNat) : parseLoop mem pEnd acc pos = none := by
  rw [parseLoop, if_pos (by omega)]
  simp only [hlen, if_false, hover, if_true]

/-- A triple within the end is emplaced and the loop goes on after it. -/
theorem parseLoop_entry (h : pos < pEnd) (hlen : (mem.getD pos 0).toNat ≠ 0)
    (hfit : pos + 1 + (mem.getD pos 0).toNat ≤ pEnd) :
    parseLoop mem pEnd acc pos =
      parseLoop mem pEnd (acc.emplace (mem.getD (pos + 1) 0)
        (load (pos + 2) ((mem.getD pos 0).toNat - 1) mem)) (pos + 1 + (mem.getD pos 0).toNat) := by
  rw [parseLoop, if_pos (by omega)]
  simp only [hlen, if_false, if_neg (by omega : ¬ pEnd < pos + 1 + (mem.getD pos 0).toNat)]

end Turn

/-- The bytes of one triple take two bytes more than its value. -/
@[simp] theorem length_entryBytes (e : UInt8 × List UInt8) :
    (entryBytes e).length = 2 + e.2.length := by
  simp [entryBytes]
  omega

/-- `RawPacketSize` is the length of `RawPacket`. -/
theorem length_rawPacket (m : LtvMap) : m.rawPacket.length = m.rawPacketSize := by
  simp [rawPacket, rawPacketSize, List.length_flatMap]

/-- `Parse` reads the triple of an entry whose value is shorter than 255 bytes and goes on after
it. -/
theorem parseLoop_entryBytes {pre rest : List UInt8} {e : UInt8 × List UInt8} {acc : LtvMap}
    {pEnd : Nat} (he : e.2.length < 255) (hend : pre.length + 2 + e.2.length ≤ pEnd) :
    parseLoop (pre ++ entryBytes e ++ rest) pEnd acc pre.length =
      parseLoop (pre ++ entryBytes e ++ rest) pEnd (acc.emplace e.1 e.2)
        (pre.length + 2 + e.2.length) := by
  have hlen : (UInt8.ofNat (e.2.length + 1)).toNat = e.2.length + 1 := by
    rw [UInt8.toNat_ofNat', Nat.mod_eq_of_lt (by omega)]
  have hbyte0 : (pre ++ entryBytes e ++ rest).getD pre.length 0 = UInt8.ofNat (e.2.length + 1) := by
    simp [entryBytes]
  have hbyte1 : (pre ++ entryBytes e ++ rest).getD (pre.length + 1) 0 = e.1 := by
    simp [entryBytes]
  have hvalue : load (pre.length + 2) (e.2.length + 1 - 1) (pre ++ entryBytes e ++ rest) = e.2 := by
    simp [load, entryBytes, List.drop_append, List.take_append]
  rw [parseLoop, if_pos (by omega)]
  simp only [hbyte0, hlen, Nat.add_one_ne_zero, if_false, hbyte1, hvalue]
  rw [if_neg (by omega)]
  congr 1
  omega

/-- `Parse` reads the triples of entries in increasing order of type, each value shorter than 255
bytes, and adds them after the entries it holds, whose types are below theirs. By induction on
the entries, one triple a step. -/
theorem parseLoop_flatMap (rest : List UInt8) (es : List (UInt8 × List UInt8)) :
    ∀ (pre : List UInt8) (acc : LtvMap), (∀ e ∈ es, e.2.length < 255) →
      (acc.values ++ es).Pairwise (fun a b => a.1 < b.1) →
      (parseLoop (pre ++ es.flatMap entryBytes ++ rest)
          (pre.length + (es.map fun e => 2 + e.2.length).sum) acc pre.length).map values =
        some (acc.values ++ es) := by
  induction es with
  | nil =>
    intro pre acc _ _
    rw [parseLoop, if_neg (by simp)]
    simp
  | cons e es ih =>
    intro pre acc hlen hsorted
    have he := hlen e List.mem_cons_self
    -- the entries held are below `e`, which goes at their end
    have hbelow : ∀ a ∈ acc.values, a.1 < e.1 := fun a ha =>
      (List.pairwise_append.1 hsorted).2.2 a ha e List.mem_cons_self
    have hemplace : (acc.emplace e.1 e.2).values = acc.values ++ [e] :=
      KeyList.emplace_of_lt hbelow
    have hmem : pre ++ (e :: es).flatMap entryBytes ++ rest =
        pre ++ entryBytes e ++ (es.flatMap entryBytes ++ rest) := by simp
    have hmem' : pre ++ (e :: es).flatMap entryBytes ++ rest =
        (pre ++ entryBytes e) ++ es.flatMap entryBytes ++ rest := by simp
    have hend : pre.length + ((e :: es).map fun e => 2 + e.2.length).sum =
        (pre ++ entryBytes e).length + (es.map fun e => 2 + e.2.length).sum := by
      simp only [List.map_cons, List.sum_cons, List.length_append, length_entryBytes]
      omega
    rw [hmem, parseLoop_entryBytes he (by rw [hend]; simp; omega), ← hmem, hmem', hend]
    have hnext : pre.length + 2 + e.2.length = (pre ++ entryBytes e).length := by simp; omega
    rw [hnext, ih _ _ (fun x hx => hlen x (List.mem_cons_of_mem _ hx)) (by simpa [hemplace]),
      hemplace]
    simp

/-- What `RawPacket` writes, `Parse` reads back as the same map, when every value is shorter than
255 bytes. -/
theorem parse_rawPacket (m : LtvMap) (pre rest : List UInt8)
    (hm : ∀ e ∈ m.values, e.2.length < 255) :
    parse (pre ++ m.rawPacket ++ rest) pre.length m.rawPacketSize = (m, true) := by
  unfold parse
  split
  · have hrun := parseLoop_flatMap rest m.values pre empty hm (by simpa [empty] using m.sorted)
    obtain ⟨m', hm', hvalues⟩ := Option.map_eq_some_iff.1 hrun
    have : m' = m := LtvMap.ext (by simpa [empty] using hvalues)
    rw [rawPacket, rawPacketSize, hm', this]
  · -- no bytes: the map has no entries
    rename_i hzero
    have hnil : m.values = [] := by
      cases hv : m.values with
      | nil => rfl
      | cons e es => simp [rawPacketSize, hv] at hzero
    rw [show m = empty from LtvMap.ext hnil]

/-! ## What `Parse` reads and what it returns -/

/-- `Parse` reads only the bytes it is given: the loop over a part of memory runs as on that
part alone. By functional induction on the loop over the part alone, which unfolds that side at
each step; a turn lemma unfolds the other. -/
theorem parseLoop_append_middle (pre s after : List UInt8) :
    ∀ (acc : LtvMap) (pos : Nat), pos ≤ s.length →
      parseLoop (pre ++ s ++ after) (pre.length + s.length) acc (pre.length + pos) =
        parseLoop s s.length acc pos := by
  intro acc pos
  fun_induction parseLoop s s.length acc pos with
  | case1 acc pos hpos ltvLen hzero ih =>
    intro _
    simp only [ltvLen] at hzero
    have hbyte : (pre ++ s ++ after).getD (pre.length + pos) 0 = s.getD pos 0 :=
      getD_append_middle (by omega)
    rw [parseLoop_skip (by omega) (by rw [hbyte]; exact hzero), Nat.add_assoc, ih (by omega)]
  | case2 acc pos hpos ltvLen hzero hover =>
    intro _
    simp only [ltvLen] at hzero hover
    have hbyte : (pre ++ s ++ after).getD (pre.length + pos) 0 = s.getD pos 0 :=
      getD_append_middle (by omega)
    rw [parseLoop_overrun (by omega) (by rw [hbyte]; exact hzero) (by rw [hbyte]; omega)]
  | case3 acc pos hpos ltvLen hzero hfit ltvType ih =>
    intro _
    simp only [ltvLen] at hzero hfit
    have hbyte : (pre ++ s ++ after).getD (pre.length + pos) 0 = s.getD pos 0 :=
      getD_append_middle (by omega)
    -- the type byte and the value lie inside the part
    have htype : (pre ++ s ++ after).getD (pre.length + pos + 1) 0 = s.getD (pos + 1) 0 := by
      rw [Nat.add_assoc]
      exact getD_append_middle (by omega)
    have hvalue : load (pre.length + pos + 2) ((s.getD pos 0).toNat - 1) (pre ++ s ++ after) =
        load (pos + 2) ((s.getD pos 0).toNat - 1) s := by
      rw [Nat.add_assoc]
      exact load_append_middle (by omega)
    rw [parseLoop_entry (by omega) (by rw [hbyte]; exact hzero) (by rw [hbyte]; omega), hbyte,
      htype, hvalue, show pre.length + pos + 1 + (s.getD pos 0).toNat =
        pre.length + (pos + 1 + (s.getD pos 0).toNat) by omega]
    exact ih (by omega)
  | case4 acc pos hpos =>
    intro _
    rw [parseLoop_end (by omega)]

/-- `Parse` of a byte string anywhere in memory is `Parse` of the string alone. -/
theorem parse_append_middle (pre s after : List UInt8) :
    parse (pre ++ s ++ after) pre.length s.length = parse s 0 s.length := by
  unfold parse
  have hloop := parseLoop_append_middle pre s after empty 0 (Nat.zero_le _)
  rw [Nat.add_zero] at hloop
  rw [hloop, Nat.zero_add]

/-- A value `Parse` reads is shorter than 255 bytes: its length byte counts the type too. -/
theorem parseLoop_values_lt {mem : List UInt8} {pEnd : Nat} {acc m : LtvMap} {pos : Nat}
    (h : parseLoop mem pEnd acc pos = some m) (hacc : ∀ e ∈ acc.values, e.2.length < 255) :
    ∀ e ∈ m.values, e.2.length < 255 := by
  fun_induction parseLoop mem pEnd acc pos with
  | case1 acc pos hpos ltvLen hzero ih => exact ih h hacc
  | case2 acc pos hpos ltvLen hzero hover => cases h
  | case3 acc pos hpos ltvLen hzero hfit ltvType ih =>
    refine ih h fun e he => ?_
    rcases KeyList.mem_emplace he with rfl | he
    · -- the new value: at most the length byte less one
      have hbyte := (mem.getD pos 0).toNat_lt
      have := length_load (pos + 2) ((mem.getD pos 0).toNat - 1) mem
      simp only [ltvLen] at this ⊢
      omega
    · exact hacc e he
  | case4 acc pos hpos =>
    cases h
    exact hacc

/-- Emplacing an entry adds at most its triple to `RawPacketSize`. -/
theorem rawPacketSize_emplace_le (m : LtvMap) (type : UInt8) (value : List UInt8) :
    (m.emplace type value).rawPacketSize ≤ m.rawPacketSize + (2 + value.length) :=
  KeyList.sum_map_emplace_le (fun e => 2 + e.2.length) type value m.values

/-- The map `Parse` reads takes no more room as a raw packet than the bytes it was read from:
each triple read costs at least what it writes back, and a skipped byte or an entry dropped as a
duplicate type costs nothing. -/
theorem rawPacketSize_parseLoop {mem : List UInt8} {pEnd : Nat} {acc m : LtvMap} {pos : Nat}
    (h : parseLoop mem pEnd acc pos = some m) :
    m.rawPacketSize ≤ acc.rawPacketSize + (pEnd - pos) := by
  fun_induction parseLoop mem pEnd acc pos with
  | case1 acc pos hpos ltvLen hzero ih =>
    have := ih h
    omega
  | case2 acc pos hpos ltvLen hzero hover => cases h
  | case3 acc pos hpos ltvLen hzero hfit ltvType ih =>
    have hnext := ih h
    have hgrow := rawPacketSize_emplace_le acc (mem.getD (pos + 1) 0)
      (load (pos + 2) ((mem.getD pos 0).toNat - 1) mem)
    have hvalue := length_load (pos + 2) ((mem.getD pos 0).toNat - 1) mem
    simp only [ltvLen, ltvType] at hnext hfit hzero
    omega
  | case4 acc pos hpos =>
    cases h
    omega

/-- What a successful `Parse` of `len` bytes returns: values shorter than 255 bytes and a raw
packet of at most `len` bytes. -/
theorem parse_true {mem : List UInt8} {pos len : Nat} {m : LtvMap}
    (h : parse mem pos len = (m, true)) :
    (∀ e ∈ m.values, e.2.length < 255) ∧ m.rawPacketSize ≤ len := by
  unfold parse at h
  split at h
  · split at h
    · rename_i m' hloop
      obtain rfl : m' = m := (Prod.mk.inj h).1
      have hsize := rawPacketSize_parseLoop hloop
      have hempty : empty.rawPacketSize = 0 := rfl
      exact ⟨parseLoop_values_lt hloop (by simp [empty]), by omega⟩
    · cases h
  · obtain rfl : empty = m := (Prod.mk.inj h).1
    exact ⟨by simp [empty], by simp [empty, rawPacketSize]⟩

/-- `Append` is the right-biased union: a type of `other` finds its value there, any other type
its value in `m`. -/
theorem find_append (m other : LtvMap) (type : UInt8) :
    (m.append other).find type = (other.find type).or (m.find type) :=
  KeyList.lookup_foldl_assign type other.values m.values
    (other.sorted.imp UInt8.ne_of_lt)

/-! ## What `Parse` accepts -/

theorem drop_eq_getD_cons {mem : List UInt8} {pos : Nat} (h : pos < mem.length) :
    mem.drop pos = mem.getD pos 0 :: mem.drop (pos + 1) := by
  rw [List.drop_eq_getElem_cons h, List.getD_eq_getElem?_getD, List.getElem?_eq_getElem h,
    Option.getD_some]

/-- The loop of `Parse` gets through the rest of a string exactly when that rest is an LTV
sequence. By functional induction on the loop, the grammar's inversion lemmas at each turn. -/
theorem parseLoop_isSome_iff (s : List UInt8) (acc : LtvMap) (pos : Nat) :
    (parseLoop s s.length acc pos).isSome = true ↔ LtvSeq (s.drop pos) := by
  fun_induction parseLoop s s.length acc pos with
  | case1 acc pos hpos ltvLen hzero ih =>
    have hbyte : s.getD pos 0 = 0 := UInt8.toNat_inj.1 hzero
    rw [ih, drop_eq_getD_cons (show pos < s.length by omega), hbyte, LtvSeq.zero_cons_iff]
  | case2 acc pos hpos ltvLen hzero hover =>
    simp only [ltvLen] at hzero hover
    have hne : s.getD pos 0 ≠ 0 := fun h => hzero (by rw [h]; rfl)
    rw [drop_eq_getD_cons (show pos < s.length by omega), LtvSeq.cons_iff hne, List.length_drop]
    simp only [Option.isSome_none, Bool.false_eq_true, false_iff, not_and]
    intro hfit
    omega
  | case3 acc pos hpos ltvLen hzero hfit ltvType ih =>
    simp only [ltvLen] at hzero hfit
    have hne : s.getD pos 0 ≠ 0 := fun h => hzero (by rw [h]; rfl)
    rw [ih, drop_eq_getD_cons (show pos < s.length by omega), LtvSeq.cons_iff hne,
      List.length_drop, List.drop_drop]
    exact ⟨fun h => ⟨by omega, h⟩, fun h => h.2⟩
  | case4 acc pos hpos =>
    rw [List.drop_eq_nil_of_le (by omega)]
    exact ⟨fun _ => .nil, fun _ => rfl⟩

/-- `Parse` of a whole string succeeds exactly on the LTV sequences. -/
theorem parse_snd_iff (s : List UInt8) : (parse s 0 s.length).2 = true ↔ LtvSeq s := by
  unfold parse
  split
  · have hloop := parseLoop_isSome_iff s empty 0
    rw [List.drop_zero] at hloop
    rw [Nat.zero_add, ← hloop]
    cases parseLoop s s.length empty 0 <;> rfl
  · rename_i hzero
    rw [List.eq_nil_of_length_eq_zero (by omega : s.length = 0)]
    exact ⟨fun _ => .nil, fun _ => rfl⟩

end LtvMap

open LtvMap in
/-- The laws of the LTV map: a map with values of at most 254 bytes and a raw packet of at most
255 bytes (the `uint8_t` length `Parse` takes) is written in `RawPacketSize` bytes and parsed
back; `Parse` reads only the bytes it is given; what it reads it writes back in at most as many
bytes and parses back the same; `Append` is the right-biased union. -/
theorem ltvMap_codec_laws :
    (∀ m : LtvMap, (∀ e ∈ m.values, e.2.length ≤ 254) → m.rawPacketSize ≤ 255 →
        m.rawPacket.length = m.rawPacketSize ∧
          parse m.rawPacket 0 (m.rawPacketSize % 256) = (m, true)) ∧
      (∀ pre s after : List UInt8,
        parse (pre ++ s ++ after) pre.length s.length = parse s 0 s.length) ∧
      (∀ (s : List UInt8) (m : LtvMap), s.length ≤ 255 → parse s 0 s.length = (m, true) →
        m.rawPacketSize ≤ 255 ∧ parse m.rawPacket 0 (m.rawPacketSize % 256) = (m, true)) ∧
      ∀ (m other : LtvMap) (type : UInt8),
        (m.append other).find type = (other.find type).or (m.find type) := by
  refine ⟨fun m hval hsize => ?_, parse_append_middle, fun s m hs h => ?_, find_append⟩
  · have hround := parse_rawPacket m [] [] fun e he => Nat.lt_of_le_of_lt (hval e he) (by decide)
    rw [List.nil_append, List.append_nil, List.length_nil] at hround
    rw [Nat.mod_eq_of_lt (by omega)]
    exact ⟨length_rawPacket m, hround⟩
  · -- what `Parse` returned fits the conditions of the first law
    obtain ⟨hval, hsize⟩ := parse_true h
    have hround := parse_rawPacket m [] [] hval
    rw [List.nil_append, List.append_nil, List.length_nil] at hround
    rw [Nat.mod_eq_of_lt (by omega)]
    exact ⟨by omega, hround⟩

end BluetoothStack.LeAudio
