import BluetoothStack.Types.Codecs

/-!
# The set identifiers in an advertising report

`CsisClientImpl::GetAllRsiFromAdvertising` (bta/csis/csis_client.cc) collects the Resolvable Set
Identifiers of an advertising report by calling `AdvertiseDataParser::GetFieldByType`
(stack/include/advertise_data_parser.h) again and again. Memory is a function from addresses to
bytes: the report is the `eir_len` bytes from address 0, and what follows is whatever memory
holds there.

`GetFieldByType` keeps to its window: it reads only the bytes it is given
(`getFieldByType_congr`), the data it points at lies inside them (`getFieldByType_bounds`), and
it finds the first AD structure of the type, walking the length bytes (`getFieldByType_eq_find`).
The caller does not keep to the report. `STREAM_TO_BDADDR` takes `p_service_data` by reference
and leaves it six bytes past the start of the data, so after a field whose data starts at `o`
with length `l` the next search starts at `o + 6 + l`, six bytes past the end of the field, and
covers `remaining - l` bytes, a window that ends `o + 6` bytes past the report, since `remaining`
counts from where the last search started (`getAllRsiFromAdvertising_next_window`). A structure
that begins in those six bytes is skipped, so a report with two RSI structures in a row gives one
address (`getAllRsiFromAdvertising_misses_second`); memory after the report can add addresses
(`getAllRsiFromAdvertising_reads_past`); and an address is read from a field of any length
(`getAllRsiFromAdvertising_short_field`).
-/

namespace BluetoothStack.Csis

/-- `BTM_BLE_AD_TYPE_RSI`. -/
def btmBleAdTypeRsi : UInt8 := 0x2E

/-- The loop of `GetFieldByType` from `position`, for `fuel` rounds at most. -/
def getFieldByTypeLoop (mem : Nat → UInt8) (ad adLen : Nat) (type : UInt8) :
    Nat → Nat → Option (Nat × UInt8)
  | 0, _ => none
  | fuel + 1, position =>
    if position = adLen then none
    else
      let len := mem (ad + position)
      if len = 0 then none
      else if position + len.toNat ≥ adLen then none
      else if mem (ad + position + 1) = type then some (ad + position + 2, len - 1)
      else getFieldByTypeLoop mem ad adLen type fuel (position + len.toNat + 1)

/-- `GetFieldByType(ad, ad_len, type, &length)`: the address of the data of a field of the type,
and its length, or `NULL`. Each round moves `position` on by two at least, so `ad_len` rounds are
enough (`getFieldByTypeLoop_succ`). -/
def getFieldByType (mem : Nat → UInt8) (ad adLen : Nat) (type : UInt8) : Option (Nat × UInt8) :=
  getFieldByTypeLoop mem ad adLen type adLen 0

/-- `STREAM_TO_BDADDR`: six bytes from `p`, stored from the last byte of the address down. -/
def streamToBdaddr (mem : Nat → UInt8) (p : Nat) : RawAddress :=
  ⟨Vector.ofFn fun j => mem (p + 5 - j.val)⟩

/-- The loop of `GetAllRsiFromAdvertising`: `p_service_data`, `remaining_data_len` and
`service_data_len` as the last round left them, `fuel` rounds at most; `none` when the fuel runs
out. -/
def getAllRsiLoop (mem : Nat → UInt8) : Nat → Nat → UInt16 → UInt8 → Option (List RawAddress)
  | 0, _, _, _ => none
  | fuel + 1, p, remainingDataLen, serviceDataLen =>
    let remainingDataLen := remainingDataLen - serviceDataLen.toUInt16
    match getFieldByType mem (p + serviceDataLen.toNat) remainingDataLen.toNat btmBleAdTypeRsi with
    | none => some []
    | some (q, len) =>
      -- `STREAM_TO_BDADDR(bda, p_service_data)` reads the address at `q` and moves
      -- `p_service_data` on by the six bytes it read
      (getAllRsiLoop mem fuel (q + 6) remainingDataLen len).map (streamToBdaddr mem q :: ·)

/-- `GetAllRsiFromAdvertising(result)` for a report of `eir_len` bytes at address 0. -/
def getAllRsiFromAdvertising (mem : Nat → UInt8) (eirLen : UInt16) (fuel : Nat) :
    Option (List RawAddress) :=
  getAllRsiLoop mem fuel 0 eirLen 0

/-! ## The AD structures of a report -/

/-- The bytes of memory from `ad`, `n` of them. -/
def slice (mem : Nat → UInt8) (ad n : Nat) : List UInt8 := (List.range n).map fun i => mem (ad + i)

/-- The AD structures of `b` as `GetFieldByType` walks its length bytes: where the data of each
starts, its type and its data. The walk stops at a zero length or at a structure that does not
fit. -/
def adStructuresFrom (b : List UInt8) : Nat → Nat → List (Nat × UInt8 × List UInt8)
  | 0, _ => []
  | fuel + 1, position =>
    if position = b.length then []
    else
      let len := b.getD position 0
      if len = 0 ∨ position + len.toNat ≥ b.length then []
      else (position + 2, b.getD (position + 1) 0, (b.drop (position + 2)).take (len.toNat - 1)) ::
        adStructuresFrom b fuel (position + len.toNat + 1)

def adStructures (b : List UInt8) : List (Nat × UInt8 × List UInt8) := adStructuresFrom b b.length 0

/-- The set identifiers a report carries: one address for each RSI structure of the report's AD
structures with six bytes of data at least, read from its first six as `STREAM_TO_BDADDR` reads
them. -/
def rsiOfStructures (b : List UInt8) : List RawAddress :=
  (adStructures b).filterMap fun s =>
    if s.2.1 = btmBleAdTypeRsi ∧ 6 ≤ s.2.2.length then
      some ⟨Vector.ofFn fun j => s.2.2.getD (5 - j.val) 0⟩
    else none

/-! ## `GetFieldByType` keeps to its window -/

section FieldByType

variable {mem : Nat → UInt8} {ad adLen : Nat} {type : UInt8}

/-- One more round changes nothing once the fuel covers what is left of the window: the fuel of
`getFieldByType` is the C loop's own bound. By induction on the fuel. -/
theorem getFieldByTypeLoop_succ :
    ∀ fuel position, adLen - position ≤ fuel →
      getFieldByTypeLoop mem ad adLen type (fuel + 1) position =
        getFieldByTypeLoop mem ad adLen type fuel position
  | 0, position, h => by
    simp only [getFieldByTypeLoop]
    split_ifs <;> first | rfl | omega
  | fuel + 1, position, h => by
    rw [getFieldByTypeLoop, getFieldByTypeLoop]
    dsimp only
    split_ifs
    · rfl
    · rfl
    · rfl
    · rfl
    · exact getFieldByTypeLoop_succ fuel _ (by omega)

/-- The loop reads only the window: two memories that agree on it give one answer. By induction
on the fuel, with `position ≤ ad_len` carried along. -/
theorem getFieldByTypeLoop_congr {mem' : Nat → UInt8} (h : ∀ i < adLen, mem (ad + i) = mem' (ad + i)) :
    ∀ fuel position, position ≤ adLen →
      getFieldByTypeLoop mem ad adLen type fuel position =
        getFieldByTypeLoop mem' ad adLen type fuel position
  | 0, _, _ => rfl
  | fuel + 1, position, hpos => by
    rw [getFieldByTypeLoop, getFieldByTypeLoop]
    by_cases hend : position = adLen
    · rw [if_pos hend, if_pos hend]
    · rw [if_neg hend, if_neg hend]
      have hlen : mem (ad + position) = mem' (ad + position) := h position (by omega)
      dsimp only
      rw [hlen]
      by_cases hzero : mem' (ad + position) = 0
      · rw [if_pos hzero, if_pos hzero]
      · rw [if_neg hzero, if_neg hzero]
        by_cases hfit : position + (mem' (ad + position)).toNat ≥ adLen
        · rw [if_pos hfit, if_pos hfit]
        · rw [if_neg hfit, if_neg hfit]
          -- the type byte lies before the end of the structure
          have htype : mem (ad + position + 1) = mem' (ad + position + 1) := by
            have hne : (mem' (ad + position)).toNat ≠ 0 := fun h0 =>
              hzero (UInt8.toNat_inj.1 (by rw [h0]; rfl))
            simpa only [Nat.add_assoc] using h (position + 1) (by omega)
          rw [htype, getFieldByTypeLoop_congr h fuel _ (by omega)]

theorem getFieldByType_congr {mem' : Nat → UInt8} (h : ∀ i < adLen, mem (ad + i) = mem' (ad + i)) :
    getFieldByType mem ad adLen type = getFieldByType mem' ad adLen type :=
  getFieldByTypeLoop_congr h _ _ (Nat.zero_le _)

/-- The data found lies inside the window, after its length and type bytes. -/
theorem getFieldByTypeLoop_bounds {q : Nat} {l : UInt8} :
    ∀ fuel position, getFieldByTypeLoop mem ad adLen type fuel position = some (q, l) →
      ad + position + 2 ≤ q ∧ q + l.toNat ≤ ad + adLen
  | 0, _, h => by cases h
  | fuel + 1, position, h => by
    rw [getFieldByTypeLoop] at h
    dsimp only at h
    split_ifs at h with hend hzero hfit
    · -- the structure of the type: its data is `len - 1` bytes after two header bytes
      cases h
      have hne : (mem (ad + position)).toNat ≠ 0 := fun h0 =>
        hzero (UInt8.toNat_inj.1 (by rw [h0]; rfl))
      rw [UInt8.toNat_sub_of_le _ _ (by
        rw [UInt8.le_iff_toNat_le]
        exact Nat.one_le_iff_ne_zero.2 hne)]
      simp only [UInt8.toNat_one]
      omega
    · have := getFieldByTypeLoop_bounds fuel _ h
      omega

theorem getFieldByType_bounds {q : Nat} {l : UInt8}
    (h : getFieldByType mem ad adLen type = some (q, l)) : ad + 2 ≤ q ∧ q + l.toNat ≤ ad + adLen :=
  getFieldByTypeLoop_bounds _ 0 h

@[simp] theorem length_slice (mem : Nat → UInt8) (ad n : Nat) : (slice mem ad n).length = n := by
  simp [slice]

theorem getD_slice {i n : Nat} (h : i < n) : (slice mem ad n).getD i 0 = mem (ad + i) := by
  simp [slice, List.getD_eq_getElem?_getD, h]

/-- The loop finds the first structure of the type that the walk over the window meets. By
induction on the fuel; both walks take the same steps. -/
theorem getFieldByTypeLoop_eq_find :
    ∀ fuel position, position ≤ adLen →
      (getFieldByTypeLoop mem ad adLen type fuel position).map (fun r => (r.1, r.2.toNat)) =
        ((adStructuresFrom (slice mem ad adLen) fuel position).find? (fun s => s.2.1 = type)).map
          fun s => (ad + s.1, s.2.2.length)
  | 0, _, _ => rfl
  | fuel + 1, position, hpos => by
    rw [getFieldByTypeLoop, adStructuresFrom, length_slice]
    by_cases hend : position = adLen
    · rw [if_pos hend, if_pos hend]
      rfl
    · rw [if_neg hend, if_neg hend, getD_slice (by omega)]
      dsimp only
      by_cases hstop : mem (ad + position) = 0 ∨ position + (mem (ad + position)).toNat ≥ adLen
      · rw [if_pos hstop]
        rcases hstop with hzero | hfit
        · rw [if_pos hzero]
          rfl
        · by_cases hzero : mem (ad + position) = 0
          · rw [if_pos hzero]
            rfl
          · rw [if_neg hzero, if_pos hfit]
            rfl
      · rw [if_neg hstop]
        obtain ⟨hzero, hfit⟩ := not_or.1 hstop
        rw [if_neg hzero, if_neg hfit]
        have hne : (mem (ad + position)).toNat ≠ 0 := fun h0 =>
          hzero (UInt8.toNat_inj.1 (by rw [h0]; rfl))
        have htype : (slice mem ad adLen).getD (position + 1) 0 = mem (ad + position + 1) := by
          rw [getD_slice (by omega), Nat.add_assoc]
        rw [htype, List.find?_cons]
        by_cases hmatch : mem (ad + position + 1) = type
        · -- the structure of the type: `len - 1` bytes of data, all inside the window
          rw [if_pos hmatch]
          simp only [hmatch, decide_true, Option.map_some, List.length_take, List.length_drop,
            length_slice]
          rw [UInt8.toNat_sub_of_le _ _ (by
            rw [UInt8.le_iff_toNat_le]
            exact Nat.one_le_iff_ne_zero.2 hne)]
          simp only [UInt8.toNat_one]
          -- the addresses agree; the data is not cut short by the window
          congr 2
          omega
        · rw [if_neg hmatch]
          simp only [hmatch, decide_false]
          exact getFieldByTypeLoop_eq_find fuel _ (by omega)

theorem getFieldByType_eq_find :
    (getFieldByType mem ad adLen type).map (fun r => (r.1, r.2.toNat)) =
      ((adStructures (slice mem ad adLen)).find? (fun s => s.2.1 = type)).map
        fun s => (ad + s.1, s.2.2.length) := by
  rw [getFieldByType, adStructures, length_slice]
  exact getFieldByTypeLoop_eq_find _ _ (Nat.zero_le _)

end FieldByType

/-! ## The caller leaves the report -/

/-- A window that starts at a zero length byte holds no field. -/
theorem getFieldByType_of_zero {mem : Nat → UInt8} {ad adLen : Nat} {type : UInt8}
    (h : mem ad = 0) : getFieldByType mem ad adLen type = none := by
  unfold getFieldByType
  cases adLen with
  | zero => rfl
  | succ n =>
    rw [getFieldByTypeLoop, if_neg (by omega)]
    simp only [Nat.add_zero, h, ↓reduceIte]

/-- After an RSI field whose data starts at `o` with `l` bytes, `STREAM_TO_BDADDR` has left
`p_service_data` at `o + 6`, and the next search covers `eir_len - l` bytes from `o + 6 + l`: it
starts six bytes past the end of the field and ends `o + 6` bytes past the report. -/
theorem getAllRsiFromAdvertising_next_window {mem : Nat → UInt8} {eirLen : UInt16} {o : Nat}
    {l : UInt8} (fuel : Nat) (h : getFieldByType mem 0 eirLen.toNat btmBleAdTypeRsi = some (o, l)) :
    getAllRsiFromAdvertising mem eirLen (fuel + 2) =
      (match getFieldByType mem (o + 6 + l.toNat) (eirLen - l.toUInt16).toNat btmBleAdTypeRsi with
        | none => some []
        | some (q, len) =>
          (getAllRsiLoop mem fuel (q + 6) (eirLen - l.toUInt16) len).map
            (streamToBdaddr mem q :: ·)).map
        (streamToBdaddr mem o :: ·) ∧
      (eirLen - l.toUInt16).toNat = eirLen.toNat - l.toNat ∧
      eirLen.toNat + (o + 6) = o + 6 + l.toNat + (eirLen - l.toUInt16).toNat := by
  have hbounds := getFieldByType_bounds h
  have hsub : (eirLen - l.toUInt16).toNat = eirLen.toNat - l.toNat := by
    rw [UInt16.toNat_sub_of_le _ _ (by
      rw [UInt16.le_iff_toNat_le, UInt8.toNat_toUInt16]
      omega), UInt8.toNat_toUInt16]
  refine ⟨?_, hsub, by omega⟩
  have hzero : eirLen - (0 : UInt8).toUInt16 = eirLen := UInt16.sub_zero eirLen
  simp only [getAllRsiFromAdvertising, getAllRsiLoop, hzero, UInt8.toNat_zero, Nat.add_zero, h]

/-- A report of sixteen bytes: two RSI structures in a row, each with six bytes of data. -/
def twoRsiReport : List UInt8 :=
  [7, 0x2E, 1, 2, 3, 4, 5, 6, 7, 0x2E, 0x11, 0x12, 0x13, 0x14, 0, 0x16]

/-- Whatever memory holds after it, a report with two RSI structures in a row gives one address:
the second search starts six bytes past the first structure, inside the second, and meets the
zero byte of its data as a length. -/
theorem getAllRsiFromAdvertising_misses_second {mem : Nat → UInt8}
    (hmem : ∀ i < 16, mem i = twoRsiReport.getD i 0) (fuel : Nat) :
    getAllRsiFromAdvertising mem 16 (fuel + 2) = some [streamToBdaddr mem 2] ∧
      (rsiOfStructures twoRsiReport).length = 2 := by
  have hfirst : getFieldByType mem 0 (16 : UInt16).toNat btmBleAdTypeRsi = some (2, 6) := by
    rw [show (16 : UInt16).toNat = 16 from rfl,
      @getFieldByType_congr mem 0 16 btmBleAdTypeRsi (fun i => twoRsiReport.getD i 0)
      (fun i hi => by rw [Nat.zero_add]; exact hmem i hi)]
    decide
  obtain ⟨hrun, -, -⟩ := getAllRsiFromAdvertising_next_window fuel hfirst
  have hnext : getFieldByType mem (2 + 6 + (6 : UInt8).toNat)
      ((16 : UInt16) - (6 : UInt8).toUInt16).toNat btmBleAdTypeRsi = none :=
    getFieldByType_of_zero (by
      rw [show 2 + 6 + (6 : UInt8).toNat = 14 from rfl, hmem 14 (by omega)]
      rfl)
  rw [hrun, hnext]
  exact ⟨rfl, by decide⟩

/-- A report of eight bytes: one AD structure, an RSI with six bytes of data. -/
def rsiReport : List UInt8 := [7, 0x2E, 1, 2, 3, 4, 5, 6]

/-- Memory after `rsiReport`: six bytes, then `01 2E`, an RSI structure of no data where the
second search starts. -/
def pastRsiReport : List UInt8 := [0, 0, 0, 0, 0, 0, 1, 0x2E]

/-- Two memories that hold the same report and differ after it give different answers, and the
one with `01 2E` six bytes after the report gets a second address, from a structure of no data
past the report, where the report holds one RSI structure. -/
theorem getAllRsiFromAdvertising_reads_past :
    (∀ i < 8, rsiReport.getD i 0 = (rsiReport ++ pastRsiReport).getD i 0) ∧
      (getAllRsiFromAdvertising (fun i => rsiReport.getD i 0) 8 4).map List.length = some 1 ∧
      (getAllRsiFromAdvertising (fun i => (rsiReport ++ pastRsiReport).getD i 0) 8 4).map
        List.length = some 2 ∧
      (rsiOfStructures rsiReport).length = 1 := by
  decide

/-- An RSI structure with one byte of data gives an address, read from the byte and the five
after it, past the end of a three-byte report. -/
theorem getAllRsiFromAdvertising_short_field :
    (getAllRsiFromAdvertising (fun i => [2, 0x2E, 9].getD i 0) 3 4).map List.length = some 1 ∧
      rsiOfStructures [2, 0x2E, 9] = [] := by
  decide

theorem rsi_search_leaves_report :
    (∀ (mem mem' : Nat → UInt8) (ad adLen : Nat) (type : UInt8),
      (∀ i < adLen, mem (ad + i) = mem' (ad + i)) →
        getFieldByType mem ad adLen type = getFieldByType mem' ad adLen type) ∧
    (∀ (mem : Nat → UInt8) (ad adLen : Nat) (type : UInt8) (q : Nat) (l : UInt8),
      getFieldByType mem ad adLen type = some (q, l) → ad + 2 ≤ q ∧ q + l.toNat ≤ ad + adLen) ∧
    (∀ (mem : Nat → UInt8) (ad adLen : Nat) (type : UInt8),
      (getFieldByType mem ad adLen type).map (fun r => (r.1, r.2.toNat)) =
        ((adStructures (slice mem ad adLen)).find? (fun s => s.2.1 = type)).map
          fun s => (ad + s.1, s.2.2.length)) ∧
    (∀ (mem : Nat → UInt8) (eirLen : UInt16) (o : Nat) (l : UInt8) (fuel : Nat),
      getFieldByType mem 0 eirLen.toNat btmBleAdTypeRsi = some (o, l) →
        getAllRsiFromAdvertising mem eirLen (fuel + 2) =
          (match getFieldByType mem (o + 6 + l.toNat) (eirLen - l.toUInt16).toNat
              btmBleAdTypeRsi with
            | none => some []
            | some (q, len) =>
              (getAllRsiLoop mem fuel (q + 6) (eirLen - l.toUInt16) len).map
                (streamToBdaddr mem q :: ·)).map
            (streamToBdaddr mem o :: ·) ∧
        eirLen.toNat + (o + 6) = o + 6 + l.toNat + (eirLen - l.toUInt16).toNat) ∧
    (∀ (mem : Nat → UInt8) (fuel : Nat), (∀ i < 16, mem i = twoRsiReport.getD i 0) →
      getAllRsiFromAdvertising mem 16 (fuel + 2) = some [streamToBdaddr mem 2]) ∧
    (rsiOfStructures twoRsiReport).length = 2 ∧
    (getAllRsiFromAdvertising (fun i => rsiReport.getD i 0) 8 4).map List.length = some 1 ∧
    (getAllRsiFromAdvertising (fun i => (rsiReport ++ pastRsiReport).getD i 0) 8 4).map
      List.length = some 2 ∧
    (rsiOfStructures rsiReport).length = 1 ∧
    (getAllRsiFromAdvertising (fun i => [2, 0x2E, 9].getD i 0) 3 4).map List.length = some 1 ∧
    rsiOfStructures [2, 0x2E, 9] = [] := by
  obtain ⟨-, hone, htwo, hspec⟩ := getAllRsiFromAdvertising_reads_past
  obtain ⟨hshort, hshortSpec⟩ := getAllRsiFromAdvertising_short_field
  refine ⟨fun _ _ _ _ _ h => getFieldByType_congr h, fun _ _ _ _ _ _ h => getFieldByType_bounds h,
    fun _ _ _ _ => getFieldByType_eq_find, fun _ _ _ _ fuel h => ?_,
    fun _ fuel hmem => (getAllRsiFromAdvertising_misses_second hmem fuel).1,
    (@getAllRsiFromAdvertising_misses_second (fun i => twoRsiReport.getD i 0)
      (fun _ _ => rfl) 0).2, hone, htwo, hspec, hshort, hshortSpec⟩
  obtain ⟨hrun, -, hend⟩ := getAllRsiFromAdvertising_next_window fuel h
  exact ⟨hrun, hend⟩

end BluetoothStack.Csis
