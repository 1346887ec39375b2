import BluetoothStack.Gatt.Client
import BluetoothStack.L2cap.Types

/-!
# Read Multiple responses of the GATT server

A Read Multiple Request names handles; the server reads each value (`gatt_process_read_multi_req`),
queues the answers in `multi_rsp_q` as they come (`process_read_multi_rsp`), and once there is one
for every handle builds the response (`build_read_multi_rsp`) in a buffer of `mtu` bytes: the
opcode, then the values in order, each after its 2-byte length in the variable-length form. A
value that would pass the MTU is cut to `value_len - (total_len - mtu)` bytes and ends the
response.

That length is computed in a `uint16_t`. In the fixed form it is what is left of the MTU and the
response stays inside its buffer (`multiRsp_fixed_safe`). In the variable form the length prefix
is counted in `total_len` too, and a value that comes when the response holds `mtu - 1` or `mtu`
bytes gets a length of `0xFFFF` or `0xFFFE`: the prefix is written past the MTU and `memcpy` reads
that many bytes from a value of at most `GATT_MAX_ATTR_LEN`. `readMulti_safe_iff` says exactly
when a response is safe: no value the loop comes to starts less than its prefix before the end of
the MTU. The response's length itself wraps back to the MTU.

`MultiRsp` keeps, beside the buffer, how far the writes reached and how many bytes each `memcpy`
read against the length of its value; the storage keeps only the bytes that fall inside it. The
handle and permission checks of the request, and a response with an error status, which answers
the request at once, are not modelled past `process_read_multi_rsp`.
-/

namespace BluetoothStack.Gatt

open Bytes

/-- `GATT_RSP_READ_MULTI`. -/
def gattRspReadMulti : Nat := 0x0F
/-- `GATT_RSP_READ_MULTI_VAR`. -/
def gattRspReadMultiVar : Nat := 0x21
/-- `GATT_MAX_MTU_SIZE`. -/
def gattMaxMtuSize : Nat := 517

/-- `tGATT_READ_MULTI`: the handles to read, in order, and whether the request is a Read
Multiple Variable Length Request. -/
structure ReadMulti where
  handles : List Nat
  variableLen : Bool

/-- The response `build_read_multi_rsp` assembles in `p_buf`: the write pointer `p` as an offset
into the message, one past the furthest byte of the message a write reached, and for each
`memcpy` the bytes it read with the length of the value it read them from. -/
structure MultiRsp where
  buf : BtHdr
  p : Nat
  reach : Nat
  reads : List (Nat × Nat)

namespace MultiRsp

/-- Write `bytes`, `count` bytes as the source counts them, at `p`. -/
def write (b : MultiRsp) (bytes : List UInt8) (count : Nat) : MultiRsp :=
  { b with
    buf := { b.buf with data := store (b.buf.offset + b.p) bytes b.buf.data }
    reach := max b.reach (b.p + count) }

/-- `UINT16_TO_STREAM(p, len); p_buf->len += 2`. -/
def putLen (b : MultiRsp) (len : Nat) : MultiRsp :=
  let b := b.write (uint16ToStream len) 2
  { b with p := b.p + 2, buf := { b.buf with len := (b.buf.len + 2) % 65536 } }

/-- `memcpy(p, p_rsp->attr_value.value, len); if (!is_overflow) p += len; p_buf->len += len`. -/
def copyValue (b : MultiRsp) (v : GattValue) (len : Nat) (isOverflow : Bool) : MultiRsp :=
  let b := b.write (load 0 len v.value) len
  { b with
    p := if isOverflow then b.p else b.p + len
    buf := { b.buf with len := (b.buf.len + len) % 65536 }
    reads := b.reads ++ [(len, v.len)] }

end MultiRsp

/-- The length prefix of a value in a variable-length response. -/
def lenFieldSize (variableLen : Bool) : Nat := if variableLen then 2 else 0

/-- `total_len`: the response with the value and, in the variable form, its length prefix, in a
`uint16_t`. -/
def multiTotalLen (variableLen : Bool) (bufLen vLen : Nat) : Nat :=
  (bufLen + vLen + lenFieldSize variableLen) % 65536

/-- `len`: the bytes of a value of `vLen` bytes the response takes, all of them unless
`total_len` passes the MTU, else `value_len - (total_len - mtu)` in a `uint16_t`. -/
def multiValueLen (mtu totalLen vLen : Nat) : Nat :=
  if totalLen > mtu then (((vLen : Int) - ((totalLen : Int) - mtu)) % 65536).toNat else vLen

/-- The loop of `build_read_multi_rsp` over the handles of the request and the responses queued
in `multi_rsp_q`, in order: each value, after its length in the variable form, until one passes
the MTU or a response is missing or for another handle; the status the loop sets, if any. -/
def buildLoop (variableLen : Bool) (mtu : Nat) :
    List Nat → List GattValue → MultiRsp → MultiRsp × Option GattStatus
  | [], _, b => (b, none)
  | _ :: _, [], b => (b, some .notFound)
  | handle :: handles, rsp :: rsps, b =>
    let totalLen := multiTotalLen variableLen b.buf.len rsp.len
    let len := multiValueLen mtu totalLen rsp.len
    let b := if variableLen then b.putLen len else b
    if rsp.handle = handle then
      -- `is_overflow`: the value is cut and the loop stops after it
      let b := b.copyValue rsp len (decide (totalLen > mtu))
      if totalLen > mtu then (b, none) else buildLoop variableLen mtu handles rsps b
    else (b, some .notFound)

/-- Where the values the loop comes to start, for values after a prefix of `extra` bytes: the loop
goes on after a value of the handle that fits. -/
def entryStarts (extra mtu : Nat) : Nat → List Nat → List GattValue → List Nat
  | _, [], _ => []
  | _, _ :: _, [] => []
  | s, handle :: handles, rsp :: rsps =>
    s :: (if s + extra + rsp.len > mtu ∨ rsp.handle ≠ handle then []
      else entryStarts extra mtu (s + extra + rsp.len) handles rsps)

/-- The writes stay inside the `mtu` bytes of the message and each `memcpy` inside its value. -/
def MultiRsp.Safe (mtu : Nat) (b : MultiRsp) : Prop :=
  b.reach ≤ mtu ∧ ∀ x ∈ b.reads, x.1 ≤ x.2

/-- Between values: the write pointer and the length agree at `s`, nothing was written past it,
and every value read was read inside. -/
structure Aligned (b : MultiRsp) (s : Nat) : Prop where
  p_eq : b.p = s
  len_eq : b.buf.len = s
  reach_le : b.reach ≤ s
  reads_ok : ∀ x ∈ b.reads, x.1 ≤ x.2

namespace MultiRsp

@[simp] theorem write_p (b : MultiRsp) (bytes : List UInt8) (count : Nat) :
    (b.write bytes count).p = b.p := rfl
@[simp] theorem write_len (b : MultiRsp) (bytes : List UInt8) (count : Nat) :
    (b.write bytes count).buf.len = b.buf.len := rfl
@[simp] theorem write_reach (b : MultiRsp) (bytes : List UInt8) (count : Nat) :
    (b.write bytes count).reach = max b.reach (b.p + count) := rfl
@[simp] theorem write_reads (b : MultiRsp) (bytes : List UInt8) (count : Nat) :
    (b.write bytes count).reads = b.reads := rfl

@[simp] theorem putLen_p (b : MultiRsp) (len : Nat) : (b.putLen len).p = b.p + 2 := rfl
@[simp] theorem putLen_len (b : MultiRsp) (len : Nat) :
    (b.putLen len).buf.len = (b.buf.len + 2) % 65536 := rfl
@[simp] theorem putLen_reach (b : MultiRsp) (len : Nat) :
    (b.putLen len).reach = max b.reach (b.p + 2) := rfl
@[simp] theorem putLen_reads (b : MultiRsp) (len : Nat) : (b.putLen len).reads = b.reads := rfl

@[simp] theorem copyValue_p (b : MultiRsp) (v : GattValue) (len : Nat) (isOverflow : Bool) :
    (b.copyValue v len isOverflow).p = if isOverflow then b.p else b.p + len := rfl
@[simp] theorem copyValue_len (b : MultiRsp) (v : GattValue) (len : Nat) (isOverflow : Bool) :
    (b.copyValue v len isOverflow).buf.len = (b.buf.len + len) % 65536 := rfl
@[simp] theorem copyValue_reach (b : MultiRsp) (v : GattValue) (len : Nat) (isOverflow : Bool) :
    (b.copyValue v len isOverflow).reach = max b.reach (b.p + len) := rfl
@[simp] theorem copyValue_reads (b : MultiRsp) (v : GattValue) (len : Nat) (isOverflow : Bool) :
    (b.copyValue v len isOverflow).reads = b.reads ++ [(len, v.len)] := rfl

end MultiRsp

/-- The length prefix moves the write pointer and the length on together. -/
theorem Aligned.putLen {b : MultiRsp} {s : Nat} (hb : Aligned b s) (hs : s + 2 < 65536)
    (len : Nat) : Aligned (b.putLen len) (s + 2) where
  p_eq := by simp [hb.p_eq]
  len_eq := by simp [hb.len_eq, Nat.mod_eq_of_lt hs]
  reach_le := by simp [hb.p_eq]; have := hb.reach_le; omega
  reads_ok := by simpa using hb.reads_ok

/-- A value copied whole, or as much of it as `len` asks, leaves the response aligned. -/
theorem Aligned.copyValue {b : MultiRsp} {s len : Nat} {v : GattValue} (hb : Aligned b s)
    (hs : s + len < 65536) (hlen : len ≤ v.len) :
    Aligned (b.copyValue v len false) (s + len) where
  p_eq := by simp [hb.p_eq]
  len_eq := by simp [hb.len_eq, Nat.mod_eq_of_lt hs]
  reach_le := by simp [hb.p_eq]; have := hb.reach_le; omega
  reads_ok := by
    intro x hx
    simp only [MultiRsp.copyValue_reads, List.mem_append, List.mem_singleton] at hx
    rcases hx with hx | rfl
    · exact hb.reads_ok x hx
    · exact hlen

/-- The length prefix of the variable form, or nothing. -/
theorem Aligned.lenPrefix {b : MultiRsp} {s : Nat} (hb : Aligned b s) (hs : s + 2 < 65536)
    (variableLen : Bool) (len : Nat) :
    Aligned (if variableLen then b.putLen len else b) (s + lenFieldSize variableLen) := by
  cases variableLen
  · exact hb
  · exact hb.putLen hs len

theorem Aligned.safe {b : MultiRsp} {s mtu : Nat} (hb : Aligned b s) (hs : s ≤ mtu) :
    b.Safe mtu :=
  ⟨by have := hb.reach_le; omega, hb.reads_ok⟩

/-- Cut to the MTU: what is left of it after the response so far and the length prefix. -/
theorem multiValueLen_cut {mtu s e vLen : Nat} (hmtu : mtu < 65536) (hover : s + e + vLen > mtu)
    (hfit : s + e ≤ mtu) : multiValueLen mtu (s + e + vLen) vLen = mtu - s - e := by
  rw [multiValueLen, if_pos hover]
  omega

theorem MultiRsp.not_safe {mtu : Nat} {b : MultiRsp} (h : mtu < b.reach) : ¬b.Safe mtu :=
  fun hs => by have := hs.1; omega

section Turn

variable {variableLen : Bool} {mtu handle : Nat} {handles : List Nat} {rsp : GattValue}
  {rsps : List GattValue} {b : MultiRsp}

-- this part and the inductions after it take the loop a step at a time: the equations of the
-- loop and of its lengths are generated here, once
attribute [local simp] buildLoop entryStarts lenFieldSize multiTotalLen multiValueLen

/-- A value that fits is copied whole and the loop goes on. -/
theorem buildLoop_cons_fits (hmatch : rsp.handle = handle)
    (hfit : ¬multiTotalLen variableLen b.buf.len rsp.len > mtu) :
    buildLoop variableLen mtu (handle :: handles) (rsp :: rsps) b =
      buildLoop variableLen mtu handles rsps
        ((if variableLen then b.putLen rsp.len else b).copyValue rsp rsp.len false) := by
  simp only [buildLoop, multiValueLen, if_neg hfit, if_pos hmatch, decide_eq_false hfit]

/-- A value that passes the MTU is copied as far as `len` says, and the loop stops. -/
theorem buildLoop_cons_overflow (hmatch : rsp.handle = handle)
    (hover : multiTotalLen variableLen b.buf.len rsp.len > mtu) :
    buildLoop variableLen mtu (handle :: handles) (rsp :: rsps) b =
      ((if variableLen then
          b.putLen (multiValueLen mtu (multiTotalLen variableLen b.buf.len rsp.len) rsp.len)
        else b).copyValue rsp
        (multiValueLen mtu (multiTotalLen variableLen b.buf.len rsp.len) rsp.len) true, none) := by
  simp only [buildLoop, if_pos hmatch, if_pos hover, decide_eq_true hover]

/-- A response for another handle stops the loop with `GATT_NOT_FOUND`, after the length prefix. -/
theorem buildLoop_cons_mismatch (hmatch : rsp.handle ≠ handle) :
    buildLoop variableLen mtu (handle :: handles) (rsp :: rsps) b =
      (if variableLen then b.putLen (multiValueLen mtu (multiTotalLen variableLen b.buf.len rsp.len)
          rsp.len) else b, some .notFound) := by
  simp only [buildLoop, if_neg hmatch]

end Turn

/-- The loop from an aligned response stays safe exactly when each value it comes to starts at
least its prefix before the end of the MTU. The induction is on the handles; a value that fits
leaves the response aligned further on, one that passes the MTU is cut to what is left, unless
the prefix already passes it. -/
theorem buildLoop_safe_iff {variableLen : Bool} {mtu : Nat} (hmtu : mtu ≤ gattMaxMtuSize) :
    ∀ (handles : List Nat) (rsps : List GattValue) (b : MultiRsp) (s : Nat),
      (∀ r ∈ rsps, r.len ≤ gattMaxAttrLen) → Aligned b s → s ≤ mtu →
      ((buildLoop variableLen mtu handles rsps b).1.Safe mtu ↔
        ∀ t ∈ entryStarts (lenFieldSize variableLen) mtu s handles rsps,
          t + lenFieldSize variableLen ≤ mtu) := by
  intro handles
  induction handles with
  | nil =>
    intro rsps b s _ hb hs
    simp [buildLoop, entryStarts, hb.safe hs]
  | cons handle handles ih =>
    intro rsps b s hlen hb hs
    cases rsps with
    | nil => simp [buildLoop, entryStarts, hb.safe hs]
    | cons rsp rsps =>
      have hr : rsp.len ≤ gattMaxAttrLen := hlen rsp List.mem_cons_self
      have hrest : ∀ r ∈ rsps, r.len ≤ gattMaxAttrLen :=
        fun r h => hlen r (List.mem_cons_of_mem _ h)
      have he : lenFieldSize variableLen ≤ 2 := by
        unfold lenFieldSize
        split <;> omega
      have hmtu' : mtu ≤ 517 := hmtu
      have hr' : rsp.len ≤ 512 := hr
      have htot : multiTotalLen variableLen b.buf.len rsp.len =
          s + lenFieldSize variableLen + rsp.len := by
        rw [multiTotalLen, hb.len_eq, Nat.mod_eq_of_lt (by omega)]
        omega
      -- after the length prefix, if any, the response is aligned at `s + lenFieldSize variableLen`
      have hpre := hb.lenPrefix (by omega) variableLen
      by_cases hmatch : rsp.handle = handle
      · by_cases hover : s + lenFieldSize variableLen + rsp.len > mtu
        · rw [buildLoop_cons_overflow hmatch (by rw [htot]; exact hover), htot]
          simp only [entryStarts, if_pos (Or.inl hover), List.mem_singleton, forall_eq]
          by_cases hfit : s + lenFieldSize variableLen ≤ mtu
          · -- the value is cut to what is left of the MTU
            rw [multiValueLen_cut (by omega) hover hfit]
            refine iff_of_true ⟨?_, fun x hx => ?_⟩ hfit
            · have := (hpre (mtu - s - lenFieldSize variableLen)).reach_le
              simp only [MultiRsp.copyValue_reach, (hpre _).p_eq]
              omega
            · simp only [MultiRsp.copyValue_reads, List.mem_append, List.mem_singleton] at hx
              rcases hx with hx | rfl
              · exact (hpre _).reads_ok x hx
              · show mtu - s - lenFieldSize variableLen ≤ rsp.len
                omega
          · -- the length wraps: the prefix already passes the MTU
            cases variableLen with
            | false => simp [lenFieldSize] at hfit; omega
            | true =>
              refine iff_of_false (MultiRsp.not_safe ?_) hfit
              simp only [if_true, MultiRsp.copyValue_reach, MultiRsp.putLen_reach, hb.p_eq]
              simp only [lenFieldSize, if_true] at hfit
              omega
        · rw [buildLoop_cons_fits hmatch (by rw [htot]; exact hover)]
          have hb' := (hpre rsp.len).copyValue (v := rsp) (by omega) (Nat.le_refl _)
          rw [ih rsps _ _ hrest hb' (by omega)]
          simp only [entryStarts, if_neg (not_or.2 ⟨hover, not_not.2 hmatch⟩),
            List.forall_mem_cons]
          exact ⟨fun h => ⟨by omega, h⟩, fun h => h.2⟩
      · rw [buildLoop_cons_mismatch hmatch]
        simp only [entryStarts, if_pos (Or.inr hmatch), List.mem_singleton, forall_eq]
        by_cases hfit : s + lenFieldSize variableLen ≤ mtu
        · exact iff_of_true ((hpre _).safe hfit) hfit
        · -- the prefix of a response for another handle passes the MTU
          cases variableLen with
          | false => simp [lenFieldSize] at hfit; omega
          | true =>
            refine iff_of_false (MultiRsp.not_safe ?_) hfit
            simp only [if_true, MultiRsp.putLen_reach, hb.p_eq]
            simp only [lenFieldSize, if_true] at hfit
            omega

/-- The response never comes out empty: the length only wraps to what the MTU gives. -/
theorem buildLoop_len_pos {variableLen : Bool} {mtu : Nat} (hmtu : 1 ≤ mtu)
    (hmax : mtu ≤ gattMaxMtuSize) :
    ∀ (handles : List Nat) (rsps : List GattValue) (b : MultiRsp) (s : Nat),
      (∀ r ∈ rsps, r.len ≤ gattMaxAttrLen) → Aligned b s → 1 ≤ s → s ≤ mtu →
      0 < (buildLoop variableLen mtu handles rsps b).1.buf.len := by
  intro handles
  induction handles with
  | nil =>
    intro rsps b s _ hb hs _
    simp [buildLoop, hb.len_eq]
    omega
  | cons handle handles ih =>
    intro rsps b s hlen hb hs hsm
    cases rsps with
    | nil =>
      simp [buildLoop, hb.len_eq]
      omega
    | cons rsp rsps =>
      have hmtu' : mtu ≤ 517 := hmax
      have hr : rsp.len ≤ 512 := hlen rsp List.mem_cons_self
      have he : lenFieldSize variableLen ≤ 2 := by
        unfold lenFieldSize
        split <;> omega
      have htot : multiTotalLen variableLen b.buf.len rsp.len =
          s + lenFieldSize variableLen + rsp.len := by
        rw [multiTotalLen, hb.len_eq, Nat.mod_eq_of_lt (by omega)]
        omega
      have hpre := hb.lenPrefix (by omega) variableLen
      by_cases hmatch : rsp.handle = handle
      · by_cases hover : s + lenFieldSize variableLen + rsp.len > mtu
        · -- cut or wrapped, the length comes to the MTU
          rw [buildLoop_cons_overflow hmatch (by rw [htot]; exact hover), htot]
          have hval := (hpre (multiValueLen mtu (s + lenFieldSize variableLen + rsp.len)
            rsp.len)).len_eq
          rw [MultiRsp.copyValue_len, hval, multiValueLen, if_pos hover]
          omega
        · rw [buildLoop_cons_fits hmatch (by rw [htot]; exact hover)]
          exact ih rsps _ _ (fun r h => hlen r (List.mem_cons_of_mem _ h))
            ((hpre rsp.len).copyValue (by omega) (Nat.le_refl _)) (by omega) (by omega)
      · rw [buildLoop_cons_mismatch hmatch, (hpre _).len_eq]
        omega

theorem entryStarts_le {e mtu : Nat} :
    ∀ (handles : List Nat) (rsps : List GattValue) (s : Nat), s ≤ mtu →
      ∀ t ∈ entryStarts e mtu s handles rsps, t ≤ mtu := by
  intro handles
  induction handles with
  | nil => intro rsps s _ t ht; simp [entryStarts] at ht
  | cons handle handles ih =>
    intro rsps s hs t ht
    cases rsps with
    | nil => simp [entryStarts] at ht
    | cons rsp rsps =>
      simp only [entryStarts, List.mem_cons] at ht
      rcases ht with rfl | ht
      · exact hs
      · split at ht
        · simp at ht
        · rename_i hnext
          exact ih rsps _ (by omega) t ht

/-- The buffer of `mtu` bytes after `L2CAP_MIN_OFFSET`, zeroed by `osi_calloc`, with the
opcode. -/
def multiRspStart (variableLen : Bool) (mtu : Nat) : MultiRsp where
  buf :=
    { event := 0, len := 1, offset := L2cap.l2capMinOffset, layerSpecific := 0
      data := store L2cap.l2capMinOffset
        [UInt8.ofNat (if variableLen then gattRspReadMultiVar else gattRspReadMulti)]
        (List.replicate (L2cap.l2capMinOffset + mtu) 0) }
  p := 1
  reach := 1
  reads := []

theorem aligned_multiRspStart (variableLen : Bool) (mtu : Nat) :
    Aligned (multiRspStart variableLen mtu) 1 :=
  ⟨rfl, rfl, Nat.le_refl 1, by simp [multiRspStart]⟩

/-- The fixed form is always safe: every value it comes to starts inside the MTU. -/
theorem multiRsp_fixed_safe {mtu : Nat} (hmtu : 1 ≤ mtu) (hmax : mtu ≤ gattMaxMtuSize)
    (handles : List Nat) {rsps : List GattValue} (hlen : ∀ r ∈ rsps, r.len ≤ gattMaxAttrLen) :
    (buildLoop false mtu handles rsps (multiRspStart false mtu)).1.Safe mtu := by
  rw [buildLoop_safe_iff hmax handles rsps _ 1 hlen (aligned_multiRspStart false mtu) hmtu]
  intro t ht
  simpa [lenFieldSize] using entryStarts_le handles rsps 1 hmtu t ht

/-- `tGATT_SR_CMD`, the fields a Read Multiple Request uses. -/
structure SrCmd where
  multiReq : ReadMulti
  multiRspQ : List GattValue
  status : GattStatus
  pRspMsg : Option MultiRsp

/-- `build_read_multi_rsp`: the response is kept in `p_rsp_msg` unless one is there already. -/
def buildReadMultiRsp (c : SrCmd) (mtu : Nat) : SrCmd :=
  let r := buildLoop c.multiReq.variableLen mtu c.multiReq.handles c.multiRspQ
    (multiRspStart c.multiReq.variableLen mtu)
  let c := { c with status := r.2.getD c.status }
  -- the sanity check on the buffer length
  if r.1.buf.len = 0 then { c with status := .notFound }
  else if c.pRspMsg.isSome then c
  else { c with pRspMsg := some r.1 }

/-- `process_read_multi_rsp`: queue the answer, and say whether all replies have been
received. -/
def processReadMultiRsp (c : SrCmd) (status : GattStatus) (pMsg : GattValue) (mtu : Nat) :
    SrCmd × Bool :=
  let c := { c with multiRspQ := c.multiRspQ ++ [pMsg], status := status }
  if status = .success then
    -- wait till all the responses have come
    if c.multiRspQ.length = c.multiReq.handles.length then (buildReadMultiRsp c mtu, true)
    else (c, false)
  else (c, true)

/-- The answers to a request, one `gatt_sr_process_app_rsp` each, until the server has them all
or one fails. -/
def readMultiRun (mtu : Nat) : SrCmd → List (GattStatus × GattValue) → SrCmd × Bool
  | c, [] => (c, false)
  | c, (status, pMsg) :: rest =>
    let r := processReadMultiRsp c status pMsg mtu
    if r.2 then r else readMultiRun mtu r.1 rest

section Run

variable {c : SrCmd} {m : GattValue} {mtu : Nat}

/-- A response before the last one is queued, and the server waits. -/
theorem processReadMultiRsp_wait (h : (c.multiRspQ ++ [m]).length ≠ c.multiReq.handles.length) :
    processReadMultiRsp c .success m mtu =
      ({ c with multiRspQ := c.multiRspQ ++ [m], status := .success }, false) := by
  simp only [processReadMultiRsp, if_true, if_neg h]

/-- The last response is queued and the response is built. -/
theorem processReadMultiRsp_full (h : (c.multiRspQ ++ [m]).length = c.multiReq.handles.length) :
    processReadMultiRsp c .success m mtu =
      (buildReadMultiRsp { c with multiRspQ := c.multiRspQ ++ [m], status := .success } mtu,
        true) := by
  simp only [processReadMultiRsp, if_true, if_pos h]

theorem readMultiRun_cons_wait {status : GattStatus} {rest : List (GattStatus × GattValue)}
    (h : (processReadMultiRsp c status m mtu).2 = false) :
    readMultiRun mtu c ((status, m) :: rest) =
      readMultiRun mtu (processReadMultiRsp c status m mtu).1 rest := by
  simp only [readMultiRun, h, Bool.false_eq_true, if_false]

theorem readMultiRun_cons_done {status : GattStatus} {rest : List (GattStatus × GattValue)}
    (h : (processReadMultiRsp c status m mtu).2 = true) :
    readMultiRun mtu c ((status, m) :: rest) = processReadMultiRsp c status m mtu := by
  simp only [readMultiRun, h, if_true]

end Run

/-- Responses that all succeed, as many as the request has handles still to come: the server
waits for each but the last, and then builds the response from the whole queue. -/
theorem readMultiRun_success {mtu : Nat} :
    ∀ (rsps : List GattValue) (c : SrCmd), rsps ≠ [] →
      c.multiRspQ.length + rsps.length = c.multiReq.handles.length →
      readMultiRun mtu c (rsps.map fun m => (GattStatus.success, m)) =
        (buildReadMultiRsp { c with multiRspQ := c.multiRspQ ++ rsps, status := .success } mtu,
          true) := by
  intro rsps
  induction rsps with
  | nil => intro c h; exact absurd rfl h
  | cons m rest ih =>
    intro c _ hlen
    simp only [List.length_cons] at hlen
    cases rest with
    | nil =>
      -- the last response: the queue is full
      have hfull : (c.multiRspQ ++ [m]).length = c.multiReq.handles.length := by
        simp only [List.length_append, List.length_singleton, List.length_nil] at hlen ⊢
        omega
      rw [List.map_cons, List.map_nil,
        readMultiRun_cons_done (by rw [processReadMultiRsp_full hfull]),
        processReadMultiRsp_full hfull]
    | cons m' rest =>
      have hwait : (c.multiRspQ ++ [m]).length ≠ c.multiReq.handles.length := by
        simp only [List.length_append, List.length_cons, List.length_nil] at hlen ⊢
        omega
      have hnext := ih { c with multiRspQ := c.multiRspQ ++ [m], status := .success }
        (List.cons_ne_nil _ _) (by
          simp only [List.length_append, List.length_cons, List.length_nil] at hlen ⊢
          omega)
      rw [List.map_cons, readMultiRun_cons_wait (by rw [processReadMultiRsp_wait hwait]),
        processReadMultiRsp_wait hwait, hnext, List.append_assoc, List.singleton_append]

/-- A server command with no response yet keeps the response the loop built. -/
theorem buildReadMultiRsp_pRspMsg {c : SrCmd} {mtu : Nat} (hnone : c.pRspMsg = none)
    (hlen : (buildLoop c.multiReq.variableLen mtu c.multiReq.handles c.multiRspQ
      (multiRspStart c.multiReq.variableLen mtu)).1.buf.len ≠ 0) :
    (buildReadMultiRsp c mtu).pRspMsg = some (buildLoop c.multiReq.variableLen mtu
      c.multiReq.handles c.multiRspQ (multiRspStart c.multiReq.variableLen mtu)).1 := by
  simp only [buildReadMultiRsp, if_neg hlen, hnone, Option.isSome_none, Bool.false_eq_true,
    if_false]

/-- A Read Multiple request of either form whose values all come back: the server builds a
response, and it stays within the MTU and reads no value past its end exactly when no value it
comes to starts less than its length prefix before the end of the MTU. -/
theorem readMulti_safe_iff {mtu : Nat} (hmtu : 1 ≤ mtu) (hmax : mtu ≤ gattMaxMtuSize)
    {req : ReadMulti} {rsps : List GattValue} (hne : rsps ≠ [])
    (hn : rsps.length = req.handles.length) (hlen : ∀ r ∈ rsps, r.len ≤ gattMaxAttrLen) :
    ∃ b, (readMultiRun mtu ⟨req, [], .success, none⟩
        (rsps.map fun m => (GattStatus.success, m))).1.pRspMsg = some b ∧
      (b.Safe mtu ↔ ∀ t ∈ entryStarts (lenFieldSize req.variableLen) mtu 1 req.handles rsps,
        t + lenFieldSize req.variableLen ≤ mtu) := by
  rw [readMultiRun_success rsps _ hne (by simpa using hn)]
  have hstart := aligned_multiRspStart req.variableLen mtu
  refine ⟨_, buildReadMultiRsp_pRspMsg rfl ?_, ?_⟩
  · exact Nat.pos_iff_ne_zero.1 (buildLoop_len_pos hmtu hmax req.handles rsps _ 1
      (by simpa using hlen) hstart (Nat.le_refl 1) hmtu)
  · exact buildLoop_safe_iff hmax req.handles rsps _ 1 (by simpa using hlen) hstart hmtu

/-- A Read Multiple Variable Length Request for a 19-byte and a 5-byte value at the default MTU:
the first value leaves the response one byte short of the MTU, so the second gets a length of
`0xFFFF`, its prefix is written past the MTU, and `memcpy` reads 65535 bytes of a 5-byte value,
while the response's length comes back to 23. -/
theorem readMultiVar_length_wraps :
    (readMultiRun gattDefBleMtuSize ⟨⟨[0x0003, 0x0005], true⟩, [], .success, none⟩
        [(.success, ⟨0x0003, 0, 19, List.replicate 19 0x41⟩),
          (.success, ⟨0x0005, 0, 5, List.replicate 5 0x42⟩)]).2 = true ∧
      ∃ b, (readMultiRun gattDefBleMtuSize ⟨⟨[0x0003, 0x0005], true⟩, [], .success, none⟩
          [(.success, ⟨0x0003, 0, 19, List.replicate 19 0x41⟩),
            (.success, ⟨0x0005, 0, 5, List.replicate 5 0x42⟩)]).1.pRspMsg = some b ∧
        multiValueLen gattDefBleMtuSize (multiTotalLen true 22 5) 5 = 65535 ∧
        b.reads = [(19, 19), (65535, 5)] ∧ b.reach = 65559 ∧ b.buf.len = gattDefBleMtuSize :=
  ⟨rfl, _, rfl, rfl, rfl, rfl, rfl⟩

end BluetoothStack.Gatt
