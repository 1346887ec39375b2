import Mathlib
import BluetoothStack.Lib.Calls
import BluetoothStack.Lib.Ring

/-!
# The byte ring buffer of osi

`ringbuffer_t` (osi/src/ringbuffer.cc) keeps `total` bytes of storage, the count `available` of
free bytes, and `head` and `tail` pointers into the storage, here offsets from `base`. The bytes
queued are the `total - available` cells from `head` on, wrapping at the end
(`Ringbuffer.contents`): `available` is what tells a full buffer from an empty one, since `head`
and `tail` meet in both.

`Refines rb q` ties a buffer to the bounded queue `q` it holds. Every call keeps it: `insert`
appends what fits, `delete` drops from the front, `peek` reads a slice and `pop` reads and drops
(`refines_ringbufferInsert` and the lemmas after it), and so does every run of calls
(`refines_ringbufferRun`). The one exception is `ringbuffer_peek` with an `offset + length` that
wraps in `size_t`: it then copies `length` bytes, far past the queue
(`ringbufferPeek_wraps`).
-/

namespace BluetoothStack.Osi

open Ring

/-- One more than the largest `size_t`. -/
def sizeMax : Nat := 2 ^ 64

/-- `ringbuffer_t`, its pointers as offsets from `base`. -/
structure Ringbuffer where
  total : Nat
  available : Nat
  data : List UInt8
  head : Nat
  tail : Nat

/-- `ringbuffer_init`: zeroed storage, `head = tail = base`, all of it available. -/
def ringbufferInit (size : Nat) : Ringbuffer := ⟨size, size, List.replicate size 0, 0, 0⟩

/-- `ringbuffer_available`. -/
def ringbufferAvailable (rb : Ringbuffer) : Nat := rb.available

/-- `ringbuffer_size`. -/
def ringbufferSize (rb : Ringbuffer) : Nat := rb.total - rb.available

/-- The copy loop of `ringbuffer_insert`: each byte stored at `tail`, which then steps and
wraps. -/
def insertLoop (total : Nat) : List UInt8 → Nat → List UInt8 → List UInt8 × Nat
  | data, tail, [] => (data, tail)
  | data, tail, b :: bs => insertLoop total (data.set tail b) (next total tail) bs

/-- `ringbuffer_insert`: at most `available` of the bytes at `p`, and how many. -/
def ringbufferInsert (rb : Ringbuffer) (p : List UInt8) (length : Nat) : Ringbuffer × Nat :=
  let length := if length > ringbufferAvailable rb then ringbufferAvailable rb else length
  let r := insertLoop rb.total rb.data rb.tail (p.take length)
  ({ rb with data := r.1, tail := r.2, available := rb.available - length }, length)

/-- `ringbuffer_delete`: at most `ringbuffer_size` bytes, the head moved on and wrapped once. -/
def ringbufferDelete (rb : Ringbuffer) (length : Nat) : Ringbuffer × Nat :=
  let length := if length > ringbufferSize rb then ringbufferSize rb else length
  let head := rb.head + length
  let head := if head ≥ rb.total then head - rb.total else head
  ({ rb with head := head, available := rb.available + length }, length)

/-- The copy loop of `ringbuffer_peek`: `count` bytes from `b` on, `b` stepping and wrapping. -/
def peekLoop (total : Nat) (data : List UInt8) : Nat → Nat → List UInt8
  | 0, _ => []
  | count + 1, b => data.getD b 0 :: peekLoop total data count (next total b)

/-- `ringbuffer_peek`: the bytes copied to `p` and their count; `none` where
`CHECK(offset <= ringbuffer_size(rb))` fails. `offset + length` is a `size_t` sum. -/
def ringbufferPeek (rb : Ringbuffer) (offset length : Nat) : Option (List UInt8 × Nat) :=
  if offset ≤ ringbufferSize rb then
    let b := (rb.head + offset) % rb.total
    let bytesToCopy :=
      if (offset + length) % sizeMax > ringbufferSize rb then ringbufferSize rb - offset
      else length
    some (peekLoop rb.total rb.data bytesToCopy b, bytesToCopy)
  else none

/-- `ringbuffer_pop`: a peek from the head, then the head moved past what was copied. -/
def ringbufferPop (rb : Ringbuffer) (length : Nat) : Option ((List UInt8 × Nat) × Ringbuffer) :=
  (ringbufferPeek rb 0 length).map fun r =>
    let head := rb.head + r.2
    let head := if head ≥ rb.total then head - rb.total else head
    (r, { rb with head := head, available := rb.available + r.2 })

/-- A call of the ring buffer's interface. -/
inductive RingbufferCall where
  | insert (p : List UInt8) (length : Nat)
  | delete (length : Nat)
  | peek (offset length : Nat)
  | pop (length : Nat)

/-- A call and what it returns: the bytes it copies out and its count. -/
def ringbufferCall (rb : Ringbuffer) : RingbufferCall → Option ((List UInt8 × Nat) × Ringbuffer)
  | .insert p length => some (([], (ringbufferInsert rb p length).2), (ringbufferInsert rb p length).1)
  | .delete length => some (([], (ringbufferDelete rb length).2), (ringbufferDelete rb length).1)
  | .peek offset length => (ringbufferPeek rb offset length).map fun r => (r, rb)
  | .pop length => ringbufferPop rb length

/-- Calls one after another, what each returns collected; `none` at a failed `CHECK`. -/
def ringbufferRun (rb : Ringbuffer) (calls : List RingbufferCall) :
    Option (List (List UInt8 × Nat) × Ringbuffer) :=
  Calls.trace ringbufferCall rb calls

/-! ## The queue a buffer holds -/

/-- The bytes queued: `ringbuffer_size` cells from `head` on. -/
def Ringbuffer.contents (rb : Ringbuffer) : List UInt8 :=
  window rb.data rb.total rb.head (ringbufferSize rb)

/-- What every reachable buffer satisfies: storage of `total > 0` bytes, head inside it, and
the tail as many cells after the head as there are bytes queued. -/
structure Ringbuffer.Valid (rb : Ringbuffer) : Prop where
  total_pos : 0 < rb.total
  data_length : rb.data.length = rb.total
  available_le : rb.available ≤ rb.total
  head_lt : rb.head < rb.total
  tail_eq : rb.tail = (rb.head + ringbufferSize rb) % rb.total

/-- The buffer holds the queue `q`. -/
structure Refines (rb : Ringbuffer) (q : Fifo UInt8) : Prop where
  valid : rb.Valid
  cap : q.cap = rb.total
  items : q.items = rb.contents

theorem Ringbuffer.Valid.tail_lt {rb : Ringbuffer} (h : rb.Valid) : rb.tail < rb.total := by
  rw [h.tail_eq]
  exact Nat.mod_lt _ h.total_pos

/-- The tail is `ringbuffer_size` cells after the head, modulo `total`. -/
theorem Ringbuffer.Valid.tail_sub_head {rb : Ringbuffer} (h : rb.Valid) :
    (rb.tail + rb.total - rb.head) % rb.total = ringbufferSize rb % rb.total := by
  have hhead := h.head_lt
  -- both sides plus `head` are the tail's cell
  have hsum : (rb.tail + rb.total - rb.head + rb.head) % rb.total =
      (ringbufferSize rb + rb.head) % rb.total := by
    rw [Nat.sub_add_cancel (by omega), Nat.add_mod_right, h.tail_eq, Nat.mod_mod, Nat.add_comm]
  exact Nat.ModEq.add_right_cancel' rb.head hsum

theorem length_contents (rb : Ringbuffer) : rb.contents.length = ringbufferSize rb :=
  length_window _ _ _ _

theorem Refines.size {rb : Ringbuffer} {q : Fifo UInt8} (h : Refines rb q) :
    ringbufferSize rb = q.items.length := by
  rw [h.items, length_contents]

theorem Refines.available {rb : Ringbuffer} {q : Fifo UInt8} (h : Refines rb q) :
    ringbufferAvailable rb = q.room := by
  have := h.valid.available_le
  rw [Fifo.room, ← h.size, h.cap, ringbufferAvailable, ringbufferSize]
  omega

theorem Refines.tail_sub_head {rb : Ringbuffer} {q : Fifo UInt8} (h : Refines rb q) :
    (rb.tail + rb.total - rb.head) % rb.total = q.items.length % rb.total := by
  rw [h.valid.tail_sub_head, h.size]

theorem refines_ringbufferInit {n : Nat} (hn : 0 < n) : Refines (ringbufferInit n) (Fifo.empty n) where
  valid := ⟨hn, List.length_replicate, Nat.le_refl _, hn, by simp [ringbufferInit, ringbufferSize]⟩
  cap := rfl
  items := by simp [Ringbuffer.contents, ringbufferInit, ringbufferSize, Fifo.empty, window]

/-! ## The copy loops -/

section Loops

variable {total : Nat}

theorem length_insertLoop :
    ∀ (data : List UInt8) (tail : Nat) (src : List UInt8),
      (insertLoop total data tail src).1.length = data.length
  | _, _, [] => rfl
  | data, tail, _ :: bs => by
    rw [insertLoop, length_insertLoop _ _ bs, List.length_set]

/-- The loop leaves the tail as many cells on as it copied bytes. -/
theorem insertLoop_snd (htotal : 0 < total) :
    ∀ (data : List UInt8) (src : List UInt8) (tail : Nat), tail < total →
      (insertLoop total data tail src).2 = (tail + src.length) % total
  | _, [], tail, h => (Nat.mod_eq_of_lt h).symm
  | data, _ :: bs, tail, h => by
    rw [insertLoop, insertLoop_snd htotal _ bs _ (by rw [next_eq_mod h]; exact Nat.mod_lt _ htotal),
      next_eq_mod h, Nat.mod_add_mod, List.length_cons, Nat.add_assoc, Nat.add_comm 1]

/-- The loop appends the bytes it copies to the window that ends at the tail. By induction on
the bytes, each one written just after the window. -/
theorem window_insertLoop (head : Nat) :
    ∀ (src data : List UInt8) (m : Nat), data.length = total → m + src.length ≤ total →
      window (insertLoop total data ((head + m) % total) src).1 total head (m + src.length) =
        window data total head m ++ src
  | [], _, m, _, _ => by simp [insertLoop]
  | b :: bs, data, m, hlen, hroom => by
    have hm : m < total := by simp only [List.length_cons] at hroom; omega
    have hnext : next total ((head + m) % total) = (head + (m + 1)) % total := by
      rw [next_eq_mod (Nat.mod_lt _ (by omega)), Nat.mod_add_mod, Nat.add_assoc]
    rw [insertLoop, hnext, List.length_cons, show m + (bs.length + 1) = m + 1 + bs.length by omega,
      window_insertLoop head bs _ (m + 1) (by rw [List.length_set, hlen])
        (by simp only [List.length_cons] at hroom; omega),
      window_set_end hm hlen, List.append_assoc, List.singleton_append]

/-- The peek loop reads the window from where it starts. By induction on the count. -/
theorem peekLoop_eq_window (data : List UInt8) (htotal : 0 < total) :
    ∀ (count b : Nat), b < total → peekLoop total data count b = window data total b count
  | 0, _, _ => rfl
  | count + 1, b, hb => by
    rw [peekLoop, window_succ, Nat.mod_eq_of_lt hb, next_eq_mod hb,
      peekLoop_eq_window data htotal count _ (Nat.mod_lt _ htotal), window_mod_head]
    rfl

end Loops

/-! ## Each call refines the queue's operation -/

section Calls

variable {rb : Ringbuffer} {q : Fifo UInt8}

/-- The `if (length > bound) length = bound` of the C code. -/
theorem clamp_eq_min (length bound : Nat) :
    (if length > bound then bound else length) = min length bound := by
  split_ifs <;> omega

/-- A head moved by `length ≤ total` and wrapped once is the head plus `length`, modulo
`total`. -/
theorem moveHead_eq_mod {head length total : Nat} (hhead : head < total) (hlen : length ≤ total) :
    (if head + length ≥ total then head + length - total else head + length) =
      (head + length) % total := by
  split_ifs with hwrap
  · rw [Nat.mod_eq_sub_mod hwrap, Nat.mod_eq_of_lt (by omega)]
  · exact (Nat.mod_eq_of_lt (by omega)).symm

/-- `ringbuffer_insert` appends what fits of the bytes at `p` and returns how many. -/
theorem refines_ringbufferInsert (h : Refines rb q) (p : List UInt8) (length : Nat)
    (hp : min length (ringbufferAvailable rb) ≤ p.length) :
    Refines (ringbufferInsert rb p length).1 (q.push p length).1 ∧
      (ringbufferInsert rb p length).2 = (q.push p length).2 := by
  obtain ⟨hv, hcap, hitems⟩ := h
  have hroom : q.room = rb.available := (Refines.available ⟨hv, hcap, hitems⟩).symm
  have havail := hv.available_le
  simp only [ringbufferAvailable] at hp
  have hclamp : (if length > ringbufferAvailable rb then ringbufferAvailable rb else length) =
      min length rb.available :=
    clamp_eq_min _ _
  have htake : (p.take (min length rb.available)).length = min length rb.available := by
    rw [List.length_take]
    omega
  -- the bytes go in just after the window, which ends at the tail
  have hwin := window_insertLoop rb.head (p.take (min length rb.available)) rb.data
    (ringbufferSize rb) hv.data_length
    (by rw [htake]; simp only [ringbufferSize]; omega)
  rw [← hv.tail_eq, htake] at hwin
  simp only [ringbufferInsert, hclamp]
  refine ⟨⟨⟨hv.total_pos, ?_, ?_, hv.head_lt, ?_⟩, hcap, ?_⟩, ?_⟩
  · rw [length_insertLoop, hv.data_length]
  · dsimp only
    omega
  · rw [insertLoop_snd hv.total_pos _ _ _ hv.tail_lt, hv.tail_eq, Nat.mod_add_mod, htake,
      Nat.add_assoc]
    simp only [ringbufferSize]
    congr 2
    omega
  · simp only [Fifo.push, hroom, hitems, Ringbuffer.contents, ringbufferSize] at hwin ⊢
    rw [show rb.total - (rb.available - min length rb.available) =
      rb.total - rb.available + min length rb.available by omega]
    exact hwin.symm
  · simp only [Fifo.push, hroom]


/-- `ringbuffer_delete` drops what it can from the front and returns how much. -/
theorem refines_ringbufferDelete (h : Refines rb q) (length : Nat) :
    Refines (ringbufferDelete rb length).1 (q.drop length).1 ∧
      (ringbufferDelete rb length).2 = (q.drop length).2 := by
  obtain ⟨hv, hcap, hitems⟩ := h
  have hsize : ringbufferSize rb = q.items.length := Refines.size ⟨hv, hcap, hitems⟩
  have hk : min length (ringbufferSize rb) ≤ ringbufferSize rb := Nat.min_le_right _ _
  have havail := hv.available_le
  have hhead : (if rb.head + min length (ringbufferSize rb) ≥ rb.total then
      rb.head + min length (ringbufferSize rb) - rb.total
      else rb.head + min length (ringbufferSize rb)) =
      (rb.head + min length (ringbufferSize rb)) % rb.total :=
    moveHead_eq_mod hv.head_lt (by simp only [ringbufferSize] at hk ⊢; omega)
  simp only [ringbufferDelete, clamp_eq_min, hhead]
  refine ⟨⟨⟨hv.total_pos, hv.data_length, ?_, Nat.mod_lt _ hv.total_pos, ?_⟩, hcap, ?_⟩, ?_⟩
  · simp only [ringbufferSize] at hk ⊢
    omega
  · -- the tail stays where it was
    rw [hv.tail_eq, Nat.mod_add_mod, Nat.add_assoc]
    simp only [ringbufferSize] at hk ⊢
    congr 2
    omega
  · simp only [Fifo.drop, hitems, Ringbuffer.contents, length_window]
    rw [drop_window hk, window_mod_head]
    simp only [ringbufferSize] at hk ⊢
    congr 1
    omega
  · simp only [Fifo.drop, hsize]

/-- Where `offset + length` does not wrap, `ringbuffer_peek` reads the slice of the queue the
queue's `peek` does, and fails its `CHECK` exactly where that has no answer. -/
theorem ringbufferPeek_eq (h : Refines rb q) {offset length : Nat}
    (hsum : offset + length < sizeMax) : ringbufferPeek rb offset length = q.peek offset length := by
  obtain ⟨hv, hcap, hitems⟩ := h
  have hsize : ringbufferSize rb = q.items.length := Refines.size ⟨hv, hcap, hitems⟩
  unfold ringbufferPeek Fifo.peek
  rw [hitems, length_contents]
  by_cases hoff : offset ≤ ringbufferSize rb
  · have hcount : (if (offset + length) % sizeMax > ringbufferSize rb then
        ringbufferSize rb - offset else length) = min length (ringbufferSize rb - offset) := by
      rw [Nat.mod_eq_of_lt hsum]
      split_ifs <;> omega
    rw [if_pos hoff, if_pos hoff, hcount]
    dsimp only
    rw [peekLoop_eq_window _ hv.total_pos _ _ (Nat.mod_lt _ hv.total_pos), window_mod_head,
      Ringbuffer.contents, drop_window hoff, take_window (Nat.min_le_right _ _)]
  · rw [if_neg hoff, if_neg hoff]

/-- `ringbuffer_pop` is a peek from the head followed by a delete of what was read. -/
theorem ringbufferPop_eq (h : Refines rb q) {length : Nat} (hlen : length < sizeMax) :
    ringbufferPop rb length =
      (q.peek 0 length).map fun r => (r, (ringbufferDelete rb length).1) := by
  have hsize : ringbufferSize rb = q.items.length := Refines.size h
  rw [ringbufferPop, ringbufferPeek_eq h (by omega), Fifo.peek, if_pos (Nat.zero_le _)]
  simp only [Option.map_some, ringbufferDelete, clamp_eq_min, hsize, Nat.sub_zero]

/-! ## Runs of calls -/

/-- The same call on the queue. -/
def fifoCall (q : Fifo UInt8) : RingbufferCall → Option ((List UInt8 × Nat) × Fifo UInt8)
  | .insert p length => some (([], (q.push p length).2), (q.push p length).1)
  | .delete length => some (([], (q.drop length).2), (q.drop length).1)
  | .peek offset length => (q.peek offset length).map fun r => (r, q)
  | .pop length => some (q.pop length)

/-- Arguments as the interface means them: `p` holds the `length` bytes `ringbuffer_insert` is
told it holds, a length is a `size_t`, and a peek's `offset + length` does not wrap. -/
def RingbufferCall.Sized : RingbufferCall → Prop
  | .insert p length => length ≤ p.length
  | .delete _ => True
  | .peek offset length => offset + length < sizeMax
  | .pop length => length < sizeMax

/-- One call: the step lemma of the refinement. -/
theorem refines_ringbufferCall (h : Refines rb q) :
    ∀ {c : RingbufferCall}, c.Sized →
      Option.Rel (Calls.Agree Refines) (ringbufferCall rb c) (fifoCall q c)
  | .insert p length, hc => by
    obtain ⟨href, hres⟩ := refines_ringbufferInsert h p length
      (le_trans (Nat.min_le_left _ _) hc)
    exact .some ⟨by rw [hres], href⟩
  | .delete length, _ => by
    obtain ⟨href, hres⟩ := refines_ringbufferDelete h length
    exact .some ⟨by rw [hres], href⟩
  | .peek offset length, hc => by
    simp only [ringbufferCall, fifoCall, ringbufferPeek_eq h hc]
    cases q.peek offset length with
    | none => exact .none
    | some r => exact .some ⟨rfl, h⟩
  | .pop length, hc => by
    simp only [ringbufferCall, fifoCall, ringbufferPop_eq h hc, Fifo.peek, if_pos (Nat.zero_le _),
      Option.map_some, Fifo.pop, Nat.sub_zero, List.drop_zero]
    exact .some ⟨rfl, (refines_ringbufferDelete h length).1⟩

end Calls

/-- A whole run of calls from a buffer that holds a queue: each call returns what the queue's
does, and the buffer goes on holding the queue. The simulation rule over the step lemma. -/
theorem refines_ringbufferRun (calls : List RingbufferCall) (h : Refines rb q)
    (hsized : ∀ c ∈ calls, c.Sized) :
    Option.Rel (Calls.Agree Refines) (ringbufferRun rb calls) (Calls.trace fifoCall q calls) := by
  unfold ringbufferRun
  exact Calls.trace_rel Refines RingbufferCall.Sized (fun {_ _ c} h hc => refines_ringbufferCall (c := c) h hc)
    calls h hsized

/-- Past the end of `size_t`, `offset + length` wraps to a small number, the clamp to the queue
is skipped, and `ringbuffer_peek` copies all `length` bytes, however few the queue holds. -/
theorem ringbufferPeek_wraps (h : Refines rb q) {offset : Nat} (hoff : 0 < offset)
    (hle : offset ≤ q.items.length) (hlt : q.items.length < sizeMax) :
    ∃ r, ringbufferPeek rb offset (sizeMax - 1) = some r ∧ r.2 = sizeMax - 1 ∧
      q.items.length - offset < r.2 := by
  have hsize := h.size
  have hwrap : (offset + (sizeMax - 1)) % sizeMax = offset - 1 := by
    rw [show offset + (sizeMax - 1) = offset - 1 + sizeMax by omega, Nat.add_mod_right,
      Nat.mod_eq_of_lt (by omega)]
  unfold ringbufferPeek
  rw [if_pos (hsize ▸ hle)]
  dsimp only
  rw [hwrap, if_neg (by omega)]
  exact ⟨_, rfl, rfl, by omega⟩

theorem ringbuffer_fifo_refinement :
    (∀ n, 0 < n → Refines (ringbufferInit n) (Fifo.empty n)) ∧
    (∀ (calls : List RingbufferCall) rb q, Refines rb q → (∀ c ∈ calls, c.Sized) →
      Option.Rel (Calls.Agree Refines) (ringbufferRun rb calls) (Calls.trace fifoCall q calls)) ∧
    (∀ rb q, Refines rb q →
      ringbufferSize rb = q.items.length ∧ ringbufferAvailable rb = q.cap - q.items.length ∧
      rb.head < rb.total ∧ rb.tail < rb.total ∧
      (rb.tail + rb.total - rb.head) % rb.total = q.items.length % rb.total) ∧
    (∀ rb q offset, Refines rb q → 0 < offset → offset ≤ q.items.length →
      q.items.length < sizeMax →
      ∃ r, ringbufferPeek rb offset (sizeMax - 1) = some r ∧ r.2 = sizeMax - 1 ∧
        q.items.length - offset < r.2) :=
  ⟨fun _ hn => refines_ringbufferInit hn,
    fun calls _ _ h hsized => refines_ringbufferRun calls h hsized,
    fun _ _ h => ⟨h.size, h.available, h.valid.head_lt, h.valid.tail_lt, h.tail_sub_head⟩,
    fun _ _ _ h hoff hle hlt => ringbufferPeek_wraps h hoff hle hlt⟩

/-- A buffer of four bytes holding one, peeked from offset 1 for `SIZE_MAX` bytes: the queue has
none there, and `ringbuffer_peek` reports `SIZE_MAX` copied. -/
theorem ringbuffer_fifo_refinement_peek_wraps :
    ∃ r, ringbufferPeek (ringbufferInsert (ringbufferInit 4) [7] 1).1 1 (sizeMax - 1) = some r ∧
      r.2 = sizeMax - 1 ∧ (Fifo.push (Fifo.empty 4) [7] 1).1.items.length - 1 < r.2 :=
  ringbuffer_fifo_refinement.2.2.2 _ _ 1
    (refines_ringbufferInsert (refines_ringbufferInit (by decide)) [7] 1 (by decide)).1
    (by decide) (by decide) (by decide)

end BluetoothStack.Osi
