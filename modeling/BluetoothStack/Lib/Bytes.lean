import Mathlib

/-!
# Byte-addressed memory over lists

A region of memory is a `List UInt8`. `store pos src mem` writes `src` at byte `pos`, and
bytes that would land past the end of `mem` are dropped, exactly as a sequence of
single-byte writes through `List.set` would drop them; `load pos n mem` reads `n` bytes from
`pos`. Fixed-width integers are written as little-endian (`leBytes`) or big-endian
(`beBytes`) byte strings and read back by `leValue` and `beValue`.

The lemmas are the algebra a buffer manipulation needs: a load sees what a store put there
(`load_store_self`), a load outside the stored range sees the old bytes
(`load_store_of_disjoint`), and an integer encoding reads back modulo its
width (`leValue_leBytes`).
-/

namespace Bytes

/-! ## Integer encodings -/

/-- The `w` least significant bytes of `v`, least significant first. -/
def leBytes : Nat → Nat → List UInt8
  | 0, _ => []
  | w + 1, v => UInt8.ofNat v :: leBytes w (v >>> 8)

/-- The number whose little-endian bytes are `bs`. -/
def leValue : List UInt8 → Nat
  | [] => 0
  | b :: bs => b.toNat + 256 * leValue bs

/-- The `w` least significant bytes of `v`, most significant first. -/
def beBytes (w v : Nat) : List UInt8 := (leBytes w v).reverse

/-- The number whose big-endian bytes are `bs`. -/
def beValue (bs : List UInt8) : Nat := leValue bs.reverse

@[simp] theorem length_leBytes (w v : Nat) : (leBytes w v).length = w := by
  induction w generalizing v with
  | zero => rfl
  | succ w ih => simp [leBytes, ih]

@[simp] theorem length_beBytes (w v : Nat) : (beBytes w v).length = w := by
  simp [beBytes]

/-- Reading back `w` little-endian bytes gives the value modulo `256 ^ w`. -/
theorem leValue_leBytes (w v : Nat) : leValue (leBytes w v) = v % 256 ^ w := by
  induction w generalizing v with
  | zero => simp [leBytes, leValue, Nat.mod_one]
  | succ w ih =>
      have hb : (UInt8.ofNat v).toNat = v % 256 := by simp
      have hs : v >>> 8 = v / 256 := Nat.shiftRight_eq_div_pow v 8
      simp only [leBytes, leValue, hb, hs, ih]
      rw [Nat.pow_succ, Nat.mul_comm (256 ^ w) 256, Nat.mod_mul]

theorem beValue_beBytes (w v : Nat) : beValue (beBytes w v) = v % 256 ^ w := by
  simp [beValue, beBytes, leValue_leBytes]

theorem leValue_lt (bs : List UInt8) : leValue bs < 256 ^ bs.length := by
  induction bs with
  | nil => simp [leValue]
  | cons b bs ih =>
      have hb : b.toNat < 256 := b.toNat_lt
      simp only [leValue, List.length_cons, Nat.pow_succ]
      omega

theorem beValue_lt (bs : List UInt8) : beValue bs < 256 ^ bs.length := by
  simpa [beValue] using leValue_lt bs.reverse

/-- Bytes read as a number and written back at their own width are the same bytes. -/
theorem leBytes_leValue (bs : List UInt8) : leBytes bs.length (leValue bs) = bs := by
  induction bs with
  | nil => rfl
  | cons b bs ih =>
      have hb : b.toNat < 256 := b.toNat_lt
      have hlow : UInt8.ofNat (b.toNat + 256 * leValue bs) = b := by
        ext
        simp
      have hhigh : (b.toNat + 256 * leValue bs) >>> 8 = leValue bs := by
        rw [Nat.shiftRight_eq_div_pow]
        omega
      simp only [List.length_cons, leBytes, leValue, hlow, hhigh, ih]

theorem beBytes_beValue (bs : List UInt8) : beBytes bs.length (beValue bs) = bs := by
  rw [beBytes, beValue, ← List.length_reverse, leBytes_leValue, List.reverse_reverse]

/-- Only the value modulo the width is written. -/
theorem leBytes_mod (w v : Nat) : leBytes w (v % 256 ^ w) = leBytes w v := by
  have h := leBytes_leValue (leBytes w v)
  rwa [length_leBytes, leValue_leBytes] at h

/-- The first `w` bytes are the low part of the number, the rest its high part. By induction on
`w`. -/
theorem leBytes_add : ∀ (w k v : Nat), leBytes (w + k) v = leBytes w v ++ leBytes k (v / 256 ^ w)
  | 0, k, v => by simp [leBytes]
  | w + 1, k, v => by
    rw [Nat.add_right_comm, leBytes, leBytes_add w k, leBytes, List.cons_append,
      Nat.shiftRight_eq_div_pow, Nat.div_div_eq_div_mul, ← Nat.pow_succ']

theorem leBytes_zero_value : ∀ k : Nat, leBytes k 0 = List.replicate k 0
  | 0 => rfl
  | k + 1 => by rw [leBytes, Nat.zero_shiftRight, leBytes_zero_value k]; rfl

/-- A value below `256 ^ w` written in more than `w` bytes has zeros above them. -/
theorem beBytes_of_lt {w v : Nat} (k : Nat) (h : v < 256 ^ w) :
    beBytes (k + w) v = List.replicate k 0 ++ beBytes w v := by
  rw [beBytes, Nat.add_comm, leBytes_add, Nat.div_eq_of_lt h, leBytes_zero_value,
    List.reverse_append, List.reverse_replicate, beBytes]

/-- The bytes after the first `xs.length` are the high part of the number. -/
theorem leValue_append :
    ∀ (xs ys : List UInt8), leValue (xs ++ ys) = leValue xs + 256 ^ xs.length * leValue ys
  | [], ys => by simp [leValue]
  | x :: xs, ys => by
    rw [List.cons_append, leValue, leValue, leValue_append xs ys, List.length_cons, Nat.pow_succ,
      Nat.mul_add, Nat.mul_comm (256 ^ xs.length) 256, Nat.mul_assoc, Nat.add_assoc]

theorem beValue_append (xs ys : List UInt8) :
    beValue (xs ++ ys) = beValue xs * 256 ^ ys.length + beValue ys := by
  rw [beValue, List.reverse_append, leValue_append, List.length_reverse, beValue, beValue,
    Nat.mul_comm, Nat.add_comm]

/-! ## Stores and loads -/

/-- Write `src` into `mem` from byte `pos` on. Bytes past the end of `mem` are dropped, so
the length of `mem` never changes. -/
def store (pos : Nat) (src mem : List UInt8) : List UInt8 :=
  mem.take pos ++ src.take (mem.length - pos) ++ mem.drop (pos + src.length)

/-- The `n` bytes of `mem` from byte `pos` on (fewer if `mem` ends first). -/
def load (pos n : Nat) (mem : List UInt8) : List UInt8 :=
  (mem.drop pos).take n

@[simp] theorem length_store (pos : Nat) (src mem : List UInt8) :
    (store pos src mem).length = mem.length := by
  simp only [store, List.length_append, List.length_take, List.length_drop]
  omega

theorem length_load (pos n : Nat) (mem : List UInt8) :
    (load pos n mem).length = min n (mem.length - pos) := by
  simp [load]

/-- Inside the memory a load of `n` bytes returns exactly `n` bytes. -/
theorem length_load_of_le {pos n : Nat} {mem : List UInt8} (h : pos + n ≤ mem.length) :
    (load pos n mem).length = n := by
  rw [length_load]
  omega

/-- A byte outside the stored range keeps its old value. -/
theorem getElem?_store_of_not_mem {pos i : Nat} {src mem : List UInt8}
    (h : i < pos ∨ pos + src.length ≤ i) : (store pos src mem)[i]? = mem[i]? := by
  by_cases hi : i < mem.length
  · unfold store
    rcases h with h | h
    · rw [List.append_assoc, List.getElem?_append_left (by simp; omega),
        List.getElem?_take_of_lt h]
    · rw [List.getElem?_append_right (by simp; omega), List.getElem?_drop]
      congr 1
      simp
      omega
  · rw [List.getElem?_eq_none (by simp; omega), List.getElem?_eq_none (by omega)]

/-- A byte inside the stored range (and inside the memory) holds the stored byte. -/
theorem getElem?_store_of_mem {pos i : Nat} {src mem : List UInt8} (h1 : pos ≤ i)
    (h2 : i < pos + src.length) (h3 : i < mem.length) :
    (store pos src mem)[i]? = src[i - pos]? := by
  unfold store
  rw [List.append_assoc, List.getElem?_append_right (by simp; omega),
    List.getElem?_append_left (by simp; omega), List.getElem?_take_of_lt (by simp; omega)]
  congr 1
  simp
  omega

theorem getElem?_load (q n i : Nat) (mem : List UInt8) :
    (load q n mem)[i]? = if i < n then mem[q + i]? else none := by
  unfold load
  split
  · rw [List.getElem?_take_of_lt ‹_›, List.getElem?_drop]
  · rw [List.getElem?_eq_none]
    simp
    omega

/-- A load that does not overlap the stored range sees the old bytes. -/
theorem load_store_of_disjoint {q n pos : Nat} {src mem : List UInt8}
    (h : q + n ≤ pos ∨ pos + src.length ≤ q) :
    load q n (store pos src mem) = load q n mem := by
  apply List.ext_getElem?
  intro i
  rw [getElem?_load, getElem?_load]
  split
  · exact getElem?_store_of_not_mem (by omega)
  · rfl

/-- Reading back what was just stored. -/
theorem load_store_self {pos : Nat} {src mem : List UInt8} (h : pos + src.length ≤ mem.length) :
    load pos src.length (store pos src mem) = src := by
  apply List.ext_getElem?
  intro i
  rw [getElem?_load]
  split
  · rw [getElem?_store_of_mem (by omega) (by omega) (by omega), Nat.add_sub_cancel_left]
  · rw [List.getElem?_eq_none (by omega)]

/-- A load inside the stored range reads the stored bytes. -/
theorem load_store_inner {q n pos : Nat} {src mem : List UInt8} (h1 : pos ≤ q)
    (h2 : q + n ≤ pos + src.length) (h3 : pos + src.length ≤ mem.length) :
    load q n (store pos src mem) = load (q - pos) n src := by
  apply List.ext_getElem?
  intro i
  rw [getElem?_load, getElem?_load]
  split
  · rw [getElem?_store_of_mem (by omega) (by omega) (by omega)]
    congr 1
    omega
  · rfl

/-- A load from a loaded region is a load from the original memory. -/
theorem load_load {p m i n : Nat} {mem : List UInt8} (h : i + n ≤ m) :
    load i n (load p m mem) = load (p + i) n mem := by
  simp only [load, List.drop_take, List.drop_drop, List.take_take]
  rw [Nat.min_eq_left (by omega)]

/-- Loading `m + n` bytes is loading `m` bytes and then `n` more. -/
theorem load_add (pos m n : Nat) (mem : List UInt8) :
    load pos (m + n) mem = load pos m mem ++ load (pos + m) n mem := by
  simp only [load, List.take_add, List.drop_drop]

/-- Storing right after a loaded region extends it by the stored bytes. -/
theorem load_store_append {pos n : Nat} {src mem : List UInt8}
    (h : pos + n + src.length ≤ mem.length) :
    load pos (n + src.length) (store (pos + n) src mem) = load pos n mem ++ src := by
  rw [load_add, load_store_of_disjoint (Or.inl (Nat.le_refl _)), load_store_self h]

/-- A load over a stored range reads the old bytes before it, the stored bytes, and the old bytes
after it. -/
theorem load_store_within {q n pos : Nat} {src mem : List UInt8} (h1 : q ≤ pos)
    (h2 : pos + src.length ≤ q + n) (h3 : q + n ≤ mem.length) :
    load q n (store pos src mem) =
      load q (pos - q) mem ++ src ++ load (pos + src.length) (q + n - (pos + src.length)) mem := by
  obtain ⟨rest, hrest⟩ : ∃ rest, rest = q + n - (pos + src.length) := ⟨_, rfl⟩
  rw [← hrest]
  have hn : n = (pos - q) + (src.length + rest) := by omega
  have hpos : q + (pos - q) = pos := by omega
  rw [hn, load_add, load_add, hpos,
    load_store_of_disjoint (Or.inl (by omega : q + (pos - q) ≤ pos)), load_store_self (by omega),
    load_store_of_disjoint (Or.inr (Nat.le_refl (pos + src.length))), List.append_assoc]

/-- Dropping the first `m` loaded bytes is loading from `m` bytes further on. -/
theorem drop_load (pos n m : Nat) (mem : List UInt8) :
    (load pos n mem).drop m = load (pos + m) (n - m) mem := by
  simp only [load, List.drop_take, List.drop_drop]

/-- Taking the first `m` loaded bytes is loading at most `m` bytes. -/
theorem take_load (pos n m : Nat) (mem : List UInt8) :
    (load pos n mem).take m = load pos (min m n) mem := by
  simp only [load, List.take_take]

/-- Storing from the start as many bytes as the memory holds gives those bytes. -/
theorem store_zero_of_length {src mem : List UInt8} (h : src.length = mem.length) :
    store 0 src mem = src := by
  simp [store, ← h]

/-- Storing back the bytes a load read changes nothing. -/
theorem store_load_self {pos n : Nat} {mem : List UInt8} (h : pos + n ≤ mem.length) :
    store pos (load pos n mem) mem = mem := by
  have hlen : (load pos n mem).length = n := length_load_of_le h
  rw [store, hlen, List.take_of_length_le (l := load pos n mem) (by rw [hlen]; omega), load,
    List.append_assoc, ← List.drop_drop, List.take_append_drop, List.take_append_drop]

/-- Storing over a middle part of the same length replaces it. -/
theorem store_middle {pre mid src post : List UInt8} (h : src.length = mid.length) :
    store pre.length src (pre ++ mid ++ post) = pre ++ src ++ post := by
  unfold store
  have hpre : (pre ++ mid ++ post).take pre.length = pre := by simp
  have hsrc : src.take ((pre ++ mid ++ post).length - pre.length) = src :=
    List.take_of_length_le (by simp only [List.length_append]; omega)
  have hpost : (pre ++ mid ++ post).drop (pre.length + src.length) = post := by
    rw [h, ← List.length_append, List.drop_left]
  rw [hpre, hsrc, hpost]

/-- A load inside the middle part of a concatenation reads that part. -/
theorem load_append_middle {pre mid post : List UInt8} {i n : Nat} (h : i + n ≤ mid.length) :
    load (pre.length + i) n (pre ++ mid ++ post) = load i n mid := by
  simp only [load, List.append_assoc, List.drop_append,
    List.drop_eq_nil_of_le (by omega : pre.length ≤ pre.length + i), Nat.add_sub_cancel_left,
    List.nil_append]
  rw [List.take_append_of_le_length (by simp; omega)]

/-- A byte inside the middle part of a concatenation is that part's. -/
theorem getD_append_middle {pre mid post : List UInt8} {i : Nat} (h : i < mid.length) :
    (pre ++ mid ++ post).getD (pre.length + i) 0 = mid.getD i 0 := by
  simp only [List.getD_eq_getElem?_getD, List.append_assoc,
    List.getElem?_append_right (by omega : pre.length ≤ pre.length + i), Nat.add_sub_cancel_left,
    List.getElem?_append_left h]

/-- A big-endian field of `w` bytes written after `pre` reads back as its value, when the value
fits in the field. -/
theorem beValue_load_beBytes {pre post : List UInt8} {w v : Nat} (hv : v < 256 ^ w) :
    beValue (load pre.length w (pre ++ beBytes w v ++ post)) = v := by
  have hload := @load_append_middle pre (beBytes w v) post 0 w (by simp)
  rw [Nat.add_zero] at hload
  rw [hload, load, List.drop_zero, List.take_of_length_le (by simp), beValue_beBytes,
    Nat.mod_eq_of_lt hv]

/-! ## Checked accesses -/

/-- A load that fails where the bytes are not all inside the memory. -/
def loadIn (pos n : Nat) (mem : List UInt8) : Option (List UInt8) :=
  if pos + n ≤ mem.length then some (load pos n mem) else none

/-- A store that fails where the bytes would not all land inside the memory. -/
def storeIn (pos : Nat) (src mem : List UInt8) : Option (List UInt8) :=
  if pos + src.length ≤ mem.length then some (store pos src mem) else none

theorem loadIn_of_le {pos n : Nat} {mem : List UInt8} (h : pos + n ≤ mem.length) :
    loadIn pos n mem = some (load pos n mem) := if_pos h

theorem storeIn_of_le {pos : Nat} {src mem : List UInt8} (h : pos + src.length ≤ mem.length) :
    storeIn pos src mem = some (store pos src mem) := if_pos h

/-! ## Reading what stands at an index

A parser that walks a message with an index meets, at each index, what the writer put there:
`mem.drop pos = src ++ rest`. -/

theorem getElem?_of_drop {pos : Nat} {b : UInt8} {rest mem : List UInt8}
    (h : mem.drop pos = b :: rest) : mem[pos]? = some b := by
  rw [← Nat.add_zero pos, ← List.getElem?_drop, h]
  rfl

theorem drop_of_drop {pos : Nat} {src rest mem : List UInt8} (h : mem.drop pos = src ++ rest) :
    mem.drop (pos + src.length) = rest := by
  rw [← List.drop_drop, h, List.drop_left]

/-- A checked load of the bytes that stand at `pos` returns them. -/
theorem loadIn_of_drop {pos : Nat} {src rest mem : List UInt8} (h : mem.drop pos = src ++ rest)
    (hpos : pos ≤ mem.length) : loadIn pos src.length mem = some src := by
  have hlen : pos + src.length ≤ mem.length := by
    have := congrArg List.length h
    simp only [List.length_drop, List.length_append] at this
    omega
  rw [loadIn_of_le hlen, load, h, List.take_left' rfl]

end Bytes
