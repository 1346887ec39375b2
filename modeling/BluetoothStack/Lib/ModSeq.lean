import Mathlib

/-!
# Sequence numbers modulo `m`

A sliding-window protocol numbers its frames modulo `m` and keeps the unacknowledged ones in
a queue. `Consecutive seq m a q` says the frames of `q` carry the numbers `a, a + 1, ...`
modulo `m` in queue order; `offsetMod m a x` is how far `x` lies after `a` on the circle of
`m` numbers, the distance a C implementation computes as `(x - a) & (m - 1)`.

With a window of fewer than `m` frames the numbers of the queue are distinct, so a frame's
number tells its position (`offsetMod_of_consecutive`), and acknowledging `n` frames, that is
dropping the first `n`, removes exactly the frames whose number lies in `[a, a + n)`
(`filter_offsetMod_lt`, `filter_offsetMod_ge`).
-/

namespace ModSeq

variable {α : Type} (seq : α → Nat)

/-- How far `x` lies after `a` modulo `m`: the `int` difference reduced into `[0, m)`. -/
def offsetMod (m a x : Nat) : Nat := Int.toNat (((x : Int) - a) % m)

/-- The items of `q` carry the numbers `a, a + 1, ...` modulo `m`, in order. -/
def Consecutive (m a : Nat) (q : List α) : Prop :=
  ∀ i (h : i < q.length), seq q[i] = (a + i) % m

theorem offsetMod_lt {m : Nat} (hm : 0 < m) (a x : Nat) : offsetMod m a x < m := by
  unfold offsetMod
  have h1 := Int.emod_nonneg ((x : Int) - a) (by omega : (m : Int) ≠ 0)
  have h2 := Int.emod_lt_of_pos ((x : Int) - a) (by omega : (0 : Int) < m)
  omega

/-- Going `i < m` steps from `a < m` and measuring back gives `i`. -/
theorem offsetMod_add_mod {m a i : Nat} (ha : a < m) (hi : i < m) :
    offsetMod m a ((a + i) % m) = i := by
  unfold offsetMod
  have hm : 0 < m := by omega
  rcases Nat.lt_or_ge (a + i) m with h | h
  · rw [Nat.mod_eq_of_lt h]
    push_cast
    rw [show ((a : Int) + i - a) = i by omega, Int.emod_eq_of_lt (by omega) (by omega)]
    simp
  · have hsub : (a + i) % m = a + i - m := by
      rw [Nat.mod_eq_sub_mod h, Nat.mod_eq_of_lt (by omega)]
    rw [hsub, show (((a + i - m : Nat) : Int) - a) = i + (-1) * m by omega,
      Int.add_mul_emod_self_right, Int.emod_eq_of_lt (by omega) (by omega)]
    simp

/-- Measured from `a`, the number `x` lies `offsetMod m a x` steps on. -/
theorem add_offsetMod {m a x : Nat} (hx : x < m) : (a + offsetMod m a x) % m = x := by
  unfold offsetMod
  have hm : (0 : Int) < m := by omega
  have h1 := Int.emod_nonneg ((x : Int) - a) (Int.ne_of_gt hm)
  zify
  rw [Int.toNat_of_nonneg h1, Int.add_emod_emod, show (a : Int) + (x - a) = x by omega,
    Int.emod_eq_of_lt (by omega) (by omega)]

theorem consecutive_nil (m a : Nat) : Consecutive seq m a ([] : List α) := by
  intro i h
  simp at h

variable {seq}

/-- A frame numbered one past the end of the queue may be appended. -/
theorem Consecutive.append {m a : Nat} {q : List α} {x : α} (hq : Consecutive seq m a q)
    (hx : seq x = (a + q.length) % m) : Consecutive seq m a (q ++ [x]) := by
  intro i h
  rw [List.length_append, List.length_singleton] at h
  rcases Nat.lt_or_ge i q.length with hi | hi
  · rw [List.getElem_append_left hi]
    exact hq i hi
  · have hi' : i = q.length := by omega
    subst hi'
    simp [hx]

/-- A run starts with its first number and goes on from the next. -/
theorem consecutive_cons_iff {m a : Nat} {x : α} {q : List α} :
    Consecutive seq m a (x :: q) ↔ seq x = a % m ∧ Consecutive seq m ((a + 1) % m) q := by
  constructor
  · intro h
    refine ⟨?_, fun i hi => ?_⟩
    · have h0 := h 0 (by simp)
      rwa [List.getElem_cons_zero, Nat.add_zero] at h0
    · have hs := h (i + 1) (by simp; omega)
      rw [List.getElem_cons_succ] at hs
      rw [hs, Nat.mod_add_mod, Nat.add_assoc, Nat.add_comm 1 i]
  · rintro ⟨hx, hq⟩ i hi
    cases i with
    | zero => simpa using hx
    | succ i =>
      rw [List.getElem_cons_succ, hq i (by simpa using hi), Nat.mod_add_mod, Nat.add_assoc,
        Nat.add_comm 1 i]

/-- The last of a run of `k` numbers from `a` is `a + k - 1`. -/
theorem Consecutive.getLast? {m a : Nat} {q : List α} {x : α} (hq : Consecutive seq m a q)
    (hx : q.getLast? = some x) : seq x = (a + q.length - 1) % m := by
  rw [List.getLast?_eq_getElem?, List.getElem?_eq_some_iff] at hx
  obtain ⟨hi, rfl⟩ := hx
  rw [hq _ hi, Nat.add_sub_assoc (by omega)]

/-- Dropping the first `n` frames moves the first number on by `n`. -/
theorem Consecutive.drop {m a : Nat} {q : List α} (hq : Consecutive seq m a q) (n : Nat) :
    Consecutive seq m ((a + n) % m) (q.drop n) := by
  intro i h
  rw [List.getElem_drop, hq (n + i) (by simp at h; omega), ← Nat.add_assoc, Nat.mod_add_mod]

section Window

variable {m a : Nat} {q : List α}

/-- In a queue shorter than the modulus, a frame's number tells its position. -/
theorem offsetMod_of_consecutive (hq : Consecutive seq m a q) (ha : a < m) (hlen : q.length ≤ m)
    {i : Nat} (hi : i < q.length) : offsetMod m a (seq q[i]) = i := by
  rw [hq i hi, offsetMod_add_mod ha (by omega)]

/-- Every frame among the first `n` lies within `n` steps of `a`. -/
theorem offsetMod_lt_of_mem_take (hq : Consecutive seq m a q) (ha : a < m)
    (hlen : q.length ≤ m) {n : Nat} {x : α} (hx : x ∈ q.take n) : offsetMod m a (seq x) < n := by
  obtain ⟨i, hi, rfl⟩ := List.getElem_of_mem hx
  have hi' : i < q.length := by simp at hi; omega
  rw [List.getElem_take, offsetMod_of_consecutive hq ha hlen hi']
  simp at hi
  omega

/-- Every frame after the first `n` lies at least `n` steps after `a`. -/
theorem le_offsetMod_of_mem_drop (hq : Consecutive seq m a q) (ha : a < m)
    (hlen : q.length ≤ m) {n : Nat} {x : α} (hx : x ∈ q.drop n) : n ≤ offsetMod m a (seq x) := by
  obtain ⟨i, hi, rfl⟩ := List.getElem_of_mem hx
  have hi' : n + i < q.length := by simp at hi; omega
  rw [List.getElem_drop, offsetMod_of_consecutive hq ha hlen hi']
  omega

/-- The frames numbered in `[a, a + n)` are the first `n`. -/
theorem filter_offsetMod_lt (hq : Consecutive seq m a q) (ha : a < m) (hlen : q.length ≤ m)
    (n : Nat) : q.filter (fun x => offsetMod m a (seq x) < n) = q.take n := by
  have htake : (q.take n).filter (fun x => offsetMod m a (seq x) < n) = q.take n :=
    List.filter_eq_self.2 fun x hx => by simpa using offsetMod_lt_of_mem_take hq ha hlen hx
  have hdrop : (q.drop n).filter (fun x => offsetMod m a (seq x) < n) = [] :=
    List.filter_eq_nil_iff.2 fun x hx => by
      have := le_offsetMod_of_mem_drop hq ha hlen hx
      simp only [decide_eq_true_eq]
      omega
  conv_lhs => rw [← List.take_append_drop n q]
  rw [List.filter_append, htake, hdrop, List.append_nil]

/-- The frames numbered outside `[a, a + n)` are all but the first `n`. -/
theorem filter_offsetMod_ge (hq : Consecutive seq m a q) (ha : a < m) (hlen : q.length ≤ m)
    (n : Nat) : q.filter (fun x => ¬ offsetMod m a (seq x) < n) = q.drop n := by
  have htake : (q.take n).filter (fun x => ¬ offsetMod m a (seq x) < n) = [] :=
    List.filter_eq_nil_iff.2 fun x hx => by
      simpa using offsetMod_lt_of_mem_take hq ha hlen hx
  have hdrop : (q.drop n).filter (fun x => ¬ offsetMod m a (seq x) < n) = q.drop n :=
    List.filter_eq_self.2 fun x hx => by
      have := le_offsetMod_of_mem_drop hq ha hlen hx
      simp only [decide_eq_true_eq]
      omega
  conv_lhs => rw [← List.take_append_drop n q]
  rw [List.filter_append, htake, hdrop, List.nil_append]

end Window

end ModSeq
