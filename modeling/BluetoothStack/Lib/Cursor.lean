import Mathlib

/-!
# A bounded iterator over a buffer

An index into a buffer that never passes its end: moving it forward stops at the end
(`advance`), and reading through it is checked, failing where it stands at the end (`deref`).
`read b i k` reads `k` elements one at a time from index `i`, each read followed by a step of one,
and `readGroups` makes such reads one after another.

A read fails exactly when it would pass the end: `read_of_le` gives what a read in range returns
and where it leaves the index, `read_eq_none` that every other read from a valid index fails.
-/

namespace Cursor

variable {α : Type*}

/-- The index `i` moved `k` elements on, stopped at the end of `b`. -/
def advance (b : List α) (i k : Nat) : Nat := min (i + k) b.length

/-- The element at index `i`, or `none` where `i` is the end: the check fails there. -/
def deref (b : List α) (i : Nat) : Option α := if i = b.length then none else b[i]?

/-- `k` elements read one at a time from index `i`, each read followed by a step of one: the
elements read and the index they leave. -/
def read (b : List α) (i : Nat) : Nat → Option (List α × Nat)
  | 0 => some ([], i)
  | k + 1 => (deref b i).bind fun x => (read b (advance b i 1) k).map fun r => (x :: r.1, r.2)

/-- `n` reads of `k` elements each, one after another from index `i`. -/
def readGroups (b : List α) (i k : Nat) : Nat → Option (List (List α) × Nat)
  | 0 => some ([], i)
  | n + 1 => (read b i k).bind fun r => (readGroups b r.2 k n).map fun rs => (r.1 :: rs.1, rs.2)

section Lemmas

variable {b : List α}

theorem advance_of_le {i k : Nat} (h : i + k ≤ b.length) : advance b i k = i + k :=
  Nat.min_eq_left h

theorem advance_le (b : List α) (i k : Nat) : advance b i k ≤ b.length :=
  Nat.min_le_right _ _

/-- Two steps stopped at the end are one step of their sum. -/
theorem advance_advance (b : List α) (i j k : Nat) :
    advance b (advance b i j) k = advance b i (j + k) := by
  simp only [advance]
  omega

theorem deref_of_lt {i : Nat} (h : i < b.length) : deref b i = some b[i] := by
  simp [deref, Nat.ne_of_lt h, h]

theorem deref_length (b : List α) : deref b b.length = none := by
  simp [deref]

/-- A read that ends at or before the end returns the elements it covers. By induction on the
count, the index generalised. -/
theorem read_of_le : ∀ {k i : Nat}, i + k ≤ b.length →
    read b i k = some ((b.drop i).take k, i + k)
  | 0, i, _ => by simp [read]
  | k + 1, i, h => by
    have hi : i < b.length := by omega
    rw [read, deref_of_lt hi, Option.bind_some, advance_of_le (by omega),
      read_of_le (by omega), Option.map_some, List.drop_eq_getElem_cons hi, List.take_succ_cons,
      show i + 1 + k = i + (k + 1) by omega]

/-- A read from a valid index that would pass the end fails. -/
theorem read_eq_none : ∀ {k i : Nat}, i ≤ b.length → b.length < i + k → read b i k = none
  | 0, _, _, h => by omega
  | k + 1, i, hi, h => by
    by_cases hend : i = b.length
    · rw [read, hend, deref_length]
      rfl
    · rw [read, deref_of_lt (by omega), Option.bind_some, advance_of_le (by omega),
        read_eq_none (by omega) (by omega)]
      rfl

/-- Reads of `n` groups of `k` that end at or before the end succeed and leave the index `n * k`
on. -/
theorem readGroups_of_le {k : Nat} : ∀ {n i : Nat}, i + n * k ≤ b.length →
    ∃ gs, readGroups b i k n = some (gs, i + n * k) ∧ gs.length = n
  | 0, i, _ => ⟨[], by simp [readGroups]⟩
  | n + 1, i, h => by
    have hrest : i + k + n * k ≤ b.length := by
      rw [Nat.succ_mul] at h
      omega
    obtain ⟨gs, hgs, hlen⟩ := readGroups_of_le hrest
    refine ⟨(b.drop i).take k :: gs, ?_, by simp [hlen]⟩
    rw [readGroups, read_of_le (by omega), Option.bind_some, hgs,
      Option.map_some, show i + k + n * k = i + (n + 1) * k by rw [Nat.succ_mul]; omega]

/-- From a valid index, reads of `n` nonempty groups that would pass the end fail. -/
theorem readGroups_eq_none {k : Nat} (hk : 0 < k) : ∀ {n i : Nat}, i ≤ b.length →
    b.length < i + n * k → readGroups b i k n = none
  | 0, _, _, h => by omega
  | n + 1, i, hi, h => by
    by_cases hfits : i + k ≤ b.length
    · rw [readGroups, read_of_le hfits, Option.bind_some,
        readGroups_eq_none hk hfits (by rw [Nat.succ_mul] at h; omega)]
      rfl
    · rw [readGroups, read_eq_none hi (by omega)]
      rfl

end Lemmas

end Cursor
