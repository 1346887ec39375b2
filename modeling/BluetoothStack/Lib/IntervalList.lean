import Mathlib

/-!
# Lists of disjoint intervals

A list of values each carrying an interval `[lo x, hi x]`, kept sorted by inserting each new value
before the first one that satisfies a test on it. Sorted descending, the list is pairwise
`hi b < lo a` for `a` before `b`; sorted ascending, `hi a < lo b`. Either says at once that the
intervals are disjoint and in order. Inserting a value whose interval is disjoint from all the
others, in front of the first interval that starts below it (descending) or above it (ascending),
keeps the list sorted.
-/

namespace IntervalList

variable {α : Type*}

/-- Insert `x` before the first element that satisfies `p`, at the end if none does. -/
def insertBefore (p : α → Bool) (x : α) : List α → List α
  | [] => [x]
  | y :: ys => if p y then x :: y :: ys else y :: insertBefore p x ys

/-- The inserted list is the elements that fail `p` up to the first that satisfies it, then `x`,
then the rest. -/
theorem insertBefore_eq (p : α → Bool) (x : α) (l : List α) :
    insertBefore p x l = l.takeWhile (fun y => !p y) ++ x :: l.dropWhile (fun y => !p y) := by
  induction l with
  | nil => rfl
  | cons y ys ih =>
    by_cases hy : p y = true
    · simp [insertBefore, hy]
    · simp [insertBefore, hy, ih]

@[simp] theorem mem_insertBefore {p : α → Bool} {x z : α} {l : List α} :
    z ∈ insertBefore p x l ↔ z = x ∨ z ∈ l := by
  induction l with
  | nil => simp [insertBefore]
  | cons y ys ih =>
    unfold insertBefore
    split
    · simp
    · simp [ih]; tauto

/-- Insertion keeps a relation between every pair when `x` is related to it from behind by the
elements before it and from in front to those after it. -/
theorem pairwise_insertBefore {R : α → α → Prop} {p : α → Bool} {x : α} {l : List α}
    (hl : l.Pairwise R) (hpre : ∀ y ∈ l.takeWhile (fun y => !p y), R y x)
    (hpost : ∀ y ∈ l.dropWhile (fun y => !p y), R x y) :
    (insertBefore p x l).Pairwise R := by
  have hsplit := List.takeWhile_append_dropWhile (p := fun y => !p y) (l := l)
  rw [← hsplit, List.pairwise_append] at hl
  rw [insertBefore_eq, List.pairwise_append, List.pairwise_cons]
  refine ⟨hl.1, ⟨hpost, hl.2.1⟩, ?_⟩
  intro a ha b hb
  rcases List.mem_cons.1 hb with rfl | hb
  · exact hpre a ha
  · exact hl.2.2 a ha b hb

section Bounds

variable (lo hi : α → Nat)

/-- Two intervals with no point in common. -/
def Apart (a b : α) : Prop := hi a < lo b ∨ hi b < lo a

/-- The elements after the first that starts below `x` all start below it, in a list sorted
descending. -/
theorem lo_lt_of_mem_dropWhile_desc {x : α} {l : List α}
    (hl : l.Pairwise fun a b => hi b < lo a) (hwf : ∀ y ∈ l, lo y ≤ hi y) {y : α}
    (hy : y ∈ l.dropWhile fun y => !decide (lo x > lo y)) : lo y < lo x := by
  induction l with
  | nil => simp at hy
  | cons z zs ih =>
    rw [List.pairwise_cons] at hl
    by_cases hz : lo x > lo z
    · -- the list from `z` on: `z` starts below `x`, the later ones below `z`
      rw [List.dropWhile_cons_of_neg (by simpa using hz)] at hy
      rcases List.mem_cons.1 hy with rfl | hy
      · exact hz
      · have := hl.1 y hy
        have := hwf y (List.mem_cons_of_mem _ hy)
        omega
    · rw [List.dropWhile_cons_of_pos (by simpa using hz)] at hy
      exact ih hl.2 (fun w hw => hwf w (List.mem_cons_of_mem _ hw)) hy

/-- The elements after the first that starts above `x` all start above it, in a list sorted
ascending. -/
theorem lt_lo_of_mem_dropWhile_asc {x : α} {l : List α}
    (hl : l.Pairwise fun a b => hi a < lo b) (hwf : ∀ y ∈ l, lo y ≤ hi y) {y : α}
    (hy : y ∈ l.dropWhile fun y => !decide (lo x < lo y)) : lo x < lo y := by
  induction l with
  | nil => simp at hy
  | cons z zs ih =>
    rw [List.pairwise_cons] at hl
    by_cases hz : lo x < lo z
    · rw [List.dropWhile_cons_of_neg (by simpa using hz)] at hy
      rcases List.mem_cons.1 hy with rfl | hy
      · exact hz
      · have := hl.1 y hy
        have := hwf z List.mem_cons_self
        omega
    · rw [List.dropWhile_cons_of_pos (by simpa using hz)] at hy
      exact ih hl.2 (fun w hw => hwf w (List.mem_cons_of_mem _ hw)) hy

/-- Inserting an interval apart from all the others in front of the first that starts below it
keeps a descending list sorted. -/
theorem pairwise_insertBefore_desc {x : α} {l : List α}
    (hl : l.Pairwise fun a b => hi b < lo a) (hwf : ∀ y ∈ l, lo y ≤ hi y) (hx : lo x ≤ hi x)
    (hapart : ∀ y ∈ l, Apart lo hi x y) :
    (insertBefore (fun y => decide (lo x > lo y)) x l).Pairwise fun a b => hi b < lo a := by
  apply pairwise_insertBefore hl
  · -- the elements before `x` start at or above it, so they lie above it
    intro y hy
    have hge : ¬ lo x > lo y := by simpa using List.mem_takeWhile_imp hy
    have hmem := (List.takeWhile_prefix _).subset hy
    have := hwf y hmem
    rcases hapart y hmem with h | h <;> omega
  · -- the elements after `x` start below it, so they lie below it
    intro y hy
    have hlt := lo_lt_of_mem_dropWhile_desc lo hi hl hwf hy
    have hmem := (List.dropWhile_suffix _).subset hy
    rcases hapart y hmem with h | h <;> omega

/-- Inserting an interval apart from all the others in front of the first that starts above it
keeps an ascending list sorted. -/
theorem pairwise_insertBefore_asc {x : α} {l : List α}
    (hl : l.Pairwise fun a b => hi a < lo b) (hwf : ∀ y ∈ l, lo y ≤ hi y) (hx : lo x ≤ hi x)
    (hapart : ∀ y ∈ l, Apart lo hi x y) :
    (insertBefore (fun y => decide (lo x < lo y)) x l).Pairwise fun a b => hi a < lo b := by
  apply pairwise_insertBefore hl
  · intro y hy
    have hle : ¬ lo x < lo y := by simpa using List.mem_takeWhile_imp hy
    have hmem := (List.takeWhile_prefix _).subset hy
    have := hwf y hmem
    rcases hapart y hmem with h | h <;> omega
  · intro y hy
    have hlt := lt_lo_of_mem_dropWhile_asc lo hi hl hwf hy
    have hmem := (List.dropWhile_suffix _).subset hy
    have := hwf y hmem
    rcases hapart y hmem with h | h <;> omega

end Bounds

end IntervalList
