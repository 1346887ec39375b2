import Mathlib

/-!
# Intervals of a list sorted by a key

A list whose elements have strictly increasing keys, searched for the elements whose key lies in
an interval `[s, e]`. The first one found is the head of the filtered list, and the rest of the
filtered list is the interval from just after its key: the step by which a loop can walk through
an interval one element at a time, restarting its search after the element it found.
-/

namespace SortedFilter

variable {α : Type*} (key : α → Nat)

/-- Whether the key of `x` lies in `[s, e]`. -/
def inInterval (s e : Nat) (x : α) : Bool :=
  decide (s ≤ key x) && decide (key x ≤ e)

variable {key}

@[simp] theorem inInterval_eq_true {s e : Nat} {x : α} :
    inInterval key s e x = true ↔ s ≤ key x ∧ key x ≤ e := by
  simp [inInterval]

/-- The first element found in the interval heads it, and the interval from just after it holds
the rest. -/
theorem filter_inInterval_of_find? {l : List α} {s e : Nat} {a : α}
    (hl : l.Pairwise fun x y => key x < key y) (h : l.find? (inInterval key s e) = some a) :
    l.filter (inInterval key s e) = a :: l.filter (inInterval key (key a + 1) e) := by
  induction l with
  | nil => simp at h
  | cons x t ih =>
    rw [List.pairwise_cons] at hl
    by_cases hx : inInterval key s e x = true
    · -- `x` is the element found; every later key is larger
      rw [List.find?_cons_of_pos hx, Option.some.injEq] at h
      subst h
      have hs : s ≤ key x := (inInterval_eq_true.1 hx).1
      have hrest : t.filter (inInterval key s e) = t.filter (inInterval key (key x + 1) e) := by
        apply List.filter_congr
        intro y hy
        have hlt := hl.1 y hy
        simp only [inInterval]
        congr 1
        simp only [decide_eq_decide]
        omega
      have hself : inInterval key (key x + 1) e x = false := by
        simp only [inInterval, Bool.and_eq_false_iff, decide_eq_false_iff_not]
        omega
      rw [List.filter_cons_of_pos hx, List.filter_cons_of_neg (by rw [hself]; decide), hrest]
    · -- `x` lies before the element found, below both intervals
      rw [List.find?_cons_of_neg hx] at h
      have hmem := List.mem_of_find?_eq_some h
      have hxa : key x < key a := hl.1 a hmem
      have hx' : ¬ inInterval key (key a + 1) e x = true := by
        simp only [inInterval_eq_true]
        omega
      rw [List.filter_cons_of_neg hx, List.filter_cons_of_neg hx', ih hl.2 h]

/-- Nothing found, nothing in the interval. -/
theorem filter_inInterval_of_find?_none {l : List α} {s e : Nat}
    (h : l.find? (inInterval key s e) = none) : l.filter (inInterval key s e) = [] := by
  rw [List.filter_eq_nil_iff]
  exact List.find?_eq_none.1 h

/-- An interval that starts past its end is empty. -/
theorem filter_inInterval_of_lt {l : List α} {s e : Nat} (h : e < s) :
    l.filter (inInterval key s e) = [] := by
  rw [List.filter_eq_nil_iff]
  intro x _
  simp only [inInterval_eq_true]
  omega

/-- Restarting the search at the key of the element found does not change the interval. -/
theorem filter_inInterval_restart {l : List α} {s e : Nat} {a : α}
    (hl : l.Pairwise fun x y => key x < key y) (h : l.find? (inInterval key s e) = some a) :
    l.filter (inInterval key (key a) e) = l.filter (inInterval key s e) := by
  have ha : inInterval key s e a = true := List.find?_some h
  have hle : key a ≤ e := (inInterval_eq_true.1 ha).2
  have hfind : l.find? (inInterval key (key a) e) = some a := by
    induction l with
    | nil => simp at h
    | cons x t ih =>
      rw [List.pairwise_cons] at hl
      by_cases hx : inInterval key s e x = true
      · rw [List.find?_cons_of_pos hx, Option.some.injEq] at h
        subst h
        exact List.find?_cons_of_pos (by simp [hle])
      · rw [List.find?_cons_of_neg hx] at h
        have hxa : key x < key a := hl.1 a (List.mem_of_find?_eq_some h)
        rw [List.find?_cons_of_neg (by simp only [inInterval_eq_true]; omega)]
        exact ih hl.2 h
  rw [filter_inInterval_of_find? hl hfind, filter_inInterval_of_find? hl h]

/-- An interval of one key holds at most the element found. -/
theorem filter_inInterval_single {l : List α} {s : Nat} {a : α}
    (hl : l.Pairwise fun x y => key x < key y) (h : l.find? (inInterval key s s) = some a) :
    l.filter (inInterval key s s) = [a] := by
  have ha : inInterval key s s a = true := List.find?_some h
  have hka : key a = s := by
    have := inInterval_eq_true.1 ha
    omega
  rw [filter_inInterval_of_find? hl h, filter_inInterval_of_lt (by omega)]

/-- In a strictly increasing list, a prefix that ends at `h` holds every element up to `h`: what a
client that goes on from `h + 1` has not seen lies above `h`. -/
theorem mem_prefix_of_le_getLast {l p : List Nat} (hl : l.Pairwise (· < ·))
    (hp : List.IsPrefix p l) {h : Nat} (hlast : p.getLast? = some h) {x : Nat} (hx : x ∈ l)
    (hxh : x ≤ h) : x ∈ p := by
  obtain ⟨q, rfl⟩ := hp
  rcases List.mem_append.1 hx with hx | hx
  · exact hx
  · -- the rest of the list lies above the prefix's last element
    have hlt := (List.pairwise_append.1 hl).2.2 h (List.mem_of_getLast? hlast) x hx
    omega

end SortedFilter
