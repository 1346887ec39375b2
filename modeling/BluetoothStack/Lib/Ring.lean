import Mathlib

/-!
# Circular arrays and the bounded queues they hold

A circular array of `cap` cells holds a queue as the `count` cells from `head` on, wrapping at
the end: `window cells cap head count`. Writing the cell just after the window appends to the
queue (`window_set_end`), and a window cut in two is the window of the first part followed by
the window from the head moved past it (`window_add`); so moving the head drops the front of the
queue (`drop_window`) and a read from a moved head is a slice of it (`take_window`). A head is
only ever known up to multiples of `cap` (`window_mod_head`).

`Fifo` is the queue itself, bounded by a capacity: what a circular buffer is for.
-/

namespace Ring

variable {α : Type*} [Inhabited α]

/-- The `count` cells of a circular array of `cap` cells from `head` on. -/
def window (cells : List α) (cap head : Nat) : Nat → List α
  | 0 => []
  | count + 1 => window cells cap head count ++ [cells.getD ((head + count) % cap) default]

/-- The index one cell on, back to 0 past the end: a pointer stepped by one and wrapped by
`if (p >= base + total) p = base`. -/
def next (cap i : Nat) : Nat := if cap ≤ i + 1 then 0 else i + 1

theorem next_eq_mod {cap i : Nat} (h : i < cap) : next cap i = (i + 1) % cap := by
  unfold next
  split_ifs with hwrap
  · rw [show i + 1 = cap by omega, Nat.mod_self]
  · exact (Nat.mod_eq_of_lt (by omega)).symm

/-- Two cells less than a turn apart are different cells. -/
theorem add_mod_ne {cap head j k : Nat} (hjk : j < k) (hk : k < cap) :
    (head + j) % cap ≠ (head + k) % cap := by
  intro heq
  have hdvd : cap ∣ k - j := by
    have := Nat.sub_mod_eq_zero_of_mod_eq heq.symm
    rw [show head + k - (head + j) = k - j by omega] at this
    exact Nat.dvd_of_mod_eq_zero this
  have := Nat.le_of_dvd (by omega) hdvd
  omega

@[simp] theorem length_window (cells : List α) (cap head : Nat) :
    ∀ count, (window cells cap head count).length = count
  | 0 => rfl
  | count + 1 => by simp [window, length_window cells cap head count]

/-- Only the head's place in the array matters. -/
theorem window_mod_head (cells : List α) (cap head : Nat) :
    ∀ count, window cells cap (head % cap) count = window cells cap head count
  | 0 => rfl
  | count + 1 => by rw [window, window, window_mod_head cells cap head count, Nat.mod_add_mod]

/-- A window cut after its first `a` cells. By induction on the rest. -/
theorem window_add (cells : List α) (cap head a : Nat) :
    ∀ b, window cells cap head (a + b) = window cells cap head a ++ window cells cap (head + a) b
  | 0 => by simp [window]
  | b + 1 => by
    rw [← Nat.add_assoc, window, window_add cells cap head a b, window, List.append_assoc,
      Nat.add_assoc]

/-- The first cell of a window, and the window behind it. -/
theorem window_succ (cells : List α) (cap head count : Nat) :
    window cells cap head (count + 1) =
      cells.getD (head % cap) default :: window cells cap (head + 1) count := by
  rw [Nat.add_comm, window_add]
  rfl

variable {cells : List α} {cap head count : Nat}

/-- Moving the head by `a` drops the first `a` cells. -/
theorem drop_window {a : Nat} (h : a ≤ count) :
    (window cells cap head count).drop a = window cells cap (head + a) (count - a) := by
  obtain ⟨b, rfl⟩ := Nat.exists_eq_add_of_le h
  rw [window_add, List.drop_left' (length_window _ _ _ _), Nat.add_sub_cancel_left]

theorem take_window {a : Nat} (h : a ≤ count) :
    (window cells cap head count).take a = window cells cap head a := by
  obtain ⟨b, rfl⟩ := Nat.exists_eq_add_of_le h
  rw [window_add, List.take_left' (length_window _ _ _ _)]

/-- A write to a cell outside the window leaves the window alone. By induction on the count. -/
theorem window_set_of_ne {i : Nat} {x : α} :
    ∀ {count}, (∀ j < count, (head + j) % cap ≠ i) →
      window (cells.set i x) cap head count = window cells cap head count
  | 0, _ => rfl
  | count + 1, h => by
    rw [window, window, window_set_of_ne (fun j hj => h j (by omega)),
      List.getD_eq_getElem?_getD, List.getD_eq_getElem?_getD,
      List.getElem?_set_ne (h count (by omega)).symm]

/-- Writing the cell just after the window appends it to the window. -/
theorem window_set_end (hcount : count < cap) (hlen : cells.length = cap) {x : α} :
    window (cells.set ((head + count) % cap) x) cap head (count + 1) =
      window cells cap head count ++ [x] := by
  have hcell : (head + count) % cap < cells.length := hlen ▸ Nat.mod_lt _ (by omega)
  rw [window, window_set_of_ne (fun j hj => add_mod_ne hj hcount), List.getD_eq_getElem?_getD,
    List.getElem?_set_self hcell, Option.getD_some]

end Ring

/-- A first-in first-out queue of at most `cap` elements. -/
structure Fifo (α : Type*) where
  cap : Nat
  items : List α
  length_le : items.length ≤ cap

namespace Fifo

variable {α : Type*}

/-- The empty queue. -/
def empty (cap : Nat) : Fifo α := ⟨cap, [], Nat.zero_le _⟩

/-- How many more elements fit. -/
def room (q : Fifo α) : Nat := q.cap - q.items.length

/-- Append the first `n` elements of `xs`, or as many as fit; the count appended. -/
def push (q : Fifo α) (xs : List α) (n : Nat) : Fifo α × Nat :=
  ⟨⟨q.cap, q.items ++ xs.take (min n q.room), by
    simp only [room, List.length_append, List.length_take]
    have := q.length_le
    omega⟩, min n q.room⟩

/-- Remove the first `n` elements, or all there are; the count removed. -/
def drop (q : Fifo α) (n : Nat) : Fifo α × Nat :=
  ⟨⟨q.cap, q.items.drop (min n q.items.length), by
    simp only [List.length_drop]
    have := q.length_le
    omega⟩, min n q.items.length⟩

/-- The elements from position `off` on, at most `n` of them, and their count; no such read
from past the end. -/
def peek (q : Fifo α) (off n : Nat) : Option (List α × Nat) :=
  if off ≤ q.items.length then
    some ((q.items.drop off).take (min n (q.items.length - off)), min n (q.items.length - off))
  else none

/-- Read the first `n` elements, or all there are, and remove them. -/
def pop (q : Fifo α) (n : Nat) : (List α × Nat) × Fifo α :=
  ((q.items.take (min n q.items.length), min n q.items.length), (q.drop n).1)

end Fifo
