import Mathlib

/-!
# Lists of addressed nodes

A `std::list` seen through its iterators: every node has an address, an iterator is the address
of a node, and `none` stands for `end()`. A new node gets an address no node of the list has
(`fresh`), so the addresses stay distinct.

Each operation is read as an operation on the values the list holds (`values`) at the position
of the iterator (`index`, which is `std::distance(begin(), it)`): insertion before an iterator is
`insertIdx` (`values_insertBefore`), erasure is `eraseIdx` (`values_erase`), a write through an
iterator is `modify` (`values_modify`) and a read is `getElem?` (`get?_eq`). A splice within one
list is an erasure followed by an insertion; to the front it moves the node first
(`splice_head`). `insertBefore` is a permutation and `erase` a sublist, from which the
distinctness of addresses, and of anything else the nodes hold, is kept.
-/

namespace NodeList

variable {α : Type*}

/-- The values held, in order. -/
def values (l : List (Nat × α)) : List α := l.map Prod.snd

/-- The addresses of the nodes, in order. -/
def addrs (l : List (Nat × α)) : List Nat := l.map Prod.fst

/-- `std::distance(begin(), it)`: the position of the node at `it`, and the length for `end()`
or an address no node has. -/
def index (l : List (Nat × α)) (it : Option Nat) : Nat := l.findIdx fun n => decide (some n.1 = it)

/-- `emplace(pos, x)`: the node `n` before the node at `pos`, or last for `end()`. -/
def insertBefore (pos : Option Nat) (n : Nat × α) : List (Nat × α) → List (Nat × α)
  | [] => [n]
  | m :: l => if some m.1 = pos then n :: m :: l else m :: insertBefore pos n l

/-- `erase(it)`: the node at `a` unlinked. -/
def erase (a : Nat) : List (Nat × α) → List (Nat × α)
  | [] => []
  | m :: l => if m.1 = a then l else m :: erase a l

/-- `*it`: the value of the node at `a`. -/
def get? (a : Nat) : List (Nat × α) → Option α
  | [] => none
  | m :: l => if m.1 = a then some m.2 else get? a l

/-- A write through the iterator `a`: `f` applied to the value of its node. -/
def modify (a : Nat) (f : α → α) : List (Nat × α) → List (Nat × α)
  | [] => []
  | m :: l => if m.1 = a then (m.1, f m.2) :: l else m :: modify a f l

/-- `std::next(it)`: the node after the one at `a`, which `erase` returns. -/
def next (a : Nat) : List (Nat × α) → Option Nat
  | [] => none
  | m :: l => if m.1 = a then l.head?.map Prod.fst else next a l

/-- `begin()`. -/
def begin (l : List (Nat × α)) : Option Nat := l.head?.map Prod.fst

/-- `splice(pos, *this, it)` within one list: the node at `a` moves before `pos`. Splicing a node
before itself moves nothing. -/
def splice (pos : Option Nat) (a : Nat) (l : List (Nat × α)) : List (Nat × α) :=
  if pos = some a then l
  else
    match get? a l with
    | some x => insertBefore pos (a, x) (erase a l)
    | none => l

/-- An address no node has: one past the largest. -/
def fresh (l : List (Nat × α)) : Nat := (addrs l).foldr max 0 + 1

/-! ## Positions -/

section Positions

variable {l : List (Nat × α)} {pos : Option Nat} {a : Nat}

@[simp] theorem index_nil (it : Option Nat) : index ([] : List (Nat × α)) it = 0 := rfl

theorem index_cons (m : Nat × α) (l : List (Nat × α)) (it : Option Nat) :
    index (m :: l) it = if some m.1 = it then 0 else index l it + 1 := by
  unfold index
  rw [List.findIdx_cons]
  by_cases h : some m.1 = it <;> simp [h]

@[simp] theorem values_cons (m : Nat × α) (l : List (Nat × α)) :
    values (m :: l) = m.2 :: values l := rfl

@[simp] theorem length_values (l : List (Nat × α)) : (values l).length = l.length :=
  List.length_map _

/-- An iterator to no node of the list is past its end. -/
theorem index_of_not_mem (h : ∀ m ∈ l, some m.1 ≠ pos) : index l pos = l.length := by
  unfold index
  exact List.findIdx_eq_length_of_false fun m hm => by simpa using h m hm

theorem index_none (l : List (Nat × α)) : index l none = l.length :=
  index_of_not_mem fun _ _ => Option.some_ne_none _

/-- `begin()` is at position 0, also when it is `end()`. -/
theorem index_begin : ∀ l : List (Nat × α), index l (begin l) = 0
  | [] => rfl
  | m :: l => by
    rw [index_cons]
    exact if_pos rfl

theorem fresh_not_mem (l : List (Nat × α)) : fresh l ∉ addrs l := by
  -- every address is at most the largest, which `fresh` passes
  have hle : ∀ xs : List Nat, ∀ b ∈ xs, b ≤ xs.foldr max 0 := by
    intro xs b hb
    induction xs with
    | nil => simp at hb
    | cons c cs ih =>
      rcases List.mem_cons.1 hb with rfl | hb
      · exact Nat.le_max_left _ _
      · exact Nat.le_trans (ih hb) (Nat.le_max_right _ _)
  intro hmem
  have := hle _ _ hmem
  unfold fresh at this
  omega

end Positions

/-! ## Each operation on the values -/

section Values

variable {l : List (Nat × α)} {pos : Option Nat} {a : Nat}

theorem values_insertBefore (pos : Option Nat) (n : Nat × α) :
    ∀ l : List (Nat × α), values (insertBefore pos n l) = (values l).insertIdx (index l pos) n.2
  | [] => rfl
  | m :: l => by
    rw [insertBefore, index_cons]
    by_cases h : some m.1 = pos
    · rw [if_pos h, if_pos h]
      rfl
    · rw [if_neg h, if_neg h, values_cons, values_cons, values_insertBefore pos n l]
      rfl

theorem values_erase (a : Nat) :
    ∀ l : List (Nat × α), values (erase a l) = (values l).eraseIdx (index l (some a))
  | [] => rfl
  | m :: l => by
    rw [erase, index_cons]
    by_cases h : m.1 = a
    · rw [if_pos h, if_pos (congrArg some h)]
      rfl
    · rw [if_neg h, if_neg (fun h' => h (Option.some.inj h')), values_cons, values_cons,
        values_erase a l]
      rfl

theorem values_modify (a : Nat) (f : α → α) :
    ∀ l : List (Nat × α), values (modify a f l) = (values l).modify (index l (some a)) f
  | [] => rfl
  | m :: l => by
    rw [modify, index_cons]
    by_cases h : m.1 = a
    · rw [if_pos h, if_pos (congrArg some h)]
      rfl
    · rw [if_neg h, if_neg (fun h' => h (Option.some.inj h')), values_cons, values_cons,
        values_modify a f l, List.modify_succ_cons]

theorem get?_eq (a : Nat) : ∀ l : List (Nat × α), get? a l = (values l)[index l (some a)]?
  | [] => rfl
  | m :: l => by
    rw [get?, index_cons]
    by_cases h : m.1 = a
    · rw [if_pos h, if_pos (congrArg some h)]
      rfl
    · rw [if_neg h, if_neg (fun h' => h (Option.some.inj h')), values_cons,
        List.getElem?_cons_succ, get?_eq a l]

@[simp] theorem addrs_cons (m : Nat × α) (l : List (Nat × α)) :
    addrs (m :: l) = m.1 :: addrs l := rfl

theorem addrs_modify (a : Nat) (f : α → α) :
    ∀ l : List (Nat × α), addrs (modify a f l) = addrs l
  | [] => rfl
  | m :: l => by
    rw [modify]
    split_ifs
    · rfl
    · rw [addrs_cons, addrs_cons, addrs_modify a f l]

theorem length_modify (a : Nat) (f : α → α) (l : List (Nat × α)) :
    (modify a f l).length = l.length := by
  have hlen := congrArg List.length (addrs_modify a f l)
  simpa only [addrs, List.length_map] using hlen

theorem insertBefore_perm (pos : Option Nat) (n : Nat × α) :
    ∀ l : List (Nat × α), (insertBefore pos n l).Perm (n :: l)
  | [] => .refl _
  | m :: l => by
    rw [insertBefore]
    split_ifs
    · exact .refl _
    · exact ((insertBefore_perm pos n l).cons m).trans (.swap n m l)

theorem erase_sublist (a : Nat) : ∀ l : List (Nat × α), (erase a l).Sublist l
  | [] => .slnil
  | m :: l => by
    rw [erase]
    split_ifs
    · exact .cons m (.refl l)
    · exact (erase_sublist a l).cons_cons m

theorem mem_insertBefore {n x : Nat × α} : x ∈ insertBefore pos n l ↔ x = n ∨ x ∈ l := by
  rw [(insertBefore_perm pos n l).mem_iff, List.mem_cons]

/-- With distinct addresses, erasing `a` removes exactly its node. -/
theorem mem_erase (hnodup : (addrs l).Nodup) {x : Nat × α} :
    x ∈ erase a l ↔ x ∈ l ∧ x.1 ≠ a := by
  induction l with
  | nil => simp [erase]
  | cons m l ih =>
    rw [addrs_cons, List.nodup_cons] at hnodup
    rw [erase]
    by_cases h : m.1 = a
    · rw [if_pos h, List.mem_cons]
      constructor
      · intro hx
        refine ⟨.inr hx, fun hxa => hnodup.1 ?_⟩
        rw [h, ← hxa]
        exact List.mem_map_of_mem hx
      · rintro ⟨rfl | hx, hxa⟩
        · exact absurd h hxa
        · exact hx
    · rw [if_neg h, List.mem_cons, List.mem_cons, ih hnodup.2]
      constructor
      · rintro (rfl | ⟨hx, hxa⟩)
        · exact ⟨.inl rfl, h⟩
        · exact ⟨.inr hx, hxa⟩
      · rintro ⟨rfl | hx, hxa⟩
        · exact .inl rfl
        · exact .inr ⟨hx, hxa⟩

/-- With distinct addresses, `get?` finds the node at the address. -/
theorem get?_eq_some_iff (hnodup : (addrs l).Nodup) {x : α} :
    get? a l = some x ↔ (a, x) ∈ l := by
  induction l with
  | nil => simp [get?]
  | cons m l ih =>
    rw [addrs_cons, List.nodup_cons] at hnodup
    rw [get?, List.mem_cons]
    by_cases h : m.1 = a
    · rw [if_pos h, Option.some.injEq]
      constructor
      · rintro rfl
        exact .inl (Prod.ext h.symm rfl)
      · rintro (rfl | hx)
        · rfl
        · exact absurd (h ▸ List.mem_map_of_mem (f := Prod.fst) hx) hnodup.1
    · rw [if_neg h, ih hnodup.2]
      constructor
      · exact .inr
      · rintro (rfl | hx)
        · exact absurd rfl h
        · exact hx

theorem get?_eq_none_iff : get? a l = none ↔ a ∉ addrs l := by
  induction l with
  | nil => simp [get?, addrs]
  | cons m l ih =>
    rw [get?, addrs_cons, List.mem_cons]
    split_ifs with h
    · simp [h]
    · rw [ih]
      exact ⟨fun hl => not_or.2 ⟨Ne.symm h, hl⟩, fun hl => (not_or.1 hl).2⟩

end Values

/-! ## Views that keep the addresses

What a node holds is often looked at only in part (a map looks at the keys of its entries):
`l.map (Prod.map id g)`. Every operation commutes with such a view, and a write that `g` does not
see leaves the view as it was (`map_modify`). -/

section View

variable {γ : Type*} (g : α → γ)

theorem map_insertBefore (pos : Option Nat) (n : Nat × α) :
    ∀ l : List (Nat × α), (insertBefore pos n l).map (Prod.map id g) =
      insertBefore pos (Prod.map id g n) (l.map (Prod.map id g))
  | [] => rfl
  | m :: l => by
    have hfst : (Prod.map id g m).1 = m.1 := rfl
    rw [List.map_cons, insertBefore, insertBefore, hfst]
    split_ifs
    · rfl
    · rw [List.map_cons, map_insertBefore pos n l]

theorem map_erase (a : Nat) :
    ∀ l : List (Nat × α), (erase a l).map (Prod.map id g) = erase a (l.map (Prod.map id g))
  | [] => rfl
  | m :: l => by
    have hfst : (Prod.map id g m).1 = m.1 := rfl
    rw [List.map_cons, erase, erase, hfst]
    split_ifs
    · rfl
    · rw [List.map_cons, map_erase a l]

theorem get?_map (a : Nat) :
    ∀ l : List (Nat × α), get? a (l.map (Prod.map id g)) = (get? a l).map g
  | [] => rfl
  | m :: l => by
    have hfst : (Prod.map id g m).1 = m.1 := rfl
    rw [List.map_cons, get?, get?, hfst]
    split_ifs
    · rfl
    · exact get?_map a l

/-- A write that keeps part of a value (a map's key, say) keeps that part of every node. -/
theorem map_modify {f : α → α} (hf : ∀ x, g (f x) = g x) (a : Nat) :
    ∀ l : List (Nat × α), (modify a f l).map (Prod.map id g) = l.map (Prod.map id g)
  | [] => rfl
  | m :: l => by
    rw [modify]
    split_ifs
    · simp only [List.map_cons, Prod.map, id, hf]
    · rw [List.map_cons, List.map_cons, map_modify hf a l]

theorem addrs_map (l : List (Nat × α)) : addrs (l.map (Prod.map id g)) = addrs l := by
  simp only [addrs, List.map_map]
  rfl

end View

/-! ## Permutations -/

section Perm

variable {l : List (Nat × α)} {a : Nat}

/-- The node `get?` finds, in front of the rest. -/
theorem perm_cons_erase {x : α} :
    ∀ {l : List (Nat × α)}, get? a l = some x → l.Perm ((a, x) :: erase a l)
  | [], h => by simp [get?] at h
  | m :: l, h => by
    rw [get?] at h
    rw [erase]
    split_ifs at h ⊢ with hm
    · cases h
      rw [← hm]
    · exact ((perm_cons_erase h).cons m).trans (.swap _ _ _)

/-- A splice within one list only reorders it. -/
theorem splice_perm (pos : Option Nat) (a : Nat) (l : List (Nat × α)) :
    (splice pos a l).Perm l := by
  unfold splice
  split_ifs
  · exact .refl _
  · split
    · rename_i x hx
      exact (insertBefore_perm pos _ _).trans (perm_cons_erase hx).symm
    · exact .refl _

theorem map_splice {γ : Type*} (g : α → γ) (pos : Option Nat) (a : Nat) (l : List (Nat × α)) :
    (splice pos a l).map (Prod.map id g) = splice pos a (l.map (Prod.map id g)) := by
  unfold splice
  split_ifs
  · rfl
  · rw [get?_map]
    cases get? a l with
    | none => rfl
    | some x => rw [Option.map_some, map_insertBefore, map_erase]; rfl

/-- With distinct addresses, one address holds one value. -/
theorem eq_of_mem_of_mem (hnodup : (addrs l).Nodup) {x y : α} (hx : (a, x) ∈ l)
    (hy : (a, y) ∈ l) : x = y := by
  rw [← get?_eq_some_iff hnodup] at hx hy
  rw [hx] at hy
  exact Option.some.inj hy

/-- With distinct addresses, `erase` removes every node at the address. -/
theorem erase_eq_filter (hnodup : (addrs l).Nodup) :
    erase a l = l.filter fun n => n.1 ≠ a := by
  induction l with
  | nil => rfl
  | cons m l ih =>
    rw [addrs_cons, List.nodup_cons] at hnodup
    rw [erase]
    by_cases h : m.1 = a
    · rw [if_pos h, List.filter_cons_of_neg (by simpa using h), eq_comm, List.filter_eq_self]
      -- no node further on has the address
      intro n hn
      have hne : n.1 ≠ a := fun hna => hnodup.1 (h ▸ hna ▸ List.mem_map_of_mem hn)
      simpa using hne
    · rw [if_neg h, List.filter_cons_of_pos (by simpa using h), ih hnodup.2]

/-- With distinct addresses, `modify` changes every node at the address. -/
theorem modify_eq_map (hnodup : (addrs l).Nodup) (f : α → α) :
    modify a f l = l.map fun n => if n.1 = a then (n.1, f n.2) else n := by
  induction l with
  | nil => rfl
  | cons m l ih =>
    rw [addrs_cons, List.nodup_cons] at hnodup
    rw [modify, List.map_cons]
    by_cases h : m.1 = a
    · rw [if_pos h, if_pos h]
      congr 1
      -- no node further on has the address
      refine ((List.map_congr_left fun n hn => ?_).trans (List.map_id l)).symm
      have hne : n.1 ≠ a := fun hna => hnodup.1 (h ▸ hna ▸ List.mem_map_of_mem hn)
      rw [if_neg hne]
      rfl
    · rw [if_neg h, if_neg h, ih hnodup.2]

end Perm

/-! ## Splices and the iterator `erase` returns -/

section Splice

variable {l : List (Nat × α)} {a : Nat}

/-- Splicing the first node to the front moves nothing. -/
theorem splice_head_self (m : Nat × α) (rest : List (Nat × α)) :
    splice (begin (m :: rest)) m.1 (m :: rest) = m :: rest := by
  simp only [splice, begin, List.head?_cons, Option.map_some, if_true]

/-- Splicing another node to the front puts it first and leaves the others in order. -/
theorem splice_head {m : Nat × α} {rest : List (Nat × α)} {x : α} (hne : m.1 ≠ a)
    (hx : get? a (m :: rest) = some x) :
    splice (begin (m :: rest)) a (m :: rest) = (a, x) :: erase a (m :: rest) := by
  have hpos : begin (m :: rest) = some m.1 := rfl
  rw [splice, hpos, if_neg (fun h => hne (Option.some.inj h)), hx]
  simp only [erase, if_neg hne, insertBefore, if_true]

theorem next_mem : ∀ {l : List (Nat × α)} {b : Nat}, next a l = some b → b ∈ addrs l
  | [], _, h => by simp [next] at h
  | m :: l, b, h => by
    rw [next] at h
    split_ifs at h
    · cases l with
      | nil => simp at h
      | cons m' l =>
        simp only [List.head?_cons, Option.map_some, Option.some.injEq] at h
        simp [← h]
    · exact List.mem_cons_of_mem _ (next_mem h)

/-- `erase` returns the iterator to the node after the erased one, which then stands where the
erased one stood. -/
theorem index_next (hnodup : (addrs l).Nodup) (ha : a ∈ addrs l) :
    index (erase a l) (next a l) = index l (some a) := by
  induction l with
  | nil => simp [addrs] at ha
  | cons m l ih =>
    rw [addrs_cons, List.nodup_cons] at hnodup
    by_cases h : m.1 = a
    · rw [erase, if_pos h, next, if_pos h, index_cons, if_pos (congrArg some h)]
      cases l with
      | nil => rfl
      | cons m' l => simp [index_cons]
    · have ha' : a ∈ addrs l := by
        rw [addrs_cons, List.mem_cons] at ha
        exact ha.resolve_left (Ne.symm h)
      -- the node kept in front is not the one `next` returns, which lies further on
      have hnext : some m.1 ≠ next a l := by
        intro heq
        exact hnodup.1 (next_mem heq.symm)
      rw [erase, if_neg h, next, if_neg h, index_cons, if_neg hnext, ih hnodup.2 ha', index_cons,
        if_neg (fun h' => h (Option.some.inj h'))]

end Splice

end NodeList
