import Mathlib

/-!
# Lists of pairs sorted by key

An ordered map from keys to values (a C++ `std::map`) as the list of its entries in strictly
increasing order of key. `emplace k v` adds an entry for `k` unless there is one already, as
`std::map::emplace` does. It keeps the list sorted (`pairwise_emplace`), and a key above every key
of the list goes at its end (`emplace_of_lt`), so emplacing the entries of a sorted list one by one
in order rebuilds that list.
-/

namespace KeyList

variable {κ β : Type*} [LT κ] [DecidableEq κ] [DecidableLT κ]

/-- Add the entry `(k, v)` unless an entry for `k` is there already. -/
def emplace (k : κ) (v : β) : List (κ × β) → List (κ × β)
  | [] => [(k, v)]
  | e :: rest =>
    if k < e.1 then (k, v) :: e :: rest
    else if k = e.1 then e :: rest
    else e :: emplace k v rest

/-- Emplacing adds at most the new entry. -/
theorem mem_emplace {k : κ} {v : β} {l : List (κ × β)} {e : κ × β} (he : e ∈ emplace k v l) :
    e = (k, v) ∨ e ∈ l := by
  induction l with
  | nil => simpa [emplace] using he
  | cons x rest ih =>
    unfold emplace at he
    split at he
    · simpa using he
    · split at he
      · exact .inr he
      · rcases List.mem_cons.1 he with rfl | he
        · exact .inr List.mem_cons_self
        · rcases ih he with h | h
          · exact .inl h
          · exact .inr (List.mem_cons_of_mem _ h)

/-- Set the entry for `k` to `v`, adding one if there is none (`map[k] = v`). -/
def assign (k : κ) (v : β) : List (κ × β) → List (κ × β)
  | [] => [(k, v)]
  | e :: rest =>
    if k < e.1 then (k, v) :: e :: rest
    else if k = e.1 then (k, v) :: rest
    else e :: assign k v rest

/-- Assigning adds at most the new entry. -/
theorem mem_assign {k : κ} {v : β} {l : List (κ × β)} {e : κ × β} (he : e ∈ assign k v l) :
    e = (k, v) ∨ e ∈ l := by
  induction l with
  | nil => simpa [assign] using he
  | cons x rest ih =>
    unfold assign at he
    split at he
    · simpa using he
    · split at he
      · rcases List.mem_cons.1 he with rfl | he
        · exact .inl rfl
        · exact .inr (List.mem_cons_of_mem _ he)
      · rcases List.mem_cons.1 he with rfl | he
        · exact .inr List.mem_cons_self
        · rcases ih he with h | h
          · exact .inl h
          · exact .inr (List.mem_cons_of_mem _ h)

omit [LT κ] [DecidableLT κ] in
/-- A pair in front for another key does not answer a lookup. -/
theorem lookup_cons_of_ne {t k : κ} {v : β} {l : List (κ × β)} (h : t ≠ k) :
    ((k, v) :: l).lookup t = l.lookup t := by
  rw [List.lookup_cons, (by simpa using h : (t == k) = false)]

/-- After an assignment the key has the new value and every other key its old one. By
induction on the list, whatever its order. -/
theorem lookup_assign (k t : κ) (v : β) (l : List (κ × β)) :
    (assign k v l).lookup t = if t = k then some v else l.lookup t := by
  induction l with
  | nil =>
    rw [assign]
    by_cases h : t = k
    · rw [if_pos h, h, List.lookup_cons_self]
    · rw [if_neg h, lookup_cons_of_ne h, List.lookup_nil]
  | cons e rest ih =>
    obtain ⟨k', v'⟩ := e
    unfold assign
    dsimp only
    split
    · -- the new entry goes in front
      by_cases h : t = k
      · rw [if_pos h, h, List.lookup_cons_self]
      · rw [if_neg h, lookup_cons_of_ne h]
    · split
      · -- the entry of `k` is replaced
        rename_i heq
        by_cases h : t = k
        · rw [if_pos h, h, List.lookup_cons_self]
        · rw [if_neg h, lookup_cons_of_ne h, lookup_cons_of_ne (heq ▸ h)]
      · rename_i hne
        by_cases h : t = k'
        · -- `t` is the key kept in front, not the one assigned
          have htk : t ≠ k := fun htk => hne (htk.symm.trans h)
          rw [if_neg htk, h, List.lookup_cons_self, List.lookup_cons_self]
        · rw [lookup_cons_of_ne h, ih, lookup_cons_of_ne h]

omit [LT κ] [DecidableLT κ] in
/-- A key none of whose entries is in the list has no value there. -/
theorem lookup_eq_none_of_forall {t : κ} {l : List (κ × β)} (h : ∀ e ∈ l, e.1 ≠ t) :
    l.lookup t = none :=
  List.lookup_eq_none_iff.2 fun e he => bne_iff_ne.2 (h e he).symm

/-- Assigning the entries of `l₂` one by one over `l₁` gives a right-biased union: a key of `l₂`
has its value there, any other its value in `l₁`. By induction on `l₂`, whose keys are
distinct. -/
theorem lookup_foldl_assign (t : κ) :
    ∀ (l₂ l₁ : List (κ × β)), l₂.Pairwise (fun a b => a.1 ≠ b.1) →
      (l₂.foldl (fun acc e => assign e.1 e.2 acc) l₁).lookup t = (l₂.lookup t).or (l₁.lookup t)
  | [], l₁, _ => by simp
  | (k, v) :: l₂, l₁, hdistinct => by
    rw [List.pairwise_cons] at hdistinct
    rw [List.foldl_cons, lookup_foldl_assign t l₂ _ hdistinct.2, lookup_assign]
    by_cases h : t = k
    · -- `k` has no other entry in `l₂`
      have hnone : l₂.lookup t = none :=
        lookup_eq_none_of_forall fun e he heq => hdistinct.1 e he (heq.trans h).symm
      rw [if_pos h, hnone, Option.none_or, h, List.lookup_cons_self, Option.some_or]
    · rw [if_neg h, lookup_cons_of_ne h]

section Order

variable [LE κ] [Std.IsLinearOrder κ] [Std.LawfulOrderLT κ]

/-- Emplacing keeps the keys strictly increasing. -/
theorem pairwise_emplace {k : κ} {v : β} {l : List (κ × β)}
    (hl : l.Pairwise fun a b => a.1 < b.1) :
    (emplace k v l).Pairwise fun a b => a.1 < b.1 := by
  induction l with
  | nil => simp [emplace]
  | cons x rest ih =>
    rw [List.pairwise_cons] at hl
    unfold emplace
    split
    · -- the new key goes in front of `x`, below every key after it
      rename_i hlt
      refine List.Pairwise.cons (fun e he => ?_) (List.Pairwise.cons hl.1 hl.2)
      rcases List.mem_cons.1 he with rfl | he
      · exact hlt
      · have := hl.1 e he
        grind
    · split
      · exact List.Pairwise.cons hl.1 hl.2
      · rename_i hnlt hne
        refine List.Pairwise.cons (fun e he => ?_) (ih hl.2)
        rcases mem_emplace he with rfl | he
        · grind
        · exact hl.1 e he

/-- A key above every key of the list goes at its end. -/
theorem emplace_of_lt {k : κ} {v : β} {l : List (κ × β)} (hk : ∀ e ∈ l, e.1 < k) :
    emplace k v l = l ++ [(k, v)] := by
  induction l with
  | nil => rfl
  | cons x rest ih =>
    have hx := hk x List.mem_cons_self
    have hnlt : ¬ k < x.1 := by grind
    have hne : k ≠ x.1 := by grind
    rw [emplace, if_neg hnlt, if_neg hne, ih (fun e he => hk e (List.mem_cons_of_mem _ he))]
    rfl

/-- Assigning keeps the keys strictly increasing. -/
theorem pairwise_assign {k : κ} {v : β} {l : List (κ × β)}
    (hl : l.Pairwise fun a b => a.1 < b.1) :
    (assign k v l).Pairwise fun a b => a.1 < b.1 := by
  induction l with
  | nil => simp [assign]
  | cons x rest ih =>
    rw [List.pairwise_cons] at hl
    unfold assign
    split
    · -- the new key goes in front of `x`, below every key after it
      rename_i hlt
      refine List.Pairwise.cons (fun e he => ?_) (List.Pairwise.cons hl.1 hl.2)
      rcases List.mem_cons.1 he with rfl | he
      · exact hlt
      · have := hl.1 e he
        grind
    · split
      · -- the new value takes the place of `x`'s, with `x`'s key
        rename_i hnlt heq
        refine List.Pairwise.cons (fun e he => ?_) hl.2
        rw [heq]
        exact hl.1 e he
      · rename_i hnlt hne
        refine List.Pairwise.cons (fun e he => ?_) (ih hl.2)
        rcases mem_assign he with rfl | he
        · grind
        · exact hl.1 e he

/-- Assigning the entries of a list one by one keeps the keys strictly increasing. -/
theorem pairwise_foldl_assign (l₂ : List (κ × β)) :
    ∀ {l₁ : List (κ × β)}, (l₁.Pairwise fun a b => a.1 < b.1) →
      (l₂.foldl (fun acc e => assign e.1 e.2 acc) l₁).Pairwise fun a b => a.1 < b.1 := by
  induction l₂ with
  | nil => exact id
  | cons e l₂ ih => exact fun hl => ih (pairwise_assign hl)

end Order

/-- Emplacing adds at most the weight of the new entry, whatever weight `f` gives an entry. -/
theorem sum_map_emplace_le (f : κ × β → Nat) (k : κ) (v : β) (l : List (κ × β)) :
    ((emplace k v l).map f).sum ≤ (l.map f).sum + f (k, v) := by
  induction l with
  | nil => simp [emplace]
  | cons e rest ih =>
    unfold emplace
    split
    · simp only [List.map_cons, List.sum_cons]
      omega
    · split
      · omega
      · simp only [List.map_cons, List.sum_cons]
        omega

/-- Assigning adds at most the weight of the new entry. -/
theorem sum_map_assign_le (f : κ × β → Nat) (k : κ) (v : β) (l : List (κ × β)) :
    ((assign k v l).map f).sum ≤ (l.map f).sum + f (k, v) := by
  induction l with
  | nil => simp [assign]
  | cons e rest ih =>
    unfold assign
    split
    · simp only [List.map_cons, List.sum_cons]
      omega
    · split
      · -- the new entry takes the place of `e`
        simp only [List.map_cons, List.sum_cons]
        omega
      · simp only [List.map_cons, List.sum_cons]
        omega

end KeyList
