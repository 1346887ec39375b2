import Mathlib

/-!
# Maps kept in insertion order

`ListMap κ β` is a map from keys to values that keeps its entries in the order they were put in:
a list of entries indexed by a hash map, as in a C++ `std::list` of pairs beside an
`std::unordered_map` from keys to list iterators. Here it is the list of its entries, whose keys
are distinct, a fact the structure keeps as a field.

An entry goes in at the front or at the back (`tryEmplaceFront`, `tryEmplaceBack`, and
`insertOrAssignBack`, which changes the value in place when the key is there); `modify` changes
a value in place, `erase` and `filter` remove entries, `spliceFront` moves an entry to the front
and `eraseLast` removes the last one.

For each operation, `mem_*` says which entries the result holds and `size_*` how many, so that an
invariant of the entries is kept when the entries an operation adds satisfy it.
-/

/-- Entries with distinct keys, in order. -/
structure ListMap (κ β : Type*) where
  entries : List (κ × β)
  nodup : (entries.map Prod.fst).Nodup

namespace ListMap

variable {κ β : Type*}

/-- The map without entries. -/
def empty : ListMap κ β := ⟨[], List.nodup_nil⟩

/-- The keys, in order. -/
def keys (m : ListMap κ β) : List κ := m.entries.map Prod.fst

/-- `size`. -/
def size (m : ListMap κ β) : Nat := m.entries.length

@[simp] theorem entries_empty : (empty : ListMap κ β).entries = [] := rfl

/-- A map is its entries. -/
@[ext] theorem ext {m m' : ListMap κ β} (h : m.entries = m'.entries) : m = m' := by
  cases m
  cases m'
  cases h
  rfl

theorem mem_keys {m : ListMap κ β} {k : κ} : k ∈ m.keys ↔ ∃ v, (k, v) ∈ m.entries := by
  simp [keys]

/-- Two entries with one key are the same entry. -/
theorem eq_of_mem_of_mem {m : ListMap κ β} {k : κ} {v w : β} (hv : (k, v) ∈ m.entries)
    (hw : (k, w) ∈ m.entries) : v = w := by
  obtain ⟨l, hnodup⟩ := m
  induction l with
  | nil => simp at hv
  | cons e l ih =>
    rw [List.map_cons, List.nodup_cons] at hnodup
    rcases List.mem_cons.1 hv with hve | hv' <;> rcases List.mem_cons.1 hw with hwe | hw'
    · exact (Prod.mk.inj (hve.trans hwe.symm)).2
    · -- the key of the head entry comes again later
      have hmem : e.1 ∈ l.map Prod.fst := by rw [← hve]; exact List.mem_map.2 ⟨(k, w), hw', rfl⟩
      exact absurd hmem hnodup.1
    · have hmem : e.1 ∈ l.map Prod.fst := by rw [← hwe]; exact List.mem_map.2 ⟨(k, v), hv', rfl⟩
      exact absurd hmem hnodup.1
    · exact ih hnodup.2 hv' hw'

theorem size_pos_of_mem {m : ListMap κ β} {e : κ × β} (he : e ∈ m.entries) : 0 < m.size :=
  List.length_pos_of_mem he

/-- The entries that satisfy `p`: erasing those that do not while iterating. -/
def filter (m : ListMap κ β) (p : κ × β → Bool) : ListMap κ β :=
  ⟨m.entries.filter p, m.nodup.sublist ((List.filter_sublist).map _)⟩

theorem mem_filter {m : ListMap κ β} {p : κ × β → Bool} {e : κ × β} :
    e ∈ (m.filter p).entries ↔ e ∈ m.entries ∧ p e = true := by
  simp [filter]

theorem size_filter_le (m : ListMap κ β) (p : κ × β → Bool) : (m.filter p).size ≤ m.size :=
  List.length_filter_le _ _

variable [DecidableEq κ]

/-- `find`: the value of the entry with key `k`. -/
def find? (m : ListMap κ β) (k : κ) : Option β :=
  (m.entries.find? fun e => e.1 = k).map Prod.snd

/-- `contains`. -/
def contains (m : ListMap κ β) (k : κ) : Bool := (m.find? k).isSome

/-- The entries whose key is not `k`. -/
def erase (m : ListMap κ β) (k : κ) : ListMap κ β :=
  ⟨m.entries.filter fun e => e.1 ≠ k, m.nodup.sublist ((List.filter_sublist).map _)⟩

/-- `extract`: the value at `k`, if any, and the map without it. -/
def extract (m : ListMap κ β) (k : κ) : Option β × ListMap κ β := (m.find? k, m.erase k)

/-- Apply `f` to the value at `k` in place (a write through the iterator `find` returns). -/
def modify (m : ListMap κ β) (k : κ) (f : β → β) : ListMap κ β :=
  ⟨m.entries.map (fun e => if e.1 = k then (e.1, f e.2) else e), by
    have hkeys : (m.entries.map (fun e => if e.1 = k then (e.1, f e.2) else e)).map Prod.fst =
        m.entries.map Prod.fst := by
      rw [List.map_map]
      congr 1
      funext e
      by_cases h : e.1 = k <;> simp [h]
    rw [hkeys]
    exact m.nodup⟩

/-- `try_emplace` at the end: `(k, v)` goes last unless `k` has an entry. -/
def tryEmplaceBack (m : ListMap κ β) (k : κ) (v : β) : ListMap κ β :=
  if h : k ∈ m.keys then m
  else ⟨m.entries ++ [(k, v)], by
    rw [List.map_append, List.nodup_append]
    refine ⟨m.nodup, by simp, ?_⟩
    intro a ha b hb hab
    simp only [List.map_cons, List.map_nil, List.mem_singleton] at hb
    exact h (hb ▸ hab ▸ ha)⟩

/-- `try_emplace` at the front: `(k, v)` goes first unless `k` has an entry. -/
def tryEmplaceFront (m : ListMap κ β) (k : κ) (v : β) : ListMap κ β :=
  if h : k ∈ m.keys then m
  else ⟨(k, v) :: m.entries, List.nodup_cons.2 ⟨h, m.nodup⟩⟩

/-- `insert_or_assign` at the end: the value of `k` in place, or a new last entry. -/
def insertOrAssignBack (m : ListMap κ β) (k : κ) (v : β) : ListMap κ β :=
  if k ∈ m.keys then m.modify k fun _ => v else m.tryEmplaceBack k v

/-- `splice` of the entry of `k` to the front. -/
def spliceFront (m : ListMap κ β) (k : κ) : ListMap κ β :=
  match h : m.find? k with
  | some v => ⟨(k, v) :: (m.erase k).entries, List.nodup_cons.2 ⟨by
      simp [erase], (m.erase k).nodup⟩⟩
  | none => m

/-- Remove the last entry (`extract(std::prev(end())->first)`). -/
def eraseLast (m : ListMap κ β) : ListMap κ β :=
  match m.entries.getLast? with
  | some e => m.erase e.1
  | none => m

/-! ## Keys and values -/

/-- `find` returns the value of the entry with the key. -/
theorem find?_eq_some_iff {m : ListMap κ β} {k : κ} {v : β} :
    m.find? k = some v ↔ (k, v) ∈ m.entries := by
  constructor
  · intro h
    obtain ⟨e, he, rfl⟩ := Option.map_eq_some_iff.1 h
    have hk : e.1 = k := by simpa using List.find?_some he
    have hmem := List.mem_of_find?_eq_some he
    rw [← hk]
    exact hmem
  · intro h
    obtain ⟨e, he⟩ : ∃ e, m.entries.find? (fun e => e.1 = k) = some e := by
      cases hfind : m.entries.find? (fun e => e.1 = k) with
      | some e => exact ⟨e, rfl⟩
      | none => simpa using List.find?_eq_none.1 hfind _ h
    have hk : e.1 = k := by simpa using List.find?_some he
    have hmem : (k, e.2) ∈ m.entries := hk ▸ List.mem_of_find?_eq_some he
    simp [find?, he, eq_of_mem_of_mem hmem h]

theorem find?_eq_none_iff {m : ListMap κ β} {k : κ} : m.find? k = none ↔ k ∉ m.keys := by
  rw [mem_keys]
  constructor
  · rintro h ⟨v, hv⟩
    rw [← find?_eq_some_iff, h] at hv
    exact absurd hv (by simp)
  · intro h
    cases hfind : m.find? k with
    | none => rfl
    | some v => exact absurd ⟨v, find?_eq_some_iff.1 hfind⟩ h

theorem contains_iff {m : ListMap κ β} {k : κ} : m.contains k = true ↔ k ∈ m.keys := by
  rw [contains, Option.isSome_iff_ne_none, ne_eq, find?_eq_none_iff, not_not]

/-! ## What each operation does to the entries -/

theorem mem_erase {m : ListMap κ β} {k : κ} {e : κ × β} :
    e ∈ (m.erase k).entries ↔ e ∈ m.entries ∧ e.1 ≠ k := by
  simp [erase]

theorem mem_modify {m : ListMap κ β} {k : κ} {f : β → β} {e : κ × β} :
    e ∈ (m.modify k f).entries ↔
      (e ∈ m.entries ∧ e.1 ≠ k) ∨ ∃ v, (k, v) ∈ m.entries ∧ e = (k, f v) := by
  simp only [modify, List.mem_map]
  constructor
  · rintro ⟨e', he', rfl⟩
    by_cases h : e'.1 = k
    · exact .inr ⟨e'.2, h ▸ he', by simp [h]⟩
    · exact .inl ⟨by simpa [h] using he', by simp [h]⟩
  · rintro (⟨he, hk⟩ | ⟨v, hv, rfl⟩)
    · exact ⟨e, he, by simp [hk]⟩
    · exact ⟨(k, v), hv, by simp⟩

theorem mem_tryEmplaceBack {m : ListMap κ β} {k : κ} {v : β} {e : κ × β} :
    e ∈ (m.tryEmplaceBack k v).entries ↔ e ∈ m.entries ∨ (k ∉ m.keys ∧ e = (k, v)) := by
  unfold tryEmplaceBack
  split <;> simp_all

theorem mem_tryEmplaceFront {m : ListMap κ β} {k : κ} {v : β} {e : κ × β} :
    e ∈ (m.tryEmplaceFront k v).entries ↔ e ∈ m.entries ∨ (k ∉ m.keys ∧ e = (k, v)) := by
  unfold tryEmplaceFront
  split
  · simp_all
  · simp only [List.mem_cons]
    tauto

theorem mem_spliceFront {m : ListMap κ β} {k : κ} {e : κ × β} :
    e ∈ (m.spliceFront k).entries ↔ e ∈ m.entries := by
  unfold spliceFront
  split
  · rename_i v hv
    have hmem := find?_eq_some_iff.1 hv
    simp only [List.mem_cons]
    constructor
    · rintro (rfl | he)
      · exact hmem
      · exact (mem_erase.1 he).1
    · intro he
      by_cases hk : e.1 = k
      · exact .inl (Prod.ext hk (eq_of_mem_of_mem (hk ▸ he) hmem))
      · exact .inr (mem_erase.2 ⟨he, hk⟩)
  · rfl

theorem entries_spliceFront {m : ListMap κ β} {k : κ} {v : β} (h : m.find? k = some v) :
    (m.spliceFront k).entries = (k, v) :: (m.erase k).entries := by
  unfold spliceFront
  split
  · rename_i w hw
    rw [h, Option.some.injEq] at hw
    rw [hw]
  · rename_i hw
    rw [h] at hw
    exact absurd hw (by simp)

theorem spliceFront_of_not_mem {m : ListMap κ β} {k : κ} (h : k ∉ m.keys) : m.spliceFront k = m := by
  unfold spliceFront
  split
  · rename_i w hw
    exact absurd (mem_keys.2 ⟨w, find?_eq_some_iff.1 hw⟩) h
  · rfl

/-- Erasing the key of the first entry leaves the others. -/
theorem entries_erase_front {m : ListMap κ β} {k : κ} {v : β} {rest : List (κ × β)}
    (h : m.entries = (k, v) :: rest) : (m.erase k).entries = rest := by
  have hnodup := m.nodup
  rw [h, List.map_cons, List.nodup_cons] at hnodup
  simp only [erase, h, ne_eq, not_true_eq_false, decide_false, Bool.false_eq_true,
    not_false_eq_true, List.filter_cons_of_neg]
  rw [List.filter_eq_self]
  intro e he
  have hne : e.1 ≠ k := by
    rintro rfl
    exact hnodup.1 (List.mem_map.2 ⟨e, he, rfl⟩)
  simpa using hne

theorem mem_eraseLast {m : ListMap κ β} {e : κ × β} (he : e ∈ (m.eraseLast).entries) :
    e ∈ m.entries := by
  unfold eraseLast at he
  split at he
  · exact (mem_erase.1 he).1
  · exact he

theorem mem_insertOrAssignBack {m : ListMap κ β} {k : κ} {v : β} {e : κ × β} :
    e ∈ (m.insertOrAssignBack k v).entries ↔ (e ∈ m.entries ∧ e.1 ≠ k) ∨ e = (k, v) := by
  unfold insertOrAssignBack
  split
  · rename_i hk
    rw [mem_modify]
    obtain ⟨w, hw⟩ := mem_keys.1 hk
    constructor
    · rintro (h | ⟨w', -, rfl⟩)
      · exact .inl h
      · exact .inr rfl
    · rintro (h | rfl)
      · exact .inl h
      · exact .inr ⟨w, hw, rfl⟩
  · rename_i hk
    rw [mem_tryEmplaceBack]
    constructor
    · rintro (h | ⟨-, rfl⟩)
      · exact .inl ⟨h, fun hek => hk (mem_keys.2 ⟨e.2, hek ▸ h⟩)⟩
      · exact .inr rfl
    · rintro (⟨h, -⟩ | rfl)
      · exact .inl h
      · exact .inr ⟨hk, rfl⟩

theorem mem_keys_erase {m : ListMap κ β} {k q : κ} : q ∈ (m.erase k).keys ↔ q ∈ m.keys ∧ q ≠ k := by
  simp only [mem_keys, mem_erase]
  constructor
  · rintro ⟨v, hv, hq⟩
    exact ⟨⟨v, hv⟩, hq⟩
  · rintro ⟨⟨v, hv⟩, hq⟩
    exact ⟨v, hv, hq⟩

/-- `insert_or_assign` keeps every key and adds its own. -/
theorem mem_keys_insertOrAssignBack {m : ListMap κ β} {k q : κ} {v : β} :
    q ∈ (m.insertOrAssignBack k v).keys ↔ q = k ∨ q ∈ m.keys := by
  simp only [mem_keys, mem_insertOrAssignBack, Prod.mk.injEq]
  constructor
  · rintro ⟨w, ⟨hw, -⟩ | ⟨rfl, -⟩⟩
    · exact .inr ⟨w, hw⟩
    · exact .inl rfl
  · rintro (rfl | ⟨w, hw⟩)
    · exact ⟨v, .inr ⟨rfl, rfl⟩⟩
    · by_cases hq : q = k
      · exact ⟨v, .inr ⟨hq, rfl⟩⟩
      · exact ⟨w, .inl ⟨hw, hq⟩⟩

theorem mem_keys_tryEmplaceBack {m : ListMap κ β} {k q : κ} {v : β} :
    q ∈ (m.tryEmplaceBack k v).keys ↔ q = k ∨ q ∈ m.keys := by
  simp only [mem_keys, mem_tryEmplaceBack]
  constructor
  · rintro ⟨w, hw | ⟨-, hqk⟩⟩
    · exact .inr ⟨w, hw⟩
    · exact .inl (Prod.mk.inj hqk).1
  · rintro (rfl | ⟨w, hw⟩)
    · by_cases hq : q ∈ m.keys
      · obtain ⟨w, hw⟩ := mem_keys.1 hq
        exact ⟨w, .inl hw⟩
      · exact ⟨v, .inr ⟨fun h => hq (mem_keys.2 h), rfl⟩⟩
    · exact ⟨w, .inl hw⟩

/-! ## Sizes -/

theorem size_insertOrAssignBack_pos (m : ListMap κ β) (k : κ) (v : β) :
    0 < (m.insertOrAssignBack k v).size :=
  size_pos_of_mem (mem_insertOrAssignBack.2 (.inr rfl))

/-- Erasing a key that has an entry removes exactly that entry. -/
theorem size_erase_of_mem {m : ListMap κ β} {k : κ} (h : k ∈ m.keys) :
    (m.erase k).size + 1 = m.size := by
  obtain ⟨l, hnodup⟩ := m
  simp only [size, erase, keys] at h ⊢
  induction l with
  | nil => simp at h
  | cons e l ih =>
    rw [List.map_cons, List.nodup_cons] at hnodup
    by_cases hk : e.1 = k
    · -- `e` is the entry of `k`, and no later entry has its key
      have hrest : l.filter (fun e => e.1 ≠ k) = l := by
        rw [List.filter_eq_self]
        intro a ha
        have hne : a.1 ≠ k := fun hak => hnodup.1 (by rw [hk, ← hak]; exact List.mem_map_of_mem ha)
        simpa using hne
      rw [List.filter_cons_of_neg (by simp [hk]), hrest, List.length_cons]
    · have hl : k ∈ l.map Prod.fst := by
        rw [List.map_cons, List.mem_cons] at h
        rcases h with h' | h'
        · exact absurd h'.symm hk
        · exact h'
      rw [List.filter_cons_of_pos (by simp [hk]), List.length_cons, List.length_cons,
        ← ih hnodup.2 hl]

theorem size_erase_le (m : ListMap κ β) (k : κ) : (m.erase k).size ≤ m.size :=
  List.length_filter_le _ _

@[simp] theorem size_modify (m : ListMap κ β) (k : κ) (f : β → β) :
    (m.modify k f).size = m.size := by
  simp [modify, size]

theorem size_tryEmplaceFront_le (m : ListMap κ β) (k : κ) (v : β) :
    (m.tryEmplaceFront k v).size ≤ m.size + 1 := by
  unfold tryEmplaceFront
  split <;> simp [size]

@[simp] theorem size_spliceFront (m : ListMap κ β) (k : κ) : (m.spliceFront k).size = m.size := by
  unfold spliceFront
  split
  · rename_i v hv
    have := size_erase_of_mem (mem_keys.2 ⟨v, find?_eq_some_iff.1 hv⟩)
    simp only [size, List.length_cons] at this ⊢
    exact this
  · rfl

/-- Removing the last entry of a map that has one makes it one shorter. -/
theorem size_eraseLast {m : ListMap κ β} (h : 0 < m.size) : m.eraseLast.size + 1 = m.size := by
  unfold eraseLast
  split
  · rename_i e he
    exact size_erase_of_mem (by
      simpa [keys] using ⟨e.2, List.mem_of_getLast? he⟩)
  · rename_i he
    simp_all [size]

/-! ## Building a map at the back

A map that gets its entries one at a time at the back, each under a new key, ends with them in
the order they came (`entries_foldl_of_back`, and `foldl_of_back_self` from the empty map); a
series of changes to one key's value, each after making sure the key is there, is one change
(`foldl_tryEmplaceBack_modify`). -/

theorem tryEmplaceBack_of_mem {m : ListMap κ β} {k : κ} (h : k ∈ m.keys) (v : β) :
    m.tryEmplaceBack k v = m :=
  dif_pos h

theorem entries_tryEmplaceBack_of_not_mem {m : ListMap κ β} {k : κ} (h : k ∉ m.keys) (v : β) :
    (m.tryEmplaceBack k v).entries = m.entries ++ [(k, v)] := by
  simp [tryEmplaceBack, h]

theorem entries_insertOrAssignBack_of_not_mem {m : ListMap κ β} {k : κ} (h : k ∉ m.keys) (v : β) :
    (m.insertOrAssignBack k v).entries = m.entries ++ [(k, v)] := by
  rw [insertOrAssignBack, if_neg h, entries_tryEmplaceBack_of_not_mem h]

@[simp] theorem keys_modify (m : ListMap κ β) (k : κ) (f : β → β) :
    (m.modify k f).keys = m.keys := by
  simp only [keys, modify, List.map_map]
  congr 1
  funext e
  by_cases h : e.1 = k <;> simp [h]

theorem modify_id (m : ListMap κ β) (k : κ) : m.modify k (fun v => v) = m := by
  ext1
  simp [modify]

theorem modify_modify (m : ListMap κ β) (k : κ) (f g : β → β) :
    (m.modify k f).modify k g = m.modify k (g ∘ f) := by
  ext1
  simp only [modify, List.map_map]
  congr 1
  funext e
  by_cases h : e.1 = k <;> simp [h]

/-- `modify` of a key without an entry changes nothing. -/
theorem modify_of_not_mem {m : ListMap κ β} {k : κ} (h : k ∉ m.keys) (f : β → β) :
    m.modify k f = m := by
  ext1
  have hne : ∀ e ∈ m.entries, ¬e.1 = k := fun e he hek => h (mem_keys.2 ⟨e.2, hek ▸ he⟩)
  simp only [modify]
  conv_rhs => rw [← List.map_id m.entries]
  exact List.map_congr_left fun e he => if_neg (hne e he)

/-- The new entry at the back, changed, is the changed entry at the back. -/
theorem tryEmplaceBack_modify {m : ListMap κ β} {k : κ} (h : k ∉ m.keys) (v : β) (f : β → β) :
    (m.tryEmplaceBack k v).modify k f = m.tryEmplaceBack k (f v) := by
  ext1
  have hm := congrArg ListMap.entries (modify_of_not_mem h f)
  simp only [modify] at hm ⊢
  rw [entries_tryEmplaceBack_of_not_mem h, List.map_append, hm,
    entries_tryEmplaceBack_of_not_mem h]
  simp

omit [DecidableEq κ] in
/-- A step that puts each new key at the back, taken over entries of distinct new keys, appends
them. -/
theorem entries_foldl_of_back (step : ListMap κ β → κ × β → ListMap κ β)
    (hstep : ∀ m e, e.1 ∉ m.keys → (step m e).entries = m.entries ++ [e]) :
    ∀ (l : List (κ × β)) (m : ListMap κ β), (l.map Prod.fst).Nodup → (∀ e ∈ l, e.1 ∉ m.keys) →
      (l.foldl step m).entries = m.entries ++ l
  | [], m, _, _ => by simp
  | e :: l, m, hl, hnew => by
    rw [List.map_cons, List.nodup_cons] at hl
    have hnew' : ∀ e' ∈ l, e'.1 ∉ (step m e).keys := by
      intro e' he' hmem
      rw [keys, hstep m e (hnew e List.mem_cons_self), List.map_append, List.mem_append] at hmem
      rcases hmem with hmem | hmem
      · exact hnew e' (List.mem_cons_of_mem _ he') hmem
      · have hek : e'.1 = e.1 := by simpa using hmem
        exact hl.1 (hek ▸ List.mem_map_of_mem he')
    rw [List.foldl_cons, entries_foldl_of_back step hstep l (step m e) hl.2 hnew',
      hstep m e (hnew e List.mem_cons_self), List.append_assoc, List.singleton_append]

omit [DecidableEq κ] in
/-- Such a step rebuilds a map from the empty one. -/
theorem foldl_of_back_self (step : ListMap κ β → κ × β → ListMap κ β)
    (hstep : ∀ m e, e.1 ∉ m.keys → (step m e).entries = m.entries ++ [e]) (m : ListMap κ β) :
    m.entries.foldl step empty = m := by
  ext1
  rw [entries_foldl_of_back step hstep m.entries empty m.nodup (by simp [keys])]
  rfl

/-- Changes to the value of a key that is there make one change. -/
theorem foldl_modify_of_mem {α : Type*} (k : κ) (d : β) (g : α → β → β) :
    ∀ (l : List α) (m : ListMap κ β), k ∈ m.keys →
      l.foldl (fun m a => (m.tryEmplaceBack k d).modify k (g a)) m =
        m.modify k (fun v => l.foldl (fun v a => g a v) v)
  | [], m, _ => (modify_id m k).symm
  | a :: l, m, hk => by
    have hk' : k ∈ (m.modify k (g a)).keys := by rwa [keys_modify]
    rw [List.foldl_cons, tryEmplaceBack_of_mem hk, foldl_modify_of_mem k d g l _ hk',
      modify_modify]
    rfl

/-- Changes to the value of a key, each after putting the key at the back if it is new, make
one change after one such step. -/
theorem foldl_tryEmplaceBack_modify {α : Type*} (k : κ) (d : β) (g : α → β → β)
    (l : List α) (hl : l ≠ []) (m : ListMap κ β) :
    l.foldl (fun m a => (m.tryEmplaceBack k d).modify k (g a)) m =
      (m.tryEmplaceBack k d).modify k (fun v => l.foldl (fun v a => g a v) v) := by
  obtain ⟨a, l, rfl⟩ := List.exists_cons_of_ne_nil hl
  have hk : k ∈ ((m.tryEmplaceBack k d).modify k (g a)).keys := by
    rw [keys_modify, mem_keys_tryEmplaceBack]
    exact .inl rfl
  rw [List.foldl_cons, foldl_modify_of_mem k d g l _ hk, modify_modify]
  rfl

end ListMap
