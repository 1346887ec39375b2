import BluetoothStack.Lib.ListMap

/-!
# Least-recently-used caches

`LruCache κ β` is an insertion-ordered map of at most `capacity` entries, the most recently used
first. Looking a key up (`find`, and `contains`, which calls it) moves its entry to the front;
`insertOrAssign` and `tryEmplace` put a new key at the front and, when the cache is full, first
evict the last entry. The capacity is positive and bounds the size; the structure keeps both as
fields, and each operation proves the bound for what it builds (`size_evictIfFull` is the step
that makes room).

`mem_*` says which entries each operation leaves, as for `ListMap`.
-/

/-- At most `capacity` entries, the most recently used first. -/
structure LruCache (κ β : Type*) where
  capacity : Nat
  listMap : ListMap κ β
  capacity_pos : 0 < capacity
  size_le : listMap.size ≤ capacity

namespace LruCache

variable {κ β : Type*}

/-- `LruCache(capacity)`; a capacity of 0 fails its `ASSERT_LOG`. -/
def create (capacity : Nat) (h : 0 < capacity) : LruCache κ β :=
  ⟨capacity, .empty, h, Nat.zero_le _⟩

/-- `size`. -/
def size (c : LruCache κ β) : Nat := c.listMap.size

/-- `clear`. -/
def clear (c : LruCache κ β) : LruCache κ β := ⟨c.capacity, .empty, c.capacity_pos, Nat.zero_le _⟩

/-- The entries that satisfy `p`: erasing the others while iterating, which warms no key. -/
def filter (c : LruCache κ β) (p : κ × β → Bool) : LruCache κ β :=
  ⟨c.capacity, c.listMap.filter p, c.capacity_pos,
    Nat.le_trans (c.listMap.size_filter_le p) c.size_le⟩

@[simp] theorem capacity_filter (c : LruCache κ β) (p : κ × β → Bool) :
    (c.filter p).capacity = c.capacity := rfl

@[simp] theorem capacity_clear (c : LruCache κ β) : c.clear.capacity = c.capacity := rfl

theorem mem_filter {c : LruCache κ β} {p : κ × β → Bool} {e : κ × β} :
    e ∈ (c.filter p).listMap.entries ↔ e ∈ c.listMap.entries ∧ p e = true :=
  ListMap.mem_filter

@[simp] theorem entries_clear (c : LruCache κ β) : c.clear.listMap.entries = [] := rfl

/-- A cache is its capacity and its entries. -/
theorem ext {c c' : LruCache κ β} (hcap : c.capacity = c'.capacity)
    (h : c.listMap.entries = c'.listMap.entries) : c = c' := by
  obtain ⟨cap, m, _, _⟩ := c
  obtain ⟨cap', m', _, _⟩ := c'
  cases hcap
  cases ListMap.ext h
  rfl

variable [DecidableEq κ]

/-- `find`: the value of `k`; its entry moves to the front. -/
def find (c : LruCache κ β) (k : κ) : Option β × LruCache κ β :=
  (c.listMap.find? k, ⟨c.capacity, c.listMap.spliceFront k, c.capacity_pos, by
    rw [ListMap.size_spliceFront]; exact c.size_le⟩)

/-- `contains`: whether `k` has an entry; it calls `find`, so the entry moves to the front. -/
def contains (c : LruCache κ β) (k : κ) : Bool × LruCache κ β :=
  ((c.find k).1.isSome, (c.find k).2)

/-- The entries with room for one more: a full cache loses its last entry. -/
def evictIfFull (c : LruCache κ β) : ListMap κ β :=
  if c.listMap.size = c.capacity then c.listMap.eraseLast else c.listMap

/-- After the eviction there is room for one entry. -/
theorem size_evictIfFull (c : LruCache κ β) : c.evictIfFull.size + 1 ≤ c.capacity := by
  unfold evictIfFull
  split
  · rename_i hfull
    have := ListMap.size_eraseLast (m := c.listMap) (by rw [hfull]; exact c.capacity_pos)
    omega
  · have := c.size_le
    omega

/-- The new first entry `(k, v)` after the eviction, for a key with no entry. -/
def pushFront (c : LruCache κ β) (k : κ) (v : β) : LruCache κ β :=
  ⟨c.capacity, c.evictIfFull.tryEmplaceFront k v, c.capacity_pos,
    Nat.le_trans (ListMap.size_tryEmplaceFront_le _ k v) c.size_evictIfFull⟩

/-- `insert_or_assign`: a key with an entry moves to the front and takes the value; another key
goes first after the eviction. -/
def insertOrAssign (c : LruCache κ β) (k : κ) (v : β) : LruCache κ β :=
  let warm := (c.contains k).2
  -- `contains` moved the entry of `k` to the front, whose value is replaced
  if (c.contains k).1 then ⟨warm.capacity, warm.listMap.modify k (fun _ => v), warm.capacity_pos,
      by rw [ListMap.size_modify]; exact warm.size_le⟩
  else warm.pushFront k v

/-- `try_emplace`: a key with an entry only moves to the front; another key goes first after the
eviction. -/
def tryEmplace (c : LruCache κ β) (k : κ) (v : β) : LruCache κ β :=
  let warm := (c.contains k).2
  if (c.contains k).1 then warm else warm.pushFront k v

/-- `extract`: the value of `k`, if any, and the cache without it. -/
def extract (c : LruCache κ β) (k : κ) : Option β × LruCache κ β :=
  (c.listMap.find? k, ⟨c.capacity, c.listMap.erase k, c.capacity_pos,
    Nat.le_trans (c.listMap.size_erase_le k) c.size_le⟩)

/-- A write through an iterator to the value of `k`, which warms no key. -/
def modify (c : LruCache κ β) (k : κ) (f : β → β) : LruCache κ β :=
  ⟨c.capacity, c.listMap.modify k f, c.capacity_pos, by
    rw [ListMap.size_modify]; exact c.size_le⟩

/-! ## What each operation does -/

@[simp] theorem capacity_find (c : LruCache κ β) (k : κ) : (c.find k).2.capacity = c.capacity :=
  rfl

@[simp] theorem capacity_contains (c : LruCache κ β) (k : κ) :
    (c.contains k).2.capacity = c.capacity := rfl

@[simp] theorem capacity_insertOrAssign (c : LruCache κ β) (k : κ) (v : β) :
    (c.insertOrAssign k v).capacity = c.capacity := by
  unfold insertOrAssign
  dsimp only
  split <;> rfl

@[simp] theorem capacity_tryEmplace (c : LruCache κ β) (k : κ) (v : β) :
    (c.tryEmplace k v).capacity = c.capacity := by
  unfold tryEmplace
  dsimp only
  split <;> rfl

@[simp] theorem capacity_extract (c : LruCache κ β) (k : κ) :
    (c.extract k).2.capacity = c.capacity := rfl

@[simp] theorem capacity_modify (c : LruCache κ β) (k : κ) (f : β → β) :
    (c.modify k f).capacity = c.capacity := rfl

theorem find_fst (c : LruCache κ β) (k : κ) : (c.find k).1 = c.listMap.find? k := rfl

theorem mem_find {c : LruCache κ β} {k : κ} {e : κ × β} :
    e ∈ (c.find k).2.listMap.entries ↔ e ∈ c.listMap.entries :=
  ListMap.mem_spliceFront

/-- Looking up a missing key changes nothing. -/
theorem find_of_not_mem {c : LruCache κ β} {k : κ} (h : k ∉ c.listMap.keys) : c.find k = (none, c) := by
  rw [find, ListMap.find?_eq_none_iff.2 h]
  exact congrArg _ (ext rfl (congrArg ListMap.entries (ListMap.spliceFront_of_not_mem h)))

/-- Looking up the most recently used key changes nothing. -/
theorem find_front {c : LruCache κ β} {k : κ} {v : β} {rest : List (κ × β)}
    (h : c.listMap.entries = (k, v) :: rest) : c.find k = (some v, c) := by
  have hfind : c.listMap.find? k = some v :=
    ListMap.find?_eq_some_iff.2 (h ▸ List.mem_cons_self)
  rw [find, hfind]
  refine congrArg _ (ext rfl ?_)
  rw [ListMap.entries_spliceFront hfind, ListMap.entries_erase_front h, h]

theorem contains_fst {c : LruCache κ β} {k : κ} :
    (c.contains k).1 = true ↔ k ∈ c.listMap.keys :=
  ListMap.contains_iff

theorem mem_contains {c : LruCache κ β} {k : κ} {e : κ × β} :
    e ∈ (c.contains k).2.listMap.entries ↔ e ∈ c.listMap.entries :=
  ListMap.mem_spliceFront

theorem mem_keys_contains {c : LruCache κ β} {k q : κ} :
    q ∈ (c.contains k).2.listMap.keys ↔ q ∈ c.listMap.keys := by
  simp only [ListMap.mem_keys, mem_contains]

theorem mem_evictIfFull {c : LruCache κ β} {e : κ × β} (he : e ∈ c.evictIfFull.entries) :
    e ∈ c.listMap.entries := by
  unfold evictIfFull at he
  split at he
  · exact ListMap.mem_eraseLast he
  · exact he

theorem contains_of_not_mem {c : LruCache κ β} {k : κ} (h : k ∉ c.listMap.keys) :
    c.contains k = (false, c) := by
  rw [contains, find_of_not_mem h]
  rfl

/-- A new key goes in front of what the eviction leaves. -/
theorem entries_pushFront {c : LruCache κ β} {k : κ} (hk : k ∉ c.listMap.keys) (v : β) :
    (c.pushFront k v).listMap.entries = (k, v) :: c.evictIfFull.entries := by
  have hk' : k ∉ c.evictIfFull.keys := fun hmem => by
    obtain ⟨w, hw⟩ := ListMap.mem_keys.1 hmem
    exact hk (ListMap.mem_keys.2 ⟨w, mem_evictIfFull hw⟩)
  simp [pushFront, ListMap.tryEmplaceFront, hk']

/-- A new key: its entry, and entries the cache had. -/
theorem mem_pushFront {c : LruCache κ β} {k : κ} {v : β} (hk : k ∉ c.listMap.keys)
    {e : κ × β} (he : e ∈ (c.pushFront k v).listMap.entries) :
    e = (k, v) ∨ (e ∈ c.listMap.entries ∧ e.1 ≠ k) := by
  rcases ListMap.mem_tryEmplaceFront.1 he with he' | ⟨-, rfl⟩
  · have hmem := mem_evictIfFull he'
    refine .inr ⟨hmem, fun hek => hk (ListMap.mem_keys.2 ⟨e.2, hek ▸ hmem⟩)⟩
  · exact .inl rfl

/-- The new key has its entry. -/
theorem mem_pushFront_self {c : LruCache κ β} {k : κ} {v : β} (hk : k ∉ c.listMap.keys) :
    (k, v) ∈ (c.pushFront k v).listMap.entries := by
  refine ListMap.mem_tryEmplaceFront.2 (.inr ⟨fun hk' => hk ?_, rfl⟩)
  obtain ⟨w, hw⟩ := ListMap.mem_keys.1 hk'
  exact ListMap.mem_keys.2 ⟨w, mem_evictIfFull hw⟩

/-- `try_emplace` adds at most its own entry. -/
theorem mem_tryEmplace {c : LruCache κ β} {k : κ} {v : β} {e : κ × β}
    (he : e ∈ (c.tryEmplace k v).listMap.entries) : e ∈ c.listMap.entries ∨ e = (k, v) := by
  unfold tryEmplace at he
  dsimp only at he
  split at he
  · exact .inl (mem_contains.1 he)
  · rename_i hk
    have hk' : k ∉ (c.contains k).2.listMap.keys := fun h =>
      hk (contains_fst.2 (mem_keys_contains.1 h))
    rcases mem_pushFront hk' he with rfl | ⟨he', -⟩
    · exact .inr rfl
    · exact .inl (mem_contains.1 he')

/-- `try_emplace` of a new key into a cache with room puts it first. -/
theorem entries_tryEmplace_of_not_mem {c : LruCache κ β} {k : κ} (hk : k ∉ c.listMap.keys)
    (hroom : c.size < c.capacity) (v : β) :
    (c.tryEmplace k v).listMap.entries = (k, v) :: c.listMap.entries := by
  have hfound : (c.contains k).1 = false := by
    cases h : (c.contains k).1 with
    | false => rfl
    | true => exact absurd (contains_fst.1 h) hk
  have hwarm : (c.contains k).2 = c := by rw [contains, find_of_not_mem hk]
  have hevict : c.evictIfFull = c.listMap := if_neg (Nat.ne_of_lt hroom)
  unfold tryEmplace
  simp only [hfound, Bool.false_eq_true, if_false, hwarm]
  simp [pushFront, hevict, ListMap.tryEmplaceFront, hk]

/-- `insert_or_assign` of a new key: its entry, and entries the cache had. -/
theorem mem_insertOrAssign_of_not_mem {c : LruCache κ β} {k : κ} {v : β} (hk : k ∉ c.listMap.keys)
    {e : κ × β} (he : e ∈ (c.insertOrAssign k v).listMap.entries) :
    e = (k, v) ∨ (e ∈ c.listMap.entries ∧ e.1 ≠ k) := by
  have hfound : (c.contains k).1 = false := by
    cases h : (c.contains k).1 with
    | false => rfl
    | true => exact absurd (contains_fst.1 h) hk
  have hk' : k ∉ (c.contains k).2.listMap.keys := fun h => hk (mem_keys_contains.1 h)
  unfold insertOrAssign at he
  simp only [hfound, Bool.false_eq_true, if_false] at he
  rcases mem_pushFront hk' he with rfl | ⟨he', hek⟩
  · exact .inl rfl
  · exact .inr ⟨mem_contains.1 he', hek⟩

theorem mem_extract {c : LruCache κ β} {k : κ} {e : κ × β} :
    e ∈ (c.extract k).2.listMap.entries ↔ e ∈ c.listMap.entries ∧ e.1 ≠ k :=
  ListMap.mem_erase

theorem mem_modify {c : LruCache κ β} {k : κ} {f : β → β} {e : κ × β} :
    e ∈ (c.modify k f).listMap.entries ↔
      (e ∈ c.listMap.entries ∧ e.1 ≠ k) ∨ ∃ v, (k, v) ∈ c.listMap.entries ∧ e = (k, f v) :=
  ListMap.mem_modify

end LruCache
