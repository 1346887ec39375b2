import BluetoothStack.Common.ListMap
import BluetoothStack.Lib.LruCache

/-!
# `LruCache` of gd/common, as the code stores it

`LruCache<Key, T>` (gd/common/lru_cache.h) is a capacity and a `ListMap` whose list runs from the
most recently used entry to the least. `find` splices the key's node to the front of its own
list, and `contains`, which calls `find`, does too; `insert_or_assign` and `try_emplace` of a new
key first extract the last entry when the cache is full, then put the new entry at the front,
and return what they extracted.

`LruCache.Wf` adds a positive capacity that bounds the size to the invariant of the `ListMap`.
Every operation keeps it, and a good cache stands for the `LruCache` of `Lib/LruCache`
(`lruCacheOf`): each operation leaves the cache that the abstract one leaves, and returns what
it returns (`find_refines` and the theorems after it). An entry evicted is the last entry, the
least recently used one (`evictIfFull_spec`).
-/

namespace BluetoothStack.Common

open NodeList

/-- `LruCache<Key, T>`: `capacity_` and `list_map_`. -/
structure LruCache (κ β : Type*) where
  capacity : Nat
  listMap : ListMap κ β

namespace LruCache

variable {κ β : Type*}

/-- `LruCache(capacity)`; a capacity of 0 fails its `ASSERT_LOG`. -/
def create (capacity : Nat) : Option (LruCache κ β) :=
  if capacity ≠ 0 then some ⟨capacity, .empty⟩ else none

/-- `size()`. -/
def size (c : LruCache κ β) : Nat := c.listMap.size

/-- `find(key)`: the key's iterator, with its node spliced to the front; `end()` and no change
for a key the cache lacks. -/
def find (c : LruCache κ β) (key : κ) : Option Nat × LruCache κ β :=
  match c.listMap.find key with
  | none => (none, c)
  | some it => (some it, ⟨c.capacity, c.listMap.spliceSelf c.listMap.begin it⟩)

/-- `contains(key)`: `find(key) != end()`, with what `find` did to the cache. -/
def contains (c : LruCache κ β) (key : κ) : Bool × LruCache κ β :=
  ((c.find key).1.isSome, (c.find key).2)

section Updates

variable [DecidableEq κ]

/-- `if (list_map_.size() == capacity_)
evicted_node = list_map_.extract(std::prev(list_map_.end())->first)`. -/
def evictIfFull (c : LruCache κ β) : Option (κ × β) × ListMap κ β :=
  if c.listMap.size = c.capacity then
    match c.listMap.nodeList.getLast? with
    | some (_, (key, _)) => c.listMap.extract key
    | none => (none, c.listMap)
  else (none, c.listMap)

/-- `insert_or_assign(key, value)`: a key the cache has is warmed by `contains` and its value
written at `begin()`; a new key goes to the front after the eviction, which is returned. -/
def insertOrAssign (c : LruCache κ β) (key : κ) (value : β) : Option (κ × β) × LruCache κ β :=
  let warm := (c.contains key).2
  if (c.contains key).1 then
    -- `contains()` calls `find()`, which moved the node to the head
    match warm.listMap.begin with
    | some a => (none, ⟨warm.capacity,
        ⟨modify a (fun e => (e.1, value)) warm.listMap.nodeList, warm.listMap.keyMap⟩⟩)
    | none => (none, warm)
  else
    let evicted := warm.evictIfFull
    (evicted.1, ⟨warm.capacity, evicted.2.insertOrAssign evicted.2.begin key value⟩)

/-- `try_emplace(key, value)`: `<end(), false, std::nullopt>` for a key the cache has, which
`contains` warmed; otherwise what `ListMap::try_emplace` at `begin()` returns after the eviction,
and the evicted entry. -/
def tryEmplace (c : LruCache κ β) (key : κ) (value : β) :
    (Option Nat × Bool × Option (κ × β)) × LruCache κ β :=
  let warm := (c.contains key).2
  if (c.contains key).1 then ((none, false, none), warm)
  else
    let evicted := warm.evictIfFull
    let r := evicted.2.tryEmplace evicted.2.begin key value
    ((r.1.1, r.1.2, evicted.1), ⟨warm.capacity, r.2⟩)

/-- `extract(key)`: `list_map_.extract(key)`. -/
def extract (c : LruCache κ β) (key : κ) : Option (κ × β) × LruCache κ β :=
  ((c.listMap.extract key).1, ⟨c.capacity, (c.listMap.extract key).2⟩)

/-- `erase(iter)`: `list_map_.erase(iter)`. -/
def erase (c : LruCache κ β) (it : Nat) : Option Nat × LruCache κ β :=
  ((c.listMap.erase it).1, ⟨c.capacity, (c.listMap.erase it).2⟩)

end Updates

/-- What every cache the class builds satisfies. -/
structure Wf (c : LruCache κ β) : Prop where
  listMap : c.listMap.Wf
  capacity_pos : 0 < c.capacity
  size_le : c.listMap.size ≤ c.capacity

variable {c : LruCache κ β} {key : κ}

theorem find_of_none (hk : c.listMap.keyMap key = none) : c.find key = (none, c) := by
  simp only [find, ListMap.find, hk]

theorem find_of_some {a : Nat} (hk : c.listMap.keyMap key = some a) :
    c.find key = (some a, ⟨c.capacity, c.listMap.spliceSelf c.listMap.begin a⟩) := by
  simp only [find, ListMap.find, hk]

theorem wf_find (h : c.Wf) (key : κ) : (c.find key).2.Wf := by
  cases hk : c.listMap.keyMap key with
  | none => rw [find_of_none hk]; exact h
  | some a =>
    rw [find_of_some hk]
    exact ⟨ListMap.wf_spliceSelf h.listMap _ _, h.capacity_pos,
      by rw [ListMap.size_spliceSelf]; exact h.size_le⟩

theorem capacity_find (c : LruCache κ β) (key : κ) : (c.find key).2.capacity = c.capacity := by
  cases hk : c.listMap.keyMap key with
  | none => rw [find_of_none hk]
  | some a => rw [find_of_some hk]

theorem find_fst (c : LruCache κ β) (key : κ) : (c.find key).1 = c.listMap.find key := by
  cases hk : c.listMap.keyMap key with
  | none => rw [find_of_none hk]; exact hk.symm
  | some a => rw [find_of_some hk]; exact hk.symm

/-- Looking a key up moves no entry to another node: every iterator still reads what it did. -/
theorem get?_find (h : c.Wf) (key : κ) (b : Nat) :
    get? b (c.find key).2.listMap.nodeList = get? b c.listMap.nodeList := by
  cases hk : c.listMap.keyMap key with
  | none => rw [find_of_none hk]
  | some a => rw [find_of_some hk]; exact h.listMap.get?_spliceSelf _ _ _

theorem contains_of_none (hk : c.listMap.keyMap key = none) : c.contains key = (false, c) := by
  rw [contains, find_of_none hk]
  rfl

theorem contains_of_some {a : Nat} (hk : c.listMap.keyMap key = some a) :
    c.contains key = (true, ⟨c.capacity, c.listMap.spliceSelf c.listMap.begin a⟩) := by
  rw [contains, find_of_some hk]
  rfl

/-- A full cache has a last node. -/
theorem Wf.getLast?_of_full (h : c.Wf) (hfull : c.listMap.size = c.capacity) :
    ∃ b k v, c.listMap.nodeList.getLast? = some (b, (k, v)) := by
  cases hl : c.listMap.nodeList.getLast? with
  | none =>
    rw [List.getLast?_eq_none_iff] at hl
    have hzero : c.listMap.size = 0 := by rw [ListMap.size, hl]; rfl
    have := h.capacity_pos
    omega
  | some n => exact ⟨n.1, n.2.1, n.2.2, rfl⟩

theorem wf_create {capacity : Nat} {c : LruCache κ β} (hc : create capacity = some c) : c.Wf := by
  unfold create at hc
  split_ifs at hc with hcap
  cases hc
  exact ⟨ListMap.wf_empty, Nat.pos_of_ne_zero hcap, Nat.zero_le _⟩

variable [DecidableEq κ]

/-- The eviction: with a full cache, the last entry is extracted and returned. -/
theorem evictIfFull_spec (h : c.Wf) :
    c.evictIfFull.2.Wf ∧
      c.evictIfFull.1 = (if c.listMap.size = c.capacity then c.listMap.entries.getLast? else none) ∧
      c.evictIfFull.2.size + 1 ≤ c.capacity ∧
      ∀ key, c.listMap.keyMap key = none → c.evictIfFull.2.keyMap key = none := by
  have hsize := h.size_le
  unfold evictIfFull
  by_cases hfull : c.listMap.size = c.capacity
  · rw [if_pos hfull, if_pos hfull]
    -- the last node's key is one `key_map_` has
    obtain ⟨b, k, v, hlast⟩ := h.getLast?_of_full hfull
    have hmem := List.mem_of_getLast? hlast
    have hget : get? b c.listMap.nodeList = some (k, v) :=
      (get?_eq_some_iff h.listMap.addrs_nodup').2 hmem
    have hk := h.listMap.keyMap_of_get? hget
    have hextract := h.listMap.size_extract hk
    rw [hlast]
    dsimp only
    refine ⟨ListMap.wf_extract h.listMap k, ?_, by omega, fun key hkey => ?_⟩
    · rw [ListMap.extract_of_keyMap hk hget, ListMap.entries, values, List.getLast?_map, hlast]
      rfl
    · have hne : key ≠ k := fun heq => by rw [heq, hk] at hkey; cases hkey
      rw [ListMap.extract_of_keyMap hk hget]
      exact (Function.update_of_ne hne _ _).trans hkey
  · rw [if_neg hfull, if_neg hfull]
    exact ⟨h.listMap, rfl, by dsimp only; omega, fun _ hkey => hkey⟩

/-! ## Every operation keeps the invariant -/

theorem capacity_insertOrAssign (c : LruCache κ β) (key : κ) (value : β) :
    (c.insertOrAssign key value).2.capacity = c.capacity := by
  cases hk : c.listMap.keyMap key with
  | some a =>
    simp only [insertOrAssign, contains_of_some hk, if_true]
    split <;> rfl
  | none =>
    simp only [insertOrAssign, contains_of_none hk, Bool.false_eq_true, if_false]

theorem capacity_tryEmplace (c : LruCache κ β) (key : κ) (value : β) :
    (c.tryEmplace key value).2.capacity = c.capacity := by
  cases hk : c.listMap.keyMap key with
  | some a => simp only [tryEmplace, contains_of_some hk, if_true]
  | none => simp only [tryEmplace, contains_of_none hk, Bool.false_eq_true, if_false]

theorem wf_insertOrAssign (h : c.Wf) (key : κ) (value : β) :
    (c.insertOrAssign key value).2.Wf := by
  cases hk : c.listMap.keyMap key with
  | some a =>
    obtain ⟨v, hget⟩ := h.listMap.get?_of_keyMap hk
    have hwarm := wf_find h key
    rw [find_of_some hk] at hwarm
    simp only [insertOrAssign, contains_of_some hk, if_true, ListMap.begin_spliceSelf_begin hget]
    refine ⟨hwarm.listMap.modify _ fun _ => rfl, h.capacity_pos, ?_⟩
    rw [ListMap.size, length_modify]
    exact hwarm.size_le
  | none =>
    obtain ⟨hwf, -, hroom, hkey⟩ := evictIfFull_spec h
    simp only [insertOrAssign, contains_of_none hk, Bool.false_eq_true, if_false]
    refine ⟨ListMap.wf_insertOrAssign hwf _ _ _, h.capacity_pos, ?_⟩
    rw [ListMap.size_insertOrAssign_of_none (hkey key hk)]
    exact hroom

theorem wf_tryEmplace (h : c.Wf) (key : κ) (value : β) : (c.tryEmplace key value).2.Wf := by
  cases hk : c.listMap.keyMap key with
  | some a =>
    have hwarm := wf_find h key
    rw [find_of_some hk] at hwarm
    simp only [tryEmplace, contains_of_some hk, if_true]
    exact hwarm
  | none =>
    obtain ⟨hwf, -, hroom, hkey⟩ := evictIfFull_spec h
    simp only [tryEmplace, contains_of_none hk, Bool.false_eq_true, if_false]
    refine ⟨ListMap.wf_tryEmplace hwf _ _ _, h.capacity_pos, ?_⟩
    rw [ListMap.size_tryEmplace_of_none (hkey key hk)]
    exact hroom

theorem wf_extract (h : c.Wf) (key : κ) : (c.extract key).2.Wf :=
  ⟨ListMap.wf_extract h.listMap key, h.capacity_pos,
    Nat.le_trans (ListMap.size_extract_le h.listMap key) h.size_le⟩

theorem wf_erase (h : c.Wf) (it : Nat) : (c.erase it).2.Wf := by
  refine ⟨ListMap.wf_erase h.listMap it, h.capacity_pos, ?_⟩
  have hsub : (c.listMap.erase it).2.nodeList.Sublist c.listMap.nodeList := by
    unfold ListMap.erase
    split
    · exact .refl _
    · exact erase_sublist _ _
  exact Nat.le_trans hsub.length_le h.size_le

end LruCache

end BluetoothStack.Common

/-! ## The cache an `LruCache` stands for -/

namespace BluetoothStack

open NodeList

section Refinement

variable {κ β : Type*} [DecidableEq κ] {c : Common.LruCache κ β} {key : κ}

/-- The cache a good `LruCache` stands for: its capacity, and the map its `ListMap` stands
for. -/
def lruCacheOf (c : Common.LruCache κ β) (h : c.Wf) : LruCache κ β :=
  ⟨c.capacity, listMapOf c.listMap h.listMap, h.capacity_pos, by
    show (values c.listMap.nodeList).length ≤ c.capacity
    rw [length_values]
    exact h.size_le⟩

omit [DecidableEq κ] in
theorem size_listMapOf (m : Common.ListMap κ β) (h : m.Wf) : (listMapOf m h).size = m.size :=
  length_values _

/-- The eviction takes out what the abstract one does. -/
theorem evictIfFull_refines (h : c.Wf) :
    c.evictIfFull.2.entries = (lruCacheOf c h).evictIfFull.entries := by
  unfold Common.LruCache.evictIfFull LruCache.evictIfFull
  have hsize : (lruCacheOf c h).listMap.size = c.listMap.size := size_listMapOf c.listMap h.listMap
  rw [hsize]
  by_cases hfull : c.listMap.size = c.capacity
  · rw [if_pos hfull, if_pos (show c.listMap.size = (lruCacheOf c h).capacity from hfull)]
    obtain ⟨b, k, v, hlast⟩ := h.getLast?_of_full hfull
    have hlast' : (listMapOf c.listMap h.listMap).entries.getLast? = some (k, v) := by
      show (values c.listMap.nodeList).getLast? = _
      rw [values, List.getLast?_map, hlast]
      rfl
    rw [hlast]
    dsimp only
    show _ = (listMapOf c.listMap h.listMap).eraseLast.entries
    rw [ListMap.eraseLast, hlast']
    exact (extract_refines h.listMap k).2
  · rw [if_neg hfull, if_neg (show ¬c.listMap.size = (lruCacheOf c h).capacity from hfull)]
    rfl

/-- `find` returns the iterator of the key's entry, which reads the abstract value, and warms
the key as the abstract `find` does. -/
theorem cacheFind_refines (h : c.Wf) (key : κ) :
    ((c.find key).1.bind fun a => get? a (c.find key).2.listMap.nodeList).map Prod.snd =
        ((lruCacheOf c h).find key).1 ∧
      lruCacheOf (c.find key).2 (c.wf_find h key) = ((lruCacheOf c h).find key).2 := by
  refine ⟨?_, LruCache.ext (c.capacity_find key) ?_⟩
  · simp only [Common.LruCache.find_fst, Common.LruCache.get?_find h key]
    exact find_refines h.listMap key
  · show (c.find key).2.listMap.entries = ((listMapOf c.listMap h.listMap).spliceFront key).entries
    cases hk : c.listMap.keyMap key with
    | none =>
      rw [Common.LruCache.find_of_none hk,
        ListMap.spliceFront_of_not_mem ((not_mem_keys_listMapOf h.listMap).2 hk)]
      rfl
    | some a =>
      rw [Common.LruCache.find_of_some hk]
      exact spliceSelf_begin_refines h.listMap hk

theorem cacheContains_refines (h : c.Wf) (key : κ) :
    (c.contains key).1 = ((lruCacheOf c h).contains key).1 ∧
      lruCacheOf (c.contains key).2 (c.wf_find h key) = ((lruCacheOf c h).contains key).2 := by
  refine ⟨?_, (cacheFind_refines h key).2⟩
  show (c.find key).1.isSome = ((listMapOf c.listMap h.listMap).find? key).isSome
  rw [Common.LruCache.find_fst]
  exact contains_refines h.listMap key

/-- `insert_or_assign` leaves the cache the abstract one leaves; it returns an entry only for a
new key in a full cache, and then the last one. -/
theorem cacheInsertOrAssign_refines (h : c.Wf) (key : κ) (value : β) :
    lruCacheOf (c.insertOrAssign key value).2 (c.wf_insertOrAssign h key value) =
        (lruCacheOf c h).insertOrAssign key value ∧
      (c.insertOrAssign key value).1 =
        if (c.listMap.keyMap key).isSome then none
        else if c.listMap.size = c.capacity then c.listMap.entries.getLast? else none := by
  have hcap : (c.insertOrAssign key value).2.capacity =
      ((lruCacheOf c h).insertOrAssign key value).capacity := by
    rw [LruCache.capacity_insertOrAssign]
    exact c.capacity_insertOrAssign key value
  cases hk : c.listMap.keyMap key with
  | some a =>
    obtain ⟨v, hget⟩ := h.listMap.get?_of_keyMap hk
    have hmem : key ∈ (lruCacheOf c h).listMap.keys := (mem_keys_listMapOf h.listMap).2 (by
      rw [hk]; rfl)
    have hwarm := c.wf_find h key
    rw [Common.LruCache.find_of_some hk] at hwarm
    have hfound : ((lruCacheOf c h).contains key).1 = true := LruCache.contains_fst.2 hmem
    refine ⟨LruCache.ext hcap ?_, ?_⟩
    · show (c.insertOrAssign key value).2.listMap.entries = _
      simp only [Common.LruCache.insertOrAssign, Common.LruCache.contains_of_some hk, if_true,
        Common.ListMap.begin_spliceSelf_begin hget]
      rw [LruCache.insertOrAssign]
      simp only [hfound, if_true]
      -- the value is written at the front, where `contains` put the key's entry
      show values (modify a _ _) = ((listMapOf c.listMap h.listMap).spliceFront key).entries.map _
      rw [hwarm.listMap.values_modify hk, ← spliceSelf_begin_refines h.listMap hk]
    · simp only [Common.LruCache.insertOrAssign, Common.LruCache.contains_of_some hk, if_true,
        Common.ListMap.begin_spliceSelf_begin hget, Option.isSome_some]
  | none =>
    have hnot : key ∉ (lruCacheOf c h).listMap.keys := (not_mem_keys_listMapOf h.listMap).2 hk
    obtain ⟨hwf, hevicted, -, hkey⟩ := c.evictIfFull_spec h
    refine ⟨LruCache.ext hcap ?_, ?_⟩
    · show (c.insertOrAssign key value).2.listMap.entries = _
      simp only [Common.LruCache.insertOrAssign, Common.LruCache.contains_of_none hk,
        Bool.false_eq_true, if_false]
      rw [LruCache.insertOrAssign]
      simp only [LruCache.contains_of_not_mem hnot, Bool.false_eq_true, if_false]
      rw [LruCache.entries_pushFront hnot, ← evictIfFull_refines h]
      exact Common.ListMap.entries_insertOrAssign_begin hwf (hkey key hk) value
    · simp only [Common.LruCache.insertOrAssign, Common.LruCache.contains_of_none hk,
        Bool.false_eq_true, if_false, Option.isSome_none]
      exact hevicted

/-- `try_emplace` leaves the cache the abstract one leaves. It returns `<end(), false,
std::nullopt>` for a key the cache has, and for a new key the key's new iterator, `true` and
the entry the eviction took out. -/
theorem cacheTryEmplace_refines (h : c.Wf) (key : κ) (value : β) :
    lruCacheOf (c.tryEmplace key value).2 (c.wf_tryEmplace h key value) =
        (lruCacheOf c h).tryEmplace key value ∧
      (c.tryEmplace key value).1 =
        if (c.listMap.keyMap key).isSome then (none, false, none)
        else ((c.tryEmplace key value).2.listMap.find key, true,
          if c.listMap.size = c.capacity then c.listMap.entries.getLast? else none) := by
  have hcap : (c.tryEmplace key value).2.capacity =
      ((lruCacheOf c h).tryEmplace key value).capacity := by
    rw [LruCache.capacity_tryEmplace]
    exact c.capacity_tryEmplace key value
  cases hk : c.listMap.keyMap key with
  | some a =>
    have hmem : key ∈ (lruCacheOf c h).listMap.keys := (mem_keys_listMapOf h.listMap).2 (by
      rw [hk]; rfl)
    have hfound : ((lruCacheOf c h).contains key).1 = true := LruCache.contains_fst.2 hmem
    refine ⟨LruCache.ext hcap ?_, ?_⟩
    · show (c.tryEmplace key value).2.listMap.entries = _
      simp only [Common.LruCache.tryEmplace, Common.LruCache.contains_of_some hk, if_true]
      rw [LruCache.tryEmplace]
      simp only [hfound, if_true]
      exact spliceSelf_begin_refines h.listMap hk
    · simp only [Common.LruCache.tryEmplace, Common.LruCache.contains_of_some hk, if_true,
        Option.isSome_some]
  | none =>
    have hnot : key ∉ (lruCacheOf c h).listMap.keys := (not_mem_keys_listMapOf h.listMap).2 hk
    obtain ⟨-, hevicted, -, hkey⟩ := c.evictIfFull_spec h
    have hnew := Common.ListMap.entries_tryEmplace (hkey key hk) c.evictIfFull.2.begin value
    refine ⟨LruCache.ext hcap ?_, ?_⟩
    · show (c.tryEmplace key value).2.listMap.entries = _
      simp only [Common.LruCache.tryEmplace, Common.LruCache.contains_of_none hk,
        Bool.false_eq_true, if_false]
      rw [LruCache.tryEmplace]
      simp only [LruCache.contains_of_not_mem hnot, Bool.false_eq_true, if_false]
      rw [LruCache.entries_pushFront hnot, ← evictIfFull_refines h]
      show (c.evictIfFull.2.tryEmplace c.evictIfFull.2.begin key value).2.entries = _
      rw [hnew.1, Common.ListMap.begin, index_begin, List.insertIdx_zero]
    · simp only [Common.LruCache.tryEmplace, Common.LruCache.contains_of_none hk,
        Bool.false_eq_true, if_false, Option.isSome_none]
      rw [hnew.2, hevicted, Common.ListMap.tryEmplace_of_none (hkey key hk)]

/-- `extract` returns the key's entry and leaves the cache the abstract one leaves. -/
theorem cacheExtract_refines (h : c.Wf) (key : κ) :
    (c.extract key).1 = ((lruCacheOf c h).extract key).1.map (fun v => (key, v)) ∧
      lruCacheOf (c.extract key).2 (c.wf_extract h key) = ((lruCacheOf c h).extract key).2 :=
  ⟨(extract_refines h.listMap key).1, LruCache.ext rfl (extract_refines h.listMap key).2⟩

end Refinement

theorem listMap_lruCache_refinement (κ β : Type*) [DecidableEq κ] :
    -- `ListMap`: the invariant holds of the empty map and every operation keeps it
    (Common.ListMap.empty : Common.ListMap κ β).Wf ∧
    (∀ (m : Common.ListMap κ β) (pos : Option Nat) (key : κ) (value : β) (it : Nat), m.Wf →
      (m.tryEmplace pos key value).2.Wf ∧ (m.insertOrAssign pos key value).Wf ∧
        (m.spliceSelf pos it).Wf ∧ (m.extract key).2.Wf ∧ (m.erase it).2.Wf) ∧
    -- each operation does to the entries what the map with distinct keys does
    (∀ (m : Common.ListMap κ β) (h : m.Wf) (pos : Option Nat) (key : κ) (value : β),
      ((m.find key).bind fun a => get? a m.nodeList).map Prod.snd = (listMapOf m h).find? key ∧
      m.contains key = (listMapOf m h).contains key ∧
      (m.keyMap key = none →
        (m.tryEmplace pos key value).2.entries =
          m.entries.insertIdx (index m.nodeList pos) (key, value) ∧
        (m.tryEmplace pos key value).2.find key = (m.tryEmplace pos key value).1.1) ∧
      (m.tryEmplaceBack key value).2.entries =
        ((listMapOf m h).tryEmplaceBack key value).entries ∧
      (m.insertOrAssign pos key value).entries =
        (if (m.keyMap key).isSome then m.entries.map fun e => if e.1 = key then (e.1, value) else e
        else m.entries.insertIdx (index m.nodeList pos) (key, value)) ∧
      (m.insertOrAssignBack key value).entries =
        ((listMapOf m h).insertOrAssignBack key value).entries ∧
      (m.extract key).1 = ((listMapOf m h).find? key).map (fun v => (key, v)) ∧
      (m.extract key).2.entries = ((listMapOf m h).erase key).entries ∧
      (∀ a, m.keyMap key = some a →
        (m.spliceSelf m.begin a).entries = ((listMapOf m h).spliceFront key).entries)) ∧
    (∀ (m : Common.ListMap κ β) (it : Nat), m.Wf → it ∈ addrs m.nodeList →
      (m.erase it).2.entries = m.entries.eraseIdx (index m.nodeList (some it)) ∧
        index (m.erase it).2.nodeList (m.erase it).1 = index m.nodeList (some it)) ∧
    -- a splice from another map keeps both maps good only when this map lacks the key
    (∀ (m other : Common.ListMap κ β) (pos : Option Nat) (it : Nat) (key : κ) (value : β),
      m.Wf → other.Wf → get? it other.nodeList = some (key, value) →
      (m.keyMap key = none → it ∉ addrs m.nodeList →
        (m.splice other pos it).1.Wf ∧ (m.splice other pos it).2.Wf ∧
        (m.splice other pos it).1.entries =
          m.entries.insertIdx (index m.nodeList pos) (key, value) ∧
        (m.splice other pos it).2.entries = other.entries.eraseIdx (index other.nodeList (some it))) ∧
      (∀ b, m.keyMap key = some b → ¬(m.splice other pos it).1.Wf)) ∧
    -- `try_emplace` of a key the map has returns `end()`, not the key's iterator
    (∀ (m : Common.ListMap κ β) (pos : Option Nat) (key : κ) (value : β) (a : Nat),
      m.keyMap key = some a → m.find key = some a ∧ (m.tryEmplace pos key value).1 = (none, false)) ∧
    -- `LruCache`
    (∀ (capacity : Nat) (c : Common.LruCache κ β),
      Common.LruCache.create capacity = some c → c.Wf ∧ 0 < capacity) ∧
    (∀ (c : Common.LruCache κ β) (h : c.Wf) (key : κ) (value : β) (it : Nat),
      (((c.find key).1.bind fun a => get? a (c.find key).2.listMap.nodeList).map Prod.snd =
          ((lruCacheOf c h).find key).1 ∧
        lruCacheOf (c.find key).2 (c.wf_find h key) = ((lruCacheOf c h).find key).2) ∧
      ((c.contains key).1 = ((lruCacheOf c h).contains key).1 ∧
        lruCacheOf (c.contains key).2 (c.wf_find h key) = ((lruCacheOf c h).contains key).2) ∧
      (lruCacheOf (c.insertOrAssign key value).2 (c.wf_insertOrAssign h key value) =
          (lruCacheOf c h).insertOrAssign key value ∧
        (c.insertOrAssign key value).1 =
          if (c.listMap.keyMap key).isSome then none
          else if c.listMap.size = c.capacity then c.listMap.entries.getLast? else none) ∧
      (lruCacheOf (c.tryEmplace key value).2 (c.wf_tryEmplace h key value) =
          (lruCacheOf c h).tryEmplace key value ∧
        (c.tryEmplace key value).1 =
          if (c.listMap.keyMap key).isSome then (none, false, none)
          else ((c.tryEmplace key value).2.listMap.find key, true,
            if c.listMap.size = c.capacity then c.listMap.entries.getLast? else none)) ∧
      ((c.extract key).1 = ((lruCacheOf c h).extract key).1.map (fun v => (key, v)) ∧
        lruCacheOf (c.extract key).2 (c.wf_extract h key) = ((lruCacheOf c h).extract key).2) ∧
      ((c.erase it).2.Wf ∧ (it ∈ addrs c.listMap.nodeList →
        (c.erase it).2.listMap.entries = c.listMap.entries.eraseIdx (index c.listMap.nodeList (some it))))) := by
  refine ⟨Common.ListMap.wf_empty, ?_, ?_, ?_, ?_, ?_, ?_, ?_⟩
  · intro m pos key value it h
    exact ⟨Common.ListMap.wf_tryEmplace h pos key value, Common.ListMap.wf_insertOrAssign h pos key value,
      Common.ListMap.wf_spliceSelf h pos it, Common.ListMap.wf_extract h key,
      Common.ListMap.wf_erase h it⟩
  · intro m h pos key value
    exact ⟨find_refines h key, contains_refines h key,
      fun hk => Common.ListMap.entries_tryEmplace hk pos value, tryEmplaceBack_refines h key value,
      Common.ListMap.entries_insertOrAssign h pos value, insertOrAssignBack_refines h key value,
      (extract_refines h key).1, (extract_refines h key).2,
      fun _ hk => spliceSelf_begin_refines h hk⟩
  · intro m it h hit
    exact Common.ListMap.entries_erase h hit
  · intro m other pos it key value h ho hget
    refine ⟨fun hk hnew => ?_, fun b hk => Common.ListMap.not_wf_splice_of_mem h hget hk pos⟩
    obtain ⟨hwf, hwf'⟩ := Common.ListMap.wf_splice h ho hget hk hnew pos
    exact ⟨hwf, hwf', Common.ListMap.entries_splice hget pos⟩
  · intro m pos key value a hk
    exact ⟨hk, by rw [Common.ListMap.tryEmplace_of_mem hk]⟩
  · intro capacity c hc
    refine ⟨Common.LruCache.wf_create hc, ?_⟩
    unfold Common.LruCache.create at hc
    split_ifs at hc with hcap
    exact Nat.pos_of_ne_zero hcap
  · intro c h key value it
    exact ⟨cacheFind_refines h key, cacheContains_refines h key,
      cacheInsertOrAssign_refines h key value, cacheTryEmplace_refines h key value,
      cacheExtract_refines h key,
      Common.LruCache.wf_erase h it, fun hit => (Common.ListMap.entries_erase h.listMap hit).1⟩

/-- Two `try_emplace_back` of key 1 into an empty map: the second returns `<end(), false>`,
though `find(1)` returns the iterator of the entry the first one put in. -/
theorem listMap_lruCache_refinement_try_emplace :
    (Common.ListMap.empty.tryEmplaceBack 1 10).2.find 1 = some 1 ∧
      ((Common.ListMap.empty.tryEmplaceBack 1 10).2.tryEmplace none 1 20).1 = (none, false) :=
  (listMap_lruCache_refinement Nat Nat).2.2.2.2.2.1 _ none 1 20 1 (by decide)

end BluetoothStack
