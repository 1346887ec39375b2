import Mathlib
import BluetoothStack.Lib.NodeList
import BluetoothStack.Lib.ListMap

/-!
# `ListMap` of gd/common, as the code stores it

`ListMap<Key, T>` (gd/common/list_map.h) keeps its entries in a `std::list` (`node_list_`) and,
beside it, an `std::unordered_map` from each key to the list iterator of its entry
(`key_map_`). Here the list is a list of addressed nodes (`Lib/NodeList`), an iterator is the
address of a node with `none` for `end()`, and `key_map_` is a function from keys to addresses;
a new node gets an address no node of the map has.

`ListMap.Wf` is what the class relies on: distinct addresses, distinct keys, and a `key_map_` that
maps exactly the keys of the list, each to the node that holds it. It only looks at the address
and key of each node (`ListMap.skeleton`), so a write to a value keeps it, and a node inserted or
removed with its key keeps it (`Wf.insert`, `Wf.remove`). Every operation keeps it
(`wf_tryEmplace` and those after it), except a `splice` from another map of a key this map
already has: the list then holds two nodes with one key (`not_wf_splice_of_mem`).

Under `Wf` the entries are a map with distinct keys in list order (`listMapOf`), and each
operation does to them what the `ListMap` of `Lib/ListMap` does, or, where it takes an iterator,
what `insertIdx`, `eraseIdx` or `modify` do at the iterator's position
(`entries_tryEmplace` and the lemmas after it). The one place where the code does not do what it
says is `try_emplace` of a key the map has: it returns `end()`, not the key's entry
(`tryEmplace_of_mem`).
-/

namespace BluetoothStack.Common

open NodeList

/-- `ListMap<Key, T>`: `node_list_`, the entries as addressed nodes, and `key_map_`, the address
of the node of each key. -/
structure ListMap (κ β : Type*) where
  nodeList : List (Nat × (κ × β))
  keyMap : κ → Option Nat

namespace ListMap

variable {κ β : Type*}

/-- `ListMap()`. -/
def empty : ListMap κ β := ⟨[], fun _ => none⟩

/-- The entries in list order: what iterating from `begin()` to `end()` visits. -/
def entries (m : ListMap κ β) : List (κ × β) := values m.nodeList

/-- `size()`. -/
def size (m : ListMap κ β) : Nat := m.nodeList.length

/-- `begin()`. -/
def begin (m : ListMap κ β) : Option Nat := NodeList.begin m.nodeList

/-- `find(key)`: the iterator `key_map_` holds for the key, `end()` when it has none. -/
def find (m : ListMap κ β) (key : κ) : Option Nat := m.keyMap key

/-- `contains(key)`: `find(key) != end()`. -/
def contains (m : ListMap κ β) (key : κ) : Bool := (m.find key).isSome

/-- `splice(pos, *this, it)`: the node moves within the list; `key_map_` is left alone. -/
def spliceSelf (m : ListMap κ β) (pos : Option Nat) (it : Nat) : ListMap κ β :=
  ⟨splice pos it m.nodeList, m.keyMap⟩

section Updates

variable [DecidableEq κ]

/-- `key_map_.emplace(key, it)`, which does nothing when the key is there. -/
def emplaceKey (keyMap : κ → Option Nat) (key : κ) (a : Nat) : κ → Option Nat :=
  if (keyMap key).isSome then keyMap else Function.update keyMap key (some a)

/-- `key_map_.erase(key)`. -/
def eraseKey (keyMap : κ → Option Nat) (key : κ) : κ → Option Nat :=
  Function.update keyMap key none

/-- `try_emplace(pos, key, value)`: a new node before `pos` and `<it, true>`, or, when the key
is there, `<end(), false>` and nothing else. -/
def tryEmplace (m : ListMap κ β) (pos : Option Nat) (key : κ) (value : β) :
    (Option Nat × Bool) × ListMap κ β :=
  match m.keyMap key with
  | some _ => ((none, false), m)
  | none =>
    let a := fresh m.nodeList
    ((some a, true), ⟨insertBefore pos (a, (key, value)) m.nodeList, emplaceKey m.keyMap key a⟩)

/-- `try_emplace_back(key, value)`: `try_emplace(end(), key, value)`. -/
def tryEmplaceBack (m : ListMap κ β) (key : κ) (value : β) : (Option Nat × Bool) × ListMap κ β :=
  m.tryEmplace none key value

/-- `insert_or_assign(pos, key, value)`: the value written through the key's iterator, or a new
node before `pos`. -/
def insertOrAssign (m : ListMap κ β) (pos : Option Nat) (key : κ) (value : β) : ListMap κ β :=
  match m.keyMap key with
  | some a => ⟨modify a (fun e => (e.1, value)) m.nodeList, m.keyMap⟩
  | none =>
    let a := fresh m.nodeList
    ⟨insertBefore pos (a, (key, value)) m.nodeList, emplaceKey m.keyMap key a⟩

/-- `insert_or_assign(key, value)`: `insert_or_assign(end(), key, value)`. -/
def insertOrAssignBack (m : ListMap κ β) (key : κ) (value : β) : ListMap κ β :=
  m.insertOrAssign none key value

/-- `splice(pos, other, it)` from another map: the key's entry of `other.key_map_` is extracted
and inserted here, which does nothing when this map has the key already, and the node moves
from `other.node_list_` to before `pos`. An `it` that is no node of `other` changes nothing. -/
def splice (m other : ListMap κ β) (pos : Option Nat) (it : Nat) : ListMap κ β × ListMap κ β :=
  match get? it other.nodeList with
  | none => (m, other)
  | some (key, value) =>
    let keyMap :=
      match other.keyMap key with
      | some a => emplaceKey m.keyMap key a
      | none => m.keyMap
    (⟨insertBefore pos (it, (key, value)) m.nodeList, keyMap⟩,
      ⟨erase it other.nodeList, eraseKey other.keyMap key⟩)

/-- `extract(key)`: the node's entry and the map without it, or `std::nullopt`. -/
def extract (m : ListMap κ β) (key : κ) : Option (κ × β) × ListMap κ β :=
  match m.keyMap key with
  | none => (none, m)
  | some a => (get? a m.nodeList, ⟨erase a m.nodeList, eraseKey m.keyMap key⟩)

/-- `erase(iter)`: `key_map_.erase(iter->first)`, then `node_list_.erase(iter)`, which returns the
iterator after. An `iter` that is no node changes nothing. -/
def erase (m : ListMap κ β) (it : Nat) : Option Nat × ListMap κ β :=
  match get? it m.nodeList with
  | none => (none, m)
  | some (key, _) => (next it m.nodeList, ⟨NodeList.erase it m.nodeList, eraseKey m.keyMap key⟩)

end Updates

/-! ## The invariant -/

/-- The address and key of each node: all that `key_map_` and the invariant look at. -/
def skeleton (m : ListMap κ β) : List (Nat × κ) := m.nodeList.map (Prod.map id Prod.fst)

/-- What every map the class builds satisfies. -/
structure Wf (m : ListMap κ β) : Prop where
  addrs_nodup : (m.skeleton.map Prod.fst).Nodup
  keys_nodup : (m.skeleton.map Prod.snd).Nodup
  keyMap_eq : ∀ key a, m.keyMap key = some a ↔ (a, key) ∈ m.skeleton

variable {m : ListMap κ β} {key : κ} {a : Nat}

theorem skeleton_fst (m : ListMap κ β) : m.skeleton.map Prod.fst = addrs m.nodeList :=
  addrs_map _ _

theorem keys_entries (m : ListMap κ β) : m.entries.map Prod.fst = m.skeleton.map Prod.snd := by
  simp only [entries, values, skeleton, List.map_map]
  rfl

theorem mem_skeleton : (a, key) ∈ m.skeleton ↔ ∃ value, (a, (key, value)) ∈ m.nodeList := by
  simp only [skeleton, List.mem_map, Prod.map, id, Prod.mk.injEq]
  constructor
  · rintro ⟨⟨b, k, v⟩, hmem, rfl, rfl⟩
    exact ⟨v, hmem⟩
  · rintro ⟨v, hmem⟩
    exact ⟨_, hmem, rfl, rfl⟩

theorem Wf.addrs_nodup' (h : m.Wf) : (addrs m.nodeList).Nodup :=
  m.skeleton_fst ▸ h.addrs_nodup

/-- A key that `key_map_` does not have is the key of no node. -/
theorem Wf.not_mem_of_none (h : m.Wf) (hk : m.keyMap key = none) (b : Nat) :
    (b, key) ∉ m.skeleton := by
  rw [← h.keyMap_eq, hk]
  exact (Option.some_ne_none b).symm

theorem Wf.not_mem_keys (h : m.Wf) (hk : m.keyMap key = none) : key ∉ m.skeleton.map Prod.snd := by
  intro hmem
  obtain ⟨⟨b, k⟩, hb, rfl⟩ := List.mem_map.1 hmem
  exact h.not_mem_of_none hk b hb

/-- The node `key_map_` gives a key holds the key's entry. -/
theorem Wf.get?_of_keyMap (h : m.Wf) (hk : m.keyMap key = some a) :
    ∃ value, get? a m.nodeList = some (key, value) := by
  obtain ⟨value, hmem⟩ := mem_skeleton.1 ((h.keyMap_eq key a).1 hk)
  exact ⟨value, (get?_eq_some_iff h.addrs_nodup').2 hmem⟩

theorem Wf.keyMap_of_get? (h : m.Wf) {value : β} (hit : get? a m.nodeList = some (key, value)) :
    m.keyMap key = some a :=
  (h.keyMap_eq key a).2 (mem_skeleton.2 ⟨value, (get?_eq_some_iff h.addrs_nodup').1 hit⟩)

/-- Only the skeleton and `key_map_` matter: a map whose skeleton is a reordering of a good map's
is good. -/
theorem Wf.of_perm {m' : ListMap κ β} (h : m.Wf) (hp : m'.skeleton.Perm m.skeleton)
    (hk : m'.keyMap = m.keyMap) : m'.Wf where
  addrs_nodup := (hp.map Prod.fst).nodup_iff.2 h.addrs_nodup
  keys_nodup := (hp.map Prod.snd).nodup_iff.2 h.keys_nodup
  keyMap_eq key a := by rw [hk, hp.mem_iff]; exact h.keyMap_eq key a

/-- A write that keeps every key keeps the invariant. -/
theorem Wf.modify (h : m.Wf) (f : κ × β → κ × β) (hf : ∀ e, (f e).1 = e.1) :
    (⟨NodeList.modify a f m.nodeList, m.keyMap⟩ : ListMap κ β).Wf :=
  h.of_perm (by rw [skeleton, map_modify _ hf]; exact .refl _) rfl

variable [DecidableEq κ]

theorem emplaceKey_of_none {keyMap : κ → Option Nat} (h : keyMap key = none) :
    emplaceKey keyMap key a = Function.update keyMap key (some a) := by
  simp [emplaceKey, h]

/-- A node for a new key, at an address no node has, with `key_map_` told of it. -/
theorem Wf.insert (h : m.Wf) (hk : m.keyMap key = none) (ha : a ∉ addrs m.nodeList)
    (pos : Option Nat) (value : β) :
    (⟨insertBefore pos (a, (key, value)) m.nodeList, Function.update m.keyMap key (some a)⟩ :
      ListMap κ β).Wf := by
  have hperm : ((insertBefore pos (a, (key, value)) m.nodeList).map (Prod.map id Prod.fst)).Perm
      ((a, key) :: m.skeleton) := by
    rw [map_insertBefore]
    exact insertBefore_perm _ _ _
  refine ⟨?_, ?_, ?_⟩
  · refine (hperm.map Prod.fst).nodup_iff.2 (List.nodup_cons.2 ⟨?_, h.addrs_nodup⟩)
    rw [skeleton_fst]
    exact ha
  · exact (hperm.map Prod.snd).nodup_iff.2 (List.nodup_cons.2 ⟨h.not_mem_keys hk, h.keys_nodup⟩)
  · intro k b
    show Function.update m.keyMap key (some a) k = some b ↔
      (b, k) ∈ (insertBefore pos (a, (key, value)) m.nodeList).map (Prod.map id Prod.fst)
    rw [hperm.mem_iff, List.mem_cons]
    by_cases hkey : k = key
    · subst hkey
      rw [Function.update_self, Option.some.injEq, Prod.mk.injEq]
      constructor
      · rintro rfl
        exact .inl ⟨rfl, rfl⟩
      · rintro (⟨rfl, -⟩ | hmem)
        · rfl
        · exact absurd hmem (h.not_mem_of_none hk b)
    · rw [Function.update_of_ne hkey, h.keyMap_eq, Prod.mk.injEq]
      exact ⟨.inr, fun hb => hb.resolve_left fun heq => hkey heq.2⟩

/-- A key's node removed, with `key_map_` told of it. -/
theorem Wf.remove (h : m.Wf) (hk : m.keyMap key = some a) :
    (⟨NodeList.erase a m.nodeList, eraseKey m.keyMap key⟩ : ListMap κ β).Wf := by
  have hskel : (NodeList.erase a m.nodeList).map (Prod.map id Prod.fst) =
      NodeList.erase a m.skeleton :=
    map_erase _ _ _
  have hsub := erase_sublist a m.skeleton
  have hnodup : (addrs m.skeleton).Nodup := h.addrs_nodup
  refine ⟨?_, ?_, ?_⟩
  · show ((NodeList.erase a m.nodeList).map (Prod.map id Prod.fst)).map Prod.fst |>.Nodup
    rw [hskel]
    exact h.addrs_nodup.sublist (hsub.map _)
  · show ((NodeList.erase a m.nodeList).map (Prod.map id Prod.fst)).map Prod.snd |>.Nodup
    rw [hskel]
    exact h.keys_nodup.sublist (hsub.map _)
  · intro k b
    show eraseKey m.keyMap key k = some b ↔
      (b, k) ∈ (NodeList.erase a m.nodeList).map (Prod.map id Prod.fst)
    rw [hskel, mem_erase hnodup, eraseKey]
    have hka : (a, key) ∈ m.skeleton := (h.keyMap_eq key a).1 hk
    by_cases hkey : k = key
    · subst hkey
      rw [Function.update_self]
      constructor
      · intro hnone
        exact absurd hnone (Option.some_ne_none b).symm
      · rintro ⟨hmem, hne⟩
        -- the key's only node is the one at `a`
        exact absurd (Option.some.inj (((h.keyMap_eq k b).2 hmem).symm.trans hk)) hne
    · rw [Function.update_of_ne hkey, h.keyMap_eq]
      refine ⟨fun hmem => ⟨hmem, fun hb => hkey ?_⟩, And.left⟩
      -- two nodes at `a` are one node
      exact eq_of_mem_of_mem hnodup (hb ▸ hmem) hka

/-! ## Every operation keeps the invariant -/

omit [DecidableEq κ] in
theorem wf_empty : (empty : ListMap κ β).Wf where
  addrs_nodup := List.nodup_nil
  keys_nodup := List.nodup_nil
  keyMap_eq _ _ := by simp [empty, skeleton]

theorem wf_tryEmplace (h : m.Wf) (pos : Option Nat) (key : κ) (value : β) :
    (m.tryEmplace pos key value).2.Wf := by
  unfold tryEmplace
  split
  · exact h
  · rename_i hk
    dsimp only
    rw [emplaceKey_of_none hk]
    exact h.insert hk (fresh_not_mem _) pos value

theorem wf_insertOrAssign (h : m.Wf) (pos : Option Nat) (key : κ) (value : β) :
    (m.insertOrAssign pos key value).Wf := by
  unfold insertOrAssign
  split
  · exact h.modify _ fun _ => rfl
  · rename_i hk
    dsimp only
    rw [emplaceKey_of_none hk]
    exact h.insert hk (fresh_not_mem _) pos value

omit [DecidableEq κ] in
theorem wf_spliceSelf (h : m.Wf) (pos : Option Nat) (it : Nat) : (m.spliceSelf pos it).Wf :=
  h.of_perm (by rw [spliceSelf, skeleton, map_splice]; exact splice_perm _ _ _) rfl

theorem wf_extract (h : m.Wf) (key : κ) : (m.extract key).2.Wf := by
  unfold extract
  split
  · exact h
  · rename_i a hk
    exact h.remove hk

theorem wf_erase (h : m.Wf) (it : Nat) : (m.erase it).2.Wf := by
  unfold erase
  split
  · exact h
  · rename_i key value hit
    exact h.remove (h.keyMap_of_get? hit)

/-- A splice from another map keeps both good when this map lacks the key and the node is none of
its own. -/
theorem wf_splice {other : ListMap κ β} (h : m.Wf) (ho : other.Wf) {it : Nat} {value : β}
    (hit : get? it other.nodeList = some (key, value)) (hk : m.keyMap key = none)
    (hnew : it ∉ addrs m.nodeList) (pos : Option Nat) :
    (m.splice other pos it).1.Wf ∧ (m.splice other pos it).2.Wf := by
  have hkey := ho.keyMap_of_get? hit
  simp only [splice, hit, hkey, emplaceKey_of_none hk]
  exact ⟨h.insert hk hnew pos value, ho.remove hkey⟩

/-- A splice from another map of a key this map has leaves two nodes with that key. -/
theorem not_wf_splice_of_mem {other : ListMap κ β} (h : m.Wf) {it b : Nat} {value : β}
    (hit : get? it other.nodeList = some (key, value)) (hk : m.keyMap key = some b)
    (pos : Option Nat) : ¬(m.splice other pos it).1.Wf := by
  intro hwf
  have hperm : (m.splice other pos it).1.skeleton.Perm ((it, key) :: m.skeleton) := by
    simp only [splice, hit, skeleton]
    rw [map_insertBefore]
    exact insertBefore_perm _ _ _
  have hdup := (hperm.map Prod.snd).nodup_iff.1 hwf.keys_nodup
  rw [List.map_cons, List.nodup_cons] at hdup
  exact hdup.1 (List.mem_map.2 ⟨(b, key), (h.keyMap_eq key b).1 hk, rfl⟩)

/-! ## What each operation does to the entries -/

omit [DecidableEq κ] in
/-- In a good map the node at a key's address is the one node with that key. -/
theorem Wf.addr_iff_key (h : m.Wf) (hk : m.keyMap key = some a) :
    ∀ n ∈ m.nodeList, n.1 = a ↔ n.2.1 = key := by
  intro n hn
  have hskel : (n.1, n.2.1) ∈ m.skeleton := List.mem_map_of_mem hn
  have hka : (a, key) ∈ m.skeleton := (h.keyMap_eq key a).1 hk
  constructor
  · rintro rfl
    exact eq_of_mem_of_mem h.addrs_nodup hskel hka
  · intro hkey
    rw [hkey] at hskel
    exact Option.some.inj (((h.keyMap_eq key n.1).2 hskel).symm.trans hk)

/-- Unlinking a key's node removes the key's entry and keeps the others in order. -/
theorem Wf.values_erase (h : m.Wf) (hk : m.keyMap key = some a) :
    values (NodeList.erase a m.nodeList) = m.entries.filter fun e => e.1 ≠ key := by
  rw [erase_eq_filter h.addrs_nodup', entries, values, values, List.filter_map]
  congr 1
  refine List.filter_congr fun n hn => ?_
  simp only [Function.comp, ne_eq, h.addr_iff_key hk n hn]

/-- A write through a key's node changes the key's entry in place. -/
theorem Wf.values_modify (h : m.Wf) (hk : m.keyMap key = some a) (f : κ × β → κ × β) :
    values (NodeList.modify a f m.nodeList) =
      m.entries.map fun e => if e.1 = key then f e else e := by
  rw [modify_eq_map h.addrs_nodup', entries, values, values, List.map_map, List.map_map]
  refine List.map_congr_left fun n hn => ?_
  by_cases hn' : n.1 = a
  · simp [hn', (h.addr_iff_key hk n hn).1 hn']
  · simp [hn', mt (h.addr_iff_key hk n hn).2 hn']

/-- `try_emplace` of a key the map has: `<end(), false>`, though `find` gives the key's
iterator. -/
theorem tryEmplace_of_mem (hk : m.keyMap key = some a) (pos : Option Nat) (value : β) :
    m.tryEmplace pos key value = ((none, false), m) := by
  simp only [tryEmplace, hk]

theorem tryEmplace_of_none (hk : m.keyMap key = none) (pos : Option Nat) (value : β) :
    m.tryEmplace pos key value = ((some (fresh m.nodeList), true),
      ⟨insertBefore pos (fresh m.nodeList, (key, value)) m.nodeList,
        Function.update m.keyMap key (some (fresh m.nodeList))⟩) := by
  simp only [tryEmplace, hk, emplaceKey_of_none hk]

/-- A new key: its entry goes before `pos`, and the iterator returned is the one `find` then
gives for the key. -/
theorem entries_tryEmplace (hk : m.keyMap key = none) (pos : Option Nat) (value : β) :
    (m.tryEmplace pos key value).2.entries =
        m.entries.insertIdx (index m.nodeList pos) (key, value) ∧
      (m.tryEmplace pos key value).2.find key = (m.tryEmplace pos key value).1.1 := by
  rw [tryEmplace_of_none hk]
  exact ⟨values_insertBefore _ _ _, Function.update_self _ _ _⟩

theorem insertOrAssign_of_none (hk : m.keyMap key = none) (pos : Option Nat) (value : β) :
    m.insertOrAssign pos key value =
      ⟨insertBefore pos (fresh m.nodeList, (key, value)) m.nodeList,
        Function.update m.keyMap key (some (fresh m.nodeList))⟩ := by
  simp only [insertOrAssign, hk, emplaceKey_of_none hk]

/-- `insert_or_assign` of a key the map has writes the value in place; of a new key, it puts the
entry before `pos`. -/
theorem entries_insertOrAssign (h : m.Wf) (pos : Option Nat) (value : β) :
    (m.insertOrAssign pos key value).entries =
      if (m.keyMap key).isSome then m.entries.map fun e => if e.1 = key then (e.1, value) else e
      else m.entries.insertIdx (index m.nodeList pos) (key, value) := by
  cases hk : m.keyMap key with
  | none =>
    rw [insertOrAssign_of_none hk]
    exact values_insertBefore _ _ _
  | some a =>
    simp only [insertOrAssign, hk, Option.isSome_some, if_true]
    exact h.values_modify hk _

theorem extract_of_keyMap {value : β} (hk : m.keyMap key = some a)
    (hget : get? a m.nodeList = some (key, value)) :
    m.extract key = (some (key, value), ⟨NodeList.erase a m.nodeList, eraseKey m.keyMap key⟩) := by
  simp only [extract, hk, hget]

/-- `erase(iter)` removes the entry at the iterator and returns the iterator that then stands at
its place. -/
theorem entries_erase (h : m.Wf) {it : Nat} (hit : it ∈ addrs m.nodeList) :
    (m.erase it).2.entries = m.entries.eraseIdx (index m.nodeList (some it)) ∧
      index (m.erase it).2.nodeList (m.erase it).1 = index m.nodeList (some it) := by
  obtain ⟨⟨key, value⟩, hget⟩ := Option.ne_none_iff_exists'.1 (mt get?_eq_none_iff.1 (not_not.2 hit))
  simp only [erase, hget]
  exact ⟨values_erase _ _, index_next h.addrs_nodup' hit⟩

/-- `splice(begin(), *this, it)` of a key's node moves its entry to the front. -/
theorem Wf.entries_spliceSelf_begin (h : m.Wf) {value : β} (hk : m.keyMap key = some a)
    (hget : get? a m.nodeList = some (key, value)) :
    (m.spliceSelf m.begin a).entries = (key, value) :: m.entries.filter fun e => e.1 ≠ key := by
  rw [← h.values_erase hk]
  obtain ⟨n, rest, hl⟩ : ∃ n rest, m.nodeList = n :: rest := by
    cases hlist : m.nodeList with
    | nil => rw [hlist] at hget; cases hget
    | cons n rest => exact ⟨n, rest, rfl⟩
  simp only [spliceSelf, begin, entries, hl] at hget ⊢
  by_cases hn : n.1 = a
  · -- the key's node is first already
    subst hn
    rw [splice_head_self, NodeList.erase, if_pos rfl, values_cons]
    simp only [get?, if_true, Option.some.injEq] at hget
    rw [hget]
  · rw [splice_head hn hget, values_cons]

omit [DecidableEq κ] in
theorem size_spliceSelf (pos : Option Nat) (it : Nat) : (m.spliceSelf pos it).size = m.size :=
  (splice_perm pos it m.nodeList).length_eq

omit [DecidableEq κ] in
/-- The iterators a splice within the map does not touch still hold their entries, and the one it
moves too. -/
theorem Wf.get?_spliceSelf (h : m.Wf) (pos : Option Nat) (it b : Nat) :
    get? b (m.spliceSelf pos it).nodeList = get? b m.nodeList := by
  have hperm := splice_perm pos it m.nodeList
  apply Option.ext
  intro x
  rw [get?_eq_some_iff (wf_spliceSelf h pos it).addrs_nodup', get?_eq_some_iff h.addrs_nodup']
  exact hperm.mem_iff

omit [DecidableEq κ] in
/-- After `splice(begin(), *this, it)` the node at `it` is first. -/
theorem begin_spliceSelf_begin {value : β} (hget : get? a m.nodeList = some (key, value)) :
    (m.spliceSelf m.begin a).begin = some a := by
  obtain ⟨n, rest, hl⟩ : ∃ n rest, m.nodeList = n :: rest := by
    cases hlist : m.nodeList with
    | nil => rw [hlist] at hget; cases hget
    | cons n rest => exact ⟨n, rest, rfl⟩
  simp only [spliceSelf, begin, hl] at hget ⊢
  by_cases hn : n.1 = a
  · subst hn
    rw [splice_head_self]
    rfl
  · rw [splice_head hn hget]
    rfl

/-- `insert_or_assign(begin(), key, value)` of a new key puts its entry first. -/
theorem entries_insertOrAssign_begin (h : m.Wf) (hk : m.keyMap key = none) (value : β) :
    (m.insertOrAssign m.begin key value).entries = (key, value) :: m.entries := by
  rw [entries_insertOrAssign h, hk, Option.isSome_none, if_neg Bool.false_ne_true, begin,
    index_begin, List.insertIdx_zero]

theorem size_insertOrAssign_of_none (hk : m.keyMap key = none) (pos : Option Nat) (value : β) :
    (m.insertOrAssign pos key value).size = m.size + 1 := by
  rw [insertOrAssign_of_none hk]
  exact (insertBefore_perm _ _ _).length_eq

theorem size_tryEmplace_of_none (hk : m.keyMap key = none) (pos : Option Nat) (value : β) :
    (m.tryEmplace pos key value).2.size = m.size + 1 := by
  rw [tryEmplace_of_none hk]
  exact (insertBefore_perm _ _ _).length_eq

/-- `extract` of a key the map has takes one node out. -/
theorem Wf.size_extract (h : m.Wf) (hk : m.keyMap key = some a) :
    (m.extract key).2.size + 1 = m.size := by
  obtain ⟨value, hget⟩ := h.get?_of_keyMap hk
  rw [extract_of_keyMap hk hget]
  exact (perm_cons_erase hget).length_eq.symm

theorem size_extract_le (h : m.Wf) (key : κ) : (m.extract key).2.size ≤ m.size := by
  cases hk : m.keyMap key with
  | none =>
    simp only [extract, hk]
    exact Nat.le_refl _
  | some a =>
    have := h.size_extract hk
    omega

/-- `splice` from another map: the entry leaves `other` at the iterator's position and goes
before `pos` here. -/
theorem entries_splice {other : ListMap κ β} {it : Nat} {value : β}
    (hit : get? it other.nodeList = some (key, value)) (pos : Option Nat) :
    (m.splice other pos it).1.entries = m.entries.insertIdx (index m.nodeList pos) (key, value) ∧
      (m.splice other pos it).2.entries = other.entries.eraseIdx (index other.nodeList (some it)) := by
  simp only [splice, hit]
  exact ⟨values_insertBefore _ _ _, values_erase _ _⟩

end ListMap

end BluetoothStack.Common

/-! ## The map a `ListMap` stands for -/

namespace BluetoothStack

open NodeList

section Refinement

variable {κ β : Type*} [DecidableEq κ] {m : Common.ListMap κ β} {key : κ}

/-- The map a good `ListMap` stands for: its entries, whose keys are distinct. -/
def listMapOf (m : Common.ListMap κ β) (h : m.Wf) : ListMap κ β :=
  ⟨m.entries, by rw [Common.ListMap.keys_entries]; exact h.keys_nodup⟩

omit [DecidableEq κ] in
theorem mem_keys_listMapOf (h : m.Wf) : key ∈ (listMapOf m h).keys ↔ (m.keyMap key).isSome := by
  show key ∈ m.entries.map Prod.fst ↔ _
  rw [Common.ListMap.keys_entries, List.mem_map]
  constructor
  · rintro ⟨⟨b, k⟩, hb, rfl⟩
    rw [(h.keyMap_eq k b).2 hb]
    rfl
  · intro hsome
    obtain ⟨b, hb⟩ := Option.isSome_iff_exists.1 hsome
    exact ⟨(b, key), (h.keyMap_eq key b).1 hb, rfl⟩

omit [DecidableEq κ] in
theorem not_mem_keys_listMapOf (h : m.Wf) : key ∉ (listMapOf m h).keys ↔ m.keyMap key = none := by
  rw [mem_keys_listMapOf h, Option.not_isSome_iff_eq_none]

/-- `find` gives the iterator of the key's node, which holds the map's value of the key. -/
theorem find_refines (h : m.Wf) (key : κ) :
    ((m.find key).bind fun a => get? a m.nodeList).map Prod.snd = (listMapOf m h).find? key := by
  cases hk : m.keyMap key with
  | none =>
    have hfind : m.find key = none := hk
    rw [hfind, Option.bind_none, Option.map_none, eq_comm, ListMap.find?_eq_none_iff,
      not_mem_keys_listMapOf h]
    exact hk
  | some a =>
    obtain ⟨value, hget⟩ := h.get?_of_keyMap hk
    have hfind : m.find key = some a := hk
    rw [hfind, Option.bind_some, hget, Option.map_some, eq_comm, ListMap.find?_eq_some_iff]
    show (key, value) ∈ m.nodeList.map Prod.snd
    exact List.mem_map_of_mem ((get?_eq_some_iff h.addrs_nodup').1 hget)

theorem contains_refines (h : m.Wf) (key : κ) :
    m.contains key = (listMapOf m h).contains key := by
  rw [Bool.eq_iff_iff, ListMap.contains_iff, mem_keys_listMapOf h]
  rfl

theorem tryEmplaceBack_refines (h : m.Wf) (key : κ) (value : β) :
    (m.tryEmplaceBack key value).2.entries = ((listMapOf m h).tryEmplaceBack key value).entries := by
  cases hk : m.keyMap key with
  | some a =>
    have hmem : key ∈ (listMapOf m h).keys := (mem_keys_listMapOf h).2 (by rw [hk]; rfl)
    rw [Common.ListMap.tryEmplaceBack, Common.ListMap.tryEmplace_of_mem hk,
      ListMap.tryEmplaceBack_of_mem hmem]
    rfl
  | none =>
    rw [Common.ListMap.tryEmplaceBack, (Common.ListMap.entries_tryEmplace hk none value).1,
      ListMap.entries_tryEmplaceBack_of_not_mem ((not_mem_keys_listMapOf h).2 hk), index_none,
      ← length_values]
    exact List.insertIdx_length_self

theorem insertOrAssignBack_refines (h : m.Wf) (key : κ) (value : β) :
    (m.insertOrAssignBack key value).entries =
      ((listMapOf m h).insertOrAssignBack key value).entries := by
  rw [Common.ListMap.insertOrAssignBack, Common.ListMap.entries_insertOrAssign h]
  cases hk : m.keyMap key with
  | some a =>
    have hmem : key ∈ (listMapOf m h).keys := (mem_keys_listMapOf h).2 (by rw [hk]; rfl)
    rw [ListMap.insertOrAssignBack, if_pos hmem, Option.isSome_some, if_pos rfl]
    rfl
  | none =>
    rw [ListMap.entries_insertOrAssignBack_of_not_mem ((not_mem_keys_listMapOf h).2 hk),
      Option.isSome_none, if_neg Bool.false_ne_true, index_none, ← length_values]
    exact List.insertIdx_length_self

/-- `extract` returns the key's entry and leaves the map without it, the others in order. -/
theorem extract_refines (h : m.Wf) (key : κ) :
    (m.extract key).1 = ((listMapOf m h).find? key).map (fun v => (key, v)) ∧
      (m.extract key).2.entries = ((listMapOf m h).erase key).entries := by
  rw [← find_refines h key]
  cases hk : m.keyMap key with
  | none =>
    have hfind : m.find key = none := hk
    have hkeys : key ∉ m.entries.map Prod.fst := (not_mem_keys_listMapOf h).2 hk
    refine ⟨by simp only [Common.ListMap.extract, hk, hfind, Option.bind_none, Option.map_none], ?_⟩
    simp only [Common.ListMap.extract, hk]
    -- no entry has the key, so the filter keeps them all
    refine (List.filter_eq_self.2 fun e he => ?_).symm
    have hne : e.1 ≠ key := fun heq => hkeys (heq ▸ List.mem_map_of_mem he)
    simpa using hne
  | some a =>
    obtain ⟨value, hget⟩ := h.get?_of_keyMap hk
    have hfind : m.find key = some a := hk
    rw [Common.ListMap.extract_of_keyMap hk hget, hfind, Option.bind_some, hget]
    exact ⟨rfl, h.values_erase hk⟩

/-- `splice(begin(), *this, it)` of a key's node is the move of its entry to the front. -/
theorem spliceSelf_begin_refines (h : m.Wf) {a : Nat} (hk : m.keyMap key = some a) :
    (m.spliceSelf m.begin a).entries = ((listMapOf m h).spliceFront key).entries := by
  obtain ⟨value, hget⟩ := h.get?_of_keyMap hk
  have hfind : (listMapOf m h).find? key = some value := by
    rw [← find_refines h key, show m.find key = some a from hk, Option.bind_some, hget]
    rfl
  rw [h.entries_spliceSelf_begin hk hget, ListMap.entries_spliceFront hfind]
  rfl

end Refinement

end BluetoothStack
