import Mathlib
import BluetoothStack.Config.Cache

/-!
# What every reachable configuration cache keeps

`ConfigCache.Inv N names c` is the invariant of a cache built with a temporary capacity `N` and
the persistent property names `names`: each section is in one map only, under a name that is not
empty and has no newline; the information sections are not device addresses and the devices are,
no section is empty, the LRU cache keeps its capacity, and every persistent device holds a
persistent property. `Inv.of_subset` and
`Inv.of_change` give it for a cache whose maps lose sections, or change one section; every call
is one or the other (`inv_call`), and `inv_of_reachable` carries it along every run from
`ConfigCache.create`.

The invariant does not say that a device holding a persistent property is persistent:
`RemoveProperty` of one persistent property moves the device to the temporary cache even when it
keeps another (`removeProperty_moves_bonded_device`), where the cache may then evict it.
-/

namespace BluetoothStack.Config

/-- The three maps of the cache. -/
inductive Loc where
  | information
  | persistent
  | temporary
deriving DecidableEq

namespace ConfigCache

/-- The sections of one map. -/
def entriesAt (c : ConfigCache) : Loc → List (List Char × Properties)
  | .information => c.informationSections.entries
  | .persistent => c.persistentDevices.entries
  | .temporary => c.temporaryDevices.listMap.entries

/-- What a section of each map is: information sections are not device addresses, devices are;
no section is empty; a persistent device holds a persistent property. -/
def SectionOk (names : List (List Char)) : Loc → List Char × Properties → Prop
  | .information, e => isDeviceSection e.1 = false ∧ 0 < e.2.size
  | .persistent, e => isDeviceSection e.1 = true ∧ 0 < e.2.size ∧ ∃ p ∈ e.2.keys, p ∈ names
  | .temporary, e => isDeviceSection e.1 = true ∧ 0 < e.2.size

/-- The invariant of a cache of temporary capacity `N` and persistent property names `names`. -/
structure Inv (N : Nat) (names : List (List Char)) (c : ConfigCache) : Prop where
  capacity : c.temporaryDevices.capacity = N
  persistentPropertyNames : c.persistentPropertyNames = names
  ok : ∀ l, ∀ e ∈ c.entriesAt l, SectionOk names l e
  unique : ∀ l₁ l₂ (e₁ e₂ : List Char × Properties), e₁ ∈ c.entriesAt l₁ → e₂ ∈ c.entriesAt l₂ →
    e₁.1 = e₂.1 → l₁ = l₂
  names_clean : ∀ l, ∀ e ∈ c.entriesAt l, e.1 ≠ [] ∧ '\n' ∉ e.1

section Inv

variable {N : Nat} {names : List (List Char)} {c c' : ConfigCache}

theorem inv_create (N : Nat) (hN : 0 < N) (names : List (List Char)) :
    Inv N names (create N hN names) where
  capacity := rfl
  persistentPropertyNames := rfl
  ok l e he := by cases l <;> simp [entriesAt, create, LruCache.create] at he
  unique l₁ l₂ e₁ e₂ he₁ _ _ := by cases l₁ <;> simp [entriesAt, create, LruCache.create] at he₁
  names_clean l e he := by cases l <;> simp [entriesAt, create, LruCache.create] at he

/-- A cache whose maps only lost sections. -/
theorem Inv.of_subset (hinv : Inv N names c)
    (hcap : c'.temporaryDevices.capacity = c.temporaryDevices.capacity)
    (hnames : c'.persistentPropertyNames = c.persistentPropertyNames)
    (hsub : ∀ l e, e ∈ c'.entriesAt l → e ∈ c.entriesAt l) : Inv N names c' where
  capacity := hcap.trans hinv.capacity
  persistentPropertyNames := hnames.trans hinv.persistentPropertyNames
  ok l e he := hinv.ok l e (hsub l e he)
  unique l₁ l₂ e₁ e₂ he₁ he₂ := hinv.unique l₁ l₂ e₁ e₂ (hsub l₁ e₁ he₁) (hsub l₂ e₂ he₂)
  names_clean l e he := hinv.names_clean l e (hsub l e he)

/-- A cache changed at one section `s`: the sections of other names are where they were, and
those named `s` are in the map `l₀` and of its kind. -/
theorem Inv.of_change (hinv : Inv N names c)
    (hcap : c'.temporaryDevices.capacity = c.temporaryDevices.capacity)
    (hnames : c'.persistentPropertyNames = c.persistentPropertyNames) (s : List Char)
    (hs : s ≠ [] ∧ '\n' ∉ s) (l₀ : Loc)
    (hsub : ∀ l e, e ∈ c'.entriesAt l →
      (e ∈ c.entriesAt l ∧ e.1 ≠ s) ∨ (l = l₀ ∧ e.1 = s ∧ SectionOk names l₀ e)) :
    Inv N names c' where
  capacity := hcap.trans hinv.capacity
  persistentPropertyNames := hnames.trans hinv.persistentPropertyNames
  ok l e he := by
    rcases hsub l e he with ⟨he', -⟩ | ⟨rfl, -, hok⟩
    · exact hinv.ok l e he'
    · exact hok
  unique l₁ l₂ e₁ e₂ he₁ he₂ heq := by
    rcases hsub l₁ e₁ he₁ with ⟨he₁', hs₁⟩ | ⟨rfl, hs₁, -⟩ <;>
      rcases hsub l₂ e₂ he₂ with ⟨he₂', hs₂⟩ | ⟨rfl, hs₂, -⟩
    · exact hinv.unique l₁ l₂ e₁ e₂ he₁' he₂' heq
    · exact absurd (heq.trans hs₂) hs₁
    · exact absurd (heq.symm.trans hs₁) hs₂
    · rfl
  names_clean l e he := by
    rcases hsub l e he with ⟨he', -⟩ | ⟨-, hes, -⟩
    · exact hinv.names_clean l e he'
    · exact hes ▸ hs

/-- Two sections of one name are in one map. -/
theorem Inv.name_ne (hinv : Inv N names c) (l₁ l₂ : Loc) {e₁ e₂ : List Char × Properties}
    (he₁ : e₁ ∈ c.entriesAt l₁) (he₂ : e₂ ∈ c.entriesAt l₂) (hl : l₁ ≠ l₂) : e₁.1 ≠ e₂.1 :=
  fun heq => hl (hinv.unique l₁ l₂ e₁ e₂ he₁ he₂ heq)

/-- A device address names no information section. -/
theorem Inv.not_information (hinv : Inv N names c) {s : List Char} (hs : isDeviceSection s = true)
    {e : List Char × Properties} (he : e ∈ c.informationSections.entries) : e.1 ≠ s := by
  rintro rfl
  have := (hinv.ok .information e he).1
  rw [hs] at this
  exact Bool.noConfusion this

/-- An information section's name names no device. -/
theorem Inv.not_device (hinv : Inv N names c) {s : List Char} (hs : isDeviceSection s = false)
    {l : Loc} (hl : l ≠ .information) {e : List Char × Properties} (he : e ∈ c.entriesAt l) :
    e.1 ≠ s := by
  rintro rfl
  cases l with
  | information => exact hl rfl
  | persistent =>
    have := (hinv.ok .persistent e he).1
    rw [hs] at this
    exact Bool.noConfusion this
  | temporary =>
    have := (hinv.ok .temporary e he).1
    rw [hs] at this
    exact Bool.noConfusion this

/-! ## Sections that only go -/

theorem inv_removeSection (hinv : Inv N names c) (s : List Char) :
    Inv N names (c.removeSection s).2 := by
  unfold removeSection
  split_ifs
  · refine hinv.of_subset rfl rfl fun l e he => ?_
    cases l
    · exact (ListMap.mem_erase.1 he).1
    · exact he
    · exact he
  · refine hinv.of_subset rfl rfl fun l e he => ?_
    cases l
    · exact he
    · exact (ListMap.mem_erase.1 he).1
    · exact he
  · refine hinv.of_subset rfl rfl fun l e he => ?_
    cases l
    · exact he
    · exact he
    · exact (LruCache.mem_extract.1 he).1

theorem inv_removeSectionWithProperty (hinv : Inv N names c) (p : List Char) :
    Inv N names (c.removeSectionWithProperty p) := by
  refine hinv.of_subset rfl rfl fun l e he => ?_
  cases l
  · exact (ListMap.mem_filter.1 he).1
  · exact (ListMap.mem_filter.1 he).1
  · exact (LruCache.mem_filter.1 he).1

theorem inv_clear (hinv : Inv N names c) : Inv N names c.clear := by
  refine hinv.of_subset rfl rfl fun l e he => ?_
  cases l <;> simp [entriesAt, clear] at he

/-! ## `SetProperty` -/

/-- An information section gets the property, found or added at the end. -/
theorem mem_setInformation {s p v : List Char} {e : List Char × Properties}
    (he : e ∈ (c.setInformation s p v).informationSections.entries) :
    (e ∈ c.informationSections.entries ∧ e.1 ≠ s) ∨
      ∃ w : Properties, e = (s, w.insertOrAssignBack p v) := by
  rcases ListMap.mem_modify.1 he with ⟨he', hs⟩ | ⟨w, -, rfl⟩
  · rcases ListMap.mem_tryEmplaceBack.1 he' with he'' | ⟨-, rfl⟩
    · exact .inl ⟨he'', hs⟩
    · exact absurd rfl hs
  · exact .inr ⟨w, rfl⟩

theorem inv_setInformation (hinv : Inv N names c) {s : List Char} (hclean : s ≠ [] ∧ '\n' ∉ s)
    (hs : isDeviceSection s = false) (p v : List Char) : Inv N names (c.setInformation s p v) := by
  refine hinv.of_change rfl rfl s hclean .information fun l e he => ?_
  cases l with
  | information =>
    rcases mem_setInformation he with h | ⟨w, rfl⟩
    · exact .inl h
    · exact .inr ⟨rfl, rfl, hs, ListMap.size_insertOrAssignBack_pos w p v⟩
  | persistent =>
    have he' : e ∈ c.entriesAt .persistent := he
    exact .inl ⟨he', hinv.not_device hs (by decide) he'⟩
  | temporary =>
    have he' : e ∈ c.entriesAt .temporary := he
    exact .inl ⟨he', hinv.not_device hs (by decide) he'⟩

/-- A persistent device gets the property in place. -/
theorem mem_setPersistent {pp : ParameterProvider} {s p v : List Char}
    {e : List Char × Properties} (he : e ∈ (c.setPersistent pp s p v).persistentDevices.entries) :
    (e ∈ c.persistentDevices.entries ∧ e.1 ≠ s) ∨
      ∃ w : Properties, (s, w) ∈ c.persistentDevices.entries ∧
        e = (s, w.insertOrAssignBack p (persistentValue pp s p v)) :=
  ListMap.mem_modify.1 he

theorem inv_setPersistent (hinv : Inv N names c) (pp : ParameterProvider) {s : List Char}
    (hs : s ∈ c.persistentDevices.keys) (p v : List Char) :
    Inv N names (c.setPersistent pp s p v) := by
  obtain ⟨w₀, hw₀⟩ := ListMap.mem_keys.1 hs
  have hw₀' : (s, w₀) ∈ c.entriesAt .persistent := hw₀
  refine hinv.of_change rfl rfl s (hinv.names_clean _ _ hw₀') .persistent fun l e he => ?_
  cases l with
  | information =>
    have he' : e ∈ c.entriesAt .information := he
    exact .inl ⟨he', hinv.name_ne _ _ he' hw₀' (by decide)⟩
  | persistent =>
    rcases mem_setPersistent he with h | ⟨w, hw, rfl⟩
    · exact .inl h
    · -- the device kept its persistent property
      obtain ⟨hdev, -, q, hq, hqn⟩ := hinv.ok .persistent (s, w) hw
      exact .inr ⟨rfl, rfl, hdev, ListMap.size_insertOrAssignBack_pos _ _ _,
        q, ListMap.mem_keys_insertOrAssignBack.2 (.inr hq), hqn⟩
  | temporary =>
    have he' : e ∈ c.entriesAt .temporary := he
    exact .inl ⟨he', hinv.name_ne _ _ he' hw₀' (by decide)⟩

/-- A device given its first persistent property: its temporary section, or an empty one, goes at
the end of the persistent devices and takes the property. -/
theorem inv_promote_setPersistent (hinv : Inv N names c) (pp : ParameterProvider) {s p : List Char}
    (hclean : s ≠ [] ∧ '\n' ∉ s) (hdev : isDeviceSection s = true) (hp : p ∈ names)
    (v : List Char) : Inv N names ((c.promote s).setPersistent pp s p v) := by
  refine hinv.of_change rfl rfl s hclean .persistent fun l e he => ?_
  cases l with
  | information => exact .inl ⟨he, hinv.not_information hdev he⟩
  | persistent =>
    rcases mem_setPersistent he with ⟨he', hes⟩ | ⟨w, -, rfl⟩
    · rcases ListMap.mem_tryEmplaceBack.1 he' with h | ⟨-, rfl⟩
      · exact .inl ⟨h, hes⟩
      · exact absurd rfl hes
    · exact .inr ⟨rfl, rfl, hdev, ListMap.size_insertOrAssignBack_pos _ _ _,
        p, ListMap.mem_keys_insertOrAssignBack.2 (.inl rfl), hp⟩
  | temporary => exact .inl (LruCache.mem_extract.1 he)

/-- A temporary device gets the property, warmed or added first. -/
theorem mem_setTemporary {s p v : List Char} {e : List Char × Properties}
    (he : e ∈ (c.setTemporary s p v).temporaryDevices.listMap.entries) :
    (e ∈ c.temporaryDevices.listMap.entries ∧ e.1 ≠ s) ∨
      ∃ w : Properties, e = (s, w.insertOrAssignBack p v) := by
  unfold setTemporary at he
  dsimp only at he
  rcases LruCache.mem_modify.1 he with ⟨he', hs⟩ | ⟨w, -, rfl⟩
  · refine .inl ⟨?_, hs⟩
    split at he'
    · exact LruCache.mem_find.1 he'
    · rcases LruCache.mem_tryEmplace he' with h | rfl
      · exact LruCache.mem_find.1 h
      · exact absurd rfl hs
  · exact .inr ⟨w, rfl⟩

theorem capacity_setTemporary (s p v : List Char) :
    (c.setTemporary s p v).temporaryDevices.capacity = c.temporaryDevices.capacity := by
  unfold setTemporary
  dsimp only
  split <;> simp

theorem inv_setTemporary (hinv : Inv N names c) {s : List Char} (hclean : s ≠ [] ∧ '\n' ∉ s)
    (hdev : isDeviceSection s = true) (hs : s ∉ c.persistentDevices.keys) (p v : List Char) :
    Inv N names (c.setTemporary s p v) := by
  refine hinv.of_change (capacity_setTemporary s p v) rfl s hclean .temporary fun l e he => ?_
  cases l with
  | information => exact .inl ⟨he, hinv.not_information hdev he⟩
  | persistent => exact .inl ⟨he, fun hes => hs (ListMap.mem_keys.2 ⟨e.2, hes ▸ he⟩)⟩
  | temporary =>
    rcases mem_setTemporary he with h | ⟨w, rfl⟩
    · exact .inl h
    · exact .inr ⟨rfl, rfl, hdev, ListMap.size_insertOrAssignBack_pos _ _ _⟩

/-- `SetProperty` goes on with a section name without newline: the part before the first one, or
the whole name when it has none. -/
theorem newline_not_mem_trimSetPropertyArgs (s p v : List Char) :
    '\n' ∉ (trimSetPropertyArgs s p v).1 := by
  unfold trimSetPropertyArgs trimAfterNewLine
  split_ifs with h₁ h₂
  · intro hmem
    simpa using List.mem_takeWhile_imp hmem
  · simpa using h₁
  · simpa using h₁

/-- The promoted device is persistent. -/
theorem mem_keys_promote (s : List Char) : s ∈ (c.promote s).persistentDevices.keys :=
  ListMap.mem_keys_tryEmplaceBack.2 (.inl rfl)

/-- `SetProperty` keeps the invariant: it fails, or it sets an information section, a persistent
device (promoted from the temporary ones by a persistent property) or a temporary device. -/
theorem inv_setProperty (hinv : Inv N names c) {pp : ParameterProvider} {s p v : List Char}
    (h : c.setProperty pp s p v = some c') : Inv N names c' := by
  unfold setProperty at h
  have hnl := newline_not_mem_trimSetPropertyArgs s p v
  generalize trimSetPropertyArgs s p v = args at h hnl
  obtain ⟨s, p, v⟩ := args
  dsimp only at h hnl
  by_cases hempty : (s.isEmpty || p.isEmpty) = true
  · rw [if_pos hempty] at h
    exact absurd h (by simp)
  rw [if_neg hempty] at h
  have hclean : s ≠ [] ∧ '\n' ∉ s := ⟨fun hs => hempty (by simp [hs]), hnl⟩
  by_cases hdev : isDeviceSection s = true
  · rw [if_neg (by simp [hdev])] at h
    by_cases hpromote : (!c.persistentDevices.contains s && c.isPersistentProperty p) = true
    · -- promoted: the device is persistent now
      rw [if_pos hpromote, if_pos (ListMap.contains_iff.2 (mem_keys_promote s))] at h
      cases h
      have hp : p ∈ names := by
        have := (Bool.and_eq_true_iff.1 hpromote).2
        rw [isPersistentProperty, decide_eq_true_eq, hinv.persistentPropertyNames] at this
        exact this
      exact inv_promote_setPersistent hinv pp hclean hdev hp v
    · rw [if_neg hpromote] at h
      by_cases hpers : c.persistentDevices.contains s = true
      · rw [if_pos hpers] at h
        cases h
        exact inv_setPersistent hinv pp (ListMap.contains_iff.1 hpers) p v
      · rw [if_neg hpers] at h
        cases h
        exact inv_setTemporary hinv hclean hdev (fun hs => hpers (ListMap.contains_iff.2 hs)) p v
  · rw [if_pos (by simpa using hdev)] at h
    cases h
    exact inv_setInformation hinv hclean (by simpa using hdev) p v

/-! ## `RemoveProperty` -/

/-- A section losing a property: it goes, or stays in place without the property. -/
theorem mem_removeIn {m : ListMap (List Char) Properties} {s : List Char} {props : Properties}
    {p : List Char} {e : List Char × Properties} (he : e ∈ (removeIn m s props p).entries) :
    (e ∈ m.entries ∧ e.1 ≠ s) ∨ (e = (s, props.erase p) ∧ 0 < (props.erase p).size) := by
  unfold removeIn at he
  split_ifs at he with hsize
  · exact .inl (ListMap.mem_erase.1 he)
  · rcases ListMap.mem_modify.1 he with h | ⟨w, -, rfl⟩
    · exact .inl h
    · exact .inr ⟨rfl, Nat.pos_of_ne_zero hsize⟩

/-- A persistent device that stays persistent keeps a persistent property: the one removed is not
persistent, or was not there. -/
theorem persistent_key_of_stays {names : List (List Char)} {props : Properties} {p : List Char}
    (hkey : ∃ q ∈ props.keys, q ∈ names)
    (hstays : ¬((props.erase p).size ≠ 0 && (props.find? p).isSome && decide (p ∈ names)) = true)
    (hpos : 0 < (props.erase p).size) : ∃ q ∈ (props.erase p).keys, q ∈ names := by
  obtain ⟨q, hq, hqn⟩ := hkey
  refine ⟨q, ListMap.mem_keys_erase.2 ⟨hq, ?_⟩, hqn⟩
  rintro rfl
  obtain ⟨w, hw⟩ := ListMap.mem_keys.1 hq
  apply hstays
  simp [Nat.pos_iff_ne_zero.1 hpos, ListMap.find?_eq_some_iff.2 hw, hqn]

theorem inv_removeProperty (hinv : Inv N names c) (s p : List Char) :
    Inv N names (c.removeProperty s p).2 := by
  unfold removeProperty
  split
  · -- an information section
    rename_i props hprops
    have hmem : (s, props) ∈ c.entriesAt .information := ListMap.find?_eq_some_iff.1 hprops
    refine hinv.of_change rfl rfl s (hinv.names_clean _ _ hmem) .information fun l e he => ?_
    cases l with
    | information =>
      rcases mem_removeIn he with h | ⟨rfl, hpos⟩
      · exact .inl h
      · exact .inr ⟨rfl, rfl, (hinv.ok .information _ hmem).1, hpos⟩
    | persistent => exact .inl ⟨he, hinv.name_ne .persistent _ he hmem (by decide)⟩
    | temporary => exact .inl ⟨he, hinv.name_ne .temporary _ he hmem (by decide)⟩
  · split
    · rename_i props hprops
      have hmem : (s, props) ∈ c.entriesAt .persistent := ListMap.find?_eq_some_iff.1 hprops
      obtain ⟨hdev, -, hkey⟩ := hinv.ok .persistent _ hmem
      split_ifs with hmove
      · -- "move unpaired device": to the temporary cache, which had no section of the name
        have hfresh : s ∉ c.temporaryDevices.listMap.keys := fun hs => by
          obtain ⟨w, hw⟩ := ListMap.mem_keys.1 hs
          exact hinv.name_ne .temporary _ hw hmem (by decide) rfl
        have hpos : 0 < (props.erase p).size := by
          have := (Bool.and_eq_true_iff.1 (Bool.and_eq_true_iff.1 hmove).1).1
          simpa [Nat.pos_iff_ne_zero] using this
        refine hinv.of_change (LruCache.capacity_insertOrAssign _ _ _) rfl s
          (hinv.names_clean _ _ hmem) .temporary fun l e he => ?_
        cases l with
        | information =>
          exact .inl ⟨he, hinv.name_ne .information _ he hmem (by decide)⟩
        | persistent => exact .inl (ListMap.mem_erase.1 he)
        | temporary =>
          rcases LruCache.mem_insertOrAssign_of_not_mem hfresh he with rfl | h
          · exact .inr ⟨rfl, rfl, hdev, hpos⟩
          · exact .inl h
      · -- stays persistent, with a persistent property left
        refine hinv.of_change rfl rfl s (hinv.names_clean _ _ hmem) .persistent fun l e he => ?_
        cases l with
        | information =>
          exact .inl ⟨he, hinv.name_ne .information _ he hmem (by decide)⟩
        | persistent =>
          rcases mem_removeIn he with h | ⟨rfl, hpos⟩
          · exact .inl h
          · refine .inr ⟨rfl, rfl, hdev, hpos, persistent_key_of_stays hkey ?_ hpos⟩
            rwa [isPersistentProperty, hinv.persistentPropertyNames] at hmove
        | temporary =>
          exact .inl ⟨he, hinv.name_ne .temporary _ he hmem (by decide)⟩
    · -- a temporary device, or no section: `find` only warms
      split
      · rename_i props hprops
        have hmem : (s, props) ∈ c.entriesAt .temporary := ListMap.find?_eq_some_iff.1 hprops
        have hdev := (hinv.ok .temporary _ hmem).1
        have hcap : (if (props.erase p).size = 0 then
            ((c.temporaryDevices.find s).2.extract s).2
          else (c.temporaryDevices.find s).2.modify s fun _ => props.erase p).capacity =
            c.temporaryDevices.capacity := by
          split <;> rfl
        refine hinv.of_change hcap rfl s (hinv.names_clean _ _ hmem) .temporary fun l e he => ?_
        cases l with
        | information =>
          exact .inl ⟨he, hinv.name_ne .information _ he hmem (by decide)⟩
        | persistent =>
          exact .inl ⟨he, hinv.name_ne .persistent _ he hmem (by decide)⟩
        | temporary =>
          simp only [entriesAt] at he
          split_ifs at he with hsize
          · obtain ⟨he', hes⟩ := LruCache.mem_extract.1 he
            exact .inl ⟨LruCache.mem_find.1 he', hes⟩
          · rcases LruCache.mem_modify.1 he with ⟨he', hes⟩ | ⟨w, -, rfl⟩
            · exact .inl ⟨LruCache.mem_find.1 he', hes⟩
            · exact .inr ⟨rfl, rfl, hdev, Nat.pos_of_ne_zero hsize⟩
      · refine hinv.of_subset rfl rfl fun l e he => ?_
        cases l
        · exact he
        · exact he
        · exact LruCache.mem_find.1 he

/-! ## Whole calls -/

theorem inv_applyEntry (hinv : Inv N names c) {pp : ParameterProvider} {entry : MutationEntry}
    (h : c.applyEntry pp entry = some c') : Inv N names c' := by
  unfold applyEntry at h
  split at h
  · exact inv_setProperty hinv h
  · cases h
    exact inv_removeProperty hinv _ _
  · cases h
    exact inv_removeSection hinv _

/-- `Commit` keeps the invariant, by induction on the queue: one entry a step. -/
theorem inv_commit {pp : ParameterProvider} (entries : List MutationEntry) :
    ∀ {c c' : ConfigCache}, Inv N names c → c.commit pp entries = some c' → Inv N names c' := by
  induction entries with
  | nil =>
    intro c c' hinv h
    cases h
    exact hinv
  | cons entry rest ih =>
    intro c c' hinv h
    obtain ⟨c₁, h₁, h₂⟩ := Option.bind_eq_some_iff.1 h
    exact ih (inv_applyEntry hinv h₁) h₂

theorem inv_call (hinv : Inv N names c) {op : Call} (h : c.call op = some c') :
    Inv N names c' := by
  cases op with
  | setProperty pp s p v => exact inv_setProperty hinv h
  | removeProperty s p =>
    cases h
    exact inv_removeProperty hinv s p
  | removeSection s =>
    cases h
    exact inv_removeSection hinv s
  | removeSectionWithProperty p =>
    cases h
    exact inv_removeSectionWithProperty hinv p
  | clear =>
    cases h
    exact inv_clear hinv
  | commit pp entries => exact inv_commit entries hinv h

/-- `Commit` applies its entries one by one, front first. -/
theorem commit_eq_foldlM (pp : ParameterProvider) (entries : List MutationEntry) :
    ∀ c : ConfigCache, c.commit pp entries = entries.foldlM (applyEntry pp) c := by
  induction entries with
  | nil => intro c; rfl
  | cons entry rest ih =>
    intro c
    rw [commit, List.foldlM_cons]
    exact congrArg _ (funext ih)

end Inv

/-! ## Reachable caches -/

/-- The caches that calls reach from `ConfigCache(N, names)`. -/
inductive Reachable (N : Nat) (hN : 0 < N) (names : List (List Char)) : ConfigCache → Prop
  | create : Reachable N hN names (create N hN names)
  | call {c c' : ConfigCache} (op : Call) :
      Reachable N hN names c → c.call op = some c' → Reachable N hN names c'

/-- A run of calls from a reachable cache reaches its end. By induction on the calls. -/
theorem Reachable.run {N : Nat} {hN : 0 < N} {names : List (List Char)} (calls : List Call) :
    ∀ {c c' : ConfigCache}, Reachable N hN names c → c.run calls = some c' →
      Reachable N hN names c' := by
  induction calls with
  | nil =>
    intro c c' hc h
    cases h
    exact hc
  | cons op rest ih =>
    intro c c' hc h
    obtain ⟨c₁, h₁, h₂⟩ := Option.bind_eq_some_iff.1 h
    exact ih (hc.call op h₁) h₂

/-- Every reachable cache keeps the invariant. -/
theorem inv_of_reachable {N : Nat} {hN : 0 < N} {names : List (List Char)} {c : ConfigCache}
    (h : Reachable N hN names c) : Inv N names c := by
  induction h with
  | create => exact inv_create N hN names
  | call op _ hcall ih => exact inv_call ih hcall

end ConfigCache

/-! ## What the configuration asks of the maps -/

/-- Every reachable cache: each section in one map, information sections not device addresses
and devices in the other two maps, no empty section, at most `N` temporary devices, and every
persistent device holding a persistent property. -/
theorem reachable_sections {N : Nat} {hN : 0 < N} {names : List (List Char)} {c : ConfigCache}
    (h : ConfigCache.Reachable N hN names c) :
    (∀ s, (s ∈ c.informationSections.keys →
        s ∉ c.persistentDevices.keys ∧ s ∉ c.temporaryDevices.listMap.keys) ∧
      (s ∈ c.persistentDevices.keys → s ∉ c.temporaryDevices.listMap.keys)) ∧
    (∀ s ∈ c.informationSections.keys, isDeviceSection s = false) ∧
    (∀ s ∈ c.persistentDevices.keys, isDeviceSection s = true) ∧
    (∀ s ∈ c.temporaryDevices.listMap.keys, isDeviceSection s = true) ∧
    (∀ e ∈ c.informationSections.entries, 0 < e.2.size) ∧
    (∀ e ∈ c.persistentDevices.entries, 0 < e.2.size) ∧
    (∀ e ∈ c.temporaryDevices.listMap.entries, 0 < e.2.size) ∧
    c.temporaryDevices.size ≤ N ∧
    ∀ e ∈ c.persistentDevices.entries, ∃ p ∈ e.2.keys, p ∈ names := by
  have hinv := ConfigCache.inv_of_reachable h
  -- a name in two maps would be one section in two maps
  have hone : ∀ l₁ l₂ s, l₁ ≠ l₂ → s ∈ (c.entriesAt l₁).map Prod.fst →
      s ∉ (c.entriesAt l₂).map Prod.fst := by
    intro l₁ l₂ s hl h₁ h₂
    obtain ⟨e₁, he₁, rfl⟩ := List.mem_map.1 h₁
    obtain ⟨e₂, he₂, heq⟩ := List.mem_map.1 h₂
    exact hinv.name_ne l₁ l₂ he₁ he₂ hl heq.symm
  have hkeys : ∀ l s, s ∈ (c.entriesAt l).map Prod.fst → ∃ e ∈ c.entriesAt l, e.1 = s :=
    fun l s hs => List.mem_map.1 hs
  refine ⟨fun s => ⟨fun hs => ⟨hone .information .persistent s (by decide) hs,
      hone .information .temporary s (by decide) hs⟩,
    fun hs => hone .persistent .temporary s (by decide) hs⟩, ?_, ?_, ?_,
    fun e he => (hinv.ok .information e he).2, fun e he => (hinv.ok .persistent e he).2.1,
    fun e he => (hinv.ok .temporary e he).2, ?_, fun e he => (hinv.ok .persistent e he).2.2⟩
  · intro s hs
    obtain ⟨e, he, rfl⟩ := hkeys .information s hs
    exact (hinv.ok .information e he).1
  · intro s hs
    obtain ⟨e, he, rfl⟩ := hkeys .persistent s hs
    exact (hinv.ok .persistent e he).1
  · intro s hs
    obtain ⟨e, he, rfl⟩ := hkeys .temporary s hs
    exact (hinv.ok .temporary e he).1
  · rw [← hinv.capacity]
    exact c.temporaryDevices.size_le

/-! ## A bonded device moved to the temporary cache -/

/-- The sections of each map, as names and properties. -/
structure Snapshot where
  informationSections : List (List Char × List (List Char × List Char))
  persistentDevices : List (List Char × List (List Char × List Char))
  temporaryDevices : List (List Char × List (List Char × List Char))
deriving DecidableEq

/-- What the cache holds, without the proofs its maps carry. -/
def ConfigCache.snapshot (c : ConfigCache) : Snapshot :=
  ⟨c.informationSections.entries.map fun e => (e.1, e.2.entries),
    c.persistentDevices.entries.map fun e => (e.1, e.2.entries),
    c.temporaryDevices.listMap.entries.map fun e => (e.1, e.2.entries)⟩

/-- A cache of one temporary device and the stack's link key properties: a device bonded over
both transports gets its link key and an LE key, then loses its link key. It is moved to the
temporary cache with its LE key, and the next temporary device evicts it. -/
theorem removeProperty_moves_bonded_device :
    ∃ c, ConfigCache.Reachable 1 Nat.one_pos kLinkKeyProperties c ∧
      c.snapshot = ⟨[], [], [("AA:BB:CC:DD:EE:FF".toList, [("LE_KEY_PENC".toList, "e".toList)])]⟩ ∧
      (c.setProperty ⟨none, false⟩ "11:22:33:44:55:66".toList "Name".toList "x".toList).map
          ConfigCache.snapshot =
        some ⟨[], [], [("11:22:33:44:55:66".toList, [("Name".toList, "x".toList)])]⟩ := by
  have hrun : ((ConfigCache.create 1 Nat.one_pos kLinkKeyProperties).run
      [.setProperty ⟨none, false⟩ "AA:BB:CC:DD:EE:FF".toList "LinkKey".toList "k".toList,
        .setProperty ⟨none, false⟩ "AA:BB:CC:DD:EE:FF".toList "LE_KEY_PENC".toList "e".toList,
        .removeProperty "AA:BB:CC:DD:EE:FF".toList "LinkKey".toList]).map
      (fun c => (c.snapshot, (c.setProperty ⟨none, false⟩ "11:22:33:44:55:66".toList
        "Name".toList "x".toList).map ConfigCache.snapshot)) =
      some (⟨[], [], [("AA:BB:CC:DD:EE:FF".toList, [("LE_KEY_PENC".toList, "e".toList)])]⟩,
        some ⟨[], [], [("11:22:33:44:55:66".toList, [("Name".toList, "x".toList)])]⟩) := by
    decide
  obtain ⟨c, hc, hsnap⟩ := Option.map_eq_some_iff.1 hrun
  exact ⟨c, ConfigCache.Reachable.run _ .create hc, (Prod.mk.inj hsnap).1, (Prod.mk.inj hsnap).2⟩

end BluetoothStack.Config
