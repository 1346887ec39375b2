import BluetoothStack.Config.CacheInv
import BluetoothStack.Config.LegacyFile

/-!
# Reading back the legacy configuration file

`legacyRead_serializeToLegacyFormat`: reading the text that `SerializeToLegacyFormat` writes of a
reachable cache gives back its information sections and persistent devices, in their order, in a
cache with no temporary device. This holds when the reading side has no keystore, and when every
property is one the line format can carry:
  - its name is not empty and holds no `=`;
  - its name neither starts nor ends with a blank, and does not start with `#`, `[` or `'\0'`;
  - its value neither starts nor ends with a blank;
  - neither the name nor the value holds a newline.

The cache does not keep the newline condition by itself. `SetProperty` stops trimming at the
first string that had a newline, so a section name with one leaves the property name and value as
they came (`setProperty_keeps_newlines`). The file then holds a line without `=`, on which `Read`
fails.

The proof follows the text. `getlines_flatMap` recovers the lines, and `readLine_sectionLine`
and `readLine_propertyLine` read one line each. The sections are then replayed one at a time:
  - an information section is one `setInformation` for each of its properties, which together
    put the section at the back (`readSection_information`);
  - a device collects its properties in the temporary cache until its first persistent property
    moves it to the back of the persistent devices (`readSection_device`).
-/

namespace BluetoothStack.Config

open ConfigCache

/-! ## A newline that `SetProperty` keeps -/

theorem setProperty_keeps_newlines :
    ∃ c, Reachable 1 Nat.one_pos kLinkKeyProperties c ∧
      c.snapshot = ⟨[("Global".toList, [("a\nb".toList, "v\nw".toList)])], [], []⟩ ∧
      legacyRead ⟨none, false⟩ 1 Nat.one_pos c.serializeToLegacyFormat = none := by
  have hrun : ((create 1 Nat.one_pos kLinkKeyProperties).run
      [.setProperty ⟨none, false⟩ "Global\nx".toList "a\nb".toList "v\nw".toList]).map
      (fun c => (c.snapshot,
        (legacyRead ⟨none, false⟩ 1 Nat.one_pos c.serializeToLegacyFormat).isSome)) =
      some (⟨[("Global".toList, [("a\nb".toList, "v\nw".toList)])], [], []⟩, false) := by
    decide
  obtain ⟨c, hc, hsnap⟩ := Option.map_eq_some_iff.1 hrun
  refine ⟨c, Reachable.run _ .create hc, (Prod.mk.inj hsnap).1, ?_⟩
  exact Option.not_isSome_iff_eq_none.1 (by simpa using (Prod.mk.inj hsnap).2)

/-! ## Lines -/

/-- A property that the line format writes and reads back as it is. -/
def PropertyFits (q : List Char × List Char) : Prop :=
  q.1 ≠ [] ∧ '=' ∉ q.1 ∧ '\n' ∉ q.1 ∧ '\n' ∉ q.2 ∧
    (∀ x ∈ q.1.head?, isSpace x = false ∧ x ≠ '#' ∧ x ≠ '[' ∧ x ≠ '\x00') ∧
    (∀ x ∈ q.1.getLast?, isSpace x = false) ∧
    (∀ x ∈ q.2.head?, isSpace x = false) ∧ (∀ x ∈ q.2.getLast?, isSpace x = false)

instance : DecidablePred PropertyFits := fun q => by
  unfold PropertyFits
  infer_instance

/-- `getline` reads back lines that each end in a newline and hold no other. -/
theorem splitOn_flatMap_newline (ls : List (List Char)) (h : ∀ l ∈ ls, '\n' ∉ l) :
    (ls.flatMap (· ++ ['\n'])).splitOn '\n' = ls ++ [[]] := by
  induction ls with
  | nil => simp [List.splitOn_nil]
  | cons l ls ih =>
    rw [List.flatMap_cons, List.append_assoc, List.singleton_append,
      List.splitOn_append_cons_self_of_not_mem (h l List.mem_cons_self),
      ih fun l' hl' => h l' (List.mem_cons_of_mem _ hl')]
    rfl

theorem getlines_flatMap (ls : List (List Char)) (h : ∀ l ∈ ls, '\n' ∉ l) :
    getlines (ls.flatMap (· ++ ['\n'])) = ls := by
  simp [getlines, splitOn_flatMap_newline ls h]

theorem dropWhile_isSpace_of_head {l : List Char} (h : ∀ x ∈ l.head?, isSpace x = false) :
    l.dropWhile isSpace = l := by
  cases l with
  | nil => rfl
  | cons x l => exact List.dropWhile_cons_of_neg (by simpa using h)

/-- A string that neither starts nor ends with a blank is trimmed already. -/
theorem stringTrim_of_ends {l : List Char} (hh : ∀ x ∈ l.head?, isSpace x = false)
    (hl : ∀ x ∈ l.getLast?, isSpace x = false) : stringTrim l = l := by
  have hr : ∀ x ∈ l.reverse.head?, isSpace x = false := by rwa [List.head?_reverse]
  rw [stringTrim, dropWhile_isSpace_of_head hh, dropWhile_isSpace_of_head hr,
    List.reverse_reverse]

@[simp] theorem stringTrim_space_cons (l : List Char) : stringTrim (' ' :: l) = stringTrim l := by
  rw [stringTrim, List.dropWhile_cons_of_pos (by decide)]
  rfl

@[simp] theorem stringTrim_append_space (l : List Char) :
    stringTrim (l ++ [' ']) = stringTrim l := by
  unfold stringTrim
  rw [List.dropWhile_append]
  split
  · rename_i hnil
    rw [List.isEmpty_iff.1 hnil]
    rfl
  · rw [List.reverse_append, List.reverse_singleton, List.singleton_append,
      List.dropWhile_cons_of_pos (by decide)]

/-- `StringSplit(line, delim, 2)` of a line whose first `delim` ends its first part. -/
theorem stringSplitTwo_append (delim : Char) {a : List Char} (ha : delim ∉ a) (b : List Char) :
    stringSplitTwo delim (a ++ delim :: b) = [a, b] := by
  have hpos : ∀ x ∈ a, decide (x ≠ delim) = true := by
    intro x hx
    have hxd : x ≠ delim := by
      rintro rfl
      exact ha hx
    simpa using hxd
  rw [stringSplitTwo, if_pos (List.mem_append_right _ List.mem_cons_self),
    List.takeWhile_append_of_pos hpos, List.dropWhile_append_of_pos hpos,
    List.takeWhile_cons_of_neg (by simp), List.dropWhile_cons_of_neg (by simp)]
  simp

/-- `Read` sees a property line, trimmed, as the name, `" ="`, and the value after a blank
unless it is empty. -/
theorem stringTrim_propertyLine {q : List Char × List Char} (hq : PropertyFits q) :
    stringTrim (propertyLine q) = q.1 ++ ' ' :: '=' :: (if q.2 = [] then [] else ' ' :: q.2) := by
  obtain ⟨hne, -, -, -, hhead, -, -, hlast⟩ := hq
  obtain ⟨x, p, hp⟩ := List.exists_cons_of_ne_nil hne
  have hx : isSpace x = false := (hhead x (by simp [hp])).1
  by_cases hv : q.2 = []
  · rw [if_pos hv, propertyLine, hv, List.append_nil,
      show " = ".toList = [' ', '='] ++ [' '] from rfl, ← List.append_assoc,
      stringTrim_append_space]
    exact stringTrim_of_ends (by simp [hp, hx]) (by simp [isSpace])
  · rw [if_neg hv]
    obtain ⟨v, y, hy⟩ := (List.eq_nil_or_concat q.2).resolve_left hv
    rw [List.concat_eq_append] at hy
    have hy' : isSpace y = false := hlast y (by simp [hy])
    rw [show propertyLine q = q.1 ++ ' ' :: '=' :: ' ' :: q.2 by simp [propertyLine]]
    apply stringTrim_of_ends
    · simp [hp, hx]
    · simp [hy, hy', List.getLast?_cons]

theorem stringTrim_value {v : List Char} (hh : ∀ x ∈ v.head?, isSpace x = false)
    (hl : ∀ x ∈ v.getLast?, isSpace x = false) :
    stringTrim (if v = [] then [] else ' ' :: v) = v := by
  split
  · rename_i hv
    rw [hv]
    rfl
  · rw [stringTrim_space_cons, stringTrim_of_ends hh hl]

/-! ## Reading one line -/

/-- A section line makes its name the current section. -/
theorem readLine_sectionLine (pp : ParameterProvider) (st : ConfigCache × List Char)
    (s : List Char) : readLine pp st ('[' :: s ++ [']']) = some (st.1, s) := by
  have hlast : ('[' :: s ++ [']']).getLast? = some ']' := by
    rw [show '[' :: s ++ [']'] = ('[' :: s) ++ [']'] from rfl, List.getLast?_concat]
  have htrim : stringTrim ('[' :: s ++ [']']) = '[' :: s ++ [']'] :=
    stringTrim_of_ends (by simp [isSpace]) (by rw [hlast]; simp [isSpace])
  unfold readLine
  rw [htrim]
  dsimp only
  rw [hlast]
  simp

/-- A property line, under a section, is `SetProperty` of the section, its name and its value. -/
theorem readLine_propertyLine (pp : ParameterProvider) (c : ConfigCache) (s : List Char)
    {q : List Char × List Char} (hq : PropertyFits q) :
    readLine pp (c, s) (propertyLine q) = (c.setProperty pp s q.1 q.2).map fun c => (c, s) := by
  have htrim := stringTrim_propertyLine hq
  obtain ⟨hne, heq, -, -, hhead, hlast, hvh, hvl⟩ := hq
  obtain ⟨x, p, hp⟩ := List.exists_cons_of_ne_nil hne
  obtain ⟨hx, hx₁, hx₂, hx₀⟩ := hhead x (by simp [hp])
  have hsplit : stringSplitTwo '=' (q.1 ++ ' ' :: '=' :: (if q.2 = [] then [] else ' ' :: q.2)) =
      [q.1 ++ [' '], if q.2 = [] then [] else ' ' :: q.2] := by
    rw [← stringSplitTwo_append '=' (by simpa using heq)]
    simp
  have hkey : stringTrim (q.1 ++ [' ']) = q.1 := by
    rw [stringTrim_append_space, stringTrim_of_ends (by simp [hp, hx]) hlast]
  unfold readLine
  rw [htrim]
  simp only [hsplit, hkey, stringTrim_value hvh hvl]
  simp [hp, hx₁, hx₂, hx₀]

/-- A line read to `st'` is followed by the rest of the lines from `st'`. -/
theorem foldlM_readLine_cons {pp : ParameterProvider} {st st' : ConfigCache × List Char}
    {line : List Char} (h : readLine pp st line = some st') (rest : List (List Char)) :
    (line :: rest).foldlM (readLine pp) st = rest.foldlM (readLine pp) st' := by
  rw [List.foldlM_cons, h]
  rfl

theorem foldlM_append_of_eq {pp : ParameterProvider} {st st' : ConfigCache × List Char}
    {lines : List (List Char)} (h : lines.foldlM (readLine pp) st = some st')
    (rest : List (List Char)) :
    (lines ++ rest).foldlM (readLine pp) st = rest.foldlM (readLine pp) st' := by
  rw [List.foldlM_append, h]
  rfl

theorem readLoop_eq_foldlM (pp : ParameterProvider) (lines : List (List Char)) :
    ∀ st, readLoop pp st lines = (lines.foldlM (readLine pp) st).map Prod.fst := by
  induction lines with
  | nil => intro st; rfl
  | cons line lines ih =>
    intro st
    rw [readLoop, List.foldlM_cons]
    cases readLine pp st line with
    | none => rfl
    | some st' => exact ih st'

/-! ## `SetProperty` of what `Read` gives it -/

section Routes

variable (pp : ParameterProvider) (c : ConfigCache) {s : List Char} {q : List Char × List Char}

theorem trimSetPropertyArgs_of_clean {s p v : List Char} (hs : '\n' ∉ s) (hp : '\n' ∉ p)
    (hv : '\n' ∉ v) : trimSetPropertyArgs s p v = (s, p, v) := by
  simp only [trimSetPropertyArgs, trimAfterNewLine, hs, hp, hv, decide_false, if_false,
    Bool.false_eq_true, Prod.mk.injEq, true_and]
  -- the value before its first newline is all of it
  rw [List.takeWhile_eq_self_iff]
  rintro x hx
  have hxn : x ≠ '\n' := by
    rintro rfl
    exact hv hx
  simpa using hxn

/-- The strings of a property line pass `SetProperty`'s trimming and checks unchanged. -/
theorem setProperty_eq_route (hs : s ≠ [] ∧ '\n' ∉ s) (hq : PropertyFits q) :
    c.setProperty pp s q.1 q.2 =
      if !isDeviceSection s then some (c.setInformation s q.1 q.2)
      else
        let c := if !c.persistentDevices.contains s && c.isPersistentProperty q.1 then
          c.promote s else c
        if c.persistentDevices.contains s then some (c.setPersistent pp s q.1 q.2)
        else some (c.setTemporary s q.1 q.2) := by
  obtain ⟨hne, -, hpn, hvn, -⟩ := hq
  have hempty : (s.isEmpty || q.1.isEmpty) = false := by
    simp [hs.1, hne]
  rw [setProperty, trimSetPropertyArgs_of_clean hs.2 hpn hvn]
  dsimp only
  rw [hempty, if_neg Bool.false_ne_true]

theorem setProperty_information (hs : s ≠ [] ∧ '\n' ∉ s) (hq : PropertyFits q)
    (hdev : isDeviceSection s = false) :
    c.setProperty pp s q.1 q.2 = some (c.setInformation s q.1 q.2) := by
  rw [setProperty_eq_route pp c hs hq, hdev]
  rfl

theorem setProperty_temporary (hs : s ≠ [] ∧ '\n' ∉ s) (hq : PropertyFits q)
    (hdev : isDeviceSection s = true) (hP : s ∉ c.persistentDevices.keys)
    (hp : q.1 ∉ c.persistentPropertyNames) :
    c.setProperty pp s q.1 q.2 = some (c.setTemporary s q.1 q.2) := by
  have hcont : c.persistentDevices.contains s = false :=
    Bool.eq_false_iff.2 fun h => hP (ListMap.contains_iff.1 h)
  rw [setProperty_eq_route pp c hs hq, hdev]
  simp [hcont, isPersistentProperty, hp]

theorem setProperty_promote (hs : s ≠ [] ∧ '\n' ∉ s) (hq : PropertyFits q)
    (hdev : isDeviceSection s = true) (hP : s ∉ c.persistentDevices.keys)
    (hp : q.1 ∈ c.persistentPropertyNames) :
    c.setProperty pp s q.1 q.2 = some ((c.promote s).setPersistent pp s q.1 q.2) := by
  have hcont : c.persistentDevices.contains s = false :=
    Bool.eq_false_iff.2 fun h => hP (ListMap.contains_iff.1 h)
  have hcont' : (c.promote s).persistentDevices.contains s = true :=
    ListMap.contains_iff.2 (mem_keys_promote s)
  rw [setProperty_eq_route pp c hs hq, hdev]
  simp [hcont, isPersistentProperty, hp, hcont']

theorem setProperty_persistent (hs : s ≠ [] ∧ '\n' ∉ s) (hq : PropertyFits q)
    (hdev : isDeviceSection s = true) (hP : s ∈ c.persistentDevices.keys) :
    c.setProperty pp s q.1 q.2 = some (c.setPersistent pp s q.1 q.2) := by
  have hcont : c.persistentDevices.contains s = true := ListMap.contains_iff.2 hP
  rw [setProperty_eq_route pp c hs hq, hdev]
  simp [hcont]

end Routes

/-! ## A device in the temporary cache -/

/-- The temporary devices are the device `s` alone, with the properties `m`, or none while `m`
is empty. -/
def HoldsOnly (T : LruCache (List Char) Properties) (s : List Char) (m : Properties) : Prop :=
  T.listMap.entries = [] ∧ m = .empty ∨ T.listMap.entries = [(s, m)]

/-- `SetProperty` on the temporary device keeps it the only one, with one more property. -/
theorem holdsOnly_setTemporary {c : ConfigCache} {s : List Char} {m : Properties}
    (h : HoldsOnly c.temporaryDevices s m) (p v : List Char) :
    HoldsOnly (c.setTemporary s p v).temporaryDevices s (m.insertOrAssignBack p v) := by
  unfold setTemporary
  dsimp only
  rcases h with ⟨hnil, rfl⟩ | hone
  · -- `find` misses, and `try_emplace` puts the section into the empty cache
    have hk : s ∉ c.temporaryDevices.listMap.keys := by simp [ListMap.keys, hnil]
    have hroom : c.temporaryDevices.size < c.temporaryDevices.capacity := by
      simpa [LruCache.size, ListMap.size, hnil] using c.temporaryDevices.capacity_pos
    rw [LruCache.find_of_not_mem hk]
    right
    simp [LruCache.modify, ListMap.modify, LruCache.entries_tryEmplace_of_not_mem hk hroom, hnil]
  · -- `find` hits the only section, which stays first
    rw [LruCache.find_front hone]
    right
    simp [LruCache.modify, ListMap.modify, hone]

/-- Extracting the device gives its properties and leaves no temporary device. -/
theorem extract_of_holdsOnly {T : LruCache (List Char) Properties} {s : List Char}
    {m : Properties} (h : HoldsOnly T s m) :
    (T.extract s).1.getD .empty = m ∧ (T.extract s).2.listMap.entries = [] := by
  rcases h with ⟨hnil, rfl⟩ | hone
  · have hk : s ∉ T.listMap.keys := by simp [ListMap.keys, hnil]
    simp [LruCache.extract, ListMap.find?_eq_none_iff.2 hk, ListMap.erase, hnil]
  · have hfind : T.listMap.find? s = some m := ListMap.find?_eq_some_iff.2 (by simp [hone])
    simp [LruCache.extract, hfind, ListMap.erase, hone]

/-! ## Replaying the properties of a section -/

section Replay

variable (pp : ParameterProvider) {s : List Char} (hs : s ≠ [] ∧ '\n' ∉ s)
include hs

/-- The properties of an information section, each set in place after the section is made
sure to be there. -/
theorem readProperties_information (hdev : isDeviceSection s = false) :
    ∀ (l : List (List Char × List Char)) (c : ConfigCache), (∀ q ∈ l, PropertyFits q) →
      (l.map propertyLine).foldlM (readLine pp) (c, s) =
        some ({ c with
          informationSections := l.foldl
            (fun m q => (m.tryEmplaceBack s .empty).modify s (·.insertOrAssignBack q.1 q.2))
            c.informationSections }, s)
  | [], _, _ => rfl
  | q :: l, c, hl => by
    have hq := hl q List.mem_cons_self
    rw [List.map_cons, List.foldlM_cons, readLine_propertyLine pp c s hq,
      setProperty_information pp c hs hq hdev]
    exact readProperties_information hdev l _ fun q' hq' => hl q' (List.mem_cons_of_mem _ hq')

variable (hpp : pp.btKeystoreInterface = none) (hdev : isDeviceSection s = true)
include hpp hdev

/-- The properties of a device after it is persistent, each appended to its section. -/
theorem readProperties_persistent {c : ConfigCache} (hP : s ∉ c.persistentDevices.keys) :
    ∀ (l : List (List Char × List Char)) (m : Properties), (∀ q ∈ l, PropertyFits q) →
      (l.map propertyLine).foldlM (readLine pp)
          ({ c with persistentDevices := c.persistentDevices.tryEmplaceBack s m }, s) =
        some ({ c with
          persistentDevices := c.persistentDevices.tryEmplaceBack s
            (l.foldl (fun m q => m.insertOrAssignBack q.1 q.2) m) }, s)
  | [], _, _ => rfl
  | q :: l, m, hl => by
    have hq := hl q List.mem_cons_self
    have hmem : s ∈ (c.persistentDevices.tryEmplaceBack s m).keys :=
      ListMap.mem_keys_tryEmplaceBack.2 (.inl rfl)
    -- without a keystore the value is stored as it is
    have hstep : ({ c with persistentDevices := c.persistentDevices.tryEmplaceBack s m } :
        ConfigCache).setPersistent pp s q.1 q.2 =
        { c with
          persistentDevices := c.persistentDevices.tryEmplaceBack s (m.insertOrAssignBack q.1 q.2) }
        := by
      simp only [setPersistent, persistentValue, hpp]
      rw [ListMap.tryEmplaceBack_modify hP]
    rw [List.map_cons, List.foldlM_cons, readLine_propertyLine pp _ s hq,
      setProperty_persistent pp _ hs hq hdev hmem, hstep]
    exact readProperties_persistent hP l _ fun q' hq' => hl q' (List.mem_cons_of_mem _ hq')

/-- The properties of a new device: in the temporary cache until the first persistent one,
which moves the device to the back of the persistent devices. The induction is on the
properties left, with the temporary cache holding those before them. -/
theorem readProperties_device {c : ConfigCache} (hP : s ∉ c.persistentDevices.keys)
    (htemp : c.temporaryDevices.listMap.entries = []) :
    ∀ (l : List (List Char × List Char)) (T : LruCache (List Char) Properties) (m : Properties),
      HoldsOnly T s m → T.capacity = c.temporaryDevices.capacity →
      (∀ k ∈ m.keys, k ∉ c.persistentPropertyNames) → (∀ q ∈ l, PropertyFits q) →
      (∃ q ∈ l, q.1 ∈ c.persistentPropertyNames) →
      (l.map propertyLine).foldlM (readLine pp) ({ c with temporaryDevices := T }, s) =
        some ({ c with
          persistentDevices := c.persistentDevices.tryEmplaceBack s
            (l.foldl (fun m q => m.insertOrAssignBack q.1 q.2) m) }, s)
  | [], _, _, _, _, _, _, hkey => absurd hkey (by simp)
  | q :: l, T, m, hT, hcap, hm, hl, hkey => by
    have hq := hl q List.mem_cons_self
    have hl' : ∀ q' ∈ l, PropertyFits q' := fun q' hq' => hl q' (List.mem_cons_of_mem _ hq')
    rw [List.map_cons, List.foldlM_cons, readLine_propertyLine pp _ s hq]
    by_cases hp : q.1 ∈ c.persistentPropertyNames
    · -- the first persistent property: the device leaves the temporary cache
      obtain ⟨hm', htemp'⟩ := extract_of_holdsOnly hT
      have hT' : (T.extract s).2 = c.temporaryDevices :=
        LruCache.ext (by simpa using hcap) (htemp'.trans htemp.symm)
      have hstep : (({ c with temporaryDevices := T } : ConfigCache).promote s).setPersistent
          pp s q.1 q.2 = { c with
            persistentDevices := c.persistentDevices.tryEmplaceBack s
              (m.insertOrAssignBack q.1 q.2) } := by
        simp only [promote, setPersistent, persistentValue, hpp, hm', hT']
        rw [ListMap.tryEmplaceBack_modify hP]
      rw [setProperty_promote pp { c with temporaryDevices := T } hs hq hdev hP hp, hstep]
      exact readProperties_persistent pp hs hpp hdev hP l _ hl'
    · -- a property before it: the device stays the only temporary one
      rw [setProperty_temporary pp { c with temporaryDevices := T } hs hq hdev hP hp]
      have hkey' : ∃ q' ∈ l, q'.1 ∈ c.persistentPropertyNames := by
        obtain ⟨q', hq', hq'p⟩ := hkey
        rcases List.mem_cons.1 hq' with rfl | hmem
        · exact absurd hq'p hp
        · exact ⟨q', hmem, hq'p⟩
      have hm' : ∀ k ∈ (m.insertOrAssignBack q.1 q.2).keys, k ∉ c.persistentPropertyNames := by
        intro k hk
        rcases ListMap.mem_keys_insertOrAssignBack.1 hk with rfl | hk'
        · exact hp
        · exact hm k hk'
      exact readProperties_device hP htemp l _ _
        (holdsOnly_setTemporary (c := { c with temporaryDevices := T }) hT q.1 q.2)
        ((capacity_setTemporary _ _ _).trans hcap) hm' hl' hkey'

end Replay

/-! ## Replaying the sections -/

section Sections

variable (pp : ParameterProvider)

/-- The step that rebuilds a section's properties appends each one. -/
theorem insertOrAssignBack_appends (m : Properties) (q : List Char × List Char)
    (hq : q.1 ∉ m.keys) : (m.insertOrAssignBack q.1 q.2).entries = m.entries ++ [q] :=
  ListMap.entries_insertOrAssignBack_of_not_mem hq q.2

/-- The step that rebuilds a map of sections appends each one. -/
theorem tryEmplaceBack_appends (m : ListMap (List Char) Properties) (e : List Char × Properties)
    (he : e.1 ∉ m.keys) : (m.tryEmplaceBack e.1 e.2).entries = m.entries ++ [e] :=
  ListMap.entries_tryEmplaceBack_of_not_mem he e.2

/-- An information section of a new name is read back to the back of the information
sections. -/
theorem readSection_information (c : ConfigCache) (sec : List Char) {e : List Char × Properties}
    (hs : e.1 ≠ [] ∧ '\n' ∉ e.1) (hdev : isDeviceSection e.1 = false)
    (hnew : e.1 ∉ c.informationSections.keys) (hne : 0 < e.2.size)
    (hfits : ∀ q ∈ e.2.entries, PropertyFits q) :
    (sectionLines e).foldlM (readLine pp) (c, sec) =
      some ({ c with informationSections := c.informationSections.tryEmplaceBack e.1 e.2 }, e.1) := by
  have hl : e.2.entries ≠ [] := List.ne_nil_of_length_pos hne
  -- the steps of the properties make one step that puts the whole section at the back
  have hinfo : e.2.entries.foldl
      (fun m q => (m.tryEmplaceBack e.1 .empty).modify e.1 (·.insertOrAssignBack q.1 q.2))
      c.informationSections = c.informationSections.tryEmplaceBack e.1 e.2 := by
    rw [ListMap.foldl_tryEmplaceBack_modify _ _ _ _ hl, ListMap.tryEmplaceBack_modify hnew,
      ListMap.foldl_of_back_self _ insertOrAssignBack_appends]
  rw [sectionLines, List.cons_append, foldlM_readLine_cons (readLine_sectionLine pp _ e.1),
    foldlM_append_of_eq (readProperties_information pp hs hdev _ c hfits), hinfo]
  rfl

/-- A device of a new name, read while no device is temporary, is read back to the back of the
persistent devices, when it holds a persistent property. -/
theorem readSection_device (hpp : pp.btKeystoreInterface = none) (c : ConfigCache)
    (sec : List Char) {e : List Char × Properties} (hs : e.1 ≠ [] ∧ '\n' ∉ e.1)
    (hdev : isDeviceSection e.1 = true) (hnew : e.1 ∉ c.persistentDevices.keys)
    (htemp : c.temporaryDevices.listMap.entries = []) (hfits : ∀ q ∈ e.2.entries, PropertyFits q)
    (hkey : ∃ p ∈ e.2.keys, p ∈ c.persistentPropertyNames) :
    (sectionLines e).foldlM (readLine pp) (c, sec) =
      some ({ c with persistentDevices := c.persistentDevices.tryEmplaceBack e.1 e.2 }, e.1) := by
  have hkey' : ∃ q ∈ e.2.entries, q.1 ∈ c.persistentPropertyNames := by
    obtain ⟨p, hp, hpn⟩ := hkey
    obtain ⟨v, hv⟩ := ListMap.mem_keys.1 hp
    exact ⟨(p, v), hv, hpn⟩
  have hprops : (e.2.entries.map propertyLine).foldlM (readLine pp) (c, e.1) =
      some ({ c with
        persistentDevices := c.persistentDevices.tryEmplaceBack e.1
          (e.2.entries.foldl (fun m q => m.insertOrAssignBack q.1 q.2) .empty) }, e.1) :=
    readProperties_device pp hs hpp hdev hnew htemp e.2.entries c.temporaryDevices .empty
      (.inl ⟨htemp, rfl⟩) rfl (by simp [ListMap.keys]) hfits hkey'
  rw [ListMap.foldl_of_back_self _ insertOrAssignBack_appends] at hprops
  rw [sectionLines, List.cons_append, foldlM_readLine_cons (readLine_sectionLine pp _ e.1),
    foldlM_append_of_eq hprops]
  rfl

/-- Information sections of distinct new names are read back, in order, to the back of the
information sections. -/
theorem readSections_information :
    ∀ (es : List (List Char × Properties)) (c : ConfigCache) (sec : List Char),
      (es.map Prod.fst).Nodup → (∀ e ∈ es, e.1 ∉ c.informationSections.keys) →
      (∀ e ∈ es, (e.1 ≠ [] ∧ '\n' ∉ e.1) ∧ isDeviceSection e.1 = false ∧ 0 < e.2.size ∧
        ∀ q ∈ e.2.entries, PropertyFits q) →
      ∃ sec', (es.flatMap sectionLines).foldlM (readLine pp) (c, sec) =
        some ({ c with
          informationSections := es.foldl (fun m e => m.tryEmplaceBack e.1 e.2)
            c.informationSections }, sec')
  | [], _, sec, _, _, _ => ⟨sec, rfl⟩
  | e :: es, c, sec, hnodup, hnew, hok => by
    rw [List.map_cons, List.nodup_cons] at hnodup
    obtain ⟨hs, hdev, hne, hfits⟩ := hok e List.mem_cons_self
    have hnew' : ∀ e' ∈ es, e'.1 ∉ (c.informationSections.tryEmplaceBack e.1 e.2).keys := by
      intro e' he' hmem
      rcases ListMap.mem_keys_tryEmplaceBack.1 hmem with heq | hmem'
      · exact hnodup.1 (List.mem_map.2 ⟨e', he', heq⟩)
      · exact hnew e' (List.mem_cons_of_mem _ he') hmem'
    obtain ⟨sec', hrest⟩ := readSections_information es
      { c with informationSections := c.informationSections.tryEmplaceBack e.1 e.2 } e.1
      hnodup.2 hnew' fun e' he' => hok e' (List.mem_cons_of_mem _ he')
    refine ⟨sec', ?_⟩
    rw [List.flatMap_cons, foldlM_append_of_eq
      (readSection_information pp c sec hs hdev (hnew e List.mem_cons_self) hne hfits)]
    exact hrest

/-- Devices of distinct new names, each holding a persistent property, are read back, in order,
to the back of the persistent devices, while no device is temporary. -/
theorem readSections_device (hpp : pp.btKeystoreInterface = none) :
    ∀ (es : List (List Char × Properties)) (c : ConfigCache) (sec : List Char),
      c.temporaryDevices.listMap.entries = [] →
      (es.map Prod.fst).Nodup → (∀ e ∈ es, e.1 ∉ c.persistentDevices.keys) →
      (∀ e ∈ es, (e.1 ≠ [] ∧ '\n' ∉ e.1) ∧ isDeviceSection e.1 = true ∧
        (∃ p ∈ e.2.keys, p ∈ c.persistentPropertyNames) ∧ ∀ q ∈ e.2.entries, PropertyFits q) →
      ∃ sec', (es.flatMap sectionLines).foldlM (readLine pp) (c, sec) =
        some ({ c with
          persistentDevices := es.foldl (fun m e => m.tryEmplaceBack e.1 e.2)
            c.persistentDevices }, sec')
  | [], _, sec, _, _, _, _ => ⟨sec, rfl⟩
  | e :: es, c, sec, htemp, hnodup, hnew, hok => by
    rw [List.map_cons, List.nodup_cons] at hnodup
    obtain ⟨hs, hdev, hkey, hfits⟩ := hok e List.mem_cons_self
    have hnew' : ∀ e' ∈ es, e'.1 ∉ (c.persistentDevices.tryEmplaceBack e.1 e.2).keys := by
      intro e' he' hmem
      rcases ListMap.mem_keys_tryEmplaceBack.1 hmem with heq | hmem'
      · exact hnodup.1 (List.mem_map.2 ⟨e', he', heq⟩)
      · exact hnew e' (List.mem_cons_of_mem _ he') hmem'
    obtain ⟨sec', hrest⟩ := readSections_device hpp es
      { c with persistentDevices := c.persistentDevices.tryEmplaceBack e.1 e.2 } e.1 htemp
      hnodup.2 hnew' fun e' he' => hok e' (List.mem_cons_of_mem _ he')
    refine ⟨sec', ?_⟩
    rw [List.flatMap_cons, foldlM_append_of_eq
      (readSection_device pp hpp c sec hs hdev (hnew e List.mem_cons_self) htemp hfits hkey)]
    exact hrest

end Sections

/-- No line that `SerializeToLegacyFormat` writes of a section holds a newline, when the name
and the properties hold none. -/
theorem newline_not_mem_sectionLines {e : List Char × Properties} (hs : '\n' ∉ e.1)
    (hfits : ∀ q ∈ e.2.entries, PropertyFits q) : ∀ line ∈ sectionLines e, '\n' ∉ line := by
  intro line hline
  simp only [sectionLines, List.mem_append, List.mem_cons, List.mem_map, List.not_mem_nil,
    or_false] at hline
  rcases hline with (rfl | ⟨q, hq, rfl⟩) | rfl
  · simpa using hs
  · obtain ⟨-, -, hpn, hvn, -⟩ := hfits q hq
    simp [propertyLine, hpn, hvn]
  · simp

/-- **Round trip.** Reading the legacy text of a reachable cache, with no keystore and
properties the line format carries, gives a new cache with the same information sections and
persistent devices and no temporary device. -/
theorem legacyRead_serializeToLegacyFormat {N : Nat} {hN : 0 < N} {c : ConfigCache}
    (h : Reachable N hN kLinkKeyProperties c) (pp : ParameterProvider)
    (hpp : pp.btKeystoreInterface = none) (M : Nat) (hM : 0 < M)
    (hfits : ∀ e ∈ c.informationSections.entries ++ c.persistentDevices.entries,
      ∀ q ∈ e.2.entries, PropertyFits q) :
    legacyRead pp M hM c.serializeToLegacyFormat =
      some { create M hM kLinkKeyProperties with
        informationSections := c.informationSections
        persistentDevices := c.persistentDevices } := by
  have hinv := inv_of_reachable h
  have hlines : ∀ line ∈ (c.informationSections.entries ++ c.persistentDevices.entries).flatMap
      sectionLines, '\n' ∉ line := by
    intro line hline
    obtain ⟨e, he, hline⟩ := List.mem_flatMap.1 hline
    have hclean : '\n' ∉ e.1 := by
      rcases List.mem_append.1 he with he' | he'
      · exact (hinv.names_clean .information e he').2
      · exact (hinv.names_clean .persistent e he').2
    exact newline_not_mem_sectionLines hclean (hfits e he) line hline
  -- the information sections, into the new cache
  obtain ⟨sec₁, h₁⟩ := readSections_information pp c.informationSections.entries
    (create M hM kLinkKeyProperties) kDefaultSectionName c.informationSections.nodup
    (by simp [create, ListMap.keys]) fun e he =>
      ⟨hinv.names_clean .information e he, (hinv.ok .information e he).1,
        (hinv.ok .information e he).2, hfits e (List.mem_append_left _ he)⟩
  have hI : c.informationSections.entries.foldl (fun m e => m.tryEmplaceBack e.1 e.2)
      (create M hM kLinkKeyProperties).informationSections = c.informationSections :=
    ListMap.foldl_of_back_self _ tryEmplaceBack_appends _
  have h₁' : (c.informationSections.entries.flatMap sectionLines).foldlM (readLine pp)
      (create M hM kLinkKeyProperties, kDefaultSectionName) =
      some ({ create M hM kLinkKeyProperties with
        informationSections := c.informationSections }, sec₁) := by
    rw [h₁, hI]
  -- then the persistent devices
  obtain ⟨sec₂, h₂⟩ := readSections_device pp hpp c.persistentDevices.entries
    { create M hM kLinkKeyProperties with informationSections := c.informationSections }
    sec₁ rfl c.persistentDevices.nodup (by simp [create, ListMap.keys]) fun e he =>
      ⟨hinv.names_clean .persistent e he, (hinv.ok .persistent e he).1,
        (hinv.ok .persistent e he).2.2, hfits e (List.mem_append_right _ he)⟩
  have hP : c.persistentDevices.entries.foldl (fun m e => m.tryEmplaceBack e.1 e.2)
      ({ create M hM kLinkKeyProperties with
        informationSections := c.informationSections } : ConfigCache).persistentDevices =
      c.persistentDevices :=
    ListMap.foldl_of_back_self _ tryEmplaceBack_appends _
  rw [legacyRead, serializeToLegacyFormat, getlines_flatMap _ hlines, readLoop_eq_foldlM,
    List.flatMap_append, foldlM_append_of_eq h₁', h₂, hP]
  rfl

end BluetoothStack.Config
