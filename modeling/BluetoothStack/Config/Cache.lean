import BluetoothStack.Lib.LruCache

/-!
# The configuration cache

gd/storage/config_cache.cc keeps the stack's configuration as sections of properties in three
maps: `information_sections_` for the sections that are not device addresses,
`persistent_devices_` for the devices that were given a property of
`persistent_property_names_` (a link key), and the LRU cache `temporary_devices_` for the other
devices, which evicts the least recently used device when it is full. A map takes a section name
to the section's properties, each an insertion-ordered `ListMap`; strings are lists of characters.

`SetProperty` trims its strings after a newline and routes the section by `IsDeviceSection`;
setting a persistent property moves a temporary device to the persistent ones, and
`RemoveProperty` moves it back when it removes one. `Commit` applies a queue of mutations in
order. A call that fails an `ASSERT_LOG` returns `none`.

The keystore of `os::ParameterProvider` enters through `ParameterProvider`: the answer of its
`set_encrypt_key_or_remove_key`, on which `SetProperty` stores "encrypted" in place of a key. The
callback to the listener of persistent changes, the log lines and the keystore's own effects are
left out.
-/

namespace BluetoothStack.Config

/-- A section's properties: names to values, in insertion order. -/
abbrev Properties := ListMap (List Char) (List Char)

/-- What `os::ParameterProvider` gives the cache. -/
structure ParameterProvider where
  /-- `GetBtKeystoreInterface()`, when set, by the answer of its
  `set_encrypt_key_or_remove_key`. -/
  btKeystoreInterface : Option (List Char → List Char → Bool)
  /-- `IsCommonCriteriaMode()`. -/
  isCommonCriteriaMode : Bool

/-- The state of `ConfigCache`. -/
structure ConfigCache where
  persistentPropertyNames : List (List Char)
  informationSections : ListMap (List Char) Properties
  persistentDevices : ListMap (List Char) Properties
  temporaryDevices : LruCache (List Char) Properties

/-! ## Names -/

/-- `kEncryptKeyNameList`. -/
def kEncryptKeyNameList : List (List Char) :=
  ["LinkKey".toList, "LE_KEY_PENC".toList, "LE_KEY_PID".toList, "LE_KEY_LID".toList,
    "LE_KEY_PCSRK".toList, "LE_KEY_LENC".toList, "LE_KEY_LCSRK".toList]

/-- `Device::kLinkKeyProperties`, the persistent property names of the stack's configuration. -/
def kLinkKeyProperties : List (List Char) :=
  ["LinkKey".toList, "LE_KEY_PENC".toList, "LE_KEY_PID".toList, "LE_KEY_PCSRK".toList,
    "LE_KEY_LENC".toList, "LE_KEY_LCSRK".toList]

/-- `kEncryptedStr`. -/
def kEncryptedStr : List Char := "encrypted".toList

/-- `InEncryptKeyNameList`. -/
def inEncryptKeyNameList (key : List Char) : Bool := key ∈ kEncryptKeyNameList

/-! ## Device addresses -/

/-- The tokens `getline(stream, token, ':')` reads: the pieces between colons, without the empty
piece after a last colon. -/
def getlineTokens (s : List Char) : List (List Char) :=
  let pieces := s.splitOn ':'
  if pieces.getLast? = some [] then pieces.dropLast else pieces

/-- `isxdigit`. -/
def isHexDigit (c : Char) : Bool :=
  c.isDigit || ('a' ≤ c && c ≤ 'f') || ('A' ≤ c && c ≤ 'F')

/-- `isspace`. -/
def isSpace (c : Char) : Bool :=
  c = ' ' || c = '\t' || c = '\n' || c = '\x0b' || c = '\x0c' || c = '\r'

/-- Whether `strtol(token, &temp, 16)` reads a two-character token to its end: two hex digits, or
one after a blank or a sign, which `strtol` skips. -/
def strtolReadsAll : List Char → Bool
  | [a, b] => (isHexDigit a && isHexDigit b) || ((isSpace a || a = '+' || a = '-') && isHexDigit b)
  | _ => false

/-- `Address::IsValidAddress`, that is `Address::FromString` succeeds: 17 characters, six
tokens, each of two characters that `strtol` reads in base 16 to their end. -/
def isValidAddress (address : List Char) : Bool :=
  address.length = 17 && (getlineTokens address).length = 6 &&
    (getlineTokens address).all fun token => token.length = 2 && strtolReadsAll token

/-- `ConfigCache::IsDeviceSection`. -/
def isDeviceSection (sectionName : List Char) : Bool := isValidAddress sectionName

/-! ## Operations -/

/-- `TrimAfterNewLine`: the string before its first newline, and whether it had one. -/
def trimAfterNewLine (value : List Char) : List Char × Bool :=
  (value.takeWhile (· ≠ '\n'), '\n' ∈ value)

/-- The strings `SetProperty` goes on with: `TrimAfterNewLine` of each in turn until one had a
newline, where `||` stops, so that the strings after it keep theirs. -/
def trimSetPropertyArgs (sectionName property value : List Char) :
    List Char × List Char × List Char :=
  if (trimAfterNewLine sectionName).2 then ((trimAfterNewLine sectionName).1, property, value)
  else if (trimAfterNewLine property).2 then
    (sectionName, (trimAfterNewLine property).1, value)
  else (sectionName, property, (trimAfterNewLine value).1)

namespace ConfigCache

/-- `ConfigCache(temp_device_capacity, persistent_property_names)`; the LRU cache asserts a
positive capacity. -/
def create (tempDeviceCapacity : Nat) (h : 0 < tempDeviceCapacity)
    (persistentPropertyNames : List (List Char)) : ConfigCache :=
  ⟨persistentPropertyNames, .empty, .empty, .create tempDeviceCapacity h⟩

/-- `IsPersistentProperty`. -/
def isPersistentProperty (c : ConfigCache) (property : List Char) : Bool :=
  property ∈ c.persistentPropertyNames

/-- The value `SetProperty` stores for a persistent device: "encrypted" once the keystore took a
non-empty key in common criteria mode. -/
def persistentValue (pp : ParameterProvider) (sectionName property value : List Char) :
    List Char :=
  match pp.btKeystoreInterface with
  | some setEncryptKeyOrRemoveKey =>
    if !value.isEmpty && pp.isCommonCriteriaMode && inEncryptKeyNameList property &&
        value != kEncryptedStr &&
        setEncryptKeyOrRemoveKey (sectionName ++ "-".toList ++ property) value then kEncryptedStr
    else value
  | none => value

/-- `SetProperty` on an information section: found or added at the end, then the property set
in place. -/
def setInformation (c : ConfigCache) (sectionName property value : List Char) : ConfigCache :=
  { c with
    informationSections := (c.informationSections.tryEmplaceBack sectionName .empty).modify
      sectionName (·.insertOrAssignBack property value) }

/-- "move paired devices or create new paired device when a link key is set": the temporary
section, or an empty one, goes at the end of the persistent devices. -/
def promote (c : ConfigCache) (sectionName : List Char) : ConfigCache :=
  { c with
    persistentDevices := c.persistentDevices.tryEmplaceBack sectionName
      (((c.temporaryDevices.extract sectionName).1).getD .empty)
    temporaryDevices := (c.temporaryDevices.extract sectionName).2 }

/-- `SetProperty` on a persistent device. -/
def setPersistent (pp : ParameterProvider) (c : ConfigCache)
    (sectionName property value : List Char) : ConfigCache :=
  { c with
    persistentDevices := c.persistentDevices.modify sectionName
      (·.insertOrAssignBack property (persistentValue pp sectionName property value)) }

/-- `SetProperty` on a temporary device: `find` warms the section, or `try_emplace` puts a new one
first (evicting the coldest from a full cache), then the property is set in place. -/
def setTemporary (c : ConfigCache) (sectionName property value : List Char) : ConfigCache :=
  let warm := (c.temporaryDevices.find sectionName).2
  let temp := if (c.temporaryDevices.find sectionName).1.isSome then warm
    else warm.tryEmplace sectionName .empty
  { c with temporaryDevices := temp.modify sectionName (·.insertOrAssignBack property value) }

/-- `SetProperty`: `none` where an empty section or property name fails `ASSERT_LOG`. -/
def setProperty (pp : ParameterProvider) (c : ConfigCache)
    (sectionName property value : List Char) : Option ConfigCache :=
  let args := trimSetPropertyArgs sectionName property value
  let sectionName := args.1
  let property := args.2.1
  let value := args.2.2
  if sectionName.isEmpty || property.isEmpty then none
  else if !isDeviceSection sectionName then some (c.setInformation sectionName property value)
  else
    let c := if !c.persistentDevices.contains sectionName && c.isPersistentProperty property then
      c.promote sectionName else c
    if c.persistentDevices.contains sectionName then
      some (c.setPersistent pp sectionName property value)
    else some (c.setTemporary sectionName property value)

/-- `RemoveSection`: from the first map that has the section; whether one had it. -/
def removeSection (c : ConfigCache) (sectionName : List Char) : Bool × ConfigCache :=
  if c.informationSections.contains sectionName then
    (true, { c with informationSections := c.informationSections.erase sectionName })
  else if c.persistentDevices.contains sectionName then
    (true, { c with persistentDevices := c.persistentDevices.erase sectionName })
  else
    ((c.temporaryDevices.extract sectionName).1.isSome,
      { c with temporaryDevices := (c.temporaryDevices.extract sectionName).2 })

/-- `RemoveProperty` in a section of a map: the section loses the property in place, and goes when
it has no property left. -/
def removeIn (m : ListMap (List Char) Properties) (sectionName : List Char) (props : Properties)
    (property : List Char) : ListMap (List Char) Properties :=
  if (props.erase property).size = 0 then m.erase sectionName
  else m.modify sectionName fun _ => props.erase property

/-- `RemoveProperty`: whether the property was there. A persistent device that loses a persistent
property, and keeps others, moves to the temporary devices ("move unpaired device"). -/
def removeProperty (c : ConfigCache) (sectionName property : List Char) : Bool × ConfigCache :=
  match c.informationSections.find? sectionName with
  | some props =>
    ((props.find? property).isSome,
      { c with informationSections := removeIn c.informationSections sectionName props property })
  | none =>
    match c.persistentDevices.find? sectionName with
    | some props =>
      if (props.erase property).size ≠ 0 && (props.find? property).isSome &&
          c.isPersistentProperty property then
        (true, { c with
          persistentDevices := c.persistentDevices.erase sectionName
          temporaryDevices := c.temporaryDevices.insertOrAssign sectionName
            (props.erase property) })
      else ((props.find? property).isSome,
        { c with persistentDevices := removeIn c.persistentDevices sectionName props property })
    | none =>
      -- `find` warms the section
      let warm := (c.temporaryDevices.find sectionName).2
      match (c.temporaryDevices.find sectionName).1 with
      | some props =>
        ((props.find? property).isSome, { c with
          temporaryDevices := if (props.erase property).size = 0 then (warm.extract sectionName).2
            else warm.modify sectionName fun _ => props.erase property })
      | none => (false, { c with temporaryDevices := warm })

/-- Whether a section keeps out of `RemoveSectionWithProperty`. -/
def keepsWithout (property : List Char) (e : List Char × Properties) : Bool :=
  !e.2.contains property

/-- `RemoveSectionWithProperty`: every section that has the property goes. -/
def removeSectionWithProperty (c : ConfigCache) (property : List Char) : ConfigCache :=
  { c with
    informationSections := c.informationSections.filter (keepsWithout property)
    persistentDevices := c.persistentDevices.filter (keepsWithout property)
    temporaryDevices := c.temporaryDevices.filter (keepsWithout property) }

/-- `Clear`. -/
def clear (c : ConfigCache) : ConfigCache :=
  { c with
    informationSections := .empty
    persistentDevices := .empty
    temporaryDevices := c.temporaryDevices.clear }

end ConfigCache

/-! ## Mutations -/

/-- `MutationEntry::EntryType`. -/
inductive EntryType where
  | set
  | removeProperty
  | removeSection
deriving DecidableEq, Repr

/-- `MutationEntry`. -/
structure MutationEntry where
  entryType : EntryType
  sectionName : List Char
  property : List Char
  value : List Char
deriving DecidableEq, Repr

namespace ConfigCache

/-- One entry of `Commit`'s loop. -/
def applyEntry (pp : ParameterProvider) (c : ConfigCache) (entry : MutationEntry) :
    Option ConfigCache :=
  match entry.entryType with
  | .set => c.setProperty pp entry.sectionName entry.property entry.value
  | .removeProperty => some (c.removeProperty entry.sectionName entry.property).2
  | .removeSection => some (c.removeSection entry.sectionName).2

/-- `Commit`: the entries of the queue, front first. -/
def commit (pp : ParameterProvider) (c : ConfigCache) : List MutationEntry → Option ConfigCache
  | [] => some c
  | entry :: rest => (c.applyEntry pp entry).bind fun c => c.commit pp rest

end ConfigCache

/-! ## The interface -/

/-- A call of the cache's mutators. -/
inductive Call where
  | setProperty (pp : ParameterProvider) (sectionName property value : List Char)
  | removeProperty (sectionName property : List Char)
  | removeSection (sectionName : List Char)
  | removeSectionWithProperty (property : List Char)
  | clear
  | commit (pp : ParameterProvider) (entries : List MutationEntry)

namespace ConfigCache

/-- The cache after a call; `none` where the call fails an `ASSERT_LOG`. -/
def call (c : ConfigCache) : Call → Option ConfigCache
  | .setProperty pp sectionName property value => c.setProperty pp sectionName property value
  | .removeProperty sectionName property => some (c.removeProperty sectionName property).2
  | .removeSection sectionName => some (c.removeSection sectionName).2
  | .removeSectionWithProperty property => some (c.removeSectionWithProperty property)
  | .clear => some c.clear
  | .commit pp entries => c.commit pp entries

/-- The calls in order. -/
def run (c : ConfigCache) : List Call → Option ConfigCache
  | [] => some c
  | op :: rest => (c.call op).bind fun c => c.run rest

end ConfigCache

end BluetoothStack.Config
