import BluetoothStack.Config.Cache

/-!
# The legacy configuration file

`ConfigCache::SerializeToLegacyFormat` writes the information sections and then the persistent
devices as an INI text: a line `[section]`, a line `property = value` for each property, and a
blank line. `LegacyConfigFile::Read` reads such a text line by line into a new cache of the
stack's link key properties: it trims each line, skips blank lines and comments, takes a line in
brackets as the section of the lines after it, and gives every other line, split at its first
`=` and trimmed on both sides, to `SetProperty`. It fails on an unterminated section name and on
a line without `=`.

The file itself is left out: `read` takes the text `std::getline` reads from it, and returns
`none` where `Read` returns `std::nullopt` (or where `SetProperty` fails an `ASSERT_LOG`).
`front()` of an empty line is taken to be `'\0'`, as libc++ gives it.
-/

namespace BluetoothStack.Config

/-- `ConfigCache::kDefaultSectionName`. -/
def kDefaultSectionName : List Char := "Global".toList

/-! ## Writing -/

/-- The line of a property: `property.first << " = " << property.second`. -/
def propertyLine (p : List Char × List Char) : List Char := p.1 ++ " = ".toList ++ p.2

/-- The lines of a section: its name in brackets, its properties and a blank line. -/
def sectionLines (e : List Char × Properties) : List (List Char) :=
  ('[' :: e.1 ++ [']']) :: e.2.entries.map propertyLine ++ [[]]

/-- `SerializeToLegacyFormat`: the information sections, then the persistent devices, each line
ended by `std::endl`. -/
def ConfigCache.serializeToLegacyFormat (c : ConfigCache) : List Char :=
  ((c.informationSections.entries ++ c.persistentDevices.entries).flatMap sectionLines).flatMap
    fun line => line ++ ['\n']

/-! ## Reading -/

/-- The lines `std::getline` reads: the pieces between newlines, without the empty piece after a
last newline. -/
def getlines (text : List Char) : List (List Char) :=
  let pieces := text.splitOn '\n'
  if pieces.getLast? = some [] then pieces.dropLast else pieces

/-- `common::StringTrim`: the string without the `isspace` characters at either end. -/
def stringTrim (s : List Char) : List Char :=
  ((s.dropWhile isSpace).reverse.dropWhile isSpace).reverse

/-- `common::StringSplit(str, delim, 2)` for a one-character `delim`: the text before the first
`delim` and the text after it, or the whole text when there is none. -/
def stringSplitTwo (delim : Char) (s : List Char) : List (List Char) :=
  if delim ∈ s then [s.takeWhile (· ≠ delim), (s.dropWhile (· ≠ delim)).drop 1] else [s]

/-- One line of `Read`'s loop, from the cache and the current section. -/
def readLine (pp : ParameterProvider) (st : ConfigCache × List Char) (line : List Char) :
    Option (ConfigCache × List Char) :=
  let line := stringTrim line
  match line with
  | [] => some st
  | first :: _ =>
    if first = '\x00' || first = '#' then some st
    else if first = '[' then
      -- "unterminated section name"; otherwise `line.substr(1, line.size() - 2)`
      if line.getLast? ≠ some ']' then none else some (st.1, (line.drop 1).dropLast)
    else
      match stringSplitTwo '=' line with
      | [key, value] =>
        (st.1.setProperty pp st.2 (stringTrim key) (stringTrim value)).map fun c => (c, st.2)
      | _ => none

/-- The loop of `Read` over the lines. -/
def readLoop (pp : ParameterProvider) : ConfigCache × List Char → List (List Char) →
    Option ConfigCache
  | st, [] => some st.1
  | st, line :: rest => (readLine pp st line).bind fun st => readLoop pp st rest

/-- `LegacyConfigFile::Read(temp_devices_capacity)` of the text of the file. -/
def legacyRead (pp : ParameterProvider) (tempDevicesCapacity : Nat) (h : 0 < tempDevicesCapacity)
    (text : List Char) : Option ConfigCache :=
  readLoop pp (ConfigCache.create tempDevicesCapacity h kLinkKeyProperties, kDefaultSectionName)
    (getlines text)

end BluetoothStack.Config
