import Mathlib

/-!
# Numbers in text, as the C library reads and writes them

The `%02x` conversion of `printf`, and in base 16 the `strtol` function (C11 7.22.1.4) and the
`%x` conversion of `sscanf` (C11 7.21.6.2), over strings as lists of characters.

Both readers take what the standard calls the subject sequence of `strtoul`: after white space,
which they skip, an optional sign, an optional `0x` or `0X`, and a nonempty run of hexadecimal
digits. `sscanf` reads at most the field width of it: the longest prefix of the input that is an
initial part of such a sequence, and the conversion fails when that prefix is not a whole one.

A pair of hexadecimal digits is read back as the byte it spells by either reader
(`scanHex_pair`, `strtol16_pair`), and a run of such pairs by a run of `%02hhx` conversions
(`scan_pairs`); `%02x` writes a byte as such a pair (`pairByte_hexPair`).
-/

namespace CScan

/-! ## Characters -/

/-- `isspace` in the `"C"` locale: space, tab, newline, vertical tab, form feed and carriage
return. -/
def isSpace (c : Char) : Bool :=
  c == ' ' || c == '\t' || c == '\n' || c == Char.ofNat 11 || c == Char.ofNat 12 || c == '\r'

/-- The value of a hexadecimal digit, of either case. -/
def hexValue? (c : Char) : Option Nat :=
  if '0' ≤ c ∧ c ≤ '9' then some (c.toNat - '0'.toNat)
  else if 'a' ≤ c ∧ c ≤ 'f' then some (c.toNat - 'a'.toNat + 10)
  else if 'A' ≤ c ∧ c ≤ 'F' then some (c.toNat - 'A'.toNat + 10)
  else none

/-- `isxdigit`. -/
def isHexDigit (c : Char) : Bool := (hexValue? c).isSome

/-- The value of a run of hexadecimal digits, most significant first. -/
def hexValue (ds : List Char) : Nat :=
  ds.foldl (fun acc c => acc * 16 + (hexValue? c).getD 0) 0

/-- The lowercase digit `printf` writes for a value below 16. -/
def hexChar (n : Nat) : Char :=
  if n < 10 then Char.ofNat ('0'.toNat + n) else Char.ofNat ('a'.toNat + n - 10)

/-- The two digits of a byte, the high half first. -/
def hexPair (b : UInt8) : Char × Char := (hexChar (b.toNat / 16), hexChar (b.toNat % 16))

/-- `printf("%02x", b)` for a byte `b`: its two digits. -/
def printHex02 (b : UInt8) : List Char := [(hexPair b).1, (hexPair b).2]

/-- Pairs of characters written one after another. -/
def spell (ps : List (Char × Char)) : List Char := ps.flatMap fun p => [p.1, p.2]

/-- The byte a pair of digits spells. -/
def pairByte (p : Char × Char) : UInt8 := UInt8.ofNat (hexValue [p.1, p.2])

/-- Both characters of a pair are hexadecimal digits. -/
def IsHexPair (p : Char × Char) : Prop := isHexDigit p.1 = true ∧ isHexDigit p.2 = true

/-! ## The subject sequence of `strtol` and `strtoul` in base 16 -/

/-- An optional sign: whether it is `-`, and what follows it. -/
def splitSign (s : List Char) : Bool × List Char :=
  match s with
  | c :: rest => if c = '+' then (false, rest) else if c = '-' then (true, rest) else (false, s)
  | [] => (false, [])

/-- After the sign, the digits of the subject sequence and the final string: an `0x` or `0X` is
part of the subject sequence only where a digit follows it. -/
def splitDigits (s : List Char) : List Char × List Char :=
  match s with
  | z :: x :: d :: rest =>
    if z = '0' ∧ (x = 'x' ∨ x = 'X') ∧ isHexDigit d then
      ((d :: rest).takeWhile isHexDigit, (d :: rest).dropWhile isHexDigit)
    else (s.takeWhile isHexDigit, s.dropWhile isHexDigit)
  | _ => (s.takeWhile isHexDigit, s.dropWhile isHexDigit)

/-- `LONG_MAX` of a 64-bit `long`. -/
def longMax : Int := 2 ^ 63 - 1

/-- `LONG_MIN` of a 64-bit `long`. -/
def longMin : Int := -2 ^ 63

/-- `strtol(s, &end, 16)`: the value and the string from `end` on. Without a subject sequence
the value is 0 and `end` is `s`; a value past the range of `long` is `LONG_MAX` or `LONG_MIN`. -/
def strtol16 (s : List Char) : Int × List Char :=
  let (neg, afterSign) := splitSign (s.dropWhile isSpace)
  let (digits, rest) := splitDigits afterSign
  if digits.isEmpty then (0, s)
  else
    let v : Int := if neg then -(hexValue digits : Int) else hexValue digits
    (max longMin (min longMax v), rest)

/-! ## `sscanf` -/

/-- Whether `s` is an initial part of a subject sequence after its white space: what an input
item of a `%x` conversion may be. -/
def isSubjectPrefix (s : List Char) : Bool :=
  let u := (splitSign s).2
  u.all isHexDigit ||
    match u with
    | z :: x :: ds => z == '0' && (x == 'x' || x == 'X') && ds.all isHexDigit
    | _ => false

/-- Whether `s` is a whole subject sequence after its white space. -/
def isSubject (s : List Char) : Bool :=
  let u := (splitSign s).2
  (!u.isEmpty && u.all isHexDigit) ||
    match u with
    | z :: x :: d :: ds => z == '0' && (x == 'x' || x == 'X') && (d :: ds).all isHexDigit
    | _ => false

/-- The input item of a conversion of width `w`: the longest prefix of at most `w` characters
that is an initial part of a subject sequence. The initial parts of one are initial parts too, so
it is found one character at a time. -/
def inputItem (w : Nat) (s : List Char) : List Char := go w [] s
where
  /-- Extend `item` by the next character while that keeps it an initial part. -/
  go : Nat → List Char → List Char → List Char
  | 0, item, _ => item
  | _ + 1, item, [] => item
  | n + 1, item, c :: cs => if isSubjectPrefix (item ++ [c]) then go n (item ++ [c]) cs else item

/-- The `unsigned char` a `%hhx` conversion stores: the value `strtoul` gives (`ULONG_MAX` past
its range, negated modulo `2 ^ 64` after a minus sign), modulo 256. -/
def hhValue (neg : Bool) (n : Nat) : UInt8 :=
  UInt8.ofNat (if n > 2 ^ 64 - 1 then 2 ^ 64 - 1 else if neg then (2 ^ 64 - n) % 2 ^ 64 else n)

/-- A `%Whhx` conversion on the input `s`: the byte it stores and the number of characters it
reads, white space included; `none` is a matching failure. -/
def scanHex (w : Nat) (s : List Char) : Option (UInt8 × Nat) :=
  let spaces := (s.takeWhile isSpace).length
  let item := inputItem w (s.drop spaces)
  if isSubject item then
    some (hhValue (splitSign item).1 (hexValue (splitDigits (splitSign item).2).1),
      spaces + item.length)
  else none

/-- A directive of a `sscanf` format: a `%Whhx` conversion, an ordinary character, or `%n`. -/
inductive Directive where
  | hex (width : Nat)
  | literal (c : Char)
  | count

/-- `sscanf(s, format, ...)` with `read` characters read so far: the bytes its conversions
store and the counts its `%n` directives store, in order. It stops at the first directive that
fails; the number of conversions it returns is the number of bytes. -/
def scan : List Directive → List Char → Nat → List UInt8 × List Nat
  | [], _, _ => ([], [])
  | .hex w :: fmt, s, read =>
    match scanHex w s with
    | some (b, k) => let r := scan fmt (s.drop k) (read + k); (b :: r.1, r.2)
    | none => ([], [])
  | .literal c :: fmt, s, read =>
    match s with
    | c' :: rest => if c' = c then scan fmt rest (read + 1) else ([], [])
    | [] => ([], [])
  | .count :: fmt, s, read => let r := scan fmt s read; (r.1, read :: r.2)

/-! ## Pairs of digits -/

/-- Every digit `printf` writes has its value. -/
theorem hexValue?_hexChar : ∀ n < 16, hexValue? (hexChar n) = some n := by
  decide

/-- A digit has a value below 16. -/
theorem hexValue?_lt {c : Char} {n : Nat} (h : hexValue? c = some n) : n < 16 := by
  -- the codes of the digits that bound the three ranges
  have hcodes : ('0' : Char).val.toNat = 48 ∧ ('9' : Char).val.toNat = 57 ∧
      ('a' : Char).val.toNat = 97 ∧ ('f' : Char).val.toNat = 102 ∧
      ('A' : Char).val.toNat = 65 ∧ ('F' : Char).val.toNat = 70 :=
    ⟨rfl, rfl, rfl, rfl, rfl, rfl⟩
  unfold hexValue? at h
  simp only [Char.le_def, UInt32.le_iff_toNat_le] at h
  split_ifs at h with h₁ h₂ h₃ <;> cases h <;> simp only [Char.toNat] <;> omega

theorem isHexDigit_iff {c : Char} : isHexDigit c = true ↔ ∃ n, hexValue? c = some n :=
  Option.isSome_iff_exists

/-- No digit is white space. -/
theorem isSpace_of_isHexDigit {c : Char} (h : isHexDigit c = true) : isSpace c = false := by
  rcases Bool.eq_false_or_eq_true (isSpace c) with hs | hs
  · simp only [isSpace, Bool.or_eq_true, beq_iff_eq] at hs
    rcases hs with (((((rfl | rfl) | rfl) | rfl) | rfl) | rfl) <;> exact absurd h (by decide)
  · exact hs

/-- No digit is a sign. -/
theorem splitSign_cons_of_isHexDigit {c : Char} (h : isHexDigit c = true) (s : List Char) :
    splitSign (c :: s) = (false, c :: s) := by
  have hplus : c ≠ '+' := by
    rintro rfl
    exact absurd h (by decide)
  have hminus : c ≠ '-' := by
    rintro rfl
    exact absurd h (by decide)
  simp only [splitSign, hplus, hminus, if_false]

theorem splitSign_of_all {s : List Char} (h : s.all isHexDigit = true) :
    splitSign s = (false, s) := by
  cases s with
  | nil => rfl
  | cons c s =>
    rw [List.all_cons, Bool.and_eq_true] at h
    exact splitSign_cons_of_isHexDigit h.1 s

theorem pair_all {p : Char × Char} (hp : IsHexPair p) : [p.1, p.2].all isHexDigit = true := by
  simp only [List.all_cons, hp.1, hp.2, List.all_nil, Bool.and_self]

/-- The value of a pair of digits is below 256. -/
theorem hexValue_pair_lt {p : Char × Char} (hp : IsHexPair p) : hexValue [p.1, p.2] < 256 := by
  obtain ⟨v₁, h₁⟩ := isHexDigit_iff.1 hp.1
  obtain ⟨v₂, h₂⟩ := isHexDigit_iff.1 hp.2
  have hv₁ := hexValue?_lt h₁
  have hv₂ := hexValue?_lt h₂
  simp only [hexValue, List.foldl_cons, List.foldl_nil, h₁, h₂, Option.getD_some]
  omega

/-- The two digits of a byte spell it. -/
theorem isHexPair_hexPair (b : UInt8) : IsHexPair (hexPair b) := by
  have hb := b.toNat_lt
  constructor
  · exact isHexDigit_iff.2 ⟨_, hexValue?_hexChar (b.toNat / 16) (by omega)⟩
  · exact isHexDigit_iff.2 ⟨_, hexValue?_hexChar (b.toNat % 16) (by omega)⟩

theorem pairByte_hexPair (b : UInt8) : pairByte (hexPair b) = b := by
  have hb := b.toNat_lt
  have hvalue : hexValue [(hexPair b).1, (hexPair b).2] = b.toNat := by
    simp only [hexValue, hexPair, List.foldl_cons, List.foldl_nil,
      hexValue?_hexChar (b.toNat / 16) (by omega), hexValue?_hexChar (b.toNat % 16) (by omega),
      Option.getD_some]
    omega
  rw [pairByte, hvalue, UInt8.ofNat_toNat]

theorem spell_map_hexPair (bs : List UInt8) : spell (bs.map hexPair) = bs.flatMap printHex02 := by
  simp only [spell, List.flatMap_map]
  rfl

/-! ## Reading a pair of digits -/

/-- `%02hhx` reads a pair of digits whole, as the byte it spells. -/
theorem scanHex_pair {p : Char × Char} (hp : IsHexPair p) (rest : List Char) :
    scanHex 2 (p.1 :: p.2 :: rest) = some (pairByte p, 2) := by
  have hall := pair_all hp
  have hitem : inputItem 2 (p.1 :: p.2 :: rest) = [p.1, p.2] := by
    have h₁ : isSubjectPrefix [p.1] = true := by
      simp only [isSubjectPrefix, splitSign_cons_of_isHexDigit hp.1, List.all_cons, hp.1,
        List.all_nil, Bool.and_self, Bool.true_or]
    have h₂ : isSubjectPrefix [p.1, p.2] = true := by
      simp only [isSubjectPrefix, splitSign_of_all hall, hall, Bool.true_or]
    simp only [inputItem, inputItem.go, List.nil_append, h₁, if_true, List.singleton_append, h₂]
  have hsubject : isSubject [p.1, p.2] = true := by
    simp only [isSubject, splitSign_of_all hall, hall, List.isEmpty_cons, Bool.not_false,
      Bool.and_self, Bool.true_or]
  have hdigits : (splitDigits [p.1, p.2]).1 = [p.1, p.2] := by
    simp only [splitDigits, List.takeWhile_cons_of_pos hp.1, List.takeWhile_cons_of_pos hp.2,
      List.takeWhile_nil]
  have hlt := hexValue_pair_lt hp
  have hvalue : hhValue false (hexValue [p.1, p.2]) = pairByte p := by
    have hsmall : ¬ hexValue [p.1, p.2] > 2 ^ 64 - 1 := by omega
    simp only [hhValue, hsmall, if_false, Bool.false_eq_true, pairByte]
  have hspace : ¬ isSpace p.1 = true := by simp only [isSpace_of_isHexDigit hp.1]; decide
  simp only [scanHex, List.takeWhile_cons_of_neg hspace,
    List.length_nil, List.drop_zero, hitem, hsubject, if_true, splitSign_of_all hall, hdigits,
    hvalue, List.length_cons, List.length_nil, Nat.zero_add]

/-- `strtol` reads a pair of digits whole, as the number it spells. -/
theorem strtol16_pair {p : Char × Char} (hp : IsHexPair p) :
    strtol16 [p.1, p.2] = ((hexValue [p.1, p.2] : Int), []) := by
  have hall := pair_all hp
  have hlt := hexValue_pair_lt hp
  have hdigits : splitDigits [p.1, p.2] = ([p.1, p.2], []) := by
    simp only [splitDigits, List.takeWhile_cons_of_pos hp.1, List.takeWhile_cons_of_pos hp.2,
      List.takeWhile_nil, List.dropWhile_cons_of_pos hp.1, List.dropWhile_cons_of_pos hp.2,
      List.dropWhile_nil]
  have hrange : max longMin (min longMax (hexValue [p.1, p.2] : Int)) = hexValue [p.1, p.2] := by
    simp only [longMax, longMin]
    omega
  have hspace : ¬ isSpace p.1 = true := by simp only [isSpace_of_isHexDigit hp.1]; decide
  simp only [strtol16, List.dropWhile_cons_of_neg hspace,
    splitSign_of_all hall, hdigits, List.isEmpty_cons, Bool.false_eq_true, if_false, hrange]

/-- An ordinary character of the format matches itself. -/
theorem scan_literal (c : Char) (fmt : List Directive) (s : List Char) (read : Nat) :
    scan (.literal c :: fmt) (c :: s) read = scan fmt s (read + 1) := by
  simp only [scan, if_true]

/-- `%n` stores the number of characters read so far. -/
theorem scan_count (fmt : List Directive) (s : List Char) (read : Nat) :
    scan (.count :: fmt) s read = ((scan fmt s read).1, read :: (scan fmt s read).2) := rfl

theorem length_spell (ps : List (Char × Char)) : (spell ps).length = 2 * ps.length := by
  induction ps with
  | nil => rfl
  | cons p ps ih =>
    simp only [spell, List.flatMap_cons, List.length_append, List.length_cons, List.length_nil] at *
    omega

/-- A run of `%02hhx` conversions reads a run of pairs of digits as the bytes they spell. By
induction on the pairs; each conversion reads two characters. -/
theorem scan_pairs (ps : List (Char × Char)) (hps : ∀ p ∈ ps, IsHexPair p) (fmt : List Directive)
    (s : List Char) (read : Nat) :
    scan (List.replicate ps.length (.hex 2) ++ fmt) (spell ps ++ s) read =
      (ps.map pairByte ++ (scan fmt s (read + 2 * ps.length)).1,
        (scan fmt s (read + 2 * ps.length)).2) := by
  induction ps generalizing read with
  | nil => simp [spell]
  | cons p ps ih =>
    have hp := hps p List.mem_cons_self
    have hspell : spell (p :: ps) ++ s = p.1 :: p.2 :: (spell ps ++ s) := by
      simp [spell]
    rw [List.length_cons, List.replicate_succ, List.cons_append, hspell, scan, scanHex_pair hp]
    dsimp only
    rw [List.drop_succ_cons, List.drop_succ_cons, List.drop_zero,
      ih (fun q hq => hps q (List.mem_cons_of_mem _ hq)) (read + 2),
      show read + 2 + 2 * ps.length = read + 2 * (ps.length + 1) by omega]
    rfl

/-- A run of `n` `%02hhx` conversions reads the bytes that `n` hex digit pairs spell. -/
theorem scan_pairs_of_length {ps : List (Char × Char)} {n : Nat} (hn : ps.length = n)
    (hps : ∀ p ∈ ps, IsHexPair p) (fmt : List Directive) (s : List Char) (read : Nat) :
    scan (List.replicate n (.hex 2) ++ fmt) (spell ps ++ s) read =
      (ps.map pairByte ++ (scan fmt s (read + 2 * n)).1, (scan fmt s (read + 2 * n)).2) := by
  subst hn
  exact scan_pairs ps hps fmt s read

/-- Every pair printed from a byte is a pair of hex digits. -/
theorem isHexPair_of_mem_map_hexPair {bs : List UInt8} {p : Char × Char}
    (hp : p ∈ bs.map hexPair) : IsHexPair p := by
  obtain ⟨b, -, rfl⟩ := List.mem_map.1 hp
  exact isHexPair_hexPair b

/-- Reading back the hex pairs printed from bytes gives the bytes. -/
theorem map_pairByte_map_hexPair (bs : List UInt8) : (bs.map hexPair).map pairByte = bs := by
  simp only [List.map_map, Function.comp_def, pairByte_hexPair, List.map_id']

/-- A string spelled by hex digit pairs begins with a hex digit. -/
theorem isHexDigit_head_of_spell {g : List (Char × Char)} (hhex : ∀ p ∈ g, IsHexPair p)
    {c : Char} {s : List Char} (h : spell g = c :: s) : isHexDigit c = true := by
  cases g with
  | nil => cases h
  | cons p g =>
    have hc : c = p.1 := (List.cons.inj h).1.symm
    exact hc ▸ (hhex p List.mem_cons_self).1

end CScan
