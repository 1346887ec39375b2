import Mathlib

/-!
# The AT command parser of the audio gateway

`bta_ag_at_parse` (bta/ag/bta_ag_at.cc) collects the bytes the hands-free device sends over
RFCOMM into `p_cmd_buf` and hands each line that starts with `AT` to `bta_ag_process_at`, which
looks the command up in the table of the profile with `utl_strucmp` (bta/sys/utl.cc), classifies
its argument and calls `p_cmd_cback` or `p_err_cback`. The parser keeps `cmd_pos` between calls,
so the bytes of a line may come in any number of chunks.

The buffer is modelled with the writes checked against its `cmd_max_len` bytes (`storeByte`), the
callbacks as the list of events they receive, and the loops of `bta_ag_at_parse` as they are
written: the inner loop runs while the buffer has room, the outer one clears `cmd_pos` when bytes
are left (`atParseOuter`, with as much fuel as a run needs when `cmd_max_len ≥ 2`; below that the
C loop never ends). `atParseOuter_eq_atRun` shows that a call is the fold of one step per byte
(`atByteStep`), which gives the independence from the chunking (`runChunks_eq`), and `atRun_line`
what one line does.
-/

namespace BluetoothStack.Ag

/-! ## `utl_strucmp` and `utl_str2int` -/

/-- The C string a buffer holds: its bytes up to the first NUL. -/
def cstr (l : List UInt8) : List UInt8 := l.takeWhile (· ≠ 0)

/-- The uppercase of a byte as `utl_strucmp` takes it: `c -= 0x20` for `'a'` to `'z'`. -/
def toUpper (c : UInt8) : UInt8 := if 0x61 ≤ c ∧ c ≤ 0x7A then c - 0x20 else c

/-- `utl_strucmp(p_s, p_t)` on the C strings `s` and `t`: `0` when `s` ends first or with `t`. -/
def utlStrucmp : List UInt8 → List UInt8 → Int
  | c :: s, d :: t => if c ≠ toUpper d then -1 else utlStrucmp s t
  | [], _ => 0
  | _ :: _, [] => 1

/-- The digit loop of `utl_str2int` from the value `val` read so far. -/
def str2intLoop (val : Nat) : List UInt8 → Int
  | [] => -1
  | c :: rest =>
    if c < 0x30 ∨ c > 0x39 then -1
    else
      let val := val + (c.toNat - 0x30)
      if val > 32767 then -1
      else match rest with
        | [] => val
        | _ :: _ => str2intLoop (val * 10) rest

/-- `utl_str2int(p_s)` on the C string `s`: leading spaces skipped, then decimal digits up to
32767; `-1` for anything else. -/
def utlStr2int (s : List UInt8) : Int :=
  match s.dropWhile (· = 0x20) with
  | [] => -1
  | s => str2intLoop 0 s

/-! ## `bta_ag_process_at` -/

/-- `BTA_AG_AT_NONE`. -/
def btaAgAtNone : UInt8 := 0x01
/-- `BTA_AG_AT_SET`. -/
def btaAgAtSet : UInt8 := 0x02
/-- `BTA_AG_AT_READ`. -/
def btaAgAtRead : UInt8 := 0x04
/-- `BTA_AG_AT_TEST`. -/
def btaAgAtTest : UInt8 := 0x08
/-- `BTA_AG_AT_FREE`. -/
def btaAgAtFree : UInt8 := 0x10
/-- `BTA_AG_AT_STR`. -/
def btaAgAtStr : UInt8 := 0
/-- `BTA_AG_AT_INT`. -/
def btaAgAtInt : UInt8 := 1

/-- `tBTA_AG_AT_CMD`, an entry of a command table before its end marker, whose name is empty. -/
structure AtCmd where
  pCmd : List UInt8
  commandId : Nat
  argType : UInt8
  fmt : UInt8
  min : UInt8
  max : Int
  pCmd_ne_nil : pCmd ≠ []

/-- What the parser hands to the profile: a call of `p_cmd_cback` with the command, the argument
type, the bytes from `p_arg` to `p_end` and the integer argument, or a call of `p_err_cback` with
`unknown` and the C string it passes (`none` for `nullptr`). -/
inductive AtEvent where
  | cmd (commandId : Nat) (argType : UInt8) (arg : List UInt8) (intArg : Int)
  | err (unknown : Bool) (arg : Option (List UInt8))
deriving DecidableEq, Repr

/-- The table loop of `bta_ag_process_at`: the first entry `utl_strucmp` matches. -/
def findAtCmd (cmd : List UInt8) (tbl : List AtCmd) : Option AtCmd :=
  tbl.find? fun e => utlStrucmp e.pCmd cmd = 0

/-- The argument type `bta_ag_process_at` reads from the bytes `arg` from `p_arg` to `p_end`, and
where the argument starts (`p_arg` moves past the `=` of a set). The byte at `p_end` is the NUL the
parser wrote; the tests read no further. -/
def atArgType (arg : List UInt8) : UInt8 × List UInt8 :=
  let a (i : Nat) := arg.getD i 0
  if a 0 = 0 then (btaAgAtNone, arg)
  else if a 0 = 0x3F ∧ a 1 = 0 then (btaAgAtRead, arg)
  else if a 0 = 0x3D ∧ a 1 ≠ 0 then
    if a 1 = 0x3F ∧ a 2 = 0 then (btaAgAtTest, arg) else (btaAgAtSet, arg.drop 1)
  else (btaAgAtFree, arg)

/-- `bta_ag_process_at(p_cb, p_end)` on the bytes `cmd` from `p_cmd_buf + 2` to `p_end`. -/
def btaAgProcessAt (tbl : List AtCmd) (cmd : List UInt8) : AtEvent :=
  match findAtCmd (cstr cmd) tbl with
  | none => .err true (some (cstr cmd))
  | some e =>
    -- `p_arg > p_end`
    if cmd.length < e.pCmd.length then .err false none
    else
      let (argType, pArg) := atArgType (cmd.drop e.pCmd.length)
      if argType &&& e.argType ≠ 0 then
        if argType = btaAgAtSet ∧ e.fmt = btaAgAtInt then
          let intArg := utlStr2int (cstr pArg)
          if intArg < e.min.toNat ∨ intArg > e.max then .err false none
          else .cmd e.commandId argType pArg intArg
        else .cmd e.commandId argType pArg 0
      else .err false none

/-! ## `bta_ag_at_parse` -/

/-- A write of `p_cmd_buf[i]`, `none` outside the buffer. -/
def storeByte (buf : List UInt8) (i : Nat) (b : UInt8) : Option (List UInt8) :=
  if i < buf.length then some (buf.set i b) else none

/-- One pass of the inner loop of `bta_ag_at_parse` on the byte `b`, with `cmd_pos = pos`: the
buffer and `cmd_pos` it leaves and the callbacks it makes. -/
def atParseByte (tbl : List AtCmd) (buf : List UInt8) (pos : Nat) (b : UInt8) :
    Option (List UInt8 × Nat × List AtEvent) :=
  -- NUL bytes between commands are skipped
  if pos = 0 ∧ b = 0 then some (buf, pos, [])
  else do
    let buf ← storeByte buf pos b
    if b = 0x0D ∨ b = 0x0A then
      let buf ← storeByte buf pos 0
      if 2 < pos ∧ (buf.getD 0 0 = 0x41 ∨ buf.getD 0 0 = 0x61) ∧
          (buf.getD 1 0 = 0x54 ∨ buf.getD 1 0 = 0x74) then
        pure (buf, 0, [btaAgProcessAt tbl ((buf.take pos).drop 2)])
      else pure (buf, 0, [])
    else if b = 0x1A ∨ b = 0x1B then
      let buf ← storeByte buf (pos + 1) 0
      pure (buf, 0, [.err true (some (cstr buf))])
    else pure (buf, pos + 1, [])

/-- The inner loop: bytes while `cmd_pos < cmd_max_len - 1`; the buffer, `cmd_pos`, the bytes
left and the callbacks. -/
def atParseInner (tbl : List AtCmd) (cmdMaxLen : Nat) (buf : List UInt8) (pos : Nat) :
    List UInt8 → Option (List UInt8 × Nat × List UInt8 × List AtEvent)
  | [] => some (buf, pos, [], [])
  | b :: bs =>
    if pos + 1 < cmdMaxLen then do
      let (buf, pos, ev) ← atParseByte tbl buf pos b
      let (buf, pos, rest, evs) ← atParseInner tbl cmdMaxLen buf pos bs
      pure (buf, pos, rest, ev ++ evs)
    else some (buf, pos, b :: bs, [])

/-- The outer loop: the inner loop, then `cmd_pos = 0` when bytes are left. Each round but the
first takes a byte when `cmd_max_len ≥ 2`; `none` where the fuel runs out, as the C loop never
ends when it takes none. -/
def atParseOuter (tbl : List AtCmd) (cmdMaxLen : Nat) :
    Nat → List UInt8 → Nat → List UInt8 → Option (List UInt8 × Nat × List AtEvent)
  | 0, buf, pos, input => do
    let (buf, pos, rest, evs) ← atParseInner tbl cmdMaxLen buf pos input
    if rest = [] then pure (buf, pos, evs) else none
  | fuel + 1, buf, pos, input => do
    let (buf, pos, rest, evs) ← atParseInner tbl cmdMaxLen buf pos input
    if rest = [] then pure (buf, pos, evs)
    else do
      let (buf, pos, evs') ← atParseOuter tbl cmdMaxLen fuel buf 0 rest
      pure (buf, pos, evs ++ evs')

/-- `tBTA_AG_AT_CB` as the parser uses it: `p_cmd_buf`, `nullptr` until the first call, and
`cmd_pos`. -/
structure AtCb where
  pCmdBuf : Option (List UInt8)
  cmdPos : Nat
deriving DecidableEq, Repr

/-- `bta_ag_at_parse(p_cb, p_buf, len)` on the `len` bytes `pBuf`: the first call allocates the
`cmd_max_len` bytes of the buffer (their contents are never read before they are written, and are
zero here). -/
def btaAgAtParse (tbl : List AtCmd) (cmdMaxLen : Nat) (cb : AtCb) (pBuf : List UInt8) :
    Option (AtCb × List AtEvent) :=
  let (buf, pos) := match cb.pCmdBuf with
    | none => (List.replicate cmdMaxLen 0, 0)
    | some buf => (buf, cb.cmdPos)
  (atParseOuter tbl cmdMaxLen (pBuf.length + 1) buf pos pBuf).map
    fun (buf, pos, evs) => (⟨some buf, pos⟩, evs)

/-- The stream split into chunks, one call of `bta_ag_at_parse` each. -/
def runChunks (tbl : List AtCmd) (cmdMaxLen : Nat) (cb : AtCb) :
    List (List UInt8) → Option (AtCb × List AtEvent)
  | [] => some (cb, [])
  | c :: cs => do
    let (cb, ev) ← btaAgAtParse tbl cmdMaxLen cb c
    let (cb, evs) ← runChunks tbl cmdMaxLen cb cs
    pure (cb, ev ++ evs)

/-! ## The parser byte by byte -/

/-- What the parser does with one byte: `cmd_pos` cleared when the buffer is full, then one pass
of the inner loop. -/
def atByteStep (tbl : List AtCmd) (cmdMaxLen : Nat) (buf : List UInt8) (pos : Nat) (b : UInt8) :
    Option (List UInt8 × Nat × List AtEvent) :=
  atParseByte tbl buf (if pos + 1 < cmdMaxLen then pos else 0) b

/-- The parser over a stream, one step per byte. -/
def atRun (tbl : List AtCmd) (cmdMaxLen : Nat) (buf : List UInt8) (pos : Nat) :
    List UInt8 → Option (List UInt8 × Nat × List AtEvent)
  | [] => some (buf, pos, [])
  | b :: bs => do
    let (buf, pos, ev) ← atByteStep tbl cmdMaxLen buf pos b
    let (buf, pos, evs) ← atRun tbl cmdMaxLen buf pos bs
    pure (buf, pos, ev ++ evs)

/-! ## The tables of the profiles (bta/ag/bta_ag_cmd.cc) -/

/-- The bytes of a string literal of the source. -/
def asciiBytes (s : String) : List UInt8 := s.toList.map fun c => c.toNat.toUInt8

/-- `bta_ag_hsp_cmd`, the commands of the headset profile. -/
def btaAgHspCmd : List AtCmd :=
  [⟨asciiBytes "+CKPD", 9, btaAgAtSet, btaAgAtInt, 200, 200,
     List.cons_ne_nil _ _⟩, -- BTA_AG_AT_CKPD_EVT
   ⟨asciiBytes "+VGS", 7, btaAgAtSet, btaAgAtInt, 0, 15, List.cons_ne_nil _ _⟩, -- BTA_AG_SPK_EVT
   ⟨asciiBytes "+VGM", 8, btaAgAtSet, btaAgAtInt, 0, 15, List.cons_ne_nil _ _⟩] -- BTA_AG_MIC_EVT

/-- `bta_ag_hfp_cmd`, the commands of the hands-free profile; the local events count from
`BTA_AG_LOCAL_EVT_FIRST = 0x100`, and `BTA_AG_CMD_MAX_VAL` is 32767. -/
def btaAgHfpCmd : List AtCmd :=
  [⟨asciiBytes "A", 10, btaAgAtNone, btaAgAtStr, 0, 0, List.cons_ne_nil _ _⟩, -- BTA_AG_AT_A_EVT
   ⟨asciiBytes "D", 11, btaAgAtNone ||| btaAgAtFree, btaAgAtStr, 0, 0,
     List.cons_ne_nil _ _⟩, -- BTA_AG_AT_D_EVT
   ⟨asciiBytes "+VGS", 7, btaAgAtSet, btaAgAtInt, 0, 15, List.cons_ne_nil _ _⟩, -- BTA_AG_SPK_EVT
   ⟨asciiBytes "+VGM", 8, btaAgAtSet, btaAgAtInt, 0, 15, List.cons_ne_nil _ _⟩, -- BTA_AG_MIC_EVT
   ⟨asciiBytes "+CCWA", 0x101, btaAgAtSet, btaAgAtInt, 0, 1,
     List.cons_ne_nil _ _⟩, -- BTA_AG_LOCAL_EVT_CCWA
   ⟨asciiBytes "+CHLD", 12, btaAgAtSet ||| btaAgAtTest, btaAgAtStr, 0, 4,
     List.cons_ne_nil _ _⟩, -- BTA_AG_AT_CHLD_EVT
   ⟨asciiBytes "+CHUP", 13, btaAgAtNone, btaAgAtStr, 0, 0,
     List.cons_ne_nil _ _⟩, -- BTA_AG_AT_CHUP_EVT
   ⟨asciiBytes "+CIND", 14, btaAgAtRead ||| btaAgAtTest, btaAgAtStr, 0, 0,
     List.cons_ne_nil _ _⟩, -- BTA_AG_AT_CIND_EVT
   ⟨asciiBytes "+CLIP", 0x102, btaAgAtSet, btaAgAtInt, 0, 1,
     List.cons_ne_nil _ _⟩, -- BTA_AG_LOCAL_EVT_CLIP
   ⟨asciiBytes "+CMER", 0x103, btaAgAtSet, btaAgAtStr, 0, 0,
     List.cons_ne_nil _ _⟩, -- BTA_AG_LOCAL_EVT_CMER
   ⟨asciiBytes "+VTS", 15, btaAgAtSet, btaAgAtStr, 0, 0, List.cons_ne_nil _ _⟩, -- BTA_AG_AT_VTS_EVT
   ⟨asciiBytes "+BINP", 16, btaAgAtSet, btaAgAtInt, 1, 1,
     List.cons_ne_nil _ _⟩, -- BTA_AG_AT_BINP_EVT
   ⟨asciiBytes "+BLDN", 17, btaAgAtNone, btaAgAtStr, 0, 0,
     List.cons_ne_nil _ _⟩, -- BTA_AG_AT_BLDN_EVT
   ⟨asciiBytes "+BVRA", 18, btaAgAtSet, btaAgAtInt, 0, 1,
     List.cons_ne_nil _ _⟩, -- BTA_AG_AT_BVRA_EVT
   ⟨asciiBytes "+BRSF", 0x104, btaAgAtSet, btaAgAtInt, 0, 32767,
     List.cons_ne_nil _ _⟩, -- BTA_AG_LOCAL_EVT_BRSF
   ⟨asciiBytes "+NREC", 19, btaAgAtSet, btaAgAtInt, 0, 0,
     List.cons_ne_nil _ _⟩, -- BTA_AG_AT_NREC_EVT
   ⟨asciiBytes "+CNUM", 20, btaAgAtNone, btaAgAtStr, 0, 0,
     List.cons_ne_nil _ _⟩, -- BTA_AG_AT_CNUM_EVT
   ⟨asciiBytes "+BTRH", 21, btaAgAtRead ||| btaAgAtSet, btaAgAtInt, 0, 2,
     List.cons_ne_nil _ _⟩, -- BTA_AG_AT_BTRH_EVT
   ⟨asciiBytes "+CLCC", 22, btaAgAtNone, btaAgAtStr, 0, 0,
     List.cons_ne_nil _ _⟩, -- BTA_AG_AT_CLCC_EVT
   ⟨asciiBytes "+COPS", 23, btaAgAtRead ||| btaAgAtSet, btaAgAtStr, 0, 0,
     List.cons_ne_nil _ _⟩, -- BTA_AG_AT_COPS_EVT
   ⟨asciiBytes "+CMEE", 0x105, btaAgAtSet, btaAgAtInt, 0, 1,
     List.cons_ne_nil _ _⟩, -- BTA_AG_LOCAL_EVT_CMEE
   ⟨asciiBytes "+BIA", 32, btaAgAtSet, btaAgAtStr, 0, 20,
     List.cons_ne_nil _ _⟩, -- BTA_AG_AT_BIA_EVT
   ⟨asciiBytes "+CBC", 25, btaAgAtSet, btaAgAtInt, 0, 100,
     List.cons_ne_nil _ _⟩, -- BTA_AG_AT_CBC_EVT
   ⟨asciiBytes "+BCC", 0x106, btaAgAtNone, btaAgAtStr, 0, 0,
     List.cons_ne_nil _ _⟩, -- BTA_AG_LOCAL_EVT_BCC
   ⟨asciiBytes "+BCS", 27, btaAgAtSet, btaAgAtInt, 0, 32767,
     List.cons_ne_nil _ _⟩, -- BTA_AG_AT_BCS_EVT
   ⟨asciiBytes "+BIND", 28, btaAgAtSet ||| btaAgAtRead ||| btaAgAtTest, btaAgAtStr, 0, 0,
     List.cons_ne_nil _ _⟩, -- BTA_AG_AT_BIND_EVT
   ⟨asciiBytes "+BIEV", 29, btaAgAtSet, btaAgAtStr, 0, 0,
     List.cons_ne_nil _ _⟩, -- BTA_AG_AT_BIEV_EVT
   ⟨asciiBytes "+BAC", 26, btaAgAtSet, btaAgAtStr, 0, 0, List.cons_ne_nil _ _⟩] -- BTA_AG_AT_BAC_EVT

end BluetoothStack.Ag

namespace BluetoothStack.Ag

variable (tbl : List AtCmd) (cmdMaxLen : Nat)

/-! ## Writes stay in the buffer -/

theorem storeByte_of_lt {buf : List UInt8} {i : Nat} (b : UInt8) (h : i < buf.length) :
    storeByte buf i b = some (buf.set i b) := by
  rw [storeByte, if_pos h]

/-- A pass of the inner loop with room in the buffer writes inside it, keeps its length, and
moves `cmd_pos` by at most one. -/
theorem atParseByte_some {buf : List UInt8} {pos : Nat} (b : UInt8)
    (hpos : pos + 1 < buf.length) :
    ∃ buf' pos' ev, atParseByte tbl buf pos b = some (buf', pos', ev) ∧
      buf'.length = buf.length ∧ pos' ≤ pos + 1 := by
  unfold atParseByte
  by_cases hskip : pos = 0 ∧ b = 0
  · exact ⟨buf, pos, [], by rw [if_pos hskip], rfl, by omega⟩
  rw [if_neg hskip, storeByte_of_lt b (by omega), Option.bind_eq_bind, Option.bind_some]
  by_cases hend : b = 0x0D ∨ b = 0x0A
  · rw [if_pos hend, storeByte_of_lt 0 (by simp; omega), Option.bind_some]
    split
    · exact ⟨_, 0, _, rfl, by simp, by omega⟩
    · exact ⟨_, 0, _, rfl, by simp, by omega⟩
  rw [if_neg hend]
  by_cases hesc : b = 0x1A ∨ b = 0x1B
  · rw [if_pos hesc, storeByte_of_lt 0 (by simp; omega), Option.bind_some]
    exact ⟨_, 0, _, rfl, by simp, by omega⟩
  · rw [if_neg hesc]
    exact ⟨_, pos + 1, [], rfl, by simp, Nat.le_refl _⟩

/-- From a buffer of `cmd_max_len ≥ 2` bytes, the parser takes any stream byte by byte without a
write outside the buffer, and leaves the buffer's length and `cmd_pos` in it. By induction on the
stream. -/
theorem atRun_some (h2 : 2 ≤ cmdMaxLen) :
    ∀ (input buf : List UInt8) (pos : Nat), buf.length = cmdMaxLen → pos < cmdMaxLen →
      ∃ buf' pos' evs, atRun tbl cmdMaxLen buf pos input = some (buf', pos', evs) ∧
        buf'.length = cmdMaxLen ∧ pos' < cmdMaxLen
  | [], buf, pos, hbuf, hpos => ⟨buf, pos, [], rfl, hbuf, hpos⟩
  | b :: bs, buf, pos, hbuf, hpos => by
    -- the step clears a full buffer first, so there is room for the byte
    obtain ⟨buf₁, pos₁, ev, hstep, hlen₁, hpos₁⟩ := atParseByte_some tbl b
      (show (if pos + 1 < cmdMaxLen then pos else 0) + 1 < buf.length by split <;> omega)
    have hpos₁' : pos₁ < cmdMaxLen := by split at hpos₁ <;> omega
    obtain ⟨buf₂, pos₂, evs, hrun, hlen₂, hpos₂⟩ :=
      atRun_some h2 bs buf₁ pos₁ (by rw [hlen₁, hbuf]) hpos₁'
    refine ⟨buf₂, pos₂, ev ++ evs, ?_, hlen₂, hpos₂⟩
    simp only [atRun, atByteStep, hstep, Option.bind_eq_bind, Option.bind_some, hrun]
    rfl

/-! ## A call is a run byte by byte -/

/-- With room in the buffer, a call starts with one pass of the inner loop on the first byte. -/
theorem atParseOuter_cons {fuel : Nat} {buf : List UInt8} {pos : Nat} {b : UInt8}
    {bs : List UInt8} (hpos : pos + 1 < cmdMaxLen) :
    atParseOuter tbl cmdMaxLen fuel buf pos (b :: bs) =
      (atParseByte tbl buf pos b).bind fun (buf₁, pos₁, ev) =>
        (atParseOuter tbl cmdMaxLen fuel buf₁ pos₁ bs).map fun (buf₂, pos₂, evs) =>
          (buf₂, pos₂, ev ++ evs) := by
  -- one level of the outer loop on each side, whatever the fuel
  cases fuel <;>
  · simp only [atParseOuter, atParseInner, if_pos hpos]
    cases atParseByte tbl buf pos b with
    | none => rfl
    | some s₁ =>
      obtain ⟨buf₁, pos₁, ev⟩ := s₁
      simp only [Option.bind_eq_bind, Option.bind_some]
      cases atParseInner tbl cmdMaxLen buf₁ pos₁ bs with
      | none => rfl
      | some s₂ =>
        obtain ⟨buf₂, pos₂, rest, evs⟩ := s₂
        -- the events of the later rounds go after those of the first
        by_cases hrest : rest = [] <;>
          simp [hrest, Option.map_bind, List.append_assoc]

/-- With the buffer full, a call clears `cmd_pos` before it takes the first byte. -/
theorem atParseOuter_full {fuel : Nat} {buf : List UInt8} {pos : Nat} {b : UInt8}
    {bs : List UInt8} (hpos : ¬pos + 1 < cmdMaxLen) :
    atParseOuter tbl cmdMaxLen (fuel + 1) buf pos (b :: bs) =
      atParseOuter tbl cmdMaxLen fuel buf 0 (b :: bs) := by
  rw [atParseOuter, atParseInner, if_neg hpos]
  simp only [Option.bind_eq_bind, Option.bind_some, reduceCtorEq, if_false, List.nil_append]
  cases atParseOuter tbl cmdMaxLen fuel buf 0 (b :: bs) <;> rfl

/-- With `cmd_max_len ≥ 2` and enough fuel, a call of the parser is its run byte by byte: one
round of the outer loop per full buffer, one byte per pass of the inner loop. By induction on
the input. -/
theorem atParseOuter_eq_atRun (h2 : 2 ≤ cmdMaxLen) :
    ∀ (input : List UInt8) (fuel : Nat) (buf : List UInt8) (pos : Nat),
      input.length + (if pos + 1 < cmdMaxLen then 0 else 1) ≤ fuel →
      atParseOuter tbl cmdMaxLen fuel buf pos input = atRun tbl cmdMaxLen buf pos input
  | [], fuel, buf, pos, _ => by
    cases fuel <;> rfl
  | b :: bs, fuel, buf, pos, hfuel => by
    -- with room in the buffer: the first byte, then the rest by induction
    have hroom : ∀ fuel buf pos, pos + 1 < cmdMaxLen → bs.length + 1 ≤ fuel →
        atParseOuter tbl cmdMaxLen fuel buf pos (b :: bs) =
          atRun tbl cmdMaxLen buf pos (b :: bs) := by
      intro fuel buf pos hpos hfuel
      rw [atParseOuter_cons tbl cmdMaxLen hpos, atRun, atByteStep, if_pos hpos]
      cases atParseByte tbl buf pos b with
      | none => rfl
      | some s₁ =>
        obtain ⟨buf₁, pos₁, ev⟩ := s₁
        simp only [Option.bind_eq_bind, Option.bind_some]
        rw [atParseOuter_eq_atRun h2 bs fuel buf₁ pos₁ (by split <;> omega)]
        cases atRun tbl cmdMaxLen buf₁ pos₁ bs <;> rfl
    by_cases hpos : pos + 1 < cmdMaxLen
    · rw [if_pos hpos] at hfuel
      exact hroom fuel buf pos hpos (by simpa using hfuel)
    · rw [if_neg hpos] at hfuel
      obtain ⟨fuel, rfl⟩ : ∃ f, fuel = f + 1 := ⟨fuel - 1, by simp at hfuel; omega⟩
      rw [atParseOuter_full tbl cmdMaxLen hpos, hroom fuel buf 0 (by omega) (by simpa using hfuel),
        atRun, atRun, atByteStep, atByteStep, if_neg hpos, if_pos (show 0 + 1 < cmdMaxLen by omega)]

/-- The run over two pieces of a stream is the run over the first, then over the second from the
state it leaves. By induction on the first piece. -/
theorem atRun_append (buf : List UInt8) (pos : Nat) :
    ∀ xs ys : List UInt8, atRun tbl cmdMaxLen buf pos (xs ++ ys) =
      (atRun tbl cmdMaxLen buf pos xs).bind fun (buf₁, pos₁, evs₁) =>
        (atRun tbl cmdMaxLen buf₁ pos₁ ys).map fun (buf₂, pos₂, evs₂) =>
          (buf₂, pos₂, evs₁ ++ evs₂)
  | [], ys => by
    simp only [List.nil_append, atRun, Option.bind_some, List.nil_append]
    cases atRun tbl cmdMaxLen buf pos ys <;> rfl
  | b :: xs, ys => by
    simp only [List.cons_append, atRun, Option.bind_eq_bind]
    cases atByteStep tbl cmdMaxLen buf pos b with
    | none => rfl
    | some s₁ =>
      obtain ⟨buf₁, pos₁, ev⟩ := s₁
      simp only [Option.bind_some]
      rw [atRun_append buf₁ pos₁ xs ys]
      cases atRun tbl cmdMaxLen buf₁ pos₁ xs with
      | none => rfl
      | some s₂ =>
        obtain ⟨buf₂, pos₂, evs⟩ := s₂
        simp only [Option.bind_some]
        cases hys : atRun tbl cmdMaxLen buf₂ pos₂ ys <;> simp [hys, List.append_assoc]

/-- The buffer and `cmd_pos` a call of the parser starts from: a fresh buffer on the first call. -/
def AtCb.start (cb : AtCb) : List UInt8 × Nat :=
  match cb.pCmdBuf with
  | none => (List.replicate cmdMaxLen 0, 0)
  | some buf => (buf, cb.cmdPos)

/-- A control block as the parser leaves it: no buffer yet, or one of `cmd_max_len` bytes with
`cmd_pos` in it. -/
def AtCb.Valid (cb : AtCb) : Prop :=
  ∀ buf, cb.pCmdBuf = some buf → buf.length = cmdMaxLen ∧ cb.cmdPos < cmdMaxLen

theorem AtCb.valid_none (pos : Nat) : AtCb.Valid cmdMaxLen ⟨none, pos⟩ := by
  intro buf h
  cases h

theorem AtCb.valid_some {buf : List UInt8} {pos : Nat} (hbuf : buf.length = cmdMaxLen)
    (hpos : pos < cmdMaxLen) : AtCb.Valid cmdMaxLen ⟨some buf, pos⟩ := by
  intro buf' h
  cases h
  exact ⟨hbuf, hpos⟩

theorem AtCb.start_valid {cb : AtCb} (h2 : 2 ≤ cmdMaxLen) (hcb : cb.Valid cmdMaxLen) :
    (cb.start cmdMaxLen).1.length = cmdMaxLen ∧ (cb.start cmdMaxLen).2 < cmdMaxLen := by
  rcases hbuf : cb.pCmdBuf with _ | buf <;> simp only [AtCb.start, hbuf]
  · exact ⟨List.length_replicate, by omega⟩
  · exact hcb buf hbuf

/-- With `cmd_max_len ≥ 2`, a call of `bta_ag_at_parse` returns, after the run of its bytes from
where the last call left off. -/
theorem btaAgAtParse_eq {cb : AtCb} (h2 : 2 ≤ cmdMaxLen) (hcb : cb.Valid cmdMaxLen)
    (pBuf : List UInt8) :
    btaAgAtParse tbl cmdMaxLen cb pBuf =
      (atRun tbl cmdMaxLen (cb.start cmdMaxLen).1 (cb.start cmdMaxLen).2 pBuf).map
        fun (buf, pos, evs) => (⟨some buf, pos⟩, evs) := by
  have hstart := AtCb.start_valid cmdMaxLen h2 hcb
  rw [← atParseOuter_eq_atRun tbl cmdMaxLen h2 pBuf (pBuf.length + 1) _ _ (by split <;> omega)]
  unfold btaAgAtParse AtCb.start
  cases cb.pCmdBuf <;> rfl

/-- A call leaves a valid control block. -/
theorem btaAgAtParse_valid {cb cb' : AtCb} {evs : List AtEvent} (h2 : 2 ≤ cmdMaxLen)
    (hcb : cb.Valid cmdMaxLen) {pBuf : List UInt8}
    (h : btaAgAtParse tbl cmdMaxLen cb pBuf = some (cb', evs)) : cb'.Valid cmdMaxLen := by
  have hstart := AtCb.start_valid cmdMaxLen h2 hcb
  obtain ⟨buf', pos', evs', hrun, hlen, hpos⟩ :=
    atRun_some tbl cmdMaxLen h2 pBuf _ _ hstart.1 hstart.2
  rw [btaAgAtParse_eq tbl cmdMaxLen h2 hcb, hrun, Option.map_some] at h
  cases h
  exact AtCb.valid_some cmdMaxLen hlen hpos

/-- A call with a stream cut in two is a call with the first piece, then a call with the second
from the control block it leaves. -/
theorem btaAgAtParse_append {cb : AtCb} (h2 : 2 ≤ cmdMaxLen) (hcb : cb.Valid cmdMaxLen)
    (xs ys : List UInt8) :
    btaAgAtParse tbl cmdMaxLen cb (xs ++ ys) =
      (btaAgAtParse tbl cmdMaxLen cb xs).bind fun (cb₁, evs₁) =>
        (btaAgAtParse tbl cmdMaxLen cb₁ ys).map fun (cb₂, evs₂) => (cb₂, evs₁ ++ evs₂) := by
  have hstart := AtCb.start_valid cmdMaxLen h2 hcb
  obtain ⟨buf₁, pos₁, evs₁, hrun₁, hlen₁, hpos₁⟩ :=
    atRun_some tbl cmdMaxLen h2 xs _ _ hstart.1 hstart.2
  rw [btaAgAtParse_eq tbl cmdMaxLen h2 hcb, btaAgAtParse_eq tbl cmdMaxLen h2 hcb, atRun_append,
    hrun₁, Option.bind_some, Option.map_some, Option.bind_some]
  dsimp only
  rw [btaAgAtParse_eq tbl cmdMaxLen h2 (AtCb.valid_some cmdMaxLen hlen₁ hpos₁)]
  dsimp only [AtCb.start]
  cases atRun tbl cmdMaxLen buf₁ pos₁ ys <;> rfl

/-- However the stream is cut into calls, the parser makes the callbacks, and ends in the state,
of one call with the whole stream. By induction on the chunks, each step a `btaAgAtParse_append`. -/
theorem runChunks_eq (h2 : 2 ≤ cmdMaxLen) :
    ∀ (cb : AtCb) (cs : List (List UInt8)), cb.Valid cmdMaxLen → cs ≠ [] →
      runChunks tbl cmdMaxLen cb cs = btaAgAtParse tbl cmdMaxLen cb cs.flatten
  | _, [], _, hcs => absurd rfl hcs
  | cb, [c], _, _ => by
    simp only [runChunks, List.flatten_cons, List.flatten_nil, List.append_nil,
      Option.bind_eq_bind]
    cases btaAgAtParse tbl cmdMaxLen cb c <;> simp
  | cb, c :: c' :: cs, hcb, _ => by
    rw [runChunks, List.flatten_cons, btaAgAtParse_append tbl cmdMaxLen h2 hcb,
      Option.bind_eq_bind]
    cases hcall : btaAgAtParse tbl cmdMaxLen cb c with
    | none => rfl
    | some r =>
      obtain ⟨cb₁, evs₁⟩ := r
      have hcb₁ := btaAgAtParse_valid tbl cmdMaxLen h2 hcb hcall
      simp only [Option.bind_some]
      rw [runChunks_eq h2 cb₁ (c' :: cs) hcb₁ (List.cons_ne_nil _ _)]
      cases btaAgAtParse tbl cmdMaxLen cb₁ (c' :: cs).flatten <;> rfl

/-! ## One line -/

/-- A byte that neither ends a line nor aborts it, and is not NUL. -/
def PlainByte (b : UInt8) : Prop := b ≠ 0 ∧ b ≠ 0x0D ∧ b ≠ 0x0A ∧ b ≠ 0x1A ∧ b ≠ 0x1B

instance (b : UInt8) : Decidable (PlainByte b) := inferInstanceAs (Decidable (_ ∧ _))

/-- A write at `pos` leaves the bytes before it. -/
theorem take_set_self {buf : List UInt8} {pos : Nat} (b : UInt8) :
    (buf.set pos b).take pos = buf.take pos := by
  rw [List.take_set, List.set_eq_of_length_le (List.length_take_le _ _)]

theorem take_succ_set {buf : List UInt8} {pos : Nat} (b : UInt8) (h : pos < buf.length) :
    (buf.set pos b).take (pos + 1) = buf.take pos ++ [b] := by
  rw [List.take_succ_eq_append_getElem (by simpa using h), take_set_self, List.getElem_set_self]

/-- The bytes of a line that do not end it are stored one after the other, with no callback. By
induction on the bytes. -/
theorem atRun_plain :
    ∀ (l buf : List UInt8) (pos : Nat), (∀ b ∈ l, PlainByte b) → pos + l.length < cmdMaxLen →
      buf.length = cmdMaxLen →
      ∃ buf', atRun tbl cmdMaxLen buf pos l = some (buf', pos + l.length, []) ∧
        buf'.length = cmdMaxLen ∧ buf'.take (pos + l.length) = buf.take pos ++ l
  | [], buf, pos, _, _, hbuf => ⟨buf, rfl, hbuf, by simp⟩
  | b :: l, buf, pos, hl, hlen, hbuf => by
    obtain ⟨h0, hcr, hlf, hsub, hesc⟩ := hl b (by simp)
    simp only [List.length_cons] at hlen
    have hstep : atByteStep tbl cmdMaxLen buf pos b = some (buf.set pos b, pos + 1, []) := by
      rw [atByteStep, if_pos (by omega), atParseByte, if_neg (by simp [h0]),
        storeByte_of_lt b (by omega), Option.bind_eq_bind, Option.bind_some,
        if_neg (by simp [hcr, hlf]), if_neg (by simp [hsub, hesc])]
      rfl
    obtain ⟨buf', hrun, hlen', htake⟩ := atRun_plain l (buf.set pos b) (pos + 1)
      (fun c hc => hl c (by simp [hc])) (by omega) (by simpa using hbuf)
    refine ⟨buf', ?_, hlen', ?_⟩
    · simp only [atRun, hstep, Option.bind_eq_bind, Option.bind_some, hrun]
      simp [Nat.add_assoc, Nat.add_comm 1 l.length]
    · rw [List.length_cons, show pos + (l.length + 1) = pos + 1 + l.length by omega, htake,
        take_succ_set b (by omega)]
      simp

/-- Whether a line starts with `AT`, of either case. -/
def StartsWithAt (l : List UInt8) : Prop :=
  (l.getD 0 0 = 0x41 ∨ l.getD 0 0 = 0x61) ∧ (l.getD 1 0 = 0x54 ∨ l.getD 1 0 = 0x74)

instance (l : List UInt8) : Decidable (StartsWithAt l) := inferInstanceAs (Decidable (_ ∧ _))

/-- A line from its start: the bytes of a line of at most `cmd_max_len - 2` bytes with no NUL,
`\r`, `\n`, 0x1A or 0x1B, ended by `\r` or `\n`, make one callback, that of
`bta_ag_process_at` on the bytes after `AT`, if it has more than two bytes and starts with `AT`,
and none otherwise; the parser is back at the start of a line. -/
theorem atRun_line {l buf : List UInt8} {t : UInt8} (hl : ∀ b ∈ l, PlainByte b)
    (hlen : l.length + 2 ≤ cmdMaxLen) (hbuf : buf.length = cmdMaxLen) (ht : t = 0x0D ∨ t = 0x0A) :
    ∃ buf', atRun tbl cmdMaxLen buf 0 (l ++ [t]) = some (buf', 0,
      if 2 < l.length ∧ StartsWithAt l then [btaAgProcessAt tbl (l.drop 2)] else []) := by
  obtain ⟨buf₁, hrun, hlen₁, htake⟩ := atRun_plain tbl cmdMaxLen l buf 0 hl (by omega) hbuf
  rw [Nat.zero_add, List.take_zero, List.nil_append] at *
  have ht0 : t ≠ 0 := by rcases ht with rfl | rfl <;> decide
  -- the terminator is stored at `l.length`, then NUL over it; the line before it stays
  set buf₂ := (buf₁.set l.length t).set l.length 0 with hbuf₂
  have htake₂ : buf₂.take l.length = l := by rw [hbuf₂, take_set_self, take_set_self, htake]
  have hget : ∀ i < l.length, buf₂.getD i 0 = l.getD i 0 := by
    intro i hi
    rw [← htake₂, List.getD_eq_getElem?_getD, List.getD_eq_getElem?_getD, List.getElem?_take,
      if_pos hi]
  have hstep : atByteStep tbl cmdMaxLen buf₁ l.length t = some (buf₂, 0,
      if 2 < l.length ∧ StartsWithAt l then [btaAgProcessAt tbl (l.drop 2)] else []) := by
    rw [atByteStep, if_pos (by omega), atParseByte, if_neg (by simp [ht0]),
      storeByte_of_lt t (by omega), Option.bind_eq_bind, Option.bind_some, if_pos ht,
      storeByte_of_lt 0 (by simp; omega), Option.bind_some, ← hbuf₂, htake₂]
    by_cases hlong : 2 < l.length
    · simp only [hget 0 (by omega), hget 1 (by omega), StartsWithAt, hlong, true_and]
      split <;> rfl
    · simp only [hlong, false_and, if_false]
      rfl
  refine ⟨buf₂, ?_⟩
  rw [atRun_append, hrun, Option.bind_some]
  simp only [atRun, hstep, Option.bind_eq_bind, Option.bind_some]
  simp

/-! ## What a command line asks for -/

/-- The argument type a line's argument asks for, as its bytes read: none, `?`, `=?`, `=` and a
value, or anything else; with the argument a callback gets. -/
def atArgSpec : List UInt8 → UInt8 × List UInt8
  | [] => (btaAgAtNone, [])
  | c :: rest =>
    if c = 0x3F ∧ rest = [] then (btaAgAtRead, [c])
    else if c = 0x3D ∧ rest ≠ [] then
      if rest = [0x3F] then (btaAgAtTest, c :: rest) else (btaAgAtSet, rest)
    else (btaAgAtFree, c :: rest)

/-- The callback a command `r` (the bytes after `AT`) asks for: the first entry whose name starts
`r` in upper case, the argument after the name, and its type if the entry takes it; a set of an
integer entry only with a value in the entry's range. -/
def atCommandSpec (tbl : List AtCmd) (r : List UInt8) : AtEvent :=
  match tbl.find? (fun e => decide (e.pCmd <+: r.map toUpper)) with
  | none => .err true (some r)
  | some e =>
    let (argType, arg) := atArgSpec (r.drop e.pCmd.length)
    if argType &&& e.argType = 0 then .err false none
    else if argType = btaAgAtSet ∧ e.fmt = btaAgAtInt then
      if (e.min.toNat : Int) ≤ utlStr2int arg ∧ utlStr2int arg ≤ e.max then
        .cmd e.commandId argType arg (utlStr2int arg)
      else .err false none
    else .cmd e.commandId argType arg 0

/-- `utl_strucmp` matches when the first string starts the second in upper case. -/
theorem utlStrucmp_eq_zero_iff : ∀ s t : List UInt8, utlStrucmp s t = 0 ↔ s <+: t.map toUpper
  | [], t => by simp [utlStrucmp]
  | c :: s, [] => by simp [utlStrucmp]
  | c :: s, d :: t => by
    rw [utlStrucmp, List.map_cons, List.cons_prefix_cons, ← utlStrucmp_eq_zero_iff s t]
    by_cases hc : c = toUpper d <;> simp [hc]

/-- A buffer with no NUL is its own C string. -/
theorem cstr_of_forall_ne : ∀ {l : List UInt8}, (∀ b ∈ l, b ≠ 0) → cstr l = l
  | [], _ => rfl
  | b :: l, h => by
    rw [cstr, List.takeWhile_cons, if_pos (by simpa using h b (by simp))]
    exact congrArg (b :: ·) (cstr_of_forall_ne fun c hc => h c (by simp [hc]))

/-- The argument a callback gets is part of the line. -/
theorem mem_atArgSpec {a : List UInt8} (h : ∀ b ∈ a, b ≠ 0) : ∀ b ∈ (atArgSpec a).2, b ≠ 0 := by
  rcases a with _ | ⟨c, rest⟩
  · simp [atArgSpec]
  · intro b hb
    simp only [atArgSpec] at hb
    split_ifs at hb
    · -- a read: the `?`
      rw [List.mem_singleton.1 hb]
      exact h c (by simp)
    · exact h b hb
    · -- a set: the value after `=`
      exact h b (List.mem_cons_of_mem c hb)
    · exact h b hb

/-- With no NUL in it, the argument is classified as its bytes read. -/
theorem atArgType_eq {a : List UInt8} (h : ∀ b ∈ a, b ≠ 0) : atArgType a = atArgSpec a := by
  rcases a with _ | ⟨c, _ | ⟨d, _ | ⟨e, rest⟩⟩⟩
  · rfl
  · have hc := h c (by simp)
    simp [atArgType, atArgSpec, hc]
  · have hc := h c (by simp)
    have hd := h d (by simp)
    by_cases hc' : c = 0x3D <;> simp [atArgType, atArgSpec, hc, hd, hc']
  · have hc := h c (by simp)
    have hd := h d (by simp)
    have he := h e (by simp)
    by_cases hc' : c = 0x3D <;> simp [atArgType, atArgSpec, hc, hd, he, hc']

/-- On a command with no NUL, `bta_ag_process_at` makes the callback the command asks for: the
pointer test `p_arg > p_end` never fires. -/
theorem btaAgProcessAt_eq {r : List UInt8} (h : ∀ b ∈ r, b ≠ 0) :
    btaAgProcessAt tbl r = atCommandSpec tbl r := by
  have hfind : findAtCmd r tbl = tbl.find? fun e => decide (e.pCmd <+: r.map toUpper) := by
    simp only [findAtCmd, utlStrucmp_eq_zero_iff]
  unfold btaAgProcessAt atCommandSpec
  rw [cstr_of_forall_ne h, hfind]
  cases hentry : tbl.find? (fun e => decide (e.pCmd <+: r.map toUpper)) with
  | none => rfl
  | some e =>
    have hpre : e.pCmd <+: r.map toUpper := by simpa using List.find?_some hentry
    have hle : e.pCmd.length ≤ r.length := by simpa using hpre.length_le
    have hdrop : ∀ b ∈ r.drop e.pCmd.length, b ≠ 0 := fun b hb => h b (List.mem_of_mem_drop hb)
    simp only [if_neg (show ¬r.length < e.pCmd.length by omega), atArgType_eq hdrop]
    have harg := mem_atArgSpec hdrop
    generalize atArgSpec (r.drop e.pCmd.length) = spec at harg ⊢
    obtain ⟨argType, arg⟩ := spec
    simp only at harg ⊢
    rw [cstr_of_forall_ne harg]
    by_cases hty : argType &&& e.argType = 0
    · simp [hty]
    · by_cases hset : argType = btaAgAtSet ∧ e.fmt = btaAgAtInt
      · rw [if_pos hty, if_neg hty, if_pos hset, if_pos hset]
        -- the range test, the other way round
        by_cases hrange : (e.min.toNat : Int) ≤ utlStr2int arg ∧ utlStr2int arg ≤ e.max
        · rw [if_neg (by omega), if_pos hrange]
        · rw [if_pos (by omega), if_neg hrange]
      · simp [hty, hset]

/-! ## Aborted and overlong lines -/

/-- The C string of a buffer that holds `xs`, then NUL. -/
theorem cstr_append_zero {xs : List UInt8} (h : ∀ b ∈ xs, b ≠ 0) (ys : List UInt8) :
    cstr (xs ++ 0 :: ys) = xs := by
  induction xs with
  | nil => simp [cstr]
  | cons x xs ih =>
    rw [List.cons_append, cstr, List.takeWhile_cons, if_pos (by simpa using h x (by simp))]
    exact congrArg (x :: ·) (ih fun c hc => h c (by simp [hc]))

/-- A line from its start cut short by 0x1A or 0x1B: `p_err_cback` with the bytes so far, and the
parser is back at the start of a line. -/
theorem atRun_escape {l buf : List UInt8} {c : UInt8} (hl : ∀ b ∈ l, PlainByte b)
    (hlen : l.length + 2 ≤ cmdMaxLen) (hbuf : buf.length = cmdMaxLen) (hc : c = 0x1A ∨ c = 0x1B) :
    ∃ buf', atRun tbl cmdMaxLen buf 0 (l ++ [c]) =
      some (buf', 0, [.err true (some (l ++ [c]))]) := by
  obtain ⟨buf₁, hrun, hlen₁, htake⟩ := atRun_plain tbl cmdMaxLen l buf 0 hl (by omega) hbuf
  rw [Nat.zero_add, List.take_zero, List.nil_append] at *
  have hc0 : c ≠ 0 := by rcases hc with rfl | rfl <;> decide
  -- the byte at `l.length`, NUL after it
  set buf₂ := (buf₁.set l.length c).set (l.length + 1) 0 with hbuf₂
  have hshape : buf₂ = (l ++ [c]) ++ 0 :: buf₁.drop (l.length + 2) := by
    rw [hbuf₂, List.set_eq_take_append_cons_drop,
      if_pos (show l.length + 1 < (buf₁.set l.length c).length by simp; omega),
      take_succ_set c (by omega), htake, List.drop_set, if_pos (by omega)]
  have hstep : atByteStep tbl cmdMaxLen buf₁ l.length c =
      some (buf₂, 0, [.err true (some (l ++ [c]))]) := by
    rw [atByteStep, if_pos (by omega), atParseByte, if_neg (by simp [hc0]),
      storeByte_of_lt c (by omega), Option.bind_eq_bind, Option.bind_some,
      if_neg (by rcases hc with rfl | rfl <;> decide), if_pos hc,
      storeByte_of_lt 0 (by simp; omega), Option.bind_some, ← hbuf₂, hshape,
      cstr_append_zero (fun b hb => ?_)]
    · rfl
    · rcases List.mem_append.1 hb with hb | hb
      · exact (hl b hb).1
      · rw [List.mem_singleton.1 hb]
        exact hc0
  refine ⟨buf₂, ?_⟩
  rw [atRun_append, hrun, Option.bind_some]
  simp only [atRun, hstep, Option.bind_eq_bind, Option.bind_some]
  simp

/-- From a full buffer the next byte is taken at the start of a line. -/
theorem atRun_full {buf : List UInt8} {pos : Nat} (h2 : 2 ≤ cmdMaxLen) (hpos : ¬pos + 1 < cmdMaxLen)
    {b : UInt8} (bs : List UInt8) :
    atRun tbl cmdMaxLen buf pos (b :: bs) = atRun tbl cmdMaxLen buf 0 (b :: bs) := by
  simp only [atRun, atByteStep, if_neg hpos, if_pos (show 0 + 1 < cmdMaxLen by omega)]

/-- A line of more than `cmd_max_len - 2` bytes from its start: after `cmd_max_len - 1` bytes
with no NUL, `\r`, `\n`, 0x1A or 0x1B and no callback, the bytes after them are parsed as a new
line. -/
theorem atRun_cut {l buf : List UInt8} (h2 : 2 ≤ cmdMaxLen) (hl : ∀ b ∈ l, PlainByte b)
    (hlen : l.length + 1 = cmdMaxLen) (hbuf : buf.length = cmdMaxLen) {b : UInt8}
    (bs : List UInt8) :
    ∃ buf', buf'.length = cmdMaxLen ∧
      atRun tbl cmdMaxLen buf 0 (l ++ b :: bs) = atRun tbl cmdMaxLen buf' 0 (b :: bs) := by
  obtain ⟨buf₁, hrun, hlen₁, -⟩ := atRun_plain tbl cmdMaxLen l buf 0 hl (by omega) hbuf
  refine ⟨buf₁, hlen₁, ?_⟩
  rw [atRun_append, hrun, Option.bind_some, Nat.zero_add]
  dsimp only
  rw [atRun_full tbl cmdMaxLen h2 (show ¬l.length + 1 < cmdMaxLen by omega) bs]
  cases atRun tbl cmdMaxLen buf₁ 0 (b :: bs) <;> rfl

/-! ## Lines through the calls -/

/-- At the start of a line, a call with a line of at most `cmd_max_len - 2` plain bytes and its
end makes the callback `atCommandSpec` asks for on the bytes after `AT`, if the line has more than
two bytes and starts with `AT`, and none otherwise, and leaves the parser at the start of a line. -/
theorem btaAgAtParse_line {cb : AtCb} (h2 : 2 ≤ cmdMaxLen) (hcb : cb.Valid cmdMaxLen)
    (hpos : (cb.start cmdMaxLen).2 = 0) {l : List UInt8} {t : UInt8} (hl : ∀ b ∈ l, PlainByte b)
    (hlen : l.length + 2 ≤ cmdMaxLen) (ht : t = 0x0D ∨ t = 0x0A) :
    ∃ buf', btaAgAtParse tbl cmdMaxLen cb (l ++ [t]) = some (⟨some buf', 0⟩,
      if 2 < l.length ∧ StartsWithAt l then [atCommandSpec tbl (l.drop 2)] else []) := by
  obtain ⟨buf', hrun⟩ :=
    atRun_line tbl cmdMaxLen hl hlen (AtCb.start_valid cmdMaxLen h2 hcb).1 ht
  -- the command after `AT` has no NUL, so the table lookup sees all of it
  have hcmd : ∀ b ∈ l.drop 2, b ≠ 0 := fun b hb => (hl b (List.mem_of_mem_drop hb)).1
  refine ⟨buf', ?_⟩
  rw [btaAgAtParse_eq tbl cmdMaxLen h2 hcb, hpos, hrun, Option.map_some,
    btaAgProcessAt_eq tbl hcmd]

/-- At the start of a line, a call with plain bytes and 0x1A or 0x1B makes one `p_err_cback` with
the bytes so far, and leaves the parser at the start of a line. -/
theorem btaAgAtParse_escape {cb : AtCb} (h2 : 2 ≤ cmdMaxLen) (hcb : cb.Valid cmdMaxLen)
    (hpos : (cb.start cmdMaxLen).2 = 0) {l : List UInt8} {c : UInt8} (hl : ∀ b ∈ l, PlainByte b)
    (hlen : l.length + 2 ≤ cmdMaxLen) (hc : c = 0x1A ∨ c = 0x1B) :
    ∃ buf', btaAgAtParse tbl cmdMaxLen cb (l ++ [c]) =
      some (⟨some buf', 0⟩, [.err true (some (l ++ [c]))]) := by
  obtain ⟨buf', hrun⟩ :=
    atRun_escape tbl cmdMaxLen hl hlen (AtCb.start_valid cmdMaxLen h2 hcb).1 hc
  refine ⟨buf', ?_⟩
  rw [btaAgAtParse_eq tbl cmdMaxLen h2 hcb, hpos, hrun, Option.map_some]

/-- At the start of a line, after `cmd_max_len - 1` plain bytes the parser has made no callback
and parses what follows as a new line. -/
theorem btaAgAtParse_cut {cb : AtCb} (h2 : 2 ≤ cmdMaxLen) (hcb : cb.Valid cmdMaxLen)
    (hpos : (cb.start cmdMaxLen).2 = 0) {l : List UInt8} (hl : ∀ b ∈ l, PlainByte b)
    (hlen : l.length + 1 = cmdMaxLen) (b : UInt8) (bs : List UInt8) :
    ∃ buf', buf'.length = cmdMaxLen ∧
      btaAgAtParse tbl cmdMaxLen cb (l ++ b :: bs) =
        btaAgAtParse tbl cmdMaxLen ⟨some buf', 0⟩ (b :: bs) := by
  obtain ⟨buf', hlen', hrun⟩ :=
    atRun_cut tbl cmdMaxLen h2 hl hlen (AtCb.start_valid cmdMaxLen h2 hcb).1 (b := b) bs
  refine ⟨buf', hlen', ?_⟩
  rw [btaAgAtParse_eq tbl cmdMaxLen h2 hcb, hpos, hrun,
    btaAgAtParse_eq tbl cmdMaxLen h2 (AtCb.valid_some cmdMaxLen hlen' (by omega))]
  rfl

/-- The parser over any table with `cmd_max_len ≥ 2`: every call returns, with every write in the
buffer, and leaves a valid control block; the callbacks and the final state depend on the stream
only, not on its cut into calls; and from the start of a line, a line of at most
`cmd_max_len - 2` bytes with no NUL, 0x1A or 0x1B makes the one callback `atCommandSpec` gives
for it when it has more than two bytes and starts with `AT`, and none otherwise; 0x1A or 0x1B
after such bytes makes one `p_err_cback` with the bytes so far; and after `cmd_max_len - 1` such
bytes the rest is parsed as a new line. -/
theorem atParse_chunks_and_lines (h2 : 2 ≤ cmdMaxLen) :
    (∀ (cb : AtCb) (pBuf : List UInt8), cb.Valid cmdMaxLen →
      ∃ cb' evs, btaAgAtParse tbl cmdMaxLen cb pBuf = some (cb', evs) ∧ cb'.Valid cmdMaxLen) ∧
    (∀ (cb : AtCb) (cs : List (List UInt8)), cb.Valid cmdMaxLen → cs ≠ [] →
      runChunks tbl cmdMaxLen cb cs = btaAgAtParse tbl cmdMaxLen cb cs.flatten) ∧
    (∀ (cb : AtCb) (l : List UInt8) (t : UInt8), cb.Valid cmdMaxLen →
      (cb.start cmdMaxLen).2 = 0 → (∀ b ∈ l, PlainByte b) → l.length + 2 ≤ cmdMaxLen →
      (t = 0x0D ∨ t = 0x0A) →
      ∃ buf', btaAgAtParse tbl cmdMaxLen cb (l ++ [t]) = some (⟨some buf', 0⟩,
        if 2 < l.length ∧ StartsWithAt l then [atCommandSpec tbl (l.drop 2)] else [])) ∧
    (∀ (cb : AtCb) (l : List UInt8) (c : UInt8), cb.Valid cmdMaxLen →
      (cb.start cmdMaxLen).2 = 0 → (∀ b ∈ l, PlainByte b) → l.length + 2 ≤ cmdMaxLen →
      (c = 0x1A ∨ c = 0x1B) →
      ∃ buf', btaAgAtParse tbl cmdMaxLen cb (l ++ [c]) =
        some (⟨some buf', 0⟩, [.err true (some (l ++ [c]))])) ∧
    (∀ (cb : AtCb) (l : List UInt8) (b : UInt8) (bs : List UInt8), cb.Valid cmdMaxLen →
      (cb.start cmdMaxLen).2 = 0 → (∀ b ∈ l, PlainByte b) → l.length + 1 = cmdMaxLen →
      ∃ buf', buf'.length = cmdMaxLen ∧
        btaAgAtParse tbl cmdMaxLen cb (l ++ b :: bs) =
          btaAgAtParse tbl cmdMaxLen ⟨some buf', 0⟩ (b :: bs)) := by
  refine ⟨fun cb pBuf hcb => ?_, runChunks_eq tbl cmdMaxLen h2,
    fun _ _ _ hcb hpos hl hlen ht => btaAgAtParse_line tbl cmdMaxLen h2 hcb hpos hl hlen ht,
    fun _ _ _ hcb hpos hl hlen hc => btaAgAtParse_escape tbl cmdMaxLen h2 hcb hpos hl hlen hc,
    fun _ _ b bs hcb hpos hl hlen => btaAgAtParse_cut tbl cmdMaxLen h2 hcb hpos hl hlen b bs⟩
  have hstart := AtCb.start_valid cmdMaxLen h2 hcb
  obtain ⟨buf', pos', evs', hrun, hlen, hpos⟩ :=
    atRun_some tbl cmdMaxLen h2 pBuf _ _ hstart.1 hstart.2
  refine ⟨⟨some buf', pos'⟩, evs', ?_, AtCb.valid_some cmdMaxLen hlen hpos⟩
  rw [btaAgAtParse_eq tbl cmdMaxLen h2 hcb, hrun, Option.map_some]

/-- `AT+VGS=5\r` on a fresh headset link: the speaker volume 5. -/
theorem atParse_chunks_and_lines_volume :
    ∃ cb', btaAgAtParse btaAgHspCmd 512 ⟨none, 0⟩ (asciiBytes "AT+VGS=5" ++ [0x0D]) =
      some (cb', [.cmd 7 btaAgAtSet (asciiBytes "5") 5]) := by
  obtain ⟨buf', h⟩ := (atParse_chunks_and_lines btaAgHspCmd 512 (by decide)).2.2.1 ⟨none, 0⟩
    (asciiBytes "AT+VGS=5") 0x0D (AtCb.valid_none 512 0) rfl (by simp [PlainByte, asciiBytes])
    (by decide) (Or.inl rfl)
  refine ⟨⟨some buf', 0⟩, ?_⟩
  rw [h]
  congr 2

/-- Two lines the parser does not read as lines. On a hands-free link, `ATD` then 0x1A then `\r`
makes one `p_err_cback` with `ATD` and 0x1A, where the line read as a whole asks for the dial
command `D` with the free argument 0x1A; and on a headset link, 511 bytes `x` then `AT+VGS=5\r`,
a line of 520 bytes, sets the speaker volume. -/
theorem atParse_abort_and_overlong :
    atCommandSpec btaAgHfpCmd (asciiBytes "D" ++ [0x1A]) = .cmd 11 btaAgAtFree [0x1A] 0 ∧
    (∃ cb', btaAgAtParse btaAgHfpCmd 512 ⟨none, 0⟩ (asciiBytes "ATD" ++ [0x1A, 0x0D]) =
      some (cb', [.err true (some (asciiBytes "ATD" ++ [0x1A]))])) ∧
    (∃ cb', btaAgAtParse btaAgHspCmd 512 ⟨none, 0⟩
      (List.replicate 511 0x78 ++ asciiBytes "AT+VGS=5" ++ [0x0D]) =
        some (cb', [.cmd 7 btaAgAtSet (asciiBytes "5") 5])) := by
  refine ⟨by decide, ?_, ?_⟩
  · -- the 0x1A ends the line, and the `\r` after it ends an empty one
    obtain ⟨buf₁, h₁⟩ := btaAgAtParse_escape btaAgHfpCmd 512 (by decide)
      (AtCb.valid_none 512 0) rfl (l := asciiBytes "ATD") (by simp [PlainByte, asciiBytes])
      (by decide) (Or.inl rfl)
    obtain ⟨buf₂, h₂⟩ := btaAgAtParse_line btaAgHfpCmd 512 (by decide)
      (btaAgAtParse_valid btaAgHfpCmd 512 (by decide) (AtCb.valid_none 512 0) h₁) rfl
      (l := []) (by simp) (by decide) (Or.inl rfl)
    refine ⟨⟨some buf₂, 0⟩, ?_⟩
    rw [show asciiBytes "ATD" ++ [0x1A, 0x0D] = (asciiBytes "ATD" ++ [0x1A]) ++ ([] ++ [0x0D])
      by decide, btaAgAtParse_append btaAgHfpCmd 512 (by decide) (AtCb.valid_none 512 0), h₁,
      Option.bind_some]
    dsimp only
    rw [h₂]
    rfl
  · -- the buffer fills after the 511 bytes and `AT+VGS=5\r` is read as a new line
    have hx : ∀ b ∈ List.replicate 511 (0x78 : UInt8), PlainByte b := by
      intro b hb
      rw [List.eq_of_mem_replicate hb]
      decide
    obtain ⟨buf₁, hlen₁, h₁⟩ := btaAgAtParse_cut btaAgHspCmd 512 (by decide)
      (AtCb.valid_none 512 0) rfl hx (by rw [List.length_replicate]) 0x41
      (asciiBytes "T+VGS=5" ++ [0x0D])
    obtain ⟨buf₂, h₂⟩ := btaAgAtParse_line btaAgHspCmd 512 (by decide)
      (AtCb.valid_some 512 hlen₁ (by decide)) rfl (l := asciiBytes "AT+VGS=5")
      (by simp [PlainByte, asciiBytes]) (by decide) (Or.inl rfl)
    have hline : asciiBytes "AT+VGS=5" ++ [0x0D] = 0x41 :: (asciiBytes "T+VGS=5" ++ [0x0D]) := by
      decide
    refine ⟨⟨some buf₂, 0⟩, ?_⟩
    rw [List.append_assoc, hline, h₁, ← hline, h₂]
    congr 2

/- A NUL inside a line does not end it, but the argument is read as the C string it starts:
`AT+CIND?` NUL `x` is a READ of `+CIND`, where the line's bytes after the name, `?` NUL `x`,
would make the argument free, which `+CIND` does not allow. -/
example : (btaAgAtParse btaAgHfpCmd 512 ⟨none, 0⟩ (asciiBytes "AT+CIND?" ++ [0x00, 0x78, 0x0D])).map
    Prod.snd = some [.cmd 14 btaAgAtRead (asciiBytes "?" ++ [0x00, 0x78]) 0] := by
  decide +kernel

end BluetoothStack.Ag
