import BluetoothStack.Gatt.Types
import BluetoothStack.Stack.BtHdr
import BluetoothStack.Lib.Exchange

/-!
# Long reads and long writes of the GATT client

A read by handle (`GATTC_Read` of type `GATT_READ_BY_HANDLE`) and a write (`GATTC_Write` of type
`GATT_WRITE` or `GATT_WRITE_PREPARE`) as gatt_cl.cc drives them, one response at a time, as
clients of an `Exchange`. A read sends a Read Request, and while a response fills the MTU asks
for the rest with Read Blob Requests; the bytes are gathered in `p_attr_buf` up to
`GATT_MAX_ATTR_LEN`. A write too long for a Write Request, or a Prepare Write of the caller, goes
out in Prepare Write Requests of at most `payload_size - 5` bytes, each checked against the
server's echo, and a `GATT_WRITE` ends with an Execute Write Request.

Against a server that answers Read and Read Blob with as much of a value `v` as fits
(`blobServer`), the read delivers exactly `v` (`readSession_delivers`); against a server that
echoes each Prepare Write (`echoServer`), the write sends `v` in the pieces of `writePieces`, at
their offsets, then one Execute Write for a `GATT_WRITE`, and stops (`writeSession_pieces`).
`gattLongReadWrite_exact` puts the two together for a value written from its start.

The model takes the MTU as fixed (`payload_size` the same for sending and receiving), the
security check as passed and every request as accepted by the channel; a response is taken to be
the one the pending request asks for, which `gatt_cmd_dequeue` checks. `GATT_WRITE_NO_RSP`, a
command the server does not answer, and the other read types are not modelled.
-/

namespace BluetoothStack.Gatt

open Bytes Exchange

/-- `GATT_MAX_ATTR_LEN`: the longest attribute value. -/
def gattMaxAttrLen : Nat := 512
/-- `GATT_DEF_BLE_MTU_SIZE`: the ATT MTU of LE before an exchange, the smallest there is. -/
def gattDefBleMtuSize : Nat := 23
/-- `GATT_HDR_SIZE`: the opcode and handle of a Write Request. -/
def gattHdrSize : Nat := 3
/-- `GATT_WRITE_LONG_HDR_SIZE`: the opcode, handle and offset of a Prepare Write Request. -/
def gattWriteLongHdrSize : Nat := 5
/-- `GATT_PREP_WRITE_RSP_MIN_LEN`: the handle and offset of a Prepare Write Response. -/
def gattPrepWriteRspMinLen : Nat := 4

/-- `tGATT_EXEC_FLAG`. -/
inductive ExecFlag where
  | prepWriteCancel
  | prepWriteExec
deriving DecidableEq, Repr

/-- `tGATT_WRITE_TYPE`, the two writes the server answers. -/
inductive WriteType where
  | write
  | writePrepare
deriving DecidableEq, Repr

/-- `tGATT_VALUE`: a handle, an offset, a length and the bytes of the `value` array. -/
structure GattValue where
  handle : Nat
  offset : Nat
  len : Nat
  value : List UInt8
deriving DecidableEq, Repr

/-- The requests of a read by handle and of a write, as `attp_send_cl_msg` sends them. -/
inductive ClReq where
  | read (handle : Nat)
  | readBlob (handle offset : Nat)
  | write (handle : Nat) (value : List UInt8)
  | prepareWrite (handle offset : Nat) (value : List UInt8)
  | execWrite (flag : ExecFlag)
deriving DecidableEq, Repr

/-- The responses to the requests of a write, by opcode, with the bytes after the opcode. -/
inductive WriteRsp where
  | write
  | prepareWrite (data : List UInt8)
  | execWrite
deriving DecidableEq, Repr

/-- The bytes after the opcode of a response to a write. -/
def WriteRsp.data : WriteRsp → List UInt8
  | .prepareWrite data => data
  | _ => []

/-- `tGATT_CL_COMPLETE` as `gatt_end_operation` hands it to the application after a read or a
write: the status and `att_value`. -/
structure ClComplete where
  status : GattStatus
  attValue : GattValue
deriving DecidableEq, Repr

/-! ## A read by handle -/

/-- The fields of `tGATT_CLCB` a read by handle uses. `p_attr_buf` is the buffer the value is
gathered in; the first response allocates it. -/
structure ReadClcb where
  sHandle : Nat
  counter : Nat
  readReqCurrentMtu : Nat
  attrBuf : Option (List UInt8)
deriving DecidableEq, Repr

/-- `gatt_act_read` for `GATT_READ_BY_HANDLE`: a Read Request while nothing has been read, a Read
Blob Request from `offset` after. -/
def gattActRead (c : ReadClcb) (offset : Nat) : ClReq :=
  if c.counter = 0 then .read c.sHandle else .readBlob c.sHandle offset

/-- `GATTC_Read` of type `GATT_READ_BY_HANDLE`, then `gatt_act_read` from `counter` once the
security check has passed. -/
def gattcRead (payloadSize handle : Nat) : ReadClcb × ClReq :=
  let c : ReadClcb := ⟨handle, 0, payloadSize, none⟩
  (c, gattActRead c c.counter)

/-- `gatt_end_operation` for a read: `att_value` carries the handle, `counter` as the length and
the first `counter` bytes of `p_data`, zeros where there is no `p_data`. -/
def gattEndRead (c : ReadClcb) (status : GattStatus) (pData : Option (List UInt8)) :
    ClComplete :=
  ⟨status, ⟨c.sHandle, 0, c.counter,
    match pData with
    | some d => d.take c.counter
    | none => List.replicate c.counter 0⟩⟩

/-- `gatt_process_read_rsp` for a read by handle: the response's bytes go into the buffer at
`counter`, cut at `GATT_MAX_ATTR_LEN`; a response that fills the MTU asks for the rest with a Read
Blob Request, any other ends the read with the bytes gathered. -/
def gattProcessReadRsp (payloadSize : Nat) (c : ReadClcb) (p : List UInt8) :
    Next ReadClcb ClReq ClComplete :=
  let offset := c.counter
  let buf := c.attrBuf.getD (List.replicate gattMaxAttrLen 0)
  if offset < gattMaxAttrLen then
    let len := if p.length + offset > gattMaxAttrLen then gattMaxAttrLen - offset else p.length
    let buf := store offset (p.take len) buf
    -- a response to a request sent under another MTU is full at either size
    let (packetIsFull, mtu) : Bool × Nat :=
      if payloadSize = c.readReqCurrentMtu then (decide (len = payloadSize - 1), c.readReqCurrentMtu)
      else (decide (len = c.readReqCurrentMtu - 1 ∨ len = payloadSize - 1), payloadSize)
    let c := { c with counter := c.counter + len, attrBuf := some buf, readReqCurrentMtu := mtu }
    if packetIsFull && decide (len + offset < gattMaxAttrLen) then .send c (gattActRead c c.counter)
    else .done (gattEndRead c .success (some buf))
  else .done (gattEndRead { c with attrBuf := some buf } .noResources (some buf))

/-- `gatt_client_handle_server_rsp` on a response to a read by handle: one as long as the MTU
ends the read with `GATT_ERROR`; a Read or Read Blob Response goes to `gatt_process_read_rsp`. -/
def gattClientHandleReadRsp (payloadSize : Nat) (c : ReadClcb) (p : List UInt8) :
    Next ReadClcb ClReq ClComplete :=
  if p.length ≥ payloadSize then .done (gattEndRead c .error none)
  else gattProcessReadRsp payloadSize c p

/-! ## A write -/

/-- The fields of `tGATT_CLCB` a write uses. `p_attr_buf` holds the caller's `tGATT_VALUE`, whose
`offset` then says how far a long write has come. -/
structure WriteClcb where
  opSubtype : WriteType
  sHandle : Nat
  counter : Nat
  startOffset : Nat
  status : GattStatus
  attr : GattValue
deriving DecidableEq, Repr

/-- `GATTC_Write`: a Prepare Write of the caller keeps the caller's offset as `start_offset` and
goes through the value from its start. -/
def gattcWrite (type : WriteType) (pWrite : GattValue) : WriteClcb :=
  let c : WriteClcb := ⟨type, 0, 0, 0, .success, pWrite⟩
  if type = .writePrepare then
    { c with startOffset := pWrite.offset, attr := { pWrite with offset := 0 } }
  else c

/-- `gatt_send_prepare_write`: the next at most `payload_size - 5` bytes of the value from
`offset`, sent at that offset, moved by `start_offset` for a Prepare Write of the caller. -/
def gattSendPrepareWrite (payloadSize : Nat) (c : WriteClcb) : WriteClcb × ClReq :=
  let toSend := (c.attr.len + 65536 - c.attr.offset) % 65536
  let toSend :=
    if toSend > payloadSize - gattWriteLongHdrSize then payloadSize - gattWriteLongHdrSize
    else toSend
  let offset :=
    if c.opSubtype = .writePrepare then (c.attr.offset + c.startOffset) % 65536
    else c.attr.offset
  ({ c with sHandle := c.attr.handle, counter := toSend },
    .prepareWrite c.attr.handle offset (load c.attr.offset toSend c.attr.value))

/-- `gatt_act_write` for the two writes the server answers: a value that fits goes in a Write
Request, a longer one and a Prepare Write of the caller in Prepare Write Requests. -/
def gattActWrite (payloadSize : Nat) (c : WriteClcb) : WriteClcb × ClReq :=
  match c.opSubtype with
  | .write =>
    if c.attr.len ≤ payloadSize - gattHdrSize then
      ({ c with sHandle := c.attr.handle }, .write c.attr.handle (c.attr.value.take c.attr.len))
    else gattSendPrepareWrite payloadSize c
  | .writePrepare => gattSendPrepareWrite payloadSize c

/-- `gatt_check_write_long_terminate` on a Prepare Write Response: the new state, whether the
long write is over, and the flag of the Execute Write that it sends to end a `GATT_WRITE` (in the
model its caller sends it). An echo that differs from what was sent cancels the write; a good one
moves `offset` past the bytes it confirms. -/
def gattCheckWriteLongTerminate (c : WriteClcb) (rsp : GattValue) :
    WriteClcb × Bool × ExecFlag :=
  if rsp.handle ≠ c.attr.handle ∨ rsp.len ≠ c.counter ∨
      rsp.value.take rsp.len ≠ load c.attr.offset rsp.len c.attr.value then
    ({ c with status := .error }, true, .prepWriteCancel)
  else
    let offset := (c.attr.offset + rsp.len) % 65536
    ({ c with status := .success, attr := { c.attr with offset := offset } },
      decide (offset ≥ c.attr.len), .prepWriteExec)

/-- `gatt_send_queue_write_cancel`: the Execute Write Request with its flag. -/
def gattSendQueueWriteCancel (flag : ExecFlag) : ClReq := .execWrite flag

/-- `gatt_end_operation` for a write: `att_value` holds the handle alone, or for a Prepare Write
of the caller the value it is handed. -/
def gattEndWrite (c : WriteClcb) (status : GattStatus) (pData : Option GattValue) : ClComplete :=
  ⟨status, match c.opSubtype, pData with
    | .writePrepare, some v => v
    | _, _ => ⟨c.sHandle, 0, 0, []⟩⟩

/-- `gatt_process_prep_write_rsp`: the echoed handle, offset and bytes are checked; the write goes
on with the next Prepare Write, ends (a Prepare Write of the caller), or sends the Execute
Write that ends a `GATT_WRITE`. -/
def gattProcessPrepWriteRsp (payloadSize : Nat) (c : WriteClcb) (p : List UInt8) :
    Next WriteClcb ClReq ClComplete :=
  if p.length < gattPrepWriteRspMinLen then .done (gattEndWrite c .invalidPdu (some ⟨0, 0, 0, []⟩))
  else
    let value : GattValue := ⟨streamToUint16 p 0, streamToUint16 p 2, p.length - 4, p.drop 4⟩
    let (c, terminate, flag) := gattCheckWriteLongTerminate c value
    if !terminate then
      let (c, req) := gattSendPrepareWrite payloadSize c
      .send c req
    else if c.opSubtype = .writePrepare then .done (gattEndWrite c c.status (some value))
    else .send c (gattSendQueueWriteCancel flag)

/-- `gatt_client_handle_server_rsp` on a response to a write: one as long as the MTU ends the
write with `GATT_ERROR`; a Write Response ends it (`gatt_process_handle_rsp`), a Prepare Write
Response goes to `gatt_process_prep_write_rsp` and an Execute Write Response ends the write with
the status the checks left. -/
def gattClientHandleWriteRsp (payloadSize : Nat) (c : WriteClcb) (rsp : WriteRsp) :
    Next WriteClcb ClReq ClComplete :=
  if rsp.data.length ≥ payloadSize then .done (gattEndWrite c .error none)
  else
    match rsp with
    | .write => .done (gattEndWrite c .success none)
    | .prepareWrite p => gattProcessPrepWriteRsp payloadSize c p
    | .execWrite => .done (gattEndWrite c c.status none)

/-! ## The servers and the exchanges -/

/-- A server holding the value `v`, answering a Read Request and a Read Blob Request from offset
`o` with `v[o, min(|v|, o + mtu - 1))`, as much of the value as a response holds. -/
def blobServer (payloadSize : Nat) (v : List UInt8) : ClReq → List UInt8
  | .read _ => v.take (payloadSize - 1)
  | .readBlob _ o => (v.drop o).take (payloadSize - 1)
  | _ => []

/-- A read by handle against `blobServer`, for at most `fuel` responses. -/
def readSession (payloadSize fuel handle : Nat) (v : List UInt8) :
    List ClReq × Option ClComplete :=
  run (blobServer payloadSize v) (gattClientHandleReadRsp payloadSize) fuel
    (gattcRead payloadSize handle).1 (gattcRead payloadSize handle).2

/-- A server that answers each Prepare Write Request with its handle, offset and bytes, and a
Write or an Execute Write Request with its response. -/
def echoServer : ClReq → WriteRsp
  | .prepareWrite h o d => .prepareWrite (uint16ToStream h ++ uint16ToStream o ++ d)
  | .execWrite _ => .execWrite
  | _ => .write

/-- A write of the caller's value against `echoServer`, for at most `fuel` responses. -/
def writeSession (payloadSize fuel : Nat) (type : WriteType) (value : GattValue) :
    List ClReq × Option ClComplete :=
  run echoServer (gattClientHandleWriteRsp payloadSize) fuel
    (gattActWrite payloadSize (gattcWrite type value)).1
    (gattActWrite payloadSize (gattcWrite type value)).2

/-- `v` cut into pieces of `k` bytes from offset `off` on, each with the offset it starts at: all
of `k` bytes but the last, which holds the rest (the whole of `v` if it is no longer than `k`, so
an empty `v` is one empty piece). -/
def writePieces (k off : Nat) (v : List UInt8) : List (Nat × List UInt8) :=
  if v.length ≤ k ∨ k = 0 then [(off, v)]
  else (off, v.take k) :: writePieces k (off + k) (v.drop k)
termination_by v.length
decreasing_by
  simp only [List.length_drop]
  omega

/-! ## The long read -/

/-- Reading on from `k` bytes of `v` with the next piece of it gives `k` more of `v`. -/
theorem take_add_length_take {α : Type*} (v : List α) (k n : Nat) :
    v.take (k + ((v.drop k).take n).length) = v.take k ++ (v.drop k).take n := by
  rw [List.take_add, ← List.prefix_iff_eq_take.1 (List.take_prefix n (v.drop k))]

/-- The request `gatt_act_read` sends from `counter` asks `blobServer` for the rest of the value
from there. -/
theorem blobServer_gattActRead (payloadSize : Nat) (v : List UInt8) (c : ReadClcb) :
    blobServer payloadSize v (gattActRead c c.counter) =
      (v.drop c.counter).take (payloadSize - 1) := by
  unfold gattActRead
  split
  · rename_i h
    simp [blobServer, h]
  · rfl

/-- A response shorter than the MTU goes to `gatt_process_read_rsp`. -/
theorem gattClientHandleReadRsp_of_lt {payloadSize : Nat} {c : ReadClcb} {p : List UInt8}
    (h : p.length < payloadSize) :
    gattClientHandleReadRsp payloadSize c p = gattProcessReadRsp payloadSize c p := by
  rw [gattClientHandleReadRsp, if_neg (by omega)]

/-- `gatt_process_read_rsp` under the MTU of the request, on a response that fits the buffer: the
bytes are gathered after the first `counter`, and the read goes on exactly when the response
fills the MTU and the buffer has room left. -/
theorem gattProcessReadRsp_of_fits {payloadSize : Nat} {c : ReadClcb} {p : List UInt8}
    (hmtu : c.readReqCurrentMtu = payloadSize) (hlt : c.counter < gattMaxAttrLen)
    (hfit : c.counter + p.length ≤ gattMaxAttrLen) :
    gattProcessReadRsp payloadSize c p =
      let buf := store c.counter p (c.attrBuf.getD (List.replicate gattMaxAttrLen 0))
      let c' := { c with counter := c.counter + p.length, attrBuf := some buf }
      if p.length = payloadSize - 1 ∧ p.length + c.counter < gattMaxAttrLen then
        .send c' (gattActRead c' c'.counter)
      else .done (gattEndRead c' .success (some buf)) := by
  have hlen : ¬ p.length + c.counter > gattMaxAttrLen := by omega
  simp only [gattProcessReadRsp, if_pos hlt, if_neg hlen, List.take_length, if_pos hmtu.symm,
    Bool.and_eq_true, decide_eq_true_eq]

/-- Where a long read against `blobServer` stands between two responses: the first `counter`
bytes of `v` are in the buffer, and the request for the rest is pending. -/
structure ReadProgress (payloadSize handle : Nat) (v : List UInt8) (c : ReadClcb) (req : ClReq) :
    Prop where
  sHandle : c.sHandle = handle
  mtu : c.readReqCurrentMtu = payloadSize
  counter_le : c.counter ≤ v.length
  counter_lt : c.counter < gattMaxAttrLen
  buf_length : (c.attrBuf.getD (List.replicate gattMaxAttrLen 0)).length = gattMaxAttrLen
  gathered : load 0 c.counter (c.attrBuf.getD (List.replicate gattMaxAttrLen 0)) = v.take c.counter
  pending : req = gattActRead c c.counter

/-- A read by handle starts with nothing gathered and a Read Request pending. -/
theorem readProgress_gattcRead (payloadSize handle : Nat) (v : List UInt8) :
    ReadProgress payloadSize handle v (gattcRead payloadSize handle).1
      (gattcRead payloadSize handle).2 where
  sHandle := rfl
  mtu := rfl
  counter_le := Nat.zero_le _
  counter_lt := show 0 < 512 by decide
  buf_length := by simp [gattcRead]
  gathered := by simp [gattcRead, load]
  pending := rfl

section ReadStep

variable {payloadSize handle : Nat} {v : List UInt8} {c : ReadClcb} {req : ClReq}

/-- The client's answer to `blobServer` in the middle of a long read: the rest of `v` from
`counter`, cut at the MTU, gathered by `gatt_process_read_rsp`. -/
theorem ReadProgress.answer (hp : ReadProgress payloadSize handle v c req)
    (hmtu : 2 ≤ payloadSize) :
    gattClientHandleReadRsp payloadSize c (blobServer payloadSize v req) =
      gattProcessReadRsp payloadSize c ((v.drop c.counter).take (payloadSize - 1)) ∧
    ((v.drop c.counter).take (payloadSize - 1)).length =
      min (payloadSize - 1) (v.length - c.counter) := by
  have hlen : ((v.drop c.counter).take (payloadSize - 1)).length =
      min (payloadSize - 1) (v.length - c.counter) := by simp
  refine ⟨?_, hlen⟩
  rw [hp.pending, blobServer_gattActRead, gattClientHandleReadRsp_of_lt (by omega)]

/-- After a response the buffer holds the bytes of `v` up to the end of the response. -/
theorem ReadProgress.gathered_next (hp : ReadProgress payloadSize handle v c req)
    (hv : v.length ≤ gattMaxAttrLen) :
    load 0 (c.counter + ((v.drop c.counter).take (payloadSize - 1)).length)
        (store c.counter ((v.drop c.counter).take (payloadSize - 1))
          (c.attrBuf.getD (List.replicate gattMaxAttrLen 0))) =
      v.take (c.counter + ((v.drop c.counter).take (payloadSize - 1)).length) := by
  have hlen : ((v.drop c.counter).take (payloadSize - 1)).length ≤ v.length - c.counter := by
    simp
  have := hp.counter_le
  rw [take_add_length_take, ← hp.gathered, ← load_store_append (by rw [hp.buf_length]; omega),
    Nat.zero_add]

/-- A response on which the read goes on keeps the progress and gathers `mtu - 1` more bytes. -/
theorem ReadProgress.send (hp : ReadProgress payloadSize handle v c req)
    (hv : v.length ≤ gattMaxAttrLen) (hmtu : 2 ≤ payloadSize) {c' : ReadClcb} {req' : ClReq}
    (h : gattClientHandleReadRsp payloadSize c (blobServer payloadSize v req) = .send c' req') :
    ReadProgress payloadSize handle v c' req' ∧
      (v.length - c'.counter) / (payloadSize - 1) < (v.length - c.counter) / (payloadSize - 1) := by
  obtain ⟨hans, hlen⟩ := hp.answer hmtu
  rw [hans, gattProcessReadRsp_of_fits hp.mtu hp.counter_lt (by have := hp.counter_le; omega)]
    at h
  dsimp only at h
  split at h
  · rename_i hfull
    cases h
    refine ⟨⟨hp.sHandle, hp.mtu, by dsimp only; omega, by dsimp only; omega,
      by simp [hp.buf_length], hp.gathered_next hv, rfl⟩, ?_⟩
    -- each full response takes one MTU's worth off what is left
    dsimp only
    have hrest : v.length - c.counter =
        v.length - (c.counter + ((v.drop c.counter).take (payloadSize - 1)).length) +
          (payloadSize - 1) := by omega
    rw [hrest, Nat.add_div_right _ (by omega)]
    omega
  · cases h

/-- A response on which the read finishes delivers the whole of `v`. -/
theorem ReadProgress.done (hp : ReadProgress payloadSize handle v c req)
    (hv : v.length ≤ gattMaxAttrLen) (hmtu : 2 ≤ payloadSize) {a : ClComplete}
    (h : gattClientHandleReadRsp payloadSize c (blobServer payloadSize v req) = .done a) :
    a = ⟨.success, ⟨handle, 0, v.length, v⟩⟩ := by
  obtain ⟨hans, hlen⟩ := hp.answer hmtu
  rw [hans, gattProcessReadRsp_of_fits hp.mtu hp.counter_lt (by have := hp.counter_le; omega)]
    at h
  dsimp only at h
  split at h
  · cases h
  · rename_i hnot
    cases h
    -- a response short of the MTU, or one that fills the buffer, reaches the end of `v`
    have hall : c.counter + ((v.drop c.counter).take (payloadSize - 1)).length = v.length := by
      have := hp.counter_le
      omega
    have hbuf := hp.gathered_next hv
    rw [hall, List.take_length] at hbuf
    have hval : (store c.counter ((v.drop c.counter).take (payloadSize - 1))
        (c.attrBuf.getD (List.replicate gattMaxAttrLen 0))).take v.length = v := by
      simpa [load] using hbuf
    simp only [gattEndRead, hp.sHandle, hall, hval]

end ReadStep

/-- A long read by handle against a server holding `v` delivers exactly `v`, within one response
more than the number of full responses. -/
theorem readSession_delivers (payloadSize handle : Nat) (v : List UInt8)
    (hv : v.length ≤ gattMaxAttrLen) (hmtu : 2 ≤ payloadSize) (fuel : Nat)
    (hfuel : v.length / (payloadSize - 1) < fuel) :
    (readSession payloadSize fuel handle v).2 = some ⟨.success, ⟨handle, 0, v.length, v⟩⟩ := by
  obtain ⟨a, ha, rfl⟩ := run_finishes (ReadProgress payloadSize handle v)
    (· = ⟨.success, ⟨handle, 0, v.length, v⟩⟩)
    (fun c _ => (v.length - c.counter) / (payloadSize - 1))
    (fun _ _ _ _ hp h => hp.send hv hmtu h) (fun _ _ _ hp h => hp.done hv hmtu h)
    fuel _ _ (readProgress_gattcRead payloadSize handle v) (by simpa [gattcRead] using hfuel)
  exact ha

/-! ## The pieces of a long write -/

section Pieces

variable {k : Nat}

/-- The pieces put back together are the value. -/
theorem flatten_writePieces (k off : Nat) (v : List UInt8) :
    ((writePieces k off v).map Prod.snd).flatten = v := by
  induction off, v using writePieces.induct k with
  | case1 off v h =>
    rw [writePieces, if_pos h]
    simp
  | case2 off v h ih =>
    rw [writePieces, if_neg h, List.map_cons, List.flatten_cons, ih, List.take_append_drop]

/-- Each piece starts inside the value and holds the bytes of the value at its offset. -/
theorem snd_eq_of_mem_writePieces {off : Nat} {v : List UInt8} {p : Nat × List UInt8}
    (hp : p ∈ writePieces k off v) :
    off ≤ p.1 ∧ p.1 ≤ off + v.length ∧ p.2 = (v.drop (p.1 - off)).take p.2.length := by
  induction off, v using writePieces.induct k with
  | case1 off v h =>
    rw [writePieces, if_pos h, List.mem_singleton] at hp
    subst hp
    simp
  | case2 off v h ih =>
    rw [writePieces, if_neg h, List.mem_cons] at hp
    rcases hp with rfl | hp
    · exact ⟨Nat.le_refl _, by omega, by simp⟩
    · obtain ⟨hle, hend, heq⟩ := ih hp
      rw [List.length_drop] at hend
      refine ⟨by omega, by omega, heq.trans ?_⟩
      rw [List.drop_drop]
      congr 2
      omega

/-- No piece is longer than `k`. -/
theorem length_le_of_mem_writePieces (hk : 0 < k) {off : Nat} {v : List UInt8}
    {p : Nat × List UInt8} (hp : p ∈ writePieces k off v) : p.2.length ≤ k := by
  induction off, v using writePieces.induct k with
  | case1 off v h =>
    rw [writePieces, if_pos h, List.mem_singleton] at hp
    subst hp
    show v.length ≤ k
    omega
  | case2 off v h ih =>
    rw [writePieces, if_neg h, List.mem_cons] at hp
    rcases hp with rfl | hp
    · simp
    · exact ih hp

/-- There are at most `|v| / k + 1` pieces. -/
theorem length_writePieces_le (hk : 0 < k) (off : Nat) (v : List UInt8) :
    (writePieces k off v).length ≤ v.length / k + 1 := by
  induction off, v using writePieces.induct k with
  | case1 off v h =>
    rw [writePieces, if_pos h]
    simp
  | case2 off v h ih =>
    rw [writePieces, if_neg h, List.length_cons]
    rw [List.length_drop] at ih
    rw [Nat.div_eq_sub_div hk (by omega)]
    omega

end Pieces

/-! ## The long write -/

/-- The handle and offset of an echoed Prepare Write, read back from the response. -/
theorem streamToUint16_echo (a b : Nat) (d : List UInt8) :
    streamToUint16 (uint16ToStream a ++ uint16ToStream b ++ d) 0 = a % 65536 ∧
      streamToUint16 (uint16ToStream a ++ uint16ToStream b ++ d) 2 = b % 65536 := by
  constructor <;> simp [streamToUint16, load, uint16ToStream, leValue_leBytes, List.take_left']

section WriteStep

variable {payloadSize handle off : Nat} {v : List UInt8} {c : WriteClcb}

/-- `gatt_send_prepare_write` partway through a value of at most `GATT_MAX_ATTR_LEN` bytes: the
next `min (|v| - off) (mtu - 5)` bytes, at `off` moved by `start_offset` (which a `GATT_WRITE`
leaves at 0). -/
theorem gattSendPrepareWrite_eq (hattr : c.attr = ⟨handle, off, v.length, v⟩)
    (hoff : off ≤ v.length) (hv : v.length ≤ gattMaxAttrLen)
    (hstart : c.opSubtype = .write → c.startOffset = 0) {n : Nat}
    (hn : n = min (v.length - off) (payloadSize - gattWriteLongHdrSize)) :
    gattSendPrepareWrite payloadSize c =
      ({ c with sHandle := handle, counter := n },
        .prepareWrite handle ((off + c.startOffset) % 65536) ((v.drop off).take n)) := by
  have hleft : (v.length + 65536 - off) % 65536 = v.length - off := by
    unfold gattMaxAttrLen at hv
    rw [show v.length + 65536 - off = v.length - off + 65536 by omega, Nat.add_mod_right,
      Nat.mod_eq_of_lt (by omega)]
  have hmin : (if v.length - off > payloadSize - gattWriteLongHdrSize then
      payloadSize - gattWriteLongHdrSize else v.length - off) =
      min (v.length - off) (payloadSize - gattWriteLongHdrSize) := by
    split <;> omega
  have hpdu : (if c.opSubtype = .writePrepare then (off + c.startOffset) % 65536 else off) =
      (off + c.startOffset) % 65536 := by
    cases hsub : c.opSubtype with
    | write =>
      unfold gattMaxAttrLen at hv
      rw [hstart hsub, Nat.add_zero, Nat.mod_eq_of_lt (by omega)]
      exact ite_self off
    | writePrepare => rfl
  simp only [gattSendPrepareWrite, hattr, hleft, hmin, hpdu, ← hn]
  rfl

/-- The client's answer to the echo of a Prepare Write partway through the value: the echo
matches what was sent, so `offset` moves past the piece, and the write goes on with the next
Prepare Write, or at the end of the value finishes (a Prepare Write of the caller) or sends the
Execute Write (a `GATT_WRITE`). -/
theorem gattClientHandleWriteRsp_echo (hattr : c.attr = ⟨handle, off, v.length, v⟩)
    (hoff : off ≤ v.length) (hv : v.length ≤ gattMaxAttrLen) (hhandle : handle < 65536)
    (hmtu : 6 ≤ payloadSize) (hstart : c.opSubtype = .write → c.startOffset = 0) :
    let n := min (v.length - off) (payloadSize - gattWriteLongHdrSize)
    let c' : WriteClcb := { c with sHandle := handle, counter := n, status := .success,
                                   attr := ⟨handle, off + n, v.length, v⟩ }
    gattClientHandleWriteRsp payloadSize (gattSendPrepareWrite payloadSize c).1
        (echoServer (gattSendPrepareWrite payloadSize c).2) =
      if off + n < v.length then
        .send (gattSendPrepareWrite payloadSize c').1 (gattSendPrepareWrite payloadSize c').2
      else if c.opSubtype = .writePrepare then
        .done (gattEndWrite c' .success
          (some ⟨handle, (off + c.startOffset) % 65536, n, (v.drop off).take n⟩))
      else .send c' (.execWrite .prepWriteExec) := by
  intro n c'
  have hnk : n + 5 ≤ payloadSize := by
    have : n ≤ payloadSize - gattWriteLongHdrSize := Nat.min_le_right _ _
    unfold gattWriteLongHdrSize at this
    omega
  have hn : ((v.drop off).take n).length = n := by simp [n]
  obtain ⟨hh, ho⟩ := streamToUint16_echo handle ((off + c.startOffset) % 65536)
    ((v.drop off).take n)
  -- the echo: its length, and the bytes after its handle and offset
  have hlen : (uint16ToStream handle ++ uint16ToStream ((off + c.startOffset) % 65536) ++
      (v.drop off).take n).length = n + 4 := by simp [hn]; omega
  have hdrop : (uint16ToStream handle ++ uint16ToStream ((off + c.startOffset) % 65536) ++
      (v.drop off).take n).drop 4 = (v.drop off).take n :=
    List.drop_left' (by simp [uint16ToStream])
  have hcheck : gattCheckWriteLongTerminate { c with sHandle := handle, counter := n }
      ⟨handle, (off + c.startOffset) % 65536 % 65536, n, (v.drop off).take n⟩ =
      (c', decide (off + n ≥ v.length), .prepWriteExec) := by
    have hfit : (off + n) % 65536 = off + n := by
      unfold gattMaxAttrLen at hv
      exact Nat.mod_eq_of_lt (by omega)
    simp [gattCheckWriteLongTerminate, hattr, load, List.take_take, hfit, c']
  have hshort : ¬ n + 4 ≥ payloadSize := by omega
  have hmin : ¬ n + 4 < gattPrepWriteRspMinLen := by unfold gattPrepWriteRspMinLen; omega
  rw [gattSendPrepareWrite_eq (n := n) hattr hoff hv hstart rfl]
  simp only [echoServer, gattClientHandleWriteRsp, WriteRsp.data, hlen, if_neg hshort]
  simp only [gattProcessPrepWriteRsp, hlen, if_neg hmin, hh, ho, Nat.mod_eq_of_lt hhandle,
    Nat.add_sub_cancel, hdrop]
  rw [hcheck]
  by_cases hend : off + n < v.length
  · simp [hend]
  · simp [hend, gattSendQueueWriteCancel, c']

/-- The Execute Write Response ends the write with the status the checks left. -/
theorem gattClientHandleWriteRsp_execWrite (hmtu : 0 < payloadSize) (flag : ExecFlag) :
    gattClientHandleWriteRsp payloadSize c (echoServer (.execWrite flag)) =
      .done (gattEndWrite c c.status none) := by
  have hshort : ¬ (echoServer (.execWrite flag)).data.length ≥ payloadSize := by
    simp only [echoServer, WriteRsp.data, List.length_nil]
    omega
  unfold gattClientHandleWriteRsp
  rw [if_neg hshort]
  rfl

end WriteStep

/-- A long write against `echoServer` from offset `off` of the value on: the Prepare Writes of the
pieces of the rest of the value, at their offsets, then for a `GATT_WRITE` one Execute Write, and
nothing after; the write ends with `GATT_SUCCESS`. By induction on the pieces, one echoed Prepare
Write each. -/
theorem writeRun_pieces {payloadSize handle : Nat} {v : List UInt8}
    (hv : v.length ≤ gattMaxAttrLen) (hhandle : handle < 65536) (hmtu : 6 ≤ payloadSize) :
    ∀ off w (c : WriteClcb) (fuel : Nat), w = v.drop off → off ≤ v.length →
      c.attr = ⟨handle, off, v.length, v⟩ → (c.opSubtype = .write → c.startOffset = 0) →
      (writePieces (payloadSize - gattWriteLongHdrSize) off w).length +
          (if c.opSubtype = .write then 1 else 0) ≤ fuel →
      (run echoServer (gattClientHandleWriteRsp payloadSize) fuel
          (gattSendPrepareWrite payloadSize c).1 (gattSendPrepareWrite payloadSize c).2).1 =
        (writePieces (payloadSize - gattWriteLongHdrSize) off w).map
            (fun p => ClReq.prepareWrite handle ((p.1 + c.startOffset) % 65536) p.2) ++
          (if c.opSubtype = .write then [.execWrite .prepWriteExec] else []) ∧
      (run echoServer (gattClientHandleWriteRsp payloadSize) fuel
          (gattSendPrepareWrite payloadSize c).1 (gattSendPrepareWrite payloadSize c).2).2.map
          ClComplete.status = some .success := by
  have hk : 0 < payloadSize - gattWriteLongHdrSize := by unfold gattWriteLongHdrSize; omega
  intro off w
  induction off, w using writePieces.induct (payloadSize - gattWriteLongHdrSize) with
  | case1 off w hlast =>
    -- the last piece: the echo ends the write or brings the Execute Write
    intro c fuel hw hoff hattr hstart hfuel
    subst hw
    have hn : min (v.length - off) (payloadSize - gattWriteLongHdrSize) = v.length - off := by
      simp only [List.length_drop] at hlast
      omega
    have hecho := gattClientHandleWriteRsp_echo hattr hoff hv hhandle hmtu hstart
    dsimp only at hecho
    rw [hn, if_neg (by omega)] at hecho
    have hsent := gattSendPrepareWrite_eq hattr hoff hv hstart hn.symm
    rw [writePieces, if_pos hlast] at hfuel ⊢
    rw [List.length_singleton] at hfuel
    obtain ⟨fuel, rfl⟩ : ∃ f, fuel = f + 1 := ⟨fuel - 1, by omega⟩
    cases hsub : c.opSubtype with
    | write =>
      rw [hsub, if_neg (by decide)] at hecho
      rw [hsub, if_pos rfl] at hfuel
      obtain ⟨fuel, rfl⟩ : ∃ f, fuel = f + 1 := ⟨fuel - 1, by omega⟩
      rw [run_send hecho, run_done (gattClientHandleWriteRsp_execWrite (by omega) _), hsent]
      simp [gattEndWrite]
    | writePrepare =>
      rw [hsub, if_pos rfl] at hecho
      rw [run_done hecho, hsent]
      simp [gattEndWrite]
  | case2 off w hmore ih =>
    -- a full piece: the echo brings the Prepare Write of the next one
    intro c fuel hw hoff hattr hstart hfuel
    subst hw
    have hn : min (v.length - off) (payloadSize - gattWriteLongHdrSize) =
        payloadSize - gattWriteLongHdrSize := by
      simp only [List.length_drop] at hmore
      omega
    have hecho := gattClientHandleWriteRsp_echo hattr hoff hv hhandle hmtu hstart
    dsimp only at hecho
    rw [hn, if_pos (by simp only [List.length_drop] at hmore; omega)] at hecho
    have hsent := gattSendPrepareWrite_eq hattr hoff hv hstart hn.symm
    rw [writePieces, if_neg hmore, List.length_cons] at hfuel
    obtain ⟨fuel, rfl⟩ : ∃ f, fuel = f + 1 := ⟨fuel - 1, by omega⟩
    obtain ⟨ih1, ih2⟩ := ih ⟨c.opSubtype, handle, payloadSize - gattWriteLongHdrSize,
        c.startOffset, .success, ⟨handle, off + (payloadSize - gattWriteLongHdrSize), v.length, v⟩⟩
      fuel (by rw [List.drop_drop, Nat.add_comm]) (by simp only [List.length_drop] at hmore; omega)
      rfl hstart (by dsimp only; omega)
    rw [run_send hecho, hsent, writePieces, if_neg hmore]
    dsimp only at ih1 ih2
    rw [ih1, ih2]
    simp

/-- `GATTC_Write` of a `GATT_WRITE` keeps the caller's value as it is. -/
theorem gattcWrite_write (value : GattValue) :
    gattcWrite .write value = ⟨.write, 0, 0, 0, .success, value⟩ := rfl

/-- `GATTC_Write` of a `GATT_WRITE_PREPARE` moves the caller's offset to `start_offset`. -/
theorem gattcWrite_writePrepare (value : GattValue) :
    gattcWrite .writePrepare value =
      ⟨.writePrepare, 0, 0, value.offset, .success, { value with offset := 0 }⟩ := rfl

/-- A long write against a server that echoes each Prepare Write: the Prepare Writes carry the
pieces of `v` at their offsets (moved by the caller's offset for a Prepare Write of the caller),
a `GATT_WRITE` then sends one Execute Write, and the write ends with `GATT_SUCCESS`. -/
theorem writeSession_pieces (payloadSize handle start : Nat) (type : WriteType) (v : List UInt8)
    (hv : v.length ≤ gattMaxAttrLen) (hhandle : handle < 65536) (hmtu : 6 ≤ payloadSize)
    (hlong : type = .write → payloadSize - gattHdrSize < v.length ∧ start = 0) (fuel : Nat)
    (hfuel : v.length / (payloadSize - gattWriteLongHdrSize) + 2 ≤ fuel) :
    (writeSession payloadSize fuel type ⟨handle, start, v.length, v⟩).1 =
        (writePieces (payloadSize - gattWriteLongHdrSize) 0 v).map
            (fun p => ClReq.prepareWrite handle ((p.1 + start) % 65536) p.2) ++
          (if type = .write then [.execWrite .prepWriteExec] else []) ∧
      (writeSession payloadSize fuel type ⟨handle, start, v.length, v⟩).2.map ClComplete.status =
        some .success := by
  have hk : 0 < payloadSize - gattWriteLongHdrSize := by unfold gattWriteLongHdrSize; omega
  have hcount := length_writePieces_le hk 0 v
  cases type with
  | write =>
    obtain ⟨hlong, rfl⟩ := hlong rfl
    -- too long for a Write Request, the value goes out in Prepare Writes
    have hact : gattActWrite payloadSize (gattcWrite .write ⟨handle, 0, v.length, v⟩) =
        gattSendPrepareWrite payloadSize ⟨.write, 0, 0, 0, .success, ⟨handle, 0, v.length, v⟩⟩ := by
      rw [gattcWrite_write]
      simp only [gattActWrite]
      rw [if_neg (by omega)]
    unfold writeSession
    rw [hact]
    exact writeRun_pieces hv hhandle hmtu 0 v _ fuel rfl (Nat.zero_le _) rfl (fun _ => rfl)
      (by simp only [if_pos]; omega)
  | writePrepare =>
    unfold writeSession
    rw [gattcWrite_writePrepare]
    exact writeRun_pieces hv hhandle hmtu 0 v _ fuel rfl (Nat.zero_le _) rfl
      (fun h => nomatch h) (by simp only [reduceCtorEq, if_false]; omega)

/-- The long read and the long write reproduce a value exactly. For a fixed MTU of at least
`GATT_DEF_BLE_MTU_SIZE` and a value `v` of at most `GATT_MAX_ATTR_LEN` bytes: a read by handle
against a server holding `v` finishes and delivers `v`; and a `GATT_WRITE` too long for a Write
Request, or a `GATT_WRITE_PREPARE`, of `v` against a server that echoes each Prepare Write sends
Prepare Writes whose offsets and bytes cut `v` in order into pieces of at most `mtu - 5` bytes,
then one Execute Write for the `GATT_WRITE`, and stops with `GATT_SUCCESS`. -/
theorem gattLongReadWrite_exact (payloadSize : Nat) (hmtu : gattDefBleMtuSize ≤ payloadSize)
    (handle : Nat) (hhandle : handle < 65536) (v : List UInt8) (hv : v.length ≤ gattMaxAttrLen) :
    (∀ fuel, v.length / (payloadSize - 1) < fuel →
      (readSession payloadSize fuel handle v).2 = some ⟨.success, ⟨handle, 0, v.length, v⟩⟩) ∧
    ((writePieces (payloadSize - gattWriteLongHdrSize) 0 v).map Prod.snd).flatten = v ∧
    (∀ p ∈ writePieces (payloadSize - gattWriteLongHdrSize) 0 v,
      p.2 = (v.drop p.1).take p.2.length ∧ p.2.length ≤ payloadSize - gattWriteLongHdrSize) ∧
    ∀ (type : WriteType) (fuel : Nat), (type = .write → payloadSize - gattHdrSize < v.length) →
      v.length / (payloadSize - gattWriteLongHdrSize) + 2 ≤ fuel →
      (writeSession payloadSize fuel type ⟨handle, 0, v.length, v⟩).1 =
          (writePieces (payloadSize - gattWriteLongHdrSize) 0 v).map
              (fun p => ClReq.prepareWrite handle p.1 p.2) ++
            (if type = .write then [.execWrite .prepWriteExec] else []) ∧
        (writeSession payloadSize fuel type ⟨handle, 0, v.length, v⟩).2.map ClComplete.status =
          some .success := by
  have hmtu' : 6 ≤ payloadSize := by unfold gattDefBleMtuSize at hmtu; omega
  have hk : 0 < payloadSize - gattWriteLongHdrSize := by unfold gattWriteLongHdrSize; omega
  refine ⟨fun fuel hfuel => readSession_delivers payloadSize handle v hv (by omega) fuel hfuel,
    flatten_writePieces _ 0 v, fun p hp => ?_, fun type fuel hlong hfuel => ?_⟩
  · obtain ⟨-, -, heq⟩ := snd_eq_of_mem_writePieces hp
    exact ⟨by simpa using heq, length_le_of_mem_writePieces hk hp⟩
  · obtain ⟨htrace, hstatus⟩ := writeSession_pieces payloadSize handle 0 type v hv hhandle hmtu'
      (fun h => ⟨hlong h, rfl⟩) fuel hfuel
    refine ⟨htrace.trans ?_, hstatus⟩
    -- from the start of the value, each piece's offset is below `2 ^ 16`
    congr 1
    apply List.map_congr_left
    intro p hp
    have hend := (snd_eq_of_mem_writePieces hp).2.1
    unfold gattMaxAttrLen at hv
    rw [Nat.add_zero, Nat.mod_eq_of_lt (by omega)]

/-- At the smallest MTU, a value of 30 bytes: read back whole in two responses, and written in two
Prepare Writes of 18 and 12 bytes. -/
theorem gattLongReadWrite_exact_defaultMtu :
    gattDefBleMtuSize ≤ 23 ∧ 42 < 65536 ∧ (List.replicate 30 (7 : UInt8)).length ≤ gattMaxAttrLen ∧
    ((∀ fuel, (List.replicate 30 (7 : UInt8)).length / (23 - 1) < fuel →
      (readSession 23 fuel 42 (List.replicate 30 7)).2 =
        some ⟨.success, ⟨42, 0, (List.replicate 30 (7 : UInt8)).length, List.replicate 30 7⟩⟩) ∧
    ((writePieces (23 - gattWriteLongHdrSize) 0 (List.replicate 30 (7 : UInt8))).map
      Prod.snd).flatten = List.replicate 30 7 ∧
    (∀ p ∈ writePieces (23 - gattWriteLongHdrSize) 0 (List.replicate 30 (7 : UInt8)),
      p.2 = ((List.replicate 30 (7 : UInt8)).drop p.1).take p.2.length ∧
        p.2.length ≤ 23 - gattWriteLongHdrSize) ∧
    ∀ (type : WriteType) (fuel : Nat),
      (type = .write → 23 - gattHdrSize < (List.replicate 30 (7 : UInt8)).length) →
      (List.replicate 30 (7 : UInt8)).length / (23 - gattWriteLongHdrSize) + 2 ≤ fuel →
      (writeSession 23 fuel type ⟨42, 0, (List.replicate 30 (7 : UInt8)).length,
          List.replicate 30 7⟩).1 =
          (writePieces (23 - gattWriteLongHdrSize) 0 (List.replicate 30 (7 : UInt8))).map
              (fun p => ClReq.prepareWrite 42 p.1 p.2) ++
            (if type = .write then [.execWrite .prepWriteExec] else []) ∧
        (writeSession 23 fuel type ⟨42, 0, (List.replicate 30 (7 : UInt8)).length,
          List.replicate 30 7⟩).2.map ClComplete.status = some .success) :=
  ⟨by decide, by decide, by decide,
    gattLongReadWrite_exact 23 (by decide) 42 (by decide) (List.replicate 30 7) (by decide)⟩

end BluetoothStack.Gatt
