import BluetoothStack.Lib.Bytes

/-!
# Buffers and byte streams of the stack

`BT_HDR` (stack/include/bt_hdr.h) is the buffer every layer passes around: four 16-bit header
fields and the storage that follows them. A message occupies `data[offset, offset + len)`; the
bytes before `offset` are headroom into which a lower layer writes its own header.

The stream macros of stack/include/bt_types.h write and read integers in that storage.
`osi_malloc` (osi/src/allocator.cc) never returns `NULL` (it `CHECK`s) and hands out storage
with unspecified content; the model fills it with zeros, and no result of the development
depends on those bytes. A `fixed_queue_t` is a list, front first.
-/

namespace BluetoothStack

open Bytes

/-- `BT_HDR`: the header fields and the storage after them. -/
structure BtHdr where
  event : Nat
  len : Nat
  offset : Nat
  layerSpecific : Nat
  data : List UInt8
  deriving DecidableEq, Repr

/-- `BT_HDR_SIZE`, that is `sizeof(BT_HDR)`: four `uint16_t` fields. -/
def btHdrSize : Nat := 8

namespace BtHdr

/-- The message bytes `data[offset, offset + len)`. -/
def payload (b : BtHdr) : List UInt8 := load b.offset b.len b.data

/-- Step over the first `n` bytes of the message: `p_buf->offset += n; p_buf->len -= n`. -/
def skip (b : BtHdr) (n : Nat) : BtHdr := { b with offset := b.offset + n, len := b.len - n }

/-- `memcpy` of the message of `src` to the end of the message of `dst`, then
`dst->len += src->len`. -/
def appendPayload (dst src : BtHdr) : BtHdr :=
  { dst with
    data := store (dst.offset + dst.len) (load src.offset src.len src.data) dst.data
    len := dst.len + src.len }

/-- The message lies inside the storage. -/
def Fits (b : BtHdr) : Prop := b.offset + b.len ≤ b.data.length

instance (b : BtHdr) : Decidable b.Fits := inferInstanceAs (Decidable (_ ≤ _))

@[simp] theorem skip_offset (b : BtHdr) (n : Nat) : (b.skip n).offset = b.offset + n := rfl

@[simp] theorem skip_len (b : BtHdr) (n : Nat) : (b.skip n).len = b.len - n := rfl

@[simp] theorem skip_data (b : BtHdr) (n : Nat) : (b.skip n).data = b.data := rfl

@[simp] theorem appendPayload_offset (dst src : BtHdr) :
    (dst.appendPayload src).offset = dst.offset := rfl

@[simp] theorem appendPayload_len (dst src : BtHdr) :
    (dst.appendPayload src).len = dst.len + src.len := rfl

@[simp] theorem length_appendPayload_data (dst src : BtHdr) :
    (dst.appendPayload src).data.length = dst.data.length := by
  simp [appendPayload]

theorem length_payload {b : BtHdr} (h : b.Fits) : b.payload.length = b.len :=
  length_load_of_le h

theorem payload_skip (b : BtHdr) (n : Nat) : (b.skip n).payload = b.payload.drop n := by
  simp only [payload, skip, drop_load]

theorem Fits.skip {b : BtHdr} {n : Nat} (h : b.Fits) (hn : n ≤ b.len) : (b.skip n).Fits := by
  unfold Fits at h ⊢
  simp only [skip_offset, skip_len, skip_data]
  omega

/-- Appending a message to one with room after it: the result holds both, one after the other. -/
theorem payload_appendPayload {dst src : BtHdr} (hroom : dst.offset + dst.len + src.len ≤ dst.data.length)
    (hsrc : src.Fits) : (dst.appendPayload src).payload = dst.payload ++ src.payload := by
  have hlen := length_payload hsrc
  have happ : load dst.offset (dst.len + src.payload.length)
      (store (dst.offset + dst.len) src.payload dst.data) = dst.payload ++ src.payload :=
    load_store_append (by omega)
  rw [hlen] at happ
  exact happ

end BtHdr

/-- `osi_malloc(size)` used as a `BT_HDR`: zero header fields and `size - BT_HDR_SIZE` bytes
of storage. -/
def osiMallocBuf (size : Nat) : BtHdr :=
  ⟨0, 0, 0, 0, List.replicate (size - btHdrSize) 0⟩

/-- `UINT16_TO_STREAM`: the low byte, then bits 8 to 15. -/
def uint16ToStream (v : Nat) : List UInt8 := leBytes 2 v

@[simp] theorem length_uint16ToStream (v : Nat) : (uint16ToStream v).length = 2 :=
  length_leBytes 2 v

/-- `STREAM_TO_UINT16` at byte `pos` of `mem`. -/
def streamToUint16 (mem : List UInt8) (pos : Nat) : Nat := leValue (load pos 2 mem)

/-- A 16-bit little-endian store reads back as the value modulo `2 ^ 16`. -/
theorem streamToUint16_store {mem : List UInt8} {pos : Nat} (v : Nat)
    (h : pos + 2 ≤ mem.length) :
    streamToUint16 (store pos (uint16ToStream v) mem) pos = v % 65536 := by
  have hfit : pos + (uint16ToStream v).length ≤ mem.length := by
    simpa [uint16ToStream] using h
  have hload := load_store_self hfit
  simp only [uint16ToStream, length_leBytes] at hload
  simp [streamToUint16, uint16ToStream, hload, leValue_leBytes]

end BluetoothStack
