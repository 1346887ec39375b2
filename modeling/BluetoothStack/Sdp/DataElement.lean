import BluetoothStack.Sdp.Db

/-!
# Data elements

The values of SDP attributes are data elements: a header byte holding a type and a size code,
the length where the size code does not fix it, then the value. `DataElement` is the value a
well-formed attribute stands for, and `DataElement.encode` the bytes of it: the header that
`sdpu_build_attrib_entry` writes for its type and length, then its content, which for a sequence
or an alternative is the encodings of its elements one after the other.

A client keeps UUIDs in whatever width it likes; `DataElement.expandUuids` writes every UUID of a
value out in 128 bits against the Bluetooth base UUID, so two values that differ only in how wide
their UUIDs are written become equal.
-/

namespace BluetoothStack.Sdp

open Bytes

/-- A data element as the attribute list carries it: an integer (unsigned or two's complement),
a UUID or a string by its bytes, a boolean by its byte, a sequence or an alternative by its
elements. -/
inductive DataElement where
  | uint (bytes : List UInt8)
  | int (bytes : List UInt8)
  | uuid (bytes : List UInt8)
  | bool (b : UInt8)
  | text (bytes : List UInt8)
  | url (bytes : List UInt8)
  | seq (elems : List DataElement)
  | alt (elems : List DataElement)
  deriving Repr

namespace DataElement

/-- The type field of the header. -/
def type : DataElement → Nat
  | .uint _ => uintDescType
  | .int _ => twoCompIntDescType
  | .uuid _ => uuidDescType
  | .bool _ => booleanDescType
  | .text _ => textStrDescType
  | .url _ => urlDescType
  | .seq _ => dataEleSeqDescType
  | .alt _ => dataEleAltDescType

end DataElement

/-- The header `sdpu_build_attrib_entry` writes for a value of type `type` and `len` bytes. The
sequences of a record are taken to hold their elements behind the same headers. -/
def elementHeader (type len : Nat) : List UInt8 :=
  valueHeader { id := 0, type := type, len := len, valuePtr := 0 }

theorem valueHeader_eq_elementHeader (a : SdpAttribute) :
    valueHeader a = elementHeader a.type a.len := rfl

mutual
/-- The bytes of a data element: its header, then its content. -/
def DataElement.encode : DataElement → List UInt8
  | .uint bs => elementHeader uintDescType bs.length ++ bs
  | .int bs => elementHeader twoCompIntDescType bs.length ++ bs
  | .uuid bs => elementHeader uuidDescType bs.length ++ bs
  | .bool b => elementHeader booleanDescType 1 ++ [b]
  | .text bs => elementHeader textStrDescType bs.length ++ bs
  | .url bs => elementHeader urlDescType bs.length ++ bs
  | .seq es => elementHeader dataEleSeqDescType (encodeAll es).length ++ encodeAll es
  | .alt es => elementHeader dataEleAltDescType (encodeAll es).length ++ encodeAll es

/-- The elements of a sequence, each encoded, one after the other. -/
def encodeAll : List DataElement → List UInt8
  | [] => []
  | e :: es => e.encode ++ encodeAll es
end

namespace DataElement

/-- What follows the header: the value bytes an attribute of the record holds. -/
def content : DataElement → List UInt8
  | .uint bs | .int bs | .uuid bs | .text bs | .url bs => bs
  | .bool b => [b]
  | .seq es | .alt es => encodeAll es

theorem encode_eq (e : DataElement) :
    e.encode = elementHeader e.type e.content.length ++ e.content := by
  cases e <;> rfl

/-- The elements of a sequence or an alternative; none for other values. -/
def elems : DataElement → List DataElement
  | .seq es | .alt es => es
  | _ => []

@[simp] theorem encodeAll_nil : encodeAll [] = [] := rfl

@[simp] theorem encodeAll_cons (e : DataElement) (es : List DataElement) :
    encodeAll (e :: es) = e.encode ++ encodeAll es := rfl

end DataElement

/-! ## UUIDs in 128 bits -/

/-- A UUID of 16 or 32 bits written out in 128 bits against the base UUID, as
`sdpu_compare_uuid_arrays` puts it there; other widths are left as they are. -/
def expandUuid (bs : List UInt8) : List UInt8 :=
  if bs.length = 2 ∨ bs.length = 4 then normalizeUuid bs else bs

mutual
/-- The value with each of its UUIDs written out in 128 bits. -/
def DataElement.expandUuids : DataElement → DataElement
  | .uuid bs => .uuid (expandUuid bs)
  | .seq es => .seq (expandUuidsAll es)
  | .alt es => .alt (expandUuidsAll es)
  | e => e

def expandUuidsAll : List DataElement → List DataElement
  | [] => []
  | e :: es => e.expandUuids :: expandUuidsAll es
end

/-! ## Well-formed values -/

mutual
/-- How deep sequences and alternatives are nested in the value: none is `0`. -/
def DataElement.seqDepth : DataElement → Nat
  | .seq es | .alt es => seqDepthAll es + 1
  | _ => 0

def seqDepthAll : List DataElement → Nat
  | [] => 0
  | e :: es => max e.seqDepth (seqDepthAll es)
end

mutual
/-- The values the discovery client reads back whole: integers of 1, 2, 4, 8 or 16 bytes, UUIDs
of 2, 4 or 16 bytes, strings and sequences with fewer content bytes than
`SDP_DISC_ATTR_LEN_MASK`. -/
def DataElement.wellFormed : DataElement → Bool
  | .uint bs | .int bs => bs.length ∈ [1, 2, 4, 8, 16]
  | .uuid bs => bs.length ∈ [2, 4, 16]
  | .bool _ => true
  | .text bs | .url bs => decide (bs.length < 0x0FFF)
  | .seq es | .alt es => decide ((encodeAll es).length < 0x0FFF) && wellFormedAll es

def wellFormedAll : List DataElement → Bool
  | [] => true
  | e :: es => e.wellFormed && wellFormedAll es
end

mutual
/-- Whether the value is, or holds at any depth, a 2-byte unsigned integer of value `v`. -/
def DataElement.holdsUint16 (v : Nat) : DataElement → Bool
  | .uint bs => bs.length == 2 && beValue bs == v
  | .seq es | .alt es => holdsUint16All v es
  | _ => false

def holdsUint16All (v : Nat) : List DataElement → Bool
  | [] => false
  | e :: es => e.holdsUint16 v || holdsUint16All v es
end

end BluetoothStack.Sdp
