import BluetoothStack.Lib.Bytes

/-!
# Data of the SDP server

The constants of stack/include/sdpdefs.h, stack/sdp/sdpint.h and bt_target.h that the server
uses, and its database `tSDP_DB` of records `tSDP_RECORD`. An attribute's value lives in the
`attr_pad` of its record; `value_ptr` is kept as the offset into that pad, which is what it
stays when `SDP_DeleteRecord` moves a record and rebases the pointers by `sizeof(tSDP_RECORD)`.
-/

namespace BluetoothStack.Sdp

open Bytes

/-! ## Constants -/

/-- `UINT_DESC_TYPE`. -/
def uintDescType : Nat := 1
/-- `TWO_COMP_INT_DESC_TYPE`. -/
def twoCompIntDescType : Nat := 2
/-- `UUID_DESC_TYPE`. -/
def uuidDescType : Nat := 3
/-- `TEXT_STR_DESC_TYPE`. -/
def textStrDescType : Nat := 4
/-- `BOOLEAN_DESC_TYPE`. -/
def booleanDescType : Nat := 5
/-- `DATA_ELE_SEQ_DESC_TYPE`. -/
def dataEleSeqDescType : Nat := 6
/-- `DATA_ELE_ALT_DESC_TYPE`. -/
def dataEleAltDescType : Nat := 7
/-- `URL_DESC_TYPE`. -/
def urlDescType : Nat := 8

/-- `SIZE_ONE_BYTE`. -/
def sizeOneByte : Nat := 0
/-- `SIZE_TWO_BYTES`. -/
def sizeTwoBytes : Nat := 1
/-- `SIZE_FOUR_BYTES`. -/
def sizeFourBytes : Nat := 2
/-- `SIZE_EIGHT_BYTES`. -/
def sizeEightBytes : Nat := 3
/-- `SIZE_SIXTEEN_BYTES`. -/
def sizeSixteenBytes : Nat := 4
/-- `SIZE_IN_NEXT_BYTE`. -/
def sizeInNextByte : Nat := 5
/-- `SIZE_IN_NEXT_WORD`. -/
def sizeInNextWord : Nat := 6
/-- `SIZE_IN_NEXT_LONG`. -/
def sizeInNextLong : Nat := 7

/-- `SDP_MAX_ATTR_LEN` (bt_target.h): the size of the buffer a partial attribute entry is built
in. -/
def sdpMaxAttrLen : Nat := 400
/-- `SDP_MAX_PAD_LEN` (bt_target.h): the value area of one record. -/
def sdpMaxPadLen : Nat := 600
/-- `SDP_MAX_REC_ATTR` (bt_target.h). -/
def sdpMaxRecAttr : Nat := 25
/-- `SDP_MAX_RECORDS` (bt_target.h). -/
def sdpMaxRecords : Nat := 30
/-- `SDP_MTU_SIZE` (bt_target.h): the largest remote MTU the server keeps. -/
def sdpMtuSize : Nat := 1024
/-- `SDP_CONTINUATION_LEN`. -/
def sdpContinuationLen : Nat := 2
/-- `SDP_MAX_ATTR_RSPHDR_LEN`: the bytes of a ServiceAttribute response besides the list. -/
def sdpMaxAttrRsphdrLen : Nat := 10
/-- `SDP_MAX_SERVATTR_RSPHDR_LEN`: the same for a ServiceSearchAttribute response. -/
def sdpMaxServattrRsphdrLen : Nat := 12

/-- `SDP_INVALID_SERV_REC_HDL`. -/
def sdpInvalidServRecHdl : Nat := 0x0002
/-- `SDP_INVALID_REQ_SYNTAX`. -/
def sdpInvalidReqSyntax : Nat := 0x0003
/-- `SDP_INVALID_CONT_STATE`. -/
def sdpInvalidContState : Nat := 0x0005
/-- `SDP_NO_RESOURCES`. -/
def sdpNoResources : Nat := 0x0006
/-- `SDP_ILLEGAL_PARAMETER`. -/
def sdpIllegalParameter : Nat := 0x000B
/-- `SDP_SUCCESS`. -/
def sdpSuccess : Nat := 0x0000
/-- `SDP_INVALID_PDU_SIZE`. -/
def sdpInvalidPduSize : Nat := 0x0004
/-- `SDP_DB_FULL`. -/
def sdpDbFull : Nat := 0xFFF4

/-- `ATTR_ID_SERVICE_CLASS_ID_LIST`. -/
def attrIdServiceClassIdList : Nat := 0x0001
/-- `ATTR_ID_BT_PROFILE_DESC_LIST`. -/
def attrIdBtProfileDescList : Nat := 0x0009

/-! ## The database -/

/-- `tSDP_ATTRIBUTE`: the id, the data element type, and the `len` bytes of the value at offset
`value_ptr` of the record's `attr_pad`. -/
structure SdpAttribute where
  id : Nat
  type : Nat
  len : Nat
  valuePtr : Nat
  deriving DecidableEq, Repr

/-- `tSDP_RECORD`, with its first `num_attributes` slots of `attribute` as a list. -/
structure SdpRecord where
  recordHandle : Nat
  freePadPtr : Nat
  attributes : List SdpAttribute
  attrPad : List UInt8
  deriving DecidableEq, Repr

/-- `tSDP_DB`, with its first `num_records` record slots as a list. -/
structure SdpDb where
  diPrimaryHandle : Nat
  record : List SdpRecord
  deriving DecidableEq, Repr

/-- The value bytes of an attribute of record `r`. -/
def SdpRecord.value (r : SdpRecord) (a : SdpAttribute) : List UInt8 :=
  load a.valuePtr a.len r.attrPad

/-- An entry `{start, end}` of `tSDP_ATTR_SEQ`: an attribute id, or a range of them. -/
structure AttrRange where
  start : Nat
  «end» : Nat
  deriving DecidableEq, Repr

/-- Whether attribute `a` lies in the range, as `sdp_db_find_attr_in_rec` tests it. -/
def AttrRange.contains (rg : AttrRange) (a : SdpAttribute) : Bool :=
  decide (rg.start ≤ a.id) && decide (a.id ≤ rg.end)

end BluetoothStack.Sdp
