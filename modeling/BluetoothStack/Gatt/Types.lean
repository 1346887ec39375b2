import Mathlib
import BluetoothStack.Lib.Bytes

/-!
# Data of the GATT server

`bluetooth::Uuid` of types/bluetooth/uuid.cc, the constants of stack/include/gatt_api.h,
gattdefs.h and gatt_int.h that the server database uses, and the structures of gatt_int.h that
hold it: the attributes `tGATT_ATTR` of a service database `tGATT_SVC_DB`, the assigned handle
ranges `tGATT_HDL_LIST_ELEM` of `hdl_list_info` and the started services `tGATT_SRV_LIST_ELEM` of
`srv_list_info`.

A `tGATT_SRV_LIST_ELEM` points at the database of its `tGATT_HDL_LIST_ELEM`; the model keeps a
copy, which is the same value since nothing changes a database after `GATTS_AddService` built it.
-/

namespace BluetoothStack.Gatt

/-! ## `bluetooth::Uuid` -/

/-- `bluetooth::Uuid`: sixteen bytes, most significant first. -/
structure Uuid where
  uu : Vector UInt8 16
deriving DecidableEq, Repr

namespace Uuid

/-- `kEmpty`. -/
def kEmpty : Uuid := ⟨Vector.replicate 16 0⟩

/-- `kBase`: the Bluetooth base UUID. -/
def kBase : Uuid :=
  ⟨⟨List.toArray [0x00, 0x00, 0x00, 0x00, 0x00, 0x00, 0x10, 0x00, 0x80, 0x00, 0x00, 0x80, 0x5f,
    0x9b, 0x34, 0xfb], rfl⟩⟩

/-- `Uuid::From16Bit`. -/
def from16Bit (uuid16 : Nat) : Uuid :=
  ⟨(kBase.uu.set 2 (UInt8.ofNat (uuid16 % 65536 / 256))).set 3 (UInt8.ofNat (uuid16 % 256))⟩

/-- `Uuid::From32Bit`. -/
def from32Bit (uuid32 : Nat) : Uuid :=
  ⟨(((kBase.uu.set 0 (UInt8.ofNat ((0xFF000000 &&& uuid32) >>> 24))).set 1
    (UInt8.ofNat ((0x00FF0000 &&& uuid32) >>> 16))).set 2
    (UInt8.ofNat ((0x0000FF00 &&& uuid32) >>> 8))).set 3 (UInt8.ofNat (0x000000FF &&& uuid32))⟩

/-- `Uuid::kNumBytes16`. -/
def kNumBytes16 : Nat := 2
/-- `Uuid::kNumBytes32`. -/
def kNumBytes32 : Nat := 4
/-- `Uuid::kNumBytes128`. -/
def kNumBytes128 : Nat := 16

/-- `Uuid::GetShortestRepresentationSize`: 16 unless the last twelve bytes are the base UUID's,
then 2 if the first two bytes are zero and 4 otherwise. -/
def getShortestRepresentationSize (u : Uuid) : Nat :=
  if u.uu.toList.drop kNumBytes32 ≠ kBase.uu.toList.drop kNumBytes32 then kNumBytes128
  else if u.uu[0] = 0 ∧ u.uu[1] = 0 then kNumBytes16
  else kNumBytes32

/-- `Uuid::Is16Bit`. -/
def is16Bit (u : Uuid) : Bool := u.getShortestRepresentationSize == kNumBytes16

/-- `Uuid::As16Bit`. -/
def as16Bit (u : Uuid) : Nat := u.uu[2].toNat * 256 + u.uu[3].toNat

/-- `Uuid::As32Bit`. -/
def as32Bit (u : Uuid) : Nat :=
  u.uu[0].toNat * 2 ^ 24 + u.uu[1].toNat * 2 ^ 16 + u.uu[2].toNat * 256 + u.uu[3].toNat

/-- `Uuid::To128BitLE`. -/
def to128BitLE (u : Uuid) : List UInt8 := u.uu.toList.reverse

/-- `Uuid::To128BitBE`. -/
def to128BitBE (u : Uuid) : List UInt8 := u.uu.toList

/-- The first four bytes, those `As32Bit` reads. -/
theorem to128BitBE_take_four (u : Uuid) :
    u.to128BitBE.take 4 = [u.uu[0], u.uu[1], u.uu[2], u.uu[3]] := by
  apply List.ext_getElem
  · simp [to128BitBE]
  · intro i h _
    simp only [List.length_take, to128BitBE, Vector.length_toList] at h
    obtain rfl | rfl | rfl | rfl : i = 0 ∨ i = 1 ∨ i = 2 ∨ i = 3 := by omega
    all_goals simp [to128BitBE]

/-- `Uuid::IsEmpty`. -/
def isEmpty (u : Uuid) : Bool := u == kEmpty

end Uuid

/-! ## Constants -/

/-- `GATT_UUID_PRI_SERVICE`. -/
def gattUuidPriService : Nat := 0x2800
/-- `GATT_UUID_SEC_SERVICE`. -/
def gattUuidSecService : Nat := 0x2801
/-- `GATT_UUID_INCLUDE_SERVICE`. -/
def gattUuidIncludeService : Nat := 0x2802
/-- `GATT_UUID_CHAR_DECLARE`. -/
def gattUuidCharDeclare : Nat := 0x2803
/-- `GATT_UUID_CHAR_EXT_PROP`. -/
def gattUuidCharExtProp : Nat := 0x2900
/-- `GATT_UUID_CHAR_CLIENT_CONFIG`. -/
def gattUuidCharClientConfig : Nat := 0x2902
/-- `GATT_UUID_CHAR_SRVR_CONFIG`. -/
def gattUuidCharSrvrConfig : Nat := 0x2903
/-- `GATT_UUID_CHAR_PRESENT_FORMAT`. -/
def gattUuidCharPresentFormat : Nat := 0x2904

/-- `UUID_SERVCLASS_GAP_SERVER`. -/
def uuidServclassGapServer : Nat := 0x1800
/-- `UUID_SERVCLASS_GATT_SERVER`. -/
def uuidServclassGattServer : Nat := 0x1801
/-- `UUID_SERVCLASS_GMCS_SERVER`. -/
def uuidServclassGmcsServer : Nat := 0x1849
/-- `UUID_SERVCLASS_GTBS_SERVER`. -/
def uuidServclassGtbsServer : Nat := 0x184c
/-- `UUID_SERVCLASS_TMAS_SERVER`. -/
def uuidServclassTmasServer : Nat := 0x1855

/-- `GATT_GATT_START_HANDLE`, the start handle `gatt_init` gives `hdl_cfg.gatt_start_hdl`. -/
def gattGattStartHandle : Nat := 1
/-- `GATT_GAP_START_HANDLE`. -/
def gattGapStartHandle : Nat := 20
/-- `GATT_GMCS_START_HANDLE`. -/
def gattGmcsStartHandle : Nat := 40
/-- `GATT_GTBS_START_HANDLE`. -/
def gattGtbsStartHandle : Nat := 90
/-- `GATT_TMAS_START_HANDLE`. -/
def gattTmasStartHandle : Nat := 130
/-- `GATT_APP_START_HANDLE`: application services are placed from here up. -/
def gattAppStartHandle : Nat := 134

/-- `GATT_PERM_READ`. -/
def gattPermRead : Nat := 1 <<< 0
/-- `GATT_PERM_READ_ENCRYPTED`. -/
def gattPermReadEncrypted : Nat := 1 <<< 1
/-- `GATT_PERM_READ_ENC_MITM`. -/
def gattPermReadEncMitm : Nat := 1 <<< 2
/-- `GATT_PERM_WRITE_SIGNED`. -/
def gattPermWriteSigned : Nat := 1 <<< 7
/-- `GATT_PERM_WRITE_SIGNED_MITM`. -/
def gattPermWriteSignedMitm : Nat := 1 <<< 8
/-- `GATT_ENCRYPT_KEY_SIZE_MASK`. -/
def gattEncryptKeySizeMask : Nat := 0xF000
/-- `GATT_READ_ALLOWED`. -/
def gattReadAllowed : Nat := gattPermRead ||| gattPermReadEncrypted ||| gattPermReadEncMitm
/-- `GATT_READ_AUTH_REQUIRED`. -/
def gattReadAuthRequired : Nat := gattPermReadEncrypted
/-- `GATT_READ_MITM_REQUIRED`. -/
def gattReadMitmRequired : Nat := gattPermReadEncMitm
/-- `GATT_READ_ENCRYPTED_REQUIRED`. -/
def gattReadEncryptedRequired : Nat := gattPermReadEncrypted ||| gattPermReadEncMitm
/-- `GATT_WRITE_SIGNED_PERM`. -/
def gattWriteSignedPerm : Nat := gattPermWriteSigned ||| gattPermWriteSignedMitm

/-- `GATT_CHAR_PROP_BIT_AUTH`. -/
def gattCharPropBitAuth : Nat := 1 <<< 6
/-- `GATT_CHAR_PROP_BIT_EXT_PROP`. -/
def gattCharPropBitExtProp : Nat := 1 <<< 7

/-- `GATT_INFO_TYPE_PAIR_16`: the format byte of a Find Information response of 16-bit UUIDs. -/
def gattInfoTypePair16 : Nat := 0x01
/-- `GATT_INFO_TYPE_PAIR_128`. -/
def gattInfoTypePair128 : Nat := 0x02

/-- The `tGATT_STATUS` values the server database and its responses produce. -/
inductive GattStatus where
  | success
  | invalidHandle
  | readNotPermit
  | invalidPdu
  | insufAuthentication
  | notFound
  | notLong
  | insufKeySize
  | insufEncryption
  | unsupportGrpType
  | noResources
  | internalError
  | busy
  | error
  | pending
  | serviceStarted
deriving DecidableEq, Repr

/-! ## The server database -/

/-- `bt_gatt_db_attribute_type_t`. -/
inductive DbAttributeType where
  | primaryService
  | secondaryService
  | includedService
  | characteristic
  | descriptor
deriving DecidableEq, Repr

/-- `tGATT_ATTR_VALUE`, behind the pointer `p_value`, which is `nullptr` (`none`) for the values
the application keeps. -/
inductive AttrValue where
  | none
  | uuid (u : Uuid)
  | charDecl (property charValHandle : Nat)
  | inclHandle (sHandle eHandle : Nat) (serviceType : Uuid)
  | charExtProp (value : Nat)
deriving DecidableEq, Repr

/-- `tGATT_ATTR`. -/
structure GattAttr where
  pValue : AttrValue
  permission : Nat
  handle : Nat
  uuid : Uuid
  gattType : DbAttributeType
deriving DecidableEq, Repr

/-- `tGATT_SVC_DB`. -/
structure SvcDb where
  attrList : List GattAttr
  endHandle : Nat
  nextHandle : Nat
deriving DecidableEq, Repr

/-- `tGATTS_HNDL_RANGE`: the handle range assigned to a service. -/
structure HndlRange where
  appUuid128 : Uuid
  svcUuid : Uuid
  sHandle : Nat
  eHandle : Nat
  isPrimary : Bool
deriving DecidableEq, Repr

/-- `tGATT_HDL_LIST_ELEM`. -/
structure HdlListElem where
  asgnRange : HndlRange
  svcDb : SvcDb
deriving DecidableEq, Repr

/-- `tGATT_SRV_LIST_ELEM`, without its SDP record handle. -/
structure SrvListElem where
  pDb : SvcDb
  appUuid : Uuid
  type : Nat
  sHdl : Nat
  eHdl : Nat
  gattIf : Nat
  isPrimary : Bool
deriving DecidableEq, Repr

/-- The server part of `tGATT_CB`: `hdl_list_info`, kept in descending order of start handle,
`srv_list_info`, kept in ascending order, and `last_service_handle`. -/
structure GattServer where
  hdlListInfo : List HdlListElem
  srvListInfo : List SrvListElem
  lastServiceHandle : Nat
deriving DecidableEq, Repr

/-- `btgatt_db_element_t`, with the fields `GATTS_AddService` reads. -/
structure DbElement where
  uuid : Uuid
  type : DbAttributeType
  attributeHandle : Nat
  properties : Nat
  extendedProperties : Nat
  permissions : Nat
deriving DecidableEq, Repr

end BluetoothStack.Gatt
