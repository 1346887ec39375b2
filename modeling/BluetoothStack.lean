import BluetoothStack.Lib.Bytes
import BluetoothStack.Lib.Bits
import BluetoothStack.Lib.ModSeq
import BluetoothStack.Lib.SortedFilter
import BluetoothStack.Stack.BtHdr
import BluetoothStack.L2cap.Types
import BluetoothStack.L2cap.Fcr
import BluetoothStack.L2cap.TxWindow
import BluetoothStack.L2cap.Reassembly
import BluetoothStack.L2cap.Segmentation
import BluetoothStack.L2cap.LeCoc
import BluetoothStack.Sdp.Types
import BluetoothStack.Sdp.Db
import BluetoothStack.Sdp.Server
import BluetoothStack.Sdp.AttrLoop
import BluetoothStack.Sdp.AttrSession
import BluetoothStack.Sdp.SearchSession
import BluetoothStack.Sdp.Lossless
import BluetoothStack.Sdp.DataElement
import BluetoothStack.Sdp.Discovery
import BluetoothStack.Sdp.Decode
import BluetoothStack.Sdp.ReadBack
import BluetoothStack.Sdp.Maintenance
import BluetoothStack.Lib.IntervalList
import BluetoothStack.Gatt.Types
import BluetoothStack.Gatt.Database
import BluetoothStack.Gatt.Discovery
import BluetoothStack.Lib.Exchange
import BluetoothStack.Gatt.Client
import BluetoothStack.Lib.KeyList
import BluetoothStack.LeAudio.Ltv
import BluetoothStack.LeAudio.Storage
import BluetoothStack.Lib.ListMap
import BluetoothStack.Lib.LruCache
import BluetoothStack.Config.Cache
import BluetoothStack.Config.CacheInv
import BluetoothStack.Config.LegacyFile
import BluetoothStack.Config.LegacyRoundTrip
import BluetoothStack.L2cap.ReassemblySafety
import BluetoothStack.L2cap.PeerConfig
import BluetoothStack.L2cap.Receiver
import BluetoothStack.L2cap.SrejHold
import BluetoothStack.Sdp.RangeWrap
import BluetoothStack.Gatt.ReadMulti
import BluetoothStack.LeAudio.Ascs
import BluetoothStack.LeAudio.Pacs
import BluetoothStack.A2dp.CodecInfo
import BluetoothStack.Avrcp.Items
import BluetoothStack.Lib.Calls
import BluetoothStack.Lib.CScan
import BluetoothStack.Avrcp.ResponseBuilders
import BluetoothStack.Types.Codecs
import BluetoothStack.Avrcp.Packets
import BluetoothStack.Avrcp.Device
import BluetoothStack.Lib.Cursor
import BluetoothStack.Lib.Crc8
import BluetoothStack.Rfcomm.Frames
import BluetoothStack.Gatt.ClientRsp
import BluetoothStack.Avct.Lcb
import BluetoothStack.Avdt.Msg
import BluetoothStack.Lib.Ring
import BluetoothStack.Osi.Ringbuffer
import BluetoothStack.Lib.NodeList
import BluetoothStack.Common.ListMap
import BluetoothStack.Common.LruCache
import BluetoothStack.Csis.Advertising
import BluetoothStack.Lib.Cmac
import BluetoothStack.CryptoToolbox.AesCmac
import BluetoothStack.Btm.BleAddr
import BluetoothStack.Gatt.DatabaseHash
import BluetoothStack.Ag.AtParse
import BluetoothStack.Lib.Trace
import BluetoothStack.Hci.PacketFragmenter
import BluetoothStack.Hci.Reassembly
import BluetoothStack.Hci.Fragmentation
import BluetoothStack.Hci.IsoFragmentation
