import BluetoothStack.Avrcp.Packets

/-!
# The AVRCP target's handling of a received message

`Device::MessageReceived` (control channel) and `Device::BrowseMessageReceived` (browsing
channel) of profile/avrcp/device.cc, with the handlers they dispatch to. A handler is a
computation in `Option`: each getter it calls may fail a CHECK (`Avrcp.Packets`), and `none` is a
message whose handling fails one. A `DEVICE_VLOG(n)` statement evaluates its stream arguments only
when level `n` is on (`logReads`); `DEVICE_LOG` statements always do.

What a handler does is reduced to an `Action`: the response it sends, or the media call whose
answer depends on the packet, with the fields read for it. The fields that the answers of the
media interface read later are read by getters of a packet already valid, which
`getters_of_isValid` of each request covers.

Main results:
* The browsing channel fails no CHECK, whatever the bytes and whichever logs are on
  (`browseMessageReceived_isSome`).
* The control channel fails none when `VLOG` levels 2, 3 and 4 are off
  (`messageReceived_isSome_of_vlog`). With every log on, three statements read before the
  validity check that would guard them, and a short vendor packet fails a CHECK
  (`messageReceived_checks_fail`).
-/

namespace BluetoothStack.Avrcp

/-- The part of a `Device`'s state its handlers branch on. -/
structure DeviceState where
  /-- `volume_interface_ != nullptr`. -/
  hasVolumeInterface : Bool
  /-- `volume_ == VOL_NOT_SUPPORTED`: no volume taken yet. -/
  volumeNotSupported : Bool
  /-- `IsActive()`. -/
  active : Bool
  /-- Whether `now_playing_ids_.get_media_id(uid)` is not empty. -/
  nowPlayingKnows : Nat → Bool
  /-- Whether `vfs_ids_.get_media_id(uid)` is not empty. -/
  vfsKnows : Nat → Bool
  /-- `current_path_.size()`. -/
  pathDepth : Nat

/-- What handling a message does. -/
inductive Action where
  /-- `RejectBuilder::MakeBuilder(pdu, status)` sent on the control channel. -/
  | reject (pdu : UInt8) (status : Status)
  /-- `GeneralRejectBuilder::MakeBuilder(status)` sent on the browsing channel. -/
  | generalReject (status : Status)
  /-- The browsing response to `pdu` built with the error `status` and nothing else. -/
  | browseError (pdu : UInt8) (status : Status)
  /-- Nothing sent and nothing asked of the media interface. -/
  | noResponse
  /-- `PassThroughPacketBuilder::MakeBuilder(true, pushed, operation_id)` sent. -/
  | passThrough (pushed : Bool) (operationId : UInt8)
  /-- The `GET_CAPABILITIES` response for `capability`. -/
  | capabilities (capability : UInt8)
  /-- The notification for `event` registered, with the interval of `PLAYBACK_POS_CHANGED`. -/
  | notification (event : UInt8) (interval : Option Nat)
  /-- A `VOLUME_CHANGED` response handled, with the volume taken from it if any. -/
  | volume (volume : Option UInt8)
  /-- `GetSongInfo` asked; its answer lists the attributes requested. -/
  | elementAttributes (attributes : List Nat)
  /-- `GetPlayStatus` asked. -/
  | playStatus
  /-- `PlayItem` called, in the now playing list or not. -/
  | playItem (nowPlaying : Bool)
  /-- `GetMediaPlayerList` asked, to compare the current player with `playerId`. -/
  | setAddressedPlayer (playerId : Nat)
  /-- `SetBrowsedPlayer(playerId)` called. -/
  | setBrowsedPlayer (playerId : Nat)
  /-- The items of `scope` asked for. -/
  | folderItems (scope : UInt8)
  /-- The path changed in `direction`, and the items of the new folder asked for. -/
  | changePath (direction : UInt8)
  /-- The attributes of an item of `scope` asked for. -/
  | itemAttributes (scope : UInt8)
  /-- The items of `scope` asked for, to be counted. -/
  | totalNumberOfItems (scope : UInt8)
  deriving DecidableEq

/-- The stream arguments of a `DEVICE_VLOG(n)` statement, evaluated when level `n` is on. -/
def logReads (on : Bool) (reads : Option Unit) : Option Unit := if on then reads else some ()

/-- A getter called for its CHECKs only, its value printed. -/
def reads {α : Type} (getter : Option α) : Option Unit := getter.map fun _ => ()

/-! ## The control channel -/

/-- `Device::HandleGetCapabilities`. -/
def handleGetCapabilities (vlogOn : Nat → Bool) (p : List UInt8) : Option Action := do
  logReads (vlogOn 4) (reads (GetCapabilitiesRequest.getCapabilityRequested p))
  let valid ← GetCapabilitiesRequest.isValid p
  if !valid then
    let pdu ← VendorPacket.getCommandPdu p
    return .reject pdu .invalidParameter
  let capability ← GetCapabilitiesRequest.getCapabilityRequested p
  if capability = capabilityCompanyId ∨ capability = capabilityEventsSupported then
    return .capabilities capability
  reads (GetCapabilitiesRequest.getCapabilityRequested p)
  return .reject commandPduGetCapabilities .invalidParameter

/-- `Device::HandleNotification`. -/
def handleNotification (vlogOn : Nat → Bool) (p : List UInt8) : Option Action := do
  let valid ← RegisterNotificationRequest.isValid p
  if !valid then
    let pdu ← VendorPacket.getCommandPdu p
    return .reject pdu .invalidParameter
  logReads (vlogOn 4) (reads (RegisterNotificationRequest.getEventRegistered p))
  let event ← RegisterNotificationRequest.getEventRegistered p
  if event = eventPlaybackPosChanged then
    let interval ← RegisterNotificationRequest.getInterval p
    return .notification event (some interval)
  if event = eventTrackChanged ∨ event = eventPlaybackStatusChanged ∨
      event = eventNowPlayingContentChanged ∨ event = eventAvailablePlayersChanged ∨
      event = eventAddressedPlayerChanged ∨ event = eventUidsChanged then
    return .notification event none
  reads (RegisterNotificationRequest.getEventRegistered p)
  let pdu ← VendorPacket.getCommandPdu p
  return .reject pdu .invalidParameter

/-- `Device::HandleVolumeChanged`, for a response already valid. -/
def handleVolumeChanged (vlogOn : Nat → Bool) (st : DeviceState) (p : List UInt8) :
    Option Action := do
  logReads (vlogOn 1) (reads (RegisterNotificationResponse.isInterim p))
  if !st.hasVolumeInterface then return .noResponse
  let cType ← Packet.getCType p
  if cType = cTypeRejected then return .volume none
  let interim ← RegisterNotificationResponse.isInterim p
  if !interim then return .volume none
  if st.volumeNotSupported then
    let volume ← RegisterNotificationResponse.getVolume p
    return .volume (some volume)
  if !st.active then return .volume none
  let volume ← RegisterNotificationResponse.getVolume p
  return .volume (some volume)

/-- `Device::HandlePlayItem`. -/
def handlePlayItem (vlogOn : Nat → Bool) (st : DeviceState) (p : List UInt8) :
    Option Action := do
  logReads (vlogOn 2)
    (do reads (PlayItemRequest.getScope p); reads (PlayItemRequest.getUid p))
  let valid ← PlayItemRequest.isValid p
  if !valid then
    let pdu ← VendorPacket.getCommandPdu p
    return .reject pdu .invalidParameter
  let scope ← PlayItemRequest.getScope p
  let known ←
    if scope = scopeNowPlaying then (PlayItemRequest.getUid p).map st.nowPlayingKnows
    else if scope = scopeVfs then (PlayItemRequest.getUid p).map st.vfsKnows
    else pure false
  if !known then return .reject commandPduPlayItem .doesNotExist
  let scope ← PlayItemRequest.getScope p
  return .playItem (scope = scopeNowPlaying)

/-- The `GET_ELEMENT_ATTRIBUTES` case of `Device::VendorPacketHandler`, with the attributes that
`GetElementAttributesResponse` reads when the song information comes back. -/
def vendorGetElementAttributes (p : List UInt8) : Option Action := do
  let valid ← GetElementAttributesRequest.isValid p
  if !valid then
    let pdu ← VendorPacket.getCommandPdu p
    return .reject pdu .invalidParameter
  let attributes ← GetElementAttributesRequest.getAttributesRequested p
  return .elementAttributes attributes

/-- The `SET_ADDRESSED_PLAYER` case of `Device::VendorPacketHandler`, with the reads of
`Device::HandleSetAddressedPlayer` when the player list comes back. -/
def vendorSetAddressedPlayer (vlogOn : Nat → Bool) (p : List UInt8) : Option Action := do
  let valid ← SetAddressedPlayerRequest.isValid p
  if !valid then
    let pdu ← VendorPacket.getCommandPdu p
    return .reject pdu .invalidParameter
  logReads (vlogOn 2) (reads (SetAddressedPlayerRequest.getPlayerId p))
  let playerId ← SetAddressedPlayerRequest.getPlayerId p
  return .setAddressedPlayer playerId

/-- The responses part of `Device::VendorPacketHandler`: command types from `ACCEPTED` on. -/
def vendorResponse (vlogOn : Nat → Bool) (st : DeviceState) (p : List UInt8) :
    Option Action := do
  let pdu ← VendorPacket.getCommandPdu p
  if pdu = commandPduRegisterNotification then
    let valid ← RegisterNotificationResponse.isValid p
    if !valid then
      let pdu ← VendorPacket.getCommandPdu p
      return .reject pdu .invalidParameter
    let event ← RegisterNotificationResponse.getEvent p
    if event ≠ eventVolumeChanged then
      reads (RegisterNotificationResponse.getEvent p)
      return .noResponse
    handleVolumeChanged vlogOn st p
  else if pdu = commandPduSetAbsoluteVolume then return .noResponse
  else
    reads (VendorPacket.getCommandPdu p)
    return .noResponse

/-- The commands part of `Device::VendorPacketHandler`: the switch on the command PDU. -/
def vendorCommand (vlogOn : Nat → Bool) (st : DeviceState) (p : List UInt8) :
    Option Action := do
  let pdu ← VendorPacket.getCommandPdu p
  if pdu = commandPduGetCapabilities then handleGetCapabilities vlogOn p
  else if pdu = commandPduRegisterNotification then handleNotification vlogOn p
  else if pdu = commandPduGetElementAttributes then vendorGetElementAttributes p
  else if pdu = commandPduGetPlayStatus then return .playStatus
  else if pdu = commandPduPlayItem then handlePlayItem vlogOn st p
  else if pdu = commandPduSetAddressedPlayer then vendorSetAddressedPlayer vlogOn p
  else
    -- `pkt->ToString()` in the error log reads the header fields; its loop over the payload
    -- stops at `end()` and never dereferences it
    reads (VendorPacket.getCompanyId p)
    reads (VendorPacket.getPacketType p)
    reads (VendorPacket.getParameterLength p)
    let pdu ← VendorPacket.getCommandPdu p
    return .reject pdu .invalidCommand

/-- `Device::VendorPacketHandler`. -/
def vendorPacketHandler (vlogOn : Nat → Bool) (st : DeviceState) (p : List UInt8) :
    Option Action := do
  logReads (vlogOn 3) (reads (VendorPacket.getCommandPdu p))
  let valid ← VendorPacket.isValid p
  if !valid then return .reject 0 .invalidCommand
  let cType ← Packet.getCType p
  if cType = cTypeNotImplemented then return .noResponse
  if cType ≥ cTypeAccepted then vendorResponse vlogOn st p
  else vendorCommand vlogOn st p

/-- `Device::MessageReceived`. -/
def messageReceived (vlogOn : Nat → Bool) (st : DeviceState) (p : List UInt8) :
    Option Action := do
  let valid ← Packet.isValid p
  if !valid then return .reject 0 .invalidCommand
  logReads (vlogOn 4) (reads (Packet.getOpcode p))
  let opcode ← Packet.getOpcode p
  if opcode = opcodeUnitInfo ∨ opcode = opcodeSubunitInfo then return .noResponse
  if opcode = opcodePassThrough then
    let passThroughValid ← PassThroughPacket.isValid p
    if !passThroughValid then return .reject 0 .invalidCommand
    let keyState ← PassThroughPacket.getKeyState p
    let operationId ← PassThroughPacket.getOperationId p
    return .passThrough (keyState = keyStatePushed) operationId
  if opcode = opcodeVendor then vendorPacketHandler vlogOn st p
  else return .noResponse

/-! ## The browsing channel -/

/-- `Device::HandleSetBrowsedPlayer`. -/
def handleSetBrowsedPlayer (vlogOn : Nat → Bool) (p : List UInt8) : Option Action := do
  let valid ← SetBrowsedPlayerRequest.isValid p
  if !valid then return .browseError browsePduSetBrowsedPlayer .invalidParameter
  logReads (vlogOn 2) (reads (SetBrowsedPlayerRequest.getPlayerId p))
  let playerId ← SetBrowsedPlayerRequest.getPlayerId p
  return .setBrowsedPlayer playerId

/-- `Device::HandleGetFolderItems`. -/
def handleGetFolderItems (vlogOn : Nat → Bool) (p : List UInt8) : Option Action := do
  let valid ← GetFolderItemsRequest.isValid p
  if !valid then return .browseError browsePduGetFolderItems .invalidParameter
  logReads (vlogOn 2) (reads (GetFolderItemsRequest.getScope p))
  let scope ← GetFolderItemsRequest.getScope p
  if scope = scopeMediaPlayerList ∨ scope = scopeVfs ∨ scope = scopeNowPlaying then
    return .folderItems scope
  reads (GetFolderItemsRequest.getScope p)
  return .browseError browsePduGetFolderItems .invalidParameter

/-- `Device::HandleChangePath`. -/
def handleChangePath (vlogOn : Nat → Bool) (st : DeviceState) (p : List UInt8) :
    Option Action := do
  let valid ← ChangePathRequest.isValid p
  if !valid then return .browseError browsePduChangePath .invalidParameter
  logReads (vlogOn 2)
    (do reads (ChangePathRequest.getDirection p); reads (ChangePathRequest.getUid p))
  let direction ← ChangePathRequest.getDirection p
  if direction = directionDown then
    let uid ← ChangePathRequest.getUid p
    if !st.vfsKnows uid then
      reads (ChangePathRequest.getUid p)
      return .browseError browsePduChangePath .doesNotExist
    return .changePath direction
  if st.pathDepth ≤ 1 then return .browseError browsePduChangePath .doesNotExist
  return .changePath direction

/-- `Device::HandleGetItemAttributes`. -/
def handleGetItemAttributes (vlogOn : Nat → Bool) (p : List UInt8) : Option Action := do
  let valid ← GetItemAttributesRequest.isValid p
  if !valid then return .browseError browsePduGetItemAttributes .invalidParameter
  logReads (vlogOn 2)
    (do
      reads (GetItemAttributesRequest.getScope p)
      reads (GetItemAttributesRequest.getUid p)
      reads (GetItemAttributesRequest.getUidCounter p))
  let uidCounter ← GetItemAttributesRequest.getUidCounter p
  if uidCounter ≠ 0 then return .browseError browsePduGetItemAttributes .uidsChanged
  let scope ← GetItemAttributesRequest.getScope p
  if scope = scopeNowPlaying ∨ scope = scopeVfs then return .itemAttributes scope
  return .noResponse

/-- `Device::HandleGetTotalNumberOfItems`. -/
def handleGetTotalNumberOfItems (vlogOn : Nat → Bool) (p : List UInt8) : Option Action := do
  let valid ← GetTotalNumberOfItemsRequest.isValid p
  if !valid then return .browseError browsePduGetTotalNumberOfItems .invalidParameter
  logReads (vlogOn 2) (reads (GetTotalNumberOfItemsRequest.getScope p))
  let scope ← GetTotalNumberOfItemsRequest.getScope p
  if scope = scopeMediaPlayerList ∨ scope = scopeVfs ∨ scope = scopeNowPlaying then
    return .totalNumberOfItems scope
  reads (GetTotalNumberOfItemsRequest.getScope p)
  return .noResponse

/-- `Device::BrowseMessageReceived`. -/
def browseMessageReceived (vlogOn : Nat → Bool) (st : DeviceState) (p : List UInt8) :
    Option Action := do
  let valid ← BrowsePacket.isValid p
  if !valid then return .generalReject .invalidCommand
  logReads (vlogOn 1) (reads (BrowsePacket.getPdu p))
  let pdu ← BrowsePacket.getPdu p
  if pdu = browsePduSetBrowsedPlayer then handleSetBrowsedPlayer vlogOn p
  else if pdu = browsePduGetFolderItems then handleGetFolderItems vlogOn p
  else if pdu = browsePduChangePath then handleChangePath vlogOn st p
  else if pdu = browsePduGetItemAttributes then handleGetItemAttributes vlogOn p
  else if pdu = browsePduGetTotalNumberOfItems then handleGetTotalNumberOfItems vlogOn p
  else
    reads (BrowsePacket.getPdu p)
    return .generalReject .invalidCommand

/-! ## The reads of the log statements -/

@[simp] theorem reads_some {α : Type} (a : α) : reads (some a) = some () := rfl

@[simp] theorem logReads_some (on : Bool) : logReads on (some ()) = some () := by
  cases on <;> rfl

theorem logReads_off (r : Option Unit) : logReads false r = some () := rfl

/-! ## The browsing channel fails no CHECK -/

section Browse

variable (vlogOn : Nat → Bool) (st : DeviceState) (p : List UInt8)

-- Each handler answers an invalid request without reading it, and reads a valid one only
-- through the getters `getters_of_isValid` covers.

theorem handleSetBrowsedPlayer_isSome : (handleSetBrowsedPlayer vlogOn p).isSome := by
  obtain ⟨valid, hvalid⟩ := Option.isSome_iff_exists.1 (SetBrowsedPlayerRequest.isValid_isSome p)
  cases valid with
  | false => simp [handleSetBrowsedPlayer, hvalid]
  | true =>
    obtain ⟨hplayer, -⟩ := SetBrowsedPlayerRequest.getters_of_isValid hvalid
    obtain ⟨playerId, hplayer⟩ := Option.isSome_iff_exists.1 hplayer
    simp [handleSetBrowsedPlayer, hvalid, hplayer]

theorem handleGetFolderItems_isSome : (handleGetFolderItems vlogOn p).isSome := by
  obtain ⟨valid, hvalid⟩ := Option.isSome_iff_exists.1 (GetFolderItemsRequest.isValid_isSome p)
  cases valid with
  | false => simp [handleGetFolderItems, hvalid]
  | true =>
    obtain ⟨hscope, -⟩ := GetFolderItemsRequest.getters_of_isValid hvalid
    obtain ⟨scope, hscope⟩ := Option.isSome_iff_exists.1 hscope
    simp only [handleGetFolderItems, hvalid, hscope, reads_some, logReads_some,
      Option.bind_eq_bind, Option.bind_some, Bool.not_true, Bool.false_eq_true, if_false]
    split_ifs <;> rfl

theorem handleChangePath_isSome : (handleChangePath vlogOn st p).isSome := by
  obtain ⟨valid, hvalid⟩ := Option.isSome_iff_exists.1 (ChangePathRequest.isValid_isSome p)
  cases valid with
  | false => simp [handleChangePath, hvalid]
  | true =>
    obtain ⟨-, hdirection, huid, -⟩ := ChangePathRequest.getters_of_isValid hvalid
    obtain ⟨direction, hdirection⟩ := Option.isSome_iff_exists.1 hdirection
    obtain ⟨uid, huid⟩ := Option.isSome_iff_exists.1 huid
    simp only [handleChangePath, hvalid, hdirection, huid, reads_some, logReads_some,
      Option.bind_eq_bind, Option.bind_some, Bool.not_true, Bool.false_eq_true, if_false]
    split_ifs <;> rfl

theorem handleGetItemAttributes_isSome : (handleGetItemAttributes vlogOn p).isSome := by
  obtain ⟨valid, hvalid⟩ :=
    Option.isSome_iff_exists.1 (GetItemAttributesRequest.isValid_isSome p)
  cases valid with
  | false => simp [handleGetItemAttributes, hvalid]
  | true =>
    obtain ⟨hscope, huid, hcounter, -⟩ := GetItemAttributesRequest.getters_of_isValid hvalid
    obtain ⟨scope, hscope⟩ := Option.isSome_iff_exists.1 hscope
    obtain ⟨uid, huid⟩ := Option.isSome_iff_exists.1 huid
    obtain ⟨counter, hcounter⟩ := Option.isSome_iff_exists.1 hcounter
    simp only [handleGetItemAttributes, hvalid, hscope, huid, hcounter, reads_some,
      logReads_some, Option.bind_eq_bind, Option.bind_some, Bool.not_true, Bool.false_eq_true,
      if_false]
    split_ifs <;> rfl

theorem handleGetTotalNumberOfItems_isSome : (handleGetTotalNumberOfItems vlogOn p).isSome := by
  obtain ⟨valid, hvalid⟩ :=
    Option.isSome_iff_exists.1 (GetTotalNumberOfItemsRequest.isValid_isSome p)
  cases valid with
  | false => simp [handleGetTotalNumberOfItems, hvalid]
  | true =>
    obtain ⟨hscope, -⟩ := GetTotalNumberOfItemsRequest.getters_of_isValid hvalid
    obtain ⟨scope, hscope⟩ := Option.isSome_iff_exists.1 hscope
    simp only [handleGetTotalNumberOfItems, hvalid, hscope, reads_some, logReads_some,
      Option.bind_eq_bind, Option.bind_some, Bool.not_true, Bool.false_eq_true, if_false]
    split_ifs <;> rfl

/-- Whatever bytes arrive on the browsing channel and whichever logs are on, handling them
fails no CHECK: every handler checks its request before it reads past the browse header. -/
theorem browseMessageReceived_isSome : (browseMessageReceived vlogOn st p).isSome := by
  obtain ⟨valid, hvalid⟩ := Option.isSome_iff_exists.1 (BrowsePacket.isValid_isSome p)
  cases valid with
  | false => simp [browseMessageReceived, hvalid]
  | true =>
    obtain ⟨hpdu, -⟩ := BrowsePacket.gettersSome_of_length (BrowsePacket.length_of_isValid hvalid)
    obtain ⟨pdu, hpdu⟩ := Option.isSome_iff_exists.1 hpdu
    simp only [browseMessageReceived, hvalid, hpdu, reads_some, logReads_some,
      Option.bind_eq_bind, Option.bind_some, Bool.not_true, Bool.false_eq_true, if_false]
    split_ifs
    · exact handleSetBrowsedPlayer_isSome vlogOn p
    · exact handleGetFolderItems_isSome vlogOn p
    · exact handleChangePath_isSome vlogOn st p
    · exact handleGetItemAttributes_isSome vlogOn p
    · exact handleGetTotalNumberOfItems_isSome vlogOn p
    · rfl

end Browse

/-! ## The control channel fails no CHECK once its early logs are off -/

section Control

variable {vlogOn : Nat → Bool} (st : DeviceState) {p : List UInt8}

/-- The command PDU of a valid vendor packet, which the handlers read to reject a request. -/
theorem getCommandPdu_isSome (hv : VendorPacket.isValid p = some true) :
    (VendorPacket.getCommandPdu p).isSome :=
  (VendorPacket.gettersSome_of_length (VendorPacket.length_of_isValid hv)).2.1

theorem handleGetCapabilities_isSome (h4 : vlogOn 4 = false)
    (hv : VendorPacket.isValid p = some true) : (handleGetCapabilities vlogOn p).isSome := by
  obtain ⟨pdu, hpdu⟩ := Option.isSome_iff_exists.1 (getCommandPdu_isSome hv)
  obtain ⟨valid, hvalid⟩ := Option.isSome_iff_exists.1 (GetCapabilitiesRequest.isValid_isSome p)
  cases valid with
  | false => simp [handleGetCapabilities, h4, logReads_off, hvalid, hpdu]
  | true =>
    obtain ⟨hcapability, -⟩ := GetCapabilitiesRequest.getters_of_isValid hvalid
    obtain ⟨capability, hcapability⟩ := Option.isSome_iff_exists.1 hcapability
    simp only [handleGetCapabilities, h4, logReads_off, hvalid, hcapability, reads_some,
      Option.bind_eq_bind, Option.bind_some, Bool.not_true, Bool.false_eq_true, if_false]
    split_ifs <;> rfl

theorem handleNotification_isSome (hv : VendorPacket.isValid p = some true) :
    (handleNotification vlogOn p).isSome := by
  obtain ⟨pdu, hpdu⟩ := Option.isSome_iff_exists.1 (getCommandPdu_isSome hv)
  cases hvalid : RegisterNotificationRequest.isValid p with
  | none => cases hvalid
  | some valid =>
    cases valid with
    | false => simp [handleNotification, hvalid, hpdu]
    | true =>
      obtain ⟨hevent, hinterval, -⟩ := RegisterNotificationRequest.getters_of_isValid hvalid
      obtain ⟨event, hevent⟩ := Option.isSome_iff_exists.1 hevent
      obtain ⟨interval, hinterval⟩ := Option.isSome_iff_exists.1 hinterval
      simp only [handleNotification, hvalid, hevent, hinterval, hpdu, reads_some, logReads_some,
        Option.bind_eq_bind, Option.bind_some, Bool.not_true, Bool.false_eq_true, if_false]
      split_ifs <;> rfl

theorem handleVolumeChanged_isSome (hr : RegisterNotificationResponse.isValid p = some true) :
    (handleVolumeChanged vlogOn st p).isSome := by
  obtain ⟨hinterim, -, hvolume, hvendor⟩ := RegisterNotificationResponse.getters_of_isValid hr
  obtain ⟨interim, hinterim⟩ := Option.isSome_iff_exists.1 hinterim
  obtain ⟨volume, hvolume⟩ := Option.isSome_iff_exists.1 hvolume
  obtain ⟨cType, hcType⟩ := Option.isSome_iff_exists.1 hvendor.2.2.2.2.1
  simp only [handleVolumeChanged, hinterim, hvolume, hcType, reads_some, logReads_some,
    Option.bind_eq_bind, Option.bind_some]
  split_ifs <;> rfl

theorem handlePlayItem_isSome (h2 : vlogOn 2 = false) (hv : VendorPacket.isValid p = some true) :
    (handlePlayItem vlogOn st p).isSome := by
  obtain ⟨pdu, hpdu⟩ := Option.isSome_iff_exists.1 (getCommandPdu_isSome hv)
  obtain ⟨valid, hvalid⟩ := Option.isSome_iff_exists.1 (PlayItemRequest.isValid_isSome p)
  cases valid with
  | false => simp [handlePlayItem, h2, logReads_off, hvalid, hpdu]
  | true =>
    obtain ⟨hscope, huid, -⟩ := PlayItemRequest.getters_of_isValid hvalid
    obtain ⟨scope, hscope⟩ := Option.isSome_iff_exists.1 hscope
    obtain ⟨uid, huid⟩ := Option.isSome_iff_exists.1 huid
    simp only [handlePlayItem, h2, logReads_off, hvalid, hscope, huid, Option.map_some,
      Option.bind_eq_bind, Option.bind_some, Bool.not_true, Bool.false_eq_true, if_false]
    split_ifs <;> simp

theorem vendorGetElementAttributes_isSome (hv : VendorPacket.isValid p = some true) :
    (vendorGetElementAttributes p).isSome := by
  obtain ⟨pdu, hpdu⟩ := Option.isSome_iff_exists.1 (getCommandPdu_isSome hv)
  obtain ⟨valid, hvalid⟩ :=
    Option.isSome_iff_exists.1 (GetElementAttributesRequest.isValid_isSome p)
  cases valid with
  | false => simp [vendorGetElementAttributes, hvalid, hpdu]
  | true =>
    obtain ⟨-, -, hattributes, -⟩ := GetElementAttributesRequest.getters_of_isValid hvalid
    obtain ⟨attributes, hattributes⟩ := Option.isSome_iff_exists.1 hattributes
    simp [vendorGetElementAttributes, hvalid, hattributes]

theorem vendorSetAddressedPlayer_isSome (hv : VendorPacket.isValid p = some true) :
    (vendorSetAddressedPlayer vlogOn p).isSome := by
  obtain ⟨pdu, hpdu⟩ := Option.isSome_iff_exists.1 (getCommandPdu_isSome hv)
  obtain ⟨valid, hvalid⟩ :=
    Option.isSome_iff_exists.1 (SetAddressedPlayerRequest.isValid_isSome p)
  cases valid with
  | false => simp [vendorSetAddressedPlayer, hvalid, hpdu]
  | true =>
    obtain ⟨hplayer, -⟩ := SetAddressedPlayerRequest.getters_of_isValid hvalid
    obtain ⟨playerId, hplayer⟩ := Option.isSome_iff_exists.1 hplayer
    simp [vendorSetAddressedPlayer, hvalid, hplayer]

theorem vendorResponse_isSome (hv : VendorPacket.isValid p = some true) :
    (vendorResponse vlogOn st p).isSome := by
  obtain ⟨pdu, hpdu⟩ := Option.isSome_iff_exists.1 (getCommandPdu_isSome hv)
  obtain ⟨valid, hvalid⟩ :=
    Option.isSome_iff_exists.1 (RegisterNotificationResponse.isValid_isSome p)
  simp only [vendorResponse, hpdu, reads_some, Option.bind_eq_bind, Option.bind_some]
  split_ifs
  · cases valid with
    | false => simp [hvalid]
    | true =>
      -- a valid response carries its event, and a volume change is handled
      obtain ⟨-, hevent, -⟩ := RegisterNotificationResponse.getters_of_isValid hvalid
      obtain ⟨event, hevent⟩ := Option.isSome_iff_exists.1 hevent
      simp only [hvalid, hevent, reads_some, Option.bind_some, Bool.not_true,
        Bool.false_eq_true, if_false]
      split_ifs
      · rfl
      · exact handleVolumeChanged_isSome st hvalid
  · rfl
  · rfl

theorem vendorCommand_isSome (h2 : vlogOn 2 = false) (h4 : vlogOn 4 = false)
    (hv : VendorPacket.isValid p = some true) : (vendorCommand vlogOn st p).isSome := by
  obtain ⟨hcompany, hpdu, htype, hlength, -⟩ :=
    VendorPacket.gettersSome_of_length (VendorPacket.length_of_isValid hv)
  obtain ⟨pdu, hpdu⟩ := Option.isSome_iff_exists.1 hpdu
  obtain ⟨company, hcompany⟩ := Option.isSome_iff_exists.1 hcompany
  obtain ⟨packetType, htype⟩ := Option.isSome_iff_exists.1 htype
  obtain ⟨length, hlength⟩ := Option.isSome_iff_exists.1 hlength
  simp only [vendorCommand, hpdu, Option.bind_eq_bind, Option.bind_some]
  split_ifs
  · exact handleGetCapabilities_isSome h4 hv
  · exact handleNotification_isSome hv
  · exact vendorGetElementAttributes_isSome hv
  · rfl
  · exact handlePlayItem_isSome st h2 hv
  · exact vendorSetAddressedPlayer_isSome hv
  · simp [hcompany, htype, hlength]

/-- A vendor packet fails no CHECK when `VLOG` levels 2, 3 and 4 are off. -/
theorem vendorPacketHandler_isSome (h2 : vlogOn 2 = false) (h3 : vlogOn 3 = false)
    (h4 : vlogOn 4 = false) (hlen : packetMinSize ≤ p.length) :
    (vendorPacketHandler vlogOn st p).isSome := by
  obtain ⟨cType, hcType⟩ := Option.isSome_iff_exists.1 (Packet.gettersSome_of_length hlen).1
  obtain ⟨valid, hvalid⟩ := Option.isSome_iff_exists.1 (VendorPacket.isValid_isSome p)
  cases valid with
  | false => simp [vendorPacketHandler, h3, logReads_off, hvalid]
  | true =>
    simp only [vendorPacketHandler, h3, logReads_off, hvalid, hcType, Option.bind_eq_bind,
      Option.bind_some, Bool.not_true, Bool.false_eq_true, if_false]
    split_ifs
    · rfl
    · exact vendorResponse_isSome st hvalid
    · exact vendorCommand_isSome st h2 h4 hvalid

/-- Whatever bytes arrive on the control channel, handling them fails no CHECK when `VLOG`
levels 2, 3 and 4 are off. -/
theorem messageReceived_isSome_of_vlog (h2 : vlogOn 2 = false) (h3 : vlogOn 3 = false)
    (h4 : vlogOn 4 = false) : (messageReceived vlogOn st p).isSome := by
  by_cases hlen : packetMinSize ≤ p.length
  · obtain ⟨-, -, -, hopcode⟩ := Packet.gettersSome_of_length hlen
    obtain ⟨opcode, hopcode⟩ := Option.isSome_iff_exists.1 hopcode
    have hvalid : Packet.isValid p = some true := by simp [Packet.isValid, hlen]
    simp only [messageReceived, hvalid, hopcode, reads_some, logReads_some, Option.bind_eq_bind,
      Option.bind_some, Bool.not_true, Bool.false_eq_true, if_false]
    split_ifs with hunit hpass hvendor
    · rfl
    · -- a pass-through packet is read only once its size is checked
      cases hpassValid : PassThroughPacket.isValid p with
      | none => cases hpassValid
      | some passValid =>
        cases passValid with
        | false => simp
        | true =>
          obtain ⟨hkey, hoperation, -⟩ := PassThroughPacket.getters_of_isValid hpassValid
          obtain ⟨keyState, hkey⟩ := Option.isSome_iff_exists.1 hkey
          obtain ⟨operationId, hoperation⟩ := Option.isSome_iff_exists.1 hoperation
          simp [hkey, hoperation]
    · exact vendorPacketHandler_isSome st h2 h3 h4 hlen
    · rfl
  · have hvalid : Packet.isValid p = some false := by simp [Packet.isValid]; omega
    simp [messageReceived, hvalid]

end Control

/-! ## Reads before the checks -/

/-- With every log on, three statements read a packet before the check that would guard the
read. A vendor packet of three bytes fails the CHECK of `GetCommandPdu` in the first log of
`VendorPacketHandler`; a `GET_CAPABILITIES` command with no parameter fails that of
`GetCapabilityRequested` in the first log of `HandleGetCapabilities`; a `PLAY_ITEM` command with no
parameter fails that of `GetScope` in the first log of `HandlePlayItem`. With the logs off, each is
rejected. -/
theorem messageReceived_checks_fail (st : DeviceState) :
    messageReceived (fun _ => true) st [0x01, 0x48, 0x00] = none ∧
    messageReceived (fun _ => true) st
      [0x01, 0x48, 0x00, 0x00, 0x19, 0x58, 0x10, 0x00, 0x00, 0x00] = none ∧
    messageReceived (fun _ => true) st
      [0x00, 0x48, 0x00, 0x00, 0x19, 0x58, 0x74, 0x00, 0x00, 0x00] = none ∧
    messageReceived (fun _ => false) st [0x01, 0x48, 0x00] = some (.reject 0 .invalidCommand) ∧
    messageReceived (fun _ => false) st
      [0x01, 0x48, 0x00, 0x00, 0x19, 0x58, 0x10, 0x00, 0x00, 0x00] =
        some (.reject commandPduGetCapabilities .invalidParameter) ∧
    messageReceived (fun _ => false) st
      [0x00, 0x48, 0x00, 0x00, 0x19, 0x58, 0x74, 0x00, 0x00, 0x00] =
        some (.reject commandPduPlayItem .invalidParameter) :=
  ⟨rfl, rfl, rfl, rfl, rfl, rfl⟩

end BluetoothStack.Avrcp
