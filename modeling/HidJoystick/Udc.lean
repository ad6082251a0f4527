import HidJoystick.Udi

/-!
# The device controller

`udc.c`: configurations, interfaces, and the decoding of every SETUP request. The
one thing a SETUP packet can do to the report pipe goes through here: selecting a
configuration or an interface setting, and halting an endpoint whose number is
whatever the host wrote into `wIndex`.
-/

namespace HidJoystick

/-! ## Request codes -/

/-- `USB_REQ_GET_STATUS` -/
abbrev usbReqGetStatus : Byte := 0

/-- `USB_REQ_CLEAR_FEATURE` -/
abbrev usbReqClearFeature : Byte := 1

/-- `USB_REQ_SET_FEATURE` -/
abbrev usbReqSetFeature : Byte := 3

/-- `USB_REQ_SET_ADDRESS` -/
abbrev usbReqSetAddress : Byte := 5

/-- `USB_REQ_GET_CONFIGURATION` -/
abbrev usbReqGetConfiguration : Byte := 8

/-- `USB_REQ_SET_CONFIGURATION` -/
abbrev usbReqSetConfiguration : Byte := 9

/-- `USB_REQ_GET_INTERFACE` -/
abbrev usbReqGetInterface : Byte := 10

/-- `USB_REQ_SET_INTERFACE` -/
abbrev usbReqSetInterface : Byte := 11

/-- `USB_DEV_FEATURE_REMOTE_WAKEUP` -/
abbrev usbDevFeatureRemoteWakeup : Word := 1

/-- `USB_DEV_STATUS_REMOTEWAKEUP` -/
abbrev usbDevStatusRemotewakeup : Word := 2

/-- `USB_DEV_STATUS_BUS_POWERED` -/
abbrev usbDevStatusBusPowered : Word := 0

/-- `USB_EP_FEATURE_HALT` -/
abbrev usbEpFeatureHalt : Word := 0

/-- `USB_EP_STATUS_HALTED` -/
abbrev usbEpStatusHalted : Word := 1

/-! ## Interfaces and configurations -/

/-- The loop of `udc_iface_disable`: free every endpoint of the interface. -/
def udcFreeEndpoints : ℕ → ℕ → Firmware → Except Fault Firmware
  | 0, _, s => .ok s
  | fuel + 1, epDesc, s =>
    match udcNextDescInIface epDesc usbDtEndpoint with
    | none => .ok s
    | some epDesc => do
      let s ← uddEpFree (udcDescByte (epDesc + 2)) s
      udcFreeEndpoints fuel epDesc s

/-- `udc_iface_disable` -/
def udcIfaceDisable (ifaceNum : Byte) (s : Firmware) : Except Fault (Bool × Firmware) := do
  let (found, s) := udcUpdateIfaceDesc ifaceNum 0 s
  if !found then
    return (false, s)
  else
    let (found, s) := udcUpdateIfaceDesc ifaceNum udiHidGenericGetsetting s
    if !found then
      return (false, s)
    else
      let s ← udcFreeEndpoints udcGetEofConf s.udcPtrIface s
      return (true, udiHidGenericDisable s)

/-- The loop of `udc_iface_enable`: allocate every endpoint of the interface. -/
def udcAllocEndpoints : ℕ → ℕ → Firmware → Except Fault (Bool × Firmware)
  | 0, _, s => .ok (true, s)
  | fuel + 1, epDesc, s =>
    match udcNextDescInIface epDesc usbDtEndpoint with
    | none => .ok (true, s)
    | some epDesc => do
      let (allocated, s) ← uddEpAlloc (udcDescByte (epDesc + 2)) (udcDescByte (epDesc + 3))
        (udcDescWord (epDesc + 4)) s
      if !allocated then
        return (false, s)
      else
        udcAllocEndpoints fuel epDesc s

/-- `udc_iface_enable` -/
def udcIfaceEnable (ifaceNum settingNum : Byte) (s : Firmware) :
    Except Fault (Bool × Firmware) := do
  let (found, s) := udcUpdateIfaceDesc ifaceNum settingNum s
  if !found then
    return (false, s)
  else
    let (allocated, s) ← udcAllocEndpoints udcGetEofConf s.udcPtrIface s
    if !allocated then
      return (false, s)
    else
      return udiHidGenericEnable s

/-- The interface numbers of the configuration. -/
def udcIfaceNums : List Byte := (List.range confBNumInterfaces.toNat).map (BitVec.ofNat 8)

/-- The loop of `udc_reset`: disable every interface, found or not. -/
def udcDisableIfaces : List Byte → Firmware → Except Fault Firmware
  | [], s => .ok s
  | ifaceNum :: rest, s => do
    let (_, s) ← udcIfaceDisable ifaceNum s
    udcDisableIfaces rest s

/-- `udc_reset`. The remote wakeup hook it may call is empty. -/
def udcReset (s : Firmware) : Except Fault Firmware := do
  let s ← if s.udcNumConfiguration ≠ 0 then udcDisableIfaces udcIfaceNums s else .ok s
  return { s with udcNumConfiguration := 0, udcDeviceStatus := usbDevStatusBusPowered }

/-- The loop of `udc_req_std_dev_set_configuration`: enable every interface. -/
def udcEnableIfaces : List Byte → Firmware → Except Fault (Bool × Firmware)
  | [], s => .ok (true, s)
  | ifaceNum :: rest, s => do
    let (enabled, s) ← udcIfaceEnable ifaceNum 0 s
    if !enabled then
      return (false, s)
    else
      udcEnableIfaces rest s

/-! ## Standard device requests -/

/-- `udc_req_std_dev_get_status` -/
def udcReqStdDevGetStatus (s : Firmware) : Bool × Firmware :=
  if s.uddGCtrlreq.req.wLength ≠ 2 then (false, s)
  else (true, uddSetSetupPayload ⟨.udcDeviceStatus, 0⟩ 2 s)

/-- `udc_req_std_dev_clear_feature` -/
def udcReqStdDevClearFeature (s : Firmware) : Bool × Firmware :=
  if s.uddGCtrlreq.req.wLength ≠ 0 then (false, s)
  else if s.uddGCtrlreq.req.wValue = usbDevFeatureRemoteWakeup then
    (true, { s with udcDeviceStatus := s.udcDeviceStatus &&& ~~~usbDevStatusRemotewakeup })
  else (false, s)

/-- `udc_req_std_dev_set_feature` -/
def udcReqStdDevSetFeature (s : Firmware) : Bool × Firmware :=
  if s.uddGCtrlreq.req.wLength ≠ 0 then (false, s)
  else if s.uddGCtrlreq.req.wValue = usbDevFeatureRemoteWakeup then
    (true, { s with udcDeviceStatus := s.udcDeviceStatus ||| usbDevStatusRemotewakeup })
  else (false, s)

/-- `udd_set_address` -/
def uddSetAddress (address : Byte) (s : Firmware) : Firmware := { s with usbAddr := address }

/-- `udd_getaddress` -/
def uddGetaddress (s : Firmware) : Byte := s.usbAddr

/-- `udc_valid_address` -/
def udcValidAddress (s : Firmware) : Firmware :=
  uddSetAddress ((s.uddGCtrlreq.req.wValue &&& 0x7F).setWidth 8) s

/-- `udc_req_std_dev_set_address` -/
def udcReqStdDevSetAddress (s : Firmware) : Bool × Firmware :=
  if s.uddGCtrlreq.req.wLength ≠ 0 then (false, s)
  else (true, s.modifyCtrlreq fun r => { r with callback := some .udcValidAddress })

/-- Length of `udc_string_manufacturer_name` -/
abbrev usbDeviceManufactureNameSize : Byte := 9

/-- Length of `udc_string_product_name` -/
abbrev usbDeviceProductNameSize : Byte := 12

/-- The end of `udc_req_std_dev_get_str_desc`: hand out `udc_string_desc` with a
string of this length in it. -/
def udcStringPayload (strLength : Byte) (s : Firmware) : Firmware :=
  let bLength := 2 + strLength * 2
  uddSetSetupPayload ⟨.udcStringDesc, 0⟩ (bLength.setWidth 16)
    { s with udcStringDescBLength := bLength }

/-- `udc_req_std_dev_get_str_desc` -/
def udcReqStdDevGetStrDesc (s : Firmware) : Bool × Firmware :=
  let index := s.uddGCtrlreq.req.wValue &&& 0xFF
  if index = 0 then (true, uddSetSetupPayload ⟨.udcStringDescLanguageid, 0⟩ 4 s)
  else if index = 1 then (true, udcStringPayload usbDeviceManufactureNameSize s)
  else if index = 2 then (true, udcStringPayload usbDeviceProductNameSize s)
  else (false, s)

/-- The end of `udc_req_std_dev_get_descriptor`: no more than was asked for. -/
def udcTrimPayload (s : Firmware) : Firmware :=
  s.modifyCtrlreq fun r =>
    if r.req.wLength < r.payloadSize then { r with payloadSize := r.req.wLength } else r

/-- `udc_req_std_dev_get_descriptor`. There is no BOS descriptor: `conf_bos` is
never set. -/
def udcReqStdDevGetDescriptor (s : Firmware) : Bool × Firmware :=
  let confNum := (s.uddGCtrlreq.req.wValue &&& 0xFF).setWidth 8
  let descType := (s.uddGCtrlreq.req.wValue >>> 8).setWidth 8
  if descType = usbDtDevice then
    (true, udcTrimPayload (uddSetSetupPayload ⟨.udcDeviceDesc, 0⟩ udcDeviceDescBLength s))
  else if descType = usbDtConfiguration then
    if confNum ≥ udcDeviceDescBNumConfigurations then (false, s)
    else (true, udcTrimPayload (uddSetSetupPayload ⟨.udcDesc, 0⟩ confWTotalLength s))
  else if descType = usbDtBos then (false, s)
  else if descType = usbDtString then
    let (found, s) := udcReqStdDevGetStrDesc s
    if !found then (false, s) else (true, udcTrimPayload s)
  else (false, s)

/-- `udc_req_std_dev_get_configuration` -/
def udcReqStdDevGetConfiguration (s : Firmware) : Bool × Firmware :=
  if s.uddGCtrlreq.req.wLength ≠ 1 then (false, s)
  else (true, uddSetSetupPayload ⟨.udcNumConfiguration, 0⟩ 1 s)

/-- `udc_req_std_dev_set_configuration` -/
def udcReqStdDevSetConfiguration (s : Firmware) : Except Fault (Bool × Firmware) := do
  let req := s.uddGCtrlreq.req
  if req.wLength ≠ 0 then
    return (false, s)
  else if uddGetaddress s = 0 then
    return (false, s)
  else if req.wValue &&& 0xFF > udcDeviceDescBNumConfigurations.setWidth 16 then
    return (false, s)
  else
    let s ← udcReset s
    let s := { s with udcNumConfiguration := (req.wValue &&& 0xFF).setWidth 8 }
    if s.udcNumConfiguration = 0 then
      return (true, s) -- the empty configuration
    else
      udcEnableIfaces udcIfaceNums s

/-! ## Standard interface and endpoint requests -/

/-- `udc_req_std_iface_get_setting` -/
def udcReqStdIfaceGetSetting (s : Firmware) : Bool × Firmware :=
  let ifaceNum := (s.uddGCtrlreq.req.wIndex &&& 0xFF).setWidth 8
  if s.uddGCtrlreq.req.wLength ≠ 1 then (false, s)
  else if s.udcNumConfiguration = 0 then (false, s)
  else if ifaceNum ≥ confBNumInterfaces then (false, s)
  else
    let (found, s) := udcUpdateIfaceDesc ifaceNum 0 s
    if !found then (false, s)
    else
      (true, uddSetSetupPayload ⟨.udcIfaceSetting, 0⟩ 1
        { s with udcIfaceSetting := udiHidGenericGetsetting })

/-- `udc_req_std_iface_set_setting`. The current setting is given up before it is
known whether the new one exists. -/
def udcReqStdIfaceSetSetting (s : Firmware) : Except Fault (Bool × Firmware) := do
  let req := s.uddGCtrlreq.req
  if req.wLength ≠ 0 then
    return (false, s)
  else if s.udcNumConfiguration = 0 then
    return (false, s)
  else
    let ifaceNum := (req.wIndex &&& 0xFF).setWidth 8
    let settingNum := (req.wValue &&& 0xFF).setWidth 8
    let (disabled, s) ← udcIfaceDisable ifaceNum s
    if !disabled then
      return (false, s)
    else
      udcIfaceEnable ifaceNum settingNum s

/-- The endpoint number of a request: `wIndex & 0xFF`. -/
def UsbSetupReq.ep (req : UsbSetupReq) : Byte := (req.wIndex &&& 0xFF).setWidth 8

/-- `udc_req_std_ep_get_status` -/
def udcReqStdEpGetStatus (s : Firmware) : Except Fault (Bool × Firmware) := do
  if s.uddGCtrlreq.req.wLength ≠ 2 then
    return (false, s)
  else
    let halted ← uddEpIsHalted s.uddGCtrlreq.req.ep s
    let s := { s with udcEpStatus := if halted then usbEpStatusHalted else 0 }
    return (true, uddSetSetupPayload ⟨.udcEpStatus, 0⟩ 2 s)

/-- `udc_req_std_ep_clear_feature` -/
def udcReqStdEpClearFeature (s : Firmware) : Except Fault (Bool × Firmware) := do
  if s.uddGCtrlreq.req.wLength ≠ 0 then
    return (false, s)
  else if s.uddGCtrlreq.req.wValue = usbEpFeatureHalt then
    uddEpClearHalt s.uddGCtrlreq.req.ep s
  else
    return (false, s)

/-- `udc_req_std_ep_set_feature` -/
def udcReqStdEpSetFeature (s : Firmware) : Except Fault (Bool × Firmware) := do
  if s.uddGCtrlreq.req.wLength ≠ 0 then
    return (false, s)
  else if s.uddGCtrlreq.req.wValue = usbEpFeatureHalt then
    let s ← uddEpAbort s.uddGCtrlreq.req.ep s
    uddEpSetHalt s.uddGCtrlreq.req.ep s
  else
    return (false, s)

/-! ## Dispatch -/

/-- `udc_reqstd` -/
def udcReqstd (s : Firmware) : Except Fault (Bool × Firmware) := do
  let req := s.uddGCtrlreq.req
  if uddSetupIsIn req then
    if req.wLength = 0 then
      return (false, s)
    else if uddSetupRecipient req = usbReqRecipDevice then
      if req.bRequest = usbReqGetStatus then return udcReqStdDevGetStatus s
      else if req.bRequest = usbReqGetDescriptor then return udcReqStdDevGetDescriptor s
      else if req.bRequest = usbReqGetConfiguration then return udcReqStdDevGetConfiguration s
      else return (false, s)
    else if uddSetupRecipient req = usbReqRecipInterface then
      if req.bRequest = usbReqGetInterface then return udcReqStdIfaceGetSetting s
      else return (false, s)
    else if uddSetupRecipient req = usbReqRecipEndpoint then
      if req.bRequest = usbReqGetStatus then udcReqStdEpGetStatus s
      else return (false, s)
    else
      return (false, s)
  else
    if uddSetupRecipient req = usbReqRecipDevice then
      if req.bRequest = usbReqSetAddress then return udcReqStdDevSetAddress s
      else if req.bRequest = usbReqClearFeature then return udcReqStdDevClearFeature s
      else if req.bRequest = usbReqSetFeature then return udcReqStdDevSetFeature s
      else if req.bRequest = usbReqSetConfiguration then udcReqStdDevSetConfiguration s
      else return (false, s)
    else if uddSetupRecipient req = usbReqRecipInterface then
      if req.bRequest = usbReqSetInterface then udcReqStdIfaceSetSetting s
      else return (false, s)
    else if uddSetupRecipient req = usbReqRecipEndpoint then
      if req.bRequest = usbReqClearFeature then udcReqStdEpClearFeature s
      else if req.bRequest = usbReqSetFeature then udcReqStdEpSetFeature s
      else return (false, s)
    else
      return (false, s)

/-- `udc_req_iface` -/
def udcReqIface (s : Firmware) : Bool × Firmware :=
  let ifaceNum := (s.uddGCtrlreq.req.wIndex &&& 0xFF).setWidth 8
  if s.udcNumConfiguration = 0 then (false, s)
  else if ifaceNum ≥ confBNumInterfaces then (false, s)
  else
    let (found, s) := udcUpdateIfaceDesc ifaceNum 0 s
    if !found then (false, s)
    else
      let (found, s) := udcUpdateIfaceDesc ifaceNum udiHidGenericGetsetting s
      if !found then (false, s) else udiHidGenericSetup s

/-- The loop of `udc_req_ep`: offer the request to every interface. -/
def udcOfferIfaces : List Byte → Firmware → Bool × Firmware
  | [], s => (false, s)
  | ifaceNum :: rest, s =>
    let (found, s) := udcUpdateIfaceDesc ifaceNum udiHidGenericGetsetting s
    if !found then (false, s)
    else
      let (accepted, s) := udiHidGenericSetup s
      if accepted then (true, s) else udcOfferIfaces rest s

/-- `udc_req_ep` -/
def udcReqEp (s : Firmware) : Bool × Firmware :=
  if s.udcNumConfiguration = 0 then (false, s) else udcOfferIfaces udcIfaceNums s

/-- The start of `udc_process_setup`: no data and no callbacks by default. -/
def udcClearCtrlreq (s : Firmware) : Firmware :=
  s.modifyCtrlreq fun r => { r with payloadSize := 0, callback := none, overUnderRun := none }

/-- The end of `udc_process_setup`: what `udc_reqstd` did not take is offered to
the interfaces. -/
def udcOfferSetup (s : Firmware) : Bool × Firmware :=
  let (accepted, s) :=
    if uddSetupRecipient s.uddGCtrlreq.req = usbReqRecipInterface then udcReqIface s
    else (false, s)
  if accepted then (true, s)
  else if uddSetupRecipient s.uddGCtrlreq.req = usbReqRecipEndpoint then udcReqEp s
  else (false, s)

/-- `udc_process_setup` -/
def udcProcessSetup (s : Firmware) : Except Fault (Bool × Firmware) := do
  let s := udcClearCtrlreq s
  if uddSetupIsIn s.uddGCtrlreq.req ∧ s.uddGCtrlreq.req.wLength = 0 then
    return (false, s)
  else
    let (accepted, s) ←
      if uddSetupType s.uddGCtrlreq.req = usbReqTypeStandard then udcReqstd s
      else .ok (false, s)
    if accepted then
      return (true, s)
    else
      return udcOfferSetup s

end HidJoystick
