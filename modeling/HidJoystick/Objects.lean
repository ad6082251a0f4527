import HidJoystick.Udc

/-!
# What a host can ask for and tell

The objects a host can read through the control endpoint, as bytes, and which IN request
asks for which (`Firmware.requested`); the OUT requests that are accepted
(`Firmware.takes`), and what an accepted one leaves to be done at its end
(`Firmware.defers`). The memory a reply is read from is `Firmware.contents`.
-/

namespace HidJoystick

/-! ## The objects -/

/-- `udc_device_desc` -/
def udcDeviceDesc : List Byte :=
  [18, usbDtDevice,
   0x00, 0x02,  -- bcdUSB: 2.0
   0, 0, 0,     -- class, subclass and protocol are those of the interface
   8,           -- bMaxPacketSize0
   0xEB, 0x03,  -- idVendor: USB_VID_ATMEL
   0x32, 0x21,  -- idProduct: USB_PID_ATMEL_ASF_HIDJOYSTICK
   0x00, 0x01,  -- bcdDevice: 1.0
   1, 2, 0,     -- iManufacturer, iProduct, no serial number
   1]           -- bNumConfigurations

/-- `udc_string_desc_languageid`: English (United States) -/
def udcStringDescLanguageid : List Byte := [4, usbDtString, 0x09, 0x04]

/-- `udc_string_manufacturer_name`: "ATMEL ASF" -/
def udcStringManufacturerName : List Byte :=
  [0x41, 0x54, 0x4D, 0x45, 0x4C, 0x20, 0x41, 0x53, 0x46]

/-- `udc_string_product_name`: "HID Joystick" -/
def udcStringProductName : List Byte :=
  [0x48, 0x49, 0x44, 0x20, 0x4A, 0x6F, 0x79, 0x73, 0x74, 0x69, 0x63, 0x6B]

/-- The characters of a string descriptor, as little-endian words. -/
def unicode (name : List Byte) : List Byte := name.flatMap fun c => [c, 0]

/-- The string descriptor of a name. -/
def stringDesc (name : List Byte) : List Byte :=
  [2 + BitVec.ofNat 8 name.length * 2, usbDtString] ++ unicode name

/-- A word in memory. -/
def wordBytes (w : Word) : List Byte := [w.setWidth 8, (w >>> 8).setWidth 8]

/-- The name `udc_string_desc.string` holds. The state keeps the length of the descriptor
only; it is written together with the name, and tells the two names apart. -/
def udcStringDescName (bLength : Byte) : List Byte :=
  if bLength = 2 + usbDeviceManufactureNameSize * 2 then udcStringManufacturerName
  else if bLength = 2 + usbDeviceProductNameSize * 2 then udcStringProductName
  else []

/-- The bytes a static buffer holds. -/
def Firmware.contents (s : Firmware) : Buffer → List Byte
  | .null => []
  | .udiHidGenericReportIn => s.udiHidGenericReportIn.toList
  | .udiHidGenericReportFeature => []
  | .udiHidGenericRate => [s.udiHidGenericRate]
  | .udiHidGenericProtocol => [s.udiHidGenericProtocol]
  | .udiHidGenericReportDesc => udiHidGenericReportDesc
  | .udcDeviceDesc => udcDeviceDesc
  | .udcDesc => udcDesc
  | .udcStringDescLanguageid => udcStringDescLanguageid
  | .udcStringDesc =>
    [s.udcStringDescBLength, usbDtString] ++ unicode (udcStringDescName s.udcStringDescBLength)
  | .udcDeviceStatus => wordBytes s.udcDeviceStatus
  | .udcEpStatus => wordBytes s.udcEpStatus
  | .udcIfaceSetting => [s.udcIfaceSetting]
  | .udcNumConfiguration => [s.udcNumConfiguration]
  | .uddCtrlBuffer => s.uddCtrlBuffer.toList

/-- The bytes from a pointer to the end of its buffer. -/
def Firmware.bytesAt (p : Ptr) (s : Firmware) : List Byte := (s.contents p.base).drop p.offset

/-! ## What requests ask for -/

/-- The string an index names. -/
def requestedString (index : Word) : Option (List Byte) :=
  if index = 0 then some udcStringDescLanguageid
  else if index = 1 then some (stringDesc udcStringManufacturerName)
  else if index = 2 then some (stringDesc udcStringProductName)
  else none

/-- The descriptor of the device a GET_DESCRIPTOR request names. -/
def requestedDescriptor (wValue : Word) : Option (List Byte) :=
  if (wValue >>> 8).setWidth 8 = usbDtDevice then some udcDeviceDesc
  else if (wValue >>> 8).setWidth 8 = usbDtConfiguration then
    if wValue &&& 0xFF = 0 then some udcDesc else none
  else if (wValue >>> 8).setWidth 8 = usbDtString then requestedString (wValue &&& 0xFF)
  else none

/-- What a standard request asks the device for. -/
def Firmware.requestedDevice (s : Firmware) : Option (List Byte) :=
  let req := s.uddGCtrlreq.req
  if req.bRequest = usbReqGetStatus then
    if req.wLength = 2 then some (wordBytes s.udcDeviceStatus) else none
  else if req.bRequest = usbReqGetDescriptor then requestedDescriptor req.wValue
  else if req.bRequest = usbReqGetConfiguration then
    if req.wLength = 1 then some [s.udcNumConfiguration] else none
  else none

/-- The request is for interface 0 of the configuration. -/
def Firmware.namesIface (s : Firmware) : Prop :=
  s.udcNumConfiguration ≠ 0 ∧ (s.uddGCtrlreq.req.wIndex &&& 0xFF).setWidth 8 = (0 : Byte)

instance (s : Firmware) : Decidable s.namesIface := inferInstanceAs (Decidable (_ ∧ _))

/-- What a standard request asks an interface for. -/
def Firmware.requestedInterface (s : Firmware) : Option (List Byte) :=
  if s.uddGCtrlreq.req.bRequest = usbReqGetInterface ∧ s.uddGCtrlreq.req.wLength = 1 ∧
      s.namesIface then some [0] else none

/-- What a standard request asks an endpoint for. -/
def Firmware.requestedEndpoint (s : Firmware) : Option (List Byte) :=
  let req := s.uddGCtrlreq.req
  if req.bRequest = usbReqGetStatus ∧ req.wLength = 2 then
    match uddEpGetCtrl req.ep with
    | .ok c => some (wordBytes (if (s.ctrl c).stall then usbEpStatusHalted else 0))
    | .error _ => none
  else none

/-- What a standard request asks for. -/
def Firmware.requestedStandard (s : Firmware) : Option (List Byte) :=
  let req := s.uddGCtrlreq.req
  if uddSetupRecipient req = usbReqRecipDevice then s.requestedDevice
  else if uddSetupRecipient req = usbReqRecipInterface then s.requestedInterface
  else if uddSetupRecipient req = usbReqRecipEndpoint then s.requestedEndpoint
  else none

/-- The HID descriptor, a part of `udc_desc` -/
def hidDesc : List Byte := (udcDesc.drop 18).take 9

/-- What a request asks the HID interface for. GET_REPORT is for the feature report,
which has no bytes to ask for. -/
def Firmware.requestedHid (s : Firmware) : Option (List Byte) :=
  let req := s.uddGCtrlreq.req
  if uddSetupType req = usbReqTypeStandard then
    if req.bRequest = usbReqGetDescriptor then
      if (req.wValue >>> 8).setWidth 8 = usbDtHid then some hidDesc
      else if (req.wValue >>> 8).setWidth 8 = (0x22 : Byte) then some udiHidGenericReportDesc
      else none
    else none
  else if uddSetupType req = usbReqTypeClass then
    if req.bRequest = usbReqHidGetIdle then some [s.udiHidGenericRate]
    else if req.bRequest = usbReqHidGetProtocol then some [s.udiHidGenericProtocol]
    else none
  else none

/-- The request reaches the HID interface: it is for interface 0, or for any endpoint. -/
def Firmware.offersHid (s : Firmware) : Prop :=
  uddSetupRecipient s.uddGCtrlreq.req = usbReqRecipInterface ∧ s.namesIface ∨
    uddSetupRecipient s.uddGCtrlreq.req = usbReqRecipEndpoint ∧ s.udcNumConfiguration ≠ 0

instance (s : Firmware) : Decidable s.offersHid := inferInstanceAs (Decidable (_ ∨ _))

/-- **What an IN request asks for**: an object of the device, or else one of the HID
interface. A request for no bytes asks for nothing. -/
def Firmware.requested (s : Firmware) : Option (List Byte) :=
  if s.uddGCtrlreq.req.wLength = 0 then none
  else
    (if uddSetupType s.uddGCtrlreq.req = usbReqTypeStandard then s.requestedStandard else none) <|>
      (if s.offersHid then s.requestedHid else none)

/-! ## What requests tell the device -/

/-- The standard OUT requests the device accepts. -/
def Firmware.takesDevice (s : Firmware) : Prop :=
  let req := s.uddGCtrlreq.req
  req.wLength = 0 ∧
    (req.bRequest = usbReqSetAddress ∨
      (req.bRequest = usbReqClearFeature ∨ req.bRequest = usbReqSetFeature) ∧
        req.wValue = usbDevFeatureRemoteWakeup ∨
      req.bRequest = usbReqSetConfiguration ∧ s.usbAddr ≠ 0 ∧ (req.wValue &&& 0xFF).toNat ≤ 1)

/-- The standard OUT requests an interface accepts. -/
def Firmware.takesInterface (s : Firmware) : Prop :=
  let req := s.uddGCtrlreq.req
  req.wLength = 0 ∧ req.bRequest = usbReqSetInterface ∧ s.namesIface ∧
    (req.wValue &&& 0xFF).setWidth 8 = (0 : Byte)

/-- The standard OUT requests an endpoint accepts. -/
def Firmware.takesEndpoint (s : Firmware) : Prop :=
  let req := s.uddGCtrlreq.req
  req.wLength = 0 ∧ (req.bRequest = usbReqClearFeature ∨ req.bRequest = usbReqSetFeature) ∧
    req.wValue = usbEpFeatureHalt

/-- The standard OUT requests that are accepted. -/
def Firmware.takesStandard (s : Firmware) : Prop :=
  let req := s.uddGCtrlreq.req
  uddSetupRecipient req = usbReqRecipDevice ∧ s.takesDevice ∨
    uddSetupRecipient req = usbReqRecipInterface ∧ s.takesInterface ∨
    uddSetupRecipient req = usbReqRecipEndpoint ∧ s.takesEndpoint

/-- The class requests the HID interface accepts. Only SET_IDLE may announce data. -/
def Firmware.takesHid (s : Firmware) : Prop :=
  let req := s.uddGCtrlreq.req
  req.bRequest = usbReqHidSetReport ∧ req.wValue >>> 8 = usbHidReportTypeFeature ∧
      0xFF &&& req.wValue = 0 ∧ req.wLength = 0 ∨
    req.bRequest = usbReqHidSetIdle ∨
    req.bRequest = usbReqHidSetProtocol ∧ req.wLength = 0

/-- **The OUT requests that are accepted.** -/
def Firmware.takes (s : Firmware) : Prop :=
  uddSetupType s.uddGCtrlreq.req = usbReqTypeStandard ∧ s.takesStandard ∨
    uddSetupType s.uddGCtrlreq.req = usbReqTypeClass ∧ s.offersHid ∧ s.takesHid

instance (s : Firmware) : Decidable s.takesDevice := inferInstanceAs (Decidable (_ ∧ _))

instance (s : Firmware) : Decidable s.takesInterface := inferInstanceAs (Decidable (_ ∧ _))

instance (s : Firmware) : Decidable s.takesEndpoint := inferInstanceAs (Decidable (_ ∧ _))

instance (s : Firmware) : Decidable s.takesStandard := inferInstanceAs (Decidable (_ ∨ _))

instance (s : Firmware) : Decidable s.takesHid := inferInstanceAs (Decidable (_ ∨ _))

instance (s : Firmware) : Decidable s.takes := inferInstanceAs (Decidable (_ ∨ _))

/-- The address an accepted OUT request sets at its end. -/
def Firmware.defers (s : Firmware) : Option Byte :=
  let req := s.uddGCtrlreq.req
  if uddSetupType req = usbReqTypeStandard ∧ uddSetupRecipient req = usbReqRecipDevice ∧
      req.bRequest = usbReqSetAddress then some ((req.wValue &&& 0x7F).setWidth 8) else none

/-- The address the callback of the request sets. -/
def Firmware.deferred (s : Firmware) : Option Byte :=
  match s.uddGCtrlreq.callback with
  | some .udcValidAddress => some ((s.uddGCtrlreq.req.wValue &&& 0x7F).setWidth 8)
  | some .udiHidGenericSetfeatureValid => none
  | none => none

end HidJoystick
