import HidJoystick.Descriptors
import HidJoystick.Udd

/-!
# The HID interface

`udi_hid_generic.c` (the interface with its one IN report), `udi_hid.c` (the HID
requests) and the two hooks of `main.c` they call. The report pipe starts here:
`udiHidGenericSendReportIn` copies a report into the one buffer the endpoint
reads from, and `udiHidGenericBReportInFree` says whether it may.
-/

namespace HidJoystick

/-! ## Decoding a request -/

/-- `Udd_setup_is_in` -/
def uddSetupIsIn (req : UsbSetupReq) : Bool := req.bmRequestType &&& 0x80 == 0x80

/-- `Udd_setup_is_out` -/
def uddSetupIsOut (req : UsbSetupReq) : Bool := req.bmRequestType &&& 0x80 == 0

/-- `Udd_setup_type` -/
def uddSetupType (req : UsbSetupReq) : Byte := req.bmRequestType &&& 0x60

/-- `Udd_setup_recipient` -/
def uddSetupRecipient (req : UsbSetupReq) : Byte := req.bmRequestType &&& 0x1F

/-- `USB_REQ_TYPE_STANDARD` -/
abbrev usbReqTypeStandard : Byte := 0x00

/-- `USB_REQ_TYPE_CLASS` -/
abbrev usbReqTypeClass : Byte := 0x20

/-- `USB_REQ_RECIP_DEVICE` -/
abbrev usbReqRecipDevice : Byte := 0

/-- `USB_REQ_RECIP_INTERFACE` -/
abbrev usbReqRecipInterface : Byte := 1

/-- `USB_REQ_RECIP_ENDPOINT` -/
abbrev usbReqRecipEndpoint : Byte := 2

/-- `USB_REQ_GET_DESCRIPTOR` -/
abbrev usbReqGetDescriptor : Byte := 6

/-- `USB_REQ_HID_GET_REPORT` -/
abbrev usbReqHidGetReport : Byte := 0x01

/-- `USB_REQ_HID_GET_IDLE` -/
abbrev usbReqHidGetIdle : Byte := 0x02

/-- `USB_REQ_HID_GET_PROTOCOL` -/
abbrev usbReqHidGetProtocol : Byte := 0x03

/-- `USB_REQ_HID_SET_REPORT` -/
abbrev usbReqHidSetReport : Byte := 0x09

/-- `USB_REQ_HID_SET_IDLE` -/
abbrev usbReqHidSetIdle : Byte := 0x0A

/-- `USB_REQ_HID_SET_PROTOCOL` -/
abbrev usbReqHidSetProtocol : Byte := 0x0B

/-- `USB_HID_REPORT_TYPE_FEATURE` -/
abbrev usbHidReportTypeFeature : Word := 3

/-- `udd_set_setup_payload` -/
def uddSetSetupPayload (payload : Ptr) (payloadSize : Word) (s : Firmware) : Firmware :=
  s.modifyCtrlreq fun r => { r with payload := payload, payloadSize := payloadSize }

/-! ## The hooks of `main.c` -/

/-- `main_generic_enable` -/
def mainGenericEnable (s : Firmware) : Bool × Firmware :=
  (true, { s with mainBGenericEnable := true })

/-- `main_generic_disable` -/
def mainGenericDisable (s : Firmware) : Firmware := { s with mainBGenericEnable := false }

/-! ## The interface -/

/-- `UDI_HID_REPORT_IN_SIZE`, the size of `udi_hid_generic_report_in` -/
abbrev udiHidReportInSize : Word := 2

/-- `UDI_HID_REPORT_FEATURE_SIZE`, the size of `udi_hid_generic_report_feature` -/
abbrev udiHidReportFeatureSize : Word := 0

/-- `udi_hid_generic_enable` -/
def udiHidGenericEnable (s : Firmware) : Bool × Firmware :=
  mainGenericEnable
    ({ s with
        udiHidGenericRate := 0
        udiHidGenericProtocol := 0
        udiHidGenericBReportInFree := true }.note .started)

/-- `udi_hid_generic_disable` -/
def udiHidGenericDisable (s : Firmware) : Firmware := mainGenericDisable (s.note .stopped)

/-- `udi_hid_generic_getsetting` -/
def udiHidGenericGetsetting : Byte := 0

/-- `udi_hid_generic_setreport` -/
def udiHidGenericSetreport (s : Firmware) : Bool × Firmware :=
  let req := s.uddGCtrlreq.req
  if req.wValue >>> 8 = usbHidReportTypeFeature ∧ 0xFF &&& req.wValue = 0 ∧
      udiHidReportFeatureSize = req.wLength then
    (true, s.modifyCtrlreq fun r =>
      { r with
        payload := ⟨.udiHidGenericReportFeature, 0⟩
        callback := some .udiHidGenericSetfeatureValid
        payloadSize := udiHidReportFeatureSize })
  else (false, s)

/-- `udi_hid_generic_setfeature_valid`: both ways out do nothing. -/
def udiHidGenericSetfeatureValid (s : Firmware) : Firmware := s

/-- `udi_hid_generic_send_report_in` -/
def udiHidGenericSendReportIn (data : Report) (s : Firmware) :
    Except Fault (Bool × Firmware) := do
  if !s.udiHidGenericBReportInFree then
    return (false, s.note (.offered data false))
  else
    let s := { s with udiHidGenericReportIn := ⟨0, 0⟩ }
    let s := { s with udiHidGenericReportIn := data }
    let (started, s) ← uddEpRun udiHidGenericEpIn false ⟨.udiHidGenericReportIn, 0⟩
      udiHidReportInSize (some .udiHidGenericReportInSent) s
    let s := { s with udiHidGenericBReportInFree := !started }
    let accepted := !s.udiHidGenericBReportInFree
    return (accepted, s.note (.offered data accepted))

/-! ## HID requests -/

/-- `sizeof(usb_iface_desc_t)` -/
abbrev sizeofUsbIfaceDesc : ℕ := 9

/-- The macro `min`. -/
def minWord (a b : Word) : Word := if a < b then a else b

/-- `udi_hid_reqstdifaceget_descriptor` -/
def udiHidReqstdifacegetDescriptor (s : Firmware) : Bool × Firmware :=
  let req := s.uddGCtrlreq.req
  let ptrHidDesc := s.udcPtrIface + sizeofUsbIfaceDesc
  if usbDtHid ≠ descBDescriptorType ptrHidDesc then (false, s)
  else if usbDtHid = (req.wValue >>> 8).setWidth 8 then
    (true, uddSetSetupPayload ⟨.udcDesc, ptrHidDesc⟩
      (minWord req.wLength (BitVec.ofNat 16 (descBLength ptrHidDesc))) s)
  else if udcDescByte (ptrHidDesc + 6) = (req.wValue >>> 8).setWidth 8 then
    (true, uddSetSetupPayload ⟨.udiHidGenericReportDesc, 0⟩
      (minWord req.wLength (udcDescWord (ptrHidDesc + 7))) s)
  else (false, s)

/-- `udi_hid_setup`, with the arguments `udi_hid_generic_setup` gives it. -/
def udiHidSetup (s : Firmware) : Bool × Firmware :=
  let req := s.uddGCtrlreq.req
  if uddSetupIsIn req then
    if uddSetupType req = usbReqTypeStandard then
      if req.bRequest = usbReqGetDescriptor then udiHidReqstdifacegetDescriptor s
      else (false, s)
    else if uddSetupType req = usbReqTypeClass then
      if req.bRequest = usbReqHidGetReport then udiHidGenericSetreport s
      else if req.bRequest = usbReqHidGetIdle then
        (true, uddSetSetupPayload ⟨.udiHidGenericRate, 0⟩ 1 s)
      else if req.bRequest = usbReqHidGetProtocol then
        (true, uddSetSetupPayload ⟨.udiHidGenericProtocol, 0⟩ 1 s)
      else (false, s)
    else (false, s)
  else if uddSetupIsOut req then
    if uddSetupType req = usbReqTypeClass then
      if req.bRequest = usbReqHidSetReport then udiHidGenericSetreport s
      else if req.bRequest = usbReqHidSetIdle then
        (true, { s with udiHidGenericRate := (req.wValue >>> 8).setWidth 8 })
      else if req.bRequest = usbReqHidSetProtocol then
        if 0 ≠ req.wLength then (false, s)
        else (true, { s with udiHidGenericProtocol := req.wValue.setWidth 8 })
      else (false, s)
    else (false, s)
  else (false, s)

/-- `udi_hid_generic_setup` -/
def udiHidGenericSetup (s : Firmware) : Bool × Firmware := udiHidSetup s

end HidJoystick
