import HidJoystick.Mailbox
import HidJoystick.Slider

/-!
# The state of the firmware

One record holds every static variable the modelled functions read or write,
grouped by the file it lives in, together with the two pieces of hardware the
driver shares with the USB controller: the endpoint table `udd_sram.ep_ctrl` and
the address register.

* Registers are kept as their named bits. The bit positions come from the
  device's own header, which the repository does not contain; the driver only
  ever names bits. Of `CTRL` one position matters: `STALL` is a bit of the size
  field.
* Function pointers are enumerations of the functions that are ever stored in
  them, and pointers to data are a static buffer with an offset.
* The source indexes `udd_ep_job` and `ep_ctrl` with numbers the host sends,
  behind assertions that are compiled out. Leaving an array is a `Fault`: what
  the program does from there on is undefined, and the model does not continue.
* `history` is not part of the program. It records what the outside can see, and
  no modelled function reads it.
-/

namespace HidJoystick

/-! ## Faults -/

/-- Undefined behaviour the model stops at. -/
inductive Fault : Type where
  /-- `udd_sram.ep_ctrl` indexed out of range -/
  | epCtrlIndex : ℕ → Fault
  /-- `udd_ep_job` indexed out of range -/
  | epJobIndex : ℤ → Fault
  /-- an `udd_callback_trans_t` called through the `call_nohalt` half of its union -/
  | callbackType : Fault
  /-- a transfer on an OUT endpoint other than the control endpoint; the firmware
  starts none, and the OUT half of the transfer code is not modelled -/
  | outTransfer : Fault
  /-- the data stage of a control transfer copies this many bytes into RAM -/
  | hostWrite : ℕ → Fault
  deriving DecidableEq, Repr

/-! ## Buffers and callbacks -/

/-- The static buffers a `payload`, a job or an endpoint can point at. -/
inductive Buffer : Type where
  /-- the null pointer -/
  | null : Buffer
  | udiHidGenericReportIn : Buffer
  | udiHidGenericReportFeature : Buffer
  | udiHidGenericRate : Buffer
  | udiHidGenericProtocol : Buffer
  | udiHidGenericReportDesc : Buffer
  | udcDeviceDesc : Buffer
  | udcDesc : Buffer
  | udcStringDescLanguageid : Buffer
  | udcStringDesc : Buffer
  | udcDeviceStatus : Buffer
  | udcEpStatus : Buffer
  | udcIfaceSetting : Buffer
  | udcNumConfiguration : Buffer
  | uddCtrlBuffer : Buffer
  deriving DecidableEq, Repr

/-- A data pointer. -/
structure Ptr where
  /-- the buffer it points into -/
  base : Buffer
  /-- the distance from the buffer's start -/
  offset : ℕ
  deriving DecidableEq, Repr

/-- The functions stored in a job's `call_trans`. -/
inductive UddCallbackTrans : Type where
  | udiHidGenericReportInSent : UddCallbackTrans
  deriving DecidableEq, Repr

/-- The functions stored in `udd_g_ctrlreq.callback`. -/
inductive CtrlCallback : Type where
  | udcValidAddress : CtrlCallback
  | udiHidGenericSetfeatureValid : CtrlCallback
  deriving DecidableEq, Repr

/-- `udd_ep_status_t` -/
inductive UddEpStatus : Type where
  | ok : UddEpStatus
  | abort : UddEpStatus
  deriving DecidableEq, Repr

/-! ## The endpoint table -/

/-- `USB_EP_TYPE_t` -/
inductive UsbEpType : Type where
  | disable : UsbEpType
  | control : UsbEpType
  | bulk : UsbEpType
  | isochronous : UsbEpType
  deriving DecidableEq, Repr

/-- `USB_EP_BUFSIZE_t` -/
inductive UsbEpBufsize : Type where
  | size8 : UsbEpBufsize
  | size16 : UsbEpBufsize
  | size32 : UsbEpBufsize
  | size64 : UsbEpBufsize
  | size128 : UsbEpBufsize
  | size256 : UsbEpBufsize
  | size512 : UsbEpBufsize
  | size1023 : UsbEpBufsize
  deriving DecidableEq, Repr

namespace UsbEpBufsize

/-- The highest bit of the size field -/
def high : UsbEpBufsize → Bool
  | .size8 | .size16 | .size32 | .size64 => false
  | .size128 | .size256 | .size512 | .size1023 => true

/-- The other two bits -/
def low : UsbEpBufsize → BitVec 2
  | .size8 | .size128 => 0
  | .size16 | .size256 => 1
  | .size32 | .size512 => 2
  | .size64 | .size1023 => 3

/-- The size field with these bits -/
def ofBits (high : Bool) (low : BitVec 2) : UsbEpBufsize :=
  if low = 0 then if high then .size128 else .size8
  else if low = 1 then if high then .size256 else .size16
  else if low = 2 then if high then .size512 else .size32
  else if high then .size1023 else .size64

@[simp] theorem ofBits_high_low (size : UsbEpBufsize) : ofBits size.high size.low = size := by
  cases size <;> rfl

end UsbEpBufsize

/-- `USB_EP_t`: one entry of the endpoint table. -/
structure UsbEp where
  /-- `CTRL`, type field -/
  type : UsbEpType
  /-- `CTRL`, `MULTIPKT` -/
  multipkt : Bool
  /-- `CTRL`, `STALL`: the highest bit of the size field -/
  stall : Bool
  /-- `CTRL`, the other two bits of the size field -/
  bufsize : BitVec 2
  /-- `STATUS`, `BUSNACK0`: the controller answers NAK while it is set -/
  busnack0 : Bool
  /-- `STATUS`, `BUSNACK1` -/
  busnack1 : Bool
  /-- `STATUS`, `TRNCOMPL0`: a transfer has completed -/
  trncompl0 : Bool
  /-- `STATUS`, `TOGGLE` -/
  toggle : Bool
  /-- `CNT` -/
  cnt : Word
  /-- `DATAPTR` -/
  dataptr : Ptr
  /-- `AUXDATA` -/
  auxdata : Word
  deriving DecidableEq, Repr

/-- A zeroed endpoint table entry. -/
def UsbEp.zero : UsbEp where
  type := .disable
  multipkt := false
  stall := false
  bufsize := 0
  busnack0 := false
  busnack1 := false
  trncompl0 := false
  toggle := false
  cnt := 0
  dataptr := ⟨.null, 0⟩
  auxdata := 0

/-- `udd_ep_job_t` -/
structure UddEpJob where
  busy : Bool
  bShortpacket : Bool
  bUseOutCacheBuffer : Bool
  buf : Ptr
  bufSize : Word
  nbTrans : Word
  /-- `call_trans`, sharing its storage with `call_nohalt` -/
  callTrans : Option UddCallbackTrans
  deriving DecidableEq, Repr

/-- A zeroed job. -/
def UddEpJob.zero : UddEpJob where
  busy := false
  bShortpacket := false
  bUseOutCacheBuffer := false
  buf := ⟨.null, 0⟩
  bufSize := 0
  nbTrans := 0
  callTrans := none

/-! ## The control endpoint -/

/-- `usb_setup_req_t` -/
structure UsbSetupReq where
  bmRequestType : Byte
  bRequest : Byte
  wValue : Word
  wIndex : Word
  wLength : Word
  deriving DecidableEq, Repr

/-- The request an 8-byte SETUP packet carries: `memcpy` into a packed,
little-endian `usb_setup_req_t`. -/
def UsbSetupReq.ofPacket (p : Vector Byte 8) : UsbSetupReq where
  bmRequestType := p[0]
  bRequest := p[1]
  wValue := (p[3].setWidth 16 <<< 8) ||| p[2].setWidth 16
  wIndex := (p[5].setWidth 16 <<< 8) ||| p[4].setWidth 16
  wLength := (p[7].setWidth 16 <<< 8) ||| p[6].setWidth 16

/-- `udd_ctrl_request_t` -/
structure UddCtrlRequest where
  req : UsbSetupReq
  payload : Ptr
  payloadSize : Word
  callback : Option CtrlCallback
  /-- nothing in the firmware registers one -/
  overUnderRun : Option Empty
  deriving DecidableEq, Repr

/-- `udd_ctrl_ep_state_t` -/
inductive UddCtrlEpState : Type where
  | setup : UddCtrlEpState
  | dataOut : UddCtrlEpState
  | dataIn : UddCtrlEpState
  | handshakeWaitInZlp : UddCtrlEpState
  | handshakeWaitOutZlp : UddCtrlEpState
  | stallReq : UddCtrlEpState
  deriving DecidableEq, Repr

/-! ## What the outside sees -/

/-- An entry of the history, in the words of `Mailbox`: sessions start and stop with
`udi_hid_generic_enable` and `udi_hid_generic_disable`, `jstk_usbTask` samples the
ports and offers reports through `udi_hid_generic_send_report_in`, the host
receives packets from EP 0x81, and `udi_hid_generic_report_in_sent` is told that a
transfer completed or was aborted. -/
abbrev Action : Type := Mailbox.Entry Readings Report (List Byte)

/-! ## The firmware -/

/-- The static variables of the firmware, the hardware it shares with the USB
controller, and the history (newest entry first). -/
structure Firmware where
  /-- `main.c` -/
  mainBGenericEnable : Bool
  /-- `joystick.c` -/
  jstkMask : Byte
  jstkTestMode : Byte
  jstkUsbReport : Report
  jstkPrevReport : Report
  /-- `PORTA.OUT`; a LED is on while its bit is low -/
  portAOut : Byte
  /-- `udi_hid_generic.c` -/
  udiHidGenericRate : Byte
  udiHidGenericProtocol : Byte
  udiHidGenericBReportInFree : Bool
  udiHidGenericReportIn : Report
  /-- `udc.c` -/
  udcDeviceStatus : Word
  udcIfaceSetting : Byte
  udcNumConfiguration : Byte
  /-- `udc_ptr_iface`, as an offset into the configuration descriptor -/
  udcPtrIface : ℕ
  udcEpStatus : Word
  /-- `udc_string_desc.header.bLength` -/
  udcStringDescBLength : Byte
  /-- `usb_device.c` -/
  epCtrl : Vector UsbEp 4
  uddEpJob : Vector UddEpJob 2
  uddGCtrlreq : UddCtrlRequest
  uddEpControlState : UddCtrlEpState
  uddCtrlPrevPayloadNbTrans : Word
  uddCtrlPayloadNbTrans : Word
  /-- `b_shortpacket` of `udd_ctrl_in_sent` -/
  uddCtrlInSentBShortpacket : Bool
  uddCtrlBuffer : Vector Byte 8
  /-- the `ADDR` register of the controller -/
  usbAddr : Byte
  history : List Action
  deriving DecidableEq, Repr

/-- `USB_DEVICE_MAX_EP`; it sizes `udd_ep_job` (twice as many entries) and
`ep_ctrl` (twice as many, and the control endpoint's two). -/
def usbDeviceMaxEp : ℕ := 1

/-- The report of a centred stick. -/
def centre : Report := ⟨128, 128⟩

/-- The firmware once `main` has run `udc_start`, `io_init` and `led_init`. -/
def Firmware.powerOn : Firmware where
  mainBGenericEnable := false
  jstkMask := 0
  jstkTestMode := 0
  jstkUsbReport := ⟨0, 0⟩
  jstkPrevReport := centre
  portAOut := 0xFF
  udiHidGenericRate := 0
  udiHidGenericProtocol := 0
  udiHidGenericBReportInFree := false
  udiHidGenericReportIn := ⟨0, 0⟩
  udcDeviceStatus := 0
  udcIfaceSetting := 0
  udcNumConfiguration := 0
  udcPtrIface := 0
  udcEpStatus := 0
  udcStringDescBLength := 0
  epCtrl := Vector.replicate 4 .zero
  uddEpJob := Vector.replicate 2 .zero
  uddGCtrlreq :=
    { req := ⟨0, 0, 0, 0, 0⟩, payload := ⟨.null, 0⟩, payloadSize := 0, callback := none
      overUnderRun := none }
  uddEpControlState := .setup
  uddCtrlPrevPayloadNbTrans := 0
  uddCtrlPayloadNbTrans := 0
  uddCtrlInSentBShortpacket := false
  uddCtrlBuffer := Vector.replicate 8 0
  usbAddr := 0
  history := []

/-! ## The two tables -/

/-- The control endpoint's OUT half in the endpoint table. -/
abbrev ctrlOut : Fin 4 := 0

/-- The control endpoint's IN half in the endpoint table. -/
abbrev ctrlIn : Fin 4 := 1

/-- Endpoint 1 OUT in the endpoint table. -/
abbrev epOutCtrl : Fin 4 := 2

/-- EP 0x81 in the endpoint table. -/
abbrev epInCtrl : Fin 4 := 3

/-- The job of endpoint 1 OUT. -/
abbrev epOutJob : Fin 2 := 0

/-- The job of EP 0x81. -/
abbrev epInJob : Fin 2 := 1

namespace Firmware

/-- Record something the outside can see. -/
def note (a : Action) (s : Firmware) : Firmware := { s with history := a :: s.history }

/-- One entry of the endpoint table. -/
def ctrl (s : Firmware) (i : Fin 4) : UsbEp := s.epCtrl[i]

/-- One job. -/
def job (s : Firmware) (j : Fin 2) : UddEpJob := s.uddEpJob[j]

/-- Change one entry of the endpoint table. -/
def modifyCtrl (i : Fin 4) (f : UsbEp → UsbEp) (s : Firmware) : Firmware :=
  { s with epCtrl := s.epCtrl.set i (f (s.ctrl i)) }

@[simp] theorem modifyCtrl_uddGCtrlreq (i : Fin 4) (f : UsbEp → UsbEp) (s : Firmware) :
    (s.modifyCtrl i f).uddGCtrlreq = s.uddGCtrlreq := rfl

@[simp] theorem job_modifyCtrl (i : Fin 4) (f : UsbEp → UsbEp) (s : Firmware) (j : Fin 2) :
    (s.modifyCtrl i f).job j = s.job j := rfl

@[simp] theorem ctrl_modifyCtrl (i : Fin 4) (f : UsbEp → UsbEp) (s : Firmware) :
    (s.modifyCtrl i f).ctrl i = f (s.ctrl i) := by
  simp [modifyCtrl, ctrl]

theorem ctrl_modifyCtrl_of_ne {i j : Fin 4} (h : i ≠ j) (f : UsbEp → UsbEp) (s : Firmware) :
    (s.modifyCtrl i f).ctrl j = s.ctrl j := by
  have hval : i.val ≠ j.val := fun hv => h (Fin.ext hv)
  simp [modifyCtrl, ctrl, hval]

/-- Change one job. -/
def modifyJob (i : Fin 2) (f : UddEpJob → UddEpJob) (s : Firmware) : Firmware :=
  { s with uddEpJob := s.uddEpJob.set i (f (s.job i)) }

/-- Change the request being decoded. -/
def modifyCtrlreq (f : UddCtrlRequest → UddCtrlRequest) (s : Firmware) : Firmware :=
  { s with uddGCtrlreq := f s.uddGCtrlreq }

end Firmware

end HidJoystick
