import HidJoystick.State

/-!
# The endpoint driver

The endpoint half of `usb_device.c`: allocating and freeing endpoints, starting,
completing and aborting transfers, halting. Functions that reach into
`udd_ep_job` or `ep_ctrl` through an endpoint number return `Except Fault`,
because the assertions that would check the number are compiled out.
-/

namespace HidJoystick

/-! ## Endpoint numbers -/

/-- `USB_EP_ADDR_MASK` -/
abbrev usbEpAddrMask : Byte := 0x0F

/-- `USB_EP_DIR_IN` -/
abbrev usbEpDirIn : Byte := 0x80

/-- `UDI_HID_GENERIC_EP_IN` -/
abbrev udiHidGenericEpIn : Byte := 0x81

/-- The place of an endpoint in the endpoint table. -/
def uddEpIndex (ep : Byte) : ℕ :=
  2 * (ep &&& usbEpAddrMask).toNat + if ep &&& usbEpDirIn = 0 then 0 else 1

/-- `udd_ep_get_ctrl` -/
def uddEpGetCtrl (ep : Byte) : Except Fault (Fin 4) :=
  let i := uddEpIndex ep
  if h : i < 2 * (usbDeviceMaxEp + 1) then .ok ⟨i, h⟩ else .error (.epCtrlIndex i)

/-- `udd_ep_get_job`. The subtraction is on `int`s, so endpoint 0 gives a
negative index. -/
def uddEpGetJob (ep : Byte) : Except Fault (Fin 2) :=
  let i : ℤ := (uddEpIndex ep : ℤ) - 2
  if h : 0 ≤ i ∧ i < 2 * usbDeviceMaxEp then
    .ok ⟨i.toNat, by have := h.2; simp only [usbDeviceMaxEp] at this; omega⟩
  else .error (.epJobIndex i)

/-- The endpoint number is that of endpoint 1 IN, as far as the driver looks at it:
bit 7 is set and the low four bits are 1. -/
def IsEpIn (ep : Byte) : Prop := ep &&& 0x8F = 0x81

/-- The endpoint number is that of endpoint 1 OUT. -/
def IsEpOut (ep : Byte) : Prop := ep &&& 0x8F = 0x01

instance : DecidablePred IsEpIn := fun _ => inferInstanceAs (Decidable (_ = _))

instance : DecidablePred IsEpOut := fun _ => inferInstanceAs (Decidable (_ = _))

/-! ## Endpoint registers -/

/-- `udd_endpoint_set_control`, with a type and a size field -/
def uddEndpointSetControl (type : UsbEpType) (size : UsbEpBufsize) (e : UsbEp) : UsbEp :=
  { e with type := type, multipkt := false, stall := size.high, bufsize := size.low }

/-- `udd_endpoint_disable`: the whole control register is zeroed. -/
def uddEndpointDisable (e : UsbEp) : UsbEp := uddEndpointSetControl .disable .size8 e

/-- `udd_endpoint_is_enable` -/
def uddEndpointIsEnable (e : UsbEp) : Bool := e.type != .disable

/-- `udd_endpoint_clear_status`: NAK on both banks, nothing else set. -/
def uddEndpointClearStatus (e : UsbEp) : UsbEp :=
  { e with busnack0 := true, busnack1 := true, trncompl0 := false, toggle := false }

/-- `udd_endpoint_enable_stall` -/
def uddEndpointEnableStall (e : UsbEp) : UsbEp := { e with stall := true }

/-- `udd_endpoint_disable_stall` -/
def uddEndpointDisableStall (e : UsbEp) : UsbEp := { e with stall := false }

/-- `udd_endpoint_set_multipacket` -/
def uddEndpointSetMultipacket (e : UsbEp) : UsbEp := { e with multipkt := true }

/-- `udd_endpoint_set_NACK0` -/
def uddEndpointSetNACK0 (e : UsbEp) : UsbEp := { e with busnack0 := true }

/-- `udd_endpoint_clear_NACK0` -/
def uddEndpointClearNACK0 (e : UsbEp) : UsbEp := { e with busnack0 := false }

/-- `udd_endpoint_clear_dtgl` -/
def uddEndpointClearDtgl (e : UsbEp) : UsbEp := { e with toggle := false }

/-- `udd_endpoint_ack_transfer_complete` -/
def uddEndpointAckTransferComplete (e : UsbEp) : UsbEp := { e with trncompl0 := false }

/-- `UDD_ENDPOINT_MAX_TRANS` -/
abbrev uddEndpointMaxTrans : Word := 0x3FF

/-- `udd_endpoint_get_size_field`: the mask has the `STALL` bit in it. -/
def uddEndpointGetSizeField (e : UsbEp) : UsbEpBufsize := .ofBits e.stall e.bufsize

/-- `udd_ep_get_size` -/
def uddEpGetSize (e : UsbEp) : Word :=
  match uddEndpointGetSizeField e with
  | .size8 => 8
  | .size16 => 16
  | .size32 => 32
  | .size64 => 64
  | .size128 => 128
  | .size256 => 256
  | .size512 => 512
  | .size1023 => 1023

/-- The size of packets of an endpoint -/
def UsbEp.packetSize (e : UsbEp) : ℕ := (uddEpGetSize e).toNat

theorem packetSize_bounds (e : UsbEp) : 8 ≤ e.packetSize ∧ e.packetSize ≤ 1023 := by
  rw [UsbEp.packetSize, uddEpGetSize]
  cases uddEndpointGetSizeField e <;> decide

theorem packetSize_pos (e : UsbEp) : 0 < e.packetSize :=
  (by decide : 0 < 8).trans_le (packetSize_bounds e).1

theorem packetSize_of_size1023 {e : UsbEp} (h : uddEndpointGetSizeField e = .size1023) :
    e.packetSize = 1023 := by
  rw [UsbEp.packetSize, uddEpGetSize, h]
  rfl

/-- The controller goes through a whole chunk without the driver: it is in multi-packet mode, or
no chunk is longer than a packet. -/
def UsbEp.Chunks (e : UsbEp) : Prop := e.multipkt = true ∨ e.packetSize = 1023

/-- `&buf[n]` -/
def Ptr.add (p : Ptr) (n : ℕ) : Ptr := { p with offset := p.offset + n }

/-! ## The transfer callback -/

/-- What a transfer ends with, in the history. -/
def UddEpStatus.action : UddEpStatus → Action
  | .ok => .completed
  | .abort => .aborted

/-- `udi_hid_generic_report_in_sent`. It ignores all of its arguments. -/
def udiHidGenericReportInSent (status : UddEpStatus) (_nbSent : Word) (_ep : Byte)
    (s : Firmware) : Firmware :=
  { s with udiHidGenericBReportInFree := true }.note status.action

/-- Call through `call_trans`. -/
def UddCallbackTrans.call : UddCallbackTrans → UddEpStatus → Word → Byte → Firmware → Firmware
  | .udiHidGenericReportInSent => HidJoystick.udiHidGenericReportInSent

/-! ## Allocating and freeing -/

/-- The type field `udd_ep_init` derives from `bmAttributes`; interrupt endpoints
behave as bulk. -/
def usbEpTypeOfAttributes (bmAttributes : Byte) : UsbEpType :=
  if bmAttributes &&& 0x03 = 0 then .control
  else if bmAttributes &&& 0x03 = 1 then .isochronous
  else .bulk

/-- The size field `udd_ep_init` derives from the maximum packet size. An unknown
size falls through an assertion to the smallest one. -/
def usbEpBufsizeOfSize (maxEndpointSize : Word) : UsbEpBufsize :=
  if maxEndpointSize = 16 then .size16
  else if maxEndpointSize = 32 then .size32
  else if maxEndpointSize = 64 then .size64
  else if maxEndpointSize = 128 then .size128
  else if maxEndpointSize = 256 then .size256
  else if maxEndpointSize = 512 then .size512
  else if maxEndpointSize = 1023 then .size1023
  else .size8

/-- `udd_ep_init` -/
def uddEpInit (ep : Byte) (bmAttributes : Byte) (maxEndpointSize : Word) (s : Firmware) :
    Except Fault Firmware := do
  let type := usbEpTypeOfAttributes bmAttributes
  let size := usbEpBufsizeOfSize maxEndpointSize
  let c ← uddEpGetCtrl ep
  return s.modifyCtrl c fun e =>
    uddEndpointSetControl type size (uddEndpointClearStatus (uddEndpointDisable e))

/-- `udd_ep_alloc` -/
def uddEpAlloc (ep : Byte) (bmAttributes : Byte) (maxEndpointSize : Word) (s : Firmware) :
    Except Fault (Bool × Firmware) := do
  let c ← uddEpGetCtrl ep
  if uddEndpointIsEnable (s.ctrl c) then
    return (false, s) -- already allocated
  else
    let s ← uddEpInit ep bmAttributes maxEndpointSize s
    if (s.ctrl c).type = .isochronous ∧ uddEndpointGetSizeField (s.ctrl c) = .size1023 then
      return (true, s)
    else
      return (true, s.modifyCtrl c uddEndpointSetMultipacket)

/-- `udd_ep_abort` -/
def uddEpAbort (ep : Byte) (s : Firmware) : Except Fault Firmware := do
  let c ← uddEpGetCtrl ep
  let j ← uddEpGetJob ep
  let s := s.modifyCtrl c uddEndpointSetNACK0
  if (s.job j).busy then
    let s := s.modifyJob j fun job => { job with busy := false }
    match (s.job j).callTrans with
    | some callback =>
      -- `AUXDATA` counts what an IN endpoint sent, `CNT` what an OUT endpoint received
      let nb := if ep &&& usbEpDirIn = 0 then (s.ctrl c).cnt else (s.ctrl c).auxdata
      return callback.call .abort nb ep s
    | none => return s
  else
    return s -- no job on going

/-- `udd_ep_free` -/
def uddEpFree (ep : Byte) (s : Firmware) : Except Fault Firmware := do
  let s ← uddEpAbort ep s
  let c ← uddEpGetCtrl ep
  return s.modifyCtrl c uddEndpointDisable

/-! ## Halting -/

/-- `udd_ep_is_halted` -/
def uddEpIsHalted (ep : Byte) (s : Firmware) : Except Fault Bool := do
  let c ← uddEpGetCtrl ep
  return (s.ctrl c).stall

/-- `udd_ep_set_halt` -/
def uddEpSetHalt (ep : Byte) (s : Firmware) : Except Fault (Bool × Firmware) := do
  let c ← uddEpGetCtrl ep
  let s := s.modifyCtrl c uddEndpointEnableStall
  let s ← uddEpAbort ep s
  return (true, s)

/-- `udd_ep_clear_halt`. A busy job is taken to be waiting for the halt to end,
and its callback is called without arguments. -/
def uddEpClearHalt (ep : Byte) (s : Firmware) : Except Fault (Bool × Firmware) := do
  let c ← uddEpGetCtrl ep
  let s := s.modifyCtrl c uddEndpointClearDtgl
  if !(s.ctrl c).stall then
    return (true, s)
  else
    let s := s.modifyCtrl c uddEndpointDisableStall
    let j ← uddEpGetJob ep
    if (s.job j).busy then
      throw .callbackType
    else
      return (true, s)

/-! ## Transfers -/

/-- `udd_ep_trans_complet`: account for what was sent, then send the rest, or a
closing empty packet, or finish the job. -/
def uddEpTransComplet (ep : Byte) (s : Firmware) : Except Fault Firmware := do
  let j ← uddEpGetJob ep
  let c ← uddEpGetCtrl ep
  let epSize := uddEpGetSize (s.ctrl c)
  if ep &&& usbEpDirIn = usbEpDirIn then
    let nbTrans := (s.ctrl c).auxdata
    let s := s.modifyJob j fun job => { job with nbTrans := job.nbTrans + nbTrans }
    let job := s.job j
    if job.nbTrans ≠ job.bufSize then
      let nextTrans := job.bufSize - job.nbTrans
      let nextTrans :=
        if uddEndpointMaxTrans < nextTrans then
          uddEndpointMaxTrans - uddEndpointMaxTrans % epSize
        else nextTrans
      let s := s.modifyJob j fun job =>
        { job with bShortpacket := job.bShortpacket && nextTrans % epSize == 0 }
      return s.modifyCtrl c fun e =>
        uddEndpointClearNACK0
          { e with auxdata := 0, cnt := nextTrans, dataptr := job.buf.add job.nbTrans.toNat }
    else if job.bShortpacket then
      let s := s.modifyJob j fun job => { job with bShortpacket := false }
      return s.modifyCtrl c fun e => uddEndpointClearNACK0 { e with auxdata := 0, cnt := 0 }
    else if job.busy then
      let s := s.modifyJob j fun job => { job with busy := false }
      match job.callTrans with
      | some callback => return callback.call .ok job.nbTrans ep s
      | none => return s
    else
      return s
  else
    throw .outTransfer

/-- `udd_ep_run` -/
def uddEpRun (ep : Byte) (bShortpacket : Bool) (buf : Ptr) (bufSize : Word)
    (callback : Option UddCallbackTrans) (s : Firmware) : Except Fault (Bool × Firmware) := do
  let j ← uddEpGetJob ep
  let c ← uddEpGetCtrl ep
  if !uddEndpointIsEnable (s.ctrl c) then
    return (false, s) -- endpoint not allocated
  else if (s.ctrl c).type ≠ .isochronous ∧ (s.ctrl c).stall then
    return (false, s) -- endpoint is halted
  else if (s.job j).busy then
    return (false, s) -- job already on going
  else
    let s := s.modifyJob j fun _ =>
      { busy := true
        bShortpacket := bShortpacket || bufSize == 0
        bUseOutCacheBuffer := false
        buf := buf
        bufSize := bufSize
        nbTrans := 0
        callTrans := callback }
    if ep &&& usbEpDirIn = usbEpDirIn then
      -- an empty transfer that has just completed
      let s := s.modifyCtrl c fun e => { e with auxdata := 0 }
      let s ← uddEpTransComplet ep s
      return (true, s)
    else
      throw .outTransfer

/-! ## Which endpoints there are -/

@[simp] theorem ok_bind {α β : Type} (a : α) (f : α → Except Fault β) :
    (Except.ok a >>= f) = f a := rfl

@[simp] theorem pure_eq_ok {α : Type} (a : α) : (pure a : Except Fault α) = .ok a := rfl

section EndpointNumbers

variable {ep : Byte}

theorem isEpIn_epIn : IsEpIn udiHidGenericEpIn := by decide

theorem IsEpIn.index (h : IsEpIn ep) : uddEpIndex ep = 3 := by
  revert ep
  decide

theorem IsEpIn.dir (h : IsEpIn ep) : ep &&& usbEpDirIn = usbEpDirIn := by
  revert ep
  decide

theorem IsEpIn.getCtrl (h : IsEpIn ep) : uddEpGetCtrl ep = .ok epInCtrl := by
  simp [uddEpGetCtrl, h.index, usbDeviceMaxEp]

theorem IsEpIn.getJob (h : IsEpIn ep) : uddEpGetJob ep = .ok epInJob := by
  simp [uddEpGetJob, h.index, usbDeviceMaxEp]

theorem IsEpOut.index (h : IsEpOut ep) : uddEpIndex ep = 2 := by
  revert ep
  decide

theorem IsEpOut.getCtrl (h : IsEpOut ep) : uddEpGetCtrl ep = .ok epOutCtrl := by
  simp [uddEpGetCtrl, h.index, usbDeviceMaxEp]

theorem IsEpOut.getJob (h : IsEpOut ep) : uddEpGetJob ep = .ok epOutJob := by
  simp [uddEpGetJob, h.index, usbDeviceMaxEp]

/-- Endpoint 1 has its two directions. -/
theorem isEpIn_or_isEpOut (h : ep &&& usbEpAddrMask = 1) : IsEpIn ep ∨ IsEpOut ep := by
  revert ep
  decide

/-- Endpoint 0 has an entry in the endpoint table -/
theorem uddEpGetCtrl_zero (h : ep &&& usbEpAddrMask = 0) :
    uddEpGetCtrl ep = .ok (if ep &&& usbEpDirIn = 0 then ctrlOut else ctrlIn) := by
  have hindex : uddEpIndex ep = if ep &&& usbEpDirIn = 0 then 0 else 1 := by
    rw [uddEpIndex, h]
    simp
  split at hindex <;> simp_all [uddEpGetCtrl, usbDeviceMaxEp]

/-- but no job -/
theorem uddEpGetJob_zero (h : ep &&& usbEpAddrMask = 0) :
    ∃ i, uddEpGetJob ep = .error (.epJobIndex i) := by
  have hindex : uddEpIndex ep < 2 := by
    rw [uddEpIndex, h]
    split <;> decide
  refine ⟨(uddEpIndex ep : ℤ) - 2, ?_⟩
  rw [uddEpGetJob]
  exact dif_neg (by omega)

/-- and the endpoints from 2 on have neither. -/
theorem uddEpGetCtrl_large (h : 2 ≤ (ep &&& usbEpAddrMask).toNat) :
    ∃ i, uddEpGetCtrl ep = .error (.epCtrlIndex i) := by
  refine ⟨uddEpIndex ep, ?_⟩
  rw [uddEpGetCtrl]
  refine dif_neg ?_
  rw [uddEpIndex, usbDeviceMaxEp]
  omega

end EndpointNumbers

end HidJoystick
