import HidJoystick.Udc

/-!
# The control endpoint

The state machine of the control endpoint in `usb_device.c`. A SETUP packet is
decoded by `udcProcessSetup`; what is left is the data and handshake stages
around it. The control endpoint's two halves are entries 0 (OUT) and 1 (IN) of
the endpoint table.

The data stage of an OUT transfer copies what the host sent to wherever `payload`
points. `uddCtrlOutReceived` makes a copy of one byte or more a fault.
-/

namespace HidJoystick

/-- `USB_DEVICE_EP_CTRL_SIZE` -/
abbrev usbDeviceEpCtrlSize : Word := 8

/-- `udd_ctrl_init`. The over- and underflow interrupts it turns off are not part
of the state: they may always come. -/
def uddCtrlInit (s : Firmware) : Firmware :=
  let s := s.modifyCtrl ctrlIn fun e =>
    uddEndpointAckTransferComplete { uddEndpointSetNACK0 e with cnt := 0 }
  let s := s.modifyCtrlreq fun r => { r with callback := none, overUnderRun := none, payloadSize := 0 }
  { s with uddEpControlState := .setup }

/-- Call through `udd_g_ctrlreq.callback`. -/
def CtrlCallback.call : CtrlCallback → Firmware → Firmware
  | .udcValidAddress => HidJoystick.udcValidAddress
  | .udiHidGenericSetfeatureValid => HidJoystick.udiHidGenericSetfeatureValid

/-- `udd_ctrl_endofrequest` -/
def uddCtrlEndofrequest (s : Firmware) : Firmware :=
  match s.uddGCtrlreq.callback with
  | some callback => callback.call s
  | none => s

/-- `udd_ctrl_stall_data` -/
def uddCtrlStallData (s : Firmware) : Firmware :=
  ({ s with uddEpControlState := .stallReq }.modifyCtrl ctrlIn uddEndpointEnableStall).modifyCtrl ctrlOut
    uddEndpointEnableStall

/-- `udd_ctrl_send_zlp_in` -/
def uddCtrlSendZlpIn (s : Firmware) : Firmware :=
  { s with uddEpControlState := .handshakeWaitInZlp }.modifyCtrl ctrlIn fun e =>
    uddEndpointClearNACK0 { e with cnt := 0 }

/-- `udd_ctrl_send_zlp_out` -/
def uddCtrlSendZlpOut (s : Firmware) : Firmware :=
  { s with uddEpControlState := .handshakeWaitOutZlp }.modifyCtrl ctrlOut uddEndpointClearNACK0

/-- The end of `udd_ctrl_in_sent`: put the next packet of at most `nbRemain` bytes
on the bank. -/
def uddCtrlInNext (nbRemain : Word) (s : Firmware) : Firmware :=
  let full := nbRemain ≥ usbDeviceEpCtrlSize
  let nbRemain := if full then usbDeviceEpCtrlSize else nbRemain
  let s := { s with uddCtrlInSentBShortpacket := !full }
  let s := s.modifyCtrl ctrlIn fun e =>
    uddEndpointClearNACK0
      { e with
        cnt := nbRemain
        dataptr := s.uddGCtrlreq.payload.add s.uddCtrlPayloadNbTrans.toNat }
  { s with uddCtrlPayloadNbTrans := s.uddCtrlPayloadNbTrans + nbRemain }

/-- `udd_ctrl_in_sent`. No `over_under_run` is ever registered, so an exhausted
payload is closed with an empty packet. -/
def uddCtrlInSent (s : Firmware) : Firmware :=
  if s.uddEpControlState = .handshakeWaitInZlp then
    uddCtrlInit (uddCtrlEndofrequest s)
  else
    let nbRemain := s.uddGCtrlreq.payloadSize - s.uddCtrlPayloadNbTrans
    if nbRemain = 0 then
      let s := { s with
        uddCtrlPrevPayloadNbTrans := s.uddCtrlPrevPayloadNbTrans + s.uddCtrlPayloadNbTrans }
      if s.uddGCtrlreq.req.wLength = s.uddCtrlPrevPayloadNbTrans ∨ s.uddCtrlInSentBShortpacket then
        uddCtrlSendZlpOut s
      else
        uddCtrlInNext nbRemain s
    else
      uddCtrlInNext nbRemain s

/-- The copy into `payload` in `udd_ctrl_out_received`. -/
def uddCtrlCopy (nbData : Word) (s : Firmware) : Except Fault Firmware :=
  if nbData = 0 then .ok s else .error (.hostWrite nbData.toNat)

/-- The length of the copy in `udd_ctrl_out_received`: the bytes received, or what the
payload has room for. -/
def uddCtrlNbData (s : Firmware) : Word :=
  let nbData := (s.ctrl ctrlOut).cnt
  if s.uddGCtrlreq.payloadSize < s.uddCtrlPayloadNbTrans + nbData then
    s.uddGCtrlreq.payloadSize - s.uddCtrlPayloadNbTrans
  else nbData

/-- `udd_ctrl_out_received`. No `over_under_run` is ever registered, so a full
payload is answered with a STALL. -/
def uddCtrlOutReceived (s : Firmware) : Except Fault Firmware := do
  if s.uddEpControlState = .handshakeWaitOutZlp then
    return uddCtrlInit (uddCtrlEndofrequest s)
  else
    let nbData := uddCtrlNbData s
    let s ← uddCtrlCopy nbData s
    let s := { s with uddCtrlPayloadNbTrans := s.uddCtrlPayloadNbTrans + nbData }
    if usbDeviceEpCtrlSize ≠ nbData ∨
        s.uddGCtrlreq.req.wLength ≤ s.uddCtrlPrevPayloadNbTrans + s.uddCtrlPayloadNbTrans then
      return uddCtrlSendZlpIn
        (s.modifyCtrlreq fun r => { r with payloadSize := s.uddCtrlPayloadNbTrans })
    else if s.uddGCtrlreq.payloadSize = s.uddCtrlPayloadNbTrans then
      return uddCtrlStallData s
    else
      return s.modifyCtrl ctrlOut fun e => uddEndpointAckTransferComplete (uddEndpointClearNACK0 e)

/-- `udd_ctrl_underflow`, with no other interrupt waiting -/
def uddCtrlUnderflow (s : Firmware) : Firmware :=
  if s.uddEpControlState = .dataOut then uddCtrlSendZlpIn s
  else if s.uddEpControlState = .handshakeWaitOutZlp then
    (s.modifyCtrl ctrlIn uddEndpointEnableStall).modifyCtrl ctrlOut uddEndpointEnableStall
  else s

/-- `udd_ctrl_overflow`, with no other interrupt waiting -/
def uddCtrlOverflow (s : Firmware) : Firmware :=
  if s.uddEpControlState = .dataIn then uddCtrlSendZlpOut s
  else if s.uddEpControlState = .handshakeWaitInZlp then
    (s.modifyCtrl ctrlIn uddEndpointEnableStall).modifyCtrl ctrlOut uddEndpointEnableStall
  else s

/-- The start of `udd_ctrl_setup_received`: give up the transfer the SETUP packet
interrupts. A handshake may have gone unnoticed, so its request still ends. -/
def uddCtrlRestart (s : Firmware) : Firmware :=
  if s.uddEpControlState ≠ .setup then
    let s :=
      if s.uddEpControlState = .handshakeWaitInZlp ∨ s.uddEpControlState = .handshakeWaitOutZlp then
        uddCtrlEndofrequest s
      else s
    uddCtrlInit s
  else s

/-- The `memcpy` of `udd_ctrl_setup_received`: the request is what the control
buffer holds. -/
def uddCtrlFillRequest (s : Firmware) : Firmware :=
  s.modifyCtrlreq fun r => { r with req := .ofPacket s.uddCtrlBuffer }

/-- The end of `udd_ctrl_setup_received`: the stage that follows an accepted
request. -/
def uddCtrlAccept (s : Firmware) : Firmware :=
  if uddSetupIsIn s.uddGCtrlreq.req then
    uddCtrlInSent
      { s with
        uddCtrlPrevPayloadNbTrans := 0
        uddCtrlPayloadNbTrans := 0
        uddEpControlState := .dataIn }
  else if s.uddGCtrlreq.req.wLength = 0 then
    uddCtrlSendZlpIn s
  else
    { s with
      uddCtrlPrevPayloadNbTrans := 0
      uddCtrlPayloadNbTrans := 0
      uddEpControlState := .dataOut }.modifyCtrl ctrlOut fun e =>
        uddEndpointAckTransferComplete (uddEndpointClearNACK0 e)

/-- `udd_ctrl_setup_received` -/
def uddCtrlSetupReceived (s : Firmware) : Except Fault Firmware := do
  let s := uddCtrlRestart s
  if (s.ctrl ctrlOut).cnt ≠ 8 then
    return s -- not the size of a SETUP packet
  else
    let s := uddCtrlFillRequest s
    let (accepted, s) ← udcProcessSetup s
    if accepted then
      return uddCtrlAccept s
    else
      return uddCtrlStallData s

end HidJoystick
