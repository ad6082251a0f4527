import HidJoystick.Ctrl
import HidJoystick.Joystick
import HidJoystick.Machine

/-!
# The device on the bus

The firmware as a machine: each event is one thing the outside does together with
the interrupt handler it triggers, so states are states between handlers. The
controller's part is what the driver relies on: it sends from an endpoint only
while the endpoint is enabled, not halted and not answering NAK, and then sets
NAK and the transfer-complete flag once.

* EP 0x81 is taken in two steps. The host collects the packet (`collect`), and
  some time later the transfer-complete interrupt runs (`transferComplete`);
  anything may come between.
* A SETUP packet is one event. The stages that follow it are further events, so
  a request may be left unfinished, interrupted or never acknowledged.
* What does not apply in a state (collecting from an endpoint that answers NAK)
  leaves the state unchanged.

`Handlers` looks inside a tick, where the host may poll EP 0x81 between two writes.
-/

namespace HidJoystick

/-- A data packet the control endpoint can receive. -/
def OutPacket : Type := { data : List Byte // data.length ≤ 8 }

/-- The events of the device. -/
inductive Event : Type where
  /-- a start of frame, and what the ports read in the tick it triggers -/
  | sof : Tick → Event
  /-- a bus reset -/
  | reset : Event
  /-- the host polls EP 0x81 -/
  | collect : Event
  /-- the transfer-complete interrupt of EP 0x81 -/
  | transferComplete : Event
  /-- the host sends a SETUP packet -/
  | setup : Vector Byte 8 → Event
  /-- the host polls the control endpoint -/
  | ctrlIn : Event
  /-- the host sends a data or handshake packet to the control endpoint -/
  | ctrlOut : OutPacket → Event
  /-- the host polls the control endpoint while it answers NAK -/
  | underflow : Event
  /-- the host sends to the control endpoint while it answers NAK -/
  | overflow : Event
  /-- the controller clears the STALL bits of the control endpoint on its own;
  the driver never does -/
  | unstall : Event

/-- The controller takes the endpoint to be halted. For an isochronous endpoint the
bit is only a part of the size. -/
def UsbEp.halted (e : UsbEp) : Bool := e.type != .isochronous && e.stall

/-- The controller would exchange a packet with the host. -/
def UsbEp.live (e : UsbEp) : Bool := uddEndpointIsEnable e && !e.halted && !e.busnack0

/-- The same, of an endpoint that is not isochronous -/
def UsbEp.armed (e : UsbEp) : Bool := uddEndpointIsEnable e && !e.stall && !e.busnack0

/-- What the controller does to an endpoint when it has sent what is on the bank. -/
def UsbEp.afterSend (e : UsbEp) : UsbEp :=
  { e with busnack0 := true, trncompl0 := true, toggle := !e.toggle, auxdata := e.cnt }

/-- Where the next packet starts on the bank: `AUXDATA` counts what has been sent of a
multi-packet transfer. -/
def UsbEp.packetStart (e : UsbEp) : ℕ := if e.multipkt then e.auxdata.toNat else 0

/-- The length of the next packet. Without multi-packet transfers the bank is one
packet. -/
def UsbEp.packetLen (e : UsbEp) : ℕ :=
  if e.multipkt then min e.packetSize (e.cnt.toNat - e.auxdata.toNat) else e.cnt.toNat

/-- What the controller does to an endpoint when it has sent a packet: it counts, as
long as there is more on the bank. -/
def UsbEp.afterPacket (e : UsbEp) : UsbEp :=
  if e.packetStart + e.packetLen < e.cnt.toNat then
    { e with toggle := !e.toggle, auxdata := BitVec.ofNat 16 (e.packetStart + e.packetLen) }
  else e.afterSend

/-- What the memory holds, by buffers -/
abbrev Memory : Type := Buffer → List Byte

/-- The bytes the controller reads for the next packet, as many as the registers say. What
is behind the end of a buffer is read as 0. -/
def UsbEp.nextPacket (mem : Memory) (e : UsbEp) : List Byte :=
  (List.range e.packetLen).map fun i =>
    (mem e.dataptr.base).getD (e.dataptr.offset + e.packetStart + i) 0

/-- The only buffer this firmware links to EP 0x81 -/
def reportMemory (report : Report) : Memory := fun base =>
  if base = .udiHidGenericReportIn then report.toList else []

/-- The next packet from EP 0x81 -/
def Firmware.packetIn (s : Firmware) : List Byte :=
  (s.ctrl epInCtrl).nextPacket (reportMemory s.udiHidGenericReportIn)

/-- The host polls EP 0x81 and gets one packet. -/
def hostCollect (s : Firmware) : Firmware :=
  if (s.ctrl epInCtrl).live then
    (s.modifyCtrl epInCtrl UsbEp.afterPacket).note (.received s.packetIn)
  else s

/-- `USB_TRNCOMPL_vect` for EP 0x81 -/
def usbTrncomplVect (s : Firmware) : Except Fault Firmware := do
  if !(s.ctrl epInCtrl).trncompl0 then
    return s -- generated by a multipacket transfer
  else
    let s := s.modifyCtrl epInCtrl uddEndpointAckTransferComplete
    uddEpTransComplet udiHidGenericEpIn s

/-- The branch of `USB_BUSEVENT_vect` for a reset -/
def usbBuseventReset (s : Firmware) : Except Fault Firmware := do
  let s ← uddEpAbort 1 s
  let s ← uddEpAbort (1 ||| usbEpDirIn) s
  let s ← udcReset s
  let s := uddSetAddress 0 s
  let s ← uddEpInit 0 0 usbDeviceEpCtrlSize s
  let s ← uddEpInit (0 ||| usbEpDirIn) 0 usbDeviceEpCtrlSize s
  let s := s.modifyCtrl ctrlOut fun e => { e with dataptr := ⟨.uddCtrlBuffer, 0⟩ }
  return uddCtrlInit s

/-- The controller writes a SETUP packet into the control buffer. -/
def hostSetup (packet : Vector Byte 8) (s : Firmware) : Firmware :=
  { s with uddCtrlBuffer := packet }.modifyCtrl ctrlOut fun e => { e with cnt := 8 }

/-- The host polls the control endpoint; the transfer-complete interrupt follows. -/
def hostCtrlIn (s : Firmware) : Firmware :=
  if (s.ctrl ctrlIn).armed then
    uddCtrlInSent (s.modifyCtrl ctrlIn fun e => uddEndpointAckTransferComplete e.afterSend)
  else s

/-- The controller writes a data packet into the control buffer. -/
def hostData (data : OutPacket) (s : Firmware) : Firmware :=
  { s with uddCtrlBuffer := Vector.ofFn fun i => data.val.getD i s.uddCtrlBuffer[i] }.modifyCtrl ctrlOut
    fun e => { e with busnack0 := true, trncompl0 := false, cnt := BitVec.ofNat 16 data.val.length }

/-- The host sends to the control endpoint; the transfer-complete interrupt
follows. The driver has released the OUT bank in these two states only. -/
def hostCtrlOut (data : OutPacket) (s : Firmware) : Except Fault Firmware :=
  if s.uddEpControlState = .dataOut ∨ s.uddEpControlState = .handshakeWaitOutZlp then
    uddCtrlOutReceived (hostData data s)
  else .ok s

/-- The controller clears the STALL bits of the control endpoint. -/
def hostUnstall (s : Firmware) : Firmware :=
  (s.modifyCtrl ctrlOut uddEndpointDisableStall).modifyCtrl ctrlIn uddEndpointDisableStall

/-- **The device.** -/
def device : Machine Firmware Event Fault where
  step s e :=
    match e with
    | .sof t => mainSofAction t s
    | .reset => usbBuseventReset s
    | .collect => .ok (hostCollect s)
    | .transferComplete => usbTrncomplVect s
    | .setup packet => uddCtrlSetupReceived (hostSetup packet s)
    | .ctrlIn => .ok (hostCtrlIn s)
    | .ctrlOut data => hostCtrlOut data s
    | .underflow => .ok (uddCtrlUnderflow s)
    | .overflow => .ok (uddCtrlOverflow s)
    | .unstall => .ok (hostUnstall s)

/-! ## The environment -/

/-- A standard request to an endpoint. -/
def UsbSetupReq.standardEp (req : UsbSetupReq) : Prop :=
  uddSetupType req = usbReqTypeStandard ∧ uddSetupRecipient req = usbReqRecipEndpoint

instance (req : UsbSetupReq) : Decidable req.standardEp := inferInstanceAs (Decidable (_ ∧ _))

/-- Every standard request to an endpoint names EP 0x81. -/
def Event.inScope : Event → Prop
  | .setup packet => (UsbSetupReq.ofPacket packet).standardEp → IsEpIn (UsbSetupReq.ofPacket packet).ep
  | _ => True

instance : DecidablePred Event.inScope := fun e => by
  cases e <;> unfold Event.inScope <;> infer_instance

/-- The environment that keeps to the endpoints of this firmware. -/
def InScope (_ : Firmware) (e : Event) : Prop := e.inScope

/-- `USB_TRNCOMPL_vect` looks at SETUP packets only when no transfer has completed. -/
def Event.ordered (s : Firmware) : Event → Prop
  | .setup _ => (s.ctrl epInCtrl).trncompl0 = false
  | _ => True

instance (s : Firmware) : DecidablePred (Event.ordered s) := fun e => by
  cases e <;> unfold Event.ordered <;> infer_instance

/-- The environment that also takes interrupts in the driver's order. -/
def Orderly (s : Firmware) (e : Event) : Prop := e.inScope ∧ e.ordered s

instance (s : Firmware) (e : Event) : Decidable (InScope s e) :=
  inferInstanceAs (Decidable e.inScope)

instance (s : Firmware) (e : Event) : Decidable (Orderly s e) :=
  inferInstanceAs (Decidable (_ ∧ _))

end HidJoystick
