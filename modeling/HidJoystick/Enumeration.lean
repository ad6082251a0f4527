import HidJoystick.SettingsRefinement

/-!
# Enumeration

Whatever has happened, a host that resets the bus, gives the device an address and selects
the configuration finds it as new. Ticks and reports may go on meanwhile.

* `Enumerating` — how far the host has got.
* `reenumerates` — where the device ends.
-/

namespace HidJoystick

open DeviceSettings

/-! ## The script -/

/-- The event is not part of a conversation on the control endpoint. -/
def Event.isReport : Event → Bool
  | .sof _ | .collect | .transferComplete => true
  | .reset | .setup _ | .ctrlIn | .ctrlOut _ | .underflow | .overflow | .unstall => false

/-- SET_ADDRESS -/
def setAddress (address : Byte) : Vector Byte 8 := #v[0x00, usbReqSetAddress, address, 0, 0, 0, 0, 0]

/-- SET_CONFIGURATION 1 -/
def setConfiguration : Vector Byte 8 := #v[0x00, usbReqSetConfiguration, 1, 0, 0, 0, 0, 0]

/-- The settings of a device that has just been configured -/
def configured : DeviceSettings Byte := { unset with configuration := 1 }

/-- The firmware is in a state of the control pipe and of the settings. -/
structure Firmware.At (s : Firmware) (c : DeviceSettings Byte) (pipe : ControlPipe Byte Byte) :
    Prop where
  inv : s.Inv
  control : s.Tracks pipe
  settings : s.Holds c

section Steps

variable {s : Firmware} {c : DeviceSettings Byte} {pipe : ControlPipe Byte Byte}

/-- What an event does to both -/
theorem Firmware.At.step (h : s.At c pipe) {e : Event} (hstays : ¬ Strays s e) :
    ∃ s', device.step s e = .ok s' ∧
      s'.At (c.apply (s.settingsOrder e)) (pipe.next 8 (s.controlEvent e)) ∧
      s'.pipe = s.pipe.step (s.pipeOp e) := by
  obtain ⟨s', hs', hpipe, hinv⟩ := device_step h.inv hstays
  have hcontrol := control_step h.inv h.control.inv hstays hs'
  rw [h.control.pipe] at hcontrol
  exact ⟨s', hs', ⟨hinv, hcontrol, settings_step h.inv h.settings hs'⟩, hpipe⟩

/-- The reports stay in the tables, order nothing and send nothing on the control endpoint. -/
theorem isReport_eq {e : Event} (he : e.isReport = true) :
    ¬ Strays s e ∧ s.settingsOrder e = .keep ∧ s.controlEvent e = .keep ∧
      ∀ s', ctrlReceived ⟨s, e, s'⟩ = none := by
  cases e with
  | sof _ | collect | transferComplete => exact ⟨not_false, rfl, rfl, fun _ => rfl⟩
  | reset | setup _ | ctrlIn | ctrlOut _ | underflow | overflow | unstall => cases he

/-- The reports leave both alone, and the interface. -/
theorem Firmware.At.report (h : s.At c pipe) {e : Event} (he : e.isReport = true) :
    ∃ s', device.step s e = .ok s' ∧ s'.At c pipe ∧ s'.pipe.enable = s.pipe.enable ∧
      ctrlReceived ⟨s, e, s'⟩ = none := by
  obtain ⟨hstays, horder, hevent, hnone⟩ := isReport_eq (s := s) he
  obtain ⟨s', hs', hat, hpipe⟩ := h.step hstays
  rw [horder, hevent] at hat
  refine ⟨s', hs', hat, ?_, hnone s'⟩
  rw [hpipe]
  cases e with
  | sof tick => exact (Pipe.sameSetup_tick tick _).enable
  | collect => exact (Pipe.sameSetup_collect _).enable
  | transferComplete => exact (Pipe.sameSetup_transferComplete _).enable
  | reset | setup _ | ctrlIn | ctrlOut _ | underflow | overflow | unstall => cases he

/-- The host polls. -/
theorem Firmware.At.ctrlIn (h : s.At c pipe) :
    ∃ s', device.step s .ctrlIn = .ok s' ∧ s'.At c pipe.poll ∧ s'.pipe = s.pipe ∧
      ctrlReceived ⟨s, .ctrlIn, s'⟩ = pipe.offered := by
  obtain ⟨s', hs', hat, hpipe⟩ := h.step (e := .ctrlIn) not_false
  refine ⟨s', hs', hat, hpipe, ?_⟩
  rw [← h.control.pipe]
  exact (offered_controlPipe h.control.inv).symm

end Steps

/-! ## The answers -/

section Answers

variable {s : Firmware}

/-- The address the packet carries -/
theorem wValue_setAddress :
    ∀ a : Byte, a < 128 → ((UsbSetupReq.ofPacket (setAddress a)).wValue &&& 0x7F).setWidth 8 = a := by
  decide +kernel

theorem inScope_setAddress (a : Byte) : (Event.setup (setAddress a)).inScope :=
  fun h => absurd h.2 (by decide : (0x00 : Byte) &&& 0x1F ≠ 2)

/-- SET_ADDRESS is taken in any state, -/
theorem answer_setAddress {a : Byte} (ha : a < 128) :
    (s.atSetup (setAddress a)).answer = .accept (some a) := by
  have hreq := atSetup_req (setAddress a) s
  have hlen : (UsbSetupReq.ofPacket (setAddress a)).wLength = 0 :=
    (by decide : ((0 : Byte).setWidth 16 <<< 8 ||| (0 : Byte).setWidth 16 : Word) = 0)
  have htakes : (s.atSetup (setAddress a)).takes := by
    refine Or.inl ⟨?_, Or.inl ⟨?_, ?_⟩⟩
    · rw [hreq]
      exact (by decide : (0x00 : Byte) &&& 0x60 = 0)
    · rw [hreq]
      exact (by decide : (0x00 : Byte) &&& 0x1F = 0)
    · rw [Firmware.takesDevice, hreq]
      exact ⟨hlen, Or.inl rfl⟩
  have hdefers : (s.atSetup (setAddress a)).defers = some a := by
    rw [Firmware.defers, hreq, if_pos, wValue_setAddress a ha]
    exact ⟨(by decide : (0x00 : Byte) &&& 0x60 = 0), (by decide : (0x00 : Byte) &&& 0x1F = 0), rfl⟩
  have hout : uddSetupIsIn (.ofPacket (setAddress a)) = false :=
    (by decide : ((0x00 : Byte) &&& 0x80 == 0x80) = false)
  rw [answer_out hout hlen htakes, hdefers]

/-- and SET_CONFIGURATION in any state with an address. -/
theorem setConfiguration_eq (h : s.ControlInv) (haddr : s.controlPipe.settled ≠ 0) :
    (s.atSetup setConfiguration).answer = .accept none ∧
      (s.atSetup setConfiguration).order = .configure 1 := by
  have hreq := atSetup_req setConfiguration s
  have htakes : (s.atSetup setConfiguration).takesDevice := by
    rw [Firmware.takesDevice, hreq, usbAddr_atSetup h]
    exact ⟨by decide, Or.inr (Or.inr ⟨rfl, haddr, by decide⟩)⟩
  have hdefers : (s.atSetup setConfiguration).defers = none := by
    rw [Firmware.defers, hreq]
    rfl
  constructor
  · rw [answer_out (by decide) (by decide), hdefers]
    refine Or.inl ⟨?_, Or.inl ⟨?_, htakes⟩⟩
    · rw [hreq]
      rfl
    · rw [hreq]
      rfl
  · rw [Firmware.order, Firmware.deviceOrder, if_pos htakes, hreq]
    rfl

end Answers

/-! ## The phases -/

/-- The control endpoint waits for a request, under an address. -/
def idleAt (a : Byte) : ControlPipe Byte Byte := ⟨.setup, [], false, true, none, a⟩

/-- It waits for the host to take a handshake, after which the address changes. -/
def handshaking (a : Byte) (deferred : Option Byte) : ControlPipe Byte Byte :=
  ⟨.statusIn, [[]], false, true, deferred, a⟩

/-- What the host sends to the control endpoint -/
def enumerating (a : Byte) : List Event :=
  [.reset, .setup (setAddress a), .ctrlIn, .setup setConfiguration, .ctrlIn]

/-- **How far the host has got**: what it has still to send, and the packets it has been
sent. -/
inductive Enumerating (a : Byte) : List Event → List (List Byte) → Firmware → Prop where
  | start {s : Firmware} {c : DeviceSettings Byte} :
    s.Inv → s.Holds c → Enumerating a (enumerating a) [] s
  | reset {s : Firmware} {c : DeviceSettings Byte} :
    s.At c (idleAt 0) → Enumerating a ((enumerating a).drop 1) [] s
  | addressing {s : Firmware} {c : DeviceSettings Byte} :
    s.At c (handshaking 0 (some a)) → Enumerating a ((enumerating a).drop 2) [] s
  | addressed {s : Firmware} {c : DeviceSettings Byte} :
    s.At c (idleAt a) → Enumerating a ((enumerating a).drop 3) [[]] s
  | configuring {s : Firmware} :
    s.At configured (handshaking a none) → s.pipe.enable = true →
    Enumerating a ((enumerating a).drop 4) [[]] s
  | configured {s : Firmware} :
    s.At configured (idleAt a) → s.pipe.enable = true → Enumerating a [] [[], []] s

namespace Enumerating

variable {a : Byte} {rest : List Event} {seen : List (List Byte)} {s : Firmware} {e : Event}

/-- The reports do not get in the way. -/
theorem report (h : Enumerating a rest seen s) (he : e.isReport = true) :
    ∃ s', device.step s e = .ok s' ∧
      Enumerating a rest (seen ++ (ctrlReceived ⟨s, e, s'⟩).toList) s' := by
  have hkeeps {c : DeviceSettings Byte} {pipe : ControlPipe Byte Byte} (hat : s.At c pipe)
      (hphase : ∀ {s' : Firmware}, s'.At c pipe → s'.pipe.enable = s.pipe.enable →
        Enumerating a rest seen s') :
      ∃ s', device.step s e = .ok s' ∧
        Enumerating a rest (seen ++ (ctrlReceived ⟨s, e, s'⟩).toList) s' := by
    obtain ⟨s', hs', hat', henable, hnone⟩ := hat.report he
    refine ⟨s', hs', ?_⟩
    rw [hnone, Option.toList_none, List.append_nil]
    exact hphase hat' henable
  cases h with
  | start hinv hholds =>
    obtain ⟨hstays, horder, _, hnone⟩ := isReport_eq (s := s) he
    obtain ⟨s', hs', _, hinv'⟩ := device_step hinv hstays
    have hholds' := settings_step hinv hholds hs'
    rw [horder] at hholds'
    refine ⟨s', hs', ?_⟩
    rw [hnone s', Option.toList_none, List.append_nil]
    exact .start hinv' hholds'
  | reset hat => exact hkeeps hat fun hat' _ => .reset hat'
  | addressing hat => exact hkeeps hat fun hat' _ => .addressing hat'
  | addressed hat => exact hkeeps hat fun hat' _ => .addressed hat'
  | configuring hat henable =>
    exact hkeeps hat fun hat' henable' => .configuring hat' (henable'.trans henable)
  | configured hat henable =>
    exact hkeeps hat fun hat' henable' => .configured hat' (henable'.trans henable)

/-- **The step lemma**: the next event of the host leads to the next phase. -/
theorem next (h : Enumerating a (e :: rest) seen s) (ha : a ≠ 0) (ha' : a < 128) :
    ∃ s', device.step s e = .ok s' ∧
      Enumerating a rest (seen ++ (ctrlReceived ⟨s, e, s'⟩).toList) s' := by
  generalize hevents : e :: rest = events at h
  cases h with
  | start hinv hholds =>
    obtain ⟨rfl, rfl⟩ := List.cons.inj hevents
    obtain ⟨s', hs', _, hinv'⟩ := device_step hinv (e := .reset) not_false
    have hcontrol := (tracks_busReset s s.controlPipe).value hs'
    exact ⟨s', hs', .reset ⟨hinv', hcontrol, settings_step hinv hholds hs'⟩⟩
  | reset hat =>
    obtain ⟨rfl, rfl⟩ := List.cons.inj hevents
    obtain ⟨s', hs', hat', _⟩ := hat.step (e := .setup (setAddress a))
      (not_strays_of_inScope (inScope_setAddress a))
    rw [Firmware.controlEvent, answer_setAddress ha'] at hat'
    exact ⟨s', hs', .addressing hat'⟩
  | addressing hat =>
    obtain ⟨rfl, rfl⟩ := List.cons.inj hevents
    obtain ⟨s', hs', hat', _, hreceived⟩ := hat.ctrlIn
    refine ⟨s', hs', ?_⟩
    rw [hreceived]
    exact .addressed hat'
  | addressed hat =>
    obtain ⟨rfl, rfl⟩ := List.cons.inj hevents
    have haddr : s.controlPipe.settled ≠ 0 := by
      rw [hat.control.pipe]
      exact ha
    obtain ⟨hanswer, horder⟩ := setConfiguration_eq hat.control.inv haddr
    obtain ⟨s', hs', hat', hpipe⟩ := hat.step (e := .setup setConfiguration)
      (not_strays_of_inScope (by decide))
    rw [Firmware.controlEvent, hanswer, Firmware.settingsOrder, horder] at hat'
    rw [Firmware.pipeOp_setup, pipeRequest_eq, horder] at hpipe
    refine ⟨s', hs', .configuring hat' ?_⟩
    -- the old configuration has been given up, so the endpoint is allocated anew
    have hfree := hat.inv.pipe.isEnable_deconfigure
    have henable : (s.pipe.configure 1).enable = true := by
      rw [Pipe.configure, if_neg (by decide), Pipe.attach, if_neg]
      · rfl
      · rw [hfree]
        exact Bool.false_ne_true
    rw [hpipe]
    exact henable
  | configuring hat henable =>
    obtain ⟨rfl, rfl⟩ := List.cons.inj hevents
    obtain ⟨s', hs', hat', hpipe, hreceived⟩ := hat.ctrlIn
    refine ⟨s', hs', ?_⟩
    rw [hreceived]
    exact .configured hat' ((congrArg Pipe.enable hpipe).trans henable)
  | configured hat henable => cases hevents

end Enumerating

/-! ## The run -/

/-- Whatever the control endpoint was doing, the reset ends it. -/
theorem enumerates {s : Firmware} (h : s.Inv) {c : DeviceSettings Byte} (hc : s.Holds c) {a : Byte}
    (ha : a ≠ 0) (ha' : a < 128) {es : List Event}
    (hes : es.filter (fun e => !e.isReport) = enumerating a) :
    ∃ s', device.run s es = .ok s' ∧ ctrlPackets s es = [[], []] ∧
      s'.controlPipe = idleAt a ∧ s'.Holds configured ∧ s'.mainBGenericEnable = true ∧
      uddEndpointIsEnable (s'.ctrl epInCtrl) = true := by
  have hstart : Enumerating a (es.filter fun e => !e.isReport) [] s := by
    rw [hes]
    exact .start h hc
  obtain ⟨s', hs', hend⟩ := Machine.script_run (f := ctrlReceived)
    (fun _ _ _ _ he hP => hP.report (by simpa using he)) (fun _ _ _ _ hP => hP.next ha ha') hstart
  rw [List.nil_append] at hend
  have hpackets : ctrlPackets s es = (device.transitions s es).filterMap ctrlReceived := rfl
  rw [← hpackets] at hend
  generalize hseen : ctrlPackets s es = seen at hend
  generalize hrest : ([] : List Event) = rest at hend
  cases hend with
  | configured hat henable =>
    exact ⟨s', hs', rfl, hat.control.pipe, hat.settings, henable,
      hat.inv.pipe.allocated.trans henable⟩
  | start _ _ | reset _ | addressing _ | addressed _ | configuring _ _ => cases hrest

/-- **Enumeration always works.** From any reachable state, let the host reset the bus, give
the device an address and select the configuration, and let the reports go on meanwhile as
they like. The host gets the two handshakes; the device then has the address and the settings
of a newly configured one, its control endpoint waits for a request, and its report endpoint
is allocated and not halted. -/
theorem reenumerates {s : Firmware} (h : Reachable s) {a : Byte} (ha : a ≠ 0) (ha' : a < 128)
    {es : List Event} (hes : es.filter (fun e => !e.isReport) = enumerating a) :
    ∃ s', device.run s es = .ok s' ∧ ctrlPackets s es = [[], []] ∧
      s'.controlPipe = idleAt a ∧ s'.Holds configured ∧ s'.mainBGenericEnable = true ∧
      uddEndpointIsEnable (s'.ctrl epInCtrl) = true := by
  obtain ⟨c, hc⟩ := h.holds
  exact enumerates h.inv hc ha ha' hes

/-- The host gives up the only setting, and breaks off the next request. -/
def brokenOff : List Event :=
  enumeration ++ [touchLeft, .setup setInterface1, .unstall, .setup getDeviceDescriptor, .ctrlIn]

/-- It starts again, while the pad is being touched. -/
def startsAgain : List Event :=
  [touchLeft, .reset, .setup (setAddress 7), touchLeft, .ctrlIn, .setup setConfiguration, .collect,
    .ctrlIn, touchLeft]

theorem reenumerates_brokenOff :
    ∃ s s', device.run Firmware.powerOn brokenOff = .ok s ∧ device.run s startsAgain = .ok s' ∧
      ctrlPackets s startsAgain = [[], []] ∧ s'.controlPipe = idleAt 7 ∧ s'.Holds configured ∧
      s'.mainBGenericEnable = true ∧ uddEndpointIsEnable (s'.ctrl epInCtrl) = true := by
  obtain ⟨s, hs⟩ : ∃ s, device.run Firmware.powerOn brokenOff = .ok s := ⟨_, rfl⟩
  have hes : startsAgain.filter (fun e => !e.isReport) = enumerating 7 := rfl
  obtain ⟨s', hs', hend⟩ := reenumerates ⟨brokenOff, hs⟩ (by decide) (by decide) hes
  exact ⟨s, s', hs, hs', hend⟩

end HidJoystick
