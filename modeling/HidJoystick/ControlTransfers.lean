import HidJoystick.ControlRefinement
import HidJoystick.Reachable

/-!
# Control transfers

What the refinement says to a host, about every reachable state and every order of events.

* Refinement — `control_refines`: the control endpoint is a control pipe.
* Replies — `reply_prefix_safe`: what the host gets is the beginning of the object it asked
  for, and it cannot take a part for the whole. `reply_polled`: a host that polls gets all.
* Memory — `ctrlPacket_inside`: no packet reaches past the end of a buffer.
* Answers — `refused_iff`: which requests are refused.
* The address — `address_step`: what can change it; `handshake_settles`: the address
  changes with the handshake and not before.
-/

namespace HidJoystick

open Packets

/-- The packets the host gets from the control endpoint in a run -/
def ctrlPackets (s : Firmware) (es : List Event) : List (List Byte) :=
  (device.transitions s es).filterMap ctrlReceived

/-- The request goes on: there is no SETUP packet, and no reset. -/
def Event.goesOn : Event → Prop
  | .setup _ | .reset => False
  | .sof _ | .collect | .transferComplete | .ctrlIn | .ctrlOut _ | .underflow | .overflow
  | .unstall => True

instance : DecidablePred Event.goesOn
  | .setup _ | .reset => inferInstanceAs (Decidable False)
  | .sof _ | .collect | .transferComplete | .ctrlIn | .ctrlOut _ | .underflow | .overflow
  | .unstall => inferInstanceAs (Decidable True)

/-- The host polls the control endpoint. -/
def Event.isCtrlIn : Event → Bool
  | .ctrlIn => true
  | _ => false

/-- The host polls, or the control endpoint has no part in it. -/
def Event.polls : Event → Prop
  | .sof _ | .collect | .transferComplete | .ctrlIn => True
  | .setup _ | .reset | .ctrlOut _ | .underflow | .overflow | .unstall => False

instance : DecidablePred Event.polls
  | .sof _ | .collect | .transferComplete | .ctrlIn => inferInstanceAs (Decidable True)
  | .setup _ | .reset | .ctrlOut _ | .underflow | .overflow | .unstall =>
    inferInstanceAs (Decidable False)

section Runs

variable {s : Firmware}

/-- The reachable states show as control pipes. -/
theorem Reachable.showsControl (h : Reachable s) : ShowsControl s s.controlPipe :=
  ⟨h.inv, rfl, h.controlInv⟩

theorem admits_strays {es : List Event} (h : device.Admits InScope s es) :
    device.Admits (fun s e => ¬ Strays s e) s es := by
  induction es generalizing s with
  | nil => exact trivial
  | cons e es ih =>
    refine ⟨not_strays_of_inScope h.1, ?_⟩
    have hrest := h.2
    rcases hs : device.step s e with f | s'
    · trivial
    · rw [hs] at hrest
      exact ih hrest

/-- A request that goes on stays in scope. -/
theorem admits_goesOn {es : List Event} (hes : ∀ e ∈ es, e.goesOn) :
    device.Admits (fun s e => ¬ Strays s e) s es := by
  induction es generalizing s with
  | nil => exact trivial
  | cons e es ih =>
    refine ⟨?_, ?_⟩
    · have he := hes e List.mem_cons_self
      cases e with
      | setup packet => exact he.elim
      | _ => exact not_false
    · rcases device.step s e with f | s'
      · trivial
      · exact ih fun e' he' => hes e' (List.mem_cons_of_mem e he')

/-- **The refinement, over runs**: the run does not fault, ends where the control pipe ends,
and the host gets the packets the control pipe hands out. -/
theorem control_run (h : Reachable s) {es : List Event}
    (hadm : device.Admits (fun s e => ¬ Strays s e) s es) :
    ∃ s', device.run s es = .ok s' ∧
      (ControlPipe.machine 8).run s.controlPipe (device.shown Firmware.controlEvent s es) =
        .ok s'.controlPipe ∧
      ctrlPackets s es =
        ControlPipe.packetsSent 8 s.controlPipe (device.shown Firmware.controlEvent s es) := by
  obtain ⟨s', c', hs', hc', _, htracks⟩ := control_simulates.run h.showsControl hadm
  refine ⟨s', hs', ?_, ?_⟩
  · rw [htracks.pipe]
    exact hc'
  · exact control_simulates.filterMap_transitions (fun _ _ => ctrlReceived_eq) h.showsControl hadm

/-- What goes on is a stage of the request. -/
theorem isStage_of_goesOn {e : Event} (he : e.goesOn) : (s.controlEvent e).isStage := by
  cases e with
  | setup _ | reset => exact he.elim
  | _ => trivial

/-- A SETUP packet and what follows it, on the control pipe -/
theorem setup_run (h : Reachable s) {packet : Vector Byte 8} (hstays : ¬ Strays s (.setup packet))
    {es : List Event} (hes : ∀ e ∈ es, e.goesOn) :
    ∃ s' fs, device.run s (.setup packet :: es) = .ok s' ∧ (∀ f ∈ fs, f.isStage) ∧
      (ControlPipe.machine 8).run
        (s.controlPipe.next 8 (.setup (s.atSetup packet).answer)) fs = .ok s'.controlPipe ∧
      ctrlPackets s (.setup packet :: es) = ControlPipe.packetsSent 8
        (s.controlPipe.next 8 (.setup (s.atSetup packet).answer)) fs ∧
      fs.countP ControlPipe.Event.isPoll = es.countP Event.isCtrlIn ∧
      ((∀ e ∈ es, e.polls) → ∀ f ∈ fs, f = .poll ∨ f = .keep) := by
  obtain ⟨t, ht, _⟩ := device_step h.inv hstays
  have hadm : device.Admits (fun s e => ¬ Strays s e) s (.setup packet :: es) :=
    (Machine.admits_cons_of_ok ht).mpr ⟨hstays, admits_goesOn hes⟩
  obtain ⟨s', hs', hc', hpackets⟩ := control_run h hadm
  rw [Machine.run_cons_of_ok ht] at hs'
  have hshown : device.shown Firmware.controlEvent s (.setup packet :: es) =
      .setup (s.atSetup packet).answer :: device.shown Firmware.controlEvent t es := by
    rw [Machine.shown, Machine.transitions_cons_of_ok ht]
    rfl
  rw [hshown, Machine.run_cons_of_ok (ControlPipe.machine_step _ _)] at hc'
  rw [hshown, ControlPipe.packetsSent_cons] at hpackets
  refine ⟨s', _, ?_, Machine.mem_shown hs' fun u e he => isStage_of_goesOn (hes e he), hc', hpackets,
    Machine.countP_shown hs' fun u e _ => ?_, fun hpolls => Machine.mem_shown hs' fun u e he => ?_⟩
  · rw [Machine.run_cons_of_ok ht, hs']
  · cases e <;> rfl
  · have hpoll := hpolls e he
    cases e with
    | ctrlIn => exact Or.inl rfl
    | sof _ | collect | transferComplete => exact Or.inr rfl
    | setup _ | reset | ctrlOut _ | underflow | overflow | unstall => exact hpoll.elim

end Runs

/-- **The control endpoint is a control pipe.** Whatever the order of ticks, polls, resets
and requests, the endpoint goes through the stages of a request as a control pipe does, and
the host gets the packets the control pipe hands out. -/
theorem control_refines {es : List Event} (h : device.Admits InScope Firmware.powerOn es) :
    ∃ s, device.run Firmware.powerOn es = .ok s ∧
      (ControlPipe.machine 8).run Firmware.powerOn.controlPipe
        (device.shown Firmware.controlEvent Firmware.powerOn es) = .ok s.controlPipe ∧
      ctrlPackets Firmware.powerOn es = ControlPipe.packetsSent 8 Firmware.powerOn.controlPipe
        (device.shown Firmware.controlEvent Firmware.powerOn es) :=
  control_run ⟨[], rfl⟩ (admits_strays h)

theorem control_refines_enumeration :
    ∃ s, device.run Firmware.powerOn enumeration = .ok s ∧
      (ControlPipe.machine 8).run Firmware.powerOn.controlPipe
        (device.shown Firmware.controlEvent Firmware.powerOn enumeration) = .ok s.controlPipe ∧
      ctrlPackets Firmware.powerOn enumeration = ControlPipe.packetsSent 8
        Firmware.powerOn.controlPipe
        (device.shown Firmware.controlEvent Firmware.powerOn enumeration) :=
  control_refines (by decide +kernel)

/-! ## Replies -/

section Replies

variable {s : Firmware} {packet : Vector Byte 8}

/-- The answer to an IN request for an object -/
theorem answer_in {object : List Byte} (hin : uddSetupIsIn (.ofPacket packet) = true)
    (hasked : (s.atSetup packet).requested = some object) :
    (s.atSetup packet).answer = .reply (UsbSetupReq.ofPacket packet).wLength.toNat
      (object.take (UsbSetupReq.ofPacket packet).wLength.toNat) := by
  rw [Firmware.answer, atSetup_req, hin, if_pos rfl, hasked]

/-- An IN request that leaves the tables asks for an endpoint the device has not. -/
theorem requested_of_strays {t : Firmware} (hin : uddSetupIsIn t.uddGCtrlreq.req = true)
    (h : t.strays) : t.requested = none := by
  obtain ⟨⟨htype, hrecip⟩, ⟨_, hreq, hlen, hnumber⟩ | ⟨hout, _⟩ | ⟨hout, _⟩⟩ := h
  · have hsome : t.uddGCtrlreq.req.wLength ≠ 0 := by
      rw [hlen]
      decide
    have hdevice : uddSetupRecipient t.uddGCtrlreq.req ≠ usbReqRecipDevice := by
      rw [hrecip]
      decide
    have hiface : uddSetupRecipient t.uddGCtrlreq.req ≠ usbReqRecipInterface := by
      rw [hrecip]
      decide
    have hdesc : t.uddGCtrlreq.req.bRequest ≠ usbReqGetDescriptor := by
      rw [hreq]
      decide
    obtain ⟨i, hi⟩ := uddEpGetCtrl_large hnumber
    have hendpoint : t.requestedEndpoint = none := by
      rw [Firmware.requestedEndpoint, if_pos ⟨hreq, hlen⟩, hi]
    have hhid : t.requestedHid = none := by
      rw [Firmware.requestedHid, if_pos htype, if_neg hdesc]
    rw [Firmware.requested, if_neg hsome, if_pos htype, Firmware.requestedStandard, if_neg hdevice,
      if_neg hiface, if_pos hrecip, hendpoint, hhid, ite_self]
    rfl
  · exact absurd (hin.symm.trans hout) Bool.noConfusion
  · exact absurd (hin.symm.trans hout) Bool.noConfusion

/-- A request for an object of the device stays inside the tables. -/
theorem not_strays_of_requested (hin : uddSetupIsIn (.ofPacket packet) = true) {object : List Byte}
    (hasked : (s.atSetup packet).requested = some object) : ¬ Strays s (.setup packet) := by
  intro hstrays
  have hin' : uddSetupIsIn (s.atSetup packet).uddGCtrlreq.req = true := by
    rw [atSetup_req]
    exact hin
  rw [requested_of_strays hin' hstrays] at hasked
  cases hasked

/-- **A reply is never cut short unnoticed.** From any reachable state, let the host ask for
an object, and then let anything happen but a SETUP packet and a reset. No fault occurs, the
host gets the beginning of the object, in packets of eight bytes; and if it takes the
transfer to be over, it has got as much as it asked for. -/
theorem reply_prefix_safe (h : Reachable s) (hin : uddSetupIsIn (.ofPacket packet) = true)
    {object : List Byte} (hasked : (s.atSetup packet).requested = some object) {es : List Event}
    (hes : ∀ e ∈ es, e.goesOn) :
    let wLength := (UsbSetupReq.ofPacket packet).wLength.toNat
    (∃ s', device.run s (.setup packet :: es) = .ok s') ∧
      ctrlPackets s (.setup packet :: es) <+: packets 8 wLength (object.take wLength) ∧
      ∀ data rest, readTransfer 8 wLength (ctrlPackets s (.setup packet :: es)) = some (data, rest) →
        data = object.take wLength ∧ rest = [] := by
  intro wLength
  obtain ⟨s', fs, hs', hstage, hrun, hpackets, _⟩ :=
    setup_run h (not_strays_of_requested hin hasked) hes
  rw [answer_in hin hasked] at hrun hpackets
  have hprogress := (ControlPipe.progress_reply s.controlPipe wLength (object.take wLength)).run
    hstage hrun
  rw [List.nil_append, ← hpackets] at hprogress
  refine ⟨⟨s', hs'⟩, hprogress.isPrefix, fun data rest hread => ?_⟩
  by_cases hall : ctrlPackets s (.setup packet :: es) = packets 8 wLength (object.take wLength)
  · have hround := readTransfer_packets (m := 8) (by decide) (List.length_take_le wLength object) []
    rw [List.append_nil, ← hall, hread] at hround
    obtain ⟨rfl, rfl⟩ := Prod.mk.inj (Option.some.inj hround)
    exact ⟨rfl, rfl⟩
  · rw [readTransfer_of_isPrefix (by decide) hprogress.isPrefix hall] at hread
    cases hread

/-- What polls is a stage of the request. -/
theorem goesOn_of_polls {e : Event} (h : e.polls) : e.goesOn := by
  cases e with
  | sof _ | collect | transferComplete | ctrlIn => trivial
  | setup _ | reset | ctrlOut _ | underflow | overflow | unstall => exact h.elim

/-- Every poll gets the next packet. -/
theorem polled_reply (h : Reachable s)
    (henabled : uddEndpointIsEnable (s.ctrl ctrlIn) = true)
    (hhalted : (s.ctrl ctrlIn).stall = false) (hin : uddSetupIsIn (.ofPacket packet) = true)
    {object : List Byte} (hasked : (s.atSetup packet).requested = some object) {es : List Event}
    (hes : ∀ e ∈ es, e.polls) :
    let wLength := (UsbSetupReq.ofPacket packet).wLength.toNat
    ctrlPackets s (.setup packet :: es) =
      (packets 8 wLength (object.take wLength)).take (es.countP Event.isCtrlIn) := by
  intro wLength
  obtain ⟨s', fs, _, _, _, hpackets, hcount, hpolls⟩ :=
    setup_run h (not_strays_of_requested hin hasked) fun e he => goesOn_of_polls (hes e he)
  rw [answer_in hin hasked, ControlPipe.next_setup, ControlPipe.packetsSent_poll (hpolls hes)
    henabled hhalted (Or.inl rfl), hcount] at hpackets
  exact hpackets

/-- A request that asks for nothing gets nothing. -/
theorem refused_packets (h : Reachable s) (hstays : ¬ Strays s (.setup packet))
    (hin : uddSetupIsIn (.ofPacket packet) = true) (hasked : (s.atSetup packet).requested = none)
    {es : List Event} (hes : ∀ e ∈ es, e.goesOn) : ctrlPackets s (.setup packet :: es) = [] := by
  obtain ⟨s', fs, _, hstage, _, hpackets, _⟩ := setup_run h hstays hes
  have hanswer : (s.atSetup packet).answer = .refuse := by
    rw [Firmware.answer, atSetup_req, hin, if_pos rfl, hasked]
  rw [hpackets, hanswer]
  exact ControlPipe.packetsSent_refuse s.controlPipe hstage

/-- **A host that polls gets the object.** From any reachable state in which the endpoint is
enabled and not halted, every poll of the host gets the next packet, whatever the reports
do meanwhile; with enough polls it has read as much of the object as it asked for. -/
theorem reply_polled (h : Reachable s)
    (henabled : uddEndpointIsEnable (s.ctrl ctrlIn) = true)
    (hhalted : (s.ctrl ctrlIn).stall = false) (hin : uddSetupIsIn (.ofPacket packet) = true)
    {object : List Byte} (hasked : (s.atSetup packet).requested = some object) {es : List Event}
    (hes : ∀ e ∈ es, e.polls) :
    let wLength := (UsbSetupReq.ofPacket packet).wLength.toNat
    ctrlPackets s (.setup packet :: es) =
        (packets 8 wLength (object.take wLength)).take (es.countP Event.isCtrlIn) ∧
      ((packets 8 wLength (object.take wLength)).length ≤ es.countP Event.isCtrlIn →
        readTransfer 8 wLength (ctrlPackets s (.setup packet :: es)) =
          some (object.take wLength, [])) := by
  intro wLength
  have hpackets := polled_reply h henabled hhalted hin hasked hes
  refine ⟨hpackets, fun hmany => ?_⟩
  have hround := readTransfer_packets (m := 8) (by decide) (List.length_take_le wLength object) []
  rw [hpackets]
  change readTransfer 8 wLength ((packets 8 wLength (object.take wLength)).take _) = _
  rw [List.take_of_length_le hmany, ← hround, List.append_nil]

/-- **No packet reaches past the end of its buffer**: the controller finds as many bytes as
it is told to send, and at most eight. -/
theorem ctrlPacket_inside (h : Reachable s) (harmed : (s.ctrl ctrlIn).armed = true) :
    s.ctrlPacketIn.length = (s.ctrl ctrlIn).cnt.toNat ∧ (s.ctrl ctrlIn).cnt.toNat ≤ 8 := by
  have hc := h.controlInv
  have hoffered := offered_controlPipe hc
  rw [if_pos harmed] at hoffered
  have hqueue : s.controlQueue ≠ [] := by
    intro hnil
    have hcons := ControlPipe.offered_eq_some hoffered
    rw [show s.controlPipe.queue = [] from hnil] at hcons
    cases hcons
  rcases controlQueue_cases hqueue with hwait | hsending
  · have hcnt := hc.handshake hwait
    rw [Firmware.ctrlPacketIn, hcnt]
    exact ⟨rfl, by decide⟩
  · have hs := hc.sending hsending
    have hcnt := hs.cnt
    refine ⟨?_, by omega⟩
    rw [hs.ctrlPacketIn, List.length_take, List.length_drop, hs.length_reply, hcnt]

end Replies

/-- GET_DESCRIPTOR of the device, with room for 64 bytes -/
def getDeviceDescriptor : Vector Byte 8 := #v[0x80, 6, 0, 1, 0, 0, 64, 0]

/-- A handshake fits a packet. -/
theorem length_handshake : ([] : List Byte).length ≤ 8 := Nat.zero_le 8

/-- The host polls three times, is late once, and ends the request early. -/
def pollsAndEnds : List Event :=
  [.ctrlIn, touchLeft, .overflow, .collect, .ctrlIn, .transferComplete,
    .ctrlOut ⟨[], length_handshake⟩, .ctrlIn]

theorem enumerated_getDeviceDescriptor :
    ∃ s, device.run Firmware.powerOn enumeration = .ok s ∧
      (s.atSetup getDeviceDescriptor).requested = some udcDeviceDesc ∧
      uddEndpointIsEnable (s.ctrl ctrlIn) = true ∧ (s.ctrl ctrlIn).stall = false :=
  ⟨_, rfl, by decide +kernel, by decide +kernel, by decide +kernel⟩

theorem reply_prefix_safe_device :
    ∃ s, device.run Firmware.powerOn enumeration = .ok s ∧
      (∃ s', device.run s (.setup getDeviceDescriptor :: pollsAndEnds) = .ok s') ∧
      ctrlPackets s (.setup getDeviceDescriptor :: pollsAndEnds) <+:
        packets 8 64 (udcDeviceDesc.take 64) := by
  obtain ⟨s, hrun, hasked, _⟩ := enumerated_getDeviceDescriptor
  have hgoesOn : ∀ e ∈ pollsAndEnds, e.goesOn := by decide
  have hsafe := reply_prefix_safe ⟨enumeration, hrun⟩ rfl hasked hgoesOn
  exact ⟨s, hrun, hsafe.1, hsafe.2.1⟩

theorem reply_polled_device :
    ∃ s, device.run Firmware.powerOn enumeration = .ok s ∧
      readTransfer 8 64
        (ctrlPackets s (.setup getDeviceDescriptor :: [.ctrlIn, touchLeft, .ctrlIn, .ctrlIn])) =
          some (udcDeviceDesc, []) := by
  obtain ⟨s, hrun, hasked, henabled, hhalted⟩ := enumerated_getDeviceDescriptor
  have hpolls : ∀ e ∈ [Event.ctrlIn, touchLeft, .ctrlIn, .ctrlIn], e.polls := by decide
  have hpolled := reply_polled ⟨enumeration, hrun⟩ henabled hhalted rfl hasked hpolls
  have hthree : (packets 8 64 (udcDeviceDesc.take 64)).length = 3 := by
    simp [packets, udcDeviceDesc]
  exact ⟨s, hrun, hpolled.2 (Nat.le_of_eq hthree)⟩

/-- The second packet of the device descriptor -/
theorem ctrlPacket_inside_device :
    ∃ s, device.run Firmware.powerOn (enumeration ++ [.setup getDeviceDescriptor, .ctrlIn]) =
        .ok s ∧ s.ctrlPacketIn.length = (s.ctrl ctrlIn).cnt.toNat ∧
      (s.ctrl ctrlIn).cnt.toNat ≤ 8 := by
  obtain ⟨s, hrun, harmed⟩ : ∃ s,
      device.run Firmware.powerOn (enumeration ++ [.setup getDeviceDescriptor, .ctrlIn]) = .ok s ∧
        (s.ctrl ctrlIn).armed = true := ⟨_, rfl, by decide +kernel⟩
  exact ⟨s, hrun, ctrlPacket_inside ⟨_, hrun⟩ harmed⟩

/-! ## Answers -/

section Answers

variable {s : Firmware}

theorem stage_eq_stalled_iff {state : UddCtrlEpState} :
    state.stage = .stalled ↔ state = .stallReq := by
  cases state <;> decide

theorem stage_eq_statusIn_iff {state : UddCtrlEpState} :
    state.stage = .statusIn ↔ state = .handshakeWaitInZlp := by
  cases state <;> decide

/-- The stage after a SETUP packet tells the answer. -/
theorem answer_stalled_iff (c : ControlPipe Byte Byte) (t : Firmware) :
    (c.next 8 (.setup t.answer)).stage = .stalled ↔
      if uddSetupIsIn t.uddGCtrlreq.req then t.requested = none else ¬ t.takes := by
  rw [ControlPipe.next_setup, Firmware.answer]
  split
  · rcases t.requested with _ | object
    · exact iff_of_true rfl rfl
    · exact iff_of_false ControlStage.noConfusion (Option.some_ne_none object)
  · split
    · next htakes =>
      split
      · exact iff_of_false ControlStage.noConfusion (not_not.mpr htakes)
      · exact iff_of_false ControlStage.noConfusion (not_not.mpr htakes)
    · next htakes => exact iff_of_true rfl htakes

/-- **Which requests are refused**, in every reachable state, of those that stay inside the
tables: IN requests that ask for nothing the device has, and OUT requests it does not take. -/
theorem refused_iff (h : Reachable s) {packet : Vector Byte 8}
    (hstays : ¬ Strays s (.setup packet)) :
    ∃ s', device.step s (.setup packet) = .ok s' ∧
      (s'.uddEpControlState = .stallReq ↔
        if uddSetupIsIn (.ofPacket packet) then (s.atSetup packet).requested = none
        else ¬ (s.atSetup packet).takes) := by
  obtain ⟨s', hs', _⟩ := device_step h.inv hstays
  have htracks := control_step h.inv h.controlInv hstays hs'
  refine ⟨s', hs', ?_⟩
  rw [← stage_eq_stalled_iff, ← atSetup_req packet s, ← answer_stalled_iff s.controlPipe]
  exact iff_of_eq (congrArg (fun c => c.stage = .stalled) htracks.pipe)

end Answers

theorem refused_iff_setInterface1 :
    ∃ s s', device.run Firmware.powerOn enumeration = .ok s ∧
      device.step s (.setup setInterface1) = .ok s' ∧
      (s'.uddEpControlState = .stallReq ↔ ¬ (s.atSetup setInterface1).takes) := by
  obtain ⟨s, hrun⟩ : ∃ s, device.run Firmware.powerOn enumeration = .ok s := ⟨_, rfl⟩
  have hstays : ¬ Strays s (.setup setInterface1) := not_strays_of_inScope (by decide)
  obtain ⟨s', hs', hiff⟩ := refused_iff ⟨enumeration, hrun⟩ hstays
  exact ⟨s, s', hrun, hs', hiff⟩

/-! ## The address -/

section Address

variable {s s' : Firmware} {packet : Vector Byte 8}

/-- Changes are deferred to the handshake only. -/
theorem Reachable.orderly (h : Reachable s) : s.controlPipe.Orderly := by
  obtain ⟨es, hrun⟩ := h
  have hpreserves : device.Preserves fun s => s.Inv ∧ s.ControlInv ∧ s.controlPipe.Orderly := by
    rintro s e s' ⟨hinv, hc, horderly⟩ hstep
    have htracks := control_step hinv hc (not_strays_of_step hstep) hstep
    refine ⟨device_preserves s e s' hinv hstep, htracks.inv, ?_⟩
    rw [htracks.pipe]
    exact horderly.next _
  have hnone : Firmware.powerOn.controlPipe.deferred = none := rfl
  exact (hpreserves.run ⟨inv_powerOn, powerOn_controlInv, .of_none hnone⟩ hrun).2.2

/-- **What changes the address**: a reset, and the end of the handshake of SET_ADDRESS. The
host has then got the handshake, or sends a SETUP packet as if it had. -/
theorem address_step (h : Reachable s) {e : Event} (hstep : device.step s e = .ok s')
    (hne : s'.usbAddr ≠ s.usbAddr) :
    e = .reset ∧ s'.usbAddr = 0 ∨
      s.uddEpControlState = .handshakeWaitInZlp ∧ s.deferred = some s'.usbAddr ∧
        (e = .ctrlIn ∧ (s.ctrl ctrlIn).armed = true ∨ ∃ packet, e = .setup packet) := by
  have htracks := control_step h.inv h.controlInv (not_strays_of_step hstep) hstep
  have hvalue : s'.usbAddr = (s.controlPipe.next 8 (s.controlEvent e)).value :=
    congrArg ControlPipe.value htracks.pipe
  rw [hvalue] at hne ⊢
  rcases h.orderly.value_next hne with ⟨v, hreset, hv⟩ | ⟨hstage, hdeferred, hevent⟩
  · left
    cases e with
    | reset =>
      refine ⟨rfl, hv.trans ?_⟩
      cases hreset
      rfl
    | _ => cases hreset
  · right
    have hwait : s.uddEpControlState = .handshakeWaitInZlp := stage_eq_statusIn_iff.mp hstage
    have hdeferred' : s.deferred = s.controlPipe.deferred := by
      change s.deferred = if s.uddEpControlState = .stallReq then none else s.deferred
      rw [hwait]
      rfl
    refine ⟨hwait, hdeferred'.trans hdeferred, ?_⟩
    rcases hevent with ⟨hpoll, hoffered⟩ | ⟨a, hsetup⟩
    · left
      rw [offered_controlPipe h.controlInv] at hoffered
      have harmed : (s.ctrl ctrlIn).armed = true := by
        by_contra hunarmed
        rw [if_neg hunarmed] at hoffered
        cases hoffered
      cases e with
      | ctrlIn => exact ⟨rfl, harmed⟩
      | _ => cases hpoll
    · right
      cases e with
      | setup packet => exact ⟨packet, rfl⟩
      | _ => cases hsetup

/-- The answer to an OUT request without data that is taken -/
theorem answer_out (hout : uddSetupIsIn (.ofPacket packet) = false)
    (hlen : (UsbSetupReq.ofPacket packet).wLength = 0) (htakes : (s.atSetup packet).takes) :
    (s.atSetup packet).answer = .accept (s.atSetup packet).defers := by
  rw [Firmware.answer, atSetup_req, hout, if_neg Bool.false_ne_true, if_pos htakes, if_pos hlen]

/-- The address under which a request is decoded -/
theorem usbAddr_atSetup (h : s.ControlInv) (packet : Vector Byte 8) :
    (s.atSetup packet).usbAddr = s.controlPipe.settled := by
  have hpipe := (tracks_atSetup h packet).pipe
  rw [ControlPipe.interrupt_eq] at hpipe
  exact congrArg ControlPipe.value hpipe

/-- **The device answers under its old address until the host has got the handshake.** From
any reachable state, let the host send an OUT request without data that is taken and stays
inside the tables, and then let anything happen but a SETUP packet and a reset: either nothing was sent, and the address
is what it was, or the handshake was sent, once, and SET_ADDRESS has set the address. -/
theorem handshake_settles (h : Reachable s) (hstays : ¬ Strays s (.setup packet))
    (hout : uddSetupIsIn (.ofPacket packet) = false) (hlen : (UsbSetupReq.ofPacket packet).wLength = 0)
    (htakes : (s.atSetup packet).takes) {es : List Event} (hes : ∀ e ∈ es, e.goesOn) :
    ∃ s', device.run s (.setup packet :: es) = .ok s' ∧
      (ctrlPackets s (.setup packet :: es) = [] ∧ s'.usbAddr = (s.atSetup packet).usbAddr ∨
        ctrlPackets s (.setup packet :: es) = [[]] ∧
          s'.usbAddr = (s.atSetup packet).defers.getD (s.atSetup packet).usbAddr) := by
  obtain ⟨s', fs, hrun, hstage, hcrun, hpackets, _⟩ := setup_run h hstays hes
  rw [answer_out hout hlen htakes, ControlPipe.next_setup] at hcrun hpackets
  have hsettling := (ControlPipe.Settling.waiting rfl rfl rfl rfl rfl).run hstage hcrun
  rw [List.nil_append, ← hpackets] at hsettling
  refine ⟨s', hrun, ?_⟩
  rw [usbAddr_atSetup h.controlInv]
  cases hsettling with
  | waiting _ _ _ hvalue hnone => exact Or.inl ⟨hnone, hvalue⟩
  | settled _ _ hvalue hone => exact Or.inr ⟨hone, hvalue⟩

end Address

/-- SET_ADDRESS 5 -/
def setAddress5 : Vector Byte 8 := #v[0x00, 5, 5, 0, 0, 0, 0, 0]

theorem address_step_reset :
    ∃ s s', device.run Firmware.powerOn enumeration = .ok s ∧ device.step s .reset = .ok s' ∧
      s'.usbAddr ≠ s.usbAddr ∧ (Event.reset = .reset ∧ s'.usbAddr = 0 ∨
        s.uddEpControlState = .handshakeWaitInZlp ∧ s.deferred = some s'.usbAddr ∧
          (Event.reset = .ctrlIn ∧ (s.ctrl ctrlIn).armed = true ∨
            ∃ packet, Event.reset = .setup packet)) := by
  obtain ⟨s, s', hrun, hstep, hne⟩ : ∃ s s', device.run Firmware.powerOn enumeration = .ok s ∧
      device.step s .reset = .ok s' ∧ s'.usbAddr ≠ s.usbAddr := ⟨_, _, rfl, rfl, by decide +kernel⟩
  exact ⟨s, s', hrun, hstep, hne, address_step ⟨enumeration, hrun⟩ hstep hne⟩

/-- The handshake is asked for late, and once too often. -/
theorem handshake_settles_setAddress5 :
    ∃ s s', device.run Firmware.powerOn enumeration = .ok s ∧
      device.run s (.setup setAddress5 :: [touchLeft, .ctrlIn, .collect, .ctrlIn]) = .ok s' ∧
      (ctrlPackets s (.setup setAddress5 :: [touchLeft, .ctrlIn, .collect, .ctrlIn]) = [] ∧
          s'.usbAddr = (s.atSetup setAddress5).usbAddr ∨
        ctrlPackets s (.setup setAddress5 :: [touchLeft, .ctrlIn, .collect, .ctrlIn]) = [[]] ∧
          s'.usbAddr = (s.atSetup setAddress5).defers.getD (s.atSetup setAddress5).usbAddr) := by
  obtain ⟨s, hrun, htakes⟩ : ∃ s, device.run Firmware.powerOn enumeration = .ok s ∧
      (s.atSetup setAddress5).takes := ⟨_, rfl, by decide +kernel⟩
  have hgoesOn : ∀ e ∈ [touchLeft, Event.ctrlIn, .collect, .ctrlIn], e.goesOn := by decide
  obtain ⟨s', hs', hsettled⟩ := handshake_settles ⟨enumeration, hrun⟩
    (not_strays_of_inScope (by decide)) rfl rfl htakes hgoesOn
  exact ⟨s, s', hrun, hs', hsettled⟩

end HidJoystick
