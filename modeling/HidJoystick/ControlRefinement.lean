import HidJoystick.ControlStages

/-!
# The control endpoint refines a control pipe

`control_step` is the step lemma, and `control_simulates` what it means for runs: whatever
the order of interrupts, the control endpoint does what a control pipe does that is given
`Firmware.answer` for every SETUP packet.
-/

namespace HidJoystick

/-! ## What leaves the control endpoint alone -/

/-- The reports leave the control endpoint alone. -/
theorem sameStage_withPipe (s : Firmware) {p : Pipe} (hconf : p.numConf = s.udcNumConfiguration) :
    SameStage s (s.withPipe p) := by
  have hep : (s.withPipe p).ctrl ctrlIn = s.ctrl ctrlIn := by
    simp [Firmware.withPipe, Firmware.ctrl]
  exact ⟨.withPipe s hconf, rfl, by rw [hep], by rw [hep], rfl⟩

/-! ## Events -/

section Steps

variable {s : Firmware}

/-- Nothing happens on the control endpoint. -/
theorem SameStage.tracks {s' : Firmware} (h : SameStage s s') (hs : s.ControlInv)
    (hstall : (s'.ctrl ctrlIn).stall = (s.ctrl ctrlIn).stall) : s'.Tracks s.controlPipe := by
  refine ⟨?_, h.controlInv hs⟩
  rw [h.controlPipe hs, hstall]
  rfl

theorem tracks_withPipe (h : s.ControlInv) {p : Pipe} (hconf : p.numConf = s.udcNumConfiguration) :
    (s.withPipe p).Tracks s.controlPipe := by
  refine (sameStage_withPipe s hconf).tracks h ?_
  simp [Firmware.withPipe, Firmware.ctrl]

/-- The driver halts the endpoint. -/
theorem tracks_enableStall (h : s.ControlInv) :
    ((s.modifyCtrl ctrlIn uddEndpointEnableStall).modifyCtrl ctrlOut uddEndpointEnableStall).Tracks
      { s.controlPipe with halted := true } := by
  have hsame : SameStage s ((s.modifyCtrl ctrlIn uddEndpointEnableStall).modifyCtrl ctrlOut
      uddEndpointEnableStall) :=
    (SameStage.modifyCtrl s ctrlIn (f := uddEndpointEnableStall) fun _ _ =>
      ⟨rfl, rfl, rfl, rfl⟩).trans (.modifyCtrl _ ctrlOut fun h => absurd h (by decide))
  refine ⟨?_, hsame.controlInv h⟩
  rw [hsame.controlPipe h, Firmware.ctrl_modifyCtrl_of_ne (by decide), Firmware.ctrl_modifyCtrl]
  rfl

/-- The controller ends the halt. -/
theorem tracks_hostUnstall (h : s.ControlInv) :
    (hostUnstall s).Tracks { s.controlPipe with halted := false } := by
  have hsame : SameStage s (hostUnstall s) :=
    (SameStage.modifyCtrl s ctrlOut fun h => absurd h (by decide)).trans
      (.modifyCtrl _ ctrlIn fun _ _ => ⟨rfl, rfl, rfl, rfl⟩)
  refine ⟨?_, hsame.controlInv h⟩
  rw [hsame.controlPipe h, hostUnstall, Firmware.ctrl_modifyCtrl]
  rfl

/-- The host polls the control endpoint. -/
theorem tracks_hostCtrlIn (h : s.ControlInv) : (hostCtrlIn s).Tracks s.controlPipe.poll := by
  rw [hostCtrlIn, ControlPipe.poll, offered_controlPipe h]
  by_cases harmed : (s.ctrl ctrlIn).armed = true
  · rw [if_pos harmed, if_pos harmed, Option.isSome_some, if_pos rfl]
    generalize ht : s.modifyCtrl ctrlIn
      (fun e => uddEndpointAckTransferComplete e.afterSend) = t
    have hep : t.ctrl ctrlIn = uddEndpointAckTransferComplete (s.ctrl ctrlIn).afterSend := by
      rw [← ht, Firmware.ctrl_modifyCtrl]
    have hsame : SameReply s t := by
      rw [← ht]
      exact SameReply.modifyCtrl s ctrlIn fun _ _ => ⟨rfl, rfl⟩
    have hstate : t.uddEpControlState = s.uddEpControlState := by rw [← ht]; rfl
    have haddr : t.usbAddr = s.usbAddr := by rw [← ht]; rfl
    have hqueue : s.controlQueue ≠ [] := by
      intro hnil
      have hoffered := offered_controlPipe h
      rw [if_pos harmed] at hoffered
      have hcons := ControlPipe.offered_eq_some hoffered
      rw [show s.controlPipe.queue = [] from hnil] at hcons
      cases hcons
    have hpipe : t.controlPipe = { s.controlPipe with queue := t.controlQueue } := by
      refine ControlPipe.ext (congrArg UddCtrlEpState.stage hstate) rfl ?_ ?_ ?_ haddr
      · change (t.ctrl ctrlIn).stall = _
        rw [hep]
        rfl
      · change uddEndpointIsEnable (t.ctrl ctrlIn) = _
        rw [hep]
        rfl
      · change (if t.uddEpControlState = .stallReq then none else t.deferred) = _
        rw [hstate, SameStage.deferred hsame]
        rfl
    rcases controlQueue_cases hqueue with hwait | hsending
    · -- the handshake has gone
      have hsent : s.controlPipe.sentPacket s.controlPipe.queue.tail = t.controlPipe.finish := by
        have hstage : s.controlPipe.stage = .statusIn := congrArg UddCtrlEpState.stage hwait
        rw [ControlPipe.sentPacket, hstage, hpipe]
        rfl
      rw [hwait] at hstate
      rw [hsent, uddCtrlInSent, if_pos hstate]
      refine tracks_finish t ?_
      rw [hstate]
      decide
    · have hsending' := h.sending hsending
      have hnext := tracks_inSent (hsame.sending hsending')
        (by rw [hstate]; exact hsending.imp id And.left) (by rw [hep]; rfl)
      have htail : s.controlPipe.queue.tail = s.replyPackets.tail :=
        congrArg List.tail hsending.controlQueue
      rw [hpipe, ControlPipe.sentPacket_queue, hsame.replyPackets hsending'] at hnext
      rw [htail]
      exact hnext
  · rw [if_neg harmed, if_neg harmed]
    exact ⟨rfl, h⟩

/-- The host sends data or a handshake. -/
theorem tracks_hostCtrlOut (h : s.ControlInv) (hdata : s.NoData) (data : OutPacket) :
    ∃ s', hostCtrlOut data s = .ok s' ∧ s'.Tracks s.controlPipe.send := by
  have hstage : s.controlPipe.stage = s.uddEpControlState.stage := rfl
  have hep : (hostData data s).ctrl ctrlIn = s.ctrl ctrlIn := by
    rw [hostData, Firmware.ctrl_modifyCtrl_of_ne (by decide)]
    rfl
  have hsame : SameStage s (hostData data s) :=
    ⟨.hostData s data, rfl, by rw [hep], by rw [hep], rfl⟩
  have hpipe := (hsame.tracks h (by rw [hep])).pipe
  rw [hostCtrlOut, ControlPipe.send, hstage]
  rcases hstate : s.uddEpControlState with _ | _ | _ | _ | _ | _
  · exact ⟨s, rfl, rfl, h⟩
  · -- the data stage takes nothing, and goes on to the handshake
    have hstate' : (hostData data s).uddEpControlState = .dataOut := hstate
    have hwait : (hostData data s).uddEpControlState ≠ .handshakeWaitOutZlp := by
      rw [hstate']
      decide
    have hnoData : (hostData data s).NoData := hdata
    have hsent := tracks_sendZlpIn (t := hostData data s)
      (u := (hostData data s).modifyCtrlreq fun r =>
        { r with payloadSize := (hostData data s).uddCtrlPayloadNbTrans })
      ⟨hpipe, hsame.controlInv h⟩ rfl
    refine ⟨_, ?_, hsent.pipe.trans ?_, hsent.inv⟩
    · rw [if_pos (Or.inl rfl), uddCtrlOutReceived_eq hwait, if_pos (hnoData.nbData_eq_zero hstate')]
    · refine ControlPipe.ext rfl rfl rfl rfl ?_ rfl
      change s.deferred = if s.uddEpControlState = .stallReq then none else s.deferred
      rw [hstate]
      rfl
  · exact ⟨s, rfl, rfl, h⟩
  · exact ⟨s, rfl, rfl, h⟩
  · have hstate' : (hostData data s).uddEpControlState = .handshakeWaitOutZlp := hstate
    refine ⟨uddCtrlInit (uddCtrlEndofrequest (hostData data s)), ?_, ?_⟩
    · rw [if_pos (Or.inr rfl), uddCtrlOutReceived, if_pos hstate']
      rfl
    · have hfinish := tracks_finish (hostData data s) (by rw [hstate']; decide)
      rw [hpipe] at hfinish
      exact hfinish
  · exact ⟨s, rfl, rfl, h⟩

/-- `udd_ctrl_underflow` -/
theorem tracks_underflow (h : s.ControlInv) : (uddCtrlUnderflow s).Tracks s.controlPipe.underflow := by
  have hstage : s.controlPipe.stage = s.uddEpControlState.stage := rfl
  rw [uddCtrlUnderflow, ControlPipe.underflow, hstage]
  rcases hstate : s.uddEpControlState with _ | _ | _ | _ | _ | _
  · exact ⟨rfl, h⟩
  · have hsent := tracks_sendZlpIn (t := s) (u := s) ⟨rfl, h⟩ rfl
    refine ⟨hsent.pipe.trans ?_, hsent.inv⟩
    refine ControlPipe.ext rfl rfl rfl rfl ?_ rfl
    change s.deferred = if s.uddEpControlState = .stallReq then none else s.deferred
    rw [hstate]
    rfl
  · exact ⟨rfl, h⟩
  · exact ⟨rfl, h⟩
  · have hhalt := tracks_enableStall h
    refine ⟨hhalt.pipe.trans ?_, hhalt.inv⟩
    exact ControlPipe.ext (hstage.trans (congrArg UddCtrlEpState.stage hstate)) rfl rfl rfl rfl rfl
  · exact ⟨rfl, h⟩

/-- `udd_ctrl_overflow` -/
theorem tracks_overflow (h : s.ControlInv) : (uddCtrlOverflow s).Tracks s.controlPipe.overflow := by
  have hstage : s.controlPipe.stage = s.uddEpControlState.stage := rfl
  rw [uddCtrlOverflow, ControlPipe.overflow, hstage]
  rcases hstate : s.uddEpControlState with _ | _ | _ | _ | _ | _
  · exact ⟨rfl, h⟩
  · exact ⟨rfl, h⟩
  · -- the packet on the bank stays there
    have hsending : s.IsSending := Or.inl hstate
    have hnak : (s.ctrl ctrlIn).busnack0 = false := by
      refine h.released ?_
      rw [hsending.controlQueue]
      exact s.replyPackets_ne_nil
    have hout := tracks_sendZlpOut (Or.inl hstate) fun _ => h.sending hsending
    refine ⟨hout.pipe.trans ?_, hout.inv⟩
    refine ControlPipe.ext rfl ?_ rfl rfl rfl rfl
    change (if (s.ctrl ctrlIn).busnack0 then [] else s.replyPackets) = s.controlQueue
    rw [hnak, hsending.controlQueue]
    rfl
  · have hhalt := tracks_enableStall h
    refine ⟨hhalt.pipe.trans ?_, hhalt.inv⟩
    exact ControlPipe.ext (hstage.trans (congrArg UddCtrlEpState.stage hstate)) rfl rfl rfl rfl rfl
  · exact ⟨rfl, h⟩
  · exact ⟨rfl, h⟩

/-- A request that announces data leaves nothing to be done. -/
theorem Firmware.defers_of_data (htake : s.takes) (hlen : s.uddGCtrlreq.req.wLength ≠ 0) :
    s.defers = none := by
  have hclass : usbReqTypeClass ≠ usbReqTypeStandard := by decide
  refine if_neg ?_
  rintro ⟨htype, _, _⟩
  rcases htake with ⟨_, h | h | h⟩ | ⟨h, _⟩
  · exact hlen h.2.1
  · exact hlen h.2.1
  · exact hlen h.2.1
  · exact hclass (h.symm.trans htype)

/-- A SETUP packet -/
theorem tracks_setup (h : s.Inv) (hc : s.ControlInv) (packet : Vector Byte 8)
    (hstays : ¬ (s.atSetup packet).strays) {s' : Firmware}
    (hstep : device.step s (.setup packet) = .ok s') :
    s'.Tracks (s.controlPipe.next 8 (.setup (s.atSetup packet).answer)) := by
  have haside := aside_atSetup s packet
  have ht := tracks_atSetup hc packet
  have hstate := atSetup_state packet s
  obtain ⟨accepted, u, hu, hdoes, _⟩ := udcProcessSetup_responds (s := s.atSetup packet)
    (by rw [haside.pipe]; exact h.pipe) (by rw [haside.jobOut]; exact h.jobOut) hstays
  have hpipe : (s.atSetup packet).pipe.Consistent := by rw [haside.pipe]; exact h.pipe
  have hjob : ((s.atSetup packet).job epOutJob).busy = false := by
    rw [haside.jobOut]
    exact h.jobOut
  rw [setup_step, hu] at hstep
  cases hstep
  have hcontrol : u.control = (s.atSetup packet).control := (control_processSetup _).value hu
  have hnext : s.controlPipe.next 8 (.setup (s.atSetup packet).answer) =
      s.controlPipe.interrupt.answer 8 (s.atSetup packet).answer := rfl
  rw [hnext]
  generalize s.atSetup packet = t at *
  have hreq : u.uddGCtrlreq.req = t.uddGCtrlreq.req := hdoes.req
  rcases hin : uddSetupIsIn t.uddGCtrlreq.req with _ | _
  · obtain ⟨accepted', u', hu', htakes, hdefers⟩ := udcProcessSetup_out hpipe hjob hin hstays
    rw [hu] at hu'
    obtain ⟨rfl, rfl⟩ := Prod.mk.inj (Except.ok.inj hu')
    rw [Firmware.answer, hin, if_neg Bool.false_ne_true]
    rcases accepted with _ | _
    · rw [if_neg fun htake => Bool.false_ne_true (htakes.mpr htake)]
      exact tracks_stallData ht hstate hcontrol
    · have htake := htakes.mp rfl
      have hdeferred := hdefers rfl
      rw [if_pos htake]
      by_cases hlen : t.uddGCtrlreq.req.wLength = 0
      · rw [if_pos hlen, ← hdeferred]
        have hzlp : uddCtrlAccept u = uddCtrlSendZlpIn u := by
          rw [uddCtrlAccept, hreq, hin, if_neg Bool.false_ne_true, if_pos hlen]
        change (uddCtrlAccept u).Tracks _
        rw [hzlp]
        exact tracks_sendZlpIn ht hcontrol
      · rw [if_neg hlen]
        refine tracks_receive ht hcontrol hstate (by rw [hreq]; exact hin) (by rw [hreq]; exact hlen) ?_
        rw [hdeferred]
        exact Firmware.defers_of_data htake hlen
  · have hserves := udcProcessSetup_in hin hstays
    have hasked : (udcClearCtrlreq t).requested = t.requested := rfl
    rw [hasked] at hserves
    rw [Firmware.answer, hin, if_pos rfl]
    rcases hobject : t.requested with _ | object
    · rw [hobject] at hserves
      obtain ⟨ptr, hrun⟩ := hserves
      rw [hu] at hrun
      obtain ⟨rfl, -⟩ := Prod.mk.inj (Except.ok.inj hrun)
      exact tracks_stallData ht hstate hcontrol
    · rw [hobject] at hserves
      obtain ⟨v, hrun, hhands⟩ := hserves
      rw [hu] at hrun
      obtain ⟨rfl, rfl⟩ := Prod.mk.inj (Except.ok.inj hrun)
      have hlen : u.uddGCtrlreq.req.wLength ≠ 0 := by
        intro hzero
        rw [hreq] at hzero
        rw [Firmware.requested, if_pos hzero] at hobject
        cases hobject
      have hreply := tracks_reply ht hcontrol hstate hhands (by rw [hreq]; exact hin) hlen
      rw [hreq] at hreply
      exact hreply

/-- A bus reset sets the control endpoint up anew. -/
theorem tracks_busReset (s : Firmware) (c : ControlPipe Byte Byte) :
    Spares (usbBuseventReset s) fun s' => s'.Tracks (c.reset 0) := by
  have hget : uddEpGetCtrl 0 = .ok 0 := rfl
  have hget' : uddEpGetCtrl (0 ||| usbEpDirIn) = .ok 1 := rfl
  refine (control_abort s 1).bind fun t _ => ?_
  refine (control_abort t (1 ||| usbEpDirIn)).bind fun u _ => ?_
  refine (control_reset u).bind fun v _ => ?_
  simp only [uddEpInit, hget, hget', ok_bind, pure_eq_ok]
  generalize hw : Firmware.modifyCtrl ctrlOut (fun e => { e with dataptr := ⟨.uddCtrlBuffer, 0⟩ }) _ = w
  have hep : (w.ctrl ctrlIn).stall = false ∧ uddEndpointIsEnable (w.ctrl ctrlIn) = true := by
    rw [← hw, Firmware.ctrl_modifyCtrl_of_ne (by decide), Firmware.ctrl_modifyCtrl]
    exact ⟨rfl, rfl⟩
  have haddr : w.usbAddr = 0 := by rw [← hw]; rfl
  have hinit := tracks_ctrlInit w
  rw [hep.1, hep.2, haddr] at hinit
  exact hinit

/-- **The step lemma**: whatever happens, the control endpoint does what the control pipe
does. -/
theorem control_step (h : s.Inv) (hc : s.ControlInv) {e : Event} (hstays : ¬ Strays s e)
    {s' : Firmware} (hstep : device.step s e = .ok s') :
    s'.Tracks (s.controlPipe.next 8 (s.controlEvent e)) := by
  have hsame {t : Firmware} {c : ControlPipe Byte Byte} (ht : device.step s e = .ok t)
      (htracks : t.Tracks c) : s'.Tracks c := by
    obtain rfl : s' = t := Except.ok.inj (hstep.symm.trans ht)
    exact htracks
  cases e with
  | sof tick =>
    have hsof : device.step s (.sof tick) = mainSofAction tick s := rfl
    rw [mainSofAction_eq] at hsof
    split at hsof
    · -- the LEDs are not part of it
      have hleds : SameStage s { s with
          jstkMask := jstkReadMask tick.readMask
          jstkTestMode := tick.testMode
          portAOut := displayAfter tick s.portAOut } := by
        refine ⟨⟨rfl, rfl, rfl, rfl, rfl, rfl, fun p _ _ => ?_⟩, rfl, rfl, rfl, rfl⟩
        rw [Firmware.bytesAt, Firmware.bytesAt]
        cases p.base <;> rfl
      have hshown := hleds.tracks hc rfl
      have htick := tracks_withPipe hshown.inv (Pipe.sameSetup_tick tick s.pipe).numConf
      rw [hshown.pipe] at htick
      exact hsame hsof htick
    · exact hsame hsof ⟨rfl, hc⟩
  | reset => exact (tracks_busReset s s.controlPipe).value hstep
  | collect =>
    exact hsame (congrArg _ (hostCollect_eq s)) (tracks_withPipe hc (Pipe.sameSetup_collect _).numConf)
  | transferComplete =>
    exact hsame (usbTrncomplVect_eq s) (tracks_withPipe hc (Pipe.sameSetup_transferComplete _).numConf)
  | setup packet => exact tracks_setup h hc packet hstays hstep
  | ctrlIn => exact hsame rfl (tracks_hostCtrlIn hc)
  | ctrlOut data =>
    obtain ⟨t, ht, htracks⟩ := tracks_hostCtrlOut hc h.noData data
    exact hsame ht htracks
  | underflow => exact hsame rfl (tracks_underflow hc)
  | overflow => exact hsame rfl (tracks_overflow hc)
  | unstall => exact hsame rfl (tracks_hostUnstall hc)

end Steps

/-! ## Runs -/

/-- The state of the firmware that shows as a control pipe -/
def ShowsControl (s : Firmware) (c : ControlPipe Byte Byte) : Prop := s.Inv ∧ s.Tracks c

theorem powerOn_controlInv : Firmware.powerOn.ControlInv :=
  .of_quiet rfl (fun h => absurd h (by decide)) fun _ => rfl

/-- **The control endpoint refines a control pipe.** -/
theorem control_simulates :
    device.Simulates (ControlPipe.machine 8) (fun s e => ¬ Strays s e) ShowsControl
      Firmware.controlEvent := by
  rintro s _ e ⟨hinv, rfl, hc⟩ hstays
  obtain ⟨s', hs', _, hinv'⟩ := device_step hinv hstays
  exact ⟨s', _, hs', rfl, hinv', control_step hinv hc hstays hs'⟩

/-- In every reachable state -/
theorem Reachable.controlInv {s : Firmware} (h : Reachable s) : s.ControlInv := by
  obtain ⟨es, hrun⟩ := h
  have hpreserves : device.Preserves fun s => s.Inv ∧ s.ControlInv := by
    rintro s e s' ⟨hinv, hc⟩ hstep
    exact ⟨device_preserves s e s' hinv hstep,
      (control_step hinv hc (not_strays_of_step hstep) hstep).inv⟩
  exact (hpreserves.run ⟨inv_powerOn, powerOn_controlInv⟩ hrun).2

/-- The packet the host gets from the control endpoint in a step -/
def ctrlReceived (t : Machine.Transition Firmware Event) : Option (List Byte) :=
  match t.event with
  | .ctrlIn => if (t.pre.ctrl ctrlIn).armed then some t.pre.ctrlPacketIn else none
  | _ => none

/-- It is the packet the control pipe hands out. -/
theorem ctrlReceived_eq {t : Machine.Transition Firmware Event}
    {u : Machine.Transition (ControlPipe Byte Byte) (ControlPipe.Event Byte Byte)}
    (h : Machine.Shows ShowsControl Firmware.controlEvent t u) :
    ctrlReceived t = ControlPipe.received u := by
  obtain ⟨⟨_, hpre⟩, hevent, _⟩ := h
  rw [ctrlReceived, ControlPipe.received, hevent]
  cases t.event with
  | ctrlIn =>
    rw [← hpre.pipe]
    exact (offered_controlPipe hpre.inv).symm
  | _ => rfl

end HidJoystick
