import HidJoystick.ProcessSetup

/-!
# The device refines its report pipe

Every step of the device that stays inside the endpoint tables shows on the report
pipe as one operation (`Firmware.pipeOp`), whatever the control endpoint is doing
at the time. `device_step` is the step lemma, with the invariant it needs and
keeps; `Reachable.inv` and `reachable_of_inScope` are what it means for runs. A step
that leaves the tables faults (`device_strays`).
-/

namespace HidJoystick

/-! ## The pipe's view of an event -/

/-- What a step of the device does to the pipe. -/
inductive PipeOp : Type where
  | keep : PipeOp
  | tick : Tick → PipeOp
  | collect : PipeOp
  | transferComplete : PipeOp
  | busReset : PipeOp
  | request : PipeRequest → PipeOp

/-- The effect of an operation on the pipe. -/
def Pipe.step (p : Pipe) : PipeOp → Pipe
  | .keep => p
  | .tick t => p.tick t
  | .collect => p.collect
  | .transferComplete => p.transferComplete
  | .busReset => p.busReset
  | .request r => p.request r

/-- The state in which `udcProcessSetup` is called for a SETUP packet. -/
def Firmware.atSetup (packet : Vector Byte 8) (s : Firmware) : Firmware :=
  uddCtrlFillRequest (uddCtrlRestart (hostSetup packet s))

/-- The operation of the pipe an event shows as. -/
def Firmware.pipeOp (s : Firmware) : Event → PipeOp
  | .sof t => .tick t
  | .reset => .busReset
  | .collect => .collect
  | .transferComplete => .transferComplete
  | .setup packet => .request (s.atSetup packet).pipeRequest
  | .ctrlIn | .ctrlOut _ | .underflow | .overflow | .unstall => .keep

theorem Firmware.pipeOp_setup (packet : Vector Byte 8) (s : Firmware) :
    s.pipeOp (.setup packet) = .request (s.atSetup packet).pipeRequest := rfl

/-- The event makes the firmware leave its endpoint tables. -/
def Strays (s : Firmware) : Event → Prop
  | .setup packet => (s.atSetup packet).strays
  | _ => False

instance (s : Firmware) : DecidablePred (Strays s)
  | .setup _ => inferInstanceAs (Decidable (StrayRequest _ _))
  | .sof _ | .reset | .collect | .transferComplete | .ctrlIn | .ctrlOut _ | .underflow | .overflow
  | .unstall => inferInstanceAs (Decidable False)

/-! ## The control endpoint leaves the pipe alone -/

/-- The report pipe, the other job and the LEDs are untouched. -/
structure Aside (s s' : Firmware) : Prop where
  pipe : s'.pipe = s.pipe
  jobOut : s'.job epOutJob = s.job epOutJob
  leds : s'.leds = s.leds

theorem Aside.refl (s : Firmware) : Aside s s := ⟨rfl, rfl, rfl⟩

theorem Aside.trans {s t u : Firmware} (h : Aside s t) (h' : Aside t u) : Aside s u :=
  ⟨h'.pipe.trans h.pipe, h'.jobOut.trans h.jobOut, h'.leds.trans h.leds⟩

theorem Does.aside {s s' : Firmware} (h : Keeps s s') : Aside s s' := ⟨h.pipe, h.jobOut, h.leds⟩

section Control

variable (s : Firmware)

theorem Aside.modifyCtrl {s t : Firmware} (h : Aside s t) {c : Fin 4} (hc : c ≠ epInCtrl)
    (f : UsbEp → UsbEp) : Aside s (t.modifyCtrl c f) :=
  h.trans (Does.aside (keeps_modifyCtrl hc f t))

theorem Aside.modifyOut {s t : Firmware} (h : Aside s t) (f : UsbEp → UsbEp) :
    Aside s (t.modifyCtrl ctrlOut f) := h.modifyCtrl (by decide) f

theorem Aside.modifyIn {s t : Firmware} (h : Aside s t) (f : UsbEp → UsbEp) :
    Aside s (t.modifyCtrl ctrlIn f) := h.modifyCtrl (by decide) f

theorem aside_ctrlInit : Aside s (uddCtrlInit s) := by
  rw [uddCtrlInit]
  have h := (Aside.refl s).modifyIn fun e =>
    uddEndpointAckTransferComplete { uddEndpointSetNACK0 e with cnt := 0 }
  exact ⟨h.pipe, h.jobOut, h.leds⟩

/-- The end of a request sets the address, if anything. -/
theorem endofrequest_eq : ∃ address, uddCtrlEndofrequest s = { s with usbAddr := address } := by
  rw [uddCtrlEndofrequest]
  rcases s.uddGCtrlreq.callback with _ | _ | _
  · exact ⟨s.usbAddr, rfl⟩
  · exact ⟨_, rfl⟩
  · exact ⟨s.usbAddr, rfl⟩

/-- A SETUP packet finds the control endpoint waiting for one, or starts it again. -/
theorem restart_cases :
    uddCtrlRestart s = s ∨ ∃ address, uddCtrlRestart s = uddCtrlInit { s with usbAddr := address } := by
  obtain ⟨address, hend⟩ := endofrequest_eq s
  simp only [uddCtrlRestart]
  split
  · split
    · exact Or.inr ⟨address, congrArg uddCtrlInit hend⟩
    · exact Or.inr ⟨s.usbAddr, rfl⟩
  · exact Or.inl rfl

theorem aside_endofrequest : Aside s (uddCtrlEndofrequest s) := by
  obtain ⟨address, hend⟩ := endofrequest_eq s
  rw [hend]
  exact ⟨rfl, rfl, rfl⟩

theorem aside_stallData : Aside s (uddCtrlStallData s) := by
  rw [uddCtrlStallData]
  apply Aside.modifyOut
  apply Aside.modifyIn
  exact ⟨rfl, rfl, rfl⟩

theorem aside_sendZlpIn : Aside s (uddCtrlSendZlpIn s) := by
  rw [uddCtrlSendZlpIn]
  apply Aside.modifyIn
  exact ⟨rfl, rfl, rfl⟩

theorem aside_sendZlpOut : Aside s (uddCtrlSendZlpOut s) := by
  rw [uddCtrlSendZlpOut]
  apply Aside.modifyOut
  exact ⟨rfl, rfl, rfl⟩

theorem aside_inNext (nbRemain : Word) : Aside s (uddCtrlInNext nbRemain s) := by
  have h := (Aside.refl { s with
    uddCtrlInSentBShortpacket := !(nbRemain ≥ usbDeviceEpCtrlSize) }).modifyIn fun e =>
      uddEndpointClearNACK0
        { e with
          cnt := if nbRemain ≥ usbDeviceEpCtrlSize then usbDeviceEpCtrlSize else nbRemain
          dataptr := s.uddGCtrlreq.payload.add s.uddCtrlPayloadNbTrans.toNat }
  exact ⟨h.pipe, rfl, rfl⟩

theorem aside_inSent : Aside s (uddCtrlInSent s) := by
  simp only [uddCtrlInSent]
  split
  · exact (aside_endofrequest s).trans (aside_ctrlInit _)
  · split
    · split
      · refine Aside.trans ?_ (aside_sendZlpOut _)
        exact ⟨rfl, rfl, rfl⟩
      · refine Aside.trans ?_ (aside_inNext _ _)
        exact ⟨rfl, rfl, rfl⟩
    · exact aside_inNext s _

theorem aside_underflow : Aside s (uddCtrlUnderflow s) := by
  rw [uddCtrlUnderflow]
  split
  · exact aside_sendZlpIn s
  · split
    · exact ((Aside.refl s).modifyIn _).modifyOut _
    · exact Aside.refl s

theorem aside_overflow : Aside s (uddCtrlOverflow s) := by
  rw [uddCtrlOverflow]
  split
  · exact aside_sendZlpOut s
  · split
    · exact ((Aside.refl s).modifyIn _).modifyOut _
    · exact Aside.refl s

theorem aside_hostCtrlIn : Aside s (hostCtrlIn s) := by
  rw [hostCtrlIn]
  split
  · exact ((Aside.refl s).modifyIn _).trans (aside_inSent _)
  · exact Aside.refl s

theorem aside_hostUnstall : Aside s (hostUnstall s) :=
  ((Aside.refl s).modifyOut _).modifyIn _

theorem aside_hostSetup (packet : Vector Byte 8) : Aside s (hostSetup packet s) := by
  rw [hostSetup]
  apply Aside.modifyOut
  exact ⟨rfl, rfl, rfl⟩

theorem aside_hostData (data : OutPacket) : Aside s (hostData data s) := by
  rw [hostData]
  apply Aside.modifyOut
  exact ⟨rfl, rfl, rfl⟩

theorem aside_restart : Aside s (uddCtrlRestart s) := by
  rcases restart_cases s with hrestart | ⟨address, hrestart⟩
  · rw [hrestart]
    exact Aside.refl s
  · rw [hrestart]
    have haddress : Aside s { s with usbAddr := address } := ⟨rfl, rfl, rfl⟩
    exact haddress.trans (aside_ctrlInit _)

theorem aside_accept : Aside s (uddCtrlAccept s) := by
  rw [uddCtrlAccept]
  split
  · refine Aside.trans ?_ (aside_inSent _)
    exact ⟨rfl, rfl, rfl⟩
  · split
    · exact aside_sendZlpIn s
    · apply Aside.modifyOut
      exact ⟨rfl, rfl, rfl⟩

theorem aside_atSetup (packet : Vector Byte 8) : Aside s (s.atSetup packet) := by
  have h := (aside_hostSetup s packet).trans (aside_restart (hostSetup packet s))
  exact ⟨h.pipe, h.jobOut, h.leds⟩

end Control

/-! ## The data stage of OUT requests -/

/-- An OUT request that waits for data has room for none, and has taken none. -/
def Firmware.NoData (s : Firmware) : Prop :=
  s.uddEpControlState = .dataOut →
    s.uddGCtrlreq.payloadSize = 0 ∧ s.uddCtrlPayloadNbTrans = 0

theorem Firmware.NoData.of_ne {s : Firmware} (h : s.uddEpControlState ≠ .dataOut) : s.NoData :=
  fun h' => absurd h' h

section Data

variable (s : Firmware)

theorem noData_ctrlInit : (uddCtrlInit s).NoData := .of_ne (by simp [uddCtrlInit])

theorem noData_sendZlpIn : (uddCtrlSendZlpIn s).NoData :=
  .of_ne (by simp [uddCtrlSendZlpIn, Firmware.modifyCtrl])

theorem noData_sendZlpOut : (uddCtrlSendZlpOut s).NoData :=
  .of_ne (by simp [uddCtrlSendZlpOut, Firmware.modifyCtrl])

theorem noData_stallData : (uddCtrlStallData s).NoData :=
  .of_ne (by simp [uddCtrlStallData, Firmware.modifyCtrl])

variable {s}

/-- Going on with an IN transfer, whatever the state. -/
theorem noData_inSent (h : s.NoData) : (uddCtrlInSent s).NoData := by
  have hnext {t : Firmware} {nbRemain : Word} (ht : t.NoData)
      (hzero : t.uddEpControlState = .dataOut → nbRemain = 0) :
      (uddCtrlInNext nbRemain t).NoData := by
    intro hstate
    have hstate' : t.uddEpControlState = .dataOut := hstate
    obtain ⟨hsize, hnb⟩ := ht hstate'
    refine ⟨hsize, ?_⟩
    simp [uddCtrlInNext, Firmware.modifyCtrl, hnb, hzero hstate']
  simp only [uddCtrlInSent]
  split
  · exact noData_ctrlInit _
  · split
    · next hremain =>
      split
      · exact noData_sendZlpOut _
      · exact hnext h fun _ => hremain
    · next hremain =>
      -- no payload and no bytes taken leave no bytes to send
      refine hnext h fun hstate => ?_
      obtain ⟨hsize, hnb⟩ := h hstate
      rw [hsize, hnb]
      rfl

theorem noData_underflow (h : s.NoData) : (uddCtrlUnderflow s).NoData := by
  rw [uddCtrlUnderflow]
  split
  · exact noData_sendZlpIn s
  · split
    · exact h
    · exact h

theorem noData_overflow (h : s.NoData) : (uddCtrlOverflow s).NoData := by
  rw [uddCtrlOverflow]
  split
  · exact noData_sendZlpOut s
  · split
    · exact h
    · exact h

theorem noData_hostCtrlIn (h : s.NoData) : (hostCtrlIn s).NoData := by
  rw [hostCtrlIn]
  split
  · exact noData_inSent h
  · exact h

/-- The data stage is the copy, and its end if the copy is empty. -/
theorem uddCtrlOutReceived_eq (hwait : s.uddEpControlState ≠ .handshakeWaitOutZlp) :
    uddCtrlOutReceived s =
      if uddCtrlNbData s = 0 then
        .ok (uddCtrlSendZlpIn
          (s.modifyCtrlreq fun r => { r with payloadSize := s.uddCtrlPayloadNbTrans }))
      else .error (.hostWrite (uddCtrlNbData s).toNat) := by
  simp only [uddCtrlOutReceived, if_neg hwait, uddCtrlCopy]
  by_cases hempty : uddCtrlNbData s = 0
  · -- an empty copy is a short packet
    have hshort : usbDeviceEpCtrlSize ≠ 0 := by decide
    have hsame : s.uddCtrlPayloadNbTrans + 0 = s.uddCtrlPayloadNbTrans := BitVec.add_zero _
    simp only [hempty, if_true, ok_bind, pure_eq_ok, hsame, if_pos (Or.inl hshort)]
  · rw [if_neg hempty, if_neg hempty]
    rfl

/-- The data stage takes nothing when there is no room. -/
theorem Firmware.NoData.nbData_eq_zero (h : s.NoData) (hdata : s.uddEpControlState = .dataOut) :
    uddCtrlNbData s = 0 := by
  obtain ⟨hsize, hnb⟩ := h hdata
  simp only [uddCtrlNbData, hsize, hnb]
  split
  · rfl
  · bv_omega

/-- **No data is copied**: whatever the host sends, the data stage takes nothing, and
goes on to the handshake. -/
theorem hostCtrlOut_cases (h : s.NoData) (data : OutPacket) :
    ∃ s', hostCtrlOut data s = .ok s' ∧
      (s' = s ∨ s' = uddCtrlInit (uddCtrlEndofrequest (hostData data s)) ∨
        s' = uddCtrlSendZlpIn ((hostData data s).modifyCtrlreq fun r =>
          { r with payloadSize := (hostData data s).uddCtrlPayloadNbTrans })) := by
  rw [hostCtrlOut]
  split
  · next hstate =>
    by_cases hwait : s.uddEpControlState = .handshakeWaitOutZlp
    · refine ⟨_, ?_, Or.inr (Or.inl rfl)⟩
      rw [uddCtrlOutReceived, if_pos (show (hostData data s).uddEpControlState = _ from hwait)]
      rfl
    · -- in the data stage there is no room, and the copy has length 0
      have hstate' := hstate.resolve_right hwait
      have hnoData : (hostData data s).NoData := h
      rw [uddCtrlOutReceived_eq (s := hostData data s) hwait, if_pos (hnoData.nbData_eq_zero hstate')]
      exact ⟨_, rfl, Or.inr (Or.inr rfl)⟩
  · exact ⟨s, rfl, Or.inl rfl⟩

/-- A data or handshake packet leaves the pipe alone. -/
theorem hostCtrlOut_ok (h : s.NoData) (data : OutPacket) :
    ∃ s', hostCtrlOut data s = .ok s' ∧ Aside s s' ∧ s'.NoData := by
  have hdata : Aside s (hostData data s) := aside_hostData s data
  obtain ⟨s', hs, rfl | rfl | rfl⟩ := hostCtrlOut_cases h data
  · exact ⟨_, hs, Aside.refl s', h⟩
  · exact ⟨_, hs, (hdata.trans (aside_endofrequest _)).trans (aside_ctrlInit _), noData_ctrlInit _⟩
  · refine ⟨_, hs, hdata.trans (Aside.trans ?_ (aside_sendZlpIn _)), noData_sendZlpIn _⟩
    exact ⟨rfl, rfl, rfl⟩

end Data

/-! ## SETUP packets and resets -/

/-- Giving up a transfer leaves the OUT half of the control endpoint alone. -/
theorem restart_cnt (s : Firmware) : (uddCtrlRestart s).ctrl ctrlOut = s.ctrl ctrlOut := by
  rcases restart_cases s with hrestart | ⟨address, hrestart⟩
  · rw [hrestart]
  · have hne : ctrlIn ≠ ctrlOut := by decide
    rw [hrestart]
    exact Firmware.ctrl_modifyCtrl_of_ne hne
      (fun e => uddEndpointAckTransferComplete { uddEndpointSetNACK0 e with cnt := 0 }) _

/-- A SETUP packet is complete when `udcProcessSetup` is called, and its answer decides
what follows. -/
theorem setup_step (packet : Vector Byte 8) (s : Firmware) :
    device.step s (.setup packet) = udcProcessSetup (s.atSetup packet) >>= fun r =>
      pure (if r.1 then uddCtrlAccept r.2 else uddCtrlStallData r.2) := by
  have hcnt : ((uddCtrlRestart (hostSetup packet s)).ctrl ctrlOut).cnt = 8 := by
    rw [restart_cnt, hostSetup, Firmware.ctrl_modifyCtrl]
  change uddCtrlSetupReceived (hostSetup packet s) = _
  simp only [uddCtrlSetupReceived, hcnt, ne_eq, not_true_eq_false, if_false, Firmware.atSetup]
  rcases udcProcessSetup (uddCtrlFillRequest (uddCtrlRestart (hostSetup packet s))) with
    f | ⟨_ | _, t⟩ <;> rfl

theorem noData_accept {s : Firmware}
    (h : uddSetupIsIn s.uddGCtrlreq.req = false → s.uddGCtrlreq.payloadSize = 0) :
    (uddCtrlAccept s).NoData := by
  rw [uddCtrlAccept]
  split
  · exact noData_inSent (.of_ne (by simp))
  · next hout =>
    split
    · exact noData_sendZlpIn s
    · exact fun _ => ⟨h (Bool.eq_false_of_not_eq_true hout), rfl⟩

/-- A SETUP packet, in the driver -/
theorem setupReceived_ok {s : Firmware} (hpipe : s.pipe.Consistent)
    (hjob : (s.job epOutJob).busy = false) (packet : Vector Byte 8)
    (hstays : ¬ (s.atSetup packet).strays) :
    ∃ s', device.step s (.setup packet) = .ok s' ∧
      s'.pipe = s.pipe.request (s.atSetup packet).pipeRequest ∧
      (s'.job epOutJob).busy = false ∧ s'.NoData ∧ s'.leds = s.leds := by
  have haside := aside_atSetup s packet
  obtain ⟨accepted, u, hu, hdoes, _⟩ := udcProcessSetup_responds (s := s.atSetup packet)
    (by rw [haside.pipe]; exact hpipe) (by rw [haside.jobOut]; exact hjob) hstays
  have hupipe : u.pipe = s.pipe.request (s.atSetup packet).pipeRequest := by
    rw [hdoes.pipe]
    exact congrArg _ haside.pipe
  have hujob : (u.job epOutJob).busy = false := by
    rw [hdoes.jobOut]
    exact (congrArg UddEpJob.busy haside.jobOut).trans hjob
  have hleds : u.leds = s.leds := hdoes.leds.trans haside.leds
  have hrun : device.step s (.setup packet) =
      .ok (if accepted then uddCtrlAccept u else uddCtrlStallData u) := by
    rw [setup_step, hu]
    rfl
  rcases accepted with _ | _
  · -- what was refused is answered with STALL
    have h := aside_stallData u
    exact ⟨_, hrun, by rw [← hupipe]; exact h.pipe, (congrArg UddEpJob.busy h.jobOut).trans hujob,
      noData_stallData u, h.leds.trans hleds⟩
  · have h := aside_accept u
    refine ⟨_, hrun, by rw [← hupipe]; exact h.pipe, (congrArg UddEpJob.busy h.jobOut).trans hujob,
      noData_accept fun hout => hdoes.payload ?_ rfl, h.leds.trans hleds⟩
    rw [← hdoes.req]
    exact hout

/-- After a reset the control endpoint is set up anew. -/
theorem buseventReset_eq {s t u : Firmware} (hout : uddEpAbort 1 s = .ok t)
    (hreset : udcReset (t.withPipe t.pipe.abort) = .ok u) :
    ∃ f g h, usbBuseventReset s = .ok (uddCtrlInit
      ((((uddSetAddress 0 u).modifyCtrl ctrlOut f).modifyCtrl ctrlIn g).modifyCtrl ctrlOut h)) := by
  have hget : uddEpGetCtrl 0 = .ok 0 := rfl
  have hget' : uddEpGetCtrl (0 ||| usbEpDirIn) = .ok 1 := rfl
  have hin : IsEpIn (1 ||| usbEpDirIn) := by decide
  simp only [usbBuseventReset, hout, uddEpAbort_epIn hin, hreset, uddEpInit, hget, hget', ok_bind,
    pure_eq_ok]
  exact ⟨_, _, _, rfl⟩

/-- A bus reset, in the driver -/
theorem buseventReset_ok {s : Firmware} (hjob : (s.job epOutJob).busy = false) :
    ∃ s', usbBuseventReset s = .ok s' ∧ s'.pipe = s.pipe.busReset ∧
      (s'.job epOutJob).busy = false ∧ s'.NoData ∧ s'.leds = s.leds := by
  have hout : Aside s (s.modifyCtrl epOutCtrl uddEndpointSetNACK0) :=
    (Aside.refl s).modifyCtrl (by decide) _
  have habort := uddEpAbort_epOut (by decide : IsEpOut 1) hjob
  generalize s.modifyCtrl epOutCtrl uddEndpointSetNACK0 = t at hout habort
  have hpipe : Does Pipe.abort t (t.withPipe t.pipe.abort) := (Keeps.refl t).withPipe Pipe.abort
  obtain ⟨u, hu, hreset⟩ := udcReset_deconfigures (t.withPipe t.pipe.abort)
  have hboth := hpipe.comp hreset
  obtain ⟨f, g, h, hrun⟩ := buseventReset_eq habort hu
  have haddress : Aside u (uddSetAddress 0 u) := ⟨rfl, rfl, rfl⟩
  have hend := (((haddress.modifyOut f).modifyIn g).modifyOut h).trans (aside_ctrlInit _)
  refine ⟨_, hrun, ?_, ?_, noData_ctrlInit _, (hend.leds.trans hboth.leds).trans hout.leds⟩
  · rw [hend.pipe, hboth.pipe, hout.pipe]
    rfl
  · rw [hend.jobOut, hboth.jobOut, hout.jobOut]
    exact hjob

/-! ## The step lemma -/

/-- The invariant of the firmware between handlers. -/
structure Firmware.Inv (s : Firmware) : Prop where
  pipe : s.pipe.Consistent
  /-- endpoint 1 OUT never has a job -/
  jobOut : (s.job epOutJob).busy = false
  noData : s.NoData

/-- Every request keeps the pipe consistent. -/
theorem Pipe.Consistent.request {p : Pipe} (h : p.Consistent) (r : PipeRequest)
    (hconf : ∀ settingNum, r = .setInterface settingNum → p.numConf ≠ 0) :
    (p.request r).Consistent := by
  cases r with
  | keep => exact h
  | configure numConf => exact h.configure numConf
  | setInterface settingNum => exact h.setInterface (hconf settingNum rfl) settingNum
  | halt => exact h.halt
  | clearHalt => exact h.clearHalt

/-- **The step lemma.** From the invariant, a step that does not leave the endpoint
tables succeeds, does to the report pipe what `pipeOp` says, and keeps the
invariant. -/
theorem device_step {s : Firmware} (h : s.Inv) {e : Event} (hstays : ¬ Strays s e) :
    ∃ s', device.step s e = .ok s' ∧ s'.pipe = s.pipe.step (s.pipeOp e) ∧ s'.Inv := by
  have hfinish {s' : Firmware} (hs : device.step s e = .ok s')
      (hpipe : s'.pipe = s.pipe.step (s.pipeOp e))
      (hcons : (s.pipe.step (s.pipeOp e)).Consistent) (hjob : (s'.job epOutJob).busy = false)
      (hdata : s'.NoData) :
      ∃ s', device.step s e = .ok s' ∧ s'.pipe = s.pipe.step (s.pipeOp e) ∧ s'.Inv :=
    ⟨s', hs, hpipe, ⟨by rw [hpipe]; exact hcons, hjob, hdata⟩⟩
  have haside {s' : Firmware} (hs : device.step s e = .ok s') (hop : s.pipeOp e = .keep)
      (ha : Aside s s') (hdata : s'.NoData) :
      ∃ s', device.step s e = .ok s' ∧ s'.pipe = s.pipe.step (s.pipeOp e) ∧ s'.Inv :=
    hfinish hs (by rw [hop]; exact ha.pipe) (by rw [hop]; exact h.pipe)
      ((congrArg _ ha.jobOut).trans h.jobOut) hdata
  cases e with
  | sof t =>
    have hstep : device.step s (.sof t) = mainSofAction t s := rfl
    rw [mainSofAction_eq] at hstep
    by_cases hen : s.mainBGenericEnable = true
    · rw [if_pos hen] at hstep
      exact hfinish hstep (Firmware.pipe_withPipe _ _) (h.pipe.tick t)
        ((congrArg UddEpJob.busy (Firmware.withPipe_jobOut _ _)).trans h.jobOut) h.noData
    · -- `main_b_generic_enable` is false, and nothing is sampled
      rw [if_neg hen] at hstep
      have hdis : s.pipe.enable = false := Bool.eq_false_of_not_eq_true hen
      have htick : s.pipe.tick t = s.pipe := by simp [Pipe.tick, hdis]
      exact hfinish hstep htick.symm (h.pipe.tick t) h.jobOut h.noData
  | reset =>
    obtain ⟨s', hs, hpipe, hjob, hdata, _⟩ := buseventReset_ok h.jobOut
    exact hfinish hs hpipe h.pipe.busReset hjob hdata
  | collect =>
    exact hfinish (congrArg _ (hostCollect_eq s)) (Firmware.pipe_withPipe _ _) h.pipe.collect
      ((congrArg UddEpJob.busy (Firmware.withPipe_jobOut _ _)).trans h.jobOut) h.noData
  | transferComplete =>
    exact hfinish (usbTrncomplVect_eq s) (Firmware.pipe_withPipe _ _) h.pipe.transferComplete
      ((congrArg UddEpJob.busy (Firmware.withPipe_jobOut _ _)).trans h.jobOut) h.noData
  | setup packet =>
    obtain ⟨s', hs, hpipe, hjob, hdata, _⟩ := setupReceived_ok h.pipe h.jobOut packet hstays
    refine hfinish hs hpipe (h.pipe.request _ fun n hn => ?_) hjob hdata
    rw [← (aside_atSetup s packet).pipe]
    exact (pipeRequest_eq_setInterface_iff.mp hn).2.2.2.2.2.1
  | ctrlIn => exact haside rfl rfl (aside_hostCtrlIn s) (noData_hostCtrlIn h.noData)
  | ctrlOut data =>
    obtain ⟨s', hs, ha, hdata⟩ := hostCtrlOut_ok h.noData data
    exact haside hs rfl ha hdata
  | underflow => exact haside rfl rfl (aside_underflow s) (noData_underflow h.noData)
  | overflow => exact haside rfl rfl (aside_overflow s) (noData_overflow h.noData)
  | unstall => exact haside rfl rfl (aside_hostUnstall s) h.noData

/-! ## Runs -/

/-- The request `udcProcessSetup` is given is the one in the packet. -/
theorem atSetup_req (packet : Vector Byte 8) (s : Firmware) :
    (s.atSetup packet).uddGCtrlreq.req = .ofPacket packet := by
  have hrestart (t : Firmware) : (uddCtrlRestart t).uddCtrlBuffer = t.uddCtrlBuffer := by
    rcases restart_cases t with hrestart | ⟨address, hrestart⟩
    · rw [hrestart]
    · rw [hrestart]
      rfl
  exact congrArg UsbSetupReq.ofPacket (hrestart (hostSetup packet s))

/-- Nothing on the way to `udcProcessSetup` changes what is halted. -/
theorem stall_atSetup (packet : Vector Byte 8) (s : Firmware) (c : Fin 4) :
    ((s.atSetup packet).ctrl c).stall = (s.ctrl c).stall := by
  have hmod (t : Firmware) (i : Fin 4) (f : UsbEp → UsbEp) (hf : ∀ e, (f e).stall = e.stall) :
      ((t.modifyCtrl i f).ctrl c).stall = (t.ctrl c).stall := by
    by_cases hi : i = c
    · subst hi
      rw [Firmware.ctrl_modifyCtrl, hf]
    · rw [Firmware.ctrl_modifyCtrl_of_ne hi]
  have hinit (t : Firmware) : ((uddCtrlInit t).ctrl c).stall = (t.ctrl c).stall :=
    hmod t ctrlIn (fun e => uddEndpointAckTransferComplete { uddEndpointSetNACK0 e with cnt := 0 })
      fun _ => rfl
  have hrestart (t : Firmware) : ((uddCtrlRestart t).ctrl c).stall = (t.ctrl c).stall := by
    rcases restart_cases t with hrestart | ⟨address, hrestart⟩
    · rw [hrestart]
    · rw [hrestart, hinit]
      rfl
  have hsetup : ((hostSetup packet s).ctrl c).stall = (s.ctrl c).stall :=
    hmod { s with uddCtrlBuffer := packet } 0 (fun e => { e with cnt := 8 }) fun _ => rfl
  exact (hrestart (hostSetup packet s)).trans hsetup

/-- Whether a SETUP packet makes the driver leave its tables can be told before it is
processed. -/
theorem strays_atSetup {packet : Vector Byte 8} {s : Firmware} :
    (s.atSetup packet).strays ↔ StrayRequest s (.ofPacket packet) := by
  rw [Firmware.strays, atSetup_req, StrayRequest, StrayRequest, stall_atSetup]

/-- Who keeps to the endpoints of this firmware does not stray. -/
theorem not_strays_of_inScope {s : Firmware} {e : Event} (h : e.inScope) : ¬ Strays s e := by
  cases e with
  | setup packet =>
    intro hstrays
    have hreq := atSetup_req packet s
    have hep : IsEpIn (UsbSetupReq.ofPacket packet).ep := h (hreq ▸ hstrays.1)
    have hnum := UsbSetupReq.epNumber_of_isEpIn hep
    rw [← hreq] at hnum
    obtain ⟨_, ⟨_, _, _, h2⟩ | ⟨_, _, _, _, h2 | ⟨h0, _⟩⟩ | ⟨_, _, _, _, h1⟩⟩ := hstrays
    · omega
    · omega
    · omega
    · exact h1 hnum
  | _ => exact not_false

/-- A step that strays leaves a table. -/
theorem device_strays {s : Firmware} {e : Event} (h : Strays s e) : Leaves (device.step s e) := by
  cases e with
  | setup packet =>
    rw [setup_step]
    exact (udcProcessSetup_strays h).bind _
  | _ => exact h.elim

/-- A step that succeeds does not stray. -/
theorem not_strays_of_step {s s' : Firmware} {e : Event} (hstep : device.step s e = .ok s') :
    ¬ Strays s e := by
  intro hstrays
  obtain ⟨f, hf, _⟩ := device_strays hstrays
  rw [hstep] at hf
  cases hf

/-- A state some run leads to. -/
def Reachable (s : Firmware) : Prop := ∃ es, device.run Firmware.powerOn es = .ok s

theorem inv_powerOn : Firmware.powerOn.Inv where
  pipe :=
    { allocated := rfl
      bulk := fun h => Bool.noConfusion h
      unconfigured := fun _ => rfl
      free := fun h => Bool.noConfusion h
      enabled := fun h => Bool.noConfusion h
      busy := fun h => Bool.noConfusion h }
  jobOut := rfl
  noData := .of_ne (by decide)

/-- Every step that succeeds keeps the invariant. -/
theorem device_preserves : device.Preserves Firmware.Inv := by
  intro s e s' h hstep
  obtain ⟨t, ht, _, hinv⟩ := device_step h (not_strays_of_step hstep)
  obtain rfl : s' = t := Except.ok.inj (hstep.symm.trans ht)
  exact hinv

/-- No step taken in scope faults. -/
theorem device_sound : device.Sound InScope Firmware.Inv := by
  intro s e h hscope
  obtain ⟨s', hs, _, hinv⟩ := device_step h (not_strays_of_inScope (s := s) hscope)
  exact ⟨s', hs, hinv⟩

/-- **The invariant of every run.** -/
theorem Reachable.inv {s : Firmware} (h : Reachable s) : s.Inv := by
  obtain ⟨es, hrun⟩ := h
  exact device_preserves.run inv_powerOn hrun

/-- A run in scope does not fault. -/
theorem reachable_of_inScope {es : List Event} (h : device.Admits InScope Firmware.powerOn es) :
    ∃ s, device.run Firmware.powerOn es = .ok s ∧ Reachable s := by
  obtain ⟨s, hrun, _⟩ := device_sound.run inv_powerOn h
  exact ⟨s, hrun, es, hrun⟩

/-- What a step that does not fault does to the pipe. -/
theorem pipe_of_step {s s' : Firmware} {e : Event} (h : s.Inv) (hstep : device.step s e = .ok s') :
    s'.pipe = s.pipe.step (s.pipeOp e) := by
  obtain ⟨t, ht, hpipe, _⟩ := device_step h (not_strays_of_step hstep)
  obtain rfl : s' = t := Except.ok.inj (hstep.symm.trans ht)
  exact hpipe

end HidJoystick
