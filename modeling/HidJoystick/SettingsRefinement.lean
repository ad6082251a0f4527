import HidJoystick.Settings
import Mathlib.Data.BitVec

/-!
# The firmware refines the settings

* `settings_step` — the step lemma: each event does to the settings what is ordered.
* `settings_simulates` — the refinement.
* `settings_read_back` — what a host reads with GET_STATUS, GET_CONFIGURATION,
  GET_INTERFACE, GET_IDLE and GET_PROTOCOL is what it has set.
-/

namespace HidJoystick

open DeviceSettings Packets

/-! ## The pipe's part -/

/-- What an order asks of the report pipe. -/
def pipeRequestOf : Order Byte → PipeRequest
  | .configure n => .configure n
  | .setInterface n => .setInterface n
  | .halt true => .halt
  | .halt false => .clearHalt
  | .keep | .busReset | .setRemoteWakeup _ | .setIdleRate _ | .setProtocol _ => .keep

theorem pipeRequestOf_ite {p : Prop} [Decidable p] {o : Order Byte}
    (ho : pipeRequestOf o = .keep) : pipeRequestOf (if p then o else .keep) = .keep := by
  split
  · exact ho
  · rfl

section Requests

variable {s : Firmware}

theorem devRequest_eq : s.devRequest = pipeRequestOf s.deviceOrder := by
  simp only [Firmware.devRequest, Firmware.deviceOrder]
  by_cases hreq : s.uddGCtrlreq.req.bRequest = usbReqSetConfiguration
  · have htakes : (s.uddGCtrlreq.req.wLength = 0 ∧ uddGetaddress s ≠ 0 ∧
        ¬ s.uddGCtrlreq.req.wValue &&& 0xFF > udcDeviceDescBNumConfigurations.setWidth 16) ↔
        s.takesDevice := by
      rw [gt_iff_lt, BitVec.lt_def, Nat.not_lt]
      simp [Firmware.takesDevice, hreq, uddGetaddress, udcDeviceDescBNumConfigurations]
    simp only [hreq, true_and, if_true]
    by_cases h : s.takesDevice
    · rw [if_pos (htakes.mpr h), if_pos h]
      rfl
    · rw [if_neg fun hall => h (htakes.mp hall), if_neg h]
      rfl
  · rw [if_neg fun h => hreq h.1, if_neg hreq]
    split
    · split
      · rfl
      · exact (pipeRequestOf_ite rfl).symm
    · rfl

theorem ifaceRequest_eq : s.ifaceRequest = pipeRequestOf s.interfaceOrder := by
  by_cases h : s.uddGCtrlreq.req.bRequest = usbReqSetInterface ∧ s.uddGCtrlreq.req.wLength = 0 ∧
      s.namesIface
  · rw [Firmware.ifaceRequest, Firmware.interfaceOrder, if_pos h, if_pos ⟨h.1, h.2.1, h.2.2⟩]
    rfl
  · have hnone : s.ifaceRequest = .keep := if_neg h
    rw [hnone, Firmware.interfaceOrder, if_neg h]
    rfl

theorem epRequest_eq : s.epRequest = pipeRequestOf s.endpointOrder := by
  have hdistinct : usbReqSetFeature ≠ usbReqClearFeature := by decide
  simp only [Firmware.epRequest, Firmware.endpointOrder]
  by_cases hep : IsEpIn s.uddGCtrlreq.req.ep ∧ s.uddGCtrlreq.req.wLength = 0 ∧
      s.uddGCtrlreq.req.wValue = usbEpFeatureHalt
  · rw [if_pos hep]
    by_cases hclear : s.uddGCtrlreq.req.bRequest = usbReqClearFeature
    · have hset : (s.uddGCtrlreq.req.bRequest == usbReqSetFeature) = false := by
        rw [hclear]
        rfl
      rw [if_pos hclear, if_pos ⟨⟨hep.2.1, Or.inl hclear, hep.2.2⟩, hep.1⟩, hset]
      rfl
    · rw [if_neg hclear]
      by_cases hset : s.uddGCtrlreq.req.bRequest = usbReqSetFeature
      · rw [if_pos hset, if_pos ⟨⟨hep.2.1, Or.inr hset, hep.2.2⟩, hep.1⟩, hset]
        rfl
      · rw [if_neg hset, if_neg fun h => h.1.2.1.elim hclear hset]
        rfl
  · rw [if_neg hep, if_neg fun h => hep ⟨h.2, h.1.1, h.1.2.2⟩]
    rfl

/-- The decoder of the pipe and the decoder of the settings agree. -/
theorem pipeRequest_eq (s : Firmware) : s.pipeRequest = pipeRequestOf s.order := by
  simp only [Firmware.pipeRequest, Firmware.order]
  by_cases hin : uddSetupIsIn s.uddGCtrlreq.req = true
  · rw [if_pos (Or.inr hin), if_pos hin]
    rfl
  · rw [if_neg hin]
    by_cases htype : uddSetupType s.uddGCtrlreq.req = usbReqTypeStandard
    · rw [if_neg (not_or.mpr ⟨not_not.mpr htype, hin⟩), if_pos htype]
      split
      · exact devRequest_eq
      · split
        · exact ifaceRequest_eq
        · split
          · exact epRequest_eq
          · rfl
    · rw [if_pos (Or.inl htype), if_neg htype]
      split
      · simp only [Firmware.hidOrder]
        split
        · split
          · rfl
          · exact (pipeRequestOf_ite rfl).symm
        · rfl
      · rfl

/-- Requests do not reset the bus. -/
theorem order_ne_busReset (s : Firmware) : s.order ≠ .busReset := by
  simp only [Firmware.order, Firmware.deviceOrder, Firmware.interfaceOrder, Firmware.endpointOrder,
    Firmware.hidOrder]
  grind

end Requests

namespace Pipe

variable {p : Pipe}

theorem abort_stall (p : Pipe) : p.abort.ep.stall = p.ep.stall :=
  (sameSetup_finish .abort { p with ep := uddEndpointSetNACK0 p.ep }).stall

/-- The configuration number and the halt, as settings -/
structure Holds (c : DeviceSettings Byte) (p : Pipe) : Prop where
  configuration : p.numConf = c.configuration
  halted : p.ep.stall = c.halted

variable {c : DeviceSettings Byte}

theorem Holds.deconfigure (h : p.Holds c) : p.deconfigure.Holds c.unconfigure := by
  refine ⟨rfl, ?_⟩
  change (if p.numConf ≠ 0 then p.release else p).ep.stall = (c.halted && c.configuration == 0)
  rw [← h.configuration, ← h.halted]
  split
  · next hconf =>
    rw [beq_false_of_ne hconf, Bool.and_false]
    rfl
  · next hconf =>
    rw [beq_iff_eq.mpr (not_not.mp hconf), Bool.and_true]

/-- A new endpoint is not halted. -/
theorem Holds.attach (h : p.Holds c) (hfree : uddEndpointIsEnable p.ep = false) :
    p.attach.Holds c.start := by
  rw [Pipe.attach, hfree, if_neg Bool.false_ne_true]
  exact ⟨h.configuration, rfl⟩

theorem Holds.release (h : p.Holds c) : p.release.Holds { c with halted := false } :=
  ⟨(release_numConf p).trans h.configuration, rfl⟩

/-- A request does to the pipe what is ordered. -/
theorem Holds.request (h : p.Holds c) (hp : p.Consistent) {o : Order Byte} (ho : o ≠ .busReset) :
    (p.request (pipeRequestOf o)).Holds (c.apply o) := by
  cases o with
  | configure n =>
    have hnumConf : { p.deconfigure with numConf := n }.Holds { c.unconfigure with configuration := n } :=
      ⟨rfl, h.deconfigure.halted⟩
    change (p.configure n).Holds _
    rw [Pipe.configure, DeviceSettings.apply]
    split
    · next hzero =>
      rw [hzero] at hnumConf ⊢
      exact hnumConf
    · exact hnumConf.attach hp.isEnable_deconfigure
  | setInterface n =>
    change (p.setInterface n).Holds _
    rw [Pipe.setInterface, DeviceSettings.apply]
    split
    · exact h.release.attach rfl
    · exact h.release
  | halt on =>
    cases on with
    | true =>
      refine ⟨?_, ?_⟩
      · change p.halt.numConf = _
        rw [Pipe.halt, abort_numConf]
        exact (abort_numConf p).trans h.configuration
      · change p.halt.ep.stall = _
        rw [Pipe.halt, abort_stall]
        rfl
    | false =>
      refine ⟨h.configuration, ?_⟩
      change p.clearHalt.ep.stall = false
      rw [Pipe.clearHalt]
      simp only
      split
      · rfl
      · next hstall => exact Bool.eq_false_of_not_eq_true hstall
  | busReset => exact absurd rfl ho
  | keep | setRemoteWakeup _ | setIdleRate _ | setProtocol _ => exact ⟨h.configuration, h.halted⟩

/-- and so does a bus reset. -/
theorem Holds.busReset (h : p.Holds c) : p.busReset.Holds (c.apply .busReset) :=
  Holds.deconfigure ⟨(abort_numConf p).trans h.configuration, (abort_stall p).trans h.halted⟩

end Pipe

/-! ## Events -/

section Steps

variable (s : Firmware)

theorem settingVars_ctrlInit : (uddCtrlInit s).settingVars = s.settingVars := rfl

theorem settingVars_endofrequest : (uddCtrlEndofrequest s).settingVars = s.settingVars := by
  obtain ⟨address, haddr⟩ := endofrequest_eq s
  rw [haddr]
  rfl

theorem settingVars_inSent : (uddCtrlInSent s).settingVars = s.settingVars := by
  simp only [uddCtrlInSent]
  split
  · exact settingVars_endofrequest s
  · split
    · split
      · rfl
      · rfl
    · rfl

theorem settingVars_hostCtrlIn : (hostCtrlIn s).settingVars = s.settingVars := by
  rw [hostCtrlIn]
  split
  · exact settingVars_inSent _
  · rfl

theorem settingVars_hostCtrlOut {s : Firmware} (h : s.NoData) (data : OutPacket) :
    SparesSettings (hostCtrlOut data s) s id := by
  obtain ⟨s', hs', rfl | rfl | rfl⟩ := hostCtrlOut_cases h data
  · rw [hs']
    rfl
  · rw [hs']
    exact settingVars_endofrequest (hostData data s)
  · rw [hs']
    rfl

theorem settingVars_underflow : (uddCtrlUnderflow s).settingVars = s.settingVars := by
  rw [uddCtrlUnderflow]
  split
  · rfl
  · split
    · rfl
    · rfl

theorem settingVars_overflow : (uddCtrlOverflow s).settingVars = s.settingVars := by
  rw [uddCtrlOverflow]
  split
  · rfl
  · split
    · rfl
    · rfl

theorem settingVars_atSetup (packet : Vector Byte 8) :
    (s.atSetup packet).settingVars = s.settingVars := by
  have hrestart (t : Firmware) : (uddCtrlRestart t).settingVars = t.settingVars := by
    rw [uddCtrlRestart]
    split
    · split
      · exact settingVars_endofrequest t
      · rfl
    · rfl
  exact hrestart _

theorem settingVars_accept : (uddCtrlAccept s).settingVars = s.settingVars := by
  rw [uddCtrlAccept]
  split
  · exact settingVars_inSent _
  · split
    · rfl
    · rfl

theorem settingVars_busReset : Spares (usbBuseventReset s) fun t =>
    t.settingVars = s.settingVars.apply .busReset := by
  have hget : uddEpGetCtrl 0 = .ok 0 := rfl
  have hget' : uddEpGetCtrl (0 ||| usbEpDirIn) = .ok 1 := rfl
  refine (settingVars_abort s 1).bind fun t ht => ?_
  refine (settingVars_abort t (1 ||| usbEpDirIn)).bind fun u hu => ?_
  refine (settingVars_reset u).bind fun v hv => ?_
  simp only [uddEpInit, hget, hget', ok_bind, pure_eq_ok]
  change (uddCtrlInit _).settingVars = _
  rw [settingVars_ctrlInit, settingVars_modifyCtrl, settingVars_modifyCtrl, settingVars_modifyCtrl]
  exact hv.trans (congrArg (SettingVars.apply .busReset) (hu.trans ht))

/-- **The step lemma, for these variables** -/
theorem settingVars_step {s s' : Firmware} (h : s.Inv) {e : Event} (hstep : device.step s e = .ok s') :
    s'.settingVars = s.settingVars.apply (s.settingsOrder e) := by
  have hstays := not_strays_of_step hstep
  have hsame {t : Firmware} {v : SettingVars} (ht : device.step s e = .ok t)
      (hv : t.settingVars = v) : s'.settingVars = v := by
    obtain rfl : s' = t := Except.ok.inj (hstep.symm.trans ht)
    exact hv
  cases e with
  | sof tick =>
    have hsof : device.step s (.sof tick) = mainSofAction tick s := rfl
    rw [mainSofAction_eq] at hsof
    split at hsof
    · exact hsame hsof rfl
    · exact hsame hsof rfl
  | reset => exact (settingVars_busReset s).value hstep
  | collect => exact hsame (congrArg _ (hostCollect_eq s)) rfl
  | transferComplete => exact hsame (usbTrncomplVect_eq s) rfl
  | setup packet =>
    have haside := aside_atSetup s packet
    have hobeys := obeys_processSetup (s := s.atSetup packet)
      (by rw [haside.pipe]; exact h.pipe) (by rw [haside.jobOut]; exact h.jobOut) hstays
    have hbefore := settingVars_atSetup s packet
    rw [setup_step] at hstep
    rcases hr : udcProcessSetup (s.atSetup packet) with f | ⟨accepted, u⟩
    · rw [hr] at hstep
      cases hstep
    · have hvars := hobeys.value hr
      rw [hbefore] at hvars
      rw [hr] at hstep
      obtain rfl := Except.ok.inj hstep
      rcases accepted with _ | _
      · exact hvars
      · exact (settingVars_accept u).trans hvars
  | ctrlIn => exact hsame rfl (settingVars_hostCtrlIn s)
  | ctrlOut data => exact (settingVars_hostCtrlOut h.noData data).value hstep
  | underflow => exact hsame rfl (settingVars_underflow s)
  | overflow => exact hsame rfl (settingVars_overflow s)
  | unstall => exact hsame rfl rfl

/-- **The step lemma, for the report pipe** -/
theorem pipe_holds_step {s s' : Firmware} (h : s.Inv) {c : DeviceSettings Byte}
    (hholds : s.pipe.Holds c) {e : Event} (hstep : device.step s e = .ok s') :
    s'.pipe.Holds (c.apply (s.settingsOrder e)) := by
  rw [pipe_of_step h hstep]
  have hsame {p : Pipe} (h : s.pipe.SameSetup p) : p.Holds c :=
    ⟨h.numConf.trans hholds.configuration, h.stall.trans hholds.halted⟩
  cases e with
  | sof tick => exact hsame (Pipe.sameSetup_tick tick _)
  | reset => exact hholds.busReset
  | collect => exact hsame (Pipe.sameSetup_collect _)
  | transferComplete => exact hsame (Pipe.sameSetup_transferComplete _)
  | setup packet =>
    rw [Firmware.pipeOp_setup, pipeRequest_eq]
    exact hholds.request h.pipe (order_ne_busReset _)
  | ctrlIn | ctrlOut _ | underflow | overflow | unstall => exact hholds

end Steps

/-! ## Runs -/

/-- The variables hold the settings. -/
structure SettingVars.Holds (v : SettingVars) (c : DeviceSettings Byte) : Prop where
  status : v.status = if c.remoteWakeup then usbDevStatusRemotewakeup else usbDevStatusBusPowered
  rate : v.rate = c.idleRate
  protocol : v.protocol = c.protocol

theorem SettingVars.Holds.apply {v : SettingVars} {c : DeviceSettings Byte} (h : v.Holds c)
    (o : Order Byte) : (v.apply o).Holds (c.apply o) := by
  cases o with
  | configure n =>
    rw [SettingVars.apply, DeviceSettings.apply]
    split
    · exact ⟨rfl, h.rate, h.protocol⟩
    · exact ⟨rfl, rfl, rfl⟩
  | setInterface n =>
    rw [SettingVars.apply, DeviceSettings.apply]
    split
    · exact ⟨h.status, rfl, rfl⟩
    · exact ⟨h.status, h.rate, h.protocol⟩
  | setRemoteWakeup on =>
    have hstatus := h.status
    cases on with
    | false =>
      refine ⟨?_, h.rate, h.protocol⟩
      rw [SettingVars.apply, hstatus]
      split <;> rfl
    | true =>
      refine ⟨?_, h.rate, h.protocol⟩
      rw [SettingVars.apply, hstatus]
      split <;> rfl
  | busReset => exact ⟨rfl, h.rate, h.protocol⟩
  | setIdleRate rate => exact ⟨h.status, rfl, h.protocol⟩
  | setProtocol protocol => exact ⟨h.status, h.rate, rfl⟩
  | keep | halt _ => exact ⟨h.status, h.rate, h.protocol⟩

theorem holds_iff {s : Firmware} {c : DeviceSettings Byte} :
    s.Holds c ↔ s.settingVars.Holds c ∧ s.pipe.Holds c :=
  ⟨fun h => ⟨⟨h.remoteWakeup, h.idleRate, h.protocol⟩, ⟨h.configuration, h.halted⟩⟩,
    fun ⟨hvars, hpipe⟩ =>
      ⟨hpipe.configuration, hvars.status, hvars.rate, hvars.protocol, hpipe.halted⟩⟩

/-- **The step lemma** -/
theorem settings_step {s s' : Firmware} (h : s.Inv) {c : DeviceSettings Byte} (hc : s.Holds c)
    {e : Event} (hstep : device.step s e = .ok s') : s'.Holds (c.apply (s.settingsOrder e)) := by
  obtain ⟨hvars, hpipe⟩ := holds_iff.mp hc
  refine holds_iff.mpr ⟨?_, pipe_holds_step h hpipe hstep⟩
  rw [settingVars_step h hstep]
  exact hvars.apply _

/-- **The firmware refines the settings.** -/
theorem settings_simulates :
    device.Simulates (machine (β := Byte)) (fun s e => ¬ Strays s e)
      (fun s c => s.Inv ∧ s.Holds c) Firmware.settingsOrder := by
  rintro s c e ⟨hinv, hc⟩ hstays
  obtain ⟨s', hs', _, hinv'⟩ := device_step hinv hstays
  exact ⟨s', _, hs', rfl, hinv', settings_step hinv hc hs'⟩

/-- Nothing is set. -/
def unset : DeviceSettings Byte where
  configuration := 0
  remoteWakeup := false
  idleRate := 0
  protocol := 0
  halted := false

theorem powerOn_holds : Firmware.powerOn.Holds unset := ⟨rfl, rfl, rfl, rfl, rfl⟩

/-- In every reachable state -/
theorem Reachable.holds {s : Firmware} (h : Reachable s) : ∃ c, s.Holds c := by
  obtain ⟨es, hrun⟩ := h
  have hpreserves : device.Preserves fun s => s.Inv ∧ ∃ c, s.Holds c := by
    rintro s e s' ⟨hinv, c, hc⟩ hstep
    exact ⟨device_preserves s e s' hinv hstep, _, settings_step hinv hc hstep⟩
  exact (hpreserves.run ⟨inv_powerOn, unset, powerOn_holds⟩ hrun).2

/-! ## Reading back -/

/-- What the host can ask for. -/
inductive Query : Type where
  /-- GET_STATUS of the device -/
  | deviceStatus : Query
  /-- GET_STATUS of EP 0x81 -/
  | endpointStatus : Query
  /-- GET_CONFIGURATION -/
  | configuration : Query
  /-- GET_INTERFACE -/
  | interface : Query
  /-- GET_IDLE -/
  | idleRate : Query
  /-- GET_PROTOCOL -/
  | protocol : Query
  deriving DecidableEq, Repr

/-- The SETUP packet -/
def Query.packet : Query → Vector Byte 8
  | .deviceStatus => #v[0x80, usbReqGetStatus, 0, 0, 0, 0, 2, 0]
  | .endpointStatus => #v[0x82, usbReqGetStatus, 0, 0, 0x81, 0, 2, 0]
  | .configuration => #v[0x80, usbReqGetConfiguration, 0, 0, 0, 0, 1, 0]
  | .interface => #v[0x81, usbReqGetInterface, 0, 0, 0, 0, 1, 0]
  | .idleRate => #v[0xA1, usbReqHidGetIdle, 0, 0, 0, 0, 1, 0]
  | .protocol => #v[0xA1, usbReqHidGetProtocol, 0, 0, 0, 0, 1, 0]

/-- **What the host reads.** An interface that is not configured has nothing to say. -/
def Query.reading (c : DeviceSettings Byte) : Query → Option (List Byte)
  | .deviceStatus => some [if c.remoteWakeup then 2 else 0, 0]
  | .endpointStatus => some [if c.halted then 1 else 0, 0]
  | .configuration => some [c.configuration]
  | .interface => if c.configuration = 0 then none else some [0]
  | .idleRate => if c.configuration = 0 then none else some [c.idleRate]
  | .protocol => if c.configuration = 0 then none else some [c.protocol]

theorem Query.inScope (q : Query) : (Event.setup q.packet).inScope := by
  cases q <;> decide

theorem Query.isIn (q : Query) : uddSetupIsIn (.ofPacket q.packet) = true := by
  cases q <;> rfl

/-- The answer to a query is in the settings. -/
theorem Query.requested_eq {s : Firmware} {c : DeviceSettings Byte} (h : s.Holds c) (q : Query) :
    (s.atSetup q.packet).requested = q.reading c := by
  have hreq := atSetup_req q.packet s
  have hvars := settingVars_atSetup s q.packet
  have hpipe := (aside_atSetup s q.packet).pipe
  generalize s.atSetup q.packet = t at hreq hvars hpipe
  have hconf : t.udcNumConfiguration = c.configuration :=
    (congrArg Pipe.numConf hpipe).trans h.configuration
  have hstall : (t.ctrl epInCtrl).stall = c.halted :=
    (congrArg (fun p : Pipe => p.ep.stall) hpipe).trans h.halted
  have hstatus : t.udcDeviceStatus = _ := (congrArg SettingVars.status hvars).trans h.remoteWakeup
  have hrate : t.udiHidGenericRate = c.idleRate := (congrArg SettingVars.rate hvars).trans h.idleRate
  have hprotocol : t.udiHidGenericProtocol = c.protocol :=
    (congrArg SettingVars.protocol hvars).trans h.protocol
  have hstandard {object : List Byte} (hlen : t.uddGCtrlreq.req.wLength ≠ 0)
      (htype : uddSetupType t.uddGCtrlreq.req = usbReqTypeStandard)
      (hobject : t.requestedStandard = some object) : t.requested = some object := by
    rw [Firmware.requested, if_neg hlen, if_pos htype, hobject]
    rfl
  have hclass {b : Byte} (hreq : t.uddGCtrlreq.req = ⟨0xA1, b, 0, 0, 1⟩) : t.requested =
      if c.configuration = 0 then none else
        if b = usbReqHidGetIdle then some [c.idleRate]
        else if b = usbReqHidGetProtocol then some [c.protocol]
        else none := by
    have hdistinct : usbReqTypeClass ≠ usbReqTypeStandard := by decide
    have htype : uddSetupType t.uddGCtrlreq.req = usbReqTypeClass := by
      rw [hreq]
      exact (by decide : (0xA1 : Byte) &&& 0x60 = 0x20)
    have hrecip : uddSetupRecipient t.uddGCtrlreq.req = usbReqRecipInterface := by
      rw [hreq]
      exact (by decide : (0xA1 : Byte) &&& 0x1F = 1)
    have hiface : (t.uddGCtrlreq.req.wIndex &&& 0xFF).setWidth 8 = (0 : Byte) := by
      rw [hreq]
      exact (by decide : ((0 : Word) &&& 0xFF).setWidth 8 = (0 : Byte))
    have hbRequest : t.uddGCtrlreq.req.bRequest = b := by rw [hreq]
    have hlen : t.uddGCtrlreq.req.wLength ≠ 0 := by
      rw [hreq]
      exact (by decide : (1 : Word) ≠ 0)
    have hoffers : t.offersHid ↔ c.configuration ≠ 0 := by
      rw [← hconf]
      exact ⟨fun h => h.elim (fun h => h.2.1) And.right, fun h => Or.inl ⟨hrecip, h, hiface⟩⟩
    simp only [Firmware.requested, if_neg hlen, htype, if_neg hdistinct]
    by_cases hzero : c.configuration = 0
    · rw [if_pos hzero, if_neg fun h => hoffers.mp h hzero]
      rfl
    · rw [if_neg hzero, if_pos (hoffers.mpr hzero)]
      simp only [Firmware.requestedHid, htype, if_neg hdistinct, if_true, hbRequest, hrate, hprotocol]
      rfl
  cases q with
  | deviceStatus =>
    have hreq' : t.uddGCtrlreq.req = ⟨0x80, 0, 0, 0, 2⟩ := hreq
    have hasked : t.requestedStandard = some (wordBytes t.udcDeviceStatus) := by
      rw [Firmware.requestedStandard, Firmware.requestedDevice, hreq']
      rfl
    rw [hstandard (by rw [hreq']; decide) (by rw [hreq']; rfl) hasked, hstatus, Query.reading]
    split <;> rfl
  | endpointStatus =>
    have hreq' : t.uddGCtrlreq.req = ⟨0x82, 0, 0, 0x81, 2⟩ := hreq
    have hasked : t.requestedStandard = some (wordBytes (if c.halted then usbEpStatusHalted else 0)) := by
      rw [Firmware.requestedStandard, Firmware.requestedEndpoint, hreq', ← hstall]
      rfl
    rw [hstandard (by rw [hreq']; decide) (by rw [hreq']; rfl) hasked, Query.reading]
    split <;> rfl
  | configuration =>
    have hreq' : t.uddGCtrlreq.req = ⟨0x80, 8, 0, 0, 1⟩ := hreq
    have hasked : t.requestedStandard = some [c.configuration] := by
      rw [Firmware.requestedStandard, Firmware.requestedDevice, hreq', ← hconf]
      rfl
    exact hstandard (by rw [hreq']; decide) (by rw [hreq']; rfl) hasked
  | interface =>
    have hreq' : t.uddGCtrlreq.req = ⟨0x81, 10, 0, 0, 1⟩ := hreq
    have hnames : t.namesIface ↔ c.configuration ≠ 0 := by
      rw [Firmware.namesIface, hreq', hconf]
      exact ⟨And.left, fun h => ⟨h, rfl⟩⟩
    have hasked : t.requestedStandard = if t.namesIface then some [0] else none := by
      have hget : t.uddGCtrlreq.req.bRequest = usbReqGetInterface ∧ t.uddGCtrlreq.req.wLength = 1 := by
        rw [hreq']
        exact ⟨rfl, rfl⟩
      have hiface : t.requestedStandard = t.requestedInterface := by
        rw [Firmware.requestedStandard, hreq']
        rfl
      rw [hiface, Firmware.requestedInterface]
      simp only [hget.1, hget.2, true_and]
    rw [Query.reading]
    by_cases hzero : c.configuration = 0
    · have hnot : ¬ t.namesIface := fun h => hnames.mp h hzero
      have hoffers : ¬ t.offersHid := by
        rw [Firmware.offersHid, hreq']
        exact fun h => h.elim (fun h => hnot h.2) fun h => absurd h.1 (by decide)
      rw [if_pos hzero, Firmware.requested, hasked, if_neg hnot, if_neg hoffers, ite_self]
      exact ite_self none
    · rw [if_neg hzero]
      rw [if_pos (hnames.mpr hzero)] at hasked
      exact hstandard (by rw [hreq']; decide) (by rw [hreq']; rfl) hasked
  | idleRate => exact hclass hreq
  | protocol => exact hclass hreq

/-- The reading is as long as the host asks for, and fits into one packet. -/
theorem Query.length_reading {q : Query} {c : DeviceSettings Byte} {object : List Byte}
    (h : q.reading c = some object) :
    object.length = (UsbSetupReq.ofPacket q.packet).wLength.toNat ∧ object.length < 8 := by
  have hconfigured {p : Prop} [Decidable p] {b : Byte} {n : ℕ} (hn : n = 1)
      (h : (if p then none else some [b]) = some object) : object.length = n ∧ object.length < 8 := by
    split at h
    · cases h
    · obtain rfl := Option.some.inj h
      exact ⟨hn.symm, by simp⟩
  cases q with
  | deviceStatus | endpointStatus | configuration =>
    obtain rfl := Option.some.inj h
    exact ⟨rfl, by simp⟩
  | interface | idleRate | protocol => exact hconfigured rfl h

/-- A query gets its reading, with the first poll. -/
theorem query_packets {s : Firmware} (h : Reachable s) {c : DeviceSettings Byte} (hc : s.Holds c)
    (henabled : uddEndpointIsEnable (s.ctrl ctrlIn) = true)
    (hhalted : (s.ctrl ctrlIn).stall = false) (q : Query) {polls : List Event}
    (hpolls : ∀ e ∈ polls, e.polls) (hpoll : 0 < polls.countP Event.isCtrlIn) :
    ctrlPackets s (.setup q.packet :: polls) = (q.reading c).toList := by
  rcases hreading : q.reading c with _ | object
  · exact refused_packets h (not_strays_of_inScope q.inScope) q.isIn ((q.requested_eq hc).trans hreading)
      fun e he => goesOn_of_polls (hpolls e he)
  · rw [polled_reply h henabled hhalted q.isIn ((q.requested_eq hc).trans hreading) hpolls]
    -- the reading fills one packet
    have hone : packets 8 (UsbSetupReq.ofPacket q.packet).wLength.toNat
        (object.take (UsbSetupReq.ofPacket q.packet).wLength.toNat) = [object] := by
      obtain ⟨hlen, hshort⟩ := Query.length_reading hreading
      rw [← hlen, List.take_length, packets_of_short hshort]
    rw [hone, List.take_of_length_le hpoll]
    rfl

/-- **What the host reads back is what it has set.** After any run inside the tables, and whatever the reports
do meanwhile, the answer to a query is in the settings the orders of the run make. -/
theorem settings_read_back {es : List Event}
    (hadm : device.Admits (fun s e => ¬ Strays s e) Firmware.powerOn es)
    (q : Query) {polls : List Event} (hpolls : ∀ e ∈ polls, e.polls)
    (hpoll : 0 < polls.countP Event.isCtrlIn) :
    ∃ s c, device.run Firmware.powerOn es = .ok s ∧
      machine.run unset (device.shown Firmware.settingsOrder Firmware.powerOn es) = .ok c ∧
      (uddEndpointIsEnable (s.ctrl ctrlIn) = true → (s.ctrl ctrlIn).stall = false →
        ctrlPackets s (.setup q.packet :: polls) = (q.reading c).toList) := by
  obtain ⟨s, c, hs, hc, _, hholds⟩ :=
    settings_simulates.run ⟨inv_powerOn, powerOn_holds⟩ hadm
  exact ⟨s, c, hs, hc, fun henabled hhalted =>
    query_packets ⟨es, hs⟩ hholds henabled hhalted q hpolls hpoll⟩

/-- The query for a register -/
def Query.ofRegister : Register → Query
  | .configuration => .configuration
  | .idleRate => .idleRate
  | .protocol => .protocol

theorem Query.reading_ofRegister {c : DeviceSettings Byte} {r : Register}
    (h : r = .configuration ∨ c.configuration ≠ 0) :
    (Query.ofRegister r).reading c = some [c.get r] := by
  cases r with
  | configuration => rfl
  | idleRate =>
    have hconf := h.resolve_left Register.noConfusion
    exact if_neg hconf
  | protocol =>
    have hconf := h.resolve_left Register.noConfusion
    exact if_neg hconf

/-- **The last word counts.** The configuration, the idle rate and the protocol a host reads
are what the last order to write them wrote. -/
theorem last_written_read_back {es : List Event}
    (hadm : device.Admits (fun s e => ¬ Strays s e) Firmware.powerOn es) {r : Register} {polls : List Event}
    (hpolls : ∀ e ∈ polls, e.polls) (hpoll : 0 < polls.countP Event.isCtrlIn) :
    ∃ s, device.run Firmware.powerOn es = .ok s ∧
      (uddEndpointIsEnable (s.ctrl ctrlIn) = true → (s.ctrl ctrlIn).stall = false →
        r = .configuration ∨ s.udcNumConfiguration ≠ 0 →
        ctrlPackets s (.setup (Query.ofRegister r).packet :: polls) =
          [[((device.shown Firmware.settingsOrder Firmware.powerOn es).filterMap
            (Order.writes r)).getLast?.getD 0]]) := by
  obtain ⟨s, c, hs, hc, _, hholds⟩ :=
    settings_simulates.run ⟨inv_powerOn, powerOn_holds⟩ hadm
  refine ⟨s, hs, fun henabled hhalted hconf => ?_⟩
  rw [hholds.configuration] at hconf
  rw [query_packets ⟨es, hs⟩ hholds henabled hhalted (Query.ofRegister r) hpolls hpoll,
    Query.reading_ofRegister hconf, get_run hc r]
  cases r <;> rfl

/-- SET_IDLE with a rate of 5, and the host gets the handshake. -/
def setsIdle5 : List Event :=
  enumeration ++ [.setup #v[0x21, 10, 0, 5, 0, 0, 0, 0], touchLeft, .ctrlIn]

theorem setsIdle5_stays : device.Admits (fun s e => ¬ Strays s e) Firmware.powerOn setsIdle5 := by
  decide +kernel

theorem settled_setsIdle5 :
    ∃ s, device.run Firmware.powerOn setsIdle5 = .ok s ∧
      uddEndpointIsEnable (s.ctrl ctrlIn) = true ∧ (s.ctrl ctrlIn).stall = false ∧
      s.udcNumConfiguration ≠ 0 :=
  ⟨_, rfl, by decide +kernel, by decide +kernel, by decide +kernel⟩

theorem settings_read_back_setIdle5 :
    ∃ s c, device.run Firmware.powerOn setsIdle5 = .ok s ∧
      machine.run unset (device.shown Firmware.settingsOrder Firmware.powerOn setsIdle5) = .ok c ∧
      ctrlPackets s (.setup Query.idleRate.packet :: [touchLeft, .ctrlIn]) =
        (Query.idleRate.reading c).toList := by
  obtain ⟨s, hs, henabled, hhalted, _⟩ := settled_setsIdle5
  have hpolls : ∀ e ∈ [touchLeft, Event.ctrlIn], e.polls := by decide
  obtain ⟨t, c, ht, hc, hread⟩ :=
    settings_read_back setsIdle5_stays .idleRate hpolls (by decide)
  obtain rfl : s = t := Except.ok.inj (hs.symm.trans ht)
  exact ⟨s, c, hs, hc, hread henabled hhalted⟩

theorem last_written_read_back_setIdle5 :
    ∃ s, device.run Firmware.powerOn setsIdle5 = .ok s ∧
      ctrlPackets s (.setup Query.idleRate.packet :: [.ctrlIn]) =
        [[((device.shown Firmware.settingsOrder Firmware.powerOn setsIdle5).filterMap
          (Order.writes .idleRate)).getLast?.getD 0]] := by
  obtain ⟨s, hs, henabled, hhalted, hconf⟩ := settled_setsIdle5
  have hpolls : ∀ e ∈ [Event.ctrlIn], e.polls := by decide
  obtain ⟨t, ht, hread⟩ := last_written_read_back (r := .idleRate) setsIdle5_stays hpolls
    (by decide)
  obtain rfl : s = t := Except.ok.inj (hs.symm.trans ht)
  exact ⟨s, hs, hread henabled hhalted (Or.inr hconf)⟩

end HidJoystick
