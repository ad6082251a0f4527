import HidJoystick.Refinement

/-!
# In every reachable state

What the invariant says about the firmware itself, in the words of the source.

* The report pipe — `pipe_sound`: enabled means allocated, not free means busy, a
  busy job can always complete, and a free pipe refuses a report only while the
  endpoint is halted.
* Refused requests — `stalled_request_kept_iff`: a request the host sees stalled
  changes nothing about the reports, unless it selects a setting that does not
  exist.
* Endpoint numbers — `setup_inside_iff`: which requests make the driver index its
  tables out of range.
-/

namespace HidJoystick

/-- SET_CONFIGURATION 1 -/
def configure1 : Event := .setup #v[0x00, 9, 1, 0, 0, 0, 0, 0]

/-- The host resets the bus, gives the device an address and selects configuration 1. -/
def enumeration : List Event :=
  [.reset, .setup #v[0x00, 5, 1, 0, 0, 0, 0, 0], .ctrlIn, configure1, .ctrlIn]

/-- All inputs high, except horizontal pad 0. -/
def padLeft : Readings := { portB := 0xFF, portC := 0xFF, portD := 0xFF, portE := 0xFE }

/-- A tick in the normal mode with that pad touched. -/
def touchLeft : Event := .sof (.still padLeft)

/-! ## The report pipe -/

/-- The state in which `jstk_usbTask`, the ports reading `r`, calls
`udi_hid_generic_send_report_in` if it does. -/
def Firmware.atSend (r : Readings) (s : Firmware) : Firmware :=
  { s with jstkUsbReport := sample r }.note (.sampled r (sample r))

/-- The application, the HID interface and the driver agree about the report pipe. -/
structure Firmware.PipeSound (s : Firmware) : Prop where
  /-- enabled means allocated -/
  enabled_iff : s.mainBGenericEnable = true ↔ uddEndpointIsEnable (s.ctrl epInCtrl) = true
  /-- not free means busy -/
  busy_iff : s.mainBGenericEnable = true →
    (s.udiHidGenericBReportInFree = false ↔ (s.job epInJob).busy = true)
  /-- a busy job is the report's, on an endpoint that is not halted, and is either
  armed or about to complete -/
  busy : (s.job epInJob).busy = true →
    (s.job epInJob).buf = ⟨.udiHidGenericReportIn, 0⟩ ∧ (s.job epInJob).bufSize = 2 ∧
      (s.job epInJob).callTrans = some .udiHidGenericReportInSent ∧
      (s.ctrl epInCtrl).stall = false ∧
      ((s.ctrl epInCtrl).busnack0 = false ∨ (s.ctrl epInCtrl).trncompl0 = true)
  /-- a free pipe refuses a report only while the endpoint is halted -/
  refused_iff : s.mainBGenericEnable = true → s.udiHidGenericBReportInFree = true → ∀ r,
    ∃ s', udiHidGenericSendReportIn (sample r) (s.atSend r) = .ok (!(s.ctrl epInCtrl).stall, s')

theorem Firmware.Inv.pipeSound {s : Firmware} (h : s.Inv) : s.PipeSound where
  enabled_iff := by
    have hall : uddEndpointIsEnable (s.ctrl epInCtrl) = s.mainBGenericEnable := h.pipe.allocated
    rw [hall]
  busy_iff hen := by
    have hfree : s.udiHidGenericBReportInFree = !(s.job epInJob).busy := h.pipe.free hen
    rw [hfree, Bool.not_eq_false']
  busy hbusy := by
    have hin := h.pipe.busy hbusy
    have hjob : s.job epInJob = Pipe.reportJob := hin.job_eq
    rw [hjob]
    refine ⟨rfl, rfl, rfl, hin.unhalted, ?_⟩
    exact hin.bank.imp (fun hbank => hbank.1) fun hbank => hbank.2.1
  refused_iff hen hfree r := by
    have hcons : (s.atSend r).pipe.Consistent :=
      (h.pipe.withReports (sample r) s.jstkPrevReport).note (.sampled r (sample r))
    have hfree' : (s.atSend r).pipe.free = true := hfree
    have haccept : (s.atSend r).pipe.sendAccepted = !(s.ctrl epInCtrl).stall := by
      rw [hcons.sendAccepted hen, hfree', Bool.true_and]
      rfl
    exact ⟨_, by rw [udiHidGenericSendReportIn_eq, haccept]⟩

/-- **The pipe neither wedges nor is released early.** Whatever the order of ticks,
polls, completions, resets and requests, the firmware does not fault, and between
handlers the three layers agree about the report pipe. -/
theorem pipe_sound {es : List Event} (h : device.Admits InScope Firmware.powerOn es) :
    ∃ s, device.run Firmware.powerOn es = .ok s ∧ s.PipeSound := by
  obtain ⟨s, hrun, hreach⟩ := reachable_of_inScope h
  exact ⟨s, hrun, hreach.inv.pipeSound⟩

/-- A report is in flight. -/
def reportInFlight : List Event := enumeration ++ [touchLeft]

theorem reportInFlight_busy :
    ∃ s, device.run Firmware.powerOn reportInFlight = .ok s ∧ (s.job epInJob).busy = true :=
  ⟨_, rfl, by decide +kernel⟩

theorem pipe_sound_reportInFlight :
    ∃ s, device.run Firmware.powerOn reportInFlight = .ok s ∧ (s.job epInJob).busy = true ∧
      s.PipeSound := by
  obtain ⟨s, hrun, hbusy⟩ := reportInFlight_busy
  have hscope : device.Admits InScope Firmware.powerOn reportInFlight := by decide +kernel
  obtain ⟨s', hrun', hsound⟩ := pipe_sound hscope
  obtain rfl : s = s' := Except.ok.inj (hrun.symm.trans hrun')
  exact ⟨s, hrun, hbusy, hsound⟩

/-! ## Refused requests -/

/-- The request selects a setting of interface 0 that does not exist. -/
def UsbSetupReq.selectsAbsentSetting (req : UsbSetupReq) : Prop :=
  uddSetupType req = usbReqTypeStandard ∧ uddSetupIsIn req = false ∧
    uddSetupRecipient req = usbReqRecipInterface ∧ req.bRequest = usbReqSetInterface ∧
    req.wLength = 0 ∧ (req.wIndex &&& 0xFF).setWidth 8 = (0 : Byte) ∧
    (req.wValue &&& 0xFF).setWidth 8 ≠ (0 : Byte)

instance (req : UsbSetupReq) : Decidable req.selectsAbsentSetting :=
  inferInstanceAs (Decidable (_ ∧ _))

/-- What an application can see of the report pipe is in `s'` as it was in `s`, and
the next tick samples and reports the same. -/
structure ReportStateKept (s s' : Firmware) : Prop where
  enable : s'.mainBGenericEnable = s.mainBGenericEnable
  allocated : uddEndpointIsEnable (s'.ctrl epInCtrl) = uddEndpointIsEnable (s.ctrl epInCtrl)
  busy : (s'.job epInJob).busy = (s.job epInJob).busy
  buf : (s'.job epInJob).buf = (s.job epInJob).buf
  bufSize : (s'.job epInJob).bufSize = (s.job epInJob).bufSize
  free : s'.udiHidGenericBReportInFree = s.udiHidGenericBReportInFree
  prevReport : s'.jstkPrevReport = s.jstkPrevReport
  nextTick : ∀ t, ∃ u u', device.step s (.sof t) = .ok u ∧ device.step s' (.sof t) = .ok u' ∧
    u'.history = u.history ∧ u'.jstkUsbReport = u.jstkUsbReport ∧
    u'.jstkPrevReport = u.jstkPrevReport ∧ u'.udiHidGenericReportIn = u.udiHidGenericReportIn

/-- The pipe is all there is to see. -/
theorem ReportStateKept.of_pipe {s s' : Firmware} (h : s.Inv) (h' : s'.Inv)
    (hpipe : s'.pipe = s.pipe) : ReportStateKept s s' where
  enable := congrArg Pipe.enable hpipe
  allocated := congrArg (fun p => uddEndpointIsEnable p.ep) hpipe
  busy := congrArg (fun p => p.job.busy) hpipe
  buf := congrArg (fun p => p.job.buf) hpipe
  bufSize := congrArg (fun p => p.job.bufSize) hpipe
  free := congrArg Pipe.free hpipe
  prevReport := congrArg Pipe.prevReport hpipe
  nextTick t := by
    obtain ⟨u, hu, hpu, _⟩ := device_step h (e := .sof t) not_false
    obtain ⟨u', hu', hpu', _⟩ := device_step h' (e := .sof t) not_false
    have heq : u'.pipe = u.pipe := by
      rw [hpu', hpu, hpipe]
      rfl
    exact ⟨u, u', hu, hu', congrArg Pipe.history heq, congrArg Pipe.usbReport heq,
      congrArg Pipe.prevReport heq, congrArg Pipe.reportIn heq⟩

/-- A refused request asks nothing of the pipe, or selects a setting that does not
exist; in that case the interface is given up all the same. -/
theorem stalled_step {s : Firmware} (h : s.Inv) {packet : Vector Byte 8} {u : Firmware}
    (hstall : udcProcessSetup (s.atSetup packet) = .ok (false, u)) :
    ∃ s', device.step s (.setup packet) = .ok s' ∧ s'.Inv ∧
      ((s.atSetup packet).pipeRequest = .keep ∧ s'.pipe = s.pipe ∨
        ∃ settingNum, settingNum ≠ 0 ∧
          (s.atSetup packet).pipeRequest = .setInterface settingNum ∧ s'.pipe = s.pipe.release) := by
  have hstays : ¬ (s.atSetup packet).strays := by
    intro hstrays
    obtain ⟨f, hf, _⟩ := udcProcessSetup_strays hstrays
    rw [hstall] at hf
    cases hf
  obtain ⟨s', hs', hpipe, hinv⟩ := device_step h (e := .setup packet) hstays
  have haside := aside_atSetup s packet
  obtain ⟨accepted, _, hrun, _, hanswer⟩ := udcProcessSetup_responds (s := s.atSetup packet)
    (by rw [haside.pipe]; exact h.pipe) (by rw [haside.jobOut]; exact h.jobOut) hstays
  rw [hstall] at hrun
  obtain rfl : false = accepted := congrArg Prod.fst (Except.ok.inj hrun)
  have hrefused {request : PipeRequest} (hreq : (s.atSetup packet).pipeRequest = request)
      (hne : request ≠ .keep) : request.accepted = false := by
    subst hreq
    exact (hanswer hne).symm
  refine ⟨s', hs', hinv, ?_⟩
  rw [Firmware.pipeOp_setup] at hpipe
  rcases hreq : (s.atSetup packet).pipeRequest with _ | n | n | _ | _
  · rw [hreq] at hpipe
    exact Or.inl ⟨rfl, hpipe⟩
  · cases hrefused hreq PipeRequest.noConfusion
  · have hn : (n == 0) = false := hrefused hreq PipeRequest.noConfusion
    have hne : n ≠ 0 := by simpa using hn
    rw [hreq] at hpipe
    exact Or.inr ⟨n, hne, rfl, hpipe.trans (if_neg hne)⟩
  · cases hrefused hreq PipeRequest.noConfusion
  · cases hrefused hreq PipeRequest.noConfusion

/-- **A refused request leaves the joystick running** exactly if it does not select a
setting that does not exist. -/
theorem stalled_request_kept_iff {s : Firmware} (h : Reachable s)
    (hconf : s.udcNumConfiguration ≠ 0) (hen : s.mainBGenericEnable = true)
    {packet : Vector Byte 8} {u : Firmware}
    (hstall : udcProcessSetup (s.atSetup packet) = .ok (false, u)) :
    (∃ s', device.step s (.setup packet) = .ok s' ∧ ReportStateKept s s') ↔
      ¬ (UsbSetupReq.ofPacket packet).selectsAbsentSetting := by
  obtain ⟨s', hs', hinv, hcase⟩ := stalled_step h.inv hstall
  have hconf' : (s.atSetup packet).udcNumConfiguration ≠ 0 := by
    have hpipe : (s.atSetup packet).pipe.numConf = s.pipe.numConf :=
      congrArg Pipe.numConf (aside_atSetup s packet).pipe
    exact fun hzero => hconf (hpipe.symm.trans hzero)
  have hreq := atSetup_req packet s
  rcases hcase with ⟨hkeep, hpipe⟩ | ⟨n, hn, hset, hpipe⟩
  · refine iff_of_true ⟨s', hs', .of_pipe h.inv hinv hpipe⟩ fun habsent => ?_
    rw [← hreq] at habsent
    obtain ⟨htype, hout, hrecip, hbreq, hlen, hiface, _⟩ := habsent
    have hset := pipeRequest_eq_setInterface_iff.mpr
      ⟨htype, hout, hrecip, hbreq, hlen, hconf', hiface, rfl⟩
    rw [hkeep] at hset
    cases hset
  · -- the interface was given up, and `main_b_generic_enable` with it
    refine iff_of_false ?_ (not_not.mpr ?_)
    · rintro ⟨t, ht, hkept⟩
      obtain rfl : s' = t := Except.ok.inj (hs'.symm.trans ht)
      have hdis : s'.mainBGenericEnable = false := congrArg Pipe.enable hpipe
      rw [hkept.enable, hen] at hdis
      cases hdis
    · rw [← hreq]
      obtain ⟨htype, hout, hrecip, hbreq, hlen, _, hiface, rfl⟩ :=
        pipeRequest_eq_setInterface_iff.mp hset
      exact ⟨htype, hout, hrecip, hbreq, hlen, hiface, hn⟩

/-- SET_INTERFACE of setting 1 of interface 0 -/
def setInterface1 : Vector Byte 8 := #v[0x01, 11, 1, 0, 0, 0, 0, 0]

/-- GET_CONFIGURATION with a data stage of two bytes -/
def getConfiguration2 : Vector Byte 8 := #v[0x80, 8, 0, 0, 0, 0, 2, 0]

theorem stalled_getConfiguration2_kept :
    ∃ s s', device.run Firmware.powerOn enumeration = .ok s ∧
      device.step s (.setup getConfiguration2) = .ok s' ∧ ReportStateKept s s' := by
  have hkept : (UsbSetupReq.ofPacket getConfiguration2).selectsAbsentSetting → False := by decide
  obtain ⟨s', hs', hkept⟩ := (stalled_request_kept_iff ⟨enumeration, rfl⟩ (by decide +kernel)
    (by decide +kernel) rfl).mpr hkept
  exact ⟨_, s', rfl, hs', hkept⟩

/-- After SET_INTERFACE of a setting that does not exist the host sees a STALL, and
the joystick is silent. -/
theorem stalled_setInterface1_disables :
    ¬ ∀ s packet u, Reachable s → s.udcNumConfiguration ≠ 0 → s.mainBGenericEnable = true →
      (uddSetupRecipient (.ofPacket packet) = usbReqRecipEndpoint →
        IsEpIn (UsbSetupReq.ofPacket packet).ep) →
      udcProcessSetup (s.atSetup packet) = .ok (false, u) →
      ∃ s', device.step s (.setup packet) = .ok s' ∧ ReportStateKept s s' := by
  intro hall
  obtain ⟨s', hs', hkept⟩ := hall _ setInterface1 _ ⟨enumeration, rfl⟩ (by decide +kernel)
    (by decide +kernel) (by decide) rfl
  have henable := hkept.enable
  cases hs'
  revert henable
  decide +kernel

/-! ## Endpoint numbers -/

/-- The SETUP packet is processed without an index out of range, and leaves the pipe
alone if it is a request to an endpoint other than 1 IN. -/
def SetupInside (s : Firmware) (packet : Vector Byte 8) : Prop :=
  ¬ Leaves (device.step s (.setup packet)) ∧
    (uddSetupRecipient (.ofPacket packet) = usbReqRecipEndpoint →
      ¬ IsEpIn (UsbSetupReq.ofPacket packet).ep →
      ∃ s', device.step s (.setup packet) = .ok s' ∧ s'.pipe = s.pipe)

/-- **Which requests stay inside the tables**: in every reachable state, all but the
stray ones. -/
theorem setup_inside_iff {s : Firmware} (h : Reachable s) (packet : Vector Byte 8) :
    SetupInside s packet ↔ ¬ StrayRequest s (.ofPacket packet) := by
  rw [← strays_atSetup]
  constructor
  · rintro ⟨hinside, _⟩ hstrays
    exact hinside (device_strays (e := .setup packet) hstrays)
  · intro hstays
    obtain ⟨s', hs', hpipe, _⟩ := device_step h.inv (e := .setup packet) hstays
    refine ⟨?_, fun hrecip hep => ⟨s', hs', ?_⟩⟩
    · rintro ⟨f, hf, _⟩
      rw [hs'] at hf
      cases hf
    · rw [← atSetup_req packet s] at hrecip hep
      rw [hpipe, Firmware.pipeOp_setup,
        pipeRequest_of_not_isEpIn hrecip hep]
      rfl

/-- SET_FEATURE(ENDPOINT_HALT) of EP 0x82 -/
def haltEp82 : Vector Byte 8 := #v[0x02, 3, 0, 0, 0x82, 0, 0, 0]

/-- CLEAR_FEATURE(ENDPOINT_HALT) of EP 0x01, the other direction of the report endpoint -/
def clearHaltEp01 : Vector Byte 8 := #v[0x02, 1, 0, 0, 0x01, 0, 0, 0]

theorem setup_inside_clearHaltEp01 :
    ∃ s, device.run Firmware.powerOn reportInFlight = .ok s ∧ (s.job epInJob).busy = true ∧
      SetupInside s clearHaltEp01 := by
  obtain ⟨s, hrun, hbusy⟩ := reportInFlight_busy
  have hstays : ¬ StrayRequest s (.ofPacket clearHaltEp01) := by
    rintro ⟨_, ⟨hin, _⟩ | ⟨_, _, _, _, hlarge | ⟨hzero, _⟩⟩ | ⟨_, hset, _⟩⟩
    · exact absurd hin (by decide)
    · exact absurd hlarge (by decide)
    · exact absurd hzero (by decide)
    · exact absurd hset (by decide)
  exact ⟨s, hrun, hbusy, (setup_inside_iff ⟨reportInFlight, hrun⟩ clearHaltEp01).mpr hstays⟩

/-- The endpoint number the host writes is taken as it is. -/
theorem setup_haltEp82_leaves :
    ¬ ∀ s packet, Reachable s → SetupInside s packet := fun hall =>
  (hall Firmware.powerOn haltEp82 ⟨[], rfl⟩).1 ⟨.epCtrlIndex 5, rfl, trivial⟩

end HidJoystick
