import HidJoystick.Consistent

/-!
# SETUP requests and the report pipe

`udcProcessSetup` decodes every request the host can send. Few of them concern
the report pipe: `Firmware.pipeRequest` says which, and what they do to it. Every
other handler leaves the pipe alone (`Keeps`). The requests that leave the endpoint
tables are `Firmware.strays`.
-/

namespace HidJoystick

/-- What a request handler does to the firmware: `f` to the pipe, and nothing to the
request itself, the other job, the LEDs and the control endpoint's state. An OUT request has
no payload, and no handler gives it one. -/
structure Does (f : Pipe → Pipe) (s s' : Firmware) : Prop where
  pipe : s'.pipe = f s.pipe
  req : s'.uddGCtrlreq.req = s.uddGCtrlreq.req
  jobOut : s'.job epOutJob = s.job epOutJob
  leds : s'.leds = s.leds
  controlState : s'.uddEpControlState = s.uddEpControlState
  payload : uddSetupIsIn s.uddGCtrlreq.req = false → s.uddGCtrlreq.payloadSize = 0 →
    s'.uddGCtrlreq.payloadSize = 0

/-- The handler leaves the pipe alone. -/
abbrev Keeps : Firmware → Firmware → Prop := Does id

theorem Keeps.refl (s : Firmware) : Keeps s s := ⟨rfl, rfl, rfl, rfl, rfl, fun _ h => h⟩

/-- What is done to the pipe may be put otherwise. -/
theorem Does.congr {f g : Pipe → Pipe} {s t : Firmware} (h : Does f s t)
    (hpipe : f s.pipe = g s.pipe) : Does g s t :=
  ⟨h.pipe.trans hpipe, h.req, h.jobOut, h.leds, h.controlState, h.payload⟩

theorem Does.comp {f g : Pipe → Pipe} {s t u : Firmware} (h : Does f s t) (h' : Does g t u) :
    Does (fun p => g (f p)) s u where
  pipe := h'.pipe.trans (congrArg g h.pipe)
  req := h'.req.trans h.req
  jobOut := h'.jobOut.trans h.jobOut
  leds := h'.leds.trans h.leds
  controlState := h'.controlState.trans h.controlState
  payload hout hzero := h'.payload (by rw [h.req]; exact hout) (h.payload hout hzero)

/-- A handler that leaves the pipe alone may follow. -/
theorem Does.then_keeps {f : Pipe → Pipe} {s t u : Firmware} (h : Does f s t) (h' : Keeps t u) :
    Does f s u := h.comp h'

theorem Keeps.trans {s t u : Firmware} (h : Keeps s t) (h' : Keeps t u) : Keeps s u :=
  Does.then_keeps h h'

/-- What `withPipe` does. -/
theorem Keeps.withPipe {s t : Firmware} (h : Keeps s t) (f : Pipe → Pipe) :
    Does f s (t.withPipe (f s.pipe)) where
  pipe := by simp
  req := h.req
  jobOut := by rw [← h.jobOut, Firmware.withPipe_jobOut]
  leds := h.leds
  controlState := h.controlState
  payload := h.payload

/-- A handler ran: it answered `accepted` and did `f` to the pipe. -/
def Answers (r : Except Fault (Bool × Firmware)) (accepted : Bool) (f : Pipe → Pipe)
    (s : Firmware) : Prop :=
  ∃ s', r = .ok (accepted, s') ∧ Does f s s'

/-- A handler ran and left the pipe alone. -/
def Ignores (r : Except Fault (Bool × Firmware)) (s : Firmware) : Prop :=
  ∃ accepted s', r = .ok (accepted, s') ∧ Keeps s s'

theorem Ignores.of_keeps {r : Bool × Firmware} {s : Firmware} (h : Keeps s r.2) : Ignores (.ok r) s :=
  ⟨r.1, r.2, rfl, h⟩

theorem ignores_reject (s : Firmware) : Ignores (.ok (false, s)) s := .of_keeps (Keeps.refl s)

/-! ## Handlers that leave the pipe alone -/

/-- Only IN requests hand out a payload. -/
theorem Keeps.setSetupPayload {s : Firmware} (hin : uddSetupIsIn s.uddGCtrlreq.req = true)
    (payload : Ptr) (payloadSize : Word) : Keeps s (uddSetSetupPayload payload payloadSize s) :=
  ⟨rfl, rfl, rfl, rfl, rfl, fun hout => by rw [hin] at hout; cases hout⟩

theorem Keeps.updateIfaceDesc (ifaceNum settingNum : Byte) (s : Firmware) :
    Keeps s (udcUpdateIfaceDesc ifaceNum settingNum s).2 := by
  rw [udcUpdateIfaceDesc_eq]
  split
  · exact Keeps.refl s
  · split <;> exact ⟨rfl, rfl, rfl, rfl, rfl, fun _ h => h⟩

section Handlers

variable {s : Firmware}

theorem keeps_devGetStatus (hin : uddSetupIsIn s.uddGCtrlreq.req = true) :
    Keeps s (udcReqStdDevGetStatus s).2 := by
  rw [udcReqStdDevGetStatus]
  split
  · exact Keeps.refl s
  · exact Keeps.setSetupPayload hin _ _

theorem keeps_devClearFeature (s : Firmware) : Keeps s (udcReqStdDevClearFeature s).2 := by
  rw [udcReqStdDevClearFeature]
  split
  · exact Keeps.refl s
  · split <;> exact ⟨rfl, rfl, rfl, rfl, rfl, fun _ h => h⟩

theorem keeps_devSetFeature (s : Firmware) : Keeps s (udcReqStdDevSetFeature s).2 := by
  rw [udcReqStdDevSetFeature]
  split
  · exact Keeps.refl s
  · split <;> exact ⟨rfl, rfl, rfl, rfl, rfl, fun _ h => h⟩

theorem keeps_devSetAddress (s : Firmware) : Keeps s (udcReqStdDevSetAddress s).2 := by
  rw [udcReqStdDevSetAddress]
  split <;> exact ⟨rfl, rfl, rfl, rfl, rfl, fun _ h => h⟩

theorem keeps_trimPayload (hin : uddSetupIsIn s.uddGCtrlreq.req = true) :
    Keeps s (udcTrimPayload s) := by
  refine ⟨rfl, ?_, rfl, rfl, rfl, fun hout => by rw [hin] at hout; cases hout⟩
  simp only [udcTrimPayload, Firmware.modifyCtrlreq]
  split <;> rfl

theorem keeps_devGetStrDesc (hin : uddSetupIsIn s.uddGCtrlreq.req = true) :
    Keeps s (udcReqStdDevGetStrDesc s).2 := by
  simp only [udcReqStdDevGetStrDesc, udcStringPayload]
  have hout : ∀ {p : Prop}, uddSetupIsIn s.uddGCtrlreq.req = false → p := by
    intro p h
    rw [hin] at h
    cases h
  split
  · exact Keeps.setSetupPayload hin _ _
  · split
    · exact ⟨rfl, rfl, rfl, rfl, rfl, fun h => hout h⟩
    · split
      · exact ⟨rfl, rfl, rfl, rfl, rfl, fun h => hout h⟩
      · exact Keeps.refl s

theorem keeps_devGetDescriptor (hin : uddSetupIsIn s.uddGCtrlreq.req = true) :
    Keeps s (udcReqStdDevGetDescriptor s).2 := by
  have htrim {t : Firmware} (h : Keeps s t) : Keeps s (udcTrimPayload t) :=
    h.trans (keeps_trimPayload (by rw [h.req]; exact hin))
  simp only [udcReqStdDevGetDescriptor]
  split
  · exact htrim (Keeps.setSetupPayload hin _ _)
  · split
    · split
      · exact Keeps.refl s
      · exact htrim (Keeps.setSetupPayload hin _ _)
    · split
      · exact Keeps.refl s
      · split
        · split
          · exact keeps_devGetStrDesc hin
          · exact htrim (keeps_devGetStrDesc hin)
        · exact Keeps.refl s

theorem keeps_devGetConfiguration (hin : uddSetupIsIn s.uddGCtrlreq.req = true) :
    Keeps s (udcReqStdDevGetConfiguration s).2 := by
  rw [udcReqStdDevGetConfiguration]
  split
  · exact Keeps.refl s
  · exact Keeps.setSetupPayload hin _ _

theorem keeps_ifaceGetSetting (hin : uddSetupIsIn s.uddGCtrlreq.req = true) :
    Keeps s (udcReqStdIfaceGetSetting s).2 := by
  have hupdate := Keeps.updateIfaceDesc ((s.uddGCtrlreq.req.wIndex &&& 0xFF).setWidth 8) 0 s
  simp only [udcReqStdIfaceGetSetting]
  split
  · exact Keeps.refl s
  · split
    · exact Keeps.refl s
    · split
      · exact Keeps.refl s
      · split
        · exact hupdate
        · refine hupdate.trans ⟨rfl, rfl, rfl, rfl, rfl, fun hout => ?_⟩
          rw [hupdate.req, hin] at hout
          cases hout

/-- SET_REPORT and GET_REPORT: the feature report has no bytes. -/
theorem keeps_setreport (s : Firmware) : Keeps s (udiHidGenericSetreport s).2 := by
  simp only [udiHidGenericSetreport]
  split
  · exact ⟨rfl, rfl, rfl, rfl, rfl, fun _ _ => rfl⟩
  · exact Keeps.refl s

theorem keeps_reqstdifacegetDescriptor (hin : uddSetupIsIn s.uddGCtrlreq.req = true) :
    Keeps s (udiHidReqstdifacegetDescriptor s).2 := by
  simp only [udiHidReqstdifacegetDescriptor]
  split
  · exact Keeps.refl s
  · split
    · exact Keeps.setSetupPayload hin _ _
    · split
      · exact Keeps.setSetupPayload hin _ _
      · exact Keeps.refl s

/-- What `udi_hid_setup` does with a request. -/
inductive UdiHidAnswers (s : Firmware) : Bool × Firmware → Prop where
  | reject : UdiHidAnswers s (false, s)
  | getDescriptor : uddSetupIsIn s.uddGCtrlreq.req = true →
    UdiHidAnswers s (udiHidReqstdifacegetDescriptor s)
  | getByte : uddSetupIsIn s.uddGCtrlreq.req = true → ∀ payload,
    UdiHidAnswers s (true, uddSetSetupPayload payload 1 s)
  /-- GET_REPORT and SET_REPORT -/
  | report : (uddSetupIsIn s.uddGCtrlreq.req = false →
      s.uddGCtrlreq.req.bRequest = usbReqHidSetReport) →
    UdiHidAnswers s (udiHidGenericSetreport s)
  | setIdle : s.uddGCtrlreq.req.bRequest = usbReqHidSetIdle →
    UdiHidAnswers s
      (true, { s with udiHidGenericRate := (s.uddGCtrlreq.req.wValue >>> 8).setWidth 8 })
  | setProtocol : s.uddGCtrlreq.req.bRequest = usbReqHidSetProtocol →
    UdiHidAnswers s
      (true, { s with udiHidGenericProtocol := s.uddGCtrlreq.req.wValue.setWidth 8 })

/-- `udi_hid_setup`, request by request -/
theorem udiHidSetup_answers (s : Firmware) : UdiHidAnswers s (udiHidSetup s) := by
  simp only [udiHidSetup]
  split
  · next hin =>
    split
    · split
      · exact .getDescriptor hin
      · exact .reject
    · split
      · split
        · exact .report fun hout => absurd hin (ne_true_of_eq_false hout)
        · split
          · exact .getByte hin _
          · split
            · exact .getByte hin _
            · exact .reject
      · exact .reject
  · split
    · split
      · split
        · next hreq => exact .report fun _ => hreq
        · split
          · next hreq => exact .setIdle hreq
          · split
            · next hreq =>
              split
              · exact .reject
              · exact .setProtocol hreq
            · exact .reject
      · exact .reject
    · exact .reject

theorem keeps_udiHidSetup (s : Firmware) : Keeps s (udiHidSetup s).2 := by
  have hanswers := udiHidSetup_answers s
  generalize udiHidSetup s = r at hanswers ⊢
  cases hanswers with
  | reject => exact Keeps.refl s
  | getDescriptor hin => exact keeps_reqstdifacegetDescriptor hin
  | getByte hin payload => exact Keeps.setSetupPayload hin payload 1
  | report _ => exact keeps_setreport s
  | setIdle _ => exact ⟨rfl, rfl, rfl, rfl, rfl, fun _ h => h⟩
  | setProtocol _ => exact ⟨rfl, rfl, rfl, rfl, rfl, fun _ h => h⟩

theorem keeps_reqIface (s : Firmware) : Keeps s (udcReqIface s).2 := by
  have hfirst := Keeps.updateIfaceDesc ((s.uddGCtrlreq.req.wIndex &&& 0xFF).setWidth 8) 0 s
  simp only [udcReqIface]
  split
  · exact Keeps.refl s
  · split
    · exact Keeps.refl s
    · split
      · exact hfirst
      · split
        · exact hfirst.trans (Keeps.updateIfaceDesc _ _ _)
        · exact (hfirst.trans (Keeps.updateIfaceDesc _ _ _)).trans (keeps_udiHidSetup _)

theorem keeps_offerIfaces (ifaceNums : List Byte) (s : Firmware) :
    Keeps s (udcOfferIfaces ifaceNums s).2 := by
  induction ifaceNums generalizing s with
  | nil => exact Keeps.refl s
  | cons ifaceNum rest ih =>
    have hupdate := Keeps.updateIfaceDesc ifaceNum udiHidGenericGetsetting s
    simp only [udcOfferIfaces]
    split
    · exact hupdate
    · split
      · exact hupdate.trans (keeps_udiHidSetup _)
      · exact (hupdate.trans (keeps_udiHidSetup _)).trans (ih _)

theorem keeps_reqEp (s : Firmware) : Keeps s (udcReqEp s).2 := by
  rw [udcReqEp]
  split
  · exact Keeps.refl s
  · exact keeps_offerIfaces _ s

theorem keeps_offerSetup (s : Firmware) : Keeps s (udcOfferSetup s).2 := by
  have hep {t : Firmware} (h : Keeps s t) :
      Keeps s (if uddSetupRecipient t.uddGCtrlreq.req = usbReqRecipEndpoint then udcReqEp t
        else (false, t)).2 := by
    split
    · exact h.trans (keeps_reqEp t)
    · exact h
  simp only [udcOfferSetup]
  split
  · split
    · exact keeps_reqIface s
    · exact hep (keeps_reqIface s)
  · exact hep (Keeps.refl s)

end Handlers

/-! ## Interfaces and configurations -/

/-- What the endpoint descriptor says: EP 0x81, interrupt, 8 bytes. -/
theorem udcDesc_ep :
    udcDescByte (27 + 2) = udiHidGenericEpIn ∧ udcDescByte (27 + 3) = 3 ∧ udcDescWord (27 + 4) = 8 := by
  decide

/-- Freeing the endpoints of interface 0, setting 0. -/
theorem udcFreeEndpoints_iface (s : Firmware) :
    udcFreeEndpoints udcGetEofConf 9 s =
      .ok (s.withPipe { s.pipe.abort with ep := uddEndpointDisable s.pipe.abort.ep }) := by
  obtain ⟨haddr, _⟩ := udcDesc_ep
  rw [udcGetEofConf_eq, udcFreeEndpoints, udcNextDescInIface_iface]
  simp only
  rw [haddr, uddEpFree_epIn isEpIn_epIn, ok_bind, udcFreeEndpoints, udcNextDescInIface_ep]

/-- Allocating the endpoints of interface 0, setting 0. -/
theorem udcAllocEndpoints_iface (s : Firmware) :
    udcAllocEndpoints udcGetEofConf 9 s =
      if uddEndpointIsEnable s.pipe.ep then .ok (false, s)
      else .ok (true, s.withPipe { s.pipe with ep := Pipe.freshEp s.pipe.ep }) := by
  obtain ⟨haddr, hattributes, hsize⟩ := udcDesc_ep
  rw [udcGetEofConf_eq, udcAllocEndpoints, udcNextDescInIface_iface]
  simp only
  rw [haddr, hattributes, hsize, uddEpAlloc_epIn isEpIn_epIn]
  split
  · rfl
  · simp only [ok_bind, Bool.not_true, Bool.false_eq_true, if_false]
    rw [udcAllocEndpoints, udcNextDescInIface_ep]

/-- `udc_iface_disable` of an interface that does not exist -/
theorem udcIfaceDisable_absent {ifaceNum : Byte} {s : Firmware}
    (h : s.udcNumConfiguration = 0 ∨ ifaceNum ≠ 0) : udcIfaceDisable ifaceNum s = .ok (false, s) := by
  simp only [udcIfaceDisable, udcUpdateIfaceDesc_eq, if_pos h, Bool.not_false, if_true, pure_eq_ok]

/-- `udc_iface_disable` -/
theorem udcIfaceDisable_releases {s : Firmware} (hconf : s.udcNumConfiguration ≠ 0) :
    Answers (udcIfaceDisable 0 s) true Pipe.release s := by
  have hpresent : ¬(s.udcNumConfiguration = 0 ∨ (0 : Byte) ≠ 0) := fun h => h.elim hconf fun h => h rfl
  have hkeeps : Keeps s { s with udcPtrIface := 9 } := ⟨rfl, rfl, rfl, rfl, rfl, fun _ h => h⟩
  refine ⟨{ s with udcPtrIface := 9 }.withPipe s.pipe.release, ?_, hkeeps.withPipe Pipe.release⟩
  simp only [udcIfaceDisable, udcUpdateIfaceDesc_eq, if_neg hpresent, udiHidGenericGetsetting,
    if_true, Bool.not_true, Bool.false_eq_true, if_false, udcFreeEndpoints_iface, ok_bind,
    pure_eq_ok]
  simp [udiHidGenericDisable, mainGenericDisable, Firmware.note, Firmware.withPipe, Firmware.pipe,
    Firmware.ctrl, Firmware.job, Pipe.release, Pipe.note]

/-- `udc_iface_enable` of the one setting there is -/
theorem udcIfaceEnable_attaches {s : Firmware} (hconf : s.udcNumConfiguration ≠ 0)
    (hfree : uddEndpointIsEnable s.pipe.ep = false) :
    Answers (udcIfaceEnable 0 0 s) true Pipe.attach s := by
  have hpresent : ¬(s.udcNumConfiguration = 0 ∨ (0 : Byte) ≠ 0) := fun h => h.elim hconf fun h => h rfl
  have hpipe : { s with udcPtrIface := 9 }.pipe = s.pipe := rfl
  have hkeeps : Keeps s { s with
      udcPtrIface := 9, udiHidGenericRate := 0, udiHidGenericProtocol := 0 } :=
    ⟨rfl, rfl, rfl, rfl, rfl, fun _ h => h⟩
  refine ⟨_, ?_, hkeeps.withPipe Pipe.attach⟩
  simp only [udcIfaceEnable, udcUpdateIfaceDesc_eq, if_neg hpresent, if_true,
    udcAllocEndpoints_iface, hpipe, hfree, Bool.not_true, Bool.false_eq_true, if_false, ok_bind,
    pure_eq_ok, Pipe.attach, udiHidGenericEnable, mainGenericEnable]
  simp [Firmware.note, Firmware.withPipe, Firmware.pipe, Firmware.ctrl, Firmware.job, Pipe.note]

/-- `udc_iface_enable` of a setting that does not exist -/
theorem udcIfaceEnable_absent {settingNum : Byte} {s : Firmware} (h : settingNum ≠ 0) :
    Answers (udcIfaceEnable 0 settingNum s) false id s := by
  by_cases hconf : s.udcNumConfiguration = 0 ∨ (0 : Byte) ≠ 0
  · refine ⟨s, ?_, Keeps.refl s⟩
    simp only [udcIfaceEnable, udcUpdateIfaceDesc_eq, if_pos hconf, Bool.not_false, if_true, pure_eq_ok]
  · refine ⟨{ s with udcPtrIface := 34 }, ?_, ⟨rfl, rfl, rfl, rfl, rfl, fun _ h => h⟩⟩
    simp only [udcIfaceEnable, udcUpdateIfaceDesc_eq, if_neg hconf, if_neg h, Bool.not_false,
      if_true, pure_eq_ok]

/-- Changing the configuration number. -/
theorem Does.numConf (n : Byte) (s : Firmware) :
    Does (fun p => { p with numConf := n }) s { s with udcNumConfiguration := n } :=
  ⟨rfl, rfl, rfl, rfl, rfl, fun _ h => h⟩

/-- `udc_reset` -/
theorem udcReset_deconfigures (s : Firmware) :
    ∃ s', udcReset s = .ok s' ∧ Does Pipe.deconfigure s s' := by
  have hnums : udcIfaceNums = [0] := by decide
  have hclear (t : Firmware) : Does (fun p => { p with numConf := 0 }) t
      { t with udcNumConfiguration := 0, udcDeviceStatus := usbDevStatusBusPowered } :=
    ⟨rfl, rfl, rfl, rfl, rfl, fun _ h => h⟩
  by_cases hconf : s.udcNumConfiguration = 0
  · -- there is no configuration to give up
    have hzero : s.pipe.numConf = 0 := hconf
    refine ⟨_, by simp only [udcReset, hconf, ne_eq, not_true_eq_false, if_false, ok_bind]; rfl,
      (hclear s).congr ?_⟩
    rw [Pipe.deconfigure, if_neg (not_not.mpr hzero)]
  · have hne : s.pipe.numConf ≠ 0 := hconf
    obtain ⟨t, ht, hdoes⟩ := udcIfaceDisable_releases hconf
    refine ⟨_, by simp only [udcReset, hnums, udcDisableIfaces, ht, ok_bind, ne_eq, hconf,
      not_false_eq_true, if_true]; rfl, (hdoes.comp (hclear t)).congr ?_⟩
    rw [Pipe.deconfigure, if_pos hne]

/-! ## The requests that concern the pipe -/

/-- What a SETUP packet asks of the report pipe. -/
inductive PipeRequest : Type where
  | keep : PipeRequest
  | configure : Byte → PipeRequest
  | setInterface : Byte → PipeRequest
  | halt : PipeRequest
  | clearHalt : PipeRequest
  deriving DecidableEq, Repr

/-- The answer to a request that concerns the pipe. -/
def PipeRequest.accepted : PipeRequest → Bool
  | .setInterface settingNum => settingNum == 0
  | .keep | .configure _ | .halt | .clearHalt => true

/-- The operation of the pipe that answers a request. -/
def Pipe.request : PipeRequest → Pipe → Pipe
  | .keep => id
  | .configure numConf => configure numConf
  | .setInterface settingNum => setInterface settingNum
  | .halt => halt
  | .clearHalt => clearHalt

/-- What a standard OUT request to the device asks of the pipe. -/
def Firmware.devRequest (s : Firmware) : PipeRequest :=
  let req := s.uddGCtrlreq.req
  if req.bRequest = usbReqSetConfiguration ∧ req.wLength = 0 ∧ uddGetaddress s ≠ 0 ∧
      ¬ req.wValue &&& 0xFF > udcDeviceDescBNumConfigurations.setWidth 16 then
    .configure ((req.wValue &&& 0xFF).setWidth 8)
  else .keep

/-- What a standard OUT request to an interface asks of the pipe. -/
def Firmware.ifaceRequest (s : Firmware) : PipeRequest :=
  let req := s.uddGCtrlreq.req
  if req.bRequest = usbReqSetInterface ∧ req.wLength = 0 ∧ s.udcNumConfiguration ≠ 0 ∧
      (req.wIndex &&& 0xFF).setWidth 8 = (0 : Byte) then
    .setInterface ((req.wValue &&& 0xFF).setWidth 8)
  else .keep

/-- What a standard OUT request to an endpoint asks of the pipe. -/
def Firmware.epRequest (s : Firmware) : PipeRequest :=
  let req := s.uddGCtrlreq.req
  if IsEpIn req.ep ∧ req.wLength = 0 ∧ req.wValue = usbEpFeatureHalt then
    if req.bRequest = usbReqClearFeature then .clearHalt
    else if req.bRequest = usbReqSetFeature then .halt
    else .keep
  else .keep

/-- What the request being decoded asks of the pipe. -/
def Firmware.pipeRequest (s : Firmware) : PipeRequest :=
  let req := s.uddGCtrlreq.req
  if uddSetupType req ≠ usbReqTypeStandard ∨ uddSetupIsIn req then .keep
  else if uddSetupRecipient req = usbReqRecipDevice then s.devRequest
  else if uddSetupRecipient req = usbReqRecipInterface then s.ifaceRequest
  else if uddSetupRecipient req = usbReqRecipEndpoint then s.epRequest
  else .keep

/-- SET_INTERFACE concerns the pipe for interface 0, in the configured state. -/
theorem pipeRequest_eq_setInterface_iff {s : Firmware} {settingNum : Byte} :
    s.pipeRequest = .setInterface settingNum ↔
      uddSetupType s.uddGCtrlreq.req = usbReqTypeStandard ∧
        uddSetupIsIn s.uddGCtrlreq.req = false ∧
        uddSetupRecipient s.uddGCtrlreq.req = usbReqRecipInterface ∧
        s.uddGCtrlreq.req.bRequest = usbReqSetInterface ∧ s.uddGCtrlreq.req.wLength = 0 ∧
        s.udcNumConfiguration ≠ 0 ∧ (s.uddGCtrlreq.req.wIndex &&& 0xFF).setWidth 8 = (0 : Byte) ∧
        (s.uddGCtrlreq.req.wValue &&& 0xFF).setWidth 8 = settingNum := by
  have hdev : s.devRequest ≠ .setInterface settingNum := by
    simp only [Firmware.devRequest]
    split <;> exact fun h => PipeRequest.noConfusion h
  have hep : s.epRequest ≠ .setInterface settingNum := by
    simp only [Firmware.epRequest]
    split
    · split
      · exact fun h => PipeRequest.noConfusion h
      · split <;> exact fun h => PipeRequest.noConfusion h
    · exact fun h => PipeRequest.noConfusion h
  constructor
  · intro h
    simp only [Firmware.pipeRequest] at h
    split at h
    · cases h
    · next hstd =>
      rw [not_or, not_not] at hstd
      split at h
      · exact absurd h hdev
      · split at h
        · next hrecip =>
          simp only [Firmware.ifaceRequest] at h
          split at h
          · next hall =>
            exact ⟨hstd.1, Bool.eq_false_of_not_eq_true hstd.2, hrecip, hall.1, hall.2.1, hall.2.2.1,
              hall.2.2.2, PipeRequest.setInterface.inj h⟩
          · cases h
        · split at h
          · exact absurd h hep
          · cases h
  · rintro ⟨htype, hout, hrecip, hreq, hlen, hconf, hiface, rfl⟩
    have hdevice : uddSetupRecipient s.uddGCtrlreq.req ≠ usbReqRecipDevice := by
      rw [hrecip]
      decide
    simp only [Firmware.pipeRequest]
    rw [if_neg (not_or.mpr ⟨not_not.mpr htype, by rw [hout]; exact Bool.false_ne_true⟩),
      if_neg hdevice, if_pos hrecip, Firmware.ifaceRequest, if_pos ⟨hreq, hlen, hconf, hiface⟩]

/-- A request to an endpoint concerns the pipe only if it names EP 0x81. -/
theorem pipeRequest_of_not_isEpIn {s : Firmware}
    (hrecip : uddSetupRecipient s.uddGCtrlreq.req = usbReqRecipEndpoint)
    (hep : ¬ IsEpIn s.uddGCtrlreq.req.ep) : s.pipeRequest = .keep := by
  have hdevice : ¬ usbReqRecipEndpoint = usbReqRecipDevice := by decide
  have hiface : ¬ usbReqRecipEndpoint = usbReqRecipInterface := by decide
  simp only [Firmware.pipeRequest, hrecip, if_neg hdevice, if_neg hiface,
    Firmware.epRequest, if_neg fun h => hep (And.left h), ite_self]

/-- The number of the endpoint a request names. -/
def UsbSetupReq.epNumber (req : UsbSetupReq) : ℕ := (req.ep &&& usbEpAddrMask).toNat

/-- The half of the control endpoint a request names, if it names one. -/
def UsbSetupReq.ctrlHalf (req : UsbSetupReq) : Fin 4 :=
  if req.ep &&& usbEpDirIn = 0 then ctrlOut else ctrlIn

/-- A request that makes the driver leave one of its tables: GET_STATUS of an endpoint
from 2 on, CLEAR_FEATURE(ENDPOINT_HALT) of an endpoint from 2 on or of a halted half
of the control endpoint, SET_FEATURE(ENDPOINT_HALT) of any endpoint but 1. -/
def StrayRequest (s : Firmware) (req : UsbSetupReq) : Prop :=
  req.standardEp ∧
    ((uddSetupIsIn req = true ∧ req.bRequest = usbReqGetStatus ∧ req.wLength = 2 ∧
        2 ≤ req.epNumber) ∨
      (uddSetupIsIn req = false ∧ req.bRequest = usbReqClearFeature ∧ req.wLength = 0 ∧
        req.wValue = usbEpFeatureHalt ∧
        (2 ≤ req.epNumber ∨ (req.epNumber = 0 ∧ (s.ctrl req.ctrlHalf).stall = true))) ∨
      (uddSetupIsIn req = false ∧ req.bRequest = usbReqSetFeature ∧ req.wLength = 0 ∧
        req.wValue = usbEpFeatureHalt ∧ req.epNumber ≠ 1))

instance (s : Firmware) (req : UsbSetupReq) : Decidable (StrayRequest s req) :=
  inferInstanceAs (Decidable (_ ∧ (_ ∨ _ ∨ _)))

/-- The request being decoded is one of them. -/
def Firmware.strays (s : Firmware) : Prop := StrayRequest s s.uddGCtrlreq.req

end HidJoystick
