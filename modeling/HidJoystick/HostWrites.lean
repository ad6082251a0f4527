import HidJoystick.Reachable

/-!
# What the host can write

The data stage of an OUT request copies what the host sends to wherever `payload`
points, and `payload` is not cleared between requests. What keeps the host from
writing there is `payload_size`: `udc_process_setup` clears it first, and no handler
gives an OUT request a payload (`spares_processSetup`), so the copy has no room.

* `device_confines` is the step lemma. It needs nothing from the rest of the memory:
  it holds in every state that is not waiting for data with room to take it, whatever
  the endpoint tables, the configuration and the pointers are.
* `device_faults` is about the steps that fault. They answer requests that announce no
  data from the host, so no fault starts a data stage.
* `udcProcessSetup_classOut` is what the HID interface does with a class request from the
  host. The request may announce data (SET_IDLE does not look at its length), but what
  it sets comes from its SETUP packet.
* `host_writes_nothing` is what these mean for runs.
-/

namespace HidJoystick

/-! ## Endpoints -/

/-- The computation copies nothing for the host: it ends in `P`, or in another fault. -/
abbrev Spares {α : Type} (r : Except Fault α) (P : α → Prop) : Prop :=
  r.Ends (fun f => ∀ n, f ≠ .hostWrite n) P

/-- The control request is left alone. -/
def KeepsCtrlreq (s t : Firmware) : Prop := t.uddGCtrlreq = s.uddGCtrlreq

section Endpoints

variable (ep : Byte) (s : Firmware)

theorem spares_getCtrl : Spares (uddEpGetCtrl ep) fun _ => True := by
  simp only [uddEpGetCtrl]
  split
  · trivial
  · exact fun _ => Fault.noConfusion

theorem spares_getJob : Spares (uddEpGetJob ep) fun _ => True := by
  simp only [uddEpGetJob]
  split
  · trivial
  · exact fun _ => Fault.noConfusion

theorem keepsCtrlreq_call (callback : UddCallbackTrans) (status : UddEpStatus) (nb : Word) :
    KeepsCtrlreq s (callback.call status nb ep s) := by
  cases callback
  rfl

theorem spares_abort : Spares (uddEpAbort ep s) (KeepsCtrlreq s) := by
  refine (spares_getCtrl ep).bind fun c _ => (spares_getJob ep).bind fun j _ => ?_
  simp only
  split
  · split
    · exact keepsCtrlreq_call ep _ _ _ _
    · rfl
  · rfl

theorem spares_free : Spares (uddEpFree ep s) (KeepsCtrlreq s) := by
  refine (spares_abort ep s).bind fun t ht => (spares_getCtrl ep).bind fun c _ => ?_
  exact ht

theorem spares_init (bmAttributes : Byte) (maxEndpointSize : Word) :
    Spares (uddEpInit ep bmAttributes maxEndpointSize s) (KeepsCtrlreq s) := by
  refine (spares_getCtrl ep).bind fun c _ => ?_
  rfl

theorem spares_alloc (bmAttributes : Byte) (maxEndpointSize : Word) :
    Spares (uddEpAlloc ep bmAttributes maxEndpointSize s) fun r => KeepsCtrlreq s r.2 := by
  refine (spares_getCtrl ep).bind fun c _ => ?_
  split
  · rfl
  · refine (spares_init ep s bmAttributes maxEndpointSize).bind fun t ht => ?_
    split
    · exact ht
    · exact ht

theorem spares_isHalted : Spares (uddEpIsHalted ep s) fun _ => True := by
  refine (spares_getCtrl ep).bind fun c _ => ?_
  trivial

theorem spares_setHalt : Spares (uddEpSetHalt ep s) fun r => KeepsCtrlreq s r.2 := by
  refine (spares_getCtrl ep).bind fun c _ => (spares_abort ep _).bind fun t ht => ?_
  exact ht

theorem spares_clearHalt : Spares (uddEpClearHalt ep s) fun r => KeepsCtrlreq s r.2 := by
  refine (spares_getCtrl ep).bind fun c _ => ?_
  simp only
  split
  · rfl
  · refine (spares_getJob ep).bind fun j _ => ?_
    split
    · exact fun _ => Fault.noConfusion
    · rfl

end Endpoints

/-! ## Interfaces and configurations -/

section Interfaces

theorem keepsCtrlreq_updateIfaceDesc (ifaceNum settingNum : Byte) (s : Firmware) :
    KeepsCtrlreq s (udcUpdateIfaceDesc ifaceNum settingNum s).2 := by
  obtain ⟨ptr, hptr⟩ := updateIfaceDesc_moves ifaceNum settingNum s
  rw [hptr]
  rfl

theorem spares_freeEndpoints (fuel epDesc : ℕ) (s : Firmware) :
    Spares (udcFreeEndpoints fuel epDesc s) (KeepsCtrlreq s) := by
  induction fuel generalizing epDesc s with
  | zero => rfl
  | succ fuel ih =>
    rw [udcFreeEndpoints]
    split
    · rfl
    · exact (spares_free _ s).bind fun t ht => (ih _ t).mono fun u hu => hu.trans ht

theorem spares_ifaceDisable (ifaceNum : Byte) (s : Firmware) :
    Spares (udcIfaceDisable ifaceNum s) fun r => KeepsCtrlreq s r.2 := by
  have hfirst := keepsCtrlreq_updateIfaceDesc ifaceNum 0 s
  simp only [udcIfaceDisable]
  split
  · exact hfirst
  · have hsecond := (keepsCtrlreq_updateIfaceDesc ifaceNum udiHidGenericGetsetting _).trans hfirst
    split
    · exact hsecond
    · exact (spares_freeEndpoints _ _ _).bind fun t ht => ht.trans hsecond

theorem spares_allocEndpoints (fuel epDesc : ℕ) (s : Firmware) :
    Spares (udcAllocEndpoints fuel epDesc s) fun r => KeepsCtrlreq s r.2 := by
  induction fuel generalizing epDesc s with
  | zero => rfl
  | succ fuel ih =>
    rw [udcAllocEndpoints]
    split
    · rfl
    · refine (spares_alloc _ s _ _).bind fun r hr => ?_
      simp only
      split
      · exact hr
      · exact (ih _ r.2).mono fun u hu => hu.trans hr

theorem spares_ifaceEnable (ifaceNum settingNum : Byte) (s : Firmware) :
    Spares (udcIfaceEnable ifaceNum settingNum s) fun r => KeepsCtrlreq s r.2 := by
  have hfirst := keepsCtrlreq_updateIfaceDesc ifaceNum settingNum s
  simp only [udcIfaceEnable]
  split
  · exact hfirst
  · refine (spares_allocEndpoints _ _ _).bind fun r hr => ?_
    split
    · exact hr.trans hfirst
    · exact hr.trans hfirst

theorem spares_disableIfaces (ifaceNums : List Byte) (s : Firmware) :
    Spares (udcDisableIfaces ifaceNums s) (KeepsCtrlreq s) := by
  induction ifaceNums generalizing s with
  | nil => rfl
  | cons ifaceNum rest ih =>
    exact (spares_ifaceDisable ifaceNum s).bind fun r hr => (ih r.2).mono fun u hu => hu.trans hr

theorem spares_enableIfaces (ifaceNums : List Byte) (s : Firmware) :
    Spares (udcEnableIfaces ifaceNums s) fun r => KeepsCtrlreq s r.2 := by
  induction ifaceNums generalizing s with
  | nil => rfl
  | cons ifaceNum rest ih =>
    refine (spares_ifaceEnable ifaceNum 0 s).bind fun r hr => ?_
    simp only
    split
    · exact hr
    · exact (ih r.2).mono fun u hu => hu.trans hr

theorem spares_reset (s : Firmware) : Spares (udcReset s) (KeepsCtrlreq s) := by
  simp only [udcReset, pure_eq_ok, ok_bind]
  split
  · refine (spares_disableIfaces udcIfaceNums s).bind fun t ht => ?_
    exact ht
  · rfl

end Interfaces

/-! ## Requests -/

/-- An OUT request that has no payload is given none. -/
structure Unfilled (s t : Firmware) : Prop where
  req : t.uddGCtrlreq.req = s.uddGCtrlreq.req
  payload : uddSetupIsIn s.uddGCtrlreq.req = false → s.uddGCtrlreq.payloadSize = 0 →
    t.uddGCtrlreq.payloadSize = 0

theorem Unfilled.refl (s : Firmware) : Unfilled s s := ⟨rfl, fun _ h => h⟩

theorem Unfilled.trans {s t u : Firmware} (h : Unfilled s t) (h' : Unfilled t u) : Unfilled s u :=
  ⟨h'.req.trans h.req, fun hout hzero =>
    h'.payload (by rw [h.req]; exact hout) (h.payload hout hzero)⟩

theorem Does.unfilled {f : Pipe → Pipe} {s t : Firmware} (h : Does f s t) : Unfilled s t :=
  ⟨h.req, h.payload⟩

theorem KeepsCtrlreq.unfilled {s t : Firmware} (h : KeepsCtrlreq s t) : Unfilled s t := by
  refine ⟨?_, fun _ hzero => ?_⟩
  · rw [h]
  · rw [h]
    exact hzero

section Requests

variable (s : Firmware)

theorem spares_setConfiguration :
    Spares (udcReqStdDevSetConfiguration s) fun r => KeepsCtrlreq s r.2 := by
  simp only [udcReqStdDevSetConfiguration]
  split
  · rfl
  · split
    · rfl
    · split
      · rfl
      · refine (spares_reset s).bind fun t ht => ?_
        split
        · exact ht
        · exact (spares_enableIfaces udcIfaceNums _).mono fun u hu => hu.trans ht

theorem spares_setSetting : Spares (udcReqStdIfaceSetSetting s) fun r => KeepsCtrlreq s r.2 := by
  simp only [udcReqStdIfaceSetSetting]
  split
  · rfl
  · split
    · rfl
    · refine (spares_ifaceDisable _ s).bind fun r hr => ?_
      split
      · exact hr
      · exact (spares_ifaceEnable _ _ r.2).mono fun u hu => hu.trans hr

/-- GET_STATUS hands out a payload, and is an IN request. -/
theorem spares_epGetStatus (hin : uddSetupIsIn s.uddGCtrlreq.req = true) :
    Spares (udcReqStdEpGetStatus s) fun r => Unfilled s r.2 := by
  simp only [udcReqStdEpGetStatus]
  split
  · exact Unfilled.refl s
  · refine (spares_isHalted _ s).bind fun halted _ => ?_
    refine ⟨rfl, fun hout => ?_⟩
    rw [hin] at hout
    cases hout

theorem spares_epClearFeature : Spares (udcReqStdEpClearFeature s) fun r => KeepsCtrlreq s r.2 := by
  simp only [udcReqStdEpClearFeature]
  split
  · rfl
  · split
    · exact spares_clearHalt _ s
    · rfl

theorem spares_epSetFeature : Spares (udcReqStdEpSetFeature s) fun r => KeepsCtrlreq s r.2 := by
  simp only [udcReqStdEpSetFeature]
  split
  · rfl
  · split
    · refine (spares_abort _ s).bind fun t ht => ?_
      exact (spares_setHalt _ t).mono fun u hu => hu.trans ht
    · rfl

/-- `udc_reqstd` -/
theorem spares_reqstd (htype : uddSetupType s.uddGCtrlreq.req = usbReqTypeStandard) :
    Spares (udcReqstd s) fun r => Unfilled s r.2 := by
  have hcall {r : Except Fault (Bool × Firmware)} (h : Spares r fun r => KeepsCtrlreq s r.2) :
      Spares r fun r => Unfilled s r.2 := h.mono fun _ hr => hr.unfilled
  have hcalls := reqstd_calls htype
  generalize udcReqstd s = r at hcalls ⊢
  cases hcalls with
  | keeps hkeeps _ => exact hkeeps.unfilled
  | setConfiguration _ _ => exact hcall (spares_setConfiguration s)
  | setSetting _ _ => exact hcall (spares_setSetting s)
  | epGetStatus hin _ _ _ => exact spares_epGetStatus s hin
  | epClearFeature _ _ _ _ => exact hcall (spares_epClearFeature s)
  | epSetFeature _ _ _ _ => exact hcall (spares_epSetFeature s)

/-- **No handler gives an OUT request a payload**, in any state. -/
theorem spares_processSetup :
    Spares (udcProcessSetup s) fun r => Unfilled (udcClearCtrlreq s) r.2 := by
  generalize ht : udcClearCtrlreq s = t
  have hoffer {u : Firmware} (h : Unfilled t u) :
      Spares (.ok (udcOfferSetup u)) fun r => Unfilled t r.2 := h.trans (keeps_offerSetup u).unfilled
  simp only [udcProcessSetup, ht, pure_eq_ok]
  split
  · exact Unfilled.refl t
  · split
    · next htype =>
      refine (spares_reqstd t htype).bind fun r hr => ?_
      split
      · exact hr
      · exact hoffer hr
    · exact hoffer (Unfilled.refl t)

end Requests

/-! ## The step lemma -/

/-- What a SETUP packet leads to has no data stage with a payload. -/
theorem spares_setup (packet : Vector Byte 8) (s : Firmware) :
    Spares (device.step s (.setup packet)) Firmware.NoData := by
  rw [setup_step]
  refine (spares_processSetup (s.atSetup packet)).bind fun r hr => ?_
  rcases r with ⟨_ | _, t⟩
  · exact noData_stallData t
  · refine noData_accept fun hout => hr.payload ?_ rfl
    rw [← hr.req]
    exact hout

/-- A bus reset never leaves the tables, and ends the data stage. -/
theorem buseventReset_total (s : Firmware) :
    ∃ s', usbBuseventReset s = .ok s' ∧ s'.NoData := by
  have habort : ∃ t, uddEpAbort 1 s = .ok t := by
    have hep : IsEpOut 1 := by decide
    simp only [uddEpAbort, hep.getCtrl, hep.getJob, ok_bind, pure_eq_ok]
    split
    · split
      · exact ⟨_, rfl⟩
      · exact ⟨_, rfl⟩
    · exact ⟨_, rfl⟩
  obtain ⟨t, ht⟩ := habort
  obtain ⟨u, hu, _⟩ := udcReset_deconfigures (t.withPipe t.pipe.abort)
  obtain ⟨f, g, h, hrun⟩ := buseventReset_eq ht hu
  exact ⟨_, hrun, noData_ctrlInit _⟩

/-- **The step lemma.** Without a payload nothing is copied, and no step gives one. -/
theorem device_confines : device.Confines (fun f => ∀ n, f ≠ .hostWrite n) Firmware.NoData := by
  intro s e h
  cases e with
  | sof t =>
    have hstep : device.step s (.sof t) = mainSofAction t s := rfl
    rw [hstep, mainSofAction_eq]
    split
    · exact h
    · exact h
  | reset =>
    obtain ⟨s', hs, hdata⟩ := buseventReset_total s
    exact .of_ok hs hdata
  | collect => exact .of_ok (congrArg _ (hostCollect_eq s)) h
  | transferComplete => exact .of_ok (usbTrncomplVect_eq s) h
  | setup packet => exact spares_setup packet s
  | ctrlIn => exact noData_hostCtrlIn h
  | ctrlOut data =>
    obtain ⟨s', hs, _, hdata⟩ := hostCtrlOut_ok h data
    exact .of_ok hs hdata
  | underflow => exact noData_underflow h
  | overflow => exact noData_overflow h
  | unstall => exact h

/-! ## Faults -/

/-- A standard request that announces data from the host is refused. -/
theorem reqstd_data {s : Firmware} (hout : uddSetupIsIn s.uddGCtrlreq.req = false)
    (hlen : s.uddGCtrlreq.req.wLength ≠ 0) : udcReqstd s = .ok (false, s) := by
  simp only [udcReqstd, udcReqStdDevSetAddress, udcReqStdDevClearFeature, udcReqStdDevSetFeature,
    udcReqStdDevSetConfiguration, udcReqStdIfaceSetSetting, udcReqStdEpClearFeature,
    udcReqStdEpSetFeature, hout, if_pos hlen, Bool.false_eq_true, if_false, pure_eq_ok, ite_self]

/-- An OUT request with a data stage is for the interfaces. -/
theorem udcProcessSetup_data {s : Firmware} (hout : uddSetupIsIn s.uddGCtrlreq.req = false)
    (hlen : s.uddGCtrlreq.req.wLength ≠ 0) :
    udcProcessSetup s = .ok (udcOfferSetup (udcClearCtrlreq s)) := by
  have hout' : uddSetupIsIn (udcClearCtrlreq s).uddGCtrlreq.req = false := hout
  have hlen' : (udcClearCtrlreq s).uddGCtrlreq.req.wLength ≠ 0 := hlen
  simp only [udcProcessSetup, reqstd_data hout' hlen', hout', ok_bind, Bool.false_eq_true,
    false_and, if_false, pure_eq_ok, ite_self]

/-- **No fault starts a data stage**: only a SETUP packet can make a step fault, and its
request announces no data from the host. -/
theorem device_faults {s : Firmware} (h : s.NoData) {e : Event} {f : Fault}
    (hf : device.step s e = .error f) :
    ∃ packet, e = .setup packet ∧ (uddSetupIsIn (.ofPacket packet) = true ∨
      (UsbSetupReq.ofPacket packet).wLength = 0) := by
  have hok {s' : Firmware} (hs : device.step s e = .ok s') : False := by
    rw [hs] at hf
    cases hf
  cases e with
  | setup packet =>
    refine ⟨packet, rfl, ?_⟩
    by_contra hdata
    obtain ⟨hout, hlen⟩ := not_or.mp hdata
    rw [← atSetup_req packet s] at hout hlen
    rw [setup_step, udcProcessSetup_data (Bool.eq_false_of_not_eq_true hout) hlen] at hf
    cases hf
  | sof t =>
    have hstep : device.step s (.sof t) = mainSofAction t s := rfl
    rw [hstep, mainSofAction_eq] at hf
    split at hf
    · cases hf
    · cases hf
  | reset =>
    obtain ⟨s', hs, _⟩ := buseventReset_total s
    exact (hok hs).elim
  | transferComplete => exact (hok (usbTrncomplVect_eq s)).elim
  | ctrlOut data =>
    obtain ⟨s', hs, _⟩ := hostCtrlOut_cases h data
    exact (hok hs).elim
  | collect | ctrlIn | underflow | overflow | unstall => cases hf

/-! ## The HID state -/

/-- The state of the HID interface. -/
structure HidState where
  /-- `udi_hid_generic_rate` -/
  rate : Byte
  /-- `udi_hid_generic_protocol` -/
  protocol : Byte
  /-- `udi_hid_generic_b_report_in_free` -/
  bReportInFree : Bool
  /-- `udi_hid_generic_report_in` -/
  reportIn : Report
  /-- `main_b_generic_enable`, which the interface sets -/
  enable : Bool
  deriving DecidableEq, Repr

/-- The HID state of the firmware. -/
def Firmware.hidState (s : Firmware) : HidState where
  rate := s.udiHidGenericRate
  protocol := s.udiHidGenericProtocol
  bReportInFree := s.udiHidGenericBReportInFree
  reportIn := s.udiHidGenericReportIn
  enable := s.mainBGenericEnable

section Hid

variable (s : Firmware)

/-- Starting the control endpoint again leaves the HID state alone, -/
theorem hidState_ctrlInit : (uddCtrlInit s).hidState = s.hidState := rfl

/-- and so does the end of a request. -/
theorem hidState_endofrequest : (uddCtrlEndofrequest s).hidState = s.hidState := by
  obtain ⟨address, hend⟩ := endofrequest_eq s
  rw [hend]
  rfl

theorem hidState_restart : (uddCtrlRestart s).hidState = s.hidState := by
  rcases restart_cases s with hrestart | ⟨address, hrestart⟩
  · rw [hrestart]
  · rw [hrestart, hidState_ctrlInit]
    rfl

theorem hidState_atSetup (packet : Vector Byte 8) : (s.atSetup packet).hidState = s.hidState :=
  hidState_restart (hostSetup packet s)

theorem hidState_sendZlpIn : (uddCtrlSendZlpIn s).hidState = s.hidState := rfl

theorem hidState_hostData (data : OutPacket) : (hostData data s).hidState = s.hidState := rfl

theorem hidState_inSent : (uddCtrlInSent s).hidState = s.hidState := by
  simp only [uddCtrlInSent]
  split
  · rw [hidState_ctrlInit, hidState_endofrequest]
  · split
    · split
      · rfl
      · rfl
    · rfl

theorem hidState_accept : (uddCtrlAccept s).hidState = s.hidState := by
  rw [uddCtrlAccept]
  split
  · exact hidState_inSent _
  · split
    · rfl
    · rfl

theorem hidState_hostCtrlIn : (hostCtrlIn s).hidState = s.hidState := by
  rw [hostCtrlIn]
  split
  · exact hidState_inSent _
  · rfl

theorem hidState_underflow : (uddCtrlUnderflow s).hidState = s.hidState := by
  rw [uddCtrlUnderflow]
  split
  · rfl
  · split
    · rfl
    · rfl

theorem hidState_overflow : (uddCtrlOverflow s).hidState = s.hidState := by
  rw [uddCtrlOverflow]
  split
  · rfl
  · split
    · rfl
    · rfl

/-- Without a payload the data of an OUT request leaves it alone, and so does a handshake. -/
theorem hostCtrlOut_hidState {s : Firmware} (h : s.NoData) (data : OutPacket) :
    ∃ s', hostCtrlOut data s = .ok s' ∧ s'.hidState = s.hidState := by
  obtain ⟨s', hs, rfl | rfl | rfl⟩ := hostCtrlOut_cases h data
  · exact ⟨_, hs, rfl⟩
  · refine ⟨_, hs, ?_⟩
    rw [hidState_ctrlInit, hidState_endofrequest, hidState_hostData]
  · refine ⟨_, hs, ?_⟩
    rw [hidState_sendZlpIn]
    rfl

end Hid

/-! ## Class requests -/

/-- A class request in the direction from the host -/
def UsbSetupReq.classOut (req : UsbSetupReq) : Prop :=
  uddSetupType req = usbReqTypeClass ∧ uddSetupIsIn req = false

/-- SET_REPORT -/
def UsbSetupReq.setReport (req : UsbSetupReq) : Prop :=
  req.classOut ∧ req.bRequest = usbReqHidSetReport

instance (req : UsbSetupReq) : Decidable req.classOut := inferInstanceAs (Decidable (_ ∧ _))

instance (req : UsbSetupReq) : Decidable req.setReport := inferInstanceAs (Decidable (_ ∧ _))

/-- What an accepted class OUT request does to the HID state `h`: an empty SET_REPORT
nothing, SET_IDLE and SET_PROTOCOL set what they are named after. -/
def UsbSetupReq.HidEffect (req : UsbSetupReq) (h h' : HidState) : Prop :=
  req.bRequest = usbReqHidSetReport ∧ req.wLength = 0 ∧ h' = h ∨
    req.bRequest = usbReqHidSetIdle ∧ h' = { h with rate := (req.wValue >>> 8).setWidth 8 } ∨
      req.bRequest = usbReqHidSetProtocol ∧ h' = { h with protocol := req.wValue.setWidth 8 }

section ClassOut

variable {s u : Firmware}

/-- `udi_hid_setup` -/
theorem hidEffect_udiHidSetup (hout : uddSetupIsIn s.uddGCtrlreq.req = false)
    (h : udiHidSetup s = (true, u)) :
    s.uddGCtrlreq.req.HidEffect s.hidState u.hidState := by
  have hanswers := udiHidSetup_answers s
  generalize udiHidSetup s = r at hanswers h
  cases hanswers with
  | reject => cases h
  | getDescriptor hin => exact absurd hin (ne_true_of_eq_false hout)
  | getByte hin _ => exact absurd hin (ne_true_of_eq_false hout)
  | report hreq =>
    simp only [udiHidGenericSetreport] at h
    split at h
    · -- the feature report has no bytes, and takes none
      next hfeature =>
      cases h
      exact Or.inl ⟨hreq hout, hfeature.2.2.symm, rfl⟩
    · cases h
  | setIdle hreq =>
    cases h
    exact Or.inr (Or.inl ⟨hreq, rfl⟩)
  | setProtocol hreq =>
    cases h
    exact Or.inr (Or.inr ⟨hreq, rfl⟩)

theorem IfaceAccepts.hidEffect (h : IfaceAccepts s u)
    (hout : uddSetupIsIn s.uddGCtrlreq.req = false) :
    s.uddGCtrlreq.req.HidEffect s.hidState u.hidState := by
  obtain ⟨ptr, hptr⟩ := h
  exact hidEffect_udiHidSetup (s := { s with udcPtrIface := ptr }) hout hptr

/-- **Class OUT requests** are answered in every state. -/
theorem udcProcessSetup_classOut (hclass : s.uddGCtrlreq.req.classOut) :
    ∃ accepted u, udcProcessSetup s = .ok (accepted, u) ∧
      (accepted = true → s.uddGCtrlreq.req.HidEffect s.hidState u.hidState) := by
  have hne : usbReqTypeClass ≠ usbReqTypeStandard := by decide
  generalize ht : udcClearCtrlreq s = t
  have hreq : s.uddGCtrlreq.req = t.uddGCtrlreq.req := by rw [← ht]; rfl
  have hhid : s.hidState = t.hidState := by rw [← ht]; rfl
  rw [hreq] at hclass
  rw [hreq, hhid]
  simp only [udcProcessSetup, ht, hclass.1, hclass.2, if_neg hne, ok_bind, Bool.false_eq_true,
    false_and, if_false, pure_eq_ok]
  rcases hoffer : udcOfferSetup t with ⟨accepted, u⟩
  refine ⟨accepted, u, rfl, fun haccept => ?_⟩
  rw [haccept] at hoffer
  exact (offerSetup_accepts hoffer).hidEffect hclass.2

/-- SET_REPORT with a data stage is refused. -/
theorem setReport_refused {packet : Vector Byte 8} (h : (UsbSetupReq.ofPacket packet).setReport)
    (hlen : (UsbSetupReq.ofPacket packet).wLength ≠ 0) :
    ∃ u, udcProcessSetup (s.atSetup packet) = .ok (false, u) := by
  rw [← atSetup_req packet s] at h hlen
  obtain ⟨_ | _, u, hrun, heffect⟩ := udcProcessSetup_classOut h.1
  · exact ⟨u, hrun⟩
  · -- only an empty SET_REPORT is accepted
    rcases heffect rfl with ⟨_, hempty, _⟩ | ⟨hreq, _⟩ | ⟨hreq, _⟩
    · exact absurd hempty hlen
    · exact absurd (h.2.symm.trans hreq) (by decide)
    · exact absurd (h.2.symm.trans hreq) (by decide)

/-- An accepted class OUT request sets the rate or the protocol, if anything. -/
theorem classOut_hidState {packet : Vector Byte 8} (h : (UsbSetupReq.ofPacket packet).classOut)
    (haccept : udcProcessSetup (s.atSetup packet) = .ok (true, u)) :
    ∃ s', device.step s (.setup packet) = .ok s' ∧
      ((∃ rate, s'.hidState = { s.hidState with rate := rate }) ∨
        ∃ protocol, s'.hidState = { s.hidState with protocol := protocol }) := by
  have hstep : device.step s (.setup packet) = .ok (uddCtrlAccept u) := by
    rw [setup_step, haccept]
    rfl
  rw [← atSetup_req packet s] at h
  obtain ⟨accepted, v, hrun, heffect⟩ := udcProcessSetup_classOut h
  rw [haccept] at hrun
  obtain ⟨rfl, rfl⟩ := Prod.mk.inj (Except.ok.inj hrun)
  refine ⟨_, hstep, ?_⟩
  rw [hidState_accept, ← hidState_atSetup s packet]
  rcases heffect rfl with ⟨_, _, hsame⟩ | ⟨_, hrate⟩ | ⟨_, hprotocol⟩
  · exact Or.inl ⟨_, hsame⟩
  · exact Or.inl ⟨_, hrate⟩
  · exact Or.inr ⟨_, hprotocol⟩

end ClassOut

/-! ## Runs -/

/-- The stages of a control transfer that follow its SETUP packet. -/
def Event.isStage : Event → Prop
  | .ctrlIn | .ctrlOut _ | .underflow | .overflow | .unstall => True
  | _ => False

/-- The control endpoint is not waiting for data from the host. -/
def Firmware.OutsideData (s : Firmware) : Prop := s.uddEpControlState ≠ .dataOut

instance (s : Firmware) : Decidable s.OutsideData := inferInstanceAs (Decidable (_ ≠ _))

/-- What the host sends after a SETUP packet is not written anywhere, and what a class
request sets is the rate or the protocol. -/
structure Firmware.WritesNothing (s : Firmware) : Prop where
  /-- a data stage has no payload, -/
  payloadSize : s.uddEpControlState = .dataOut → s.uddGCtrlreq.payloadSize = 0
  /-- and copies nothing of the packet it is sent -/
  nbData : s.uddEpControlState = .dataOut → ∀ data, uddCtrlNbData (hostData data s) = 0
  /-- no step copies a byte -/
  spares : ∀ e n, device.step s e ≠ .error (.hostWrite n)
  /-- SET_REPORT is refused if it announces data -/
  setReport : ∀ packet, (UsbSetupReq.ofPacket packet).setReport →
    (UsbSetupReq.ofPacket packet).wLength ≠ 0 →
    ∃ u, udcProcessSetup (s.atSetup packet) = .ok (false, u)
  /-- an accepted class OUT request changes the rate or the protocol, and no other HID state -/
  classOut : ∀ packet u, (UsbSetupReq.ofPacket packet).classOut →
    udcProcessSetup (s.atSetup packet) = .ok (true, u) →
    ∃ s', device.step s (.setup packet) = .ok s' ∧
      ((∃ rate, s'.hidState = { s.hidState with rate := rate }) ∨
        ∃ protocol, s'.hidState = { s.hidState with protocol := protocol })
  /-- and the stages that follow change none -/
  stages : ∀ e : Event, e.isStage → ∃ s', device.step s e = .ok s' ∧ s'.hidState = s.hidState

theorem Firmware.NoData.writesNothing {s : Firmware} (h : s.NoData) : s.WritesNothing where
  payloadSize hdata := (h hdata).1
  nbData hdata data := by
    have hnoData : (hostData data s).NoData := h
    exact hnoData.nbData_eq_zero hdata
  spares e n hwrite := (device_confines s e h).fault hwrite n rfl
  setReport _ hset hlen := setReport_refused hset hlen
  classOut _ _ hclass haccept := classOut_hidState hclass haccept
  stages e he := by
    cases e with
    | ctrlIn => exact ⟨_, rfl, hidState_hostCtrlIn s⟩
    | ctrlOut data => exact hostCtrlOut_hidState h data
    | underflow => exact ⟨_, rfl, hidState_underflow s⟩
    | overflow => exact ⟨_, rfl, hidState_overflow s⟩
    | unstall => exact ⟨_, rfl, rfl⟩
    | sof _ | reset | collect | transferComplete | setup _ => exact he.elim

/-- **The host writes nothing through the control endpoint.** Start in any state outside a
data stage, whatever the endpoint tables, the configuration and `payload` are, and let
the events come in any order. After a fault the firmware may go on in any state outside
a data stage (`device_faults`). -/
theorem host_writes_nothing {s t : Firmware} {es : List Event} (h : s.OutsideData)
    (hrun : device.Resumes Firmware.OutsideData s es t) : t.WritesNothing := by
  have hdata : t.NoData := device_confines.resumes (fun _ => .of_ne) hrun (.of_ne h)
  exact hdata.writesNothing

/-- GET_CONFIGURATION, its data and its handshake -/
def readConfiguration : List Event :=
  [.setup #v[0x80, 8, 0, 0, 0, 0, 1, 0], .ctrlIn, .ctrlOut ⟨[], by decide⟩]

/-- SET_IDLE with a data stage of 64 bytes -/
def setIdle64 : Event := .setup #v[0x21, 0x0A, 0, 5, 0, 0, 64, 0]

/-- After GET_CONFIGURATION the data stage of SET_IDLE finds `payload` at
`udc_num_configuration`. -/
theorem host_writes_nothing_setIdle64 :
    ∃ t, device.run Firmware.powerOn (enumeration ++ readConfiguration ++ [setIdle64]) = .ok t ∧
      t.uddEpControlState = .dataOut ∧ t.uddGCtrlreq.payload = ⟨.udcNumConfiguration, 0⟩ ∧
      t.WritesNothing := by
  have hrun : ∃ t,
      device.run Firmware.powerOn (enumeration ++ readConfiguration ++ [setIdle64]) = .ok t ∧
      t.uddEpControlState = .dataOut ∧ t.uddGCtrlreq.payload = ⟨.udcNumConfiguration, 0⟩ :=
    ⟨_, rfl, by decide +kernel, by decide +kernel⟩
  obtain ⟨t, ht, hstate, hpayload⟩ := hrun
  have hidle : Firmware.powerOn.OutsideData := by decide
  exact ⟨t, ht, hstate, hpayload, host_writes_nothing hidle (.of_run ht)⟩

end HidJoystick
