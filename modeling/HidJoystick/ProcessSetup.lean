import HidJoystick.Requests

/-!
# Decoding a SETUP packet

`udcProcessSetup_responds`: in a consistent state a request that stays inside the
endpoint tables is answered, and does to the report pipe what `pipeRequest` says.
`udcProcessSetup_strays`: the others leave the tables.
-/

namespace HidJoystick

variable {s : Firmware}

/-! ## Requests to endpoints -/

/-- Changing another endpoint table entry. -/
theorem keeps_modifyCtrl {c : Fin 4} (hc : c ≠ epInCtrl) (f : UsbEp → UsbEp) (s : Firmware) :
    Keeps s (s.modifyCtrl c f) := by
  refine ⟨?_, rfl, rfl, rfl, rfl, fun _ h => h⟩
  rw [Firmware.pipe, Firmware.ctrl_modifyCtrl_of_ne hc]
  rfl

/-- Changing the entry of endpoint 1 OUT. -/
theorem keeps_modifyEpOut (f : UsbEp → UsbEp) (s : Firmware) : Keeps s (s.modifyCtrl epOutCtrl f) :=
  keeps_modifyCtrl (by decide) f s

/-- `udd_ep_abort` of endpoint 1 OUT, which never has a job -/
theorem uddEpAbort_epOut {ep : Byte} (h : IsEpOut ep) (hjob : (s.job epOutJob).busy = false) :
    uddEpAbort ep s = .ok (s.modifyCtrl epOutCtrl uddEndpointSetNACK0) := by
  simp only [uddEpAbort, h.getCtrl, h.getJob, ok_bind, pure_eq_ok]
  simp [hjob]

/-- The endpoints of the driver: 1 IN, 1 OUT, and the two halves of endpoint 0. -/
theorem UsbSetupReq.ep_cases {req : UsbSetupReq} (h : req.epNumber < 2) :
    IsEpIn req.ep ∨ IsEpOut req.ep ∨ req.ep &&& usbEpAddrMask = 0 := by
  have hnum : (req.ep &&& usbEpAddrMask).toNat = 0 ∨ (req.ep &&& usbEpAddrMask).toNat = 1 := by
    rw [epNumber] at h
    omega
  rcases hnum with h0 | h1
  · exact Or.inr (Or.inr (BitVec.eq_of_toNat_eq h0))
  · rcases isEpIn_or_isEpOut (BitVec.eq_of_toNat_eq h1) with h | h
    · exact Or.inl h
    · exact Or.inr (Or.inl h)

theorem UsbSetupReq.epNumber_of_isEpIn {req : UsbSetupReq} (h : IsEpIn req.ep) :
    req.epNumber = 1 := by
  rw [epNumber]
  revert h
  generalize req.ep = ep
  revert ep
  decide

/-- `udc_req_std_ep_get_status` -/
theorem epGetStatus_ignores (hin : uddSetupIsIn s.uddGCtrlreq.req = true)
    (hep : s.uddGCtrlreq.req.wLength = 2 → s.uddGCtrlreq.req.epNumber < 2) :
    Ignores (udcReqStdEpGetStatus s) s := by
  by_cases hlen : s.uddGCtrlreq.req.wLength = 2
  · obtain ⟨c, hc⟩ : ∃ c, uddEpGetCtrl s.uddGCtrlreq.req.ep = .ok c := by
      rcases UsbSetupReq.ep_cases (hep hlen) with h | h | h
      · exact ⟨_, h.getCtrl⟩
      · exact ⟨_, h.getCtrl⟩
      · exact ⟨_, uddEpGetCtrl_zero h⟩
    simp only [udcReqStdEpGetStatus, hlen, ne_eq, not_true_eq_false, if_false, uddEpIsHalted, hc,
      ok_bind, pure_eq_ok]
    exact .of_keeps ⟨rfl, rfl, rfl, rfl, rfl, fun hout => by rw [hin] at hout; cases hout⟩
  · simp only [udcReqStdEpGetStatus, hlen, ne_eq, not_false_eq_true, if_true, pure_eq_ok]
    exact ignores_reject s

/-- `udc_req_std_ep_clear_feature` of another endpoint -/
theorem epClearFeature_ignores (hjob : (s.job epOutJob).busy = false)
    (hep : ¬ IsEpIn s.uddGCtrlreq.req.ep) (hnum : s.uddGCtrlreq.req.epNumber < 2)
    (hctrl : s.uddGCtrlreq.req.epNumber = 0 →
      (s.ctrl s.uddGCtrlreq.req.ctrlHalf).stall = false) :
    Ignores (uddEpClearHalt s.uddGCtrlreq.req.ep s) s := by
  rcases UsbSetupReq.ep_cases hnum with h | h | h
  · exact absurd h hep
  · have hclear := keeps_modifyEpOut uddEndpointClearDtgl s
    simp only [uddEpClearHalt, h.getCtrl, h.getJob, ok_bind, pure_eq_ok]
    split
    · exact .of_keeps hclear
    · rw [if_neg (by simp [hjob])]
      exact .of_keeps (hclear.trans (keeps_modifyEpOut _ _))
  · have hhalf : uddEpGetCtrl s.uddGCtrlreq.req.ep = .ok s.uddGCtrlreq.req.ctrlHalf :=
      uddEpGetCtrl_zero h
    have hne : s.uddGCtrlreq.req.ctrlHalf ≠ epInCtrl := by
      rw [UsbSetupReq.ctrlHalf]
      split <;> decide
    have hstall := hctrl (by rw [UsbSetupReq.epNumber, h]; rfl)
    simp only [uddEpClearHalt, hhalf, ok_bind, pure_eq_ok]
    rw [if_pos (by simpa [uddEndpointClearDtgl] using hstall)]
    exact .of_keeps (keeps_modifyCtrl hne _ s)

/-- `udc_req_std_ep_set_feature` of endpoint 1 OUT -/
theorem epSetFeature_ignores (hjob : (s.job epOutJob).busy = false)
    (hep : IsEpOut s.uddGCtrlreq.req.ep) : Ignores (udcReqStdEpSetFeature s) s := by
  have habort (t : Firmware) (ht : (t.job epOutJob).busy = false) := uddEpAbort_epOut hep ht
  simp only [udcReqStdEpSetFeature]
  split
  · exact ignores_reject s
  · split
    · rw [habort s hjob, ok_bind, uddEpSetHalt]
      simp only [Firmware.modifyCtrl_uddGCtrlreq, hep.getCtrl, ok_bind]
      rw [habort _ (by simpa using hjob)]
      have hhalted := (keeps_modifyEpOut uddEndpointSetNACK0 s).trans
        (keeps_modifyEpOut uddEndpointEnableStall _)
      exact .of_keeps (hhalted.trans (keeps_modifyEpOut uddEndpointSetNACK0 _))
    · exact ignores_reject s

/-- `udc_req_std_ep_set_feature` of EP 0x81 -/
theorem epSetFeature_halts (hep : IsEpIn s.uddGCtrlreq.req.ep)
    (hlen : s.uddGCtrlreq.req.wLength = 0) (hvalue : s.uddGCtrlreq.req.wValue = usbEpFeatureHalt) :
    Answers (udcReqStdEpSetFeature s) true Pipe.halt s := by
  have hset : uddEpSetHalt (s.withPipe s.pipe.abort).uddGCtrlreq.req.ep (s.withPipe s.pipe.abort) =
      .ok (true, s.withPipe s.pipe.halt) := by
    rw [Firmware.withPipe_uddGCtrlreq]
    exact uddEpSetHalt_epIn hep s
  simp only [udcReqStdEpSetFeature, hlen, hvalue, ne_eq, not_true_eq_false, if_false, if_true,
    uddEpAbort_epIn hep, ok_bind, hset]
  exact ⟨_, rfl, Keeps.withPipe (Keeps.refl s) Pipe.halt⟩

/-- `udc_req_std_ep_clear_feature` of EP 0x81 -/
theorem epClearFeature_clears (hpipe : s.pipe.Consistent) (hep : IsEpIn s.uddGCtrlreq.req.ep)
    (hlen : s.uddGCtrlreq.req.wLength = 0) (hvalue : s.uddGCtrlreq.req.wValue = usbEpFeatureHalt) :
    Answers (udcReqStdEpClearFeature s) true Pipe.clearHalt s := by
  simp only [udcReqStdEpClearFeature, hlen, hvalue, ne_eq, not_true_eq_false, if_false, if_true,
    uddEpClearHalt_epIn hep s fun hbusy => (hpipe.busy hbusy).unhalted]
  exact ⟨_, rfl, Keeps.withPipe (Keeps.refl s) Pipe.clearHalt⟩

/-! ## Configurations and interfaces -/

/-- `udc_req_std_dev_set_configuration`, once it has passed its checks -/
theorem setConfiguration_configures (hpipe : s.pipe.Consistent)
    (hlen : s.uddGCtrlreq.req.wLength = 0) (haddr : uddGetaddress s ≠ 0)
    (hnum : ¬ s.uddGCtrlreq.req.wValue &&& 0xFF > udcDeviceDescBNumConfigurations.setWidth 16) :
    Answers (udcReqStdDevSetConfiguration s) true
      (Pipe.configure ((s.uddGCtrlreq.req.wValue &&& 0xFF).setWidth 8)) s := by
  generalize hn : (s.uddGCtrlreq.req.wValue &&& 0xFF).setWidth 8 = n
  have hnums : udcIfaceNums = [0] := by decide
  obtain ⟨t, ht, hdoes⟩ := udcReset_deconfigures s
  have hnumConf := hdoes.comp (Does.numConf n t)
  simp only [udcReqStdDevSetConfiguration, hlen, haddr, hnum, ne_eq, not_true_eq_false, if_false,
    ht, ok_bind, hn, pure_eq_ok, hnums, udcEnableIfaces]
  by_cases hzero : n = 0
  · rw [if_pos hzero]
    refine ⟨_, rfl, hnumConf.congr ?_⟩
    rw [Pipe.configure, if_pos hzero]
  · have hfree : uddEndpointIsEnable { t with udcNumConfiguration := n }.pipe.ep = false := by
      rw [hnumConf.pipe]
      exact hpipe.isEnable_deconfigure
    obtain ⟨u, hu, hattach⟩ := udcIfaceEnable_attaches (show _ ≠ _ from hzero) hfree
    have hall := hnumConf.comp hattach
    simp only [if_neg hzero, hu, ok_bind, Bool.not_true, Bool.false_eq_true, if_false]
    refine ⟨u, rfl, hall.congr ?_⟩
    rw [Pipe.configure, if_neg hzero]

/-- `udc_req_std_iface_set_setting` of interface 0 in the configured state -/
theorem setSetting_selects (hlen : s.uddGCtrlreq.req.wLength = 0) (hconf : s.udcNumConfiguration ≠ 0)
    (hiface : (s.uddGCtrlreq.req.wIndex &&& 0xFF).setWidth 8 = (0 : Byte)) :
    Answers (udcReqStdIfaceSetSetting s)
      ((s.uddGCtrlreq.req.wValue &&& 0xFF).setWidth 8 == (0 : Byte))
      (Pipe.setInterface ((s.uddGCtrlreq.req.wValue &&& 0xFF).setWidth 8)) s := by
  generalize hn : (s.uddGCtrlreq.req.wValue &&& 0xFF).setWidth 8 = n
  obtain ⟨t, ht, hrelease⟩ := udcIfaceDisable_releases hconf
  have hconf' : t.udcNumConfiguration ≠ 0 := by
    have : t.pipe.numConf = s.pipe.numConf := by rw [hrelease.pipe, Pipe.release_numConf]
    exact fun h => hconf (this.symm.trans h)
  have hfree : uddEndpointIsEnable t.pipe.ep = false := by rw [hrelease.pipe]; rfl
  simp only [udcReqStdIfaceSetSetting, hlen, hconf, hiface, hn, ne_eq, not_true_eq_false, if_false,
    ht, ok_bind, Bool.not_true, Bool.false_eq_true]
  by_cases hzero : n = 0
  · subst hzero
    obtain ⟨u, hu, hattach⟩ := udcIfaceEnable_attaches hconf' hfree
    exact ⟨u, hu, (hrelease.comp hattach).congr rfl⟩
  · obtain ⟨u, hu, hkeeps⟩ := udcIfaceEnable_absent (s := t) hzero
    -- the interface has been given up before the setting is looked for
    have hfalse : (n == 0) = false := by simpa using hzero
    rw [hfalse]
    refine ⟨u, hu, (hrelease.then_keeps hkeeps).congr ?_⟩
    rw [Pipe.setInterface, if_neg hzero]

/-- `udc_req_std_iface_set_setting` otherwise -/
theorem setSetting_ignores (h : ¬ (s.uddGCtrlreq.req.wLength = 0 ∧ s.udcNumConfiguration ≠ 0 ∧
      (s.uddGCtrlreq.req.wIndex &&& 0xFF).setWidth 8 = (0 : Byte))) :
    Ignores (udcReqStdIfaceSetSetting s) s := by
  simp only [udcReqStdIfaceSetSetting]
  split
  · exact ignores_reject s
  · next hlen =>
    split
    · exact ignores_reject s
    · next hconf =>
      rw [udcIfaceDisable_absent (Or.inr fun hiface => h ⟨not_not.mp hlen, hconf, hiface⟩)]
      exact ignores_reject s

/-! ## The decoder -/

/-- A handler ran and did to the pipe what `request` asks of it. -/
def Responds (r : Except Fault (Bool × Firmware)) (request : PipeRequest) (s : Firmware) : Prop :=
  ∃ accepted s', r = .ok (accepted, s') ∧ Does (Pipe.request request) s s' ∧
    (request ≠ .keep → accepted = request.accepted)

theorem Ignores.responds {r : Except Fault (Bool × Firmware)} (h : Ignores r s) :
    Responds r .keep s := by
  obtain ⟨accepted, s', hr, hkeeps⟩ := h
  exact ⟨accepted, s', hr, hkeeps, fun hne => absurd rfl hne⟩

theorem Answers.responds {r : Except Fault (Bool × Firmware)} {request : PipeRequest}
    (h : Answers r request.accepted (Pipe.request request) s) : Responds r request s := by
  obtain ⟨s', hr, hdoes⟩ := h
  exact ⟨_, s', hr, hdoes, fun _ => rfl⟩

/-- `udc_req_std_dev_set_configuration` -/
theorem setConfiguration_responds (hpipe : s.pipe.Consistent)
    (hreq : s.uddGCtrlreq.req.bRequest = usbReqSetConfiguration) :
    Responds (udcReqStdDevSetConfiguration s) s.devRequest s := by
  by_cases hlen : s.uddGCtrlreq.req.wLength = 0
  · by_cases haddr : uddGetaddress s = 0
    · simp only [udcReqStdDevSetConfiguration, Firmware.devRequest, hlen, haddr, ne_eq,
        not_true_eq_false, if_false, if_true, false_and, and_false, pure_eq_ok]
      exact (ignores_reject s).responds
    · by_cases hnum : s.uddGCtrlreq.req.wValue &&& 0xFF >
        udcDeviceDescBNumConfigurations.setWidth 16
      · simp only [udcReqStdDevSetConfiguration, Firmware.devRequest, hlen, haddr, hnum, ne_eq,
          not_true_eq_false, if_false, if_true, and_false, pure_eq_ok]
        exact (ignores_reject s).responds
      · rw [Firmware.devRequest, if_pos ⟨hreq, hlen, haddr, hnum⟩]
        exact Answers.responds (setConfiguration_configures hpipe hlen haddr hnum)
  · simp only [udcReqStdDevSetConfiguration, Firmware.devRequest, hlen, ne_eq, not_false_eq_true,
      if_true, false_and, and_false, if_false, pure_eq_ok]
    exact (ignores_reject s).responds

/-- `udc_req_std_iface_set_setting` -/
theorem setSetting_responds (hreq : s.uddGCtrlreq.req.bRequest = usbReqSetInterface) :
    Responds (udcReqStdIfaceSetSetting s) s.ifaceRequest s := by
  by_cases h : s.uddGCtrlreq.req.wLength = 0 ∧ s.udcNumConfiguration ≠ 0 ∧
      (s.uddGCtrlreq.req.wIndex &&& 0xFF).setWidth 8 = (0 : Byte)
  · rw [Firmware.ifaceRequest, if_pos ⟨hreq, h⟩]
    exact Answers.responds (setSetting_selects h.1 h.2.1 h.2.2)
  · rw [Firmware.ifaceRequest, if_neg fun h' => h h'.2]
    exact (setSetting_ignores h).responds

/-- `udc_req_std_ep_clear_feature` -/
theorem epClearFeature_responds (hpipe : s.pipe.Consistent) (hjob : (s.job epOutJob).busy = false)
    (hout : uddSetupIsIn s.uddGCtrlreq.req = false) (hep : s.uddGCtrlreq.req.standardEp)
    (hreq : s.uddGCtrlreq.req.bRequest = usbReqClearFeature) (hstays : ¬ s.strays) :
    Responds (udcReqStdEpClearFeature s) s.epRequest s := by
  by_cases h : s.uddGCtrlreq.req.wLength = 0 ∧ s.uddGCtrlreq.req.wValue = usbEpFeatureHalt
  · by_cases hin : IsEpIn s.uddGCtrlreq.req.ep
    · rw [Firmware.epRequest, if_pos ⟨hin, h⟩, if_pos hreq]
      exact Answers.responds (epClearFeature_clears hpipe hin h.1 h.2)
    · -- a request that stays inside names endpoint 1 OUT or a half that is not halted
      have hnum : s.uddGCtrlreq.req.epNumber < 2 := by
        by_contra hnum
        exact hstays ⟨hep, Or.inr (Or.inl ⟨hout, hreq, h.1, h.2, Or.inl (by omega)⟩)⟩
      have hctrl (hzero : s.uddGCtrlreq.req.epNumber = 0) :
          (s.ctrl s.uddGCtrlreq.req.ctrlHalf).stall = false := by
        by_contra hstall
        exact hstays ⟨hep, Or.inr (Or.inl ⟨hout, hreq, h.1, h.2,
          Or.inr ⟨hzero, Bool.eq_true_of_not_eq_false hstall⟩⟩)⟩
      rw [Firmware.epRequest, if_neg fun h' => hin h'.1, udcReqStdEpClearFeature,
        if_neg (not_not.mpr h.1), if_pos h.2]
      exact (epClearFeature_ignores hjob hin hnum hctrl).responds
  · rw [Firmware.epRequest, if_neg fun h' => h h'.2, udcReqStdEpClearFeature]
    refine Ignores.responds ?_
    split
    · exact ignores_reject s
    · next hlen =>
      rw [if_neg fun hvalue => h ⟨not_not.mp hlen, hvalue⟩]
      exact ignores_reject s

/-- `udc_req_std_ep_set_feature` -/
theorem epSetFeature_responds (hjob : (s.job epOutJob).busy = false)
    (hout : uddSetupIsIn s.uddGCtrlreq.req = false) (hep : s.uddGCtrlreq.req.standardEp)
    (hreq : s.uddGCtrlreq.req.bRequest = usbReqSetFeature) (hstays : ¬ s.strays) :
    Responds (udcReqStdEpSetFeature s) s.epRequest s := by
  by_cases h : s.uddGCtrlreq.req.wLength = 0 ∧ s.uddGCtrlreq.req.wValue = usbEpFeatureHalt
  · -- `udd_ep_abort` looks for a job, and only endpoint 1 has one
    have hnum : s.uddGCtrlreq.req.epNumber = 1 := by
      by_contra hnum
      exact hstays ⟨hep, Or.inr (Or.inr ⟨hout, hreq, h.1, h.2, hnum⟩)⟩
    rcases isEpIn_or_isEpOut (BitVec.eq_of_toNat_eq hnum) with hin | hin
    · rw [Firmware.epRequest, if_pos ⟨hin, h⟩, if_neg (by rw [hreq]; decide), if_pos hreq]
      exact Answers.responds (epSetFeature_halts hin h.1 h.2)
    · have hnot : ¬ IsEpIn s.uddGCtrlreq.req.ep := by
        intro h'
        rw [IsEpIn, hin] at h'
        exact absurd h' (by decide)
      rw [Firmware.epRequest, if_neg fun h' => hnot h'.1]
      exact (epSetFeature_ignores hjob hin).responds
  · rw [Firmware.epRequest, if_neg fun h' => h h'.2, udcReqStdEpSetFeature]
    refine Ignores.responds ?_
    split
    · exact ignores_reject s
    · next hlen =>
      rw [if_neg fun hvalue => h ⟨not_not.mp hlen, hvalue⟩]
      exact ignores_reject s

/-- Requests that no handler takes ask nothing of the pipe. -/
theorem devRequest_of_ne (h : s.uddGCtrlreq.req.bRequest ≠ usbReqSetConfiguration) :
    s.devRequest = .keep := if_neg fun h' => h h'.1

theorem ifaceRequest_of_ne (h : s.uddGCtrlreq.req.bRequest ≠ usbReqSetInterface) :
    s.ifaceRequest = .keep := if_neg fun h' => h h'.1

theorem epRequest_of_ne (h : s.uddGCtrlreq.req.bRequest ≠ usbReqClearFeature)
    (h' : s.uddGCtrlreq.req.bRequest ≠ usbReqSetFeature) : s.epRequest = .keep := by
  simp only [Firmware.epRequest, if_neg h, if_neg h', ite_self]

/-- What `udc_reqstd` does with a request: a handler that leaves the pipe alone, for a
request that asks nothing of it, or one of the handlers that reach further. -/
inductive ReqstdCalls (s : Firmware) : Except Fault (Bool × Firmware) → Prop where
  | keeps {r : Bool × Firmware} : Keeps s r.2 → s.pipeRequest = .keep → ReqstdCalls s (.ok r)
  | setConfiguration : s.uddGCtrlreq.req.bRequest = usbReqSetConfiguration →
    s.pipeRequest = s.devRequest → ReqstdCalls s (udcReqStdDevSetConfiguration s)
  | setSetting : s.uddGCtrlreq.req.bRequest = usbReqSetInterface →
    s.pipeRequest = s.ifaceRequest → ReqstdCalls s (udcReqStdIfaceSetSetting s)
  | epGetStatus : uddSetupIsIn s.uddGCtrlreq.req = true → s.uddGCtrlreq.req.standardEp →
    s.uddGCtrlreq.req.bRequest = usbReqGetStatus → s.pipeRequest = .keep →
    ReqstdCalls s (udcReqStdEpGetStatus s)
  | epClearFeature : uddSetupIsIn s.uddGCtrlreq.req = false → s.uddGCtrlreq.req.standardEp →
    s.uddGCtrlreq.req.bRequest = usbReqClearFeature → s.pipeRequest = s.epRequest →
    ReqstdCalls s (udcReqStdEpClearFeature s)
  | epSetFeature : uddSetupIsIn s.uddGCtrlreq.req = false → s.uddGCtrlreq.req.standardEp →
    s.uddGCtrlreq.req.bRequest = usbReqSetFeature → s.pipeRequest = s.epRequest →
    ReqstdCalls s (udcReqStdEpSetFeature s)

/-- `udc_reqstd`, request by request -/
theorem reqstd_calls (htype : uddSetupType s.uddGCtrlreq.req = usbReqTypeStandard) :
    ReqstdCalls s (udcReqstd s) := by
  have hreject (hkeep : s.pipeRequest = .keep) : ReqstdCalls s (.ok (false, s)) :=
    .keeps (Keeps.refl s) hkeep
  by_cases hin : uddSetupIsIn s.uddGCtrlreq.req = true
  · have hkeep : s.pipeRequest = .keep := if_pos (Or.inr hin)
    simp only [udcReqstd, hin, if_true, pure_eq_ok]
    split
    · exact hreject hkeep
    · split
      · split
        · exact .keeps (keeps_devGetStatus hin) hkeep
        · split
          · exact .keeps (keeps_devGetDescriptor hin) hkeep
          · split
            · exact .keeps (keeps_devGetConfiguration hin) hkeep
            · exact hreject hkeep
      · split
        · split
          · exact .keeps (keeps_ifaceGetSetting hin) hkeep
          · exact hreject hkeep
        · split
          · next hrecip =>
            split
            · next hreq => exact .epGetStatus hin ⟨htype, hrecip⟩ hreq hkeep
            · exact hreject hkeep
          · exact hreject hkeep
  · have hout := Bool.eq_false_of_not_eq_true hin
    have hpipe : ¬ (uddSetupType s.uddGCtrlreq.req ≠ usbReqTypeStandard ∨
        uddSetupIsIn s.uddGCtrlreq.req = true) := not_or.mpr ⟨not_not.mpr htype, hin⟩
    simp only [udcReqstd, hout, Bool.false_eq_true, if_false, pure_eq_ok]
    split
    · next hrecip =>
      have hdev : s.pipeRequest = s.devRequest := by
        rw [Firmware.pipeRequest, if_neg hpipe, if_pos hrecip]
      have hkeep {b : Byte} (hreq : s.uddGCtrlreq.req.bRequest = b)
          (hne : b ≠ usbReqSetConfiguration) : s.pipeRequest = .keep :=
        hdev.trans (devRequest_of_ne (hreq ▸ hne))
      split
      · next hreq => exact .keeps (keeps_devSetAddress s) (hkeep hreq (by decide))
      · split
        · next hreq => exact .keeps (keeps_devClearFeature s) (hkeep hreq (by decide))
        · split
          · next hreq => exact .keeps (keeps_devSetFeature s) (hkeep hreq (by decide))
          · split
            · next hreq => exact .setConfiguration hreq hdev
            · next hreq => exact hreject (hkeep rfl hreq)
    · next hdevice =>
      split
      · next hrecip =>
        have hiface : s.pipeRequest = s.ifaceRequest := by
          rw [Firmware.pipeRequest, if_neg hpipe, if_neg hdevice, if_pos hrecip]
        split
        · next hreq => exact .setSetting hreq hiface
        · next hreq => exact hreject (hiface.trans (ifaceRequest_of_ne hreq))
      · next hinterface =>
        split
        · next hrecip =>
          have hep : s.pipeRequest = s.epRequest := by
            rw [Firmware.pipeRequest, if_neg hpipe, if_neg hdevice, if_neg hinterface,
              if_pos hrecip]
          split
          · next hreq => exact .epClearFeature hout ⟨htype, hrecip⟩ hreq hep
          · next hclear =>
            split
            · next hreq => exact .epSetFeature hout ⟨htype, hrecip⟩ hreq hep
            · next hset => exact hreject (hep.trans (epRequest_of_ne hclear hset))
        · next hendpoint =>
          refine hreject ?_
          rw [Firmware.pipeRequest, if_neg hpipe, if_neg hdevice, if_neg hinterface,
            if_neg hendpoint]

/-- `udc_reqstd` -/
theorem reqstd_responds (hpipe : s.pipe.Consistent) (hjob : (s.job epOutJob).busy = false)
    (htype : uddSetupType s.uddGCtrlreq.req = usbReqTypeStandard) (hstays : ¬ s.strays) :
    Responds (udcReqstd s) s.pipeRequest s := by
  have hcalls := reqstd_calls htype
  generalize udcReqstd s = r at hcalls ⊢
  cases hcalls with
  | keeps hkeeps hasks =>
    rw [hasks]
    exact (Ignores.of_keeps hkeeps).responds
  | setConfiguration hreq hasks =>
    rw [hasks]
    exact setConfiguration_responds hpipe hreq
  | setSetting hreq hasks =>
    rw [hasks]
    exact setSetting_responds hreq
  | epGetStatus hin hep hreq hasks =>
    rw [hasks]
    refine Ignores.responds (epGetStatus_ignores hin fun hlen => ?_)
    by_contra hnum
    exact hstays ⟨hep, Or.inl ⟨hin, hreq, hlen, by omega⟩⟩
  | epClearFeature hout hep hreq hasks =>
    rw [hasks]
    exact epClearFeature_responds hpipe hjob hout hep hreq hstays
  | epSetFeature hout hep hreq hasks =>
    rw [hasks]
    exact epSetFeature_responds hjob hout hep hreq hstays

/-- A handler that takes the request or leaves no trace. -/
def TakesOrLeaves (r : Bool × Firmware) (s : Firmware) : Prop := r.1 = true ∨ r = (false, s)

theorem takesOrLeaves_setreport (s : Firmware) : TakesOrLeaves (udiHidGenericSetreport s) s := by
  simp only [udiHidGenericSetreport]
  split
  · exact Or.inl rfl
  · exact Or.inr rfl

theorem takesOrLeaves_getDescriptor (s : Firmware) :
    TakesOrLeaves (udiHidReqstdifacegetDescriptor s) s := by
  simp only [udiHidReqstdifacegetDescriptor]
  split
  · exact Or.inr rfl
  · split
    · exact Or.inl rfl
    · split
      · exact Or.inl rfl
      · exact Or.inr rfl

/-- What the HID interface refuses leaves no trace. -/
theorem takesOrLeaves_udiHidSetup (s : Firmware) : TakesOrLeaves (udiHidSetup s) s := by
  have hanswers := udiHidSetup_answers s
  generalize udiHidSetup s = r at hanswers ⊢
  cases hanswers with
  | reject => exact Or.inr rfl
  | getDescriptor _ => exact takesOrLeaves_getDescriptor s
  | getByte _ _ => exact Or.inl rfl
  | report _ => exact takesOrLeaves_setreport s
  | setIdle _ => exact Or.inl rfl
  | setProtocol _ => exact Or.inl rfl

/-- The search for a setting only moves `udc_ptr_iface`. -/
theorem updateIfaceDesc_moves (ifaceNum settingNum : Byte) (s : Firmware) :
    ∃ ptr, (udcUpdateIfaceDesc ifaceNum settingNum s).2 = { s with udcPtrIface := ptr } := by
  rw [udcUpdateIfaceDesc_eq]
  split
  · exact ⟨s.udcPtrIface, rfl⟩
  · split
    · exact ⟨9, rfl⟩
    · exact ⟨34, rfl⟩

/-- The HID interface accepts the request, at some place of `udc_ptr_iface`, and ends in `u`. -/
def IfaceAccepts (s u : Firmware) : Prop :=
  ∃ ptr, udiHidSetup { s with udcPtrIface := ptr } = (true, u)

theorem offerIfaces_accepts {ifaceNums : List Byte} {u : Firmware}
    (h : udcOfferIfaces ifaceNums s = (true, u)) : IfaceAccepts s u := by
  induction ifaceNums generalizing s with
  | nil => cases h
  | cons ifaceNum rest ih =>
    obtain ⟨ptr, hptr⟩ := updateIfaceDesc_moves ifaceNum udiHidGenericGetsetting s
    simp only [udcOfferIfaces, hptr, udiHidGenericSetup] at h
    split at h
    · cases h
    · rcases takesOrLeaves_udiHidSetup { s with udcPtrIface := ptr } with hacc | hleft
      · rw [if_pos hacc] at h
        obtain ⟨_, rfl⟩ := Prod.mk.inj h
        exact ⟨ptr, Prod.ext hacc rfl⟩
      · -- the next interface sees the request as this one did
        rw [hleft, if_neg Bool.false_ne_true] at h
        obtain ⟨ptr', hptr'⟩ := ih h
        exact ⟨ptr', hptr'⟩

theorem reqEp_accepts {u : Firmware} (h : udcReqEp s = (true, u)) : IfaceAccepts s u := by
  rw [udcReqEp] at h
  split at h
  · cases h
  · exact offerIfaces_accepts h

theorem reqIface_accepts {u : Firmware} (h : udcReqIface s = (true, u)) : IfaceAccepts s u := by
  obtain ⟨ptr, hptr⟩ := updateIfaceDesc_moves ((s.uddGCtrlreq.req.wIndex &&& 0xFF).setWidth 8) 0 s
  obtain ⟨ptr', hptr'⟩ := updateIfaceDesc_moves ((s.uddGCtrlreq.req.wIndex &&& 0xFF).setWidth 8)
    udiHidGenericGetsetting { s with udcPtrIface := ptr }
  simp only [udcReqIface, hptr, hptr'] at h
  split at h
  · cases h
  · split at h
    · cases h
    · split at h
      · cases h
      · split at h
        · cases h
        · exact ⟨ptr', h⟩

/-- **Only the HID interface accepts** what is offered to the interfaces, and the search
for it leaves no other trace. -/
theorem offerSetup_accepts {u : Firmware} (h : udcOfferSetup s = (true, u)) : IfaceAccepts s u := by
  have hdistinct : usbReqRecipInterface ≠ usbReqRecipEndpoint := by decide
  simp only [udcOfferSetup] at h
  by_cases hiface : uddSetupRecipient s.uddGCtrlreq.req = usbReqRecipInterface
  · rw [if_pos hiface] at h
    split at h
    · next hacc => exact reqIface_accepts (h ▸ Prod.ext hacc rfl)
    · rw [(keeps_reqIface s).req, hiface, if_neg hdistinct] at h
      cases h
  · rw [if_neg hiface, if_neg Bool.false_ne_true] at h
    split at h
    · exact reqEp_accepts h
    · cases h

/-- No interface takes a standard OUT request. -/
theorem offerSetup_standard_out (hout : uddSetupIsIn s.uddGCtrlreq.req = false)
    (htype : uddSetupType s.uddGCtrlreq.req = usbReqTypeStandard) : (udcOfferSetup s).1 = false := by
  have hclass : usbReqTypeStandard ≠ usbReqTypeClass := by decide
  by_contra hacc
  obtain ⟨ptr, hptr⟩ := offerSetup_accepts (Prod.ext (Bool.eq_true_of_not_eq_false hacc) rfl)
  simp only [udiHidSetup, hout, htype, hclass, Bool.false_eq_true, if_false, ite_self] at hptr
  cases hptr

/-- A request that concerns the pipe is a standard OUT request. -/
theorem standard_out_of_pipeRequest (h : s.pipeRequest ≠ .keep) :
    uddSetupType s.uddGCtrlreq.req = usbReqTypeStandard ∧
      uddSetupIsIn s.uddGCtrlreq.req = false := by
  by_contra hne
  refine h (if_pos ?_)
  by_contra hor
  rw [not_or, not_not] at hor
  exact hne ⟨hor.1, Bool.eq_false_of_not_eq_true hor.2⟩

/-- **The decoder does what is asked.** A request that stays inside the endpoint
tables is answered, and does to the pipe what `pipeRequest` says. -/
theorem udcProcessSetup_responds (hpipe : s.pipe.Consistent) (hjob : (s.job epOutJob).busy = false)
    (hstays : ¬ s.strays) : Responds (udcProcessSetup s) s.pipeRequest (udcClearCtrlreq s) := by
  generalize ht : udcClearCtrlreq s = t
  have hrequest : s.pipeRequest = t.pipeRequest := by rw [← ht]; rfl
  have hpipe' : t.pipe.Consistent := by rw [← ht]; exact hpipe
  have hjob' : (t.job epOutJob).busy = false := by rw [← ht]; exact hjob
  have hstays' : ¬ t.strays := by rw [← ht]; exact hstays
  simp only [udcProcessSetup, ht, hrequest, pure_eq_ok]
  split
  · next hempty =>
    rw [Firmware.pipeRequest, if_pos (Or.inr hempty.1)]
    exact (ignores_reject t).responds
  · by_cases htype : uddSetupType t.uddGCtrlreq.req = usbReqTypeStandard
    · obtain ⟨accepted, u, hu, hdoes, hanswer⟩ := reqstd_responds hpipe' hjob' htype hstays'
      simp only [htype, if_true, hu, ok_bind]
      rcases accepted with _ | _
      · -- a request that was not taken is offered to the interfaces
        refine ⟨_, _, rfl, hdoes.then_keeps (keeps_offerSetup u), fun hne => ?_⟩
        have hout := (standard_out_of_pipeRequest hne).2
        rw [← hanswer hne]
        exact offerSetup_standard_out (by rw [hdoes.req]; exact hout) (by rw [hdoes.req]; exact htype)
      · exact ⟨true, u, rfl, hdoes, hanswer⟩
    · rw [Firmware.pipeRequest, if_pos (Or.inl htype)]
      simp only [if_neg htype, ok_bind, Bool.false_eq_true, if_false]
      exact (Ignores.of_keeps (keeps_offerSetup t)).responds

/-! ## Requests that stray -/

/-- The fault is an index out of range. -/
def Fault.isIndex : Fault → Prop
  | .epCtrlIndex _ | .epJobIndex _ => True
  | .callbackType | .outTransfer | .hostWrite _ => False

/-- The program leaves an array. -/
def Leaves {α : Type} (r : Except Fault α) : Prop := ∃ f, r = .error f ∧ f.isIndex

theorem Leaves.bind {α β : Type} {r : Except Fault α} (h : Leaves r) (f : α → Except Fault β) :
    Leaves (r >>= f) := by
  obtain ⟨e, rfl, he⟩ := h
  exact ⟨e, rfl, he⟩

theorem leaves_getCtrl {req : UsbSetupReq} (h : 2 ≤ req.epNumber) : Leaves (uddEpGetCtrl req.ep) := by
  obtain ⟨i, hi⟩ := uddEpGetCtrl_large h
  exact ⟨_, hi, trivial⟩

theorem leaves_getJob {req : UsbSetupReq} (h : req.epNumber = 0) : Leaves (uddEpGetJob req.ep) := by
  obtain ⟨i, hi⟩ := uddEpGetJob_zero (BitVec.eq_of_toNat_eq h)
  exact ⟨_, hi, trivial⟩

theorem getCtrl_ctrlHalf {req : UsbSetupReq} (h : req.epNumber = 0) :
    uddEpGetCtrl req.ep = .ok req.ctrlHalf := uddEpGetCtrl_zero (BitVec.eq_of_toNat_eq h)

theorem leaves_abort {req : UsbSetupReq} (h : req.epNumber ≠ 1) (s : Firmware) :
    Leaves (uddEpAbort req.ep s) := by
  rw [uddEpAbort]
  rcases Nat.eq_zero_or_pos req.epNumber with hzero | hpos
  · rw [getCtrl_ctrlHalf hzero, ok_bind]
    exact (leaves_getJob hzero).bind _
  · exact (leaves_getCtrl (by omega)).bind _

theorem leaves_clearHalt {req : UsbSetupReq}
    (h : 2 ≤ req.epNumber ∨ (req.epNumber = 0 ∧ (s.ctrl req.ctrlHalf).stall = true)) :
    Leaves (uddEpClearHalt req.ep s) := by
  rw [uddEpClearHalt]
  rcases h with hlarge | ⟨hzero, hstall⟩
  · exact (leaves_getCtrl hlarge).bind _
  · rw [getCtrl_ctrlHalf hzero, ok_bind]
    simp only
    rw [if_neg (by simpa [uddEndpointClearDtgl] using hstall)]
    exact (leaves_getJob hzero).bind _

theorem leaves_reqstd (h : s.strays) : Leaves (udcReqstd s) := by
  obtain ⟨⟨_, hrecip⟩, ⟨hin, hreq, hlen, hnum⟩ | ⟨hout, hreq, hlen, hvalue, hnum⟩ |
    ⟨hout, hreq, hlen, hvalue, hnum⟩⟩ := h
  · simp only [udcReqstd, hin, hrecip, hreq, hlen, udcReqStdEpGetStatus, uddEpIsHalted]
    exact ((leaves_getCtrl hnum).bind _).bind _
  · simp only [udcReqstd, hout, hrecip, hreq, hlen, hvalue, udcReqStdEpClearFeature]
    exact leaves_clearHalt hnum
  · simp only [udcReqstd, hout, hrecip, hreq, hlen, hvalue, udcReqStdEpSetFeature]
    exact (leaves_abort hnum s).bind _

/-- **The decoder leaves the endpoint tables** for the requests that stray. -/
theorem udcProcessSetup_strays (h : s.strays) : Leaves (udcProcessSetup s) := by
  generalize ht : udcClearCtrlreq s = t
  have h' : t.strays := by rw [← ht]; exact h
  have hfull : ¬ (uddSetupIsIn t.uddGCtrlreq.req = true ∧ t.uddGCtrlreq.req.wLength = 0) := by
    rintro ⟨hin, hlen⟩
    obtain ⟨_, ⟨_, _, hlen', _⟩ | ⟨hout, _⟩ | ⟨hout, _⟩⟩ := h'
    · rw [hlen] at hlen'
      exact absurd hlen' (by decide)
    · rw [hin] at hout
      cases hout
    · rw [hin] at hout
      cases hout
  simp only [udcProcessSetup, ht, h'.1.1, if_true]
  rw [if_neg hfull]
  exact (leaves_reqstd h').bind _

end HidJoystick
