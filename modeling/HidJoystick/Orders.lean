import HidJoystick.Replies

/-!
# The answers to OUT requests

`udcProcessSetup_out`: which OUT requests are accepted, and what they leave to be done at
their end. Only SET_ADDRESS leaves something: the device answers under its old address
until the host has seen the handshake.
-/

namespace HidJoystick

/-- The handler accepts the request exactly if `p`, and then `address` is left to be set. -/
def Takes (r : Except Fault (Bool × Firmware)) (p : Prop) (address : Option Byte) : Prop :=
  ∃ accepted u, r = .ok (accepted, u) ∧ (accepted = true ↔ p) ∧
    (accepted = true → u.deferred = address)

theorem takes_refuse {s : Firmware} {p : Prop} (h : ¬ p) (address : Option Byte) :
    Takes (.ok (false, s)) p address :=
  ⟨false, s, rfl, iff_of_false Bool.false_ne_true h, fun h' => absurd h' Bool.false_ne_true⟩

theorem takes_accept {u : Firmware} {p : Prop} (h : p) {address : Option Byte}
    (haddress : u.deferred = address) : Takes (.ok (true, u)) p address :=
  ⟨true, u, rfl, iff_of_true rfl h, fun _ => haddress⟩

theorem Takes.congr {r : Except Fault (Bool × Firmware)} {p q : Prop} {a b : Option Byte}
    (h : Takes r p a) (hpq : p ↔ q) (hab : a = b) : Takes r q b := by
  obtain ⟨accepted, u, hr, hp, ha⟩ := h
  exact ⟨accepted, u, hr, hp.trans hpq, fun h => (ha h).trans hab⟩

section OutRequests

variable {s : Firmware}

theorem deferred_of_callback (hcallback : s.uddGCtrlreq.callback = none) : s.deferred = none := by
  rw [Firmware.deferred, hcallback]

/-- What leaves the control request alone defers nothing. -/
theorem KeepsCtrlreq.deferred {u : Firmware} (h : KeepsCtrlreq s u)
    (hcallback : s.uddGCtrlreq.callback = none) : u.deferred = none :=
  deferred_of_callback (by rw [h, hcallback])

theorem takes_devSetAddress :
    Takes (.ok (udcReqStdDevSetAddress s)) (s.uddGCtrlreq.req.wLength = 0)
      (some ((s.uddGCtrlreq.req.wValue &&& 0x7F).setWidth 8)) := by
  rw [udcReqStdDevSetAddress]
  split
  · next hlen => exact takes_refuse hlen _
  · next hlen => exact takes_accept (not_not.mp hlen) rfl

/-- A feature that is cleared or set at once -/
theorem takes_feature {feature : Word} {u : Firmware} (hdeferred : u.deferred = none) :
    Takes
      (.ok (if s.uddGCtrlreq.req.wLength ≠ 0 then (false, s)
        else if s.uddGCtrlreq.req.wValue = feature then (true, u)
        else (false, s)))
      (s.uddGCtrlreq.req.wLength = 0 ∧ s.uddGCtrlreq.req.wValue = feature) none := by
  split
  · next hlen => exact takes_refuse (fun h => hlen h.1) _
  · next hlen =>
    split
    · next hvalue => exact takes_accept ⟨not_not.mp hlen, hvalue⟩ hdeferred
    · next hvalue => exact takes_refuse (fun h => hvalue h.2) _

theorem takes_devClearFeature (hcallback : s.uddGCtrlreq.callback = none) :
    Takes (.ok (udcReqStdDevClearFeature s))
      (s.uddGCtrlreq.req.wLength = 0 ∧ s.uddGCtrlreq.req.wValue = usbDevFeatureRemoteWakeup)
      none := by
  refine takes_feature ?_
  exact deferred_of_callback hcallback

theorem takes_devSetFeature (hcallback : s.uddGCtrlreq.callback = none) :
    Takes (.ok (udcReqStdDevSetFeature s))
      (s.uddGCtrlreq.req.wLength = 0 ∧ s.uddGCtrlreq.req.wValue = usbDevFeatureRemoteWakeup)
      none := by
  refine takes_feature ?_
  exact deferred_of_callback hcallback

/-- `udc_req_std_dev_set_configuration`, when a check fails -/
theorem setConfiguration_refuses (h : ¬ (s.uddGCtrlreq.req.wLength = 0 ∧ s.usbAddr ≠ 0 ∧
      (s.uddGCtrlreq.req.wValue &&& 0xFF).toNat ≤ 1)) :
    udcReqStdDevSetConfiguration s = .ok (false, s) := by
  simp only [udcReqStdDevSetConfiguration, pure_eq_ok]
  split
  · rfl
  · next hlen =>
    split
    · rfl
    · next haddr =>
      refine if_pos ?_
      rw [gt_iff_lt, BitVec.lt_def]
      exact Nat.not_le.mp fun hnum => h ⟨not_not.mp hlen, haddr, hnum⟩

theorem takes_devSetConfiguration (hpipe : s.pipe.Consistent)
    (hcallback : s.uddGCtrlreq.callback = none) :
    Takes (udcReqStdDevSetConfiguration s)
      (s.uddGCtrlreq.req.wLength = 0 ∧ s.usbAddr ≠ 0 ∧ (s.uddGCtrlreq.req.wValue &&& 0xFF).toNat ≤ 1)
      none := by
  have hkeeps := spares_setConfiguration s
  by_cases h : s.uddGCtrlreq.req.wLength = 0 ∧ s.usbAddr ≠ 0 ∧
      (s.uddGCtrlreq.req.wValue &&& 0xFF).toNat ≤ 1
  · have hnum : ¬ s.uddGCtrlreq.req.wValue &&& 0xFF > udcDeviceDescBNumConfigurations.setWidth 16 := by
      rw [gt_iff_lt, BitVec.lt_def]
      exact Nat.not_lt.mpr h.2.2
    obtain ⟨u, hu, _⟩ := setConfiguration_configures hpipe h.1 h.2.1 hnum
    rw [hu]
    exact takes_accept h ((hkeeps.value hu).deferred hcallback)
  · rw [setConfiguration_refuses h]
    exact takes_refuse h _

/-- `udc_req_std_iface_set_setting`, when the request is not for the interface -/
theorem setSetting_refuses (h : ¬ (s.uddGCtrlreq.req.wLength = 0 ∧ s.namesIface)) :
    udcReqStdIfaceSetSetting s = .ok (false, s) := by
  simp only [udcReqStdIfaceSetSetting, pure_eq_ok]
  split
  · rfl
  · next hlen =>
    split
    · rfl
    · next hconf =>
      rw [udcIfaceDisable_absent (Or.inr fun hiface => h ⟨not_not.mp hlen, hconf, hiface⟩)]
      rfl

theorem takes_ifaceSetSetting (hcallback : s.uddGCtrlreq.callback = none) :
    Takes (udcReqStdIfaceSetSetting s)
      (s.uddGCtrlreq.req.wLength = 0 ∧ s.namesIface ∧
        (s.uddGCtrlreq.req.wValue &&& 0xFF).setWidth 8 = (0 : Byte)) none := by
  have hkeeps := spares_setSetting s
  by_cases h : s.uddGCtrlreq.req.wLength = 0 ∧ s.namesIface
  · obtain ⟨u, hu, _⟩ := setSetting_selects h.1 h.2.1 h.2.2
    rw [hu]
    refine ⟨_, u, rfl, ?_, fun _ => (hkeeps.value hu).deferred hcallback⟩
    rw [beq_iff_eq]
    exact ⟨fun hset => ⟨h.1, h.2, hset⟩, fun hall => hall.2.2⟩
  · rw [setSetting_refuses h]
    exact takes_refuse (fun hall => h ⟨hall.1, hall.2.1⟩) _

/-- A halt that is cleared is cleared, -/
theorem clearHalt_accepts (ep : Byte) (s : Firmware) :
    Spares (uddEpClearHalt ep s) fun r => r.1 = true := by
  refine (spares_getCtrl ep).bind fun c _ => ?_
  simp only
  split
  · rfl
  · refine (spares_getJob ep).bind fun j _ => ?_
    split
    · exact fun _ => Fault.noConfusion
    · rfl

/-- and one that is set is set. -/
theorem setHalt_accepts (ep : Byte) (s : Firmware) :
    Spares (uddEpSetHalt ep s) fun r => r.1 = true := by
  refine (spares_getCtrl ep).bind fun c _ => (spares_abort ep _).bind fun t _ => ?_
  rfl

/-- The halt of an endpoint, cleared or set by `r` -/
theorem takes_halt {r : Except Fault (Bool × Firmware)}
    (haccepts : Spares r fun r => r.1 = true) (hkeeps : Spares r fun r => KeepsCtrlreq s r.2)
    (hcallback : s.uddGCtrlreq.callback = none)
    (hrun : s.uddGCtrlreq.req.wLength = 0 → s.uddGCtrlreq.req.wValue = usbEpFeatureHalt →
      ∃ a, r = .ok a) :
    Takes
      (if s.uddGCtrlreq.req.wLength ≠ 0 then .ok (false, s)
        else if s.uddGCtrlreq.req.wValue = usbEpFeatureHalt then r
        else .ok (false, s))
      (s.uddGCtrlreq.req.wLength = 0 ∧ s.uddGCtrlreq.req.wValue = usbEpFeatureHalt) none := by
  split
  · next hlen => exact takes_refuse (fun h => hlen h.1) _
  · next hlen =>
    split
    · next hvalue =>
      obtain ⟨⟨accepted, u⟩, hu⟩ := hrun (not_not.mp hlen) hvalue
      have haccepted : accepted = true := haccepts.value hu
      rw [hu, haccepted]
      exact takes_accept ⟨not_not.mp hlen, hvalue⟩ ((hkeeps.value hu).deferred hcallback)
    · next hvalue => exact takes_refuse (fun h => hvalue h.2) _

theorem takes_epClearFeature (hcallback : s.uddGCtrlreq.callback = none)
    (hrun : ∃ a, udcReqStdEpClearFeature s = .ok a) :
    Takes (udcReqStdEpClearFeature s)
      (s.uddGCtrlreq.req.wLength = 0 ∧ s.uddGCtrlreq.req.wValue = usbEpFeatureHalt) none := by
  refine takes_halt (clearHalt_accepts _ s) (spares_clearHalt _ s) hcallback fun hlen hvalue => ?_
  rwa [udcReqStdEpClearFeature, if_neg (not_not.mpr hlen), if_pos hvalue] at hrun

theorem takes_epSetFeature (hcallback : s.uddGCtrlreq.callback = none)
    (hrun : ∃ a, udcReqStdEpSetFeature s = .ok a) :
    Takes (udcReqStdEpSetFeature s)
      (s.uddGCtrlreq.req.wLength = 0 ∧ s.uddGCtrlreq.req.wValue = usbEpFeatureHalt) none := by
  have haccepts : Spares (uddEpAbort s.uddGCtrlreq.req.ep s >>= fun t =>
      uddEpSetHalt t.uddGCtrlreq.req.ep t) fun r => r.1 = true :=
    (spares_abort _ s).bind fun t _ => setHalt_accepts _ t
  have hkeeps : Spares (uddEpAbort s.uddGCtrlreq.req.ep s >>= fun t =>
      uddEpSetHalt t.uddGCtrlreq.req.ep t) fun r => KeepsCtrlreq s r.2 :=
    (spares_abort _ s).bind fun t ht => (spares_setHalt _ t).mono fun u hu => hu.trans ht
  refine takes_halt haccepts hkeeps hcallback fun hlen hvalue => ?_
  rwa [udcReqStdEpSetFeature, if_neg (not_not.mpr hlen), if_pos hvalue] at hrun

/-- Only SET_ADDRESS leaves something to be done. -/
theorem defers_of_ne (hreq : s.uddGCtrlreq.req.bRequest ≠ usbReqSetAddress) : s.defers = none :=
  if_neg fun h => hreq h.2.2

theorem defers_of_recipient (hrecip : uddSetupRecipient s.uddGCtrlreq.req ≠ usbReqRecipDevice) :
    s.defers = none := if_neg fun h => hrecip h.2.1

/-- `udc_reqstd`, for OUT requests to the device -/
theorem takes_device (hpipe : s.pipe.Consistent) (hcallback : s.uddGCtrlreq.callback = none)
    (htype : uddSetupType s.uddGCtrlreq.req = usbReqTypeStandard)
    (hrecip : uddSetupRecipient s.uddGCtrlreq.req = usbReqRecipDevice) :
    Takes
      (if s.uddGCtrlreq.req.bRequest = usbReqSetAddress then .ok (udcReqStdDevSetAddress s)
        else if s.uddGCtrlreq.req.bRequest = usbReqClearFeature then
          .ok (udcReqStdDevClearFeature s)
        else if s.uddGCtrlreq.req.bRequest = usbReqSetFeature then .ok (udcReqStdDevSetFeature s)
        else if s.uddGCtrlreq.req.bRequest = usbReqSetConfiguration then
          udcReqStdDevSetConfiguration s
        else .ok (false, s)) s.takesDevice s.defers := by
  have hne {b : Byte} (hreq : s.uddGCtrlreq.req.bRequest = b) (hb : b ≠ usbReqSetAddress) :
      none = s.defers := (defers_of_ne (hreq ▸ hb)).symm
  simp only [Firmware.takesDevice]
  split
  · next hreq =>
    have hdefers : s.defers = some ((s.uddGCtrlreq.req.wValue &&& 0x7F).setWidth 8) :=
      if_pos ⟨htype, hrecip, hreq⟩
    exact takes_devSetAddress.congr ⟨fun hlen => ⟨hlen, Or.inl hreq⟩, And.left⟩ hdefers.symm
  · split
    · next hreq =>
      refine (takes_devClearFeature hcallback).congr ?_ (hne hreq (by decide))
      rw [hreq]
      simp
    · split
      · next hreq =>
        refine (takes_devSetFeature hcallback).congr ?_ (hne hreq (by decide))
        rw [hreq]
        simp
      · split
        · next hreq =>
          refine (takes_devSetConfiguration hpipe hcallback).congr ?_ (hne hreq (by decide))
          rw [hreq]
          simp
        · next haddress hclear hset hconf =>
          refine takes_refuse ?_ _
          rintro ⟨_, h | ⟨h | h, _⟩ | ⟨h, _⟩⟩
          · exact haddress h
          · exact hclear h
          · exact hset h
          · exact hconf h

/-- `udc_reqstd`, for OUT requests -/
theorem takes_reqstd (hpipe : s.pipe.Consistent) (hjob : (s.job epOutJob).busy = false)
    (hcallback : s.uddGCtrlreq.callback = none) (hout : uddSetupIsIn s.uddGCtrlreq.req = false)
    (htype : uddSetupType s.uddGCtrlreq.req = usbReqTypeStandard) (hstays : ¬ s.strays) :
    Takes (udcReqstd s) s.takesStandard s.defers := by
  have hdistinct : usbReqRecipDevice ≠ usbReqRecipInterface ∧
      usbReqRecipDevice ≠ usbReqRecipEndpoint ∧ usbReqRecipInterface ≠ usbReqRecipEndpoint := by
    decide
  simp only [udcReqstd, hout, Bool.false_eq_true, if_false, pure_eq_ok]
  split
  · next hrecip =>
    refine (takes_device hpipe hcallback htype hrecip).congr ?_ rfl
    simp only [Firmware.takesStandard, hrecip, true_and, hdistinct.1, hdistinct.2.1, false_and,
      or_false]
  · next hdevice =>
    have hdefers : none = s.defers := (defers_of_recipient hdevice).symm
    split
    · next hrecip =>
      have hiff : s.takesStandard ↔ s.takesInterface := by
        simp only [Firmware.takesStandard, hrecip, true_and, hdistinct.1.symm, hdistinct.2.2,
          false_and, or_false, false_or]
      split
      · next hreq =>
        refine (takes_ifaceSetSetting hcallback).congr (Iff.trans ?_ hiff.symm) hdefers
        simp only [Firmware.takesInterface, hreq, true_and]
      · next hreq => exact takes_refuse (fun h => hreq (hiff.mp h).2.1) _
    · next hinterface =>
      split
      · next hrecip =>
        have hiff : s.takesStandard ↔ s.takesEndpoint := by
          simp only [Firmware.takesStandard, hrecip, true_and, hdistinct.2.1.symm,
            hdistinct.2.2.symm, false_and, false_or]
        split
        · next hreq =>
          obtain ⟨accepted, u, hu, _⟩ :=
            epClearFeature_responds hpipe hjob hout ⟨htype, hrecip⟩ hreq hstays
          refine (takes_epClearFeature hcallback ⟨_, hu⟩).congr (Iff.trans ?_ hiff.symm) hdefers
          simp only [Firmware.takesEndpoint, hreq, true_or, true_and]
        · next hclear =>
          split
          · next hreq =>
            obtain ⟨accepted, u, hu, _⟩ :=
              epSetFeature_responds hjob hout ⟨htype, hrecip⟩ hreq hstays
            refine (takes_epSetFeature hcallback ⟨_, hu⟩).congr (Iff.trans ?_ hiff.symm) hdefers
            simp only [Firmware.takesEndpoint, hreq, or_true, true_and]
          · next hset =>
            exact takes_refuse (fun h => (hiff.mp h).2.1.elim hclear hset) _
      · next hendpoint =>
        refine takes_refuse ?_ _
        rintro (h | h | h)
        · exact hdevice h.1
        · exact hinterface h.1
        · exact hendpoint h.1

/-- A request that is not from the device is to it. -/
theorem uddSetupIsOut_of_not_isIn {req : UsbSetupReq} (h : uddSetupIsIn req = false) :
    uddSetupIsOut req = true := by
  have hbit (b : Byte) : (b &&& 0x80 == 0x80) = false → (b &&& 0x80 == 0) = true := by
    revert b
    decide
  exact hbit req.bmRequestType h

/-- `udi_hid_setup`, for OUT requests -/
theorem takes_udiHidSetup (hcallback : s.uddGCtrlreq.callback = none)
    (hout : uddSetupIsIn s.uddGCtrlreq.req = false) :
    Takes (.ok (udiHidSetup s))
      (uddSetupType s.uddGCtrlreq.req = usbReqTypeClass ∧ s.takesHid) none := by
  have hdeferred := deferred_of_callback hcallback
  simp only [udiHidSetup, hout, uddSetupIsOut_of_not_isIn hout, Bool.false_eq_true, if_false,
    if_true]
  split
  · next htype =>
    have hclass : uddSetupType s.uddGCtrlreq.req = usbReqTypeClass ∧ s.takesHid ↔ s.takesHid :=
      and_iff_right htype
    split
    · next hreq =>
      simp only [udiHidGenericSetreport]
      split
      · next hfeature =>
        exact takes_accept ⟨htype, Or.inl ⟨hreq, hfeature.1, hfeature.2.1, hfeature.2.2.symm⟩⟩ rfl
      · next hfeature =>
        refine takes_refuse ?_ _
        rw [hclass]
        rintro (⟨_, h⟩ | h | ⟨h, _⟩)
        · exact hfeature ⟨h.1, h.2.1, h.2.2.symm⟩
        · exact absurd (hreq.symm.trans h) (by decide)
        · exact absurd (hreq.symm.trans h) (by decide)
    · next hreport =>
      split
      · next hreq => exact takes_accept ⟨htype, Or.inr (Or.inl hreq)⟩ hdeferred
      · next hidle =>
        split
        · next hreq =>
          split
          · next hlen =>
            refine takes_refuse ?_ _
            rintro ⟨_, ⟨h, _⟩ | h | ⟨_, h⟩⟩
            · exact hreport h
            · exact hidle h
            · exact hlen h.symm
          · next hlen =>
            exact takes_accept ⟨htype, Or.inr (Or.inr ⟨hreq, (not_not.mp hlen).symm⟩)⟩ hdeferred
        · next hprotocol =>
          refine takes_refuse ?_ _
          rintro ⟨_, ⟨h, _⟩ | h | ⟨h, _⟩⟩
          · exact hreport h
          · exact hidle h
          · exact hprotocol h
  · next htype => exact takes_refuse (fun h => htype h.1) _

/-- `udc_process_setup` offers what is left to the HID interface. -/
theorem takes_offerSetup (hcallback : s.uddGCtrlreq.callback = none)
    (hout : uddSetupIsIn s.uddGCtrlreq.req = false) :
    Takes (.ok (udcOfferSetup s))
      (uddSetupType s.uddGCtrlreq.req = usbReqTypeClass ∧ s.offersHid ∧ s.takesHid) none := by
  rw [offerSetup_eq]
  split
  · next hoffers =>
    refine (takes_udiHidSetup (s := { s with udcPtrIface := 9 }) hcallback hout).congr ?_ rfl
    exact and_congr_right fun _ => (and_iff_right hoffers).symm
  · next hoffers => exact takes_refuse (fun h => hoffers h.2.1) _

/-- **Which OUT requests are accepted**, and what is left to do at their end. -/
theorem udcProcessSetup_out (hpipe : s.pipe.Consistent) (hjob : (s.job epOutJob).busy = false)
    (hout : uddSetupIsIn s.uddGCtrlreq.req = false) (hstays : ¬ s.strays) :
    Takes (udcProcessSetup s) s.takes s.defers := by
  generalize ht : udcClearCtrlreq s = t
  have hclass : usbReqTypeStandard ≠ usbReqTypeClass := by decide
  have hcallback : t.uddGCtrlreq.callback = none := by rw [← ht]; rfl
  have hout' : uddSetupIsIn t.uddGCtrlreq.req = false := by rw [← ht]; exact hout
  have hstays' : ¬ t.strays := by rw [← ht]; exact hstays
  have hpipe' : t.pipe.Consistent := by rw [← ht]; exact hpipe
  have hjob' : (t.job epOutJob).busy = false := by rw [← ht]; exact hjob
  have hsame : Takes (udcProcessSetup s) t.takes t.defers → Takes (udcProcessSetup s) s.takes s.defers := by
    rw [← ht]
    exact id
  apply hsame
  simp only [udcProcessSetup, ht, hout', Bool.false_eq_true, false_and, if_false, pure_eq_ok]
  by_cases htype : uddSetupType t.uddGCtrlreq.req = usbReqTypeStandard
  · have htakes : t.takes ↔ t.takesStandard := by
      simp only [Firmware.takes, htype, true_and, hclass, false_and, or_false]
    obtain ⟨accepted, u, hu, hiff, haddress⟩ :=
      takes_reqstd hpipe' hjob' hcallback hout' htype hstays'
    obtain ⟨_, _, hu', hdoes, _⟩ := reqstd_responds hpipe' hjob' htype hstays'
    rw [hu] at hu'
    obtain ⟨rfl, rfl⟩ := Prod.mk.inj (Except.ok.inj hu')
    simp only [if_pos htype, hu, ok_bind]
    rcases accepted with _ | _
    · -- no interface takes what the device has refused
      have hrefused := offerSetup_standard_out (s := u) (by rw [hdoes.req]; exact hout')
        (by rw [hdoes.req]; exact htype)
      rw [htakes, ← hiff]
      refine ⟨false, (udcOfferSetup u).2, ?_, Iff.rfl, fun h => absurd h Bool.false_ne_true⟩
      exact congrArg Except.ok (Prod.ext hrefused rfl)
    · exact takes_accept (htakes.mpr (hiff.mp rfl)) (haddress rfl)
  · have htakes : t.takes ↔ uddSetupType t.uddGCtrlreq.req = usbReqTypeClass ∧ t.offersHid ∧
        t.takesHid := by
      simp only [Firmware.takes, htype, false_and, false_or]
    have hdefers : none = t.defers := (if_neg fun h => htype h.1).symm
    simp only [if_neg htype, ok_bind, Bool.false_eq_true, if_false]
    exact (takes_offerSetup hcallback hout').congr htakes.symm hdefers

end OutRequests

end HidJoystick
