import HidJoystick.Replies

/-!
# Requests and the control endpoint

While a request is decoded, the control endpoint stands by: no handler touches the IN
half of endpoint 0 or the address of the device (`control_processSetup`). The one request that
reaches for endpoint 0 and succeeds, CLEAR_FEATURE(ENDPOINT_HALT) of a half that is not
halted, resets the data toggle, which the view below leaves out.
-/

namespace HidJoystick

/-- What a request must not change: the IN half of the control endpoint, as far as it
decides whether a packet can be sent, and the address. -/
structure ControlView where
  enabled : Bool
  halted : Bool
  /-- `BUSNACK0` -/
  nak : Bool
  addr : Byte
  deriving DecidableEq

/-- The view of the firmware. -/
def Firmware.control (s : Firmware) : ControlView where
  enabled := uddEndpointIsEnable (s.ctrl ctrlIn)
  halted := (s.ctrl ctrlIn).stall
  nak := (s.ctrl ctrlIn).busnack0
  addr := s.usbAddr

/-- The handler keeps the view. -/
abbrev SparesControl {α : Type} (r : Except Fault α) (s : Firmware) (f : α → Firmware) : Prop :=
  Spares r fun a => (f a).control = s.control

section Endpoints

variable (s : Firmware)

@[simp] theorem control_withPipe (p : Pipe) : (s.withPipe p).control = s.control := by
  simp [Firmware.control, Firmware.withPipe, Firmware.ctrl]

/-- Another entry of the endpoint table -/
theorem control_modifyCtrl_of_ne {c : Fin 4} (hc : c ≠ ctrlIn) (f : UsbEp → UsbEp) :
    (s.modifyCtrl c f).control = s.control := by
  rw [Firmware.control, Firmware.ctrl_modifyCtrl_of_ne hc]
  rfl

/-- Something else of an entry -/
theorem control_modifyCtrl (c : Fin 4) {f : UsbEp → UsbEp}
    (hf : ∀ e, (f e).type = e.type ∧ (f e).stall = e.stall ∧ (f e).busnack0 = e.busnack0) :
    (s.modifyCtrl c f).control = s.control := by
  by_cases hc : c = ctrlIn
  · subst hc
    obtain ⟨htype, hstall, hnak⟩ := hf (s.ctrl ctrlIn)
    rw [Firmware.control, Firmware.ctrl_modifyCtrl, uddEndpointIsEnable, htype, hstall, hnak]
    rfl
  · exact control_modifyCtrl_of_ne s hc f

/-- Endpoints with a job are not the control endpoint. -/
theorem getCtrl_ne_ctrlIn {ep : Byte} {c : Fin 4} {j : Fin 2} (hc : uddEpGetCtrl ep = .ok c)
    (hj : uddEpGetJob ep = .ok j) : c ≠ ctrlIn := by
  simp only [uddEpGetCtrl] at hc
  simp only [uddEpGetJob] at hj
  split at hc
  · split at hj
    · next hi =>
      cases hc
      refine Fin.ne_of_val_ne ?_
      have hindex := hi.1
      simp only [Fin.val_one]
      omega
    · cases hj
  · cases hc

/-- A value that was computed -/
theorem spares_self {α : Type} {r : Except Fault α} {P : α → Prop} (h : Spares r P) :
    Spares r fun a => r = .ok a := by
  cases r with
  | ok a => rfl
  | error f => exact h

theorem control_call (callback : UddCallbackTrans) (status : UddEpStatus) (nb : Word) (ep : Byte) :
    (callback.call status nb ep s).control = s.control := by
  cases callback
  rfl

theorem control_abort (ep : Byte) : SparesControl (uddEpAbort ep s) s id := by
  refine (spares_self (spares_getCtrl ep)).bind fun c hc => ?_
  refine (spares_self (spares_getJob ep)).bind fun j hj => ?_
  have hne := getCtrl_ne_ctrlIn hc hj
  have hnack := control_modifyCtrl_of_ne s hne uddEndpointSetNACK0
  simp only
  split
  · split
    · exact (control_call _ _ _ _ _).trans hnack
    · exact hnack
  · exact hnack

/-- A halt can be set on endpoints with a job only. -/
theorem control_setHalt (ep : Byte) : SparesControl (uddEpSetHalt ep s) s Prod.snd := by
  refine (spares_self (spares_getCtrl ep)).bind fun c hc => ?_
  by_cases hj : ∃ j, uddEpGetJob ep = .ok j
  · obtain ⟨j, hj⟩ := hj
    have hhalt := control_modifyCtrl_of_ne s (getCtrl_ne_ctrlIn hc hj) uddEndpointEnableStall
    refine (control_abort _ ep).bind fun t ht => ?_
    exact ht.trans hhalt
  · -- without a job the abort leaves the table
    have hleaves : ∃ f, uddEpGetJob ep = .error f := by
      rcases hr : uddEpGetJob ep with f | j
      · exact ⟨f, rfl⟩
      · exact absurd ⟨j, hr⟩ hj
    obtain ⟨f, hf⟩ := hleaves
    have hspares := (spares_getJob ep).fault hf
    simp only [uddEpAbort, hc, hf]
    exact hspares

theorem control_clearHalt (ep : Byte) : SparesControl (uddEpClearHalt ep s) s Prod.snd := by
  refine (spares_self (spares_getCtrl ep)).bind fun c hc => ?_
  have htoggle := control_modifyCtrl s c (f := uddEndpointClearDtgl) fun _ => ⟨rfl, rfl, rfl⟩
  simp only
  split
  · exact htoggle
  · refine (spares_self (spares_getJob ep)).bind fun j hj => ?_
    split
    · exact fun _ => Fault.noConfusion
    · exact (control_modifyCtrl_of_ne _ (getCtrl_ne_ctrlIn hc hj) _).trans htoggle

end Endpoints

/-! ## Interfaces and configurations -/

section Interfaces

variable (s : Firmware)

theorem control_updateIfaceDesc (ifaceNum settingNum : Byte) :
    (udcUpdateIfaceDesc ifaceNum settingNum s).2.control = s.control := by
  obtain ⟨ptr, hptr⟩ := updateIfaceDesc_moves ifaceNum settingNum s
  rw [hptr]
  rfl

theorem control_ifaceDisable (ifaceNum : Byte) :
    SparesControl (udcIfaceDisable ifaceNum s) s Prod.snd := by
  by_cases h : s.udcNumConfiguration = 0 ∨ ifaceNum ≠ 0
  · rw [udcIfaceDisable_absent h]
    rfl
  · obtain ⟨hconf, hiface⟩ := not_or.mp h
    obtain rfl : ifaceNum = 0 := not_not.mp hiface
    have hconf' : { s with udcPtrIface := 9 }.udcNumConfiguration ≠ 0 := hconf
    simp only [udcIfaceDisable, udcUpdateIfaceDesc_present hconf, udcUpdateIfaceDesc_present hconf',
      udiHidGenericGetsetting, Bool.not_true, Bool.false_eq_true, if_false, udcFreeEndpoints_iface]
    exact control_withPipe _ _

theorem control_ifaceEnable (ifaceNum settingNum : Byte) :
    SparesControl (udcIfaceEnable ifaceNum settingNum s) s Prod.snd := by
  have hmoved := control_updateIfaceDesc s ifaceNum settingNum
  by_cases h : (udcUpdateIfaceDesc ifaceNum settingNum s).1 = true
  · have hptr : (udcUpdateIfaceDesc ifaceNum settingNum s).2.udcPtrIface = 9 := by
      rw [udcUpdateIfaceDesc_eq] at h ⊢
      split at h
      · cases h
      · split at h
        · next hpresent hzero => rw [if_neg hpresent, if_pos hzero]
        · cases h
    simp only [udcIfaceEnable, h, Bool.not_true, Bool.false_eq_true, if_false, hptr,
      udcAllocEndpoints_iface]
    split
    · exact hmoved
    · exact (control_withPipe _ _).trans hmoved
  · simp only [udcIfaceEnable, h]
    exact hmoved

theorem control_disableIfaces (ifaceNums : List Byte) :
    SparesControl (udcDisableIfaces ifaceNums s) s id := by
  induction ifaceNums generalizing s with
  | nil => rfl
  | cons ifaceNum rest ih =>
    exact (control_ifaceDisable s ifaceNum).bind fun r hr => (ih r.2).mono fun u hu => hu.trans hr

theorem control_enableIfaces (ifaceNums : List Byte) :
    SparesControl (udcEnableIfaces ifaceNums s) s Prod.snd := by
  induction ifaceNums generalizing s with
  | nil => rfl
  | cons ifaceNum rest ih =>
    refine (control_ifaceEnable s ifaceNum 0).bind fun r hr => ?_
    simp only
    split
    · exact hr
    · exact (ih r.2).mono fun u hu => hu.trans hr

theorem control_reset : SparesControl (udcReset s) s id := by
  simp only [udcReset, pure_eq_ok, ok_bind]
  split
  · refine (control_disableIfaces s udcIfaceNums).bind fun t ht => ?_
    exact ht
  · rfl

theorem control_setConfiguration : SparesControl (udcReqStdDevSetConfiguration s) s Prod.snd := by
  simp only [udcReqStdDevSetConfiguration]
  split
  · rfl
  · split
    · rfl
    · split
      · rfl
      · refine (control_reset s).bind fun t ht => ?_
        split
        · exact ht
        · exact (control_enableIfaces _ udcIfaceNums).mono fun u hu => hu.trans ht

theorem control_setSetting : SparesControl (udcReqStdIfaceSetSetting s) s Prod.snd := by
  simp only [udcReqStdIfaceSetSetting]
  split
  · rfl
  · split
    · rfl
    · refine (control_ifaceDisable s _).bind fun r hr => ?_
      split
      · exact hr
      · exact (control_ifaceEnable r.2 _ _).mono fun u hu => hu.trans hr

end Interfaces

/-! ## Requests -/

section Requests

variable (s : Firmware)

theorem control_epGetStatus : SparesControl (udcReqStdEpGetStatus s) s Prod.snd := by
  simp only [udcReqStdEpGetStatus]
  split
  · rfl
  · refine (spares_isHalted _ s).bind fun halted _ => ?_
    rfl

theorem control_epClearFeature : SparesControl (udcReqStdEpClearFeature s) s Prod.snd := by
  simp only [udcReqStdEpClearFeature]
  split
  · rfl
  · split
    · exact control_clearHalt s _
    · rfl

theorem control_epSetFeature : SparesControl (udcReqStdEpSetFeature s) s Prod.snd := by
  simp only [udcReqStdEpSetFeature]
  split
  · rfl
  · split
    · refine (control_abort s _).bind fun t ht => ?_
      exact (control_setHalt t _).mono fun u hu => hu.trans ht
    · rfl

theorem control_devGetStrDesc : (udcReqStdDevGetStrDesc s).2.control = s.control := by
  simp only [udcReqStdDevGetStrDesc]
  split
  · rfl
  · split
    · rfl
    · split <;> rfl

theorem control_devGetDescriptor : (udcReqStdDevGetDescriptor s).2.control = s.control := by
  have hstring := control_devGetStrDesc s
  simp only [udcReqStdDevGetDescriptor]
  split
  · rfl
  · split
    · split <;> rfl
    · split
      · rfl
      · split
        · split
          · exact hstring
          · exact hstring
        · rfl

theorem control_ifaceGetSetting : (udcReqStdIfaceGetSetting s).2.control = s.control := by
  have hmoved := control_updateIfaceDesc s ((s.uddGCtrlreq.req.wIndex &&& 0xFF).setWidth 8) 0
  simp only [udcReqStdIfaceGetSetting]
  split
  · rfl
  · split
    · rfl
    · split
      · rfl
      · split
        · exact hmoved
        · exact hmoved

/-- `udc_reqstd` -/
theorem control_reqstd : SparesControl (udcReqstd s) s Prod.snd := by
  have hkept {r : Bool × Firmware} (h : r.2.control = s.control) :
      SparesControl (.ok r) s Prod.snd := h
  have hrefused : SparesControl (.ok (false, s)) s Prod.snd := rfl
  simp only [udcReqstd, pure_eq_ok]
  split
  · split
    · exact hrefused
    · split
      · split
        · rw [udcReqStdDevGetStatus]
          split <;> exact hkept rfl
        · split
          · exact hkept (control_devGetDescriptor s)
          · split
            · rw [udcReqStdDevGetConfiguration]
              split <;> exact hkept rfl
            · exact hrefused
      · split
        · split
          · exact hkept (control_ifaceGetSetting s)
          · exact hrefused
        · split
          · split
            · exact control_epGetStatus s
            · exact hrefused
          · exact hrefused
  · split
    · split
      · rw [udcReqStdDevSetAddress]
        split <;> exact hkept rfl
      · split
        · rw [udcReqStdDevClearFeature]
          split
          · exact hrefused
          · split <;> exact hkept rfl
        · split
          · rw [udcReqStdDevSetFeature]
            split
            · exact hrefused
            · split <;> exact hkept rfl
          · split
            · exact control_setConfiguration s
            · exact hrefused
    · split
      · split
        · exact control_setSetting s
        · exact hrefused
      · split
        · split
          · exact control_epClearFeature s
          · split
            · exact control_epSetFeature s
            · exact hrefused
        · exact hrefused

theorem control_udiHidSetup : (udiHidSetup s).2.control = s.control := by
  have hanswers := udiHidSetup_answers s
  generalize udiHidSetup s = r at hanswers ⊢
  cases hanswers with
  | reject => rfl
  | getDescriptor _ =>
    simp only [udiHidReqstdifacegetDescriptor]
    split
    · rfl
    · split
      · rfl
      · split <;> rfl
  | getByte _ _ => rfl
  | report _ =>
    simp only [udiHidGenericSetreport]
    split <;> rfl
  | setIdle _ => rfl
  | setProtocol _ => rfl

theorem control_offerSetup : (udcOfferSetup s).2.control = s.control := by
  rw [offerSetup_eq]
  split
  · exact control_udiHidSetup { s with udcPtrIface := 9 }
  · rfl

/-- **Decoding a request leaves the control endpoint alone.** -/
theorem control_processSetup : SparesControl (udcProcessSetup s) s Prod.snd := by
  have hclear : (udcClearCtrlreq s).control = s.control := rfl
  rw [udcProcessSetup]
  generalize udcClearCtrlreq s = t at hclear
  simp only [pure_eq_ok]
  split
  · exact hclear
  · split
    · refine (control_reqstd t).bind fun r hr => ?_
      split
      · exact hr.trans hclear
      · exact ((control_offerSetup r.2).trans hr).trans hclear
    · exact (control_offerSetup t).trans hclear

end Requests

end HidJoystick
