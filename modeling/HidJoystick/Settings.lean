import HidJoystick.ControlTransfers
import HidJoystick.DeviceSettings

/-!
# The settings

The settings of the device are spread over the firmware: the configuration number and the
device status are in `udc.c`, the idle rate and the protocol in the HID interface, and the
halt is a bit of the endpoint table. Together they are `DeviceSettings`.

* `Firmware.order` — what a request orders.
* `obeys_processSetup` — the decoder does what is ordered.
-/

namespace HidJoystick

open DeviceSettings

/-! ## The abstraction -/

/-- **The settings of the firmware** -/
structure Firmware.Holds (s : Firmware) (c : DeviceSettings Byte) : Prop where
  configuration : s.udcNumConfiguration = c.configuration
  remoteWakeup : s.udcDeviceStatus =
    if c.remoteWakeup then usbDevStatusRemotewakeup else usbDevStatusBusPowered
  idleRate : s.udiHidGenericRate = c.idleRate
  protocol : s.udiHidGenericProtocol = c.protocol
  /-- of EP 0x81 -/
  halted : (s.ctrl epInCtrl).stall = c.halted

/-- What a standard OUT request orders the device to do. -/
def Firmware.deviceOrder (s : Firmware) : Order Byte :=
  let req := s.uddGCtrlreq.req
  if s.takesDevice then
    if req.bRequest = usbReqSetConfiguration then .configure ((req.wValue &&& 0xFF).setWidth 8)
    else if req.bRequest = usbReqClearFeature then .setRemoteWakeup false
    else if req.bRequest = usbReqSetFeature then .setRemoteWakeup true
    else .keep
  else .keep

/-- What a standard OUT request orders the interface to do. A setting that does not exist is
refused, but the current one has been given up then. -/
def Firmware.interfaceOrder (s : Firmware) : Order Byte :=
  let req := s.uddGCtrlreq.req
  if req.bRequest = usbReqSetInterface ∧ req.wLength = 0 ∧ s.namesIface then
    .setInterface ((req.wValue &&& 0xFF).setWidth 8)
  else .keep

/-- What a standard OUT request orders EP 0x81 to do. -/
def Firmware.endpointOrder (s : Firmware) : Order Byte :=
  let req := s.uddGCtrlreq.req
  if s.takesEndpoint ∧ IsEpIn req.ep then .halt (req.bRequest == usbReqSetFeature) else .keep

/-- What a class request orders the interface to do. -/
def Firmware.hidOrder (s : Firmware) : Order Byte :=
  let req := s.uddGCtrlreq.req
  if s.offersHid ∧ s.takesHid then
    if req.bRequest = usbReqHidSetIdle then .setIdleRate ((req.wValue >>> 8).setWidth 8)
    else if req.bRequest = usbReqHidSetProtocol then .setProtocol (req.wValue.setWidth 8)
    else .keep
  else .keep

/-- What the request being decoded orders. -/
def Firmware.order (s : Firmware) : Order Byte :=
  let req := s.uddGCtrlreq.req
  if uddSetupIsIn req then .keep
  else if uddSetupType req = usbReqTypeStandard then
    if uddSetupRecipient req = usbReqRecipDevice then s.deviceOrder
    else if uddSetupRecipient req = usbReqRecipInterface then s.interfaceOrder
    else if uddSetupRecipient req = usbReqRecipEndpoint then s.endpointOrder
    else .keep
  else if uddSetupType req = usbReqTypeClass then s.hidOrder
  else .keep

/-- What an event is to the settings -/
def Firmware.settingsOrder (s : Firmware) : Event → Order Byte
  | .reset => .busReset
  | .setup packet => (s.atSetup packet).order
  | .sof _ | .collect | .transferComplete | .ctrlIn | .ctrlOut _ | .underflow | .overflow
  | .unstall => .keep

/-! ## The variables -/

/-- The settings that have variables of their own -/
structure SettingVars where
  /-- `udc_device_status` -/
  status : Word
  /-- `udi_hid_generic_rate` -/
  rate : Byte
  /-- `udi_hid_generic_protocol` -/
  protocol : Byte
  deriving DecidableEq

/-- These variables of the firmware -/
def Firmware.settingVars (s : Firmware) : SettingVars :=
  ⟨s.udcDeviceStatus, s.udiHidGenericRate, s.udiHidGenericProtocol⟩

/-- The effect of an order on them. -/
def SettingVars.apply : Order Byte → SettingVars → SettingVars
  | .keep, r => r
  | .halt _, r => r
  | .busReset, r => { r with status := 0 }
  | .configure n, r => if n = 0 then { r with status := 0 } else ⟨0, 0, 0⟩
  | .setInterface n, r => if n = 0 then { r with rate := 0, protocol := 0 } else r
  | .setRemoteWakeup false, r => { r with status := r.status &&& ~~~usbDevStatusRemotewakeup }
  | .setRemoteWakeup true, r => { r with status := r.status ||| usbDevStatusRemotewakeup }
  | .setIdleRate rate, r => { r with rate := rate }
  | .setProtocol protocol, r => { r with protocol := protocol }

section Endpoints

variable (s : Firmware)

@[simp] theorem settingVars_modifyCtrl (c : Fin 4) (f : UsbEp → UsbEp) :
    (s.modifyCtrl c f).settingVars = s.settingVars := rfl

theorem settingVars_call (callback : UddCallbackTrans) (status : UddEpStatus) (nb : Word) (ep : Byte) :
    (callback.call status nb ep s).settingVars = s.settingVars := by
  cases callback
  rfl

/-- The handler keeps the settings. -/
abbrev SparesSettings {α : Type} (r : Except Fault α) (s : Firmware) (f : α → Firmware) : Prop :=
  Spares r fun a => (f a).settingVars = s.settingVars

theorem settingVars_abort (ep : Byte) : SparesSettings (uddEpAbort ep s) s id := by
  refine (spares_getCtrl ep).bind fun c _ => (spares_getJob ep).bind fun j _ => ?_
  simp only
  split
  · split
    · exact settingVars_call _ _ _ _ _
    · rfl
  · rfl

theorem settingVars_setHalt (ep : Byte) : SparesSettings (uddEpSetHalt ep s) s Prod.snd :=
  (spares_getCtrl ep).bind fun _ _ => (settingVars_abort _ ep).bind fun _ ht => ht

theorem settingVars_clearHalt (ep : Byte) : SparesSettings (uddEpClearHalt ep s) s Prod.snd := by
  refine (spares_getCtrl ep).bind fun c _ => ?_
  simp only
  split
  · rfl
  · refine (spares_getJob ep).bind fun j _ => ?_
    split
    · exact fun _ => Fault.noConfusion
    · rfl

end Endpoints

/-! ## Interfaces and configurations -/

section Interfaces

variable (s : Firmware)

theorem settingVars_updateIfaceDesc (ifaceNum settingNum : Byte) :
    (udcUpdateIfaceDesc ifaceNum settingNum s).2.settingVars = s.settingVars := by
  obtain ⟨ptr, hptr⟩ := updateIfaceDesc_moves ifaceNum settingNum s
  rw [hptr]
  rfl

theorem settingVars_ifaceDisable (ifaceNum : Byte) :
    SparesSettings (udcIfaceDisable ifaceNum s) s Prod.snd := by
  by_cases h : s.udcNumConfiguration = 0 ∨ ifaceNum ≠ 0
  · rw [udcIfaceDisable_absent h]
    rfl
  · obtain ⟨hconf, hiface⟩ := not_or.mp h
    obtain rfl : ifaceNum = 0 := not_not.mp hiface
    have hconf' : { s with udcPtrIface := 9 }.udcNumConfiguration ≠ 0 := hconf
    simp only [udcIfaceDisable, udcUpdateIfaceDesc_present hconf, udcUpdateIfaceDesc_present hconf',
      udiHidGenericGetsetting, Bool.not_true, Bool.false_eq_true, if_false, udcFreeEndpoints_iface]
    rfl

/-- An interface that starts forgets what was set on it. -/
theorem settingVars_ifaceEnable (ifaceNum settingNum : Byte) :
    Spares (udcIfaceEnable ifaceNum settingNum s) fun r => r.2.settingVars =
      if r.1 then s.settingVars.apply (.setInterface 0) else s.settingVars := by
  have hmoved := settingVars_updateIfaceDesc s ifaceNum settingNum
  by_cases h : (udcUpdateIfaceDesc ifaceNum settingNum s).1 = true
  · have hptr : (udcUpdateIfaceDesc ifaceNum settingNum s).2.udcPtrIface = 9 := by
      rw [udcUpdateIfaceDesc_eq] at h ⊢
      split at h
      · cases h
      · split at h
        · next hpresent hzero => rw [if_neg hpresent, if_pos hzero]
        · cases h
    simp only [udcIfaceEnable, h, Bool.not_true, Bool.false_eq_true, if_false, hptr,
      udcAllocEndpoints_iface]
    split
    · exact hmoved
    · exact congrArg (SettingVars.apply (.setInterface 0)) hmoved
  · simp only [udcIfaceEnable, h]
    exact hmoved

theorem settingVars_disableIfaces (ifaceNums : List Byte) :
    SparesSettings (udcDisableIfaces ifaceNums s) s id := by
  induction ifaceNums generalizing s with
  | nil => rfl
  | cons ifaceNum rest ih =>
    exact (settingVars_ifaceDisable s ifaceNum).bind fun r hr =>
      (ih r.2).mono fun u hu => hu.trans hr

/-- `udc_reset` -/
theorem settingVars_reset :
    Spares (udcReset s) fun t => t.settingVars = s.settingVars.apply .busReset := by
  simp only [udcReset, pure_eq_ok, ok_bind]
  split
  · refine (settingVars_disableIfaces s udcIfaceNums).bind fun t ht => ?_
    exact congrArg (SettingVars.apply .busReset) ht
  · rfl

/-- `udc_req_std_dev_set_configuration`, once it has passed its checks -/
theorem settingVars_setConfiguration (hpipe : s.pipe.Consistent)
    (hlen : s.uddGCtrlreq.req.wLength = 0) (haddr : uddGetaddress s ≠ 0)
    (hnum : ¬ s.uddGCtrlreq.req.wValue &&& 0xFF > udcDeviceDescBNumConfigurations.setWidth 16) :
    Spares (udcReqStdDevSetConfiguration s) fun r => r.2.settingVars =
      s.settingVars.apply (.configure ((s.uddGCtrlreq.req.wValue &&& 0xFF).setWidth 8)) := by
  obtain ⟨u, hu, _⟩ := setConfiguration_configures hpipe hlen haddr hnum
  have hnums : udcIfaceNums = [0] := by decide
  rw [hu]
  simp only [udcReqStdDevSetConfiguration, hlen, haddr, hnum, ne_eq, not_true_eq_false, if_false,
    pure_eq_ok, hnums, udcEnableIfaces] at hu
  generalize hn : (s.uddGCtrlreq.req.wValue &&& 0xFF).setWidth 8 = n at hu ⊢
  rcases hr : udcReset s with f | t
  · rw [hr] at hu
    cases hu
  · have ht := (settingVars_reset s).value hr
    rw [hr] at hu
    simp only [ok_bind] at hu
    change u.settingVars = _
    split at hu
    · next hzero =>
      cases hu
      rw [SettingVars.apply, if_pos hzero]
      exact ht
    · next hzero =>
      rcases hr' : udcIfaceEnable 0 0 { t with udcNumConfiguration := n } with f | ⟨_ | _, v⟩
      · rw [hr'] at hu
        cases hu
      · rw [hr'] at hu
        cases hu
      · have hv := (settingVars_ifaceEnable _ 0 0).value hr'
        rw [hr'] at hu
        cases hu
        rw [SettingVars.apply, if_neg hzero, hv, if_pos rfl]
        exact congrArg (SettingVars.apply (.setInterface 0)) ht

/-- `udc_req_std_iface_set_setting` -/
theorem settingVars_setSetting :
    Spares (udcReqStdIfaceSetSetting s) fun r => r.2.settingVars =
      s.settingVars.apply (if r.1 then .setInterface 0 else .keep) := by
  simp only [udcReqStdIfaceSetSetting]
  split
  · rfl
  · split
    · rfl
    · refine (settingVars_ifaceDisable s _).bind fun r hr => ?_
      split
      · exact hr
      · refine (settingVars_ifaceEnable r.2 _ _).mono fun u hu => ?_
        rw [hu]
        split
        · exact congrArg (SettingVars.apply (.setInterface 0)) hr
        · exact hr

end Interfaces

/-! ## Requests -/

section Requests

variable {s : Firmware}

/-- The handler does to the settings what was ordered. -/
abbrev Obeys (r : Except Fault (Bool × Firmware)) (s : Firmware) (o : Order Byte) : Prop :=
  Spares r fun a => a.2.settingVars = s.settingVars.apply o

/-- IN requests order nothing. -/
theorem settingVars_devGetStrDesc : (udcReqStdDevGetStrDesc s).2.settingVars = s.settingVars := by
  simp only [udcReqStdDevGetStrDesc]
  split
  · rfl
  · split
    · rfl
    · split <;> rfl

theorem settingVars_devGetDescriptor :
    (udcReqStdDevGetDescriptor s).2.settingVars = s.settingVars := by
  have hstring := settingVars_devGetStrDesc (s := s)
  simp only [udcReqStdDevGetDescriptor]
  split
  · rfl
  · split
    · split <;> rfl
    · split
      · rfl
      · split
        · split
          · exact hstring
          · exact hstring
        · rfl

theorem settingVars_ifaceGetSetting : (udcReqStdIfaceGetSetting s).2.settingVars = s.settingVars := by
  have hmoved := settingVars_updateIfaceDesc s ((s.uddGCtrlreq.req.wIndex &&& 0xFF).setWidth 8) 0
  simp only [udcReqStdIfaceGetSetting]
  split
  · rfl
  · split
    · rfl
    · split
      · rfl
      · split
        · exact hmoved
        · exact hmoved

theorem settingVars_epGetStatus : SparesSettings (udcReqStdEpGetStatus s) s Prod.snd := by
  simp only [udcReqStdEpGetStatus]
  split
  · rfl
  · exact (spares_isHalted _ s).bind fun _ _ => rfl

/-- `udc_reqstd`, for IN requests -/
theorem settingVars_reqstd_in (hin : uddSetupIsIn s.uddGCtrlreq.req = true) :
    SparesSettings (udcReqstd s) s Prod.snd := by
  have hkept {r : Bool × Firmware} (h : r.2.settingVars = s.settingVars) :
      SparesSettings (.ok r) s Prod.snd := h
  have hrefused : SparesSettings (.ok (false, s)) s Prod.snd := rfl
  simp only [udcReqstd, hin, if_true, pure_eq_ok]
  split
  · exact hrefused
  · split
    · split
      · rw [udcReqStdDevGetStatus]
        split <;> exact hkept rfl
      · split
        · exact hkept settingVars_devGetDescriptor
        · split
          · rw [udcReqStdDevGetConfiguration]
            split <;> exact hkept rfl
          · exact hrefused
    · split
      · split
        · exact hkept settingVars_ifaceGetSetting
        · exact hrefused
      · split
        · split
          · exact settingVars_epGetStatus
          · exact hrefused
        · exact hrefused

/-- An order that is not taken -/
theorem obeys_refuse {o : Order Byte} (h : o = .keep) : Obeys (.ok (false, s)) s o := by
  rw [h]
  rfl

/-- The feature of the device, cleared or set -/
theorem obeys_feature (on : Bool) {u : Firmware}
    (hu : u.settingVars = s.settingVars.apply (.setRemoteWakeup on))
    (horder : s.deviceOrder = if s.takesDevice then .setRemoteWakeup on else .keep)
    (htakes : s.takesDevice ↔ s.uddGCtrlreq.req.wLength = 0 ∧
      s.uddGCtrlreq.req.wValue = usbDevFeatureRemoteWakeup) :
    Obeys
      (.ok (if s.uddGCtrlreq.req.wLength ≠ 0 then (false, s)
        else if s.uddGCtrlreq.req.wValue = usbDevFeatureRemoteWakeup then (true, u)
        else (false, s))) s s.deviceOrder := by
  rw [horder]
  split
  · next hlen => exact obeys_refuse (if_neg fun h => hlen (htakes.mp h).1)
  · next hlen =>
    split
    · next hvalue =>
      rw [if_pos (htakes.mpr ⟨not_not.mp hlen, hvalue⟩)]
      exact hu
    · next hvalue => exact obeys_refuse (if_neg fun h => hvalue (htakes.mp h).2)

/-- `udc_reqstd`, for OUT requests to the device -/
theorem obeys_device (hpipe : s.pipe.Consistent) :
    Obeys
      (if s.uddGCtrlreq.req.bRequest = usbReqSetAddress then .ok (udcReqStdDevSetAddress s)
        else if s.uddGCtrlreq.req.bRequest = usbReqClearFeature then
          .ok (udcReqStdDevClearFeature s)
        else if s.uddGCtrlreq.req.bRequest = usbReqSetFeature then .ok (udcReqStdDevSetFeature s)
        else if s.uddGCtrlreq.req.bRequest = usbReqSetConfiguration then
          udcReqStdDevSetConfiguration s
        else .ok (false, s)) s s.deviceOrder := by
  have hdistinct : usbReqClearFeature ≠ usbReqSetConfiguration ∧
      usbReqSetFeature ≠ usbReqSetConfiguration ∧ usbReqSetFeature ≠ usbReqClearFeature ∧
      usbReqSetAddress ≠ usbReqSetConfiguration ∧ usbReqSetAddress ≠ usbReqClearFeature ∧
      usbReqSetAddress ≠ usbReqSetFeature := by decide
  obtain ⟨hclearConf, hsetConf, hsetClear, haddrConf, haddrClear, haddrSet⟩ := hdistinct
  split
  · next hreq =>
    have hkeep : s.deviceOrder = .keep := by
      simp only [Firmware.deviceOrder, hreq, if_neg haddrConf, if_neg haddrClear, if_neg haddrSet,
        ite_self]
    rw [hkeep, udcReqStdDevSetAddress]
    split <;> rfl
  · next haddress =>
    split
    · next hreq =>
      refine obeys_feature false rfl ?_ (by simp [Firmware.takesDevice, hreq])
      simp only [Firmware.deviceOrder, hreq, if_neg hclearConf, if_true]
    · next hclear =>
      split
      · next hreq =>
        refine obeys_feature true rfl ?_ (by simp [Firmware.takesDevice, hreq])
        simp only [Firmware.deviceOrder, hreq, if_neg hsetConf, if_neg hsetClear, if_true]
      · next hset =>
        split
        · next hreq =>
          have htakes : s.takesDevice ↔ s.uddGCtrlreq.req.wLength = 0 ∧ s.usbAddr ≠ 0 ∧
              (s.uddGCtrlreq.req.wValue &&& 0xFF).toNat ≤ 1 := by
            simp [Firmware.takesDevice, hreq]
          simp only [Firmware.deviceOrder, hreq, if_true]
          by_cases h : s.takesDevice
          · obtain ⟨hlen, haddr, hnum⟩ := htakes.mp h
            rw [if_pos h]
            refine settingVars_setConfiguration s hpipe hlen haddr ?_
            rw [gt_iff_lt, BitVec.lt_def]
            exact Nat.not_lt.mpr hnum
          · rw [setConfiguration_refuses fun hall => h (htakes.mpr hall)]
            exact obeys_refuse (if_neg h)
        · next hconf =>
          refine obeys_refuse (if_neg ?_)
          rintro ⟨_, h | ⟨h | h, _⟩ | ⟨h, _⟩⟩
          · exact haddress h
          · exact hclear h
          · exact hset h
          · exact hconf h

/-- `udc_req_std_iface_set_setting` -/
theorem obeys_setSetting (hreq : s.uddGCtrlreq.req.bRequest = usbReqSetInterface) :
    Obeys (udcReqStdIfaceSetSetting s) s s.interfaceOrder := by
  by_cases h : s.uddGCtrlreq.req.wLength = 0 ∧ s.namesIface
  · have horder : s.interfaceOrder = .setInterface ((s.uddGCtrlreq.req.wValue &&& 0xFF).setWidth 8) :=
      if_pos ⟨hreq, h⟩
    obtain ⟨u, hu, _⟩ := setSetting_selects h.1 h.2.1 h.2.2
    have hvars := (settingVars_setSetting s).value hu
    rw [hu, horder]
    change u.settingVars = _
    rw [hvars]
    -- without a setting there is nothing to start
    by_cases hzero : (s.uddGCtrlreq.req.wValue &&& 0xFF).setWidth 8 = (0 : Byte)
    · rw [hzero]
      rfl
    · rw [beq_false_of_ne hzero, SettingVars.apply, if_neg hzero]
      rfl
  · rw [setSetting_refuses h]
    exact obeys_refuse (if_neg fun hall => h hall.2)

/-- `udc_reqstd`, for OUT requests -/
theorem obeys_reqstd (hpipe : s.pipe.Consistent) (hout : uddSetupIsIn s.uddGCtrlreq.req = false)
    (htype : uddSetupType s.uddGCtrlreq.req = usbReqTypeStandard) :
    Obeys (udcReqstd s) s s.order := by
  simp only [udcReqstd, Firmware.order, hout, htype, Bool.false_eq_true, if_false, if_true,
    pure_eq_ok]
  split
  · exact obeys_device hpipe
  · split
    · split
      · next hreq => exact obeys_setSetting hreq
      · next hreq => exact obeys_refuse (if_neg fun h => hreq h.1)
    · split
      · have hhalt : s.settingVars.apply s.endpointOrder = s.settingVars := by
          simp only [Firmware.endpointOrder]
          split <;> rfl
        have hkept {r : Except Fault (Bool × Firmware)} (h : SparesSettings r s Prod.snd) :
            Obeys r s s.endpointOrder := h.mono fun a ha => ha.trans hhalt.symm
        split
        · refine hkept ?_
          simp only [udcReqStdEpClearFeature]
          split
          · rfl
          · split
            · exact settingVars_clearHalt s _
            · rfl
        · split
          · refine hkept ?_
            simp only [udcReqStdEpSetFeature]
            split
            · rfl
            · split
              · refine (settingVars_abort s _).bind fun t ht => ?_
                exact (settingVars_setHalt t _).mono fun u hu => hu.trans ht
              · rfl
          · exact hkept rfl
      · exact obeys_refuse rfl

/-- `udi_hid_setup`, for IN requests -/
theorem settingVars_udiHidSetup_in (hin : uddSetupIsIn s.uddGCtrlreq.req = true) :
    (udiHidSetup s).2.settingVars = s.settingVars := by
  have hreport : (udiHidGenericSetreport s).2.settingVars = s.settingVars := by
    simp only [udiHidGenericSetreport]
    split <;> rfl
  have hdescriptor : (udiHidReqstdifacegetDescriptor s).2.settingVars = s.settingVars := by
    simp only [udiHidReqstdifacegetDescriptor]
    split
    · rfl
    · split
      · rfl
      · split <;> rfl
  simp only [udiHidSetup, hin, if_true]
  split
  · split
    · exact hdescriptor
    · rfl
  · split
    · split
      · exact hreport
      · split
        · rfl
        · split <;> rfl
    · rfl

/-- `udi_hid_setup`, for OUT requests -/
theorem settingVars_udiHidSetup_out (hout : uddSetupIsIn s.uddGCtrlreq.req = false)
    (hoffers : s.offersHid) :
    (udiHidSetup s).2.settingVars = s.settingVars.apply
      (if uddSetupType s.uddGCtrlreq.req = usbReqTypeClass then s.hidOrder else .keep) := by
  have hdistinct : usbReqHidSetReport ≠ usbReqHidSetIdle ∧
      usbReqHidSetReport ≠ usbReqHidSetProtocol ∧ usbReqHidSetProtocol ≠ usbReqHidSetIdle := by
    decide
  simp only [udiHidSetup, hout, uddSetupIsOut_of_not_isIn hout, Bool.false_eq_true, if_false,
    if_true]
  split
  · simp only [Firmware.hidOrder, hoffers, true_and]
    split
    · next hreq =>
      -- a report that is set is not a setting
      have hkeep : (if s.takesHid then
          if s.uddGCtrlreq.req.bRequest = usbReqHidSetIdle then
            Order.setIdleRate ((s.uddGCtrlreq.req.wValue >>> 8).setWidth 8)
          else if s.uddGCtrlreq.req.bRequest = usbReqHidSetProtocol then
            .setProtocol (s.uddGCtrlreq.req.wValue.setWidth 8)
          else .keep
        else .keep : Order Byte) = .keep := by
        rw [hreq, if_neg hdistinct.1, if_neg hdistinct.2.1, ite_self]
      rw [hkeep, udiHidGenericSetreport]
      split <;> rfl
    · next hreport =>
      split
      · next hreq =>
        have htakes : s.takesHid := Or.inr (Or.inl hreq)
        rw [if_pos htakes]
        rfl
      · next hidle =>
        split
        · next hreq =>
          have htakes : s.takesHid ↔ s.uddGCtrlreq.req.wLength = 0 := by
            simp only [Firmware.takesHid, hreq, hdistinct.2.1.symm, hdistinct.2.2, false_and,
              false_or, true_and]
          split
          · next hlen =>
            rw [if_neg fun h => hlen (htakes.mp h).symm]
            rfl
          · next hlen =>
            rw [if_pos (htakes.mpr (not_not.mp hlen).symm)]
            rfl
        · rw [ite_self]
          rfl
  · rfl

/-- **The decoder does to the settings what is ordered.** -/
theorem obeys_processSetup (hpipe : s.pipe.Consistent) (hjob : (s.job epOutJob).busy = false)
    (hstays : ¬ s.strays) : Obeys (udcProcessSetup s) s s.order := by
  have hclass : usbReqTypeStandard ≠ usbReqTypeClass := by decide
  generalize ht : udcClearCtrlreq s = t
  have hpipe' : t.pipe.Consistent := by rw [← ht]; exact hpipe
  have hjob' : (t.job epOutJob).busy = false := by rw [← ht]; exact hjob
  have hstays' : ¬ t.strays := by rw [← ht]; exact hstays
  have hsame : Obeys (udcProcessSetup s) t t.order → Obeys (udcProcessSetup s) s s.order := by
    rw [← ht]
    exact id
  apply hsame
  simp only [udcProcessSetup, ht, pure_eq_ok]
  rcases hin : uddSetupIsIn t.uddGCtrlreq.req with _ | _
  · simp only [Bool.false_eq_true, false_and, if_false]
    by_cases htype : uddSetupType t.uddGCtrlreq.req = usbReqTypeStandard
    · obtain ⟨accepted, u, hu, hdoes, _⟩ := reqstd_responds hpipe' hjob' htype hstays'
      have hvars := (obeys_reqstd hpipe' hin htype).value hu
      simp only [if_pos htype, hu, ok_bind]
      rcases accepted with _ | _
      · -- the interfaces are offered what the device refused, and leave it
        change (udcOfferSetup u).2.settingVars = _
        rw [← hvars, offerSetup_eq]
        split
        · next hoffers =>
          rw [settingVars_udiHidSetup_out (s := { u with udcPtrIface := 9 })
            (by rw [← hin, ← hdoes.req]) hoffers, if_neg]
          · rfl
          · change uddSetupType u.uddGCtrlreq.req ≠ usbReqTypeClass
            rw [hdoes.req, htype]
            exact hclass
        · rfl
      · exact hvars
    · simp only [if_neg htype, ok_bind, Bool.false_eq_true, if_false]
      change (udcOfferSetup t).2.settingVars = _
      simp only [Firmware.order, hin, htype, Bool.false_eq_true, if_false]
      rw [offerSetup_eq]
      split
      · next hoffers =>
        exact settingVars_udiHidSetup_out (s := { t with udcPtrIface := 9 }) hin hoffers
      · next hoffers =>
        have hkeep : t.hidOrder = .keep := if_neg fun h => hoffers h.1
        rw [hkeep, ite_self]
        rfl
  · have hkeep : t.order = .keep := if_pos hin
    have hoffer (u : Firmware) (hreq : u.uddGCtrlreq.req = t.uddGCtrlreq.req) :
        (udcOfferSetup u).2.settingVars = u.settingVars := by
      rw [offerSetup_eq]
      split
      · exact settingVars_udiHidSetup_in (s := { u with udcPtrIface := 9 }) (by rw [← hin, ← hreq])
      · rfl
    rw [hkeep]
    split
    · rfl
    · by_cases htype : uddSetupType t.uddGCtrlreq.req = usbReqTypeStandard
      · obtain ⟨accepted, u, hu, hdoes, _⟩ := reqstd_responds hpipe' hjob' htype hstays'
        have hvars : u.settingVars = t.settingVars := (settingVars_reqstd_in hin).value hu
        simp only [if_pos htype, hu, ok_bind]
        rcases accepted with _ | _
        · exact (hoffer u hdoes.req).trans hvars
        · exact hvars
      · simp only [if_neg htype, ok_bind, Bool.false_eq_true, if_false]
        exact hoffer t rfl

end Requests

end HidJoystick
