import HidJoystick.Device

/-!
# What was read, forgotten

Besides what it computes, a tick leaves two traces of what the ports read: `jstk_testMode` holds
the whole of port B, and the history tells the readings. `Firmware.blind` forgets both. Nothing
outside the tick looks at them, so every handler commutes with forgetting them
(`blind_step`); there is one equation a function.
-/

namespace HidJoystick

/-- An entry of the history, without what was read -/
def blindEntry : Action → Action
  | .sampled _ report => .sampled ⟨0, 0, 0, 0⟩ report
  | .started => .started
  | .stopped => .stopped
  | .offered report accepted => .offered report accepted
  | .received packet => .received packet
  | .completed => .completed
  | .aborted => .aborted

/-- The firmware, without what was read -/
def Firmware.blind (s : Firmware) : Firmware :=
  { s with jstkTestMode := 0, history := s.history.map blindEntry }

/-- An answer and the firmware, without what was read -/
abbrev blindAnswer : Bool × Firmware → Bool × Firmware := Prod.map id Firmware.blind

variable (s : Firmware)

/-! ## The endpoint driver -/

theorem blind_call (callback : UddCallbackTrans) (status : UddEpStatus) (nb : Word) (ep : Byte) :
    callback.call status nb ep s.blind = (callback.call status nb ep s).blind := by
  cases callback
  cases status <;> rfl

theorem blind_uddEpInit (ep bmAttributes : Byte) (size : Word) :
    uddEpInit ep bmAttributes size s.blind = (uddEpInit ep bmAttributes size s).map .blind := by
  rw [uddEpInit, uddEpInit]
  rcases uddEpGetCtrl ep with f | c <;> rfl

theorem blind_uddEpAlloc (ep bmAttributes : Byte) (size : Word) :
    uddEpAlloc ep bmAttributes size s.blind =
      (uddEpAlloc ep bmAttributes size s).map blindAnswer := by
  rw [uddEpAlloc, uddEpAlloc]
  rcases uddEpGetCtrl ep with f | c
  · rfl
  · simp only [ok_bind, pure_eq_ok, blind_uddEpInit, apply_ite (Except.map blindAnswer)]
    congr 1
    refine Except.map_bind_comm fun t => ?_
    rw [apply_ite (Except.map blindAnswer)]
    rfl

/-- A job ends with its callback, if it has one. -/
theorem blind_finish (callback : Option UddCallbackTrans) (status : UddEpStatus) (nb : Word)
    (ep : Byte) :
    (match callback with
      | some callback => .ok (callback.call status nb ep s.blind)
      | none => .ok s.blind : Except Fault Firmware) =
    (match callback with
      | some callback => .ok (callback.call status nb ep s)
      | none => .ok s : Except Fault Firmware).map .blind := by
  cases callback with
  | none => rfl
  | some callback => exact congrArg Except.ok (blind_call s callback status nb ep)

theorem blind_uddEpAbort (ep : Byte) : uddEpAbort ep s.blind = (uddEpAbort ep s).map .blind := by
  rw [uddEpAbort, uddEpAbort]
  rcases uddEpGetCtrl ep with f | c
  · rfl
  · rcases uddEpGetJob ep with f | j
    · rfl
    · simp only [ok_bind, pure_eq_ok, apply_ite (Except.map Firmware.blind)]
      congr 1
      let t := (s.modifyCtrl c uddEndpointSetNACK0).modifyJob j fun job => { job with busy := false }
      exact blind_finish t (t.job j).callTrans _ _ _

theorem blind_uddEpFree (ep : Byte) : uddEpFree ep s.blind = (uddEpFree ep s).map .blind := by
  rw [uddEpFree, uddEpFree, blind_uddEpAbort]
  refine Except.map_bind_comm fun t => ?_
  rcases uddEpGetCtrl ep with f | c <;> rfl

theorem blind_uddEpSetHalt (ep : Byte) :
    uddEpSetHalt ep s.blind = (uddEpSetHalt ep s).map blindAnswer := by
  rw [uddEpSetHalt, uddEpSetHalt]
  rcases uddEpGetCtrl ep with f | c
  · rfl
  · have habort := blind_uddEpAbort (s.modifyCtrl c uddEndpointEnableStall) ep
    simp only [ok_bind, pure_eq_ok]
    exact (congrArg (· >>= _) habort).trans (Except.map_bind_comm fun t => rfl)

theorem blind_uddEpClearHalt (ep : Byte) :
    uddEpClearHalt ep s.blind = (uddEpClearHalt ep s).map blindAnswer := by
  rw [uddEpClearHalt, uddEpClearHalt]
  rcases uddEpGetCtrl ep with f | c
  · rfl
  · rcases uddEpGetJob ep with f | j
    · simp only [ok_bind, pure_eq_ok, apply_ite (Except.map blindAnswer)]
      rfl
    · simp only [ok_bind, pure_eq_ok, apply_ite (Except.map blindAnswer)]
      rfl

theorem blind_uddEpTransComplet (ep : Byte) :
    uddEpTransComplet ep s.blind = (uddEpTransComplet ep s).map .blind := by
  rw [uddEpTransComplet, uddEpTransComplet]
  rcases uddEpGetJob ep with f | j
  · rfl
  · rcases uddEpGetCtrl ep with f | c
    · rfl
    · simp only [ok_bind, pure_eq_ok, apply_ite (Except.map Firmware.blind)]
      congr 2
      congr 1
      congr 1
      let t := s.modifyJob j fun job => { job with nbTrans := job.nbTrans + (s.ctrl c).auxdata }
      let u := t.modifyJob j fun job => { job with busy := false }
      exact blind_finish u (t.job j).callTrans .ok (t.job j).nbTrans ep

/-! ## The interface and the device controller -/

theorem blind_udcUpdateIfaceDesc (ifaceNum settingNum : Byte) :
    udcUpdateIfaceDesc ifaceNum settingNum s.blind =
      blindAnswer (udcUpdateIfaceDesc ifaceNum settingNum s) := by
  rw [udcUpdateIfaceDesc_eq, udcUpdateIfaceDesc_eq, apply_ite blindAnswer, apply_ite blindAnswer]
  rfl

theorem blind_udiHidGenericSetreport :
    udiHidGenericSetreport s.blind = blindAnswer (udiHidGenericSetreport s) := by
  simp only [udiHidGenericSetreport, apply_ite blindAnswer]
  rfl

theorem blind_udiHidReqstdifacegetDescriptor :
    udiHidReqstdifacegetDescriptor s.blind = blindAnswer (udiHidReqstdifacegetDescriptor s) := by
  simp only [udiHidReqstdifacegetDescriptor, apply_ite blindAnswer]
  rfl

theorem blind_udiHidGenericSetup :
    udiHidGenericSetup s.blind = blindAnswer (udiHidGenericSetup s) := by
  simp only [udiHidGenericSetup, udiHidSetup, blind_udiHidGenericSetreport,
    blind_udiHidReqstdifacegetDescriptor, apply_ite blindAnswer]
  rfl

theorem blind_udcFreeEndpoints (fuel epDesc : ℕ) :
    udcFreeEndpoints fuel epDesc s.blind = (udcFreeEndpoints fuel epDesc s).map .blind := by
  induction fuel generalizing epDesc s with
  | zero => rfl
  | succ fuel ih =>
    rw [udcFreeEndpoints, udcFreeEndpoints]
    rcases udcNextDescInIface epDesc usbDtEndpoint with _ | epDesc
    · rfl
    · simp only [blind_uddEpFree]
      exact Except.map_bind_comm fun t => ih t epDesc

theorem blind_udcIfaceDisable (ifaceNum : Byte) :
    udcIfaceDisable ifaceNum s.blind = (udcIfaceDisable ifaceNum s).map blindAnswer := by
  rw [udcIfaceDisable, udcIfaceDisable, blind_udcUpdateIfaceDesc]
  obtain ⟨_ | _, t⟩ := udcUpdateIfaceDesc ifaceNum 0 s
  · rfl
  · have hnext := blind_udcUpdateIfaceDesc t ifaceNum udiHidGenericGetsetting
    simp only [Prod.map_apply, id, hnext]
    obtain ⟨_ | _, u⟩ := udcUpdateIfaceDesc ifaceNum udiHidGenericGetsetting t
    · rfl
    · exact (congrArg (· >>= _) (blind_udcFreeEndpoints u _ _)).trans
        (Except.map_bind_comm fun v => rfl)

theorem blind_udcAllocEndpoints (fuel epDesc : ℕ) :
    udcAllocEndpoints fuel epDesc s.blind =
      (udcAllocEndpoints fuel epDesc s).map blindAnswer := by
  induction fuel generalizing epDesc s with
  | zero => rfl
  | succ fuel ih =>
    rw [udcAllocEndpoints, udcAllocEndpoints]
    rcases udcNextDescInIface epDesc usbDtEndpoint with _ | epDesc
    · rfl
    · simp only [blind_uddEpAlloc]
      refine Except.map_bind_comm fun r => ?_
      obtain ⟨_ | _, t⟩ := r
      · rfl
      · exact ih t epDesc

theorem blind_udcIfaceEnable (ifaceNum settingNum : Byte) :
    udcIfaceEnable ifaceNum settingNum s.blind =
      (udcIfaceEnable ifaceNum settingNum s).map blindAnswer := by
  rw [udcIfaceEnable, udcIfaceEnable, blind_udcUpdateIfaceDesc]
  obtain ⟨_ | _, t⟩ := udcUpdateIfaceDesc ifaceNum settingNum s
  · rfl
  · refine (congrArg (· >>= _) (blind_udcAllocEndpoints t _ _)).trans
      (Except.map_bind_comm fun r => ?_)
    obtain ⟨_ | _, u⟩ := r <;> rfl

theorem blind_udcDisableIfaces (ifaceNums : List Byte) :
    udcDisableIfaces ifaceNums s.blind = (udcDisableIfaces ifaceNums s).map .blind := by
  induction ifaceNums generalizing s with
  | nil => rfl
  | cons ifaceNum rest ih =>
    rw [udcDisableIfaces, udcDisableIfaces, blind_udcIfaceDisable]
    exact Except.map_bind_comm fun r => ih r.2

theorem blind_udcEnableIfaces (ifaceNums : List Byte) :
    udcEnableIfaces ifaceNums s.blind = (udcEnableIfaces ifaceNums s).map blindAnswer := by
  induction ifaceNums generalizing s with
  | nil => rfl
  | cons ifaceNum rest ih =>
    rw [udcEnableIfaces, udcEnableIfaces, blind_udcIfaceEnable]
    refine Except.map_bind_comm fun r => ?_
    obtain ⟨_ | _, t⟩ := r
    · rfl
    · exact ih t

theorem blind_udcReset : udcReset s.blind = (udcReset s).map .blind := by
  rw [udcReset, udcReset]
  by_cases hconf : s.udcNumConfiguration = 0
  · have hconf' : ¬ s.udcNumConfiguration ≠ 0 := not_not.mpr hconf
    rw [if_neg hconf', if_neg (show ¬ s.blind.udcNumConfiguration ≠ 0 from hconf')]
    rfl
  · rw [if_pos hconf, if_pos (show s.blind.udcNumConfiguration ≠ 0 from hconf),
      blind_udcDisableIfaces]
    exact Except.map_bind_comm fun t => rfl

/-! ## Requests -/

theorem blind_udcReqStdDevGetStatus :
    udcReqStdDevGetStatus s.blind = blindAnswer (udcReqStdDevGetStatus s) := by
  simp only [udcReqStdDevGetStatus, apply_ite blindAnswer]
  rfl

theorem blind_udcReqStdDevClearFeature :
    udcReqStdDevClearFeature s.blind = blindAnswer (udcReqStdDevClearFeature s) := by
  simp only [udcReqStdDevClearFeature, apply_ite blindAnswer]
  rfl

theorem blind_udcReqStdDevSetFeature :
    udcReqStdDevSetFeature s.blind = blindAnswer (udcReqStdDevSetFeature s) := by
  simp only [udcReqStdDevSetFeature, apply_ite blindAnswer]
  rfl

theorem blind_udcReqStdDevSetAddress :
    udcReqStdDevSetAddress s.blind = blindAnswer (udcReqStdDevSetAddress s) := by
  simp only [udcReqStdDevSetAddress, apply_ite blindAnswer]
  rfl

theorem blind_udcReqStdDevGetConfiguration :
    udcReqStdDevGetConfiguration s.blind = blindAnswer (udcReqStdDevGetConfiguration s) := by
  simp only [udcReqStdDevGetConfiguration, apply_ite blindAnswer]
  rfl

theorem blind_udcReqStdDevGetStrDesc :
    udcReqStdDevGetStrDesc s.blind = blindAnswer (udcReqStdDevGetStrDesc s) := by
  simp only [udcReqStdDevGetStrDesc, apply_ite blindAnswer]
  rfl

theorem blind_udcReqStdDevGetDescriptor :
    udcReqStdDevGetDescriptor s.blind = blindAnswer (udcReqStdDevGetDescriptor s) := by
  simp only [udcReqStdDevGetDescriptor, blind_udcReqStdDevGetStrDesc, apply_ite blindAnswer]
  obtain ⟨_ | _, t⟩ := udcReqStdDevGetStrDesc s <;> rfl

theorem blind_udcReqStdDevSetConfiguration :
    udcReqStdDevSetConfiguration s.blind =
      (udcReqStdDevSetConfiguration s).map blindAnswer := by
  simp only [udcReqStdDevSetConfiguration, pure_eq_ok, blind_udcReset,
    apply_ite (Except.map blindAnswer)]
  congr 3
  refine Except.map_bind_comm fun t => ?_
  rw [apply_ite (Except.map blindAnswer), ← blind_udcEnableIfaces]
  rfl

theorem blind_udcReqStdIfaceGetSetting :
    udcReqStdIfaceGetSetting s.blind = blindAnswer (udcReqStdIfaceGetSetting s) := by
  simp only [udcReqStdIfaceGetSetting, blind_udcUpdateIfaceDesc, apply_ite blindAnswer]
  rfl

theorem blind_udcReqStdIfaceSetSetting :
    udcReqStdIfaceSetSetting s.blind = (udcReqStdIfaceSetSetting s).map blindAnswer := by
  simp only [udcReqStdIfaceSetSetting, pure_eq_ok, blind_udcIfaceDisable,
    apply_ite (Except.map blindAnswer)]
  congr 2
  refine Except.map_bind_comm fun r => ?_
  obtain ⟨_ | _, t⟩ := r
  · rfl
  · exact blind_udcIfaceEnable t _ _

theorem blind_udcReqStdEpGetStatus :
    udcReqStdEpGetStatus s.blind = (udcReqStdEpGetStatus s).map blindAnswer := by
  simp only [udcReqStdEpGetStatus, pure_eq_ok, apply_ite (Except.map blindAnswer)]
  congr 1
  have hhalted : uddEpIsHalted s.blind.uddGCtrlreq.req.ep s.blind =
    uddEpIsHalted s.uddGCtrlreq.req.ep s := rfl
  rw [hhalted]
  rcases uddEpIsHalted s.uddGCtrlreq.req.ep s with f | halted <;> rfl

theorem blind_udcReqStdEpClearFeature :
    udcReqStdEpClearFeature s.blind = (udcReqStdEpClearFeature s).map blindAnswer := by
  simp only [udcReqStdEpClearFeature, pure_eq_ok, blind_uddEpClearHalt,
    apply_ite (Except.map blindAnswer)]
  rfl

theorem blind_udcReqStdEpSetFeature :
    udcReqStdEpSetFeature s.blind = (udcReqStdEpSetFeature s).map blindAnswer := by
  simp only [udcReqStdEpSetFeature, pure_eq_ok, blind_uddEpAbort,
    apply_ite (Except.map blindAnswer)]
  congr 2
  exact Except.map_bind_comm fun t => blind_uddEpSetHalt t _

theorem blind_udcReqstd : udcReqstd s.blind = (udcReqstd s).map blindAnswer := by
  simp only [udcReqstd, pure_eq_ok, blind_udcReqStdDevGetStatus, blind_udcReqStdDevClearFeature,
    blind_udcReqStdDevSetFeature, blind_udcReqStdDevSetAddress, blind_udcReqStdDevGetConfiguration,
    blind_udcReqStdDevGetDescriptor, blind_udcReqStdDevSetConfiguration,
    blind_udcReqStdIfaceGetSetting, blind_udcReqStdIfaceSetSetting, blind_udcReqStdEpGetStatus,
    blind_udcReqStdEpClearFeature, blind_udcReqStdEpSetFeature, apply_ite (Except.map blindAnswer)]
  rfl

theorem blind_udcReqIface : udcReqIface s.blind = blindAnswer (udcReqIface s) := by
  simp only [udcReqIface, blind_udcUpdateIfaceDesc, apply_ite blindAnswer]
  congr 2
  have hiface : (s.blind.uddGCtrlreq.req.wIndex &&& 0xFF).setWidth 8 =
    (s.uddGCtrlreq.req.wIndex &&& 0xFF).setWidth 8 := rfl
  rw [hiface]
  obtain ⟨_ | _, t⟩ := udcUpdateIfaceDesc ((s.uddGCtrlreq.req.wIndex &&& 0xFF).setWidth 8) 0 s
  · rfl
  · simp only [Prod.map_apply, id, blind_udcUpdateIfaceDesc]
    obtain ⟨_ | _, u⟩ := udcUpdateIfaceDesc _ udiHidGenericGetsetting t
    · rfl
    · exact blind_udiHidGenericSetup u

theorem blind_udcOfferIfaces (ifaceNums : List Byte) :
    udcOfferIfaces ifaceNums s.blind = blindAnswer (udcOfferIfaces ifaceNums s) := by
  induction ifaceNums generalizing s with
  | nil => rfl
  | cons ifaceNum rest ih =>
    rw [udcOfferIfaces, udcOfferIfaces, blind_udcUpdateIfaceDesc]
    obtain ⟨_ | _, t⟩ := udcUpdateIfaceDesc ifaceNum udiHidGenericGetsetting s
    · rfl
    · simp only [Prod.map_apply, id, blind_udiHidGenericSetup]
      obtain ⟨_ | _, u⟩ := udiHidGenericSetup t
      · exact ih u
      · rfl

theorem blind_udcReqEp : udcReqEp s.blind = blindAnswer (udcReqEp s) := by
  simp only [udcReqEp, blind_udcOfferIfaces, apply_ite blindAnswer]
  rfl

theorem blind_udcOfferSetup : udcOfferSetup s.blind = blindAnswer (udcOfferSetup s) := by
  have hiface : (if uddSetupRecipient s.blind.uddGCtrlreq.req = usbReqRecipInterface then
        udcReqIface s.blind else (false, s.blind)) =
      blindAnswer (if uddSetupRecipient s.uddGCtrlreq.req = usbReqRecipInterface then
        udcReqIface s else (false, s)) := by
    rw [blind_udcReqIface, apply_ite blindAnswer]
    rfl
  rw [udcOfferSetup, udcOfferSetup, hiface]
  generalize (if uddSetupRecipient s.uddGCtrlreq.req = usbReqRecipInterface then
    udcReqIface s else (false, s)) = r
  obtain ⟨_ | _, t⟩ := r
  · simp only [Prod.map_apply, id, Bool.false_eq_true, if_false, blind_udcReqEp,
      apply_ite blindAnswer]
    rfl
  · rfl

theorem blind_udcProcessSetup : udcProcessSetup s.blind = (udcProcessSetup s).map blindAnswer := by
  have hclear : udcClearCtrlreq s.blind = (udcClearCtrlreq s).blind := rfl
  simp only [udcProcessSetup, hclear, pure_eq_ok, blind_udcReqstd, apply_ite (Except.map blindAnswer)]
  generalize udcClearCtrlreq s = t
  congr 2
  · refine Except.map_bind_comm fun r => ?_
    obtain ⟨_ | _, u⟩ := r
    · exact congrArg Except.ok (blind_udcOfferSetup u)
    · rfl
  · exact congrArg Except.ok (blind_udcOfferSetup t)

/-! ## The control endpoint -/

theorem blind_uddCtrlEndofrequest : uddCtrlEndofrequest s.blind = (uddCtrlEndofrequest s).blind := by
  rw [uddCtrlEndofrequest, uddCtrlEndofrequest, show s.blind.uddGCtrlreq = s.uddGCtrlreq from rfl]
  rcases s.uddGCtrlreq.callback with _ | ⟨_ | _⟩ <;> rfl

theorem blind_uddCtrlInSent : uddCtrlInSent s.blind = (uddCtrlInSent s).blind := by
  simp only [uddCtrlInSent, blind_uddCtrlEndofrequest, apply_ite Firmware.blind]
  rfl

theorem blind_uddCtrlOutReceived :
    uddCtrlOutReceived s.blind = (uddCtrlOutReceived s).map .blind := by
  simp only [uddCtrlOutReceived, pure_eq_ok, blind_uddCtrlEndofrequest, uddCtrlCopy,
    apply_ite (Except.map Firmware.blind)]
  congr 1
  by_cases hcopy : uddCtrlNbData s = 0
  · rw [if_pos hcopy, if_pos (show uddCtrlNbData s.blind = 0 from hcopy)]
    simp only [ok_bind, apply_ite (Except.map Firmware.blind)]
    rfl
  · rw [if_neg hcopy, if_neg (show uddCtrlNbData s.blind ≠ 0 from hcopy)]
    rfl

theorem blind_uddCtrlRestart : uddCtrlRestart s.blind = (uddCtrlRestart s).blind := by
  simp only [uddCtrlRestart, blind_uddCtrlEndofrequest, apply_ite Firmware.blind,
    apply_ite uddCtrlInit]
  rfl

theorem blind_uddCtrlAccept : uddCtrlAccept s.blind = (uddCtrlAccept s).blind := by
  have hin := blind_uddCtrlInSent
    { s with
      uddCtrlPrevPayloadNbTrans := 0
      uddCtrlPayloadNbTrans := 0
      uddEpControlState := .dataIn }
  simp only [uddCtrlAccept, apply_ite Firmware.blind, ← hin]
  rfl

theorem blind_uddCtrlSetupReceived :
    uddCtrlSetupReceived s.blind = (uddCtrlSetupReceived s).map .blind := by
  simp only [uddCtrlSetupReceived, pure_eq_ok, blind_uddCtrlRestart,
    apply_ite (Except.map Firmware.blind)]
  generalize uddCtrlRestart s = t
  congr 1
  have hfill : uddCtrlFillRequest t.blind = (uddCtrlFillRequest t).blind := rfl
  rw [hfill, blind_udcProcessSetup]
  refine Except.map_bind_comm fun r => ?_
  obtain ⟨_ | _, u⟩ := r
  · rfl
  · exact congrArg Except.ok (blind_uddCtrlAccept u)

/-! ## The device -/

theorem blind_usbTrncomplVect : usbTrncomplVect s.blind = (usbTrncomplVect s).map .blind := by
  simp only [usbTrncomplVect, pure_eq_ok, apply_ite (Except.map Firmware.blind),
    ← blind_uddEpTransComplet]
  rfl

theorem blind_usbBuseventReset : usbBuseventReset s.blind = (usbBuseventReset s).map .blind := by
  rw [usbBuseventReset, usbBuseventReset, blind_uddEpAbort]
  refine Except.map_bind_comm fun t => ?_
  rw [blind_uddEpAbort]
  refine Except.map_bind_comm fun u => ?_
  rw [blind_udcReset]
  refine Except.map_bind_comm fun v => ?_
  have haddress : uddSetAddress 0 v.blind = (uddSetAddress 0 v).blind := rfl
  simp only [haddress, blind_uddEpInit]
  refine Except.map_bind_comm fun w => ?_
  rw [blind_uddEpInit]
  exact Except.map_bind_comm fun x => rfl

theorem blind_hostCollect : hostCollect s.blind = (hostCollect s).blind := by
  rw [hostCollect, hostCollect, apply_ite Firmware.blind]
  rfl

theorem blind_hostCtrlIn : hostCtrlIn s.blind = (hostCtrlIn s).blind := by
  simp only [hostCtrlIn, apply_ite Firmware.blind, ← blind_uddCtrlInSent]
  rfl

theorem blind_hostCtrlOut (data : OutPacket) :
    hostCtrlOut data s.blind = (hostCtrlOut data s).map .blind := by
  simp only [hostCtrlOut, apply_ite (Except.map Firmware.blind), ← blind_uddCtrlOutReceived]
  rfl

theorem blind_uddCtrlUnderflow : uddCtrlUnderflow s.blind = (uddCtrlUnderflow s).blind := by
  simp only [uddCtrlUnderflow, apply_ite Firmware.blind]
  rfl

theorem blind_uddCtrlOverflow : uddCtrlOverflow s.blind = (uddCtrlOverflow s).blind := by
  simp only [uddCtrlOverflow, apply_ite Firmware.blind]
  rfl

/-- **No handler but the tick's looks at what was read.** -/
theorem blind_step {e : Event} (he : ∀ t, e ≠ .sof t) :
    device.step s.blind e = (device.step s e).map .blind := by
  cases e with
  | sof t => exact absurd rfl (he t)
  | reset => exact blind_usbBuseventReset s
  | collect => exact congrArg Except.ok (blind_hostCollect s)
  | transferComplete => exact blind_usbTrncomplVect s
  | setup packet => exact blind_uddCtrlSetupReceived (hostSetup packet s)
  | ctrlIn => exact congrArg Except.ok (blind_hostCtrlIn s)
  | ctrlOut data => exact blind_hostCtrlOut s data
  | underflow => exact congrArg Except.ok (blind_uddCtrlUnderflow s)
  | overflow => exact congrArg Except.ok (blind_uddCtrlOverflow s)
  | unstall => rfl

end HidJoystick
