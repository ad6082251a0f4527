import HidJoystick.HostWrites
import HidJoystick.Objects

/-!
# The answers to IN requests

`udcProcessSetup_in`: in any state, an IN request that asks for an object is accepted and
leaves `payload` pointing at it, with `payload_size` cut to what was asked for; one that
asks for nothing is refused. There is one interface, and what `udc_process_setup` offers
to the interfaces reaches it or none (`offerSetup_eq`).
-/

namespace HidJoystick

/-! ## Handing out an object -/

/-- The payload is the object, cut to what was asked for. Nothing the device does before the
next request changes it. -/
structure Firmware.HandsOut (s : Firmware) (object : List Byte) : Prop where
  bytes : object <+: s.bytesAt s.uddGCtrlreq.payload
  size : s.uddGCtrlreq.payloadSize.toNat = min object.length s.uddGCtrlreq.req.wLength.toNat
  nonempty : object ≠ []
  /-- reports and packets from the host are not objects -/
  steady : s.uddGCtrlreq.payload.base ≠ .udiHidGenericReportIn ∧
    s.uddGCtrlreq.payload.base ≠ .uddCtrlBuffer
  callback : s.uddGCtrlreq.callback = none

/-- The handler accepts a request for an object and hands it out; it refuses the others, and
they leave no trace but in `udc_ptr_iface`. -/
def Serves (r : Except Fault (Bool × Firmware)) (s : Firmware) : Option (List Byte) → Prop
  | some object => ∃ u, r = .ok (true, u) ∧ u.HandsOut object
  | none => ∃ ptr, r = .ok (false, { s with udcPtrIface := ptr })

theorem serves_none (s : Firmware) : Serves (.ok (false, s)) s none := ⟨s.udcPtrIface, rfl⟩

/-- `udc_ptr_iface` leaves no trace. -/
theorem Serves.of_ptr {r : Except Fault (Bool × Firmware)} {s : Firmware} {ptr : ℕ}
    {asked : Option (List Byte)} (h : Serves r { s with udcPtrIface := ptr } asked) :
    Serves r s asked := by
  rcases asked with _ | object
  · exact h
  · exact h

@[simp] theorem contents_modifyCtrlreq (f : UddCtrlRequest → UddCtrlRequest) (s : Firmware) :
    (s.modifyCtrlreq f).contents = s.contents := by
  funext b
  cases b <;> rfl

section Objects

variable {s : Firmware} {object : List Byte}

/-- A payload of the size that was asked for -/
theorem handsOut_setSetupPayload {p : Ptr} {n : Word} (hbytes : object <+: s.bytesAt p)
    (hsize : n.toNat = min object.length s.uddGCtrlreq.req.wLength.toNat) (hne : object ≠ [])
    (hsteady : p.base ≠ .udiHidGenericReportIn ∧ p.base ≠ .uddCtrlBuffer)
    (hcallback : s.uddGCtrlreq.callback = none) : (uddSetSetupPayload p n s).HandsOut object where
  bytes := by
    rw [uddSetSetupPayload, Firmware.bytesAt, contents_modifyCtrlreq]
    exact hbytes
  size := hsize
  nonempty := hne
  steady := hsteady
  callback := hcallback

/-- A whole object, cut afterwards -/
theorem handsOut_trimPayload {p : Ptr} {n : Word} (hbytes : object <+: s.bytesAt p)
    (hsize : n.toNat = object.length) (hne : object ≠ [])
    (hsteady : p.base ≠ .udiHidGenericReportIn ∧ p.base ≠ .uddCtrlBuffer)
    (hcallback : s.uddGCtrlreq.callback = none) :
    (udcTrimPayload (uddSetSetupPayload p n s)).HandsOut object := by
  have hcut (r : UddCtrlRequest) :
      (if r.req.wLength < r.payloadSize then { r with payloadSize := r.req.wLength } else r) =
        { r with payloadSize := minWord r.req.wLength r.payloadSize } := by
    rw [minWord]
    split <;> rfl
  have htrim : udcTrimPayload (uddSetSetupPayload p n s) =
      uddSetSetupPayload p (minWord s.uddGCtrlreq.req.wLength n) s :=
    congrArg (fun r => { s with uddGCtrlreq := r }) (hcut _)
  rw [htrim]
  refine handsOut_setSetupPayload hbytes ?_ hne hsteady hcallback
  rw [minWord, ← hsize]
  split
  · next hlt => rw [Nat.min_eq_right (Nat.le_of_lt (BitVec.lt_def.mp hlt))]
  · next hge => rw [Nat.min_eq_left (BitVec.not_lt.mp hge)]

end Objects

/-! ## Requests for an object of the device -/

section Device

variable {s : Firmware}

theorem serves_devGetStatus (hcallback : s.uddGCtrlreq.callback = none) :
    Serves (.ok (udcReqStdDevGetStatus s)) s
      (if s.uddGCtrlreq.req.wLength = 2 then some (wordBytes s.udcDeviceStatus) else none) := by
  rw [udcReqStdDevGetStatus]
  by_cases hlen : s.uddGCtrlreq.req.wLength = 2
  · rw [if_neg (not_not.mpr hlen), if_pos hlen]
    refine ⟨_, rfl, handsOut_setSetupPayload (List.prefix_refl _) ?_ (List.cons_ne_nil _ _)
      (by decide) hcallback⟩
    rw [hlen]
    rfl
  · rw [if_pos hlen, if_neg hlen]
    exact serves_none s

theorem serves_devGetConfiguration (hcallback : s.uddGCtrlreq.callback = none) :
    Serves (.ok (udcReqStdDevGetConfiguration s)) s
      (if s.uddGCtrlreq.req.wLength = 1 then some [s.udcNumConfiguration] else none) := by
  rw [udcReqStdDevGetConfiguration]
  by_cases hlen : s.uddGCtrlreq.req.wLength = 1
  · rw [if_neg (not_not.mpr hlen), if_pos hlen]
    refine ⟨_, rfl, handsOut_setSetupPayload (List.prefix_refl _) ?_ (List.cons_ne_nil _ _)
      (by decide) hcallback⟩
    rw [hlen]
    rfl
  · rw [if_pos hlen, if_neg hlen]
    exact serves_none s

/-- A string descriptor is put together in `udc_string_desc`. -/
theorem handsOut_stringPayload {name : List Byte} {size : Byte}
    (hname : udcStringDescName (2 + size * 2) = name) (hsize : BitVec.ofNat 8 name.length = size)
    (hlen : (2 + size * 2).toNat = (stringDesc name).length)
    (hcallback : s.uddGCtrlreq.callback = none) :
    (udcTrimPayload (udcStringPayload size s)).HandsOut (stringDesc name) := by
  have hbytes : { s with udcStringDescBLength := 2 + size * 2 }.bytesAt ⟨.udcStringDesc, 0⟩ =
      stringDesc name := by
    rw [stringDesc, hsize, ← hname]
    rfl
  refine handsOut_trimPayload (by rw [hbytes]) ?_ (List.cons_ne_nil _ _) (by decide) hcallback
  rw [← hlen]
  exact BitVec.toNat_setWidth_of_le (by decide)

/-- `udc_req_std_dev_get_str_desc` -/
theorem devGetStrDesc_cases (hcallback : s.uddGCtrlreq.callback = none) :
    (∃ object t, requestedString (s.uddGCtrlreq.req.wValue &&& 0xFF) = some object ∧
        udcReqStdDevGetStrDesc s = (true, t) ∧ (udcTrimPayload t).HandsOut object) ∨
      requestedString (s.uddGCtrlreq.req.wValue &&& 0xFF) = none ∧
        udcReqStdDevGetStrDesc s = (false, s) := by
  simp only [udcReqStdDevGetStrDesc, requestedString]
  split
  · exact Or.inl ⟨_, _, rfl, rfl, handsOut_trimPayload (List.prefix_refl _) rfl
      (List.cons_ne_nil _ _) (by decide) hcallback⟩
  · split
    · exact Or.inl ⟨_, _, rfl, rfl, handsOut_stringPayload (by decide) (by decide) (by decide)
        hcallback⟩
    · split
      · exact Or.inl ⟨_, _, rfl, rfl, handsOut_stringPayload (by decide) (by decide) (by decide)
          hcallback⟩
      · exact Or.inr ⟨rfl, rfl⟩

/-- There is one configuration. -/
theorem lowByte_ge_iff (w : Word) :
    (w &&& 0xFF).setWidth 8 ≥ udcDeviceDescBNumConfigurations ↔ w &&& 0xFF ≠ 0 := by
  have hlow : (w &&& 0xFF).toNat ≤ 255 := by
    rw [BitVec.toNat_and]
    exact Nat.and_le_right
  generalize w &&& 0xFF = low at hlow ⊢
  rw [udcDeviceDescBNumConfigurations]
  bv_omega

theorem serves_devGetDescriptor (hcallback : s.uddGCtrlreq.callback = none) :
    Serves (.ok (udcReqStdDevGetDescriptor s)) s (requestedDescriptor s.uddGCtrlreq.req.wValue) := by
  simp only [udcReqStdDevGetDescriptor, requestedDescriptor]
  by_cases hdev : (s.uddGCtrlreq.req.wValue >>> 8).setWidth 8 = usbDtDevice
  · rw [if_pos hdev, if_pos hdev]
    exact ⟨_, rfl, handsOut_trimPayload (List.prefix_refl _) rfl (List.cons_ne_nil _ _)
      (by decide) hcallback⟩
  · rw [if_neg hdev, if_neg hdev]
    by_cases hconf : (s.uddGCtrlreq.req.wValue >>> 8).setWidth 8 = usbDtConfiguration
    · have hnum := lowByte_ge_iff s.uddGCtrlreq.req.wValue
      rw [if_pos hconf, if_pos hconf]
      by_cases hzero : s.uddGCtrlreq.req.wValue &&& 0xFF = 0
      · rw [if_neg fun h => hnum.mp h hzero, if_pos hzero]
        exact ⟨_, rfl, handsOut_trimPayload (List.prefix_refl _) rfl (List.cons_ne_nil _ _)
          (by decide) hcallback⟩
      · rw [if_pos (hnum.mpr hzero), if_neg hzero]
        exact serves_none s
    · rw [if_neg hconf, if_neg hconf]
      by_cases hbos : (s.uddGCtrlreq.req.wValue >>> 8).setWidth 8 = usbDtBos
      · have hne : usbDtBos ≠ usbDtString := by decide
        rw [if_pos hbos, hbos, if_neg hne]
        exact serves_none s
      · rw [if_neg hbos]
        by_cases hstring : (s.uddGCtrlreq.req.wValue >>> 8).setWidth 8 = usbDtString
        · rw [if_pos hstring, if_pos hstring]
          rcases devGetStrDesc_cases hcallback with ⟨object, t, hobject, ht, hhands⟩ | ⟨hnone, ht⟩
          · simp only [ht, hobject, Bool.not_true, Bool.false_eq_true, if_false]
            exact ⟨_, rfl, hhands⟩
          · simp only [ht, hnone, Bool.not_false, if_true]
            exact serves_none s
        · rw [if_neg hstring, if_neg hstring]
          exact serves_none s

theorem serves_device (hcallback : s.uddGCtrlreq.callback = none) :
    Serves
      (if s.uddGCtrlreq.req.bRequest = usbReqGetStatus then .ok (udcReqStdDevGetStatus s)
        else if s.uddGCtrlreq.req.bRequest = usbReqGetDescriptor then
          .ok (udcReqStdDevGetDescriptor s)
        else if s.uddGCtrlreq.req.bRequest = usbReqGetConfiguration then
          .ok (udcReqStdDevGetConfiguration s)
        else .ok (false, s)) s s.requestedDevice := by
  simp only [Firmware.requestedDevice]
  split
  · exact serves_devGetStatus hcallback
  · split
    · exact serves_devGetDescriptor hcallback
    · split
      · exact serves_devGetConfiguration hcallback
      · exact serves_none s

end Device

/-! ## Requests for an object of an interface or endpoint -/

section Interfaces

variable {s : Firmware}

/-- The search for the one setting of the one interface -/
theorem udcUpdateIfaceDesc_present (hconf : s.udcNumConfiguration ≠ 0) :
    udcUpdateIfaceDesc 0 0 s = (true, { s with udcPtrIface := 9 }) := by
  have hpresent : ¬ (s.udcNumConfiguration = 0 ∨ (0 : Byte) ≠ 0) := fun h =>
    h.elim hconf fun h => h rfl
  rw [udcUpdateIfaceDesc_eq, if_neg hpresent, if_pos rfl]

/-- There is one interface. -/
theorem iface_ge_iff (iface : Byte) : iface ≥ confBNumInterfaces ↔ iface ≠ 0 := by
  rw [confBNumInterfaces_eq]
  bv_omega

theorem serves_ifaceGetSetting (hcallback : s.uddGCtrlreq.callback = none)
    (hreq : s.uddGCtrlreq.req.bRequest = usbReqGetInterface) :
    Serves (.ok (udcReqStdIfaceGetSetting s)) s s.requestedInterface := by
  by_cases h : s.uddGCtrlreq.req.wLength = 1 ∧ s.namesIface
  · have hasked : s.requestedInterface = some [0] := if_pos ⟨hreq, h⟩
    obtain ⟨hlen, hconf, hiface⟩ := h
    have hrun : udcReqStdIfaceGetSetting s = (true, uddSetSetupPayload ⟨.udcIfaceSetting, 0⟩ 1
        { s with udcPtrIface := 9, udcIfaceSetting := udiHidGenericGetsetting }) := by
      simp only [udcReqStdIfaceGetSetting, hlen, hiface, iface_ge_iff, ne_eq, not_true_eq_false,
        if_false, if_neg hconf, udcUpdateIfaceDesc_present hconf, Bool.not_true,
        Bool.false_eq_true]
    rw [hasked, hrun]
    refine ⟨_, rfl, handsOut_setSetupPayload (List.prefix_refl _) ?_ (List.cons_ne_nil _ _)
      (by decide) hcallback⟩
    simp [hlen]
  · have hasked : s.requestedInterface = none := if_neg fun h' => h h'.2
    have hrun : udcReqStdIfaceGetSetting s = (false, s) := by
      simp only [udcReqStdIfaceGetSetting, iface_ge_iff]
      split
      · rfl
      · next hlen =>
        split
        · rfl
        · next hconf => exact if_pos fun hiface => h ⟨not_not.mp hlen, hconf, hiface⟩
    rw [hasked, hrun]
    exact serves_none s

theorem serves_epGetStatus (hcallback : s.uddGCtrlreq.callback = none)
    (hreq : s.uddGCtrlreq.req.bRequest = usbReqGetStatus)
    (hep : s.uddGCtrlreq.req.wLength = 2 → s.uddGCtrlreq.req.epNumber < 2) :
    Serves (udcReqStdEpGetStatus s) s s.requestedEndpoint := by
  by_cases hlen : s.uddGCtrlreq.req.wLength = 2
  · obtain ⟨c, hc⟩ : ∃ c, uddEpGetCtrl s.uddGCtrlreq.req.ep = .ok c := by
      rcases UsbSetupReq.ep_cases (hep hlen) with h | h | h
      · exact ⟨_, h.getCtrl⟩
      · exact ⟨_, h.getCtrl⟩
      · exact ⟨_, uddEpGetCtrl_zero h⟩
    simp only [udcReqStdEpGetStatus, Firmware.requestedEndpoint, hreq, hlen, ne_eq,
      not_true_eq_false, if_false, uddEpIsHalted, hc, ok_bind, pure_eq_ok, and_self, if_true]
    refine ⟨_, rfl, handsOut_setSetupPayload (List.prefix_refl _) ?_ (List.cons_ne_nil _ _)
      (by decide) hcallback⟩
    rw [hlen]
    rfl
  · simp only [udcReqStdEpGetStatus, Firmware.requestedEndpoint, hlen, ne_eq, not_false_eq_true,
      if_true, and_false, if_false, pure_eq_ok]
    exact serves_none s

/-- `udc_reqstd`, for IN requests -/
theorem serves_reqstd (hcallback : s.uddGCtrlreq.callback = none)
    (hin : uddSetupIsIn s.uddGCtrlreq.req = true) (hlen : s.uddGCtrlreq.req.wLength ≠ 0)
    (htype : uddSetupType s.uddGCtrlreq.req = usbReqTypeStandard) (hstays : ¬ s.strays) :
    Serves (udcReqstd s) s s.requestedStandard := by
  simp only [udcReqstd, Firmware.requestedStandard, hin, if_true, if_neg hlen, pure_eq_ok]
  split
  · exact serves_device hcallback
  · split
    · split
      · next hreq => exact serves_ifaceGetSetting hcallback hreq
      · next hreq =>
        rw [Firmware.requestedInterface, if_neg fun h => hreq h.1]
        exact serves_none s
    · split
      · next hrecip =>
        split
        · next hreq =>
          refine serves_epGetStatus hcallback hreq fun hlen => ?_
          by_contra hnum
          exact hstays ⟨⟨htype, hrecip⟩, Or.inl ⟨hin, hreq, hlen, by omega⟩⟩
        · next hreq =>
          simp only [Firmware.requestedEndpoint, if_neg fun h => hreq (And.left h)]
          exact serves_none s
      · exact serves_none s

end Interfaces

/-! ## Requests to the HID interface -/

section Hid

variable {s : Firmware}

/-- `udc_req_iface` finds the one interface there is. -/
theorem reqIface_eq (s : Firmware) : udcReqIface s =
    if s.namesIface then udiHidSetup { s with udcPtrIface := 9 } else (false, s) := by
  simp only [udcReqIface, iface_ge_iff]
  by_cases h : s.namesIface
  · rw [if_pos h]
    obtain ⟨hconf, hiface⟩ := h
    have hconf' : { s with udcPtrIface := 9 }.udcNumConfiguration ≠ 0 := hconf
    simp only [hiface, if_neg hconf, ne_eq, not_true_eq_false, if_false,
      udcUpdateIfaceDesc_present hconf, udcUpdateIfaceDesc_present hconf', udiHidGenericGetsetting,
      Bool.not_true, Bool.false_eq_true, udiHidGenericSetup]
  · rw [if_neg h]
    split
    · rfl
    · next hconf => exact if_pos fun hiface => h ⟨hconf, hiface⟩

/-- `udc_req_ep` offers the request to the one interface there is. -/
theorem reqEp_eq (s : Firmware) : udcReqEp s =
    if s.udcNumConfiguration ≠ 0 then udiHidSetup { s with udcPtrIface := 9 } else (false, s) := by
  have hnums : udcIfaceNums = [0] := by decide
  rw [udcReqEp]
  by_cases hconf : s.udcNumConfiguration = 0
  · rw [if_pos hconf, if_neg (not_not.mpr hconf)]
  · rw [if_neg hconf, if_pos hconf, hnums]
    simp only [udcOfferIfaces, udiHidGenericGetsetting, udcUpdateIfaceDesc_present hconf,
      Bool.not_true, Bool.false_eq_true, if_false, udiHidGenericSetup]
    rcases udiHidSetup { s with udcPtrIface := 9 } with ⟨_ | _, t⟩ <;> rfl

/-- What `udc_process_setup` offers to the interfaces reaches the one there is, or none. -/
theorem offerSetup_eq (s : Firmware) : udcOfferSetup s =
    if s.offersHid then udiHidSetup { s with udcPtrIface := 9 } else (false, s) := by
  have hdistinct : usbReqRecipInterface ≠ usbReqRecipEndpoint := by decide
  simp only [udcOfferSetup, Firmware.offersHid]
  by_cases hrecip : uddSetupRecipient s.uddGCtrlreq.req = usbReqRecipInterface
  · -- what the interface refuses is not a request to an endpoint
    have hrefused (r : Bool × Firmware) (hreq : r.2.uddGCtrlreq.req = s.uddGCtrlreq.req) :
        (if r.1 = true then (true, r.2)
          else if uddSetupRecipient r.2.uddGCtrlreq.req = usbReqRecipEndpoint then udcReqEp r.2
          else (false, r.2)) = r := by
      rw [hreq, hrecip, if_neg hdistinct]
      rcases r with ⟨_ | _, t⟩ <;> rfl
    simp only [hrecip, if_true, true_and, hdistinct, false_and, or_false]
    rw [← reqIface_eq]
    exact hrefused _ (keeps_reqIface s).req
  · simp only [hrecip, false_and, false_or, Bool.false_eq_true, if_false, reqEp_eq]
    by_cases hep : uddSetupRecipient s.uddGCtrlreq.req = usbReqRecipEndpoint
    · simp only [hep, if_true, true_and]
    · simp only [hep, if_false, false_and]

/-- `udi_hid_setup`, for IN requests. The interface descriptor is followed by the HID
descriptor, which names the report descriptor. -/
theorem serves_udiHidSetup (hcallback : s.uddGCtrlreq.callback = none)
    (hin : uddSetupIsIn s.uddGCtrlreq.req = true) (hlen : s.uddGCtrlreq.req.wLength ≠ 0) :
    Serves (.ok (udiHidSetup { s with udcPtrIface := 9 })) s s.requestedHid := by
  have hnone : Serves (.ok (false, { s with udcPtrIface := 9 })) s none := ⟨9, rfl⟩
  have hmin (n : Word) : (minWord s.uddGCtrlreq.req.wLength n).toNat =
      min n.toNat s.uddGCtrlreq.req.wLength.toNat := by
    rw [minWord]
    split
    · next hlt => rw [Nat.min_eq_right (Nat.le_of_lt (BitVec.lt_def.mp hlt))]
    · next hge => rw [Nat.min_eq_left (BitVec.not_lt.mp hge)]
  have hbyte {p : Ptr} {b : Byte} (hbytes : { s with udcPtrIface := 9 }.bytesAt p = [b])
      (hsteady : p.base ≠ .udiHidGenericReportIn ∧ p.base ≠ .uddCtrlBuffer) :
      Serves (.ok (true, uddSetSetupPayload p 1 { s with udcPtrIface := 9 })) s (some [b]) := by
    refine ⟨_, rfl, handsOut_setSetupPayload (by rw [hbytes]) ?_ (List.cons_ne_nil _ _) hsteady
      hcallback⟩
    have hpos : s.uddGCtrlreq.req.wLength.toNat ≠ 0 := fun h => hlen (BitVec.eq_of_toNat_eq h)
    simp only [List.length_singleton]
    rw [Nat.min_eq_left (by omega)]
    rfl
  simp only [udiHidSetup, hin, if_true, Firmware.requestedHid]
  split
  · split
    · have hhid : usbDtHid = descBDescriptorType (9 + sizeofUsbIfaceDesc) := by decide
      have hreport : udcDescByte (9 + sizeofUsbIfaceDesc + 6) = (0x22 : Byte) := by decide
      simp only [udiHidReqstdifacegetDescriptor, ← hhid, hreport, ne_eq, not_true_eq_false,
        if_false, eq_comm]
      split
      · exact ⟨_, rfl, handsOut_setSetupPayload (List.take_prefix _ _) (hmin _) (by decide)
          (by decide) hcallback⟩
      · split
        · exact ⟨_, rfl, handsOut_setSetupPayload (List.prefix_refl _) (hmin _) (by decide)
            (by decide) hcallback⟩
        · exact hnone
    · exact hnone
  · split
    · split
      · next hreport =>
        -- only a report of no bytes is known, and an IN request asks for some
        have hget : s.uddGCtrlreq.req.bRequest ≠ usbReqHidGetIdle ∧
            s.uddGCtrlreq.req.bRequest ≠ usbReqHidGetProtocol := by
          rw [hreport]
          decide
        rw [if_neg hget.1, if_neg hget.2]
        simp only [udiHidGenericSetreport]
        rw [if_neg fun h => hlen h.2.2.symm]
        exact hnone
      · split
        · exact hbyte rfl (by decide)
        · split
          · exact hbyte rfl (by decide)
          · exact hnone
    · exact hnone

/-- `udc_process_setup` offers what is left to the HID interface. -/
theorem serves_offerSetup (hcallback : s.uddGCtrlreq.callback = none)
    (hin : uddSetupIsIn s.uddGCtrlreq.req = true) (hlen : s.uddGCtrlreq.req.wLength ≠ 0) :
    Serves (.ok (udcOfferSetup s)) s (if s.offersHid then s.requestedHid else none) := by
  rw [offerSetup_eq]
  split
  · exact serves_udiHidSetup hcallback hin hlen
  · exact serves_none s

end Hid

/-! ## IN requests -/

/-- **IN requests are answered with what they ask for**: the object, if they ask for one,
and with a STALL otherwise. -/
theorem udcProcessSetup_in {s : Firmware} (hin : uddSetupIsIn s.uddGCtrlreq.req = true)
    (hstays : ¬ s.strays) :
    Serves (udcProcessSetup s) (udcClearCtrlreq s) (udcClearCtrlreq s).requested := by
  have hcallback : (udcClearCtrlreq s).uddGCtrlreq.callback = none := rfl
  have hin' : uddSetupIsIn (udcClearCtrlreq s).uddGCtrlreq.req = true := hin
  have hstays' : ¬ (udcClearCtrlreq s).strays := hstays
  rw [udcProcessSetup]
  generalize udcClearCtrlreq s = t at hcallback hin' hstays'
  by_cases hlen : t.uddGCtrlreq.req.wLength = 0
  · simp only [Firmware.requested, hin', hlen, and_self, if_true, pure_eq_ok]
    exact serves_none t
  · simp only [Firmware.requested, if_neg hlen, if_neg fun h => hlen (And.right h), pure_eq_ok]
    by_cases htype : uddSetupType t.uddGCtrlreq.req = usbReqTypeStandard
    · have hstandard := serves_reqstd hcallback hin' hlen htype hstays'
      simp only [if_pos htype]
      rcases hasked : t.requestedStandard with _ | object
      · rw [hasked] at hstandard
        obtain ⟨ptr, hrun⟩ := hstandard
        have hoffer := serves_offerSetup (s := { t with udcPtrIface := ptr }) hcallback hin' hlen
        simp only [hrun, ok_bind, Bool.false_eq_true, if_false]
        exact hoffer.of_ptr
      · rw [hasked] at hstandard
        obtain ⟨u, hrun, hhands⟩ := hstandard
        simp only [hrun, ok_bind, if_true]
        exact ⟨u, rfl, hhands⟩
    · simp only [if_neg htype, ok_bind, Bool.false_eq_true, if_false]
      exact serves_offerSetup hcallback hin' hlen

end HidJoystick
