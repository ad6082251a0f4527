import HidJoystick.Blind
import HidJoystick.Delivery

/-!
# The pins that count

The ports the sliders and the test switch are wired to carry other signals too: the
spare pins of port C, the USB lines on port D, the keypad and the status LED on port B.
What the joystick does depends on none of them (`unrelated_pins`): two runs whose ticks
agree on the pads and on the switch, and which are otherwise offered the same events, call
`udi_hid_generic_send_report_in` at the same ticks with the same bytes, get the same
answers and show the same LEDs. The state they carry along is the same, too, but for what
was read.
-/

namespace HidJoystick

/-! ## Readings that agree -/

/-- The readings agree on the slider pads: B0–B3, C2–C7, D0–D5 and E0–E7. -/
structure Readings.Agree (r r' : Readings) : Prop where
  portB : ∀ i, i < 4 → r.portB.getLsbD i = r'.portB.getLsbD i
  portC : ∀ i, 2 ≤ i → i < 8 → r.portC.getLsbD i = r'.portC.getLsbD i
  portD : ∀ i, i < 6 → r.portD.getLsbD i = r'.portD.getLsbD i
  portE : ∀ i, i < 8 → r.portE.getLsbD i = r'.portE.getLsbD i

/-- The ticks agree on the slider pads and on the test switch, B4. -/
structure Tick.Agree (t t' : Tick) : Prop where
  readMask : t.readMask.Agree t'.readMask
  switch : t.testMode.getLsbD 4 = t'.testMode.getLsbD 4
  usbTask : t.usbTask.Agree t'.usbTask

namespace Readings.Agree

variable {r r' : Readings} (h : r.Agree r')

include h

theorem vertPad : r.vertPad = r'.vertPad := by
  have hlow : r.vertLow = r'.vertLow := by
    funext i
    have hi := i.isLt
    rw [vertLow, vertLow]
    split
    · rw [h.portC (i + 2) (by omega) (by omega)]
    · rw [h.portD (i - 6) (by omega)]
  rw [Readings.vertPad, Readings.vertPad, hlow]

theorem horiPad : r.horiPad = r'.horiPad := by
  have hlow : r.horiLow = r'.horiLow := by
    funext i
    have hi := i.isLt
    rw [horiLow, horiLow]
    split
    · next hlt => rw [h.portE i hlt]
    · rw [h.portB (i - 8) (by omega)]
  rw [Readings.horiPad, Readings.horiPad, hlow]

theorem sample_eq : sample r = sample r' := by
  rw [sample, sample, h.vertPad, h.horiPad]

theorem readMask_eq : jstkReadMask r = jstkReadMask r' := by
  simp only [jstkReadMask, jstkReadVertIndex_eq, jstkReadHoriIndex_eq, h.vertPad, h.horiPad]

end Readings.Agree

/-- The test switch is bit 4. -/
theorem Tick.normal_eq (t : Tick) : t.normal = t.testMode.getLsbD 4 := by
  have hbit : pin4Bm = 1#8 <<< 4 := by decide
  have hzero := and_one_shiftLeft_eq_zero_iff t.testMode (by omega : 4 < 8)
  rw [← hbit] at hzero
  rcases hb : t.testMode.getLsbD 4 with _ | _
  · exact bne_eq_false_iff_eq.mpr (hzero.mpr hb)
  · refine bne_iff_ne.mpr fun h => ?_
    rw [hzero.mp h] at hb
    cases hb

theorem Tick.Agree.normal_eq {t t' : Tick} (h : t.Agree t') : t.normal = t'.normal := by
  rw [t.normal_eq, t'.normal_eq, h.switch]

theorem Readings.Agree.refl (r : Readings) : r.Agree r :=
  ⟨fun _ _ => rfl, fun _ _ _ => rfl, fun _ _ => rfl, fun _ _ => rfl⟩

theorem Tick.Agree.refl (t : Tick) : t.Agree t := ⟨.refl _, rfl, .refl _⟩

/-! ## The tick -/

theorem map_blindEntry_idem (h : List Action) :
    (h.map blindEntry).map blindEntry = h.map blindEntry := by
  rw [List.map_map]
  refine List.map_congr_left fun a _ => ?_
  cases a <;> rfl

/-- The pipe, without what was read -/
def Pipe.blind (p : Pipe) : Pipe := { p with history := p.history.map blindEntry }

namespace Pipe

variable (p : Pipe)

theorem blind_send (data : Report) : (p.send data).blind = p.blind.send data := by
  simp only [send, apply_ite Pipe.blind]
  rfl

theorem blind_blind : p.blind.blind = p.blind := by
  rw [blind, blind, map_blindEntry_idem]

variable {r r' : Readings} {t t' : Tick}

/-- The report is the same, and nothing else of the readings is left. -/
theorem blind_look (h : r.Agree r') : (p.look r).blind = (p.blind.look r').blind := by
  have hhistory : ((p.look r).history).map blindEntry = ((p.blind.look r').history).map blindEntry := by
    change blindEntry (.sampled r (sample r)) :: _ = blindEntry (.sampled r' (sample r')) :: _
    rw [h.sample_eq]
    exact congrArg _ (map_blindEntry_idem p.history).symm
  rw [blind, hhistory, look, look, h.sample_eq]
  rfl

theorem blind_usbTask (h : r.Agree r') : (p.usbTask r).blind = (p.blind.usbTask r').blind := by
  have hsend : ((p.look r).send (sample r)).blind = ((p.blind.look r').send (sample r')).blind := by
    rw [blind_send, blind_send, p.blind_look h, h.sample_eq]
  rw [usbTask, usbTask, h.sample_eq]
  by_cases hsame : sample r' = p.prevReport
  · rw [if_pos hsame, if_pos (show sample r' = p.blind.prevReport from hsame)]
    exact p.blind_look h
  · rw [if_neg hsame, if_neg (show sample r' ≠ p.blind.prevReport from hsame)]
    rw [h.sample_eq] at hsend
    by_cases haccepted : p.sendAccepted = true
    · rw [if_pos haccepted, if_pos (show p.blind.sendAccepted = true from haccepted)]
      exact congrArg (fun q : Pipe => { q with prevReport := sample r' }) hsend
    · rw [if_neg haccepted, if_neg (show ¬ p.blind.sendAccepted = true from haccepted)]
      exact hsend

theorem blind_tick (h : t.Agree t') : (p.tick t).blind = (p.blind.tick t').blind := by
  rw [tick, tick, h.normal_eq, show p.blind.enable = p.enable from rfl]
  split
  · exact p.blind_usbTask h.usbTask
  · exact p.blind_blind.symm

end Pipe

/-- `main_sof_action` sees of the ports only the pins that count. -/
theorem blind_mainSofAction {t t' : Tick} (h : t.Agree t') (s : Firmware) :
    (mainSofAction t s).map Firmware.blind = (mainSofAction t' s.blind).map Firmware.blind := by
  have hdisplay : displayAfter t s.portAOut = displayAfter t' s.portAOut := by
    rw [displayAfter, displayAfter, h.normal_eq, h.readMask.readMask_eq]
  rw [mainSofAction_eq, mainSofAction_eq, show s.blind.mainBGenericEnable = s.mainBGenericEnable from rfl]
  split
  · have hpipe : (s.pipe.tick t).blind = (s.blind.pipe.tick t').blind := s.pipe.blind_tick h
    have hwith (u : Firmware) (p : Pipe) : (u.withPipe p).blind = u.blind.withPipe p.blind := rfl
    refine congrArg Except.ok ?_
    rw [hwith, hwith, hpipe, h.readMask.readMask_eq, hdisplay]
    rfl
  · have hblind : s.blind.blind = s.blind := by
      rw [Firmware.blind, Firmware.blind, map_blindEntry_idem]
    exact congrArg Except.ok hblind.symm

/-! ## Two runs -/

/-- The events are the same, but for what pins that do not count read in a tick. -/
inductive Event.Agree : Event → Event → Prop where
  | tick {t t' : Tick} : t.Agree t' → Agree (.sof t) (.sof t')
  | same (e : Event) : Agree e e

/-- Events that agree have the same effect, but for what was read. -/
theorem device_hides : device.Hides Event.Agree Firmware.blind := by
  have htick {t t' : Tick} (h : t.Agree t') {s s' : Firmware} (hs : s.blind = s'.blind) :
      (mainSofAction t s).map Firmware.blind = (mainSofAction t' s').map Firmware.blind := by
    rw [blind_mainSofAction h s, blind_mainSofAction (.refl t') s', hs]
  intro s s' e e' hs he
  cases he with
  | tick h => exact htick h hs
  | same =>
    by_cases hsof : ∃ t, e = .sof t
    · obtain ⟨t, rfl⟩ := hsof
      exact htick (.refl t) hs
    · have hother : ∀ t, e ≠ .sof t := fun t ht => hsof ⟨t, ht⟩
      rw [← blind_step s hother, ← blind_step s' hother, hs]

/-- What can be seen of the joystick in `s` and in `s'` is the same: the calls of
`udi_hid_generic_send_report_in` so far with their answers, the two reports, the LED mask and
port A; and so is what decides about the next call. -/
structure SeenAlike (s s' : Firmware) : Prop where
  calls : calls s.history = calls s'.history
  usbReport : s.jstkUsbReport = s'.jstkUsbReport
  prevReport : s.jstkPrevReport = s'.jstkPrevReport
  mask : s.jstkMask = s'.jstkMask
  portAOut : s.portAOut = s'.portAOut
  enable : s.mainBGenericEnable = s'.mainBGenericEnable
  free : s.udiHidGenericBReportInFree = s'.udiHidGenericBReportInFree
  endpoint : s.ctrl epInCtrl = s'.ctrl epInCtrl
  job : s.job epInJob = s'.job epInJob

theorem calls_map_blindEntry (h : List Action) : HidJoystick.calls (h.map blindEntry) = calls h := by
  rw [calls, calls, List.filterMap_map]
  refine List.filterMap_congr fun a _ => ?_
  cases a <;> rfl

theorem SeenAlike.of_blind {s s' : Firmware} (h : s.blind = s'.blind) : SeenAlike s s' where
  calls := by
    have hhistory : s.history.map blindEntry = s'.history.map blindEntry :=
      congrArg Firmware.history h
    rw [← calls_map_blindEntry s.history, hhistory, calls_map_blindEntry]
  usbReport := show s.blind.jstkUsbReport = s'.blind.jstkUsbReport from congrArg _ h
  prevReport := show s.blind.jstkPrevReport = s'.blind.jstkPrevReport from congrArg _ h
  mask := show s.blind.jstkMask = s'.blind.jstkMask from congrArg _ h
  portAOut := show s.blind.portAOut = s'.blind.portAOut from congrArg _ h
  enable := show s.blind.mainBGenericEnable = s'.blind.mainBGenericEnable from congrArg _ h
  free := show s.blind.udiHidGenericBReportInFree = s'.blind.udiHidGenericBReportInFree from congrArg _ h
  endpoint := show s.blind.ctrl epInCtrl = s'.blind.ctrl epInCtrl from congrArg (·.ctrl epInCtrl) h
  job := show s.blind.job epInJob = s'.blind.job epInJob from congrArg (·.job epInJob) h

/-- **Unrelated pins do not matter.** Two runs from the same state that are offered the same
events, but for what unrelated pins read in the ticks, look alike after every event; and
they end alike, be it with a fault. -/
theorem unrelated_pins (s : Firmware) {es es' : List Event} (h : List.Forall₂ Event.Agree es es') :
    List.Forall₂ (fun t t' => SeenAlike t.post t'.post) (device.transitions s es)
        (device.transitions s es') ∧
      (device.run s es).map Firmware.blind = (device.run s es').map Firmware.blind :=
  ⟨(device_hides.transitions h rfl).imp fun _ _ => .of_blind, device_hides.run h rfl⟩

/-- All inputs high -/
def released : Readings := { portB := 0xFF, portC := 0xFF, portD := 0xFF, portE := 0xFF }

/-- The same, and all other pins low -/
def releasedNoisy : Readings := { portB := 0x1F, portC := 0xFC, portD := 0x3F, portE := 0xFF }

/-- Pad 0, and all other pins low -/
def padLeftNoisy : Readings := { releasedNoisy with portE := 0xFE }

/-- The stick is pushed and let go, two reports are taken, and a third is in flight. -/
def pushed (push release : Readings) : List Event :=
  [.sof (.still push), .collect, .transferComplete, .sof (.still release), .sof (.still push),
    .collect, .transferComplete, .sof (.still push)]

theorem unrelated_pins_pushed :
    ∃ s, device.run Firmware.powerOn enumeration = .ok s ∧
      List.Forall₂ (fun t t' => SeenAlike t.post t'.post)
        (device.transitions s (pushed padLeft released))
        (device.transitions s (pushed padLeftNoisy releasedNoisy)) := by
  have hpush : (Tick.still padLeft).Agree (.still padLeftNoisy) := by
    have hpads : padLeft.Agree padLeftNoisy := ⟨by decide, by decide, by decide, by decide⟩
    exact ⟨hpads, by decide, hpads⟩
  have hrelease : (Tick.still released).Agree (.still releasedNoisy) := by
    have hpads : released.Agree releasedNoisy := ⟨by decide, by decide, by decide, by decide⟩
    exact ⟨hpads, by decide, hpads⟩
  refine ⟨_, rfl, (unrelated_pins _ ?_).1⟩
  exact .cons (.tick hpush) (.cons (.same _) (.cons (.same _) (.cons (.tick hrelease)
    (.cons (.tick hpush) (.cons (.same _) (.cons (.same _) (.cons (.tick hpush) .nil)))))))

end HidJoystick
