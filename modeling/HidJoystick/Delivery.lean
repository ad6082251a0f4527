import HidJoystick.Handlers
import HidJoystick.HidReport
import HidJoystick.Reachable

/-!
# Delivery

Every packet the host collects is a report that one tick computed and the driver accepted,
whole, and the ticks the packets come from are in order and all different, whatever is reset,
configured, halted and interrupted in between (`delivered_once`).

There is one buffer, and the controller reads it whenever the host polls, also while a tick is
executed. It is filled before the controller may read it and never written while it may
(`Running.Untorn`): within the tick by the order of the writes, after it by the guard of
`udi_hid_generic_send_report_in`; `step_reportIn` says that nothing else writes it. What the
host makes of the bytes is up to the report descriptor, which `reportDesc_layout` reads.
-/

namespace HidJoystick

/-! ## The report descriptor -/

/-- Usage X of the Generic Desktop page, in byte 0. -/
def fieldX : HidReport.Field where
  usagePage := 0x01
  usage := 0x30
  logicalMin := 0
  logicalMax := 255
  bitOffset := 0
  bitSize := 8

/-- Usage Y of the Generic Desktop page, in byte 1. -/
def fieldY : HidReport.Field := { fieldX with usage := 0x31, bitOffset := 8 }

/-- The report descriptor declares two fields. -/
theorem reportDesc_layout :
    HidReport.layout udiHidGenericReportDesc = some [fieldX, fieldY] := by decide

theorem fieldX_read (r : Report) : fieldX.read r.toList = r.x.toNat :=
  HidReport.Field.read_byte (i := 0) (by decide) rfl rfl r.toList

theorem fieldY_read (r : Report) : fieldY.read r.toList = r.y.toNat :=
  HidReport.Field.read_byte (i := 1) (by decide) rfl rfl r.toList

/-- No report is out of range. -/
theorem fields_inRange (r : Report) : fieldX.InRange r.toList ∧ fieldY.InRange r.toList := by
  have hx := r.x.isLt
  have hy := r.y.isLt
  rw [HidReport.Field.InRange, HidReport.Field.InRange, fieldX_read, fieldY_read]
  simp only [fieldX, fieldY]
  omega

/-! ## The application's side of the pipe -/

/-- The calls of `udi_hid_generic_send_report_in` in a history, with their answers. -/
def calls (h : List Action) : List (Report × Bool) :=
  h.filterMap fun a =>
    match a with
    | .offered data accepted => some (data, accepted)
    | _ => none

/-- What `joystick.c` and `udi_hid_generic_send_report_in` have written. -/
structure Written where
  usbReport : Report
  prevReport : Report
  reportIn : Report
  calls : List (Report × Bool)

namespace Pipe

variable {p : Pipe}

/-- The application's side of the pipe. -/
def written (p : Pipe) : Written := ⟨p.usbReport, p.prevReport, p.reportIn, calls p.history⟩

@[simp] theorem finish_written (status : UddEpStatus) (p : Pipe) :
    (p.finish status).written = p.written := by
  simp only [finish]
  split
  · split
    · cases status <;> rfl
    · rfl
  · rfl

@[simp] theorem abort_written (p : Pipe) : p.abort.written = p.written :=
  finish_written .abort { p with ep := uddEndpointSetNACK0 p.ep }

@[simp] theorem release_written (p : Pipe) : p.release.written = p.written := abort_written p

@[simp] theorem attach_written (p : Pipe) : p.attach.written = p.written := by
  rw [attach]
  split <;> rfl

@[simp] theorem deconfigure_written (p : Pipe) : p.deconfigure.written = p.written := by
  rw [deconfigure]
  split
  · exact release_written p
  · rfl

@[simp] theorem transComplet_written (p : Pipe) : p.transComplet.written = p.written := by
  simp only [transComplet]
  split
  · rfl
  · split
    · rfl
    · exact finish_written .ok { p with job := { p.job with nbTrans := p.job.nbTrans + p.ep.auxdata } }

/-- No request writes on the application's side. -/
theorem request_written (r : PipeRequest) (p : Pipe) : (p.request r).written = p.written := by
  cases r with
  | keep => rfl
  | configure n =>
    rw [request, configure]
    split
    · exact deconfigure_written p
    · exact (attach_written _).trans (deconfigure_written p)
  | setInterface n =>
    rw [request, setInterface]
    split <;> simp
  | halt =>
    exact (abort_written { p.abort with ep := uddEndpointEnableStall p.abort.ep }).trans
      (abort_written p)
  | clearHalt => rfl

/-- Only ticks write on the application's side. -/
theorem step_written {o : PipeOp} (h : ∀ t, o ≠ .tick t) (p : Pipe) :
    (p.step o).written = p.written := by
  cases o with
  | keep => rfl
  | tick t => exact absurd rfl (h t)
  | collect =>
    rw [step, Pipe.collect]
    split <;> rfl
  | transferComplete =>
    rw [step, Pipe.transferComplete]
    split
    · exact transComplet_written { p with ep := uddEndpointAckTransferComplete p.ep }
    · rfl
  | busReset => exact (deconfigure_written p.abort).trans (abort_written p)
  | request r => exact request_written r p

/-- Nothing writes the buffer while the controller may read it. -/
theorem Consistent.step_reportIn (h : p.Consistent) (hs : p.Settled) (harmed : p.ep.armed = true)
    (o : PipeOp) : (p.step o).reportIn = p.reportIn := by
  by_cases htick : ∃ t, o = .tick t
  · obtain ⟨t, rfl⟩ := htick
    obtain ⟨hen, hbusy, _⟩ := h.of_armed hs harmed
    have hfree : (p.look t.usbTask).free = false := (h.free hen).trans (by rw [hbusy]; rfl)
    have hsend : (p.look t.usbTask).send (sample t.usbTask) =
        (p.look t.usbTask).note (.offered (sample t.usbTask) false) := by
      rw [Pipe.send, hfree]
      rfl
    rw [step, Pipe.tick]
    split
    · rw [Pipe.usbTask, hsend]
      split
      · rfl
      · split <;> rfl
    · rfl
  · exact congrArg Written.reportIn (step_written (fun t ht => htick ⟨t, ht⟩) p)

end Pipe

/-! ## Packets and ticks -/

/-- Through the report descriptor, the packet `b` reads as the axes of the reading `r`: the
first byte is X and the horizontal slider, the second is Y and the vertical one. -/
def ReadsAs (r : Readings) (b : List Byte) : Prop :=
  ∃ x y, HidReport.layout udiHidGenericReportDesc = some [x, y] ∧
    x.usage = 0x30 ∧ x.bitOffset = 0 ∧ y.usage = 0x31 ∧ y.bitOffset = 8 ∧
    x.InRange b ∧ y.InRange b ∧
    x.read b = (padAxis r.horiPad).toNat ∧ y.read b = (padAxis r.vertPad).toNat

/-- In the history `h`, oldest entry first, every packet the host collects is the report that
`jstk_usbTask` computed in one earlier tick, which `producer` tells, and that the driver accepted
in that tick; and later packets come from later ticks. -/
structure Produced (h : List Action) (producer : ℕ → ℕ) : Prop where
  whole : ∀ i b, h[i]? = some (.received b) →
    b.length = 2 ∧ producer i + 1 < i ∧
      ∃ r, h[producer i]? = some (.sampled r (sample r)) ∧
        h[producer i + 1]? = some (.offered (sample r) true) ∧
        b = (sample r).toList ∧ ReadsAs r b
  increasing : ∀ i j b b', h[i]? = some (.received b) → h[j]? = some (.received b') → i < j →
    producer i < producer j

/-- The controller may read the buffer only when it has been filled, and nothing changes it
then. -/
structure Running.Untorn (x : Running) : Prop where
  /-- between ticks, the guard before the buffer is written is closed -/
  guarded : (x.firmware.ctrl epInCtrl).live = true → x.handler.isDone = true →
    x.firmware.udiHidGenericBReportInFree = false
  /-- the buffer holds the report accepted last -/
  filled : (x.firmware.ctrl epInCtrl).live = true →
    Mailbox.accepted x.firmware.history = some x.firmware.udiHidGenericReportIn
  /-- neither an instruction nor anything else changes it -/
  unchanged : (x.firmware.ctrl epInCtrl).live = true → ∀ e x', x.Takes e →
    running.step x e = .ok x' →
    x'.firmware.udiHidGenericReportIn = x.firmware.udiHidGenericReportIn

theorem sample_readsAs (r : Readings) : ReadsAs r (sample r).toList := by
  obtain ⟨hx, hy⟩ := fields_inRange (sample r)
  exact ⟨fieldX, fieldY, reportDesc_layout, rfl, rfl, rfl, rfl, hx, hy, fieldX_read _,
    fieldY_read _⟩

/-- A mailbox that delivers in order produces its packets. -/
theorem produced_of_matched {h : List Action} {producer : ℕ → ℕ} {k : ℕ}
    (hm : Mailbox.Matched sample Report.toList h producer k) : Produced h producer where
  whole i b hi := by
    obtain ⟨r, hr, hacc, rfl⟩ := hm.carries i b hi
    exact ⟨rfl, hm.earlier i _ hi, r, hr, hacc, rfl, sample_readsAs r⟩
  increasing := hm.increasing

/-- What has been produced by now does not depend on what is still to come. -/
theorem Produced.so_far {h h' : List Action} {producer : ℕ → ℕ} (hp : Produced h' producer)
    (hpre : h <+: h') : Produced h producer where
  whole i b hi := by
    obtain ⟨t, rfl⟩ := hpre
    obtain ⟨hlen, hearlier, r, hr, hacc, hb, hreads⟩ :=
      hp.whole i b (Mailbox.getElem?_append_of_some hi)
    have hlt : i < h.length := (List.getElem?_eq_some_iff.mp hi).1
    rw [List.getElem?_append_left (by omega)] at hr hacc
    exact ⟨hlen, hearlier, r, hr, hacc, hb, hreads⟩
  increasing i j b b' hi hj := by
    obtain ⟨t, rfl⟩ := hpre
    exact hp.increasing i j b b' (Mailbox.getElem?_append_of_some hi)
      (Mailbox.getElem?_append_of_some hj)

section Untorn

variable {s s' : Firmware} {x : Running} {c : Reports}

theorem Carries.armed_of_live (h : Carries s c) (hlive : (s.ctrl epInCtrl).live = true) :
    s.pipe.ep.armed = true := h.inv.pipe.live_eq ▸ hlive

/-- Between ticks, the guard is closed while the controller may read the buffer. -/
theorem Carries.guarded (h : Carries s c) (hlive : (s.ctrl epInCtrl).live = true) :
    s.udiHidGenericBReportInFree = false := by
  obtain ⟨hen, hbusy, _⟩ := h.inv.pipe.of_armed h.settled (h.armed_of_live hlive)
  have hfree := h.inv.pipe.free hen
  rw [hbusy] at hfree
  exact hfree

/-- Between ticks, nothing changes the buffer while the controller may read it. -/
theorem Carries.unchanged (h : Carries s c) (hlive : (s.ctrl epInCtrl).live = true) {e : Event}
    (hstep : device.step s e = .ok s') : s'.udiHidGenericReportIn = s.udiHidGenericReportIn := by
  have hpipe := congrArg Pipe.reportIn (pipe_of_step h.inv hstep)
  rw [h.inv.pipe.step_reportIn h.settled (h.armed_of_live hlive)] at hpipe
  exact hpipe

/-- What the controller may read is the report accepted last. -/
theorem Carries.filled (h : Carries s c) (hc : Mailbox.Accounted Report.toList c)
    (hlive : (s.ctrl epInCtrl).live = true) :
    Mailbox.accepted s.history = some s.udiHidGenericReportIn := by
  have hstage := (h.inv.pipe.armed_iff h.settled).mp (h.armed_of_live hlive)
  obtain rfl : c = ⟨.armed s.pipe.reportIn, s.pipe.prevReport, s.pipe.history⟩ :=
    h.mailbox.trans (Pipe.mailbox_of_stage hstage)
  exact hc.2.1

/-- `main_sof_action` does not touch the buffer on the way to the guard. -/
theorem mainSofActionStart_reportIn (t : Tick) (s : Firmware) :
    (mainSofActionStart t s).2.udiHidGenericReportIn = s.udiHidGenericReportIn := by
  simp only [mainSofActionStart, joystickStart, jstkUsbTaskStart]
  split
  · rfl
  · split
    · split <;> rfl
    · split
      · split <;> rfl
      · rfl

theorem hostCollect_reportIn (s : Firmware) :
    (hostCollect s).udiHidGenericReportIn = s.udiHidGenericReportIn := by
  rw [hostCollect]
  split <;> rfl

/-- What `running` shows of the mailbox while a packet may be collected, it also shows at the end
of the tick. -/
theorem Running.Carries.untorn (h : x.Carries c) (hc : Mailbox.Accounted Report.toList c) :
    x.Untorn where
  guarded hlive hdone := by
    have hcarries := h.carries
    rw [Program.eq_done hdone] at hcarries
    exact hcarries.guarded hlive
  filled hlive := by
    have hshared := (h.released hlive).shared_exec x.firmware
    obtain ⟨hctrl, hreport, hhistory⟩ : (x.handler.exec x.firmware).ctrl epInCtrl = _ ∧
        (x.handler.exec x.firmware).udiHidGenericReportIn = _ ∧
        (x.handler.exec x.firmware).history = _ := by
      simpa only [Firmware.shared, Prod.mk.injEq] using hshared
    have hfilled := h.carries.filled hc (hctrl ▸ hlive)
    rwa [hreport, hhistory] at hfilled
  unchanged hlive e x' htakes hstep := by
    cases e with
    | instruction =>
      obtain rfl := Except.ok.inj hstep
      exact congrArg (fun t : UsbEp × Report × List Action => t.2.1)
        ((h.released hlive).shared_next x.firmware)
    | event e =>
      have hevent (hdone : x.handler.isDone = true) {s' : Firmware}
          (hs' : device.step x.firmware e = .ok s') :
          s'.udiHidGenericReportIn = x.firmware.udiHidGenericReportIn := by
        have hcarries := h.carries
        rw [Program.eq_done hdone] at hcarries
        exact hcarries.unchanged hlive hs'
      cases e with
      | collect =>
        obtain rfl := Except.ok.inj hstep
        exact hostCollect_reportIn x.firmware
      | sof t =>
        obtain rfl := Except.ok.inj hstep
        exact mainSofActionStart_reportIn t x.firmware
      | reset | transferComplete | setup _ | ctrlIn | ctrlOut _ | underflow | overflow | unstall =>
        obtain ⟨s', hs', hx'⟩ := Except.bind_eq_ok hstep
        obtain rfl := Except.ok.inj hx'
        exact hevent htakes hs'

end Untorn

/-- **Untorn, in order, at most once.** -/
theorem delivered_once {es : List RunningEvent}
    (h : running.Admits Interleaved ⟨Firmware.powerOn, .done⟩ es) :
    ∃ x producer, running.run ⟨Firmware.powerOn, .done⟩ es = .ok x ∧
      Produced x.firmware.history.reverse producer ∧ x.Untorn := by
  obtain ⟨x, c, hrun, hcarries, ⟨producer, k, hmatched, _, _⟩, haccounted⟩ :=
    interleaved_run (J := fun c => Mailbox.Delivers sample Report.toList c ∧
        Mailbox.Accounted Report.toList c)
      (fun c op hc => ⟨Mailbox.Delivers.next sample Report.toList hc.1 op,
        Mailbox.Accounted.next sample Report.toList hc.2 op⟩)
      ⟨⟨id, 0, Mailbox.Matched.nil 0, Nat.zero_le _, fun a ha => by cases ha⟩, trivial⟩ h
  refine ⟨x, producer, hrun, (produced_of_matched hmatched).so_far ?_, hcarries.untorn haccounted⟩
  rw [Mailbox.State.history, hcarries.carries.mailbox]
  exact List.reverse_prefix.mpr (hcarries.logs.exec x.firmware)

/-- A report, with a poll after each instruction; then the interrupt runs. -/
def polledThroughout : List RunningEvent :=
  enumeration.map .event ++ .event touchLeft ::
    (List.replicate 19 [.instruction, .event .collect]).flatten ++ [.event .transferComplete]

theorem polledThroughout_admitted :
    running.Admits Interleaved ⟨Firmware.powerOn, .done⟩ polledThroughout := by decide +kernel

/-- The host polls too early fifteen times, and then gets the report. -/
theorem delivered_once_polledThroughout :
    ∃ x producer, running.run ⟨Firmware.powerOn, .done⟩ polledThroughout = .ok x ∧
      x.firmware.history.head? = some .completed ∧
      Produced x.firmware.history.reverse producer ∧ x.Untorn := by
  obtain ⟨x, producer, hrun, hproduced, huntorn⟩ := delivered_once polledThroughout_admitted
  have hlast : (running.run ⟨Firmware.powerOn, .done⟩ polledThroughout).map
      (fun x => x.firmware.history.head?) = .ok (some .completed) := by decide +kernel
  rw [hrun] at hlast
  exact ⟨x, producer, hrun, Except.ok.inj hlast, hproduced, huntorn⟩

end HidJoystick
