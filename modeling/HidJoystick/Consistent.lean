import HidJoystick.Pipe

/-!
# The invariant of the report pipe

Three layers keep their own account of the pipe: the application its enable flag,
the HID interface its free flag, the driver its job and its endpoint registers.
`Pipe.Consistent` says how they agree, and every operation of the pipe keeps it,
in any order. Nothing is assumed about when interrupts are taken: a
transfer-complete flag may be left over from a transfer that was aborted.
-/

namespace HidJoystick

namespace Pipe

/-- A report in flight: the job is the one `udi_hid_generic_send_report_in` starts,
on an allocated endpoint that is not halted, and the controller either has the
packet on the bank or has sent it and raised the transfer-complete flag. -/
structure InFlight (ep : UsbEp) (job : UddEpJob) : Prop where
  job_eq : job = reportJob
  unhalted : ep.stall = false
  bank : (ep.busnack0 = false ∧ ep.auxdata = 0 ∧ ep.cnt = udiHidReportInSize ∧
      ep.dataptr = ⟨.udiHidGenericReportIn, 0⟩) ∨
    (ep.busnack0 = true ∧ ep.trncompl0 = true ∧ ep.auxdata = udiHidReportInSize)

/-- The layers agree. -/
structure Consistent (p : Pipe) : Prop where
  /-- the interface is enabled exactly while EP 0x81 is allocated -/
  allocated : uddEndpointIsEnable p.ep = p.enable
  /-- an allocated EP 0x81 is a bulk endpoint -/
  bulk : p.enable = true → p.ep.type = .bulk
  /-- nothing is enabled in the unconfigured state -/
  unconfigured : p.numConf = 0 → p.enable = false
  /-- while it is enabled, the HID interface is free exactly when the driver has no job -/
  free : p.enable = true → p.free = !p.job.busy
  /-- only an enabled interface has a job -/
  enabled : p.job.busy = true → p.enable = true
  /-- a job is a report in flight -/
  busy : p.job.busy = true → InFlight p.ep p.job

variable {p : Pipe}

/-! ## Aborting -/

theorem Consistent.callTrans (h : p.Consistent) (hbusy : p.job.busy = true) :
    p.job.callTrans = some .udiHidGenericReportInSent := by
  rw [(h.busy hbusy).job_eq]
  rfl

/-- What an abort does. -/
theorem Consistent.abort_eq (h : p.Consistent) :
    p.abort =
      if p.job.busy then
        { p with
          ep := uddEndpointSetNACK0 p.ep
          job := { p.job with busy := false }
          free := true
          history := .aborted :: p.history }
      else { p with ep := uddEndpointSetNACK0 p.ep } := by
  by_cases hbusy : p.job.busy = true
  · simp [Pipe.abort, finish, hbusy, h.callTrans hbusy, callback, note, UddEpStatus.action]
  · simp [Pipe.abort, finish, hbusy]

/-- After an abort there is no job. -/
@[simp] theorem abort_busy (p : Pipe) : p.abort.job.busy = false := by
  simp only [Pipe.abort, finish]
  split
  · split <;> rfl
  · next hbusy => exact Bool.eq_false_of_not_eq_true hbusy

theorem Consistent.abort (h : p.Consistent) : p.abort.Consistent := by
  rw [h.abort_eq]
  split
  · exact ⟨h.allocated, h.bulk, h.unconfigured, fun _ => rfl, fun hb => Bool.noConfusion hb,
      fun hb => Bool.noConfusion hb⟩
  · next hbusy =>
    exact ⟨h.allocated, h.bulk, h.unconfigured, h.free, h.enabled, fun hb => absurd hb hbusy⟩

@[simp] theorem abort_numConf (p : Pipe) : p.abort.numConf = p.numConf := by
  simp only [Pipe.abort, finish]
  split
  · split <;> rfl
  · rfl

/-! ## Sessions -/

theorem Consistent.release (_ : p.Consistent) : p.release.Consistent where
  allocated := rfl
  bulk h := by cases h
  unconfigured _ := rfl
  free h := by cases h
  enabled h := by simp [Pipe.release, note] at h
  busy h := by simp [Pipe.release, note] at h

@[simp] theorem release_numConf (p : Pipe) : p.release.numConf = p.numConf := by
  simp [release, note]

theorem Consistent.attach (h : p.Consistent) (hconf : p.numConf ≠ 0) : p.attach.Consistent := by
  rw [Pipe.attach]
  split
  · exact h
  · next hdis =>
    have hidle : p.job.busy = false := by
      by_contra hbusy
      have hen := h.enabled (Bool.eq_true_of_not_eq_false hbusy)
      rw [h.allocated, hen] at hdis
      exact hdis rfl
    refine ⟨rfl, fun _ => rfl, fun hc => absurd hc hconf, fun _ => ?_, fun _ => rfl, fun hb => ?_⟩
    · simp [note, hidle]
    · simp [note, hidle] at hb

theorem Consistent.deconfigure (h : p.Consistent) : p.deconfigure.Consistent := by
  by_cases hconf : p.numConf = 0
  · simp only [Pipe.deconfigure, hconf, ne_eq, not_true_eq_false, if_false]
    exact ⟨h.allocated, h.bulk, fun _ => h.unconfigured hconf, h.free, h.enabled, h.busy⟩
  · have hr := h.release
    simp only [Pipe.deconfigure, hconf, ne_eq, not_false_eq_true, if_true]
    exact ⟨hr.allocated, hr.bulk, fun _ => rfl, hr.free, hr.enabled, hr.busy⟩

/-- In the unconfigured state EP 0x81 can be allocated. -/
theorem Consistent.isEnable_deconfigure (h : p.Consistent) :
    uddEndpointIsEnable p.deconfigure.ep = false := by
  rw [h.deconfigure.allocated]
  exact h.deconfigure.unconfigured rfl

theorem Consistent.busReset (h : p.Consistent) : p.busReset.Consistent := h.abort.deconfigure

theorem Consistent.withNumConf (h : p.Consistent) (hdis : p.enable = false) (n : Byte) :
    { p with numConf := n }.Consistent :=
  ⟨h.allocated, h.bulk, fun _ => hdis, h.free, h.enabled, h.busy⟩

theorem Consistent.configure (h : p.Consistent) (n : Byte) : (p.configure n).Consistent := by
  have hd := h.deconfigure.withNumConf (h.deconfigure.unconfigured rfl) n
  rw [Pipe.configure]
  split
  · exact hd
  · next hn => exact hd.attach hn

theorem Consistent.setInterface (h : p.Consistent) (hconf : p.numConf ≠ 0) (n : Byte) :
    (p.setInterface n).Consistent := by
  rw [Pipe.setInterface]
  split
  · exact h.release.attach (by simpa using hconf)
  · exact h.release

/-! ## Halting -/

theorem Consistent.halt (h : p.Consistent) : p.halt.Consistent := by
  have ha := h.abort
  have hidle : p.abort.job.busy = false := abort_busy p
  refine Consistent.abort ⟨ha.allocated, ha.bulk, ha.unconfigured, ha.free, ha.enabled, fun hb => ?_⟩
  simp only at hb
  rw [hidle] at hb
  cases hb

theorem Consistent.clearHalt (h : p.Consistent) : p.clearHalt.Consistent := by
  rcases hstall : p.ep.stall with _ | _
  · have heq : p.clearHalt = { p with ep := uddEndpointClearDtgl p.ep } := by
      simp [Pipe.clearHalt, uddEndpointClearDtgl, hstall]
    rw [heq]
    exact ⟨h.allocated, h.bulk, h.unconfigured, h.free, h.enabled, fun hb =>
      ⟨(h.busy hb).job_eq, (h.busy hb).unhalted, (h.busy hb).bank⟩⟩
  · have heq : p.clearHalt =
        { p with ep := uddEndpointDisableStall (uddEndpointClearDtgl p.ep) } := by
      simp [Pipe.clearHalt, uddEndpointClearDtgl, hstall]
    rw [heq]
    exact ⟨h.allocated, h.bulk, h.unconfigured, h.free, h.enabled, fun hb =>
      ⟨(h.busy hb).job_eq, rfl, (h.busy hb).bank⟩⟩

/-! ## Ticks -/

/-- **Acceptance**: an enabled pipe that is free takes a report exactly when EP 0x81
is not halted. -/
theorem Consistent.accepts (h : p.Consistent) (hen : p.enable = true) :
    p.accepts = (!p.ep.stall && !p.job.busy) := by
  rw [Pipe.accepts, h.allocated, hen, h.bulk hen]
  rfl

theorem Consistent.sendAccepted (h : p.Consistent) (hen : p.enable = true) :
    p.sendAccepted = (p.free && !p.ep.stall) := by
  rw [Pipe.sendAccepted, h.accepts hen, h.free hen]
  cases p.job.busy <;> cases p.ep.stall <;> rfl

/-- Recording what happens outside does not matter. -/
theorem Consistent.note (h : p.Consistent) (a : Action) : (p.note a).Consistent :=
  ⟨h.allocated, h.bulk, h.unconfigured, h.free, h.enabled, h.busy⟩

theorem Consistent.send (h : p.Consistent) (hen : p.enable = true) (data : Report) :
    (p.send data).Consistent := by
  rw [Pipe.send]
  by_cases hfree : p.free = true
  · rw [if_neg (by simp [hfree])]
    have hidle : p.job.busy = false := by
      have := h.free hen
      rw [hfree] at this
      simpa using this.symm
    split
    · next hacc =>
      have hstall : p.ep.stall = false := by
        rw [h.accepts hen] at hacc
        simp_all
      exact ⟨h.allocated, h.bulk, h.unconfigured, fun _ => rfl, fun _ => hen, fun _ =>
        ⟨rfl, hstall, Or.inl ⟨rfl, rfl, rfl, rfl⟩⟩⟩
    · refine ⟨h.allocated, h.bulk, h.unconfigured, fun _ => ?_, h.enabled, h.busy⟩
      simp [Pipe.note, hidle]
  · rw [if_pos (by simpa using hfree)]
    exact h.note _

theorem Consistent.withReports (h : p.Consistent) (usb prev : Report) :
    { p with usbReport := usb, prevReport := prev }.Consistent :=
  ⟨h.allocated, h.bulk, h.unconfigured, h.free, h.enabled, h.busy⟩

theorem Consistent.usbTask (h : p.Consistent) (hen : p.enable = true) (r : Readings) :
    (p.usbTask r).Consistent := by
  have hs : (p.look r).Consistent := (h.withReports (sample r) p.prevReport).note _
  rw [Pipe.usbTask]
  split
  · exact hs
  · split
    · exact (hs.send hen (sample r)).withReports _ _
    · exact hs.send hen (sample r)

theorem Consistent.tick (h : p.Consistent) (t : Tick) : (p.tick t).Consistent := by
  rw [Pipe.tick]
  split
  · next hen => exact h.usbTask (Bool.and_eq_true_iff.mp hen).1 t.usbTask
  · exact h

/-! ## The bus -/

/-- A bank of at most eight bytes is one packet. -/
theorem packet_of_short {e : UsbEp} (haux : e.auxdata = 0) (hcnt : e.cnt.toNat ≤ 8) :
    e.packetStart = 0 ∧ e.packetLen = e.cnt.toNat ∧ e.afterPacket = e.afterSend := by
  have hsize := (packetSize_bounds e).1
  have hstart : e.packetStart = 0 := by
    rw [UsbEp.packetStart, haux]
    exact ite_self 0
  have hlen : e.packetLen = e.cnt.toNat := by
    have hzero : (0 : Word).toNat = 0 := rfl
    have hmin : min e.packetSize (e.cnt.toNat - (0 : Word).toNat) = e.cnt.toNat := by omega
    rw [UsbEp.packetLen, haux, hmin]
    exact ite_self _
  refine ⟨hstart, hlen, ?_⟩
  rw [UsbEp.afterPacket, hstart, hlen, Nat.zero_add, if_neg (Nat.lt_irrefl _)]

/-- A report is one packet. -/
theorem InFlight.packet {ep : UsbEp} {job : UddEpJob} (h : InFlight ep job)
    (hnack : ep.busnack0 = false) :
    ep.packetStart = 0 ∧ ep.packetLen = 2 ∧ ep.afterPacket = ep.afterSend := by
  rcases h.bank with ⟨_, haux, hcnt, _⟩ | ⟨hnack', _⟩
  · have hlen : ep.cnt.toNat = 2 := by
      rw [hcnt]
      rfl
    rw [← hlen]
    exact packet_of_short haux (by omega)
  · rw [hnack] at hnack'
    cases hnack'

/-- EP 0x81 is not isochronous. -/
theorem Consistent.live_eq (h : p.Consistent) : p.ep.live = p.ep.armed := by
  rw [UsbEp.live, UsbEp.armed, UsbEp.halted, h.allocated]
  rcases hen : p.enable with _ | _
  · rfl
  · rw [h.bulk hen]
    rfl

theorem Consistent.collect (h : p.Consistent) : p.collect.Consistent := by
  have hafter : p.ep.afterPacket.type = p.ep.type := by
    rw [UsbEp.afterPacket]
    split <;> rfl
  rw [Pipe.collect]
  split
  · next hlive =>
    have hnack : p.ep.busnack0 = false := by
      simp only [UsbEp.live, Bool.and_eq_true, Bool.not_eq_true'] at hlive
      exact hlive.2
    refine ⟨?_, fun hen => hafter.trans (h.bulk hen), h.unconfigured, h.free, h.enabled, fun hb => ?_⟩
    · exact (congrArg (· != UsbEpType.disable) hafter).trans h.allocated
    · have hin := h.busy hb
      change InFlight p.ep.afterPacket p.job
      rw [(hin.packet hnack).2.2]
      refine ⟨hin.job_eq, hin.unhalted, Or.inr ⟨rfl, rfl, ?_⟩⟩
      rcases hin.bank with ⟨_, _, hcnt, _⟩ | ⟨hnack', _⟩
      · exact hcnt
      · rw [hnack] at hnack'
        cases hnack'
  · exact h

/-- The transfer of a job that is not busy may be set going again, but nothing is
called back. -/
theorem Consistent.transComplet_of_idle (h : p.Consistent) (hidle : p.job.busy = false) :
    p.transComplet.Consistent := by
  have hfree (hen : p.enable = true) : p.free = true := by
    rw [h.free hen, hidle]
    rfl
  simp only [transComplet, finish, hidle, Bool.false_eq_true, if_false]
  split
  · exact ⟨h.allocated, h.bulk, h.unconfigured, hfree, fun hb => Bool.noConfusion hb,
      fun hb => Bool.noConfusion hb⟩
  · split
    · exact ⟨h.allocated, h.bulk, h.unconfigured, hfree, fun hb => Bool.noConfusion hb,
        fun hb => Bool.noConfusion hb⟩
    · exact ⟨h.allocated, h.bulk, h.unconfigured, hfree, fun hb => Bool.noConfusion hb,
        fun hb => Bool.noConfusion hb⟩

/-- A report that has been sent is done with. -/
theorem transComplet_of_sent (hjob : p.job = reportJob) (haux : p.ep.auxdata = udiHidReportInSize) :
    p.transComplet =
      { p with
        job := { reportJob with busy := false, nbTrans := udiHidReportInSize }
        free := true
        history := .completed :: p.history } := by
  obtain ⟨enable, free, reportIn, usbReport, prevReport, ep, job, numConf, history⟩ := p
  obtain rfl : job = reportJob := hjob
  simp only at haux
  simp [transComplet, reportJob, haux, finish, callback, note, UddEpStatus.action]

theorem Consistent.withAck (h : p.Consistent) (hidle : p.job.busy = false) :
    { p with ep := uddEndpointAckTransferComplete p.ep }.Consistent := by
  refine ⟨h.allocated, h.bulk, h.unconfigured, h.free, h.enabled, fun hb => ?_⟩
  have hbusy : p.job.busy = true := hb
  rw [hidle] at hbusy
  cases hbusy

theorem Consistent.transferComplete (h : p.Consistent) : p.transferComplete.Consistent := by
  rw [Pipe.transferComplete]
  split
  · by_cases hbusy : p.job.busy = true
    · have hin := h.busy hbusy
      have hjob : { p with ep := uddEndpointAckTransferComplete p.ep }.job = reportJob := hin.job_eq
      rcases hin.bank with ⟨_, haux, _⟩ | ⟨_, _, haux⟩
      · -- the flag was left over, and the packet is still on the bank
        rw [transComplet_of_unsent hjob haux]
        exact ⟨h.allocated, h.bulk, h.unconfigured, h.free, h.enabled, fun _ =>
          ⟨hin.job_eq, hin.unhalted, Or.inl ⟨rfl, rfl, rfl, rfl⟩⟩⟩
      · rw [transComplet_of_sent hjob haux]
        exact ⟨h.allocated, h.bulk, h.unconfigured, fun _ => rfl, fun hb => Bool.noConfusion hb,
          fun hb => Bool.noConfusion hb⟩
    · have hidle := Bool.eq_false_of_not_eq_true hbusy
      exact (h.withAck hidle).transComplet_of_idle hidle
  · exact h

end Pipe

end HidJoystick
