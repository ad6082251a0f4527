import HidJoystick.MailboxRuns
import HidJoystick.Refinement

/-!
# The report pipe is a mailbox

The abstraction of the report pipe: a change-detecting mailbox that samples port
readings (`sample`), compares reports, and hands them over as bytes
(`Report.toList`). `Pipe.mailbox` forgets the registers, and `step_moves` says
that every operation of the pipe is the mailbox operation `Pipe.op` makes of it.

This needs `Pipe.Settled`: no packet is left on the bank of an aborted transfer,
and no transfer-complete flag survives one. It holds as long as SETUP packets are
processed after the transfer-complete interrupts that came before them, which is
the environment `Orderly`.
-/

namespace HidJoystick

/-- A mailbox for reports. -/
abbrev Reports : Type := Mailbox.State Readings Report (List Byte)

/-- The mailbox machine for reports. -/
abbrev reports : Machine Reports (Mailbox.Op Readings) Empty :=
  Mailbox.machine sample Report.toList

namespace Pipe

/-! ## The abstraction -/

/-- Where the report in the pipe stands. -/
def stage (p : Pipe) : Mailbox.Stage Report :=
  if !p.enable then .down
  else if p.job.busy then
    if p.ep.busnack0 then .collected p.reportIn else .armed p.reportIn
  else if p.ep.stall then .halted
  else .idle

/-- The pipe as a mailbox. -/
def mailbox (p : Pipe) : Reports := ⟨p.stage, p.prevReport, p.history⟩

/-- What an operation of the pipe is to the mailbox. -/
def op (p : Pipe) : PipeOp → Mailbox.Op Readings
  | .keep => .keep
  | .tick t => if p.enable && t.normal then .sample t.usbTask else .keep
  | .collect => .collect
  | .transferComplete => .complete
  | .busReset => if p.numConf = 0 then .keep else .stop
  | .request .keep => .keep
  | .request (.configure n) =>
    if p.numConf = 0 then
      if n = 0 then .keep else .start
    else
      if n = 0 then .stop else .restart
  | .request (.setInterface n) => if n = 0 then .restart else .stop
  | .request .halt => .halt
  | .request .clearHalt => .unhalt

/-- Between transfers the bank is empty, and the transfer-complete flag is only set
for a report that has been sent. -/
structure Settled (p : Pipe) : Prop where
  bank : p.enable = true → p.job.busy = false → p.ep.busnack0 = true
  flag : p.enable = true → p.ep.trncompl0 = true → p.job.busy = true ∧ p.ep.busnack0 = true

variable {p : Pipe}

theorem mailbox_of_stage {stage : Mailbox.Stage Report} (h : p.stage = stage) :
    p.mailbox = ⟨stage, p.prevReport, p.history⟩ := by
  rw [mailbox, h]

theorem stage_of_down (h : p.enable = false) : p.stage = .down := by
  simp [stage, h]

theorem stage_of_idle (hen : p.enable = true) (hbusy : p.job.busy = false)
    (hstall : p.ep.stall = false) : p.stage = .idle := by
  simp [stage, hen, hbusy, hstall]

theorem stage_of_halted (hen : p.enable = true) (hbusy : p.job.busy = false)
    (hstall : p.ep.stall = true) : p.stage = .halted := by
  simp [stage, hen, hbusy, hstall]

theorem stage_of_armed (hen : p.enable = true) (hbusy : p.job.busy = true)
    (hnack : p.ep.busnack0 = false) : p.stage = .armed p.reportIn := by
  simp [stage, hen, hbusy, hnack]

theorem stage_of_collected (hen : p.enable = true) (hbusy : p.job.busy = true)
    (hnack : p.ep.busnack0 = true) : p.stage = .collected p.reportIn := by
  simp [stage, hen, hbusy, hnack]

/-- The five stages. -/
theorem stage_cases (p : Pipe) :
    (p.enable = false ∧ p.stage = .down) ∨
    (p.enable = true ∧ p.job.busy = false ∧ p.ep.stall = false ∧ p.stage = .idle) ∨
    (p.enable = true ∧ p.job.busy = false ∧ p.ep.stall = true ∧ p.stage = .halted) ∨
    (p.enable = true ∧ p.job.busy = true ∧ p.ep.busnack0 = false ∧ p.stage = .armed p.reportIn) ∨
    (p.enable = true ∧ p.job.busy = true ∧ p.ep.busnack0 = true ∧
      p.stage = .collected p.reportIn) := by
  rcases hen : p.enable with _ | _
  · exact Or.inl ⟨rfl, stage_of_down hen⟩
  · rcases hbusy : p.job.busy with _ | _
    · rcases hstall : p.ep.stall with _ | _
      · exact Or.inr (Or.inl ⟨rfl, rfl, rfl, stage_of_idle hen hbusy hstall⟩)
      · exact Or.inr (Or.inr (Or.inl ⟨rfl, rfl, rfl, stage_of_halted hen hbusy hstall⟩))
    · rcases hnack : p.ep.busnack0 with _ | _
      · exact Or.inr (Or.inr (Or.inr (Or.inl ⟨rfl, rfl, rfl, stage_of_armed hen hbusy hnack⟩)))
      · exact Or.inr (Or.inr (Or.inr (Or.inr ⟨rfl, rfl, rfl, stage_of_collected hen hbusy hnack⟩)))

/-- A disabled pipe has no job. -/
theorem Consistent.idle_of_down (h : p.Consistent) (hen : p.enable = false) :
    p.job.busy = false := by
  by_contra hbusy
  have := h.enabled (Bool.eq_true_of_not_eq_false hbusy)
  rw [hen] at this
  cases this

/-- Nothing is thrown away where there is no job. -/
theorem aborts_of_idle (hidle : p.job.busy = false) :
    (p.stage.aborts : List Action) = [] := by
  simp only [stage, hidle, Bool.false_eq_true, if_false]
  split
  · rfl
  · split <;> rfl

/-- What an abort leaves in the log. -/
theorem Consistent.abort_history (h : p.Consistent) :
    p.abort.history = p.stage.aborts ++ p.history := by
  rw [h.abort_eq]
  by_cases hbusy : p.job.busy = true
  · rw [if_pos hbusy]
    have hen := h.enabled hbusy
    rcases hnack : p.ep.busnack0 with _ | _
    · rw [stage_of_armed hen hbusy hnack]
      rfl
    · rw [stage_of_collected hen hbusy hnack]
      rfl
  · rw [if_neg hbusy, aborts_of_idle (Bool.eq_false_of_not_eq_true hbusy)]
    rfl

/-- An abort does nothing else that matters here. -/
theorem abort_rest (p : Pipe) :
    p.abort.enable = p.enable ∧ p.abort.ep = uddEndpointSetNACK0 p.ep ∧
      p.abort.prevReport = p.prevReport := by
  simp only [Pipe.abort, finish]
  split
  · split <;> exact ⟨rfl, rfl, rfl⟩
  · exact ⟨rfl, rfl, rfl⟩

/-- Without a job an abort only empties the bank. -/
theorem abort_of_idle (hidle : p.job.busy = false) :
    p.abort = { p with ep := uddEndpointSetNACK0 p.ep } := by
  simp [Pipe.abort, finish, hidle]

/-! ## Sessions -/

/-- The pipe `p'` is settled, and is the mailbox after `o`. -/
structure Moves (p : Pipe) (o : Mailbox.Op Readings) (p' : Pipe) : Prop where
  mailbox : p'.mailbox = p.mailbox.next sample Report.toList o
  settled : p'.Settled

theorem Moves.of_stage {p' : Pipe} {o : Mailbox.Op Readings} {stage stage' : Mailbox.Stage Report}
    (hs : p'.Settled) (hstage : p.stage = stage) (hstage' : p'.stage = stage')
    (hnext : Mailbox.State.next sample Report.toList ⟨stage, p.prevReport, p.history⟩ o =
      ⟨stage', p'.prevReport, p'.history⟩) : Moves p o p' := by
  refine ⟨?_, hs⟩
  rw [mailbox_of_stage hstage, mailbox_of_stage hstage', hnext]

/-- A disabled pipe is settled. -/
theorem settled_of_down (h : p.enable = false) : p.Settled where
  bank hen := by
    rw [h] at hen
    cases hen
  flag hen := by
    rw [h] at hen
    cases hen

/-- A disabled pipe that stays disabled. -/
theorem Moves.of_down {p' : Pipe} {o : Mailbox.Op Readings} (hen : p.enable = false)
    (hen' : p'.enable = false) (hprev : p'.prevReport = p.prevReport)
    (hlog : p'.history = p.history)
    (ho : ∀ c : Reports, c.stage = .down → c.next sample Report.toList o = c) : Moves p o p' := by
  refine ⟨?_, settled_of_down hen'⟩
  rw [ho _ (stage_of_down hen), mailbox_of_stage (stage_of_down hen'),
    mailbox_of_stage (stage_of_down hen), hprev, hlog]

/-- Giving the interface up stops the mailbox. -/
theorem Consistent.release_moves (h : p.Consistent) : Moves p .stop p.release := by
  have hlog : p.release.history = .stopped :: (p.stage.aborts ++ p.history) := by
    rw [← h.abort_history]
    rfl
  refine ⟨?_, settled_of_down rfl⟩
  have hprev : p.release.prevReport = p.prevReport := (abort_rest p).2.2
  rw [mailbox_of_stage (stage_of_down (p := p.release) rfl), hlog, hprev]
  rfl

/-- Taking the interface up starts the mailbox. -/
theorem Consistent.attach_moves (h : p.Consistent) (hen : p.enable = false) :
    Moves p .start p.attach := by
  have hfree : ¬ uddEndpointIsEnable p.ep = true := by
    rw [h.allocated, hen]
    exact Bool.false_ne_true
  have hidle := h.idle_of_down hen
  have hattach : p.attach =
      { p with ep := freshEp p.ep, free := true, enable := true, history := .started :: p.history } := by
    rw [Pipe.attach, if_neg hfree]
    rfl
  rw [hattach]
  exact ⟨mailbox_of_stage (stage_of_idle rfl hidle rfl), fun _ _ => rfl,
    fun _ hflag => Bool.noConfusion hflag⟩

/-- Giving it up and taking it up again starts another session. -/
theorem Consistent.restart_moves (h : p.Consistent) : Moves p .restart p.release.attach := by
  have hattach := h.release.attach_moves rfl
  refine ⟨?_, hattach.settled⟩
  rw [hattach.mailbox, Mailbox.State.next, h.release_moves.mailbox]
  rfl

/-- SET_INTERFACE -/
theorem Consistent.setInterface_moves (h : p.Consistent) (n : Byte) :
    Moves p (p.op (.request (.setInterface n))) (p.setInterface n) := by
  rw [Pipe.setInterface, op]
  split
  · exact h.restart_moves
  · exact h.release_moves

/-- An abort before the interface is given up makes no difference. -/
theorem Consistent.abort_release_moves (h : p.Consistent) : Moves p .stop p.abort.release := by
  have hrelease := h.abort.release_moves
  refine ⟨?_, hrelease.settled⟩
  rw [hrelease.mailbox]
  simp only [Mailbox.State.next, Mailbox.State.stop, Pipe.mailbox,
    aborts_of_idle (abort_busy p), h.abort_history, (abort_rest p).2.2, List.nil_append]

/-- A bus reset -/
theorem Consistent.busReset_moves (h : p.Consistent) : Moves p (p.op .busReset) p.busReset := by
  rw [Pipe.busReset, Pipe.deconfigure, op, abort_numConf]
  by_cases hconf : p.numConf = 0
  · have hen := h.unconfigured hconf
    rw [if_neg (not_not.mpr hconf), if_pos hconf, abort_of_idle (h.idle_of_down hen)]
    exact Moves.of_down hen hen rfl rfl fun c _ => rfl
  · have hmoves := h.abort_release_moves
    rw [if_pos hconf, if_neg hconf]
    exact ⟨hmoves.mailbox, settled_of_down rfl⟩

/-- SET_CONFIGURATION -/
theorem Consistent.configure_moves (h : p.Consistent) (n : Byte) :
    Moves p (p.op (.request (.configure n))) (p.configure n) := by
  rw [Pipe.configure, Pipe.deconfigure, op]
  by_cases hconf : p.numConf = 0
  · have hen := h.unconfigured hconf
    rw [if_neg (not_not.mpr hconf), if_pos hconf]
    split
    · exact Moves.of_down hen hen rfl rfl fun c _ => rfl
    · have hattach := (h.withNumConf hen n).attach_moves hen
      exact ⟨hattach.mailbox, hattach.settled⟩
  · rw [if_pos hconf, if_neg hconf]
    split
    · exact ⟨h.release_moves.mailbox, settled_of_down rfl⟩
    · have hattach := (h.release.withNumConf rfl n).attach_moves rfl
      have hnumConf : mailbox { p.release with numConf := n } = p.release.mailbox := rfl
      refine ⟨?_, hattach.settled⟩
      rw [hattach.mailbox, hnumConf, h.release_moves.mailbox]
      rfl

/-! ## Halting -/

/-- SET_FEATURE(ENDPOINT_HALT), with no transfer-complete interrupt waiting -/
theorem Consistent.halt_moves (h : p.Consistent) (hflag : p.ep.trncompl0 = false) :
    Moves p .halt p.halt := by
  obtain ⟨hen', hep, hprev⟩ := abort_rest p
  have hhalt : p.halt =
      { p.abort with ep := uddEndpointSetNACK0 (uddEndpointEnableStall p.abort.ep) } :=
    abort_of_idle (p := { p.abort with ep := uddEndpointEnableStall p.abort.ep }) (abort_busy p)
  have hlog := h.abort_history
  have hidle' := abort_busy p
  rw [hhalt]
  generalize p.abort = q at hen' hep hprev hlog hidle'
  -- the mailbox of a disabled interface is down, and the halt only shows on the registers
  rcases hen : p.enable with _ | _
  · refine Moves.of_down hen (hen'.trans hen) hprev ?_ fun c hc => ?_
    · exact hlog.trans (by rw [aborts_of_idle (h.idle_of_down hen)]; rfl)
    · simp [Mailbox.State.next, hc]
  · refine ⟨?_, fun _ _ => rfl, fun _ hflag' => ?_⟩
    · have hafter : stage { q with ep := uddEndpointSetNACK0 (uddEndpointEnableStall q.ep) } =
          .halted := stage_of_halted (hen'.trans hen) hidle' rfl
      rw [mailbox_of_stage hafter]
      simp only [hlog, hprev, Pipe.mailbox]
      obtain ⟨hdown, _⟩ | ⟨_, _, _, hst⟩ | ⟨_, _, _, hst⟩ | ⟨_, _, _, hst⟩ | ⟨_, _, _, hst⟩ :=
        p.stage_cases
      · rw [hen] at hdown
        cases hdown
      all_goals
        rw [hst]
        rfl
    · -- a flag that was set before would pass for the flag of a later report
      have htrn : q.ep.trncompl0 = true := hflag'
      rw [hep] at htrn
      cases hflag.symm.trans htrn

/-- CLEAR_FEATURE(ENDPOINT_HALT) -/
theorem Settled.clearHalt_moves (hs : p.Settled) : Moves p .unhalt p.clearHalt := by
  have hclear : p.clearHalt = { p with ep := { p.ep with toggle := false, stall := false } } := by
    rcases hstall : p.ep.stall with _ | _
    · simp [Pipe.clearHalt, uddEndpointClearDtgl, hstall]
    · simp [Pipe.clearHalt, uddEndpointClearDtgl, uddEndpointDisableStall, hstall]
  rw [hclear]
  have hsettled : Settled { p with ep := { p.ep with toggle := false, stall := false } } :=
    ⟨hs.bank, hs.flag⟩
  obtain ⟨hen, hst⟩ | ⟨hen, hbusy, _, hst⟩ | ⟨hen, hbusy, _, hst⟩ | ⟨hen, hbusy, hnack, hst⟩ |
    ⟨hen, hbusy, hnack, hst⟩ := p.stage_cases
  · exact Moves.of_stage hsettled hst (stage_of_down hen) rfl
  · exact Moves.of_stage hsettled hst (stage_of_idle hen hbusy rfl) rfl
  · -- the only stage that changes
    exact Moves.of_stage hsettled hst (stage_of_idle hen hbusy rfl) rfl
  · exact Moves.of_stage hsettled hst (stage_of_armed hen hbusy hnack) rfl
  · exact Moves.of_stage hsettled hst (stage_of_collected hen hbusy hnack) rfl

/-! ## Ticks -/

/-- Offering a report -/
theorem Consistent.send_cases (h : p.Consistent) (hen : p.enable = true) (data : Report) :
    (p.job.busy = true ∧ p.send data = p.note (.offered data false)) ∨
    (p.job.busy = false ∧ p.ep.stall = true ∧
      p.send data = { p with reportIn := data }.note (.offered data false)) ∨
    (p.job.busy = false ∧ p.ep.stall = false ∧
      p.send data =
        { p with reportIn := data, job := reportJob, ep := armEp p.ep, free := false }.note
          (.offered data true)) := by
  have hfree := h.free hen
  have haccepts := h.accepts hen
  rcases hbusy : p.job.busy with _ | _
  · rw [hbusy] at hfree haccepts
    rcases hstall : p.ep.stall with _ | _
    · rw [hstall] at haccepts
      exact Or.inr (Or.inr ⟨rfl, rfl, by simp [Pipe.send, hfree, haccepts]⟩)
    · rw [hstall] at haccepts
      exact Or.inr (Or.inl ⟨rfl, rfl, by simp [Pipe.send, Pipe.note, hfree, haccepts]⟩)
  · rw [hbusy] at hfree
    exact Or.inl ⟨rfl, by simp [Pipe.send, hfree]⟩

/-- A tick with the interface enabled and the test switch open -/
theorem Consistent.usbTask_moves (h : p.Consistent) (hs : p.Settled) (hen : p.enable = true)
    (r : Readings) : Moves p (.sample r) (p.usbTask r) := by
  have hlook : (p.look r).Consistent := (h.withReports (sample r) p.prevReport).note _
  by_cases hsame : sample r = p.prevReport
  · -- the sample is the baseline, and only recorded
    have hsettled : (p.look r).Settled := ⟨hs.bank, hs.flag⟩
    rw [Pipe.usbTask, if_pos hsame]
    obtain ⟨hdown, _⟩ | ⟨_, hbusy, hstall, hst⟩ | ⟨_, hbusy, hstall, hst⟩ | ⟨_, hbusy, hnack, hst⟩ |
      ⟨_, hbusy, hnack, hst⟩ := p.stage_cases
    · rw [hen] at hdown
      cases hdown
    · exact Moves.of_stage hsettled hst (stage_of_idle hen hbusy hstall) (if_pos hsame)
    · exact Moves.of_stage hsettled hst (stage_of_halted hen hbusy hstall) (if_pos hsame)
    · exact Moves.of_stage hsettled hst (stage_of_armed hen hbusy hnack) (if_pos hsame)
    · exact Moves.of_stage hsettled hst (stage_of_collected hen hbusy hnack) (if_pos hsame)
  · rw [Pipe.usbTask, if_neg hsame]
    have haccepted : p.sendAccepted = (p.free && !p.ep.stall) := h.sendAccepted hen
    have hfree := h.free hen
    obtain ⟨hbusy, hsend⟩ | ⟨hbusy, hstall, hsend⟩ | ⟨hbusy, hstall, hsend⟩ :=
      hlook.send_cases hen (sample r)
    · -- a transfer is on its way, and the offer is refused
      have hidle : p.job.busy = true := hbusy
      have hrefused : ¬ p.sendAccepted = true := by simp [haccepted, hfree, hidle]
      have hsettled : ((p.look r).note (.offered (sample r) false)).Settled := ⟨hs.bank, hs.flag⟩
      rw [if_neg hrefused, hsend]
      rcases hnack : p.ep.busnack0 with _ | _
      · exact Moves.of_stage hsettled (stage_of_armed hen hidle hnack)
          (stage_of_armed hen hidle hnack) (if_neg hsame)
      · exact Moves.of_stage hsettled (stage_of_collected hen hidle hnack)
          (stage_of_collected hen hidle hnack) (if_neg hsame)
    · -- the endpoint is halted, and refuses
      have hidle : p.job.busy = false := hbusy
      have hhalted : p.ep.stall = true := hstall
      have hrefused : ¬ p.sendAccepted = true := by simp [haccepted, hhalted]
      have hsettled : ({ p.look r with reportIn := sample r }.note
          (.offered (sample r) false)).Settled := ⟨hs.bank, hs.flag⟩
      rw [if_neg hrefused, hsend]
      exact Moves.of_stage hsettled (stage_of_halted hen hidle hhalted)
        (stage_of_halted hen hidle hhalted) (if_neg hsame)
    · -- the report is put on the bank
      have hidle : p.job.busy = false := hbusy
      have hunhalted : p.ep.stall = false := hstall
      have hgranted : p.sendAccepted = true := by simp [haccepted, hfree, hidle, hunhalted]
      rw [if_pos hgranted, hsend]
      refine Moves.of_stage ⟨fun _ hb => Bool.noConfusion hb, fun _ hflag => ?_⟩
        (stage_of_idle hen hidle hunhalted) (stage_of_armed hen rfl rfl) (if_neg hsame)
      have hbusy' := (hs.flag hen hflag).1
      rw [hidle] at hbusy'
      cases hbusy'

/-- A start of frame -/
theorem Consistent.tick_moves (h : p.Consistent) (hs : p.Settled) (t : Tick) :
    Moves p (p.op (.tick t)) (p.tick t) := by
  rw [Pipe.tick, op]
  split
  · next hen => exact h.usbTask_moves hs (Bool.and_eq_true_iff.mp hen).1 t.usbTask
  · exact ⟨rfl, hs⟩

/-! ## The bus -/

/-- The packet on the bank is the report in the buffer. -/
theorem InFlight.packetIn (hin : InFlight p.ep p.job) (hnack : p.ep.busnack0 = false) :
    p.packetIn = p.reportIn.toList := by
  obtain ⟨hstart, hlen, _⟩ := hin.packet hnack
  obtain ⟨_, _, _, hptr⟩ | ⟨hnack', _⟩ := hin.bank
  · simp [Pipe.packetIn, UsbEp.nextPacket, reportMemory, hptr, hstart, hlen, Report.toList,
      List.range_succ]
  · rw [hnack] at hnack'
    cases hnack'

/-- While the controller may send, the interface is enabled and a report is in flight. -/
theorem Consistent.of_armed (h : p.Consistent) (hs : p.Settled) (harmed : p.ep.armed = true) :
    p.enable = true ∧ p.job.busy = true ∧ p.ep.busnack0 = false := by
  simp only [UsbEp.armed, Bool.and_eq_true, Bool.not_eq_true'] at harmed
  obtain ⟨⟨hen, _⟩, hnack⟩ := harmed
  rw [h.allocated] at hen
  refine ⟨hen, ?_, hnack⟩
  by_contra hbusy
  rw [hs.bank hen (Bool.eq_false_of_not_eq_true hbusy)] at hnack
  cases hnack

/-- The controller may send exactly while a report waits for the host. -/
theorem Consistent.armed_iff (h : p.Consistent) (hs : p.Settled) :
    p.ep.armed = true ↔ p.stage = .armed p.reportIn := by
  constructor
  · intro harmed
    obtain ⟨hen, hbusy, hnack⟩ := h.of_armed hs harmed
    exact stage_of_armed hen hbusy hnack
  · intro hwaits
    obtain ⟨_, hst⟩ | ⟨_, _, _, hst⟩ | ⟨_, _, _, hst⟩ | ⟨hen, hbusy, hnack, _⟩ | ⟨_, _, _, hst⟩ :=
      p.stage_cases
    · cases hst.symm.trans hwaits
    · cases hst.symm.trans hwaits
    · cases hst.symm.trans hwaits
    · simp [UsbEp.armed, h.allocated, hen, (h.busy hbusy).unhalted, hnack]
    · cases hst.symm.trans hwaits

/-- The host polls EP 0x81. -/
theorem Consistent.collect_moves (h : p.Consistent) (hs : p.Settled) :
    Moves p .collect p.collect := by
  rw [Pipe.collect, h.live_eq]
  by_cases harmed : p.ep.armed = true
  · -- the packet is collected
    have hst := (h.armed_iff hs).mp harmed
    obtain ⟨hen, hbusy, hnack⟩ := h.of_armed hs harmed
    obtain ⟨_, _, hafter⟩ := (h.busy hbusy).packet hnack
    rw [if_pos harmed, (h.busy hbusy).packetIn hnack, hafter]
    exact Moves.of_stage ⟨fun _ _ => rfl, fun _ _ => ⟨hbusy, rfl⟩⟩ hst
      (stage_of_collected hen hbusy rfl) rfl
  · rw [if_neg harmed]
    obtain ⟨_, hst⟩ | ⟨_, _, _, hst⟩ | ⟨_, _, _, hst⟩ | ⟨_, _, _, hst⟩ | ⟨_, _, _, hst⟩ :=
      p.stage_cases
    · exact Moves.of_stage hs hst hst rfl
    · exact Moves.of_stage hs hst hst rfl
    · exact Moves.of_stage hs hst hst rfl
    · exact absurd ((h.armed_iff hs).mpr hst) harmed
    · exact Moves.of_stage hs hst hst rfl

/-- Nothing that matters here changes when a transfer without a job goes on. -/
theorem transComplet_rest (hidle : p.job.busy = false) :
    p.transComplet.enable = p.enable ∧ p.transComplet.prevReport = p.prevReport ∧
      p.transComplet.history = p.history := by
  simp only [transComplet, finish, hidle, Bool.false_eq_true, if_false]
  split
  · exact ⟨rfl, rfl, rfl⟩
  · split <;> exact ⟨rfl, rfl, rfl⟩

/-- The transfer-complete interrupt -/
theorem Consistent.transferComplete_moves (h : p.Consistent) (hs : p.Settled) :
    Moves p .complete p.transferComplete := by
  rw [Pipe.transferComplete]
  by_cases hflag : p.ep.trncompl0 = true
  · rw [if_pos hflag]
    by_cases hen : p.enable = true
    · -- a report that has been sent
      obtain ⟨hbusy, hnack⟩ := hs.flag hen hflag
      have hin := h.busy hbusy
      have haux : p.ep.auxdata = udiHidReportInSize := by
        obtain ⟨hnack', _⟩ | ⟨_, _, haux⟩ := hin.bank
        · rw [hnack] at hnack'
          cases hnack'
        · exact haux
      rw [transComplet_of_sent (p := { p with ep := uddEndpointAckTransferComplete p.ep })
        hin.job_eq haux]
      exact Moves.of_stage ⟨fun _ _ => hnack, fun _ hf => Bool.noConfusion hf⟩
        (stage_of_collected hen hbusy hnack) (stage_of_idle hen rfl hin.unhalted) rfl
    · -- a flag that outlived its session
      have hdown := Bool.eq_false_of_not_eq_true hen
      obtain ⟨hen', hprev, hlog⟩ := transComplet_rest
        (p := { p with ep := uddEndpointAckTransferComplete p.ep }) (h.idle_of_down hdown)
      refine Moves.of_down hdown (hen'.trans hdown) hprev hlog fun c hc => ?_
      simp [Mailbox.State.next, hc]
  · rw [if_neg hflag]
    obtain ⟨_, hst⟩ | ⟨_, _, _, hst⟩ | ⟨_, _, _, hst⟩ | ⟨_, _, _, hst⟩ | ⟨_, hbusy, hnack, hst⟩ :=
      p.stage_cases
    · exact Moves.of_stage hs hst hst rfl
    · exact Moves.of_stage hs hst hst rfl
    · exact Moves.of_stage hs hst hst rfl
    · exact Moves.of_stage hs hst hst rfl
    · -- a report the host has taken has its flag set
      obtain ⟨hnack', _⟩ | ⟨_, hflag', _⟩ := (h.busy hbusy).bank
      · rw [hnack] at hnack'
        cases hnack'
      · exact absurd hflag' hflag

/-- **Every operation of the pipe is an operation of the mailbox.** -/
theorem Consistent.step_moves (h : p.Consistent) (hs : p.Settled) (o : PipeOp)
    (hflag : ∀ r, o = .request r → p.ep.trncompl0 = false) : Moves p (p.op o) (p.step o) := by
  cases o with
  | keep => exact ⟨rfl, hs⟩
  | tick t => exact h.tick_moves hs t
  | collect => exact h.collect_moves hs
  | transferComplete => exact h.transferComplete_moves hs
  | busReset => exact h.busReset_moves
  | request r =>
    cases r with
    | keep => exact ⟨rfl, hs⟩
    | configure n => exact h.configure_moves n
    | setInterface n => exact h.setInterface_moves n
    | halt => exact h.halt_moves (hflag _ rfl)
    | clearHalt => exact hs.clearHalt_moves

end Pipe

/-! ## The device refines the mailbox -/

/-- What an event of the device is to the mailbox. -/
def Firmware.mailboxOp (s : Firmware) (e : Event) : Mailbox.Op Readings := s.pipe.op (s.pipeOp e)

/-- The firmware `s` is the mailbox `c`. -/
structure Carries (s : Firmware) (c : Reports) : Prop where
  inv : s.Inv
  settled : s.pipe.Settled
  mailbox : c = s.pipe.mailbox

theorem carries_powerOn : Carries Firmware.powerOn Firmware.powerOn.pipe.mailbox :=
  ⟨inv_powerOn, Pipe.settled_of_down rfl, rfl⟩

/-- **The device refines the mailbox**: what it does to its reports, in whatever order
ticks, polls, interrupts, resets and requests come, a change-detecting mailbox does. -/
theorem device_simulates : device.Simulates reports Orderly Carries Firmware.mailboxOp := by
  intro s c e hc he
  obtain ⟨s', hs', hpipe, hinv⟩ := device_step hc.inv (not_strays_of_inScope (s := s) he.1)
  have hmoves := hc.inv.pipe.step_moves hc.settled (s.pipeOp e) fun r hr => by
    cases e with
    | setup packet => exact he.2
    | _ => cases hr
  refine ⟨s', _, hs', rfl, hinv, ?_, ?_⟩
  · rw [hpipe]
    exact hmoves.settled
  · rw [hpipe, hmoves.mailbox, hc.mailbox]
    rfl

/-- What the mailbox keeps, every orderly run of the device keeps. -/
theorem orderly_run {J : Reports → Prop}
    (hJ : ∀ c op, J c → J (c.next sample Report.toList op))
    (hinit : J Firmware.powerOn.pipe.mailbox) {es : List Event}
    (h : device.Admits Orderly Firmware.powerOn es) :
    ∃ s, device.run Firmware.powerOn es = .ok s ∧ Carries s s.pipe.mailbox ∧ J s.pipe.mailbox := by
  have hsim := device_simulates.strengthen (fun _ _ he => he) fun s c e c' _ hc _ hstep =>
    Except.ok.inj hstep ▸ hJ c (s.mailboxOp e) hc
  obtain ⟨s, c, hrun, _, hcarries, hc⟩ := hsim.run ⟨carries_powerOn, hinit⟩ h
  obtain rfl := hcarries.mailbox
  exact ⟨s, hrun, hcarries, hc⟩

end HidJoystick
