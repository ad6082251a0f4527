import HidJoystick.Channel
import HidJoystick.Reachable

/-!
# What the host holds

A session starts each time `udi_hid_generic_enable` runs, and the host then takes the
stick to be centred until it receives a report. The change detector compares with
`jstk_prevReport`, the report accepted last; whether the host has it is another matter.

A tick that leaves the pipe ready sampled the baseline and offered nothing (`tick_ready`),
so what the host holds is right exactly if the host holds the baseline
(`hostAgrees_iff`). It does not in two cases.

* The baseline outlives the session it was sent in — `host_agrees_iff`.
* The report accepted last was thrown away by a halt — `host_agrees_in_session_iff`.

Without halts and restarts neither happens, and a session hands over the positions seen
at the ticks that found the pipe idle, repetitions removed (`session_coalesces`).
-/

namespace HidJoystick

open Mailbox (received accepted latest lost)

/-- The interface is enabled, no transfer is in flight and EP 0x81 is not halted. -/
structure Firmware.Ready (s : Firmware) : Prop where
  enabled : s.mainBGenericEnable = true
  free : s.udiHidGenericBReportInFree = true
  unhalted : (s.ctrl epInCtrl).stall = false

/-- The report the host received last in the current session, the centre if there is
none. -/
def hostView (history : List Action) : List Byte := Mailbox.view Report.toList centre history

/-- After a tick in the normal mode that leaves the pipe ready, the host holds the
position sampled in that tick. -/
def HostAgrees (t : Machine.Transition Firmware Event) : Prop :=
  ∀ tick, t.event = .sof tick → tick.normal = true → t.post.Ready →
    hostView t.post.history = (sample tick.usbTask).toList

/-- A tick in the normal mode that finds the pipe ready and the stick at the baseline. -/
structure Repeats (t : Machine.Transition Firmware Event) (tick : Tick) : Prop where
  event : t.event = .sof tick
  normal : tick.normal = true
  ready : t.pre.Ready
  same : sample tick.usbTask = t.pre.jstkPrevReport

/-! ## Ticks that offer nothing -/

theorem Report.toList_injective : Function.Injective Report.toList := by
  rintro ⟨x, y⟩ ⟨x', y'⟩ h
  simpa [Report.toList] using h

/-- Ready is the mailbox's idle. -/
theorem Carries.ready_iff {s : Firmware} {c : Reports} (h : Carries s c) :
    s.Ready ↔ c.stage = .idle := by
  have hstage : c.stage = s.pipe.stage := congrArg Mailbox.State.stage h.mailbox
  rw [hstage]
  constructor
  · rintro ⟨hen, hfree, hstall⟩
    have hbusy : s.udiHidGenericBReportInFree = !s.pipe.job.busy := h.inv.pipe.free hen
    rw [hfree] at hbusy
    exact Pipe.stage_of_idle hen (by simpa using hbusy.symm) hstall
  · intro hidle
    obtain ⟨_, hst⟩ | ⟨hen, hbusy, hstall, _⟩ | ⟨_, _, _, hst⟩ | ⟨_, _, _, hst⟩ | ⟨_, _, _, hst⟩ :=
      s.pipe.stage_cases
    · cases hst.symm.trans hidle
    · have hfree := h.inv.pipe.free hen
      rw [hbusy] at hfree
      exact ⟨hen, hfree, hstall⟩
    · cases hst.symm.trans hidle
    · cases hst.symm.trans hidle
    · cases hst.symm.trans hidle

section Ticks

variable {t : Machine.Transition Firmware Event} {tick : Tick} {c c' : Reports}

/-- A tick that leaves the pipe ready found it ready and the stick at the baseline, and
all it did was to look. -/
theorem tick_ready (hpre : Carries t.pre c)
    (hstep : reports.step c (t.pre.mailboxOp t.event) = .ok c') (hpost : Carries t.post c')
    (hevent : t.event = .sof tick) (hnormal : tick.normal = true) (hready : t.post.Ready) :
    Repeats t tick ∧ received t.post.history = received t.pre.history := by
  have hidle : c'.stage = .idle := hpost.ready_iff.mp hready
  obtain rfl : c.next sample Report.toList (t.pre.mailboxOp t.event) = c' := Except.ok.inj hstep
  -- a tick that finds the interface disabled leaves it disabled
  have hen : t.pre.pipe.enable = true := by
    by_contra hdis
    have hdown := Pipe.stage_of_down (Bool.eq_false_of_not_eq_true hdis)
    have hop : t.pre.mailboxOp t.event = .keep := by
      rw [hevent]
      simp [Firmware.mailboxOp, Firmware.pipeOp, Pipe.op, hdis]
    rw [hop, hpre.mailbox] at hidle
    cases hdown.symm.trans hidle
  have hop : t.pre.mailboxOp t.event = .sample tick.usbTask := by
    rw [hevent]
    simp [Firmware.mailboxOp, Firmware.pipeOp, Pipe.op, hen, hnormal]
  rw [hop] at hidle hpost
  obtain ⟨hidle', hsame, hsampled⟩ := Mailbox.sample_idle sample hidle
  rw [hpre.mailbox] at hsame
  refine ⟨⟨hevent, hnormal, hpre.ready_iff.mpr hidle', hsame⟩, ?_⟩
  have hlog := congrArg Mailbox.State.log hpost.mailbox
  rw [show c.next sample Report.toList (.sample tick.usbTask) = c.sample sample tick.usbTask from rfl,
    hsampled, hpre.mailbox] at hlog
  exact (congrArg received hlog).symm

/-- The converse. -/
theorem Repeats.ready_post (hrep : Repeats t tick) (hpre : Carries t.pre c)
    (hstep : reports.step c (t.pre.mailboxOp t.event) = .ok c') (hpost : Carries t.post c') :
    t.post.Ready := by
  obtain ⟨hevent, hnormal, hready, hsame⟩ := hrep
  have hidle : c.stage = .idle := hpre.ready_iff.mp hready
  have hen : t.pre.pipe.enable = true := hready.enabled
  have hbase : c.baseline = t.pre.jstkPrevReport := congrArg Mailbox.State.baseline hpre.mailbox
  have hop : t.pre.mailboxOp t.event = .sample tick.usbTask := by
    rw [hevent]
    simp [Firmware.mailboxOp, Firmware.pipeOp, Pipe.op, hen, hnormal]
  obtain rfl : c.next sample Report.toList (t.pre.mailboxOp t.event) = c' := Except.ok.inj hstep
  rw [hop] at hpost
  refine hpost.ready_iff.mpr ?_
  simp [Mailbox.State.next, Mailbox.State.sample, hidle, hbase, hsame]

/-- What the host holds is right exactly if it holds the baseline whenever the stick is
seen there. -/
theorem hostAgrees_iff (hpre : Carries t.pre c)
    (hstep : reports.step c (t.pre.mailboxOp t.event) = .ok c') (hpost : Carries t.post c') :
    HostAgrees t ↔
      ((∃ tick, Repeats t tick) → hostView t.pre.history = t.pre.jstkPrevReport.toList) := by
  constructor
  · rintro hagrees ⟨tick, hrep⟩
    have hready := hrep.ready_post hpre hstep hpost
    obtain ⟨_, hsame⟩ := tick_ready hpre hstep hpost hrep.event hrep.normal hready
    have hview := hagrees tick hrep.event hrep.normal hready
    rwa [hostView, Mailbox.view, hsame, hrep.same] at hview
  · intro hholds tick hevent hnormal hready
    obtain ⟨hrep, hsame⟩ := tick_ready hpre hstep hpost hevent hnormal hready
    have hview := hholds ⟨tick, hrep⟩
    rwa [hostView, Mailbox.view, hsame, hrep.same]

/-- The report accepted last was sent in an earlier session: the tick, in the normal mode and
with the pipe ready, takes place before anything is accepted in this session, and the stick is
seen where that report has it, away from the centre. -/
def Stale (t : Machine.Transition Firmware Event) : Prop :=
  ∃ tick, t.event = .sof tick ∧ tick.normal = true ∧ t.pre.Ready ∧
    accepted t.pre.history = none ∧ latest t.pre.history = some (sample tick.usbTask) ∧
      sample tick.usbTask ≠ centre

/-- The report accepted last was thrown away: the tick, in the normal mode and with the pipe
ready, takes place after that report was lost and while the host holds another one, and the
stick is still seen where it was. -/
def Forgotten (t : Machine.Transition Firmware Event) : Prop :=
  ∃ tick, t.event = .sof tick ∧ tick.normal = true ∧ t.pre.Ready ∧
    lost t.pre.history = some (sample tick.usbTask) ∧
      hostView t.pre.history ≠ (sample tick.usbTask).toList

/-- A tick is stale if it repeats a baseline from another session. -/
theorem stale_iff (hpre : Carries t.pre c) (hlatest : Mailbox.Remembers centre c) :
    Stale t ↔ (∃ tick, Repeats t tick) ∧ accepted t.pre.history = none ∧
      t.pre.jstkPrevReport ≠ centre := by
  have hbase : t.pre.jstkPrevReport = (latest t.pre.history).getD centre := by
    rw [hpre.mailbox] at hlatest
    exact hlatest
  constructor
  · rintro ⟨tick, hevent, hnormal, hready, hnone, hsome, haway⟩
    rw [hsome, Option.getD_some] at hbase
    exact ⟨⟨tick, hevent, hnormal, hready, hbase.symm⟩, hnone, hbase ▸ haway⟩
  · rintro ⟨⟨tick, hevent, hnormal, hready, hsame⟩, hnone, haway⟩
    refine ⟨tick, hevent, hnormal, hready, hnone, ?_, hsame ▸ haway⟩
    rcases hsome : latest t.pre.history with _ | a
    · rw [hsome] at hbase
      exact absurd hbase haway
    · rw [hsome, Option.getD_some] at hbase
      rw [hsame, hbase]

/-- A tick takes place where a report was forgotten if it repeats a baseline that was lost. -/
theorem forgotten_iff (hpre : Carries t.pre c) (hbooks : Mailbox.Accounted Report.toList c) :
    Forgotten t ↔ (∃ tick, Repeats t tick) ∧
      ∃ a, lost t.pre.history = some a ∧ hostView t.pre.history ≠ a.toList := by
  have hlost {a : Report} (hready : t.pre.Ready) (ha : lost t.pre.history = some a) :
      a = t.pre.jstkPrevReport := by
    have hbase := Mailbox.lost_eq_baseline Report.toList hbooks (hpre.ready_iff.mp hready) (a := a)
    rw [hpre.mailbox] at hbase
    exact hbase ha
  constructor
  · rintro ⟨tick, hevent, hnormal, hready, hsome, hview⟩
    exact ⟨⟨tick, hevent, hnormal, hready, hlost hready hsome⟩, _, hsome, hview⟩
  · rintro ⟨⟨tick, hevent, hnormal, hready, hsame⟩, a, hsome, hview⟩
    obtain rfl : a = sample tick.usbTask := (hlost hready hsome).trans hsame.symm
    exact ⟨tick, hevent, hnormal, hready, hsome, hview⟩

/-- The two ways to be wrong. -/
theorem hostAgrees_iff_not_forgotten (hpre : Carries t.pre c)
    (hbooks : Mailbox.Accounted Report.toList c)
    (hstep : reports.step c (t.pre.mailboxOp t.event) = .ok c') (hpost : Carries t.post c') :
    HostAgrees t ↔
      ¬ ((∃ tick, Repeats t tick) ∧ accepted t.pre.history = none ∧
          t.pre.jstkPrevReport ≠ centre) ∧
        ¬ Forgotten t := by
  rw [hostAgrees_iff hpre hstep hpost, forgotten_iff hpre hbooks]
  by_cases hrep : ∃ tick, Repeats t tick
  · have hidle : c.stage = .idle := hpre.ready_iff.mp hrep.choose_spec.ready
    have hview := Mailbox.view_of_idle Report.toList Report.toList_injective hbooks hidle centre
    rw [hpre.mailbox] at hview
    simp only [hrep, true_implies, true_and]
    exact hview
  · -- the tick offers a report, and does not leave the pipe ready
    simp [hrep]

end Ticks

/-! ## From power-on, nothing aborted -/

/-- The environment that also leaves a transfer in flight alone: the interface is given up
and the endpoint halted only between transfers. -/
def Unaborted (s : Firmware) (e : Event) : Prop :=
  Orderly s e ∧ ((s.job epInJob).busy = true → ¬ (s.mailboxOp e).disrupts)

instance (s : Firmware) (e : Event) : Decidable (Unaborted s e) :=
  inferInstanceAs (Decidable (_ ∧ _))

theorem Carries.aborts_of_idle {s : Firmware} {c : Reports} (h : Carries s c)
    (hidle : (s.job epInJob).busy = false) : (c.stage.aborts : List Action) = [] := by
  rw [h.mailbox]
  exact Pipe.aborts_of_idle hidle

/-- In such an environment the books are kept and nothing is aborted. -/
theorem unaborted_simulates :
    device.Simulates reports Unaborted
      (fun s c => Carries s c ∧ Mailbox.Accounted Report.toList c ∧
        Mailbox.Remembers centre c ∧ Mailbox.Entry.aborted ∉ c.log)
      Firmware.mailboxOp := by
  refine device_simulates.strengthen (fun _ _ he => he.1) ?_
  rintro s c e c' hcarries ⟨hbooks, hlatest, hlog⟩ ⟨_, hspared⟩ hstep
  obtain rfl : c.next sample Report.toList (s.mailboxOp e) = c' := Except.ok.inj hstep
  refine ⟨hbooks.next sample Report.toList _, hlatest.next sample Report.toList _,
    Mailbox.aborted_notMem_next sample _ hlog fun hop => ?_⟩
  refine hcarries.aborts_of_idle (Bool.eq_false_of_not_eq_true fun hbusy => ?_)
  exact hspared hbusy hop

/-- **Host agreement across re-enumeration.** In a run from power-on in which nothing is
aborted, the host is right after every tick that leaves the pipe ready, exactly if no
tick is stale. -/
theorem host_agrees_iff {es : List Event} (h : device.Admits Unaborted Firmware.powerOn es) :
    (∃ s, device.run Firmware.powerOn es = .ok s) ∧
      ((∀ t ∈ device.transitions Firmware.powerOn es, HostAgrees t) ↔
        ∀ t ∈ device.transitions Firmware.powerOn es, ¬ Stale t) := by
  have hinit : Carries Firmware.powerOn Firmware.powerOn.pipe.mailbox ∧
      Mailbox.Accounted Report.toList Firmware.powerOn.pipe.mailbox ∧
        Mailbox.Remembers centre Firmware.powerOn.pipe.mailbox ∧
          Mailbox.Entry.aborted ∉ Firmware.powerOn.pipe.mailbox.log :=
    ⟨carries_powerOn, trivial, rfl, List.not_mem_nil⟩
  obtain ⟨s, _, hrun, _⟩ := unaborted_simulates.run hinit h
  refine ⟨⟨s, hrun⟩, forall₂_congr fun t ht => ?_⟩
  obtain ⟨c, c', ⟨hpre, hbooks, hlatest, hlog⟩, hstep, hpost, _⟩ :=
    unaborted_simulates.mem_transitions hinit h t ht
  rw [hostAgrees_iff_not_forgotten hpre hbooks hstep hpost, stale_iff hpre hlatest, and_iff_left]
  -- without aborts nothing is lost
  rintro ⟨_, _, _, _, hlost, _⟩
  rw [hpre.mailbox] at hlog
  have hnone : lost t.pre.history = none := Mailbox.lost_eq_none hlog
  rw [hnone] at hlost
  cases hlost

/-- The host takes a report and then configures the device again, the stick held. -/
def heldAcrossSessions : List Event :=
  enumeration ++ [touchLeft, .collect, .transferComplete, configure1, touchLeft]

theorem host_agrees_heldAcrossSessions :
    (∃ s, device.run Firmware.powerOn heldAcrossSessions = .ok s) ∧
      ((∀ t ∈ device.transitions Firmware.powerOn heldAcrossSessions, HostAgrees t) ↔
        ∀ t ∈ device.transitions Firmware.powerOn heldAcrossSessions, ¬ Stale t) :=
  host_agrees_iff (by decide +kernel)

/-- The second session begins with a host that takes the stick to be centred, and nothing
tells it better. -/
theorem heldAcrossSessions_disagrees :
    ¬ ∀ es, device.Admits Unaborted Firmware.powerOn es →
      ∀ t ∈ device.transitions Firmware.powerOn es, HostAgrees t := by
  intro hall
  have hlast : HostAgrees (device.transitions Firmware.powerOn heldAcrossSessions)[9] :=
    hall heldAcrossSessions (by decide +kernel) _ (List.getElem_mem _)
  have hview := hlast (.still padLeft) rfl (by decide) ⟨rfl, rfl, rfl⟩
  revert hview
  decide +kernel

/-! ## Within a session -/

/-- `udi_hid_generic_enable` has just run, with the baseline in the centre. -/
structure SessionStart (s : Firmware) : Prop where
  orderly : ∃ es, device.Admits Orderly Firmware.powerOn es ∧ device.run Firmware.powerOn es = .ok s
  started : s.history.head? = some .started
  centred : s.jstkPrevReport = centre

/-- A session starts with the books in order. -/
theorem SessionStart.carries {s : Firmware} (h : SessionStart s) :
    Carries s s.pipe.mailbox ∧ Mailbox.Accounted Report.toList s.pipe.mailbox ∧
      Mailbox.Homed centre s.pipe.mailbox := by
  obtain ⟨es, hadm, hrun⟩ := h.orderly
  obtain ⟨t, hrun', hcarries, hbooks⟩ :=
    orderly_run (J := Mailbox.Accounted Report.toList) (fun _ op hc => hc.next sample Report.toList op)
      trivial hadm
  obtain rfl : s = t := Except.ok.inj (hrun.symm.trans hrun')
  exact ⟨hcarries, hbooks, fun _ => h.centred⟩

/-- The environment that stays in the session. It may halt the endpoint at any time. -/
def InSession (s : Firmware) (e : Event) : Prop := Orderly s e ∧ (s.mailboxOp e).inSession

instance (s : Firmware) (e : Event) : Decidable (InSession s e) :=
  inferInstanceAs (Decidable (_ ∧ _))

/-- In such an environment the books are kept, and the baseline is the centre until a
report is accepted. -/
theorem inSession_simulates :
    device.Simulates reports InSession
      (fun s c => Carries s c ∧ Mailbox.Accounted Report.toList c ∧ Mailbox.Homed centre c)
      Firmware.mailboxOp := by
  refine device_simulates.strengthen (fun _ _ he => he.1) ?_
  rintro s c e c' _ ⟨hbooks, hhomed⟩ ⟨_, hop⟩ hstep
  obtain rfl : c.next sample Report.toList (s.mailboxOp e) = c' := Except.ok.inj hstep
  exact ⟨hbooks.next sample Report.toList _, hhomed.next sample Report.toList hop⟩

/-- **Aborted reports.** In a run within one session, the host is right after every tick
that leaves the pipe ready, exactly if no tick takes place where a report was forgotten. -/
theorem host_agrees_in_session_iff {s : Firmware} {es : List Event} (h : SessionStart s)
    (hes : device.Admits InSession s es) :
    (∃ s', device.run s es = .ok s') ∧
      ((∀ t ∈ device.transitions s es, HostAgrees t) ↔
        ∀ t ∈ device.transitions s es, ¬ Forgotten t) := by
  obtain ⟨s', _, hrun, _⟩ := inSession_simulates.run h.carries hes
  refine ⟨⟨s', hrun⟩, forall₂_congr fun t ht => ?_⟩
  obtain ⟨c, c', ⟨hpre, hbooks, hhomed⟩, hstep, hpost, _⟩ :=
    inSession_simulates.mem_transitions h.carries hes t ht
  rw [hostAgrees_iff_not_forgotten hpre hbooks hstep hpost, and_iff_right]
  -- until a report is accepted the baseline is the centre
  rintro ⟨_, hnone, haway⟩
  rw [hpre.mailbox] at hhomed
  exact haway (hhomed hnone)

/-- SET_FEATURE(ENDPOINT_HALT) of EP 0x81 -/
def haltEp81 : Event := .setup #v[0x02, 3, 0, 0, 0x81, 0, 0, 0]

/-- CLEAR_FEATURE(ENDPOINT_HALT) of EP 0x81 -/
def clearHaltEp81 : Event := .setup #v[0x02, 1, 0, 0, 0x81, 0, 0, 0]

/-- The endpoint is halted while a report is in flight, the stick held. -/
def heldAcrossHalt : List Event := [touchLeft, haltEp81, clearHaltEp81, touchLeft]

theorem host_agrees_heldAcrossHalt :
    ∃ s, device.run Firmware.powerOn enumeration = .ok s ∧
      (∃ s', device.run s heldAcrossHalt = .ok s') ∧
        ((∀ t ∈ device.transitions s heldAcrossHalt, HostAgrees t) ↔
          ∀ t ∈ device.transitions s heldAcrossHalt, ¬ Forgotten t) :=
  ⟨_, rfl, host_agrees_in_session_iff ⟨⟨enumeration, by decide +kernel, rfl⟩, rfl, rfl⟩
    (by decide +kernel)⟩

/-- The report the halt threw away is not sent again. -/
theorem heldAcrossHalt_disagrees :
    ¬ ∀ s es, SessionStart s → device.Admits InSession s es →
      ∀ t ∈ device.transitions s es, HostAgrees t := by
  intro hall
  have hlast := hall _ heldAcrossHalt ⟨⟨enumeration, by decide +kernel, rfl⟩, rfl, rfl⟩
    (by decide +kernel) _ (List.getElem_mem (n := 3) (by decide +kernel))
  have hview := hlast (.still padLeft) rfl (by decide) ⟨rfl, rfl, rfl⟩
  revert hview
  decide +kernel

/-! ## Coalescing -/

/-- The environment that stays in the session and aborts nothing. -/
def Gentle (s : Firmware) (e : Event) : Prop := Orderly s e ∧ (s.mailboxOp e).gentle

instance (s : Firmware) (e : Event) : Decidable (Gentle s e) :=
  inferInstanceAs (Decidable (_ ∧ _))

/-- The report waiting for the host. -/
def Firmware.inFlight (s : Firmware) : List (List Byte) :=
  if (s.ctrl epInCtrl).armed then [s.udiHidGenericReportIn.toList] else []

/-- The position a tick in the normal mode samples while no transfer is in flight. -/
def heard (t : Machine.Transition Firmware Event) : Option Report :=
  match t.event with
  | .sof tick =>
    if tick.normal ∧ (t.pre.job epInJob).busy = false then some (sample tick.usbTask) else none
  | _ => none

/-- What the controller would send is what waits in the mailbox. -/
theorem Carries.inFlight {s : Firmware} {c : Reports} (h : Carries s c) :
    s.inFlight = c.stage.inFlight.map Report.toList := by
  have hstage : c.stage = s.pipe.stage := congrArg Mailbox.State.stage h.mailbox
  have harmed := h.inv.pipe.armed_iff h.settled
  rw [Firmware.inFlight, hstage]
  by_cases hsend : (s.ctrl epInCtrl).armed = true
  · rw [if_pos hsend, harmed.mp hsend]
    rfl
  · rw [if_neg hsend]
    obtain ⟨_, hst⟩ | ⟨_, _, _, hst⟩ | ⟨_, _, _, hst⟩ | ⟨_, _, _, hst⟩ | ⟨_, _, _, hst⟩ :=
      s.pipe.stage_cases
    · rw [hst]
      rfl
    · rw [hst]
      rfl
    · rw [hst]
      rfl
    · exact absurd (harmed.mpr hst) hsend
    · rw [hst]
      rfl

/-- In such an environment the mailbox stays up. -/
theorem gentle_simulates :
    device.Simulates reports Gentle (fun s c => Carries s c ∧ c.stage.running)
      Firmware.mailboxOp := by
  refine device_simulates.strengthen (fun _ _ he => he.1) ?_
  rintro s c e c' _ hup ⟨_, hop⟩ hstep
  obtain rfl : c.next sample Report.toList (s.mailboxOp e) = c' := Except.ok.inj hstep
  exact (Mailbox.passed_next sample Report.toList hup hop []).1

/-- Only ticks sample. -/
theorem Firmware.mailboxOp_ne_sample {s : Firmware} {e : Event} (h : ∀ tick, e ≠ .sof tick)
    (r : Readings) : s.mailboxOp e ≠ .sample r := by
  rw [Firmware.mailboxOp]
  cases e with
  | sof tick => exact absurd rfl (h tick)
  | reset =>
    simp only [Firmware.pipeOp, Pipe.op]
    split <;> simp
  | setup packet =>
    rw [Firmware.pipeOp_setup]
    rcases (s.atSetup packet).pipeRequest with _ | n | n | _ | _
    · simp [Pipe.op]
    · simp only [Pipe.op]
      split <;> split <;> simp
    · simp only [Pipe.op]
      split <;> simp
    · simp [Pipe.op]
    · simp [Pipe.op]
  | _ => simp [Firmware.pipeOp, Pipe.op]

/-- The positions heard are the values sampled while the mailbox is empty. -/
theorem heard_eq {t : Machine.Transition Firmware Event}
    {u : Machine.Transition Reports (Mailbox.Op Readings)}
    (h : Machine.Shows (fun s c => Carries s c ∧ c.stage.running) Firmware.mailboxOp t u) :
    heard t = Mailbox.idleSample sample u := by
  obtain ⟨⟨hpre, hup⟩, hevent, _⟩ := h
  by_cases hsof : ∃ tick, t.event = .sof tick
  · obtain ⟨tick, htick⟩ := hsof
    have hstage : u.pre.stage = t.pre.pipe.stage := congrArg Mailbox.State.stage hpre.mailbox
    have hop : u.event = if t.pre.pipe.enable && tick.normal then .sample tick.usbTask else .keep := by
      rw [hevent, htick]
      rfl
    have hjob : (t.pre.job epInJob).busy = t.pre.pipe.job.busy := rfl
    rw [hstage] at hup
    rw [heard, Mailbox.idleSample, htick, hstage, hop, hjob]
    -- the mailbox is up, and empty exactly while no transfer is in flight
    obtain ⟨_, hst⟩ | ⟨hen, hbusy, _, hst⟩ | ⟨_, _, _, hst⟩ | ⟨_, hbusy, _, hst⟩ |
      ⟨_, hbusy, _, hst⟩ := t.pre.pipe.stage_cases
    · rw [hst] at hup
      exact hup.elim
    · by_cases hnormal : tick.normal = true
      · simp [hst, hen, hbusy, hnormal]
      · simp [hst, hen, hnormal]
    · rw [hst] at hup
      exact hup.elim
    · simp [hst, hbusy]
    · simp [hst, hbusy]
  · have hnone : heard t = none := by
      rw [heard]
      split
      · next tick htick => exact absurd ⟨tick, htick⟩ hsof
      · rfl
    rw [hnone, Mailbox.idleSample_of_not_sample]
    intro r
    rw [hevent]
    exact Firmware.mailboxOp_ne_sample (fun tick htick => hsof ⟨tick, htick⟩) r

/-- **Coalescing.** In a run within one session that starts idle, without aborts, what the
host receives and what waits for it are the positions seen at the ticks in the normal mode
that found no transfer in flight, with the centre in front, repetitions removed and the
head dropped. -/
theorem session_coalesces {s : Firmware} {es : List Event} (h : SessionStart s)
    (hready : s.Ready) (hes : device.Admits Gentle s es) :
    ∃ s', device.run s es = .ok s' ∧
      received s'.history ++ s'.inFlight =
        ((centre :: (device.transitions s es).filterMap heard).destutter (· ≠ ·)).tail.map
          Report.toList := by
  obtain ⟨hcarries, _⟩ := h.carries
  have hidle : s.pipe.mailbox.stage = .idle := hcarries.ready_iff.mp hready
  have hup : s.pipe.mailbox.stage.running := by
    rw [hidle]
    trivial
  have hinit : Carries s s.pipe.mailbox ∧ s.pipe.mailbox.stage.running := ⟨hcarries, hup⟩
  obtain ⟨s', c', hrun, hshown, hcarries', _⟩ := gentle_simulates.run hinit hes
  refine ⟨s', hrun, ?_⟩
  have hgentle : ∀ op ∈ device.shown Firmware.mailboxOp s es, op.gentle := by
    intro op hop
    obtain ⟨t, ht, rfl⟩ := List.mem_map.mp hop
    exact (hes.mem_transitions t ht).2
  have hpassed := Mailbox.coalesce sample Report.toList hup hgentle hshown
  -- the session has just begun, and nothing has passed
  have hstart : s.pipe.mailbox.passed Report.toList = [] := by
    have hreceived : received s.history = [] := by
      rcases hlog : s.history with _ | ⟨entry, log⟩
      · rfl
      · obtain rfl : entry = .started := by simpa [hlog] using h.started
        rfl
    rw [Mailbox.State.passed, hidle]
    exact (List.append_nil _).trans hreceived
  have hcentre : s.pipe.mailbox.baseline = centre := h.centred
  rw [hstart, List.nil_append, hcentre,
    ← gentle_simulates.filterMap_transitions (fun _ _ => heard_eq) hinit hes] at hpassed
  rw [hcarries'.inFlight, ← hpassed, Mailbox.State.passed, hcarries'.mailbox]
  rfl

/-- A report is sent, the next position is seen too early, and the stick returns. -/
def movedWhileBusy : List Event :=
  [touchLeft, .sof (.still ⟨0xFF, 0xFF, 0xFF, 0xFD⟩), .collect, .transferComplete, touchLeft]

theorem session_coalesces_movedWhileBusy :
    ∃ s, device.run Firmware.powerOn enumeration = .ok s ∧ ∃ s', device.run s movedWhileBusy = .ok s' ∧
      received s'.history ++ s'.inFlight =
        ((centre :: (device.transitions s movedWhileBusy).filterMap heard).destutter (· ≠ ·)).tail.map
          Report.toList :=
  ⟨_, rfl, session_coalesces ⟨⟨enumeration, by decide +kernel, rfl⟩, rfl, rfl⟩ ⟨rfl, rfl, rfl⟩
    (by decide +kernel)⟩

end HidJoystick
