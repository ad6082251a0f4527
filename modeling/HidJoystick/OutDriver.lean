import HidJoystick.OutPipe
import HidJoystick.ProcessSetup

/-!
# The driver on OUT endpoints

The functions of the driver in `Firmware` take endpoint numbers of both directions, and stop
where a transfer on an OUT endpoint would start. What they do up to there is what the operations
of `OutPipe` do.

* `uddEpRun_epOut` — `udd_ep_run` stops for the transfers `OutPipe.run` accepts, and refuses the
  others.
* `outDriver_simulates` — the simulation, and `outDriver_run`: a run in which no transfer is
  accepted leads to the same registers and the same job.
-/

namespace HidJoystick

open OutPipe

/-- The OUT endpoint of the firmware -/
def Firmware.outPipe (s : Firmware) : OutPipe :=
  { fresh fun _ => 0 with ep := s.ctrl epOutCtrl, job := s.job epOutJob }

/-- The functions of the driver, called for an OUT endpoint. What the host sends is not
acknowledged. -/
def outDriver (ep : Byte) : Machine Firmware OutEvent Fault where
  step s
    | .alloc bmAttributes maxEndpointSize =>
      (uddEpAlloc ep bmAttributes maxEndpointSize s).map Prod.snd
    | .free => uddEpFree ep s
    | .run bShortpacket buf bufSize callback =>
      (uddEpRun ep bShortpacket ⟨.null, buf⟩ bufSize callback s).map Prod.snd
    | .abort => uddEpAbort ep s
    | .setHalt => (uddEpSetHalt ep s).map Prod.snd
    | .clearHalt => (uddEpClearHalt ep s).map Prod.snd
    | .receive _ | .transferComplete => .ok s

/-- The event starts a transfer. -/
def OutEvent.starts (p : OutPipe) : OutEvent → Prop
  | .run _ _ _ _ => p.accepts = true
  | _ => False

/-- No transfer has been started. -/
structure OutPipe.Shows (s : Firmware) (p : OutPipe) : Prop where
  ep : p.ep = s.ctrl epOutCtrl
  job : p.job = s.job epOutJob
  idle : p.job.busy = false
  naks : uddEndpointIsEnable p.ep = true → p.ep.busnack0 = true
  quiet : p.ep.trncompl0 = false

section Driver

variable {cache : ℕ} {ep : Byte} {s : Firmware} {p : OutPipe}

theorem OutPipe.Shows.modifyCtrl (h : p.Shows s) {f : UsbEp → UsbEp}
    (hnaks : uddEndpointIsEnable (f p.ep) = true → (f p.ep).busnack0 = true)
    (hquiet : (f p.ep).trncompl0 = false) :
    { p with ep := f p.ep }.Shows (s.modifyCtrl epOutCtrl f) := by
  refine ⟨?_, ?_, h.idle, hnaks, hquiet⟩
  · change f p.ep = _
    rw [Firmware.ctrl_modifyCtrl, h.ep]
  · change p.job = _
    rw [Firmware.job_modifyCtrl, h.job]

theorem OutPipe.abort_of_idle (h : p.job.busy = false) :
    p.abort = { p with ep := uddEndpointSetNACK0 p.ep } := by
  simp only [OutPipe.abort, h, Bool.false_eq_true, if_false]

/-- `udd_ep_abort` -/
theorem OutPipe.Shows.abort (h : p.Shows s) (hep : IsEpOut ep) :
    ∃ s', uddEpAbort ep s = .ok s' ∧ p.abort.Shows s' := by
  refine ⟨_, uddEpAbort_epOut hep (h.job ▸ h.idle), ?_⟩
  rw [abort_of_idle h.idle]
  exact h.modifyCtrl (fun _ => rfl) h.quiet

/-- **A transfer on an OUT endpoint**: the model of the firmware stops where the driver accepts
it. -/
theorem uddEpRun_epOut (hep : IsEpOut ep) (bShortpacket : Bool) (buf : Ptr) (bufSize : Word)
    (callback : Option UddCallbackTrans) :
    uddEpRun ep bShortpacket buf bufSize callback s =
      if s.outPipe.accepts then .error .outTransfer else .ok (false, s) := by
  have hdir : ep &&& usbEpDirIn ≠ usbEpDirIn := by
    revert ep
    decide
  simp only [uddEpRun, hep.getCtrl, hep.getJob, ok_bind, pure_eq_ok, if_neg hdir]
  have haccepts : s.outPipe.accepts = (uddEndpointIsEnable (s.ctrl epOutCtrl) &&
      !((s.ctrl epOutCtrl).type != .isochronous && (s.ctrl epOutCtrl).stall) &&
      !(s.job epOutJob).busy) := rfl
  rw [haccepts]
  have hthrow : (throw .outTransfer : Except Fault (Bool × Firmware)) = .error .outTransfer := rfl
  generalize s.ctrl epOutCtrl = e
  generalize (s.job epOutJob).busy = busy
  rcases henabled : uddEndpointIsEnable e with _ | _
  · rfl
  · rcases hstall : e.stall with _ | _
    · cases busy <;> simp [hthrow]
    · by_cases htype : e.type = .isochronous
      · cases busy <;> simp [htype, hthrow]
      · simp [htype]

/-- **One operation** of the driver -/
theorem outDriver_simulates (hep : IsEpOut ep) (cache : ℕ) :
    (outDriver ep).Simulates (machine cache) (fun s e => ¬ e.starts s.outPipe)
      (fun s p => p.Shows s) fun _ e => e := by
  intro s p e h hstarts
  cases e with
  | alloc bmAttributes maxEndpointSize =>
    let init (e : UsbEp) : UsbEp :=
      uddEndpointSetControl (usbEpTypeOfAttributes bmAttributes) (usbEpBufsizeOfSize maxEndpointSize)
        (uddEndpointClearStatus (uddEndpointDisable e))
    have hinit := h.modifyCtrl (f := init) (fun _ => rfl) rfl
    have hmulti := hinit.modifyCtrl (f := uddEndpointSetMultipacket) (fun _ => rfl) rfl
    have hctrl : (s.modifyCtrl epOutCtrl init).ctrl epOutCtrl = init p.ep := by
      rw [Firmware.ctrl_modifyCtrl, h.ep]
    have hstep : (outDriver ep).step s (.alloc bmAttributes maxEndpointSize) =
        .ok (if uddEndpointIsEnable p.ep then s
          else if (init p.ep).type = .isochronous ∧
              uddEndpointGetSizeField (init p.ep) = .size1023 then
            s.modifyCtrl epOutCtrl init
          else (s.modifyCtrl epOutCtrl init).modifyCtrl epOutCtrl uddEndpointSetMultipacket) := by
      simp only [outDriver, uddEpAlloc, uddEpInit, hep.getCtrl, ok_bind, pure_eq_ok, ← h.ep]
      rw [hctrl]
      split
      · rfl
      · split <;> rfl
    refine ⟨_, _, hstep, rfl, ?_⟩
    rw [OutPipe.alloc]
    split
    · exact h
    · simp only
      split
      · exact hinit
      · exact hmulti
  | free =>
    obtain ⟨s', habort, hshows⟩ := h.abort hep
    refine ⟨_, _, ?_, rfl, hshows.modifyCtrl Bool.noConfusion hshows.quiet⟩
    simp only [outDriver, uddEpFree, habort, hep.getCtrl, ok_bind, pure_eq_ok]
  | run bShortpacket buf bufSize callback =>
    have hshown : s.outPipe.accepts = p.accepts := by
      rw [OutPipe.accepts, OutPipe.accepts, h.ep, h.job]
      rfl
    have hrefuses : p.accepts = false := by
      rw [← hshown]
      exact Bool.eq_false_of_not_eq_true hstarts
    refine ⟨s, p, ?_, ?_, h⟩
    · change (uddEpRun ep bShortpacket ⟨.null, buf⟩ bufSize callback s).map Prod.snd = _
      rw [uddEpRun_epOut hep, hshown, hrefuses]
      rfl
    · change Except.ok (p.run cache bShortpacket buf bufSize callback).2 = _
      rw [OutPipe.run, hrefuses]
      rfl
  | abort =>
    obtain ⟨s', habort, hshows⟩ := h.abort hep
    exact ⟨s', p.abort, habort, rfl, hshows⟩
  | setHalt =>
    obtain ⟨s', habort, hshows⟩ :=
      (h.modifyCtrl (f := uddEndpointEnableStall) h.naks h.quiet).abort hep
    refine ⟨s', _, ?_, rfl, hshows⟩
    simp only [outDriver, uddEpSetHalt, habort, hep.getCtrl, ok_bind, pure_eq_ok, Except.map]
  | clearHalt =>
    have hcleared := h.modifyCtrl (f := uddEndpointClearDtgl) h.naks h.quiet
    have hopen := hcleared.modifyCtrl (f := uddEndpointDisableStall) h.naks h.quiet
    have hidle : (s.job epOutJob).busy = false := h.job ▸ h.idle
    simp only [outDriver, machine, uddEpClearHalt, OutPipe.clearHalt, hep.getCtrl, hep.getJob,
      ok_bind, pure_eq_ok, Firmware.ctrl_modifyCtrl, Firmware.job_modifyCtrl, ← h.ep, hidle, h.idle]
    rcases (uddEndpointClearDtgl p.ep).stall with _ | _
    · exact ⟨_, _, rfl, rfl, hcleared⟩
    · exact ⟨_, _, rfl, rfl, hopen⟩
  | receive data =>
    refine ⟨s, p, rfl, ?_, h⟩
    have hrefuses : p.takes data = false := by
      rw [takes, UsbEp.live]
      rcases henabled : uddEndpointIsEnable p.ep with _ | _
      · rfl
      · rw [h.naks henabled]
        simp
    change Except.ok (p.receive data) = _
    rw [OutPipe.receive, hrefuses, if_neg Bool.false_ne_true]
  | transferComplete =>
    refine ⟨s, p, rfl, ?_, h⟩
    change Except.ok (p.transferComplete cache) = _
    rw [OutPipe.transferComplete, h.quiet, if_neg Bool.false_ne_true]

/-- **The driver on OUT endpoints**: as long as no transfer is accepted, its functions and those
of `OutPipe` lead to the same registers and the same job. -/
theorem outDriver_run (hep : IsEpOut ep) (h : p.Shows s) {es : List OutEvent}
    (hadm : (outDriver ep).Admits (fun s e => ¬ e.starts s.outPipe) s es) (cache : ℕ) :
    ∃ s' p', (outDriver ep).run s es = .ok s' ∧ (machine cache).run p es = .ok p' ∧ p'.Shows s' := by
  obtain ⟨s', p', hs', hp', hshows⟩ := (outDriver_simulates hep cache).run h hadm
  have hshown : (outDriver ep).shown (fun _ e => e) s es = es := Machine.map_event_transitions hs'
  rw [hshown] at hp'
  exact ⟨s', p', hs', hp', hshows⟩

end Driver

end HidJoystick
