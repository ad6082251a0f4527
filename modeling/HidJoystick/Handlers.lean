import HidJoystick.Channel
import HidJoystick.Program

/-!
# Inside a tick

In `device` a tick is one step. Here the part of it that the controller can see is executed
write by write, in the order of the source: `udi_hid_generic_send_report_in` fills the buffer,
`udd_ep_run` registers the job, `udd_ep_trans_complet` sets up the endpoint and hands it to the
controller. The host may poll EP 0x81 before and after each of these writes; interrupts wait
for the end of the tick. The other handlers stay one step: they neither write the buffer nor
hand it over.

* `mainSofActionStart_exec` — executed without a poll in between, the instructions do what
  `main_sof_action` does in `device`; `running_of_step` says it of every step.
* `careful_sendReportProgram` — the endpoint answers NAK until the last of its writes, and after
  that nothing is written that the controller reads.
* `running_simulates` — **the mailbox**, for polls between any two instructions.
-/

namespace HidJoystick

open Program

/-! ## The instructions -/

/-- `udd_ep_trans_complet`, on EP 0x81 -/
def transCompletProgram (ret : Program Firmware) : Program Firmware :=
  .instr (fun s => s.modifyJob epInJob fun job =>
    { job with nbTrans := job.nbTrans + (s.ctrl epInCtrl).auxdata }) fun s =>
  let job := s.job epInJob
  let epSize := uddEpGetSize (s.ctrl epInCtrl)
  if job.nbTrans ≠ job.bufSize then
    let nextTrans := job.bufSize - job.nbTrans
    let nextTrans :=
      if uddEndpointMaxTrans < nextTrans then
        uddEndpointMaxTrans - uddEndpointMaxTrans % epSize
      else nextTrans
    .instr (fun s => s.modifyJob epInJob fun job =>
      { job with bShortpacket := job.bShortpacket && nextTrans % epSize == 0 }) fun _ =>
    .instr (fun s => s.modifyCtrl epInCtrl fun e => { e with auxdata := 0 }) fun _ =>
    .instr (fun s => s.modifyCtrl epInCtrl fun e => { e with cnt := nextTrans }) fun _ =>
    .instr (fun s => s.modifyCtrl epInCtrl fun e =>
      { e with dataptr := job.buf.add job.nbTrans.toNat }) fun _ =>
    .instr (fun s => s.modifyCtrl epInCtrl uddEndpointClearNACK0) fun _ => ret
  else if job.bShortpacket then
    .instr (fun s => s.modifyJob epInJob fun job => { job with bShortpacket := false }) fun _ =>
    .instr (fun s => s.modifyCtrl epInCtrl fun e => { e with auxdata := 0 }) fun _ =>
    .instr (fun s => s.modifyCtrl epInCtrl fun e => { e with cnt := 0 }) fun _ =>
    .instr (fun s => s.modifyCtrl epInCtrl uddEndpointClearNACK0) fun _ => ret
  else if job.busy then
    .instr (fun s => s.modifyJob epInJob fun job => { job with busy := false }) fun _ =>
    .instr (fun s => match job.callTrans with
      | some callback => callback.call .ok job.nbTrans udiHidGenericEpIn s
      | none => s) fun _ => ret
  else ret

/-- `udd_ep_run`, on EP 0x81. `answer` is what the history says about the call; it is recorded
when the answer is known. -/
def runProgram (bShortpacket : Bool) (buf : Ptr) (bufSize : Word)
    (callback : Option UddCallbackTrans) (answer : Bool → Action)
    (ret : Bool → Program Firmware) : Program Firmware :=
  let refuse : Program Firmware := .instr (Firmware.note (answer false)) fun _ => ret false
  .instr id fun s =>
  if !uddEndpointIsEnable (s.ctrl epInCtrl) then refuse
  else
    .instr id fun s =>
    if (s.ctrl epInCtrl).type ≠ .isochronous ∧ (s.ctrl epInCtrl).stall then refuse
    else
      .instr id fun s =>
      if (s.job epInJob).busy then refuse
      else
        .instr (fun s => (s.modifyJob epInJob fun job => { job with busy := true }).note
          (answer true)) fun _ =>
        -- the controller does not look at the job
        .instr (fun s => s.modifyJob epInJob fun job =>
          { job with
            bShortpacket := bShortpacket || bufSize == 0
            bUseOutCacheBuffer := false
            buf := buf
            bufSize := bufSize
            nbTrans := 0
            callTrans := callback }) fun _ =>
        .instr (fun s => s.modifyCtrl epInCtrl fun e => { e with auxdata := 0 }) fun _ =>
        transCompletProgram (ret true)

/-- `udi_hid_generic_send_report_in`, once the interface is free -/
def sendReportProgram (data : Report) (ret : Bool → Program Firmware) : Program Firmware :=
  -- `memset`
  .instr (fun s => { s with
    udiHidGenericReportIn := { s.udiHidGenericReportIn with x := 0 } }) fun _ =>
  .instr (fun s => { s with
    udiHidGenericReportIn := { s.udiHidGenericReportIn with y := 0 } }) fun _ =>
  -- `memcpy`
  .instr (fun s => { s with
    udiHidGenericReportIn := { s.udiHidGenericReportIn with x := data.x } }) fun _ =>
  .instr (fun s => { s with
    udiHidGenericReportIn := { s.udiHidGenericReportIn with y := data.y } }) fun _ =>
  runProgram false ⟨.udiHidGenericReportIn, 0⟩ udiHidReportInSize
    (some .udiHidGenericReportInSent) (.offered data) fun started =>
  .instr (fun s => { s with udiHidGenericBReportInFree := !started }) fun s =>
  ret !s.udiHidGenericBReportInFree

/-- What `jstk_usbTask` does when `udi_hid_generic_send_report_in` has returned -/
def jstkProgram (accepted : Bool) : Program Firmware :=
  if accepted then
    .instr (fun s => { s with
      jstkPrevReport := { s.jstkPrevReport with x := s.jstkUsbReport.x } }) fun _ =>
    .instr (fun s => { s with
      jstkPrevReport := { s.jstkPrevReport with y := s.jstkUsbReport.y } }) fun _ => .done
  else .done

/-- `jstk_usbTask` as far as the guard of `udi_hid_generic_send_report_in`, and what is left to
do then. Up to there nothing is touched that the controller reads or writes. -/
def jstkUsbTaskStart (r : Readings) (s : Firmware) : Program Firmware × Firmware :=
  let x := jstkIdxToAxis (jstkReadHoriIndex r)
  let y := jstkIdxToAxis (jstkReadVertIndex r)
  let s := { s with jstkUsbReport := ⟨x, y⟩ }.note (.sampled r ⟨x, y⟩)
  if s.jstkUsbReport.x ≠ s.jstkPrevReport.x ∨ s.jstkUsbReport.y ≠ s.jstkPrevReport.y then
    if !s.udiHidGenericBReportInFree then (.done, s.note (.offered s.jstkUsbReport false))
    else (sendReportProgram s.jstkUsbReport jstkProgram, s)
  else (.done, s)

/-- `joystick`, likewise -/
def joystickStart (t : Tick) (s : Firmware) : Program Firmware × Firmware :=
  let s := { s with jstkMask := jstkReadMask t.readMask }
  let s := { s with jstkTestMode := t.testMode }
  if s.jstkTestMode &&& pin4Bm = 0 then
    if s.jstkMask ≠ 0 then (.done, ledOn s.jstkMask (ledAllOff s)) else (.done, s)
  else jstkUsbTaskStart t.usbTask (ledAllOff s)

/-- `main_sof_action`, likewise -/
def mainSofActionStart (t : Tick) (s : Firmware) : Program Firmware × Firmware :=
  if !s.mainBGenericEnable then (.done, s) else joystickStart t s

/-! ## Without polls -/

section Execution

open Firmware

theorem transCompletProgram_exec (ret : Program Firmware) (s : Firmware) :
    (transCompletProgram ret).exec s = ret.exec (s.withPipe s.pipe.transComplet) := by
  simp only [transCompletProgram, exec, modifyJob_epIn, modifyCtrl_epIn, job_epIn, ctrl_epIn,
    pipe_withPipe, Pipe.transComplet, Pipe.finish]
  split
  · simp only [exec, pipe_withPipe, withPipe_withPipe]
  · split
    · simp only [exec, pipe_withPipe, withPipe_withPipe]
    · rcases s.pipe.job.busy with _ | _
      · rfl
      · rcases s.pipe.job.callTrans with _ | ⟨_⟩
        · simp [exec]
        · simp [exec, callback_eq]

variable {ret : Bool → Program Firmware}

/-- `udd_ep_run`, as `udi_hid_generic_send_report_in` calls it -/
theorem runProgram_exec (answer : Bool → Action) (s : Firmware) :
    (runProgram false ⟨.udiHidGenericReportIn, 0⟩ udiHidReportInSize
        (some .udiHidGenericReportInSent) answer ret).exec s =
      if s.pipe.accepts then
        (ret true).exec (s.withPipe
          ({ s.pipe with job := Pipe.reportJob, ep := Pipe.armEp s.pipe.ep }.note (answer true)))
      else (ret false).exec (s.withPipe (s.pipe.note (answer false))) := by
  by_cases henable : uddEndpointIsEnable s.pipe.ep = true
  · by_cases hhalt : s.pipe.ep.type ≠ .isochronous ∧ s.pipe.ep.stall = true
    · have hrefused : ¬ s.pipe.accepts = true := by simp [Pipe.accepts, hhalt]
      rw [if_neg hrefused]
      simp [runProgram, exec, ctrl_epIn, note_eq, henable, hhalt]
    · by_cases hbusy : s.pipe.job.busy = true
      · have hrefused : ¬ s.pipe.accepts = true := by simp [Pipe.accepts, hbusy]
        rw [if_neg hrefused]
        simp only [runProgram, exec, id, ctrl_epIn, job_epIn, note_eq, henable, Bool.not_true,
          Bool.false_eq_true, if_false, if_neg hhalt, hbusy, if_true]
      · have haccepts : s.pipe.accepts = true := by
          simp only [Pipe.accepts, henable, hbusy, Bool.true_and, Bool.not_false, Bool.and_true]
          simpa [or_iff_not_imp_left] using hhalt
        rw [if_pos haccepts]
        simp only [runProgram, exec, id, ctrl_epIn, job_epIn, note_eq, modifyJob_epIn,
          modifyCtrl_epIn, transCompletProgram_exec, pipe_withPipe, withPipe_withPipe, henable,
          Bool.not_true, Bool.false_eq_true, if_false, if_neg hhalt, if_neg hbusy]
        rw [Pipe.transComplet_of_unsent (by rfl) (by rfl)]
        rfl
  · have hrefused : ¬ s.pipe.accepts = true := by simp [Pipe.accepts, henable]
    rw [if_neg hrefused]
    simp [runProgram, exec, ctrl_epIn, note_eq, henable]

/-- `udi_hid_generic_send_report_in` -/
theorem sendReportProgram_exec (data : Report) {s : Firmware}
    (hfree : s.udiHidGenericBReportInFree = true) :
    (sendReportProgram data ret).exec s =
      (ret s.pipe.sendAccepted).exec (s.withPipe (s.pipe.send data)) := by
  have hf : s.pipe.free = true := hfree
  have haccepts : ({ s.pipe with reportIn := data } : Pipe).accepts = s.pipe.accepts := rfl
  simp only [sendReportProgram, exec, reportIn_eq, runProgram_exec, pipe_withPipe, withPipe_withPipe]
  change (if s.pipe.accepts = true then _ else _) = _
  rw [Pipe.sendAccepted, Pipe.send, hf, Bool.not_true, if_neg Bool.false_ne_true, Bool.true_and]
  rcases s.pipe.accepts with _ | _
  · simp only [free_eq, pipe_withPipe, withPipe_withPipe]
    rfl
  · simp only [free_eq, pipe_withPipe, withPipe_withPipe]
    rfl

/-- The guard is closed. -/
theorem udiHidGenericSendReportIn_of_not_free (data : Report) {s : Firmware}
    (hfree : s.udiHidGenericBReportInFree = false) :
    udiHidGenericSendReportIn data s = .ok (false, s.note (.offered data false)) := by
  rw [udiHidGenericSendReportIn, hfree]
  rfl

theorem jstkProgram_exec (accepted : Bool) (s : Firmware) :
    (jstkProgram accepted).exec s =
      if accepted then { s with jstkPrevReport := ⟨s.jstkUsbReport.x, s.jstkUsbReport.y⟩ } else s := by
  cases accepted <;> rfl

theorem jstkUsbTaskStart_exec (r : Readings) (s : Firmware) :
    jstkUsbTask r s = .ok ((jstkUsbTaskStart r s).1.exec (jstkUsbTaskStart r s).2) := by
  simp only [jstkUsbTask, jstkUsbTaskStart]
  generalize ({ s with jstkUsbReport := _ } : Firmware).note _ = u
  split
  · rcases hfree : u.udiHidGenericBReportInFree with _ | _
    · rw [udiHidGenericSendReportIn_of_not_free _ hfree]
      rfl
    · simp only [udiHidGenericSendReportIn_eq, ok_bind, pure_eq_ok, Bool.not_true,
        Bool.false_eq_true, if_false, sendReportProgram_exec _ hfree, jstkProgram_exec]
      split <;> rfl
  · rfl

/-- **Without polls**: the instructions do what `main_sof_action` does. -/
theorem mainSofActionStart_exec (t : Tick) (s : Firmware) :
    mainSofAction t s = .ok ((mainSofActionStart t s).1.exec (mainSofActionStart t s).2) := by
  simp only [mainSofAction, uiProcess, joystick, mainSofActionStart, joystickStart]
  split
  · rfl
  · split
    · split
      · rfl
      · rfl
    · exact jstkUsbTaskStart_exec t.usbTask _

end Execution

/-! ## The host polls -/

/-- What the controller shares with the program: the entry of EP 0x81 in the endpoint table, the
buffer, and what the host has been sent. -/
def Firmware.shared (s : Firmware) : UsbEp × Report × List Action :=
  (s.ctrl epInCtrl, s.udiHidGenericReportIn, s.history)

/-- EP 0x81 answers NAK. -/
def Firmware.AnswersNak (s : Firmware) : Prop := (s.ctrl epInCtrl).busnack0 = true

/-- The program keeps EP 0x81 from sending until it has written everything that is sent. -/
abbrev Careful (P : Program Firmware) (s : Firmware) : Prop :=
  P.Guards hostCollect Firmware.shared Firmware.AnswersNak s

section Polls

variable {s : Firmware}

theorem Firmware.AnswersNak.not_live (h : s.AnswersNak) : (s.ctrl epInCtrl).live = false := by
  rw [AnswersNak] at h
  rw [UsbEp.live, h]
  exact Bool.and_false _

/-- An instruction that leaves the NAK bit alone -/
theorem careful_instr {f : Firmware → Firmware} {rest : Firmware → Program Firmware}
    (hs : s.AnswersNak) (hf : (f s).AnswersNak)
    (hrest : ∀ s, s.AnswersNak → Careful (rest s) s) : Careful (.instr f rest) s :=
  .instr hs (hrest (f s) hf)

/-- A register of the endpoint is written, but not the NAK bit. -/
theorem careful_modifyCtrl {f : UsbEp → UsbEp} {rest : Firmware → Program Firmware}
    (hs : s.AnswersNak) (hf : ∀ e, (f e).busnack0 = e.busnack0)
    (hrest : ∀ s, s.AnswersNak → Careful (rest s) s) :
    Careful (.instr (fun s => s.modifyCtrl epInCtrl f) rest) s := by
  refine careful_instr hs ?_ hrest
  rw [Firmware.AnswersNak, Firmware.ctrl_modifyCtrl, hf]
  exact hs

/-- A poll leaves alone what is not shared. -/
theorem comm_hostCollect {f : Firmware → Firmware} (hshared : ∀ s, (f s).shared = s.shared)
    (hf : ∀ s a, f ((s.modifyCtrl epInCtrl UsbEp.afterPacket).note a) =
      ((f s).modifyCtrl epInCtrl UsbEp.afterPacket).note a) (s : Firmware) :
    f (hostCollect s) = hostCollect (f s) := by
  have hctrl : (f s).ctrl epInCtrl = s.ctrl epInCtrl := congrArg Prod.fst (hshared s)
  have hbuffer : (f s).udiHidGenericReportIn = s.udiHidGenericReportIn :=
    congrArg (fun t : UsbEp × Report × List Action => t.2.1) (hshared s)
  rw [hostCollect, hostCollect, Firmware.packetIn, Firmware.packetIn, hctrl, hbuffer]
  split
  · exact hf s _
  · rfl

/-- An instruction that does not write what the controller shares -/
theorem released_instr {f : Firmware → Firmware} {rest : Firmware → Program Firmware}
    (hshared : ∀ s, (f s).shared = s.shared)
    (hf : ∀ s a, f ((s.modifyCtrl epInCtrl UsbEp.afterPacket).note a) =
      ((f s).modifyCtrl epInCtrl UsbEp.afterPacket).note a)
    (hrest : ∀ s, rest (hostCollect s) = rest s)
    (h : ∀ s, (rest s).Released hostCollect Firmware.shared) :
    (instr f rest).Released hostCollect Firmware.shared :=
  ⟨hshared, comm_hostCollect hshared hf, hrest, h⟩

/-- What `jstk_usbTask` does after the call is not seen by the controller. -/
theorem released_jstkProgram (accepted : Bool) :
    (jstkProgram accepted).Released hostCollect Firmware.shared := by
  cases accepted with
  | false => trivial
  | true =>
    refine released_instr (fun _ => rfl) (fun _ _ => rfl) (fun _ => rfl) fun _ => ?_
    exact released_instr (fun _ => rfl) (fun _ _ => rfl) (fun _ => rfl) fun _ => trivial

/-- The guard of `udi_hid_generic_send_report_in` is closed after the controller was told. -/
theorem released_guard {ret : Bool → Program Firmware}
    (hret : ∀ accepted, (ret accepted).Released hostCollect Firmware.shared) (started : Bool) :
    (instr (fun s : Firmware => { s with udiHidGenericBReportInFree := !started }) fun s =>
      ret !s.udiHidGenericBReportInFree).Released hostCollect Firmware.shared := by
  refine released_instr (fun _ => rfl) (fun _ _ => rfl) (fun s => ?_) fun s => hret _
  rw [hostCollect]
  split <;> rfl

/-- `udd_ep_trans_complet` clears the NAK bit last. -/
theorem careful_transCompletProgram {ret : Program Firmware}
    (hret : ret.Released hostCollect Firmware.shared) (hs : s.AnswersNak) :
    Careful (transCompletProgram ret) s := by
  have hclear (s : Firmware) (hs : s.AnswersNak) : Careful (.instr (fun s =>
      s.modifyCtrl epInCtrl uddEndpointClearNACK0) fun _ => ret) s := .instr hs (hret.guards _)
  refine careful_instr hs hs fun s hs => ?_
  simp only
  split
  · refine careful_instr hs hs fun s hs => ?_
    refine careful_modifyCtrl hs (fun _ => rfl) fun s hs => ?_
    refine careful_modifyCtrl hs (fun _ => rfl) fun s hs => ?_
    exact careful_modifyCtrl hs (fun _ => rfl) hclear
  · split
    · refine careful_instr hs hs fun s hs => ?_
      refine careful_modifyCtrl hs (fun _ => rfl) fun s hs => ?_
      exact careful_modifyCtrl hs (fun _ => rfl) hclear
    · split
      · exact careful_instr hs hs fun s hs => .instr hs (hret.guards _)
      · exact hret.guards _

variable {ret : Bool → Program Firmware}

/-- `udd_ep_run` -/
theorem careful_runProgram (bShortpacket : Bool) (buf : Ptr) (bufSize : Word)
    (callback : Option UddCallbackTrans) (answer : Bool → Action)
    (hret : ∀ started, (ret started).Released hostCollect Firmware.shared) (hs : s.AnswersNak) :
    Careful (runProgram bShortpacket buf bufSize callback answer ret) s := by
  have hrefuse (s : Firmware) (hs : s.AnswersNak) :
      Careful (.instr (Firmware.note (answer false)) fun _ => ret false) s :=
    .instr hs ((hret false).guards _)
  refine careful_instr hs hs fun s hs => ?_
  split
  · exact hrefuse s hs
  · refine careful_instr hs hs fun s hs => ?_
    split
    · exact hrefuse s hs
    · refine careful_instr hs hs fun s hs => ?_
      split
      · exact hrefuse s hs
      · refine careful_instr hs hs fun s hs => ?_
        refine careful_instr hs hs fun s hs => ?_
        refine careful_modifyCtrl hs (fun _ => rfl) fun s hs => ?_
        exact careful_transCompletProgram (hret true) hs

/-- **The buffer is filled first**: `udi_hid_generic_send_report_in` writes it while the endpoint
answers NAK, and nothing the controller reads after that. -/
theorem careful_sendReportProgram (data : Report)
    (hret : ∀ accepted, (ret accepted).Released hostCollect Firmware.shared) (hs : s.AnswersNak) :
    Careful (sendReportProgram data ret) s := by
  refine careful_instr hs hs fun s hs => ?_
  refine careful_instr hs hs fun s hs => ?_
  refine careful_instr hs hs fun s hs => ?_
  refine careful_instr hs hs fun s hs => ?_
  exact careful_runProgram _ _ _ _ _ (fun started => released_guard hret started) hs

/-- A tick that writes a report finds the endpoint answering NAK. -/
theorem careful_jstkUsbTaskStart (r : Readings)
    (hs : s.udiHidGenericBReportInFree = true → s.AnswersNak) :
    Careful (jstkUsbTaskStart r s).1 (jstkUsbTaskStart r s).2 := by
  simp only [jstkUsbTaskStart]
  split
  · rcases hfree : s.udiHidGenericBReportInFree with _ | _
    · exact trivial
    · exact careful_sendReportProgram _ released_jstkProgram (hs hfree)
  · trivial

theorem careful_mainSofActionStart (t : Tick)
    (hs : s.mainBGenericEnable = true → s.udiHidGenericBReportInFree = true → s.AnswersNak) :
    Careful (mainSofActionStart t s).1 (mainSofActionStart t s).2 := by
  rcases henable : s.mainBGenericEnable with _ | _
  · rw [mainSofActionStart, henable]
    trivial
  · simp only [mainSofActionStart, henable, joystickStart]
    split
    · trivial
    · split
      · split <;> trivial
      · exact careful_jstkUsbTaskStart t.usbTask fun hfree => hs henable hfree

end Polls

/-! ## The history -/

section Logs

theorem logs_instr {f : Firmware → Firmware} {rest : Firmware → Program Firmware}
    (hf : ∀ s, (f s).history = s.history) (hrest : ∀ s, (rest s).Logs Firmware.history) :
    (instr f rest).Logs Firmware.history :=
  ⟨fun s => (hf s).symm ▸ List.suffix_rfl, hrest⟩

theorem logs_note {f : Firmware → Firmware} {rest : Firmware → Program Firmware} {a : Action}
    (hf : ∀ s, (f s).history = a :: s.history) (hrest : ∀ s, (rest s).Logs Firmware.history) :
    (instr f rest).Logs Firmware.history :=
  ⟨fun s => (hf s).symm ▸ List.suffix_cons a s.history, hrest⟩

theorem logs_transCompletProgram {ret : Program Firmware} (hret : ret.Logs Firmware.history) :
    (transCompletProgram ret).Logs Firmware.history := by
  refine logs_instr (fun _ => rfl) fun s => ?_
  simp only
  split
  · exact logs_instr (fun _ => rfl) fun _ => logs_instr (fun _ => rfl) fun _ =>
      logs_instr (fun _ => rfl) fun _ => logs_instr (fun _ => rfl) fun _ =>
        logs_instr (fun _ => rfl) fun _ => hret
  · split
    · exact logs_instr (fun _ => rfl) fun _ => logs_instr (fun _ => rfl) fun _ =>
        logs_instr (fun _ => rfl) fun _ => logs_instr (fun _ => rfl) fun _ => hret
    · split
      · refine logs_instr (fun _ => rfl) fun _ => ?_
        split
        · next callback _ =>
          cases callback
          exact logs_note (fun _ => rfl) fun _ => hret
        · exact logs_instr (fun _ => rfl) fun _ => hret
      · exact hret

variable {ret : Bool → Program Firmware}

theorem logs_runProgram (bShortpacket : Bool) (buf : Ptr) (bufSize : Word)
    (callback : Option UddCallbackTrans) (answer : Bool → Action)
    (hret : ∀ started, (ret started).Logs Firmware.history) :
    (runProgram bShortpacket buf bufSize callback answer ret).Logs Firmware.history := by
  have hrefuse : (instr (Firmware.note (answer false)) fun _ => ret false).Logs Firmware.history :=
    logs_note (fun _ => rfl) fun _ => hret false
  refine logs_instr (fun _ => rfl) fun s => ?_
  split
  · exact hrefuse
  · refine logs_instr (fun _ => rfl) fun s => ?_
    split
    · exact hrefuse
    · refine logs_instr (fun _ => rfl) fun s => ?_
      split
      · exact hrefuse
      · exact logs_note (fun _ => rfl) fun _ => logs_instr (fun _ => rfl) fun _ =>
          logs_instr (fun _ => rfl) fun _ => logs_transCompletProgram (hret true)

theorem logs_jstkProgram (accepted : Bool) : (jstkProgram accepted).Logs Firmware.history := by
  cases accepted with
  | false => trivial
  | true => exact logs_instr (fun _ => rfl) fun _ => logs_instr (fun _ => rfl) fun _ => trivial

theorem logs_sendReportProgram (data : Report)
    (hret : ∀ accepted, (ret accepted).Logs Firmware.history) :
    (sendReportProgram data ret).Logs Firmware.history :=
  logs_instr (fun _ => rfl) fun _ => logs_instr (fun _ => rfl) fun _ =>
    logs_instr (fun _ => rfl) fun _ => logs_instr (fun _ => rfl) fun _ =>
      logs_runProgram _ _ _ _ _ fun _ => logs_instr (fun _ => rfl) fun _ => hret _

theorem logs_mainSofActionStart (t : Tick) (s : Firmware) :
    (mainSofActionStart t s).1.Logs Firmware.history := by
  simp only [mainSofActionStart, joystickStart, jstkUsbTaskStart]
  split
  · trivial
  · split
    · split <;> trivial
    · split
      · split
        · trivial
        · exact logs_sendReportProgram _ logs_jstkProgram
      · trivial

end Logs

/-! ## Polls between instructions -/

/-- The device while a tick is executed -/
structure Running where
  firmware : Firmware
  /-- what is left of the tick -/
  handler : Program Firmware

/-- What happens next: an instruction of the tick, or something outside. -/
inductive RunningEvent : Type where
  | instruction : RunningEvent
  | event : Event → RunningEvent

/-- **The device, instruction by instruction** -/
def running : Machine Running RunningEvent Fault where
  step x
    | .instruction => .ok ⟨(x.handler.next x.firmware).2, (x.handler.next x.firmware).1⟩
    | .event .collect => .ok { x with firmware := hostCollect x.firmware }
    | .event (.sof t) =>
      .ok ⟨(mainSofActionStart t x.firmware).2, (mainSofActionStart t x.firmware).1⟩
    | .event e => do
      let s ← device.step x.firmware e
      return ⟨s, .done⟩

/-- The host may poll at any time; interrupts wait for the end of the tick. -/
def Running.Takes (x : Running) : RunningEvent → Prop
  | .instruction | .event .collect => True
  | .event _ => x.handler.isDone = true

instance (x : Running) : DecidablePred x.Takes := fun e => by
  unfold Running.Takes
  split <;> infer_instance

/-- The environment, which takes interrupts in the driver's order -/
def Interleaved (x : Running) : RunningEvent → Prop
  | .instruction => True
  | .event e => x.Takes (.event e) ∧ Orderly x.firmware e

instance (x : Running) : DecidablePred (Interleaved x) := fun e => by
  unfold Interleaved
  split <;> infer_instance

theorem run_instructions (P : Program Firmware) (s : Firmware) :
    ∃ n, running.run ⟨s, P⟩ (List.replicate n .instruction) = .ok ⟨P.exec s, .done⟩ := by
  induction P generalizing s with
  | done => exact ⟨0, rfl⟩
  | instr f rest ih =>
    obtain ⟨n, hn⟩ := ih (f s) (f s)
    exact ⟨n + 1, hn⟩

/-- **A step of `device`** is an event and the instructions it leaves to do. -/
theorem running_of_step {s s' : Firmware} {e : Event} (h : device.step s e = .ok s') :
    ∃ n, running.run ⟨s, .done⟩ (.event e :: List.replicate n .instruction) = .ok ⟨s', .done⟩ := by
  have hevent (hstep : running.step ⟨s, .done⟩ (.event e) = .ok ⟨s', .done⟩) :
      ∃ n, running.run ⟨s, .done⟩ (.event e :: List.replicate n .instruction) =
        .ok ⟨s', .done⟩ := ⟨0, Machine.run_cons_of_ok hstep⟩
  cases e with
  | sof t =>
    obtain rfl := Except.ok.inj (h.symm.trans (mainSofActionStart_exec t s))
    exact run_instructions (mainSofActionStart t s).1 (mainSofActionStart t s).2
  | collect =>
    obtain rfl := Except.ok.inj h
    exact hevent rfl
  | reset | transferComplete | setup _ | ctrlIn | ctrlOut _ | underflow | overflow | unstall =>
    exact hevent (congrArg
      (fun r : Except Fault Firmware => r >>= fun s => Except.ok (⟨s, .done⟩ : Running)) h)

/-- What an event is to the mailbox: what is left of a tick has been done already. -/
def Running.mailboxOp (x : Running) : RunningEvent → Mailbox.Op Readings
  | .instruction => .keep
  | .event .collect => if (x.firmware.ctrl epInCtrl).live then .collect else .keep
  | .event e => x.firmware.mailboxOp e

/-- At the end of the tick the firmware will be the mailbox `c`. -/
structure Running.Carries (x : Running) (c : Reports) : Prop where
  carries : HidJoystick.Carries (x.handler.exec x.firmware) c
  careful : Careful x.handler x.firmware
  logs : x.handler.Logs Firmware.history

section Runs

variable {x x' : Running} {c : Reports}

/-- While the host could get a packet, the tick has written everything. -/
theorem Running.Carries.released (h : x.Carries c) (hlive : (x.firmware.ctrl epInCtrl).live = true) :
    x.handler.Released hostCollect Firmware.shared := by
  refine h.careful.cases.resolve_right fun hnak => ?_
  rw [hnak.not_live] at hlive
  cases hlive

theorem carries_of_done {s : Firmware} (h : Carries s c) : Running.Carries ⟨s, .done⟩ c :=
  ⟨h, trivial, trivial⟩

/-- An empty mailbox is not on the bank. -/
theorem Carries.answersNak {s : Firmware} (h : Carries s c) (hen : s.mainBGenericEnable = true)
    (hfree : s.udiHidGenericBReportInFree = true) : s.AnswersNak := by
  refine h.settled.bank hen (Bool.eq_false_of_not_eq_true fun hbusy => ?_)
  have hclosed : s.udiHidGenericBReportInFree = !(s.job epInJob).busy := h.inv.pipe.free hen
  rw [hfree, show (s.job epInJob).busy = true from hbusy] at hclosed
  cases hclosed

/-- **The mailbox**, whatever is polled between two instructions -/
theorem running_simulates :
    running.Simulates reports Interleaved Running.Carries Running.mailboxOp := by
  intro x c e h he
  cases e with
  | instruction =>
    refine ⟨_, c, rfl, rfl, ?_, h.careful.next, h.logs.next x.firmware⟩
    rw [exec_next]
    exact h.carries
  | event e =>
    obtain ⟨htakes, horderly⟩ := he
    -- an interrupt finds the last tick done
    have hidle (hdone : x.handler.isDone = true) : HidJoystick.Carries x.firmware c := by
      have hcarries := h.carries
      rw [eq_done hdone] at hcarries
      exact hcarries
    have hevent (hdone : x.handler.isDone = true) :
        ∃ (x' : Running) (c' : Reports),
          (device.step x.firmware e >>= fun s => .ok ⟨s, .done⟩) = .ok x' ∧
          reports.step c (x.firmware.mailboxOp e) = .ok c' ∧ x'.Carries c' := by
      obtain ⟨s', c', hs', hc', hcarries⟩ := device_simulates _ _ e (hidle hdone) horderly
      rw [hs']
      exact ⟨⟨s', .done⟩, c', rfl, hc', carries_of_done hcarries⟩
    cases e with
    | collect =>
      rcases hlive : (x.firmware.ctrl epInCtrl).live with _ | _
      · have hsame : hostCollect x.firmware = x.firmware := by
          rw [hostCollect, hlive, if_neg Bool.false_ne_true]
        refine ⟨x, c, ?_, ?_, h⟩
        · change Except.ok { x with firmware := hostCollect x.firmware } = _
          rw [hsame]
        · rw [Running.mailboxOp, hlive]
          rfl
      · have hreleased := h.released hlive
        obtain ⟨s', c', hs', hc', hcarries⟩ := device_simulates _ _ .collect h.carries
          ⟨trivial, trivial⟩
        refine ⟨_, c', rfl, ?_, ?_, hreleased.guards _, h.logs⟩
        · rw [Running.mailboxOp, hlive]
          exact hc'
        · rw [hreleased.exec_env]
          exact Except.ok.inj hs' ▸ hcarries
    | sof t =>
      obtain ⟨s', c', hs', hc', hcarries⟩ := device_simulates _ _ (.sof t) (hidle htakes) horderly
      refine ⟨_, c', rfl, hc', ?_, ?_, logs_mainSofActionStart t x.firmware⟩
      · obtain rfl := Except.ok.inj (hs'.symm.trans (mainSofActionStart_exec t x.firmware))
        exact hcarries
      · exact careful_mainSofActionStart t fun hen hfree => (hidle htakes).answersNak hen hfree
    | reset | transferComplete | setup _ | ctrlIn | ctrlOut _ | underflow | overflow | unstall =>
      exact hevent htakes

/-- What the mailbox keeps, every run keeps, instruction by instruction. -/
theorem interleaved_run {J : Reports → Prop}
    (hJ : ∀ c op, J c → J (c.next sample Report.toList op))
    (hinit : J Firmware.powerOn.pipe.mailbox) {es : List RunningEvent}
    (h : running.Admits Interleaved ⟨Firmware.powerOn, .done⟩ es) :
    ∃ x c, running.run ⟨Firmware.powerOn, .done⟩ es = .ok x ∧ x.Carries c ∧ J c := by
  have hsim := running_simulates.strengthen (fun _ _ he => he) fun x c e c' _ hc _ hstep =>
    Except.ok.inj hstep ▸ hJ c (x.mailboxOp e) hc
  obtain ⟨x, c, hrun, _, hcarries, hc⟩ := hsim.run ⟨carries_of_done carries_powerOn, hinit⟩ h
  exact ⟨x, c, hrun, hcarries, hc⟩

end Runs

end HidJoystick
