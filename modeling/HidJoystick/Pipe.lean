import HidJoystick.Device

/-!
# The report pipe alone

The part of the firmware that decides which reports reach the host: the enable
flag of `main.c`, the free flag and buffer of the HID interface, the baseline of
`joystick.c`, and the endpoint table entry and job of EP 0x81. A `Pipe` is what
is left of a `Firmware` when everything else is forgotten; its operations are
total, because none of them indexes a table.

The second half says what each function of the driver does to the pipe: the same
as the pipe's operation, and nothing to the rest (`Firmware.withPipe`).
-/

namespace HidJoystick

/-- The report pipe. -/
structure Pipe where
  /-- `main_b_generic_enable` -/
  enable : Bool
  /-- `udi_hid_generic_b_report_in_free` -/
  free : Bool
  /-- `udi_hid_generic_report_in` -/
  reportIn : Report
  /-- `jstk_usbReport` -/
  usbReport : Report
  /-- `jstk_prevReport` -/
  prevReport : Report
  /-- the entry of EP 0x81 in the endpoint table -/
  ep : UsbEp
  /-- the job of EP 0x81 -/
  job : UddEpJob
  /-- `udc_num_configuration` -/
  numConf : Byte
  history : List Action
  deriving DecidableEq

/-- The report pipe of the firmware. -/
def Firmware.pipe (s : Firmware) : Pipe where
  enable := s.mainBGenericEnable
  free := s.udiHidGenericBReportInFree
  reportIn := s.udiHidGenericReportIn
  usbReport := s.jstkUsbReport
  prevReport := s.jstkPrevReport
  ep := s.ctrl epInCtrl
  job := s.job epInJob
  numConf := s.udcNumConfiguration
  history := s.history

/-- The LEDs: the mask shown last and the port. -/
def Firmware.leds (s : Firmware) : Byte × Byte := (s.jstkMask, s.portAOut)

/-- The firmware with another report pipe. -/
def Firmware.withPipe (s : Firmware) (p : Pipe) : Firmware :=
  { s with
    mainBGenericEnable := p.enable
    udiHidGenericBReportInFree := p.free
    udiHidGenericReportIn := p.reportIn
    jstkUsbReport := p.usbReport
    jstkPrevReport := p.prevReport
    epCtrl := s.epCtrl.set epInCtrl p.ep
    uddEpJob := s.uddEpJob.set epInJob p.job
    udcNumConfiguration := p.numConf
    history := p.history }

namespace Pipe

/-! ## Operations -/

/-- Record something the outside can see. -/
def note (a : Action) (p : Pipe) : Pipe := { p with history := a :: p.history }

/-- The transfer callback. -/
def callback (status : UddEpStatus) (p : Pipe) : Pipe :=
  { p with free := true }.note status.action

/-- Finish a busy job: the callback is called if one is registered. -/
def finish (status : UddEpStatus) (p : Pipe) : Pipe :=
  if p.job.busy then
    let p := { p with job := { p.job with busy := false } }
    match p.job.callTrans with
    | some .udiHidGenericReportInSent => p.callback status
    | none => p
  else p

/-- Abort the transfer in progress. -/
def abort (p : Pipe) : Pipe := { p with ep := uddEndpointSetNACK0 p.ep }.finish .abort

/-- Give up the interface. -/
def release (p : Pipe) : Pipe :=
  let p := p.abort
  { p with ep := uddEndpointDisable p.ep, enable := false }.note .stopped

/-- The endpoint table entry of a newly allocated EP 0x81. -/
def freshEp (e : UsbEp) : UsbEp :=
  uddEndpointSetMultipacket
    (uddEndpointSetControl .bulk .size8 (uddEndpointClearStatus (uddEndpointDisable e)))

/-- Take up the interface: nothing happens to an endpoint that is allocated. -/
def attach (p : Pipe) : Pipe :=
  if uddEndpointIsEnable p.ep then p
  else { p with ep := freshEp p.ep, free := true, enable := true }.note .started

/-- Back to the unconfigured state. -/
def deconfigure (p : Pipe) : Pipe :=
  { (if p.numConf ≠ 0 then p.release else p) with numConf := 0 }

/-- A bus reset. -/
def busReset (p : Pipe) : Pipe := p.abort.deconfigure

/-- An accepted SET_CONFIGURATION. -/
def configure (numConf : Byte) (p : Pipe) : Pipe :=
  let p := { p.deconfigure with numConf := numConf }
  if numConf = 0 then p else p.attach

/-- SET_INTERFACE for interface 0 in the configured state. -/
def setInterface (settingNum : Byte) (p : Pipe) : Pipe :=
  if settingNum = 0 then p.release.attach else p.release

/-- SET_FEATURE(ENDPOINT_HALT). -/
def halt (p : Pipe) : Pipe :=
  let p := p.abort
  { p with ep := uddEndpointEnableStall p.ep }.abort

/-- CLEAR_FEATURE(ENDPOINT_HALT). -/
def clearHalt (p : Pipe) : Pipe :=
  let ep := uddEndpointClearDtgl p.ep
  { p with ep := if ep.stall then uddEndpointDisableStall ep else ep }

/-- Go on with the transfer after `AUXDATA` bytes have been sent. -/
def transComplet (p : Pipe) : Pipe :=
  let epSize := uddEpGetSize p.ep
  let p := { p with job := { p.job with nbTrans := p.job.nbTrans + p.ep.auxdata } }
  if p.job.nbTrans ≠ p.job.bufSize then
    let nextTrans := p.job.bufSize - p.job.nbTrans
    let nextTrans :=
      if uddEndpointMaxTrans < nextTrans then
        uddEndpointMaxTrans - uddEndpointMaxTrans % epSize
      else nextTrans
    { p with
      job := { p.job with bShortpacket := p.job.bShortpacket && nextTrans % epSize == 0 }
      ep := uddEndpointClearNACK0
        { p.ep with
          auxdata := 0, cnt := nextTrans, dataptr := p.job.buf.add p.job.nbTrans.toNat } }
  else if p.job.bShortpacket then
    { p with
      job := { p.job with bShortpacket := false }
      ep := uddEndpointClearNACK0 { p.ep with auxdata := 0, cnt := 0 } }
  else p.finish .ok

/-- The transfer-complete interrupt. -/
def transferComplete (p : Pipe) : Pipe :=
  if p.ep.trncompl0 then { p with ep := uddEndpointAckTransferComplete p.ep }.transComplet else p

/-- EP 0x81 takes a transfer: it is allocated, not halted and has no job. -/
def accepts (p : Pipe) : Bool :=
  uddEndpointIsEnable p.ep && !(p.ep.type != .isochronous && p.ep.stall) && !p.job.busy

/-- The job `udi_hid_generic_send_report_in` starts. -/
def reportJob : UddEpJob where
  busy := true
  bShortpacket := false
  bUseOutCacheBuffer := false
  buf := ⟨.udiHidGenericReportIn, 0⟩
  bufSize := udiHidReportInSize
  nbTrans := 0
  callTrans := some .udiHidGenericReportInSent

/-- The endpoint table entry of a started report. -/
def armEp (e : UsbEp) : UsbEp :=
  uddEndpointClearNACK0
    { e with auxdata := 0, cnt := udiHidReportInSize, dataptr := ⟨.udiHidGenericReportIn, 0⟩ }

/-- Offer a report. -/
def send (data : Report) (p : Pipe) : Pipe :=
  if !p.free then p.note (.offered data false)
  else if p.accepts then
    { p with reportIn := data, job := reportJob, ep := armEp p.ep, free := false }.note
      (.offered data true)
  else { p with reportIn := data, free := true }.note (.offered data false)

/-- The report is accepted. -/
def sendAccepted (p : Pipe) : Bool := p.free && p.accepts

/-- Compute a report from what the ports read. -/
def look (r : Readings) (p : Pipe) : Pipe :=
  { p with usbReport := sample r }.note (.sampled r (sample r))

/-- `jstk_usbTask` with the ports reading `r`. -/
def usbTask (r : Readings) (p : Pipe) : Pipe :=
  if sample r = p.prevReport then p.look r
  else if p.sendAccepted then { (p.look r).send (sample r) with prevReport := sample r }
  else (p.look r).send (sample r)

/-- A tick. -/
def tick (t : Tick) (p : Pipe) : Pipe :=
  if p.enable && t.normal then p.usbTask t.usbTask else p

/-- The next packet from EP 0x81 -/
def packetIn (p : Pipe) : List Byte := p.ep.nextPacket (reportMemory p.reportIn)

/-- The host polls EP 0x81. -/
def collect (p : Pipe) : Pipe :=
  if p.ep.live then { p with ep := p.ep.afterPacket }.note (.received p.packetIn) else p

@[simp] theorem usbReport_send (data : Report) (p : Pipe) :
    (p.send data).usbReport = p.usbReport := by
  rw [send]
  split
  · rfl
  · split <;> rfl

/-- A report of which nothing has been sent is put on the bank, again if it was
there already. -/
theorem transComplet_of_unsent {p : Pipe} (hjob : p.job = reportJob) (haux : p.ep.auxdata = 0) :
    p.transComplet = { p with ep := armEp p.ep } := by
  obtain ⟨enable, free, reportIn, usbReport, prevReport, ep, job, numConf, history⟩ := p
  obtain rfl : job = reportJob := hjob
  simp only at haux
  simp [transComplet, reportJob, armEp, haux, Ptr.add]

/-- What the reports leave alone: whether the interface is enabled, the configuration and
the halt. -/
structure SameSetup (p p' : Pipe) : Prop where
  enable : p'.enable = p.enable
  numConf : p'.numConf = p.numConf
  stall : p'.ep.stall = p.ep.stall

theorem sameSetup_finish (status : UddEpStatus) (p : Pipe) : SameSetup p (p.finish status) := by
  simp only [finish]
  split
  · split
    · exact ⟨rfl, rfl, rfl⟩
    · exact ⟨rfl, rfl, rfl⟩
  · exact ⟨rfl, rfl, rfl⟩

theorem sameSetup_transferComplete (p : Pipe) : SameSetup p p.transferComplete := by
  rw [transferComplete]
  split
  · simp only [transComplet]
    split
    · exact ⟨rfl, rfl, rfl⟩
    · split
      · exact ⟨rfl, rfl, rfl⟩
      · obtain ⟨henable, hnumConf, hstall⟩ := sameSetup_finish .ok _
        exact ⟨henable, hnumConf, hstall⟩
  · exact ⟨rfl, rfl, rfl⟩

theorem sameSetup_collect (p : Pipe) : SameSetup p p.collect := by
  have hafter : p.ep.afterPacket.stall = p.ep.stall := by
    rw [UsbEp.afterPacket]
    split <;> rfl
  rw [collect]
  split
  · exact ⟨rfl, rfl, hafter⟩
  · exact ⟨rfl, rfl, rfl⟩

theorem sameSetup_send (data : Report) (p : Pipe) : SameSetup p (p.send data) := by
  rw [send]
  split
  · exact ⟨rfl, rfl, rfl⟩
  · split
    · exact ⟨rfl, rfl, rfl⟩
    · exact ⟨rfl, rfl, rfl⟩

theorem sameSetup_tick (t : Tick) (p : Pipe) : SameSetup p (p.tick t) := by
  rw [tick]
  split
  · rw [usbTask]
    split
    · exact ⟨rfl, rfl, rfl⟩
    · obtain ⟨henable, hnumConf, hstall⟩ := sameSetup_send (sample t.usbTask) (p.look t.usbTask)
      split
      · exact ⟨henable, hnumConf, hstall⟩
      · exact ⟨henable, hnumConf, hstall⟩
  · exact ⟨rfl, rfl, rfl⟩

end Pipe

/-! ## The pipe of the firmware -/

namespace Firmware

@[simp] theorem pipe_withPipe (s : Firmware) (p : Pipe) : (s.withPipe p).pipe = p := by
  simp [pipe, withPipe, ctrl, job]

@[simp] theorem withPipe_pipe (s : Firmware) : s.withPipe s.pipe = s := by
  simp [pipe, withPipe, ctrl, job]

@[simp] theorem withPipe_withPipe (s : Firmware) (p q : Pipe) :
    (s.withPipe p).withPipe q = s.withPipe q := by
  simp [withPipe]

theorem withPipe_jobOut (s : Firmware) (p : Pipe) :
    (s.withPipe p).job epOutJob = s.job epOutJob := by
  simp [withPipe, job]

@[simp] theorem withPipe_uddGCtrlreq (s : Firmware) (p : Pipe) :
    (s.withPipe p).uddGCtrlreq = s.uddGCtrlreq := rfl

@[simp] theorem withPipe_jstkUsbReport (s : Firmware) (p : Pipe) :
    (s.withPipe p).jstkUsbReport = p.usbReport := rfl

@[simp] theorem withPipe_jstkPrevReport (s : Firmware) (p : Pipe) :
    (s.withPipe p).jstkPrevReport = p.prevReport := rfl

theorem ctrl_epIn (s : Firmware) : s.ctrl epInCtrl = s.pipe.ep := rfl

theorem job_epIn (s : Firmware) : s.job epInJob = s.pipe.job := rfl

theorem modifyCtrl_epIn (s : Firmware) (f : UsbEp → UsbEp) :
    s.modifyCtrl epInCtrl f = s.withPipe { s.pipe with ep := f s.pipe.ep } := by
  simp [modifyCtrl, withPipe, pipe, ctrl, job]

theorem modifyJob_epIn (s : Firmware) (f : UddEpJob → UddEpJob) :
    s.modifyJob epInJob f = s.withPipe { s.pipe with job := f s.pipe.job } := by
  simp [modifyJob, withPipe, pipe, ctrl, job]

theorem note_eq (s : Firmware) (a : Action) : s.note a = s.withPipe (s.pipe.note a) := by
  simp [note, withPipe, pipe, Pipe.note, ctrl, job]

theorem reportIn_eq (s : Firmware) (data : Report) : { s with udiHidGenericReportIn := data } =
    s.withPipe { s.pipe with reportIn := data } := by simp [withPipe, pipe, ctrl, job]

theorem free_eq (s : Firmware) (free : Bool) : { s with udiHidGenericBReportInFree := free } =
    s.withPipe { s.pipe with free := free } := by simp [withPipe, pipe, ctrl, job]

theorem prevReport_eq (s : Firmware) (prev : Report) : { s with jstkPrevReport := prev } =
    s.withPipe { s.pipe with prevReport := prev } := by simp [withPipe, pipe, ctrl, job]

theorem callback_eq (callback : UddCallbackTrans) (status : UddEpStatus) (nb : Word) (ep : Byte)
    (s : Firmware) : callback.call status nb ep s = s.withPipe (s.pipe.callback status) := by
  cases callback
  simp [UddCallbackTrans.call, udiHidGenericReportInSent, note, withPipe, pipe, Pipe.callback,
    Pipe.note, ctrl, job]

end Firmware

/-! ## What the driver does to EP 0x81 -/

section EpIn

variable {ep : Byte}

open Firmware in
/-- `udd_ep_abort` -/
theorem uddEpAbort_epIn (h : IsEpIn ep) (s : Firmware) :
    uddEpAbort ep s = .ok (s.withPipe s.pipe.abort) := by
  simp only [uddEpAbort, h.getCtrl, h.getJob, ok_bind, pure_eq_ok, modifyCtrl_epIn, modifyJob_epIn,
    job_epIn, callback_eq, pipe_withPipe, withPipe_withPipe, Pipe.abort, Pipe.finish]
  rcases s.pipe.job.busy with _ | _
  · rfl
  · rcases s.pipe.job.callTrans with _ | ⟨_⟩ <;> rfl

open Firmware in
/-- `udd_ep_trans_complet` -/
theorem uddEpTransComplet_epIn (h : IsEpIn ep) (s : Firmware) :
    uddEpTransComplet ep s = .ok (s.withPipe s.pipe.transComplet) := by
  simp only [uddEpTransComplet, h.getCtrl, h.getJob, h.dir, ok_bind, pure_eq_ok, if_true,
    modifyCtrl_epIn, modifyJob_epIn, job_epIn, ctrl_epIn, callback_eq, pipe_withPipe,
    withPipe_withPipe, Pipe.transComplet, Pipe.finish]
  split
  · rfl
  · split
    · rfl
    · rcases s.pipe.job.busy with _ | _
      · rfl
      · rcases s.pipe.job.callTrans with _ | ⟨_⟩ <;> rfl


open Firmware in
/-- `udd_ep_free` -/
theorem uddEpFree_epIn (h : IsEpIn ep) (s : Firmware) :
    uddEpFree ep s =
      .ok (s.withPipe { s.pipe.abort with ep := uddEndpointDisable s.pipe.abort.ep }) := by
  simp only [uddEpFree, uddEpAbort_epIn h, h.getCtrl, ok_bind, pure_eq_ok, modifyCtrl_epIn,
    pipe_withPipe, withPipe_withPipe]

open Firmware in
/-- `udd_ep_alloc`, with the attributes of an interrupt endpoint of 8 bytes -/
theorem uddEpAlloc_epIn (h : IsEpIn ep) (s : Firmware) :
    uddEpAlloc ep 3 8 s =
      if uddEndpointIsEnable s.pipe.ep then .ok (false, s)
      else .ok (true, s.withPipe { s.pipe with ep := Pipe.freshEp s.pipe.ep }) := by
  simp only [uddEpAlloc, uddEpInit, h.getCtrl, ok_bind, pure_eq_ok, modifyCtrl_epIn, ctrl_epIn,
    pipe_withPipe, withPipe_withPipe]
  rfl

open Firmware in
/-- `udd_ep_set_halt`, after the abort in `udc_req_std_ep_set_feature` -/
theorem uddEpSetHalt_epIn (h : IsEpIn ep) (s : Firmware) :
    uddEpSetHalt ep (s.withPipe s.pipe.abort) = .ok (true, s.withPipe s.pipe.halt) := by
  simp only [uddEpSetHalt, uddEpAbort_epIn h, h.getCtrl, ok_bind, pure_eq_ok, modifyCtrl_epIn,
    pipe_withPipe, withPipe_withPipe, Pipe.halt]

open Firmware in
/-- `udd_ep_clear_halt`. A busy job on a halted endpoint is called back through the
wrong half of its union. -/
theorem uddEpClearHalt_epIn (h : IsEpIn ep) (s : Firmware)
    (hbusy : s.pipe.job.busy = true → s.pipe.ep.stall = false) :
    uddEpClearHalt ep s = .ok (true, s.withPipe s.pipe.clearHalt) := by
  simp only [uddEpClearHalt, h.getCtrl, h.getJob, ok_bind, pure_eq_ok, modifyCtrl_epIn,
    job_epIn, ctrl_epIn, pipe_withPipe, withPipe_withPipe, Pipe.clearHalt]
  rcases hstall : s.pipe.ep.stall with _ | _
  · simp [uddEndpointClearDtgl, hstall]
  · have hidle : s.pipe.job.busy = false := by
      by_contra hne
      have := hbusy (Bool.eq_true_of_not_eq_false hne)
      rw [hstall] at this
      cases this
    simp [uddEndpointClearDtgl, hstall, hidle]

open Firmware in
/-- `udd_ep_run`, as `udi_hid_generic_send_report_in` calls it -/
theorem uddEpRun_epIn (s : Firmware) :
    uddEpRun udiHidGenericEpIn false ⟨.udiHidGenericReportIn, 0⟩ udiHidReportInSize
        (some .udiHidGenericReportInSent) s =
      if s.pipe.accepts then
        .ok (true, s.withPipe { s.pipe with job := Pipe.reportJob, ep := Pipe.armEp s.pipe.ep })
      else .ok (false, s) := by
  simp only [uddEpRun, isEpIn_epIn.getCtrl, isEpIn_epIn.getJob, isEpIn_epIn.dir, ok_bind,
    pure_eq_ok, modifyCtrl_epIn, modifyJob_epIn, job_epIn, ctrl_epIn, pipe_withPipe,
    withPipe_withPipe, uddEpTransComplet_epIn isEpIn_epIn, Pipe.accepts]
  by_cases henable : uddEndpointIsEnable s.pipe.ep = true
  · by_cases hhalt : s.pipe.ep.type ≠ .isochronous ∧ s.pipe.ep.stall = true
    · simp [henable, hhalt]
    · by_cases hbusy : s.pipe.job.busy = true
      · simp [henable, hbusy]
      · rw [Pipe.transComplet_of_unsent (by rfl) (by rfl)]
        simp [henable, hhalt, hbusy, Pipe.armEp, Pipe.reportJob]
  · simp [henable]

end EpIn

/-! ## The tick and the bus -/

open Firmware in
/-- `udi_hid_generic_send_report_in` -/
theorem udiHidGenericSendReportIn_eq (data : Report) (s : Firmware) :
    udiHidGenericSendReportIn data s = .ok (s.pipe.sendAccepted, s.withPipe (s.pipe.send data)) := by
  have haccepts : (s.withPipe { s.pipe with reportIn := data }).pipe.accepts = s.pipe.accepts := by
    simp [Pipe.accepts]
  have hf : s.udiHidGenericBReportInFree = s.pipe.free := rfl
  simp only [udiHidGenericSendReportIn, reportIn_eq, uddEpRun_epIn, haccepts, pure_eq_ok, note_eq]
  rw [hf, Pipe.sendAccepted, Pipe.send]
  by_cases hfree' : s.pipe.free = true
  · by_cases ha : s.pipe.accepts = true
    · simp [hfree', ha, free_eq]
    · simp [hfree', ha, free_eq]
  · simp [hfree']

/-- Comparing reports byte by byte. -/
theorem report_ne_iff (a b : Report) : a.x ≠ b.x ∨ a.y ≠ b.y ↔ a ≠ b := by
  constructor
  · rintro h rfl
    exact h.elim (fun h => h rfl) fun h => h rfl
  · intro h
    by_contra hne
    rw [not_or, not_not, not_not] at hne
    obtain ⟨x, y⟩ := a
    exact h (congrArg₂ Report.mk hne.1 hne.2)

open Firmware in
/-- `jstk_usbTask` -/
theorem jstkUsbTask_eq (r : Readings) (s : Firmware) :
    jstkUsbTask r s = .ok (s.withPipe (s.pipe.usbTask r)) := by
  have hlook : { s with jstkUsbReport := sample r }.note (.sampled r (sample r)) =
      s.withPipe (s.pipe.look r) := by
    simp [withPipe, pipe, ctrl, job, note, Pipe.note, Pipe.look]
  have hprev (t : Firmware) : { t with jstkPrevReport := t.jstkUsbReport } =
      t.withPipe { t.pipe with prevReport := t.pipe.usbReport } := t.prevReport_eq t.jstkUsbReport
  have hsample : (⟨jstkIdxToAxis (jstkReadHoriIndex r), jstkIdxToAxis (jstkReadVertIndex r)⟩ :
      Report) = sample r := by simp [sample]
  have haccepted : (s.pipe.look r).sendAccepted = s.pipe.sendAccepted := rfl
  simp only [jstkUsbTask, hsample, hlook, report_ne_iff, hprev, udiHidGenericSendReportIn_eq,
    pure_eq_ok, ok_bind, pipe_withPipe, withPipe_withPipe, withPipe_jstkUsbReport,
    withPipe_jstkPrevReport, Pipe.usbReport_send, Pipe.usbTask]
  change (if sample r ≠ s.pipe.prevReport then
    if (s.pipe.look r).sendAccepted then _ else _ else _) = _
  rw [haccepted]
  by_cases hsame : sample r = s.pipe.prevReport
  · rw [if_neg (not_not.mpr hsame), if_pos hsame]
  · rw [if_pos hsame, if_neg hsame]
    split <;> rfl

/-- `PORTA.OUT` after a tick. -/
def displayAfter (t : Tick) (portAOut : Byte) : Byte :=
  if t.normal then portAOut ||| ledMask
  else if jstkReadMask t.readMask ≠ 0 then
    (portAOut ||| ledMask) &&& ~~~jstkReadMask t.readMask
  else portAOut

/-- `joystick` -/
theorem joystick_eq (t : Tick) (s : Firmware) :
    joystick t s =
      .ok ({ s with
          jstkMask := jstkReadMask t.readMask
          jstkTestMode := t.testMode
          portAOut := displayAfter t s.portAOut }.withPipe
        (if t.normal then s.pipe.usbTask t.usbTask else s.pipe)) := by
  by_cases htest : t.testMode &&& pin4Bm = 0
  · have hnormal : t.normal = false := by rw [Tick.normal, htest]; rfl
    by_cases hmask : jstkReadMask t.readMask = 0
    · simp only [joystick, htest, hmask, displayAfter, hnormal, if_true, ne_eq, not_true_eq_false,
        if_false, Bool.false_eq_true, pure_eq_ok]
      simp [Firmware.withPipe, Firmware.pipe, Firmware.ctrl, Firmware.job]
    · simp only [joystick, htest, hmask, displayAfter, hnormal, if_true, ne_eq, not_false_eq_true,
        if_false, Bool.false_eq_true, pure_eq_ok, ledOn, ledAllOff]
      simp [Firmware.withPipe, Firmware.pipe, Firmware.ctrl, Firmware.job]
  · have hnormal : t.normal = true := bne_iff_ne.mpr htest
    simp only [joystick, htest, if_false, jstkUsbTask_eq, displayAfter, hnormal, if_true]
    rfl

/-- `main_sof_action` -/
theorem mainSofAction_eq (t : Tick) (s : Firmware) :
    mainSofAction t s =
      if s.mainBGenericEnable then
        .ok ({ s with
            jstkMask := jstkReadMask t.readMask
            jstkTestMode := t.testMode
            portAOut := displayAfter t s.portAOut }.withPipe (s.pipe.tick t))
      else .ok s := by
  rcases hen : s.mainBGenericEnable with _ | _
  · simp [mainSofAction, hen]
  · have hpipe : s.pipe.enable = true := hen
    simp [mainSofAction, hen, uiProcess, joystick_eq, Pipe.tick, hpipe]

open Firmware in
/-- The host polls EP 0x81. -/
theorem hostCollect_eq (s : Firmware) : hostCollect s = s.withPipe s.pipe.collect := by
  have hpacket : s.packetIn = s.pipe.packetIn := rfl
  rw [hostCollect, Pipe.collect, ctrl_epIn, hpacket, modifyCtrl_epIn, note_eq]
  split
  · simp
  · simp

open Firmware in
/-- `USB_TRNCOMPL_vect` for EP 0x81 -/
theorem usbTrncomplVect_eq (s : Firmware) :
    usbTrncomplVect s = .ok (s.withPipe s.pipe.transferComplete) := by
  simp only [usbTrncomplVect, ctrl_epIn, modifyCtrl_epIn, uddEpTransComplet_epIn isEpIn_epIn,
    pipe_withPipe, withPipe_withPipe, pure_eq_ok, Pipe.transferComplete]
  rcases s.pipe.ep.trncompl0 with _ | _
  · simp
  · simp

end HidJoystick
