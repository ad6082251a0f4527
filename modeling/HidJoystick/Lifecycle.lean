import HidJoystick.Board
import HidJoystick.Enumeration

/-!
# The life of the device

What holds of the board however often the driver is started and stopped and the bus suspended
and resumed.

* `Board.Inv`, `Board.Inv.step` — the invariant, which contains the one of the firmware.
* `board_locks` — **accounting**: no lock is leaked and none is released twice.
* `board_sleeps` — the mode the processor may sleep in, from what happened last on the bus.
* `board_reenumerates` — a device that has been restarted can be enumerated.
-/

namespace HidJoystick

/-! ## Stopping and starting -/

section Lifecycle

variable {s : Firmware}

/-- `udc_reset` gives up the configuration, and leaves the rest alone. -/
theorem udcReset_eq (s : Firmware) :
    ∃ iface, udcReset s = .ok { s.withPipe s.pipe.deconfigure with
      udcPtrIface := iface, udcDeviceStatus := usbDevStatusBusPowered } := by
  by_cases hconf : s.udcNumConfiguration = 0
  · refine ⟨s.udcPtrIface, ?_⟩
    have hkeeps : s.pipe.deconfigure = s.pipe := by
      have hzero : s.pipe.numConf = 0 := hconf
      rw [Pipe.deconfigure, if_neg (not_not.mpr hzero), ← hzero]
    rw [hkeeps, Firmware.withPipe_pipe]
    simp only [udcReset, hconf, ne_eq, not_true_eq_false, if_false]
    rw [← hconf]
    rfl
  · refine ⟨9, ?_⟩
    have hne : s.pipe.numConf ≠ 0 := hconf
    have hnums : udcIfaceNums = [0] := by decide
    have hpresent : ¬(s.udcNumConfiguration = 0 ∨ (0 : Byte) ≠ 0) :=
      fun h => h.elim hconf fun h => h rfl
    have hdisable : udcIfaceDisable 0 s =
        .ok (true, { s with udcPtrIface := 9 }.withPipe s.pipe.release) := by
      simp only [udcIfaceDisable, udcUpdateIfaceDesc_eq, if_neg hpresent, udiHidGenericGetsetting,
        if_true, Bool.not_true, Bool.false_eq_true, if_false, udcFreeEndpoints_iface, ok_bind,
        pure_eq_ok]
      simp [udiHidGenericDisable, mainGenericDisable, Firmware.note, Firmware.withPipe,
        Firmware.pipe, Firmware.ctrl, Firmware.job, Pipe.release, Pipe.note]
    rw [Pipe.deconfigure, if_pos hne]
    simp only [udcReset, hconf, ne_eq, not_false_eq_true, if_true, hnums, udcDisableIfaces, hdisable,
      ok_bind]
    rfl

/-- **Stopping**: the device has no configuration then. -/
theorem udcReset_inv (h : s.Inv) {c : DeviceSettings Byte} (hc : s.Holds c) :
    ∃ s', udcReset s = .ok s' ∧ s'.Inv ∧ s'.Holds c.unconfigure ∧ s'.udcNumConfiguration = 0 := by
  obtain ⟨iface, hrun⟩ := udcReset_eq s
  refine ⟨_, hrun, ?_, ?_, rfl⟩
  · refine ⟨?_, ?_, h.noData⟩
    · change (s.withPipe s.pipe.deconfigure).pipe.Consistent
      rw [Firmware.pipe_withPipe]
      exact h.pipe.deconfigure
    · change ((s.withPipe s.pipe.deconfigure).job epOutJob).busy = false
      rw [Firmware.withPipe_jobOut]
      exact h.jobOut
  · obtain ⟨hvars, hpipe⟩ := holds_iff.mp hc
    refine holds_iff.mpr ⟨⟨rfl, hvars.rate, hvars.protocol⟩, ?_⟩
    change (s.withPipe s.pipe.deconfigure).pipe.Holds c.unconfigure
    rw [Firmware.pipe_withPipe]
    exact hpipe.deconfigure

theorem pipe_resetEndpoints (s : Firmware) :
    (Board.resetEndpoints s).pipe =
      { s.pipe with
        ep := uddEndpointDisable s.pipe.ep
        job := { s.pipe.job with busy := false } } := by
  simp [Firmware.pipe, Board.resetEndpoints, Firmware.ctrl, Firmware.job]

/-- **Starting**: the endpoints of a device without a configuration are not in use. -/
theorem resetEndpoints_inv (h : s.Inv) (hconf : s.udcNumConfiguration = 0) {c : DeviceSettings Byte}
    (hc : s.Holds c) :
    (Board.resetEndpoints s).Inv ∧ (Board.resetEndpoints s).Holds { c with halted := false } := by
  have hdisabled : s.pipe.enable = false := h.pipe.unconfigured hconf
  constructor
  · refine ⟨?_, ?_, h.noData⟩
    · rw [pipe_resetEndpoints]
      exact {
        allocated := hdisabled.symm
        bulk := fun henable => absurd (hdisabled.symm.trans henable) Bool.noConfusion
        unconfigured := fun _ => hdisabled
        free := fun henable => absurd (hdisabled.symm.trans henable) Bool.noConfusion
        enabled := nofun
        busy := nofun }
    · simp [Board.resetEndpoints, Firmware.job]
  · obtain ⟨hvars, hpipe⟩ := holds_iff.mp hc
    refine holds_iff.mpr ⟨⟨hvars.status, hvars.rate, hvars.protocol⟩, ?_⟩
    rw [pipe_resetEndpoints]
    exact ⟨hpipe.configuration, rfl⟩

end Lifecycle

namespace Board

/-! ## The invariant -/

/-- What the driver relies on: it is started when it is not running and used while it is, other
drivers unlock what they have locked, and they leave room for two more locks. -/
def Legal (b : Board) : BoardEvent → Prop
  | .bus e => b.enabled = true ∧ ¬ Strays b.firmware e
  | .suspend | .resume | .attach | .detach | .remotewakeup | .stop => b.enabled = true
  | .start => b.enabled = false
  | .lock mode => b.others mode < 253
  | .unlock mode => 0 < b.others mode

instance (b : Board) : DecidablePred (Legal b) := fun e => by
  cases e <;> unfold Legal <;> infer_instance

/-- **The invariant** -/
structure Inv (b : Board) : Prop extends LocksInv b where
  firmware : b.firmware.Inv
  settings : ∃ c, b.firmware.Holds c
  /-- a device that is not running has no configuration -/
  unconfigured : b.enabled = false → b.firmware.udcNumConfiguration = 0

variable {b : Board}

theorem boot_inv : boot.Inv where
  asleep := fun _ => rfl
  held_le mode := by cases mode <;> decide
  others_le mode := by cases mode <;> decide
  firmware := inv_powerOn
  settings := ⟨_, powerOn_holds⟩
  unconfigured := fun _ => rfl

theorem boot_others (mode : SleepmgrMode) : boot.others mode = 0 := by
  cases mode <;> decide

/-- The event succeeds, keeps the invariant and changes what others have locked as it says. -/
def Books (b : Board) (e : BoardEvent) : Prop :=
  ∃ b', machine.step b e = .ok b' ∧ b'.Inv ∧ ∀ m,
    b'.others m + (if e.unlocks m then 1 else 0) = b.others m + if e.locks m then 1 else 0

/-- An event that leaves the locks of the other drivers alone -/
theorem Inv.books {b' : Board} (h : b'.Inv) {e : BoardEvent} (hstep : machine.step b e = .ok b')
    (hbalanced : Balanced b b') (hnone : ∀ m, e.unlocks m = false ∧ e.locks m = false) :
    b.Books e := by
  refine ⟨b', hstep, h, fun m => ?_⟩
  rw [(hnone m).1, (hnone m).2, hbalanced.others]

/-- The driver is running afterwards. -/
theorem Inv.of_running (h : b.Inv) {b' : Board} (hon : b'.enabled = true)
    (hinv : b'.firmware.Inv) (hholds : ∃ c, b'.firmware.Holds c) (hbalanced : Balanced b b') :
    b'.Inv := by
  have hawake {P : Prop} (hoff : b'.enabled = false) : P :=
    absurd (hoff.symm.trans hon) Bool.false_ne_true
  exact ⟨h.toLocksInv.of_balanced hbalanced hawake, hinv, hholds, hawake⟩

/-- The driver goes on running, with the same firmware. -/
theorem Inv.drives (h : b.Inv) {e : BoardEvent} {b' : Board} (hstep : machine.step b e = .ok b')
    (hrunning : b.enabled = true) (hsame : b'.firmware = b.firmware) (hon : b'.enabled = b.enabled)
    (hbalanced : Balanced b b') (hnone : ∀ m, e.unlocks m = false ∧ e.locks m = false) :
    b.Books e :=
  (h.of_running (hon.trans hrunning) (hsame ▸ h.firmware) (hsame ▸ h.settings) hbalanced).books
    hstep hbalanced hnone

/-- Something happens on the bus. -/
theorem Inv.bus (h : b.Inv) (hrunning : b.enabled = true) {e : Event}
    (hstays : ¬ Strays b.firmware e) : b.Books (.bus e) := by
  obtain ⟨c, hc⟩ := h.settings
  obtain ⟨s', hs', _, hinv⟩ := device_step h.firmware hstays
  have hstep : machine.step b (.bus e) = .ok { b with firmware := s' } := by
    simp only [machine, hs']
  have hbalanced : Balanced b { b with firmware := s' } := ⟨fun _ => rfl⟩
  have hinv' : { b with firmware := s' }.Inv :=
    h.of_running hrunning hinv ⟨_, settings_step h.firmware hc hs'⟩ hbalanced
  exact hinv'.books hstep hbalanced fun _ => ⟨rfl, rfl⟩

/-- `udc_start` -/
theorem Inv.start (h : b.Inv) (hstopped : b.enabled = false) : b.Books .start := by
  obtain ⟨c, hc⟩ := h.settings
  obtain ⟨b', hrun, hreset, hon, _, hbalanced⟩ := h.toLocksInv.enable hstopped
  obtain ⟨hinv, hholds⟩ := resetEndpoints_inv h.firmware (h.unconfigured hstopped) hc
  exact (h.of_running hon (hreset ▸ hinv) ⟨_, hreset ▸ hholds⟩ hbalanced).books hrun hbalanced
    fun _ => ⟨rfl, rfl⟩

/-- `udc_stop` -/
theorem Inv.stop (h : b.Inv) (hrunning : b.enabled = true) : b.Books .stop := by
  obtain ⟨c, hc⟩ := h.settings
  obtain ⟨b', hrun, hsame, hoff, hidle, hbalanced⟩ := h.toLocksInv.disable hrunning
  obtain ⟨s', hs', hinv, hholds, hconf⟩ := udcReset_inv h.firmware hc
  have hstep : machine.step b .stop = .ok { b' with firmware := s' } := by
    have hreset : udcReset b'.firmware = .ok s' := by rw [hsame, hs']
    change b.udcStop = _
    simp only [udcStop, hrun, hreset, bind, Except.bind, pure, Except.pure]
  have hbalanced' : Balanced b { b' with firmware := s' } := ⟨hbalanced.count⟩
  have hinv' : { b' with firmware := s' }.Inv :=
    ⟨h.toLocksInv.of_balanced hbalanced' fun _ => hidle, hinv, ⟨_, hholds⟩, fun _ => hconf⟩
  exact hinv'.books hstep hbalanced' fun _ => ⟨rfl, rfl⟩

/-- Another driver locks a mode. -/
theorem Inv.lock (h : b.Inv) {mode : SleepmgrMode} (hroom : b.others mode < 253) :
    b.Books (.lock mode) := by
  have hspace : (b.locks.count mode).toNat < 255 := by
    have hle := h.count_others mode
    have htwo := b.held_le_two mode
    omega
  obtain ⟨locks, hrun, hcount⟩ := lockMode_ok hspace
  have hothers (m : SleepmgrMode) : b.held m ≤ (locks.count m).toNat ∧
      { b with locks := locks }.others m = b.others m + if m = mode then 1 else 0 := by
    have hm := hcount m
    have hle := h.held_le m
    change _ ∧ (locks.count m).toNat - b.held m = (b.locks.count m).toNat - b.held m + _
    omega
  refine ⟨_, hrun, ⟨⟨h.asleep, fun m => (hothers m).1, fun m => ?_⟩, h.firmware, h.settings,
    h.unconfigured⟩, fun m => ?_⟩
  · rw [(hothers m).2]
    split
    · next hm =>
      rw [hm]
      exact hroom
    · exact h.others_le m
  · rw [(hothers m).2]
    simp [BoardEvent.locks, BoardEvent.unlocks, eq_comm]

/-- Another driver unlocks a mode. -/
theorem Inv.unlock (h : b.Inv) {mode : SleepmgrMode} (hheld : 0 < b.others mode) :
    b.Books (.unlock mode) := by
  have hpos : 0 < (b.locks.count mode).toNat := by
    have hle := h.count_others mode
    omega
  obtain ⟨locks, hrun, hcount⟩ := unlockMode_ok hpos
  have hothers (m : SleepmgrMode) : b.held m ≤ (locks.count m).toNat ∧
      { b with locks := locks }.others m + (if m = mode then 1 else 0) = b.others m := by
    have hm := hcount m
    have hle := h.count_others m
    change _ ∧ (locks.count m).toNat - b.held m + _ = _
    split at hm
    · next heq =>
      subst heq
      rw [if_pos rfl]
      omega
    · next hne =>
      rw [if_neg hne]
      omega
  refine ⟨_, hrun, ⟨⟨h.asleep, fun m => (hothers m).1, fun m => ?_⟩, h.firmware, h.settings,
    h.unconfigured⟩, fun m => ?_⟩
  · have hle := h.others_le m
    have hm := (hothers m).2
    omega
  · have hm := (hothers m).2
    simp only [BoardEvent.locks, BoardEvent.unlocks, decide_eq_true_eq, Bool.false_eq_true, if_false,
      eq_comm (a := mode)]
    exact hm

/-- **The step lemma** -/
theorem Inv.step (h : b.Inv) {e : BoardEvent} (hlegal : b.Legal e) : b.Books e := by
  cases e with
  | bus e => exact h.bus hlegal.1 hlegal.2
  | suspend =>
    obtain ⟨b', hrun, hsame, hon, _, hbalanced⟩ := h.toLocksInv.sleepMode false
    exact h.drives hrun hlegal hsame hon hbalanced fun _ => ⟨rfl, rfl⟩
  | resume =>
    obtain ⟨b', hrun, hsame, hon, _, hbalanced⟩ := h.toLocksInv.sleepMode true
    exact h.drives hrun hlegal hsame hon hbalanced fun _ => ⟨rfl, rfl⟩
  | attach =>
    obtain ⟨b', hrun, hsame, hon, _, hbalanced⟩ := h.toLocksInv.attach
    exact h.drives hrun hlegal hsame hon hbalanced fun _ => ⟨rfl, rfl⟩
  | detach => exact h.drives rfl hlegal rfl rfl ⟨fun _ => rfl⟩ fun _ => ⟨rfl, rfl⟩
  | remotewakeup =>
    obtain ⟨b', hrun, hsame, hon, _, hbalanced⟩ := h.toLocksInv.remotewakeup
    exact h.drives hrun hlegal hsame hon hbalanced fun _ => ⟨rfl, rfl⟩
  | start => exact h.start hlegal
  | stop => exact h.stop hlegal
  | lock mode => exact h.lock hlegal
  | unlock mode => exact h.unlock hlegal

/-- What the firmware does in a run without restarts -/
theorem run_firmware {es : List BoardEvent} (hruns : ∀ e ∈ es, e.restarts = false) {b' : Board}
    (hrun : machine.run b es = .ok b') :
    device.run b.firmware (es.filterMap BoardEvent.onBus) = .ok b'.firmware := by
  induction es generalizing b with
  | nil =>
    obtain rfl : b = b' := by simpa using hrun
    rfl
  | cons e es ih =>
    obtain ⟨b₁, hstep, hrest⟩ := Machine.run_cons_eq_ok hrun
    have hfirst := step_firmware hstep (hruns e List.mem_cons_self)
    have hsplit : (e :: es).filterMap BoardEvent.onBus =
        e.onBus.toList ++ es.filterMap BoardEvent.onBus := by
      rw [List.filterMap_cons]
      cases e.onBus <;> rfl
    rw [hsplit, Machine.run_append hfirst]
    exact ih (fun e' he' => hruns e' (List.mem_cons_of_mem e he')) hrest

/-- No event the driver allows makes it fail. -/
theorem machine_sound : machine.Sound Legal Inv := by
  intro b e h hlegal
  obtain ⟨b', hstep, hinv, _⟩ := h.step hlegal
  exact ⟨b', hstep, hinv⟩

/-- What is left of other drivers' locks after a run -/
theorem Inv.others_run (h : b.Inv) {es : List BoardEvent} (hadm : machine.Admits Legal b es)
    {b' : Board} (hrun : machine.run b es = .ok b') (mode : SleepmgrMode) :
    b'.others mode + es.countP (BoardEvent.unlocks mode) =
      b.others mode + es.countP (BoardEvent.locks mode) := by
  refine machine_sound.balance (μ := fun b => b.others mode) (fun b e b' hb hlegal hstep => ?_) h hadm
    hrun
  obtain ⟨b'', hstep', _, hothers⟩ := hb.step hlegal
  obtain rfl : b' = b'' := Except.ok.inj (hstep.symm.trans hstep')
  exact hothers mode

end Board

/-! ## Runs -/

open Board

/-- The bus is suspended and resumed, the driver is restarted, and another driver keeps the
processor awake meanwhile. -/
def restarted : List BoardEvent :=
  [.start, .suspend, .lock .idle, .resume, .stop, .unlock .idle, .start, .suspend]

/-- **Accounting.** However often the driver is started and stopped, the bus suspended and
resumed and the sleep manager used by others, no function hangs, and every mode is locked as
often as the driver holds it and as others have locked it and not unlocked it. -/
theorem board_locks {es : List BoardEvent} (hadm : machine.Admits Legal boot es) :
    ∃ b, machine.run boot es = .ok b ∧ ∀ mode,
      (b.locks.count mode).toNat + es.countP (BoardEvent.unlocks mode) =
        b.held mode + es.countP (BoardEvent.locks mode) := by
  obtain ⟨b, hrun, hinv⟩ := machine_sound.run boot_inv hadm
  refine ⟨b, hrun, fun mode => ?_⟩
  have hothers := boot_inv.others_run hadm hrun mode
  rw [hinv.toLocksInv.count_others, Nat.add_assoc, hothers, boot_others, Nat.zero_add]

theorem board_locks_restarted :
    ∃ b, machine.run boot restarted = .ok b ∧ ∀ mode,
      (b.locks.count mode).toNat + restarted.countP (BoardEvent.unlocks mode) =
        b.held mode + restarted.countP (BoardEvent.locks mode) := by
  have hadm : machine.Admits Legal boot restarted := by decide +kernel
  exact board_locks hadm

/-- The modes that are locked after a run: the deepest one; the idle mode, if the bus is in use;
and what others have locked. -/
def lockedModes (es : List BoardEvent) : Set SleepmgrMode :=
  {mode | mode = .pdown ∨ mode = .idle ∧ (es.filterMap BoardEvent.busInUse).getLast? = some true ∨
    es.countP (BoardEvent.unlocks mode) < es.countP (BoardEvent.locks mode)}

/-- **How deep the processor may sleep**: in the shallowest mode that is locked. While the bus is
in use that is the idle mode at most; once it is suspended or the driver stopped, only the other
drivers keep the processor awake. -/
theorem board_sleeps {es : List BoardEvent} (hadm : machine.Admits Legal boot es) :
    ∃ b m, machine.run boot es = .ok b ∧ sleepmgrGetSleepMode b.locks = .ok m ∧
      IsLeast (lockedModes es) m := by
  obtain ⟨b, hrun, hinv⟩ := machine_sound.run boot_inv hadm
  have hidle : b.uddBIdle = (es.filterMap BoardEvent.busInUse).getLast?.getD false :=
    Machine.get_run (g := Board.uddBIdle) (fun _ _ _ h => step_uddBIdle h) hrun
  have hlocked (mode : SleepmgrMode) :
      0 < (b.locks.count mode).toNat ↔ mode ∈ lockedModes es := by
    have hcount := hinv.toLocksInv.count_others mode
    have hothers := boot_inv.others_run hadm hrun mode
    rw [boot_others, Nat.zero_add] at hothers
    have hheld := b.held_pos mode
    rw [hidle, Option.getD_eq_iff] at hheld
    simp only [Bool.false_eq_true, and_false, or_false] at hheld
    rw [hcount, Nat.add_pos_iff_pos_or_pos, hheld, or_assoc]
    have hdiff : 0 < b.others mode ↔
        es.countP (BoardEvent.unlocks mode) < es.countP (BoardEvent.locks mode) := by omega
    rw [hdiff]
    rfl
  obtain ⟨m, hm, hleast⟩ := sleepmgrGetSleepMode_ok ((hlocked .pdown).mpr (Or.inl rfl))
  have hset : {mode | 0 < (b.locks.count mode).toNat} = lockedModes es := Set.ext hlocked
  exact ⟨b, m, hrun, hm, hset ▸ hleast⟩

theorem board_sleeps_restarted :
    ∃ b, machine.run boot restarted = .ok b ∧ sleepmgrGetSleepMode b.locks = .ok .pdown ∧
      IsLeast (lockedModes restarted) .pdown := by
  have hadm : machine.Admits Legal boot restarted := by decide +kernel
  obtain ⟨b, m, hrun, hm, hleast⟩ := board_sleeps hadm
  have hlocked : m = .pdown ∨ m = .idle ∧
      (restarted.filterMap BoardEvent.busInUse).getLast? = some true ∨
      restarted.countP (BoardEvent.unlocks m) < restarted.countP (BoardEvent.locks m) := hleast.1
  obtain rfl : m = .pdown := by
    revert hlocked
    cases m <;> decide
  exact ⟨b, hrun, hm, hleast⟩

/-- **Restarting works.** Whatever has happened to a device that is running now, be it stopped
and started again, a host that resets the bus, gives it an address and selects the
configuration finds it as new; the bus may be suspended meanwhile, and the reports go on. -/
theorem board_reenumerates {es es' : List BoardEvent}
    (hadm : machine.Admits Legal boot (es ++ es')) {b : Board} (hrun : machine.run boot es = .ok b)
    (hruns : ∀ e ∈ es', e.restarts = false) {a : Byte} (ha : a ≠ 0) (ha' : a < 128)
    (hes : (es'.filterMap BoardEvent.onBus).filter (fun e => !e.isReport) = enumerating a) :
    ∃ b', machine.run boot (es ++ es') = .ok b' ∧
      ctrlPackets b.firmware (es'.filterMap BoardEvent.onBus) = [[], []] ∧
      b'.firmware.controlPipe = idleAt a ∧ b'.firmware.Holds configured ∧
      b'.firmware.mainBGenericEnable = true ∧
      uddEndpointIsEnable (b'.firmware.ctrl epInCtrl) = true := by
  obtain ⟨b', hrun', _⟩ := machine_sound.run boot_inv hadm
  have hinv : b.Inv := by
    obtain ⟨b'', hrun'', hinv⟩ := machine_sound.run boot_inv hadm.left
    obtain rfl : b = b'' := Except.ok.inj (hrun.symm.trans hrun'')
    exact hinv
  obtain ⟨c, hc⟩ := hinv.settings
  obtain ⟨s', hs', hend⟩ := enumerates hinv.firmware hc ha ha' hes
  rw [Machine.run_append hrun] at hrun'
  have hsame := run_firmware hruns hrun'
  obtain rfl : s' = b'.firmware := Except.ok.inj (hs'.symm.trans hsame)
  exact ⟨b', (Machine.run_append hrun).trans hrun', hend⟩

/-- The device is stopped while a report is in flight, and started again. -/
def interrupted : List BoardEvent :=
  .start :: (enumeration ++ [touchLeft]).map .bus ++ [.suspend, .resume, .stop, .start]

/-- It is enumerated again; the bus is suspended in the middle. -/
def enumeratedAgain : List BoardEvent :=
  [.bus .reset, .bus (.setup (setAddress 7)), .bus .ctrlIn, .suspend, .resume,
    .bus (.setup setConfiguration), .bus touchLeft, .bus .ctrlIn]

theorem board_reenumerates_interrupted :
    ∃ b b', machine.run boot interrupted = .ok b ∧
      machine.run boot (interrupted ++ enumeratedAgain) = .ok b' ∧
      b'.firmware.controlPipe = idleAt 7 ∧ b'.firmware.Holds configured ∧
      b'.firmware.mainBGenericEnable = true := by
  have hadm : machine.Admits Legal boot (interrupted ++ enumeratedAgain) := by decide +kernel
  obtain ⟨b, hrun, _⟩ := machine_sound.run boot_inv hadm.left
  have hruns : ∀ e ∈ enumeratedAgain, e.restarts = false := by
    intro e he
    simp only [enumeratedAgain, List.mem_cons, List.not_mem_nil, or_false] at he
    rcases he with rfl | rfl | rfl | rfl | rfl | rfl | rfl | rfl <;> rfl
  obtain ⟨b', hrun', _, hpipe, hholds, henable, _⟩ := board_reenumerates hadm hrun hruns
    (by decide : (7 : Byte) ≠ 0) (by decide : (7 : Byte) < 128) rfl
  exact ⟨b, b', hrun, hrun', hpipe, hholds, henable⟩

end HidJoystick
