import HidJoystick.Device
import HidJoystick.Sleepmgr

/-!
# The board

The driver is started and stopped, the bus is suspended and resumed, and other drivers use the
sleep manager, too. `Board` is the firmware with what these functions share: the counts of the
sleep manager, what the driver holds of them, and the registers of the controller.

* `Board.machine` — the board as a machine.
* `Board.LocksInv` — the invariant of the locks, and what each function of the driver does to
  them.
* `Board.step_uddBIdle`, `Board.step_firmware` — what an event does to the flag of the driver and
  to the firmware.
-/

namespace HidJoystick

/-- The firmware, the sleep manager and the registers of the controller. -/
structure Board where
  firmware : Firmware
  /-- `sleepmgr_locks` -/
  locks : SleepLocks
  /-- `udd_b_idle` -/
  uddBIdle : Bool
  /-- `USB_ENABLE_bm` -/
  enabled : Bool
  /-- `USB_ATTACH_bm` -/
  attached : Bool
  /-- `USB_RWAKEUP_bm` -/
  rwakeup : Bool

/-- What happens to the board. -/
inductive BoardEvent : Type where
  /-- something happens on the bus, and its interrupt runs -/
  | bus : Event → BoardEvent
  /-- the bus is suspended -/
  | suspend : BoardEvent
  /-- the bus is resumed -/
  | resume : BoardEvent
  /-- `udc_attach` -/
  | attach : BoardEvent
  /-- `udc_detach` -/
  | detach : BoardEvent
  /-- `udc_remotewakeup` -/
  | remotewakeup : BoardEvent
  /-- `udc_start` -/
  | start : BoardEvent
  /-- `udc_stop` -/
  | stop : BoardEvent
  /-- another driver locks a sleep mode -/
  | lock : SleepmgrMode → BoardEvent
  /-- another driver unlocks a sleep mode -/
  | unlock : SleepmgrMode → BoardEvent

/-- Another driver locks the mode. -/
def BoardEvent.locks (mode : SleepmgrMode) : BoardEvent → Bool
  | .lock k => k = mode
  | _ => false

/-- Another driver unlocks the mode. -/
def BoardEvent.unlocks (mode : SleepmgrMode) : BoardEvent → Bool
  | .unlock k => k = mode
  | _ => false

/-- Whether the bus is in use afterwards -/
def BoardEvent.busInUse : BoardEvent → Option Bool
  | .resume | .attach | .remotewakeup | .start => some true
  | .suspend | .stop => some false
  | .bus _ | .detach | .lock _ | .unlock _ => none

/-- What it is on the bus -/
def BoardEvent.onBus : BoardEvent → Option Event
  | .bus e => some e
  | _ => none

/-- The driver is started or stopped. -/
def BoardEvent.restarts : BoardEvent → Bool
  | .start | .stop => true
  | _ => false

/-- Where the firmware leaves its tables, or the sleep manager does. -/
inductive BoardFault : Type where
  | firmware : Fault → BoardFault
  | sleepmgr : SleepFault → BoardFault

namespace Board

/-! ## The driver -/

/-- `USBC_SLEEP_MODE_USB_IDLE` -/
abbrev usbcSleepModeUsbIdle : SleepmgrMode := .idle

/-- `USBC_SLEEP_MODE_USB_SUSPEND`: the clock of the controller starts fast. -/
abbrev usbcSleepModeUsbSuspend : SleepmgrMode := .pdown

/-- `sleepmgr_lock_mode` -/
def lockMode (mode : SleepmgrMode) (b : Board) : Except BoardFault Board :=
  match sleepmgrLockMode mode b.locks with
  | .ok locks => .ok { b with locks := locks }
  | .error f => .error (.sleepmgr f)

/-- `sleepmgr_unlock_mode` -/
def unlockMode (mode : SleepmgrMode) (b : Board) : Except BoardFault Board :=
  match sleepmgrUnlockMode mode b.locks with
  | .ok locks => .ok { b with locks := locks }
  | .error f => .error (.sleepmgr f)

/-- `udd_sleep_mode` -/
def uddSleepMode (bIdle : Bool) (b : Board) : Except BoardFault Board := do
  let b ← (if !bIdle && b.uddBIdle then b.unlockMode usbcSleepModeUsbIdle else .ok b)
  let b ← (if bIdle && !b.uddBIdle then b.lockMode usbcSleepModeUsbIdle else .ok b)
  return { b with uddBIdle := bIdle }

/-- `udd_attach`. The flags it acknowledges and the interrupts it turns on are not part of the
state: they may always come. -/
def uddAttach (b : Board) : Except BoardFault Board := do
  let b ← b.uddSleepMode true
  return { b with attached := true }

/-- `udd_detach` -/
def uddDetach (b : Board) : Board := { b with attached := false }

/-- What `udd_enable` resets: the control register of every endpoint, and whether it has a job. -/
def resetEndpoints (s : Firmware) : Firmware :=
  { s with
    epCtrl := s.epCtrl.map uddEndpointDisable
    uddEpJob := s.uddEpJob.map fun job => { job with busy := false } }

/-- `udd_enable` -/
def uddEnable (b : Board) : Except BoardFault Board := do
  let b := { b with firmware := resetEndpoints b.firmware, enabled := true, uddBIdle := false }
  let b ← b.lockMode usbcSleepModeUsbSuspend
  b.uddAttach

/-- `udd_disable`. The registers are zeroed. -/
def uddDisable (b : Board) : Except BoardFault Board := do
  let b := { b with attached := false, enabled := false, rwakeup := false }
  let b ← b.uddSleepMode false
  b.unlockMode usbcSleepModeUsbSuspend

/-- `udd_send_remotewakeup` -/
def uddSendRemotewakeup (b : Board) : Except BoardFault Board :=
  if !b.uddBIdle then do
    let b ← b.uddSleepMode true
    return { b with rwakeup := true }
  else .ok b

/-- `udc_stop` -/
def udcStop (b : Board) : Except BoardFault Board := do
  let b ← b.uddDisable
  match udcReset b.firmware with
  | .ok s => return { b with firmware := s }
  | .error f => throw (.firmware f)

/-- The board as a machine -/
def machine : Machine Board BoardEvent BoardFault where
  step b
    | .bus e =>
      match device.step b.firmware e with
      | .ok s => .ok { b with firmware := s }
      | .error f => .error (.firmware f)
    | .suspend => b.uddSleepMode false
    | .resume => b.uddSleepMode true
    | .attach => b.uddAttach
    | .detach => .ok b.uddDetach
    | .remotewakeup => b.uddSendRemotewakeup
    | .start => b.uddEnable
    | .stop => b.udcStop
    | .lock mode => b.lockMode mode
    | .unlock mode => b.unlockMode mode

/-- After `sleepmgr_init`, before `udc_start` -/
def boot : Board where
  firmware := .powerOn
  locks := sleepmgrInit
  uddBIdle := false
  enabled := false
  attached := false
  rwakeup := false

/-! ## What is locked -/

/-- The locks of `sleepmgr_init` and of the driver -/
def held (b : Board) (mode : SleepmgrMode) : ℕ :=
  (if mode = .pdown then 1 else 0) +
    (if mode = usbcSleepModeUsbSuspend ∧ b.enabled = true then 1 else 0) +
    if mode = usbcSleepModeUsbIdle ∧ b.uddBIdle = true then 1 else 0

/-- The locks of other drivers -/
def others (b : Board) (mode : SleepmgrMode) : ℕ := (b.locks.count mode).toNat - b.held mode

/-- The counts cover what is held, and leave room. -/
structure LocksInv (b : Board) : Prop where
  /-- a driver that is not running does not keep the processor awake -/
  asleep : b.enabled = false → b.uddBIdle = false
  held_le (mode : SleepmgrMode) : b.held mode ≤ (b.locks.count mode).toNat
  others_le (mode : SleepmgrMode) : b.others mode ≤ 253

/-! ## The locks of the driver -/

section Locks

variable {b : Board} {mode : SleepmgrMode}

theorem lockMode_ok (h : (b.locks.count mode).toNat < 255) :
    ∃ locks, b.lockMode mode = .ok { b with locks := locks } ∧ ∀ k,
      (locks.count k).toNat = (b.locks.count k).toNat + if k = mode then 1 else 0 := by
  obtain ⟨locks, hlocks, hcount⟩ := sleepmgrLockMode_ok h
  refine ⟨locks, ?_, hcount⟩
  rw [lockMode, hlocks]

theorem unlockMode_ok (h : 0 < (b.locks.count mode).toNat) :
    ∃ locks, b.unlockMode mode = .ok { b with locks := locks } ∧ ∀ k,
      (locks.count k).toNat + (if k = mode then 1 else 0) = (b.locks.count k).toNat := by
  obtain ⟨locks, hlocks, hcount⟩ := sleepmgrUnlockMode_ok h
  refine ⟨locks, ?_, hcount⟩
  rw [unlockMode, hlocks]

/-- **The lock of the idle mode** follows the flag. -/
theorem uddSleepMode_ok (bIdle : Bool)
    (hroom : b.uddBIdle = false → (b.locks.count usbcSleepModeUsbIdle).toNat < 255)
    (hheld : b.uddBIdle = true → 0 < (b.locks.count usbcSleepModeUsbIdle).toNat) :
    ∃ locks, b.uddSleepMode bIdle = .ok { b with locks := locks, uddBIdle := bIdle } ∧ ∀ k,
      (locks.count k).toNat + (if k = usbcSleepModeUsbIdle ∧ b.uddBIdle = true then 1 else 0) =
        (b.locks.count k).toNat + if k = usbcSleepModeUsbIdle ∧ bIdle = true then 1 else 0 := by
  rcases b with ⟨firmware, locks, idle, enabled, attached, rwakeup⟩
  rcases idle with _ | _
  · rcases bIdle with _ | _
    · exact ⟨locks, rfl, fun k => by simp⟩
    · obtain ⟨locks', hlocks, hcount⟩ := lockMode_ok (hroom rfl)
      refine ⟨locks', ?_, fun k => by simpa using hcount k⟩
      rw [uddSleepMode]
      change (lockMode _ _ >>= _) = _
      rw [hlocks]
      rfl
  · rcases bIdle with _ | _
    · obtain ⟨locks', hlocks, hcount⟩ := unlockMode_ok (hheld rfl)
      refine ⟨locks', ?_, fun k => by simpa using hcount k⟩
      rw [uddSleepMode]
      change (unlockMode _ _ >>= _) = _
      rw [hlocks]
      rfl
    · exact ⟨locks, rfl, fun k => by simp⟩

/-- The driver takes and gives back its own locks only. -/
structure Balanced (b b' : Board) : Prop where
  count (mode : SleepmgrMode) : (b'.locks.count mode).toNat + b.held mode =
    (b.locks.count mode).toNat + b'.held mode

theorem Balanced.refl (b : Board) : Balanced b b := ⟨fun _ => rfl⟩

theorem Balanced.trans {b' b'' : Board} (h : Balanced b b') (h' : Balanced b' b'') :
    Balanced b b'' := by
  refine ⟨fun m => ?_⟩
  have hfirst := h.count m
  have hsecond := h'.count m
  omega

theorem Balanced.others {b' : Board} (h : Balanced b b') (m : SleepmgrMode) :
    b'.others m = b.others m := by
  have hcount := h.count m
  rw [Board.others, Board.others]
  omega

theorem LocksInv.of_balanced {b' : Board} (hb : b.LocksInv) (h : Balanced b b')
    (hasleep : b'.enabled = false → b'.uddBIdle = false) : b'.LocksInv := by
  refine ⟨hasleep, fun m => ?_, fun m => ?_⟩
  · have hcount := h.count m
    have hle := hb.held_le m
    omega
  · rw [h.others]
    exact hb.others_le m

theorem LocksInv.count_le (h : b.LocksInv) (m : SleepmgrMode) :
    (b.locks.count m).toNat ≤ 253 + b.held m := by
  have hothers := h.others_le m
  rw [others] at hothers
  omega

theorem LocksInv.count_others (h : b.LocksInv) (m : SleepmgrMode) :
    (b.locks.count m).toNat = b.held m + b.others m := by
  have hle := h.held_le m
  rw [others]
  omega

theorem held_le_two (b : Board) (m : SleepmgrMode) : b.held m ≤ 2 := by
  cases m <;> simp [held] <;> split <;> decide

/-- Which modes are held -/
theorem held_pos (b : Board) (m : SleepmgrMode) :
    0 < b.held m ↔ m = .pdown ∨ m = .idle ∧ b.uddBIdle = true := by
  cases m with
  | idle => rcases hidle : b.uddBIdle with _ | _ <;> simp [held, hidle]
  | pdown =>
    have hpos : 0 < b.held .pdown := by
      rw [held, if_pos rfl]
      omega
    exact iff_of_true hpos (.inl rfl)
  | active | estdby | psave | stdby => simp [held]

/-- `udd_sleep_mode` -/
theorem LocksInv.sleepMode (h : b.LocksInv) (bIdle : Bool) :
    ∃ b', b.uddSleepMode bIdle = .ok b' ∧ b'.firmware = b.firmware ∧ b'.enabled = b.enabled ∧
      b'.uddBIdle = bIdle ∧ Balanced b b' := by
  have hle := h.count_le usbcSleepModeUsbIdle
  have hge := h.held_le usbcSleepModeUsbIdle
  obtain ⟨locks, hrun, hcount⟩ := uddSleepMode_ok (b := b) bIdle
    (fun hidle => by
      simp [held, hidle] at hle
      omega)
    (fun hidle => by
      simp [held, hidle] at hge
      omega)
  refine ⟨_, hrun, rfl, rfl, rfl, ⟨fun m => ?_⟩⟩
  have hm := hcount m
  simp only [held] at hm ⊢
  omega

/-- `udd_attach` -/
theorem LocksInv.attach (h : b.LocksInv) :
    ∃ b', b.uddAttach = .ok b' ∧ b'.firmware = b.firmware ∧ b'.enabled = b.enabled ∧
      b'.uddBIdle = true ∧ Balanced b b' := by
  obtain ⟨b', hrun, hfirmware, henabled, hidle, hbalanced⟩ := h.sleepMode true
  refine ⟨{ b' with attached := true }, ?_, hfirmware, henabled, hidle, ⟨hbalanced.count⟩⟩
  rw [uddAttach, hrun]
  rfl

/-- `udd_send_remotewakeup` -/
theorem LocksInv.remotewakeup (h : b.LocksInv) :
    ∃ b', b.uddSendRemotewakeup = .ok b' ∧ b'.firmware = b.firmware ∧ b'.enabled = b.enabled ∧
      b'.uddBIdle = true ∧ Balanced b b' := by
  rcases hidle : b.uddBIdle with _ | _
  · obtain ⟨b', hrun, hfirmware, henabled, hidle', hbalanced⟩ := h.sleepMode true
    refine ⟨{ b' with rwakeup := true }, ?_, hfirmware, henabled, hidle', ⟨hbalanced.count⟩⟩
    rw [uddSendRemotewakeup, hidle, hrun]
    rfl
  · refine ⟨b, ?_, rfl, rfl, hidle, .refl b⟩
    rw [uddSendRemotewakeup, hidle]
    rfl

/-- `udd_enable` -/
theorem LocksInv.enable (h : b.LocksInv) (hstopped : b.enabled = false) :
    ∃ b', b.uddEnable = .ok b' ∧ b'.firmware = resetEndpoints b.firmware ∧ b'.enabled = true ∧
      b'.uddBIdle = true ∧ Balanced b b' := by
  have hidle := h.asleep hstopped
  have hle := h.count_le usbcSleepModeUsbSuspend
  have hroom : (b.locks.count usbcSleepModeUsbSuspend).toNat < 255 := by
    simp [held, hstopped] at hle
    omega
  let running : Board :=
    { b with firmware := resetEndpoints b.firmware, enabled := true, uddBIdle := false }
  obtain ⟨locks, hlock, hcount⟩ := lockMode_ok (b := running) hroom
  have hbalanced : Balanced b { running with locks := locks } := by
    refine ⟨fun m => ?_⟩
    have hm : (locks.count m).toNat = (b.locks.count m).toNat +
      if m = usbcSleepModeUsbSuspend then 1 else 0 := hcount m
    simp only [held, hstopped, hidle, running] at hm ⊢
    simp
    omega
  have hinv := h.of_balanced hbalanced nofun
  obtain ⟨b', hrun, hfirmware, henabled, hidle', hbalanced'⟩ := hinv.attach
  refine ⟨b', ?_, hfirmware, henabled, hidle', hbalanced.trans hbalanced'⟩
  rw [uddEnable]
  change (running.lockMode usbcSleepModeUsbSuspend >>= uddAttach) = _
  rw [hlock]
  exact hrun

/-- `udd_disable` -/
theorem LocksInv.disable (h : b.LocksInv) (hrunning : b.enabled = true) :
    ∃ b', b.uddDisable = .ok b' ∧ b'.firmware = b.firmware ∧ b'.enabled = false ∧
      b'.uddBIdle = false ∧ Balanced b b' := by
  let off : Board := { b with attached := false, enabled := false, rwakeup := false }
  have hge := h.held_le usbcSleepModeUsbIdle
  have hle := h.count_le usbcSleepModeUsbIdle
  obtain ⟨locks, hsleep, hcount⟩ := uddSleepMode_ok (b := off) false
    (fun hidle => by
      have hidle' : b.uddBIdle = false := hidle
      simp [held, hidle'] at hle
      exact Nat.lt_of_le_of_lt hle (by decide))
    (fun hidle => by
      have hidle' : b.uddBIdle = true := hidle
      simp [held, hidle'] at hge
      exact hge)
  -- two locks of the deepest mode are left
  have hpdown : 2 ≤ (locks.count usbcSleepModeUsbSuspend).toNat := by
    have htwo := h.held_le usbcSleepModeUsbSuspend
    have hsame := hcount usbcSleepModeUsbSuspend
    simp [held, hrunning] at htwo
    simp at hsame
    rw [hsame]
    exact htwo
  let asleep : Board := { off with locks := locks, uddBIdle := false }
  have hpos : 0 < (asleep.locks.count usbcSleepModeUsbSuspend).toNat :=
    Nat.lt_of_lt_of_le (by decide) hpdown
  obtain ⟨locks', hunlock, hcount'⟩ := unlockMode_ok hpos
  refine ⟨{ off with locks := locks', uddBIdle := false }, ?_, rfl, rfl, rfl, ⟨fun m => ?_⟩⟩
  · rw [uddDisable]
    change (off.uddSleepMode false >>= unlockMode usbcSleepModeUsbSuspend) = _
    rw [hsleep]
    exact hunlock
  · have hm := hcount m
    have hm' : (locks'.count m).toNat + (if m = usbcSleepModeUsbSuspend then 1 else 0) =
      (locks.count m).toNat := hcount' m
    simp only [held, hrunning, off] at hm ⊢
    simp at hm ⊢
    omega

end Locks

/-! ## One event -/

section Steps

variable {b : Board}

theorem lockMode_eq_ok {b' : Board} {mode : SleepmgrMode} (h : b.lockMode mode = .ok b') :
    ∃ locks, b' = { b with locks := locks } := by
  rw [lockMode] at h
  split at h
  · next locks _ => exact ⟨locks, (Except.ok.inj h).symm⟩
  · cases h

theorem unlockMode_eq_ok {b' : Board} {mode : SleepmgrMode} (h : b.unlockMode mode = .ok b') :
    ∃ locks, b' = { b with locks := locks } := by
  rw [unlockMode] at h
  split at h
  · next locks _ => exact ⟨locks, (Except.ok.inj h).symm⟩
  · cases h

theorem uddSleepMode_eq_ok {b' : Board} {bIdle : Bool} (h : b.uddSleepMode bIdle = .ok b') :
    ∃ locks, b' = { b with locks := locks, uddBIdle := bIdle } := by
  rw [uddSleepMode] at h
  obtain ⟨b₁, hunlock, h⟩ := Except.bind_eq_ok h
  obtain ⟨b₂, hlock, h⟩ := Except.bind_eq_ok h
  obtain ⟨locks₁, rfl⟩ : ∃ locks, b₁ = { b with locks := locks } := by
    split at hunlock
    · exact unlockMode_eq_ok hunlock
    · exact ⟨b.locks, (Except.ok.inj hunlock).symm⟩
  obtain ⟨locks₂, rfl⟩ : ∃ locks, b₂ = { b with locks := locks } := by
    split at hlock
    · obtain ⟨locks, hlocks⟩ := lockMode_eq_ok hlock
      exact ⟨locks, hlocks⟩
    · exact ⟨locks₁, (Except.ok.inj hlock).symm⟩
  exact ⟨locks₂, (Except.ok.inj h).symm⟩

theorem uddAttach_eq_ok {b' : Board} (h : b.uddAttach = .ok b') :
    ∃ locks, b' = { b with locks := locks, uddBIdle := true, attached := true } := by
  obtain ⟨b₁, hsleep, h⟩ := Except.bind_eq_ok h
  obtain ⟨locks, rfl⟩ := uddSleepMode_eq_ok hsleep
  exact ⟨locks, (Except.ok.inj h).symm⟩

/-- The flag is what the bus has done last. -/
theorem step_uddBIdle {b' : Board} {e : BoardEvent} (h : machine.step b e = .ok b') :
    b'.uddBIdle = e.busInUse.getD b.uddBIdle := by
  cases e with
  | bus e =>
    simp only [machine] at h
    split at h
    · cases h
      rfl
    · cases h
  | suspend | resume =>
    obtain ⟨locks, rfl⟩ := uddSleepMode_eq_ok h
    rfl
  | attach =>
    obtain ⟨locks, rfl⟩ := uddAttach_eq_ok h
    rfl
  | detach =>
    cases h
    rfl
  | remotewakeup =>
    change b.uddSendRemotewakeup = .ok b' at h
    rw [uddSendRemotewakeup] at h
    split at h
    · obtain ⟨b₁, hsleep, h⟩ := Except.bind_eq_ok h
      obtain ⟨locks, rfl⟩ := uddSleepMode_eq_ok hsleep
      cases h
      rfl
    · next hidle =>
      cases h
      exact (by simpa using hidle : b.uddBIdle = true)
  | start =>
    obtain ⟨b₁, _, h⟩ := Except.bind_eq_ok h
    obtain ⟨locks, rfl⟩ := uddAttach_eq_ok h
    rfl
  | stop =>
    obtain ⟨b₁, hdisable, h⟩ := Except.bind_eq_ok h
    obtain ⟨b₂, hsleep, hdisable⟩ := Except.bind_eq_ok hdisable
    obtain ⟨locks, rfl⟩ := uddSleepMode_eq_ok hsleep
    obtain ⟨locks', rfl⟩ := unlockMode_eq_ok hdisable
    split at h
    · cases h
      rfl
    · cases h
  | lock mode =>
    obtain ⟨locks, rfl⟩ := lockMode_eq_ok h
    rfl
  | unlock mode =>
    obtain ⟨locks, rfl⟩ := unlockMode_eq_ok h
    rfl

/-- Between restarts, only the bus reaches the firmware. -/
theorem step_firmware {b' : Board} {e : BoardEvent} (h : machine.step b e = .ok b')
    (hruns : e.restarts = false) :
    device.run b.firmware e.onBus.toList = .ok b'.firmware := by
  cases e with
  | bus e =>
    simp only [machine] at h
    split at h
    · next s hs =>
      cases h
      exact Machine.run_cons_of_ok hs
    · cases h
  | suspend | resume =>
    obtain ⟨locks, rfl⟩ := uddSleepMode_eq_ok h
    rfl
  | attach =>
    obtain ⟨locks, rfl⟩ := uddAttach_eq_ok h
    rfl
  | detach =>
    cases h
    rfl
  | remotewakeup =>
    change b.uddSendRemotewakeup = .ok b' at h
    rw [uddSendRemotewakeup] at h
    split at h
    · obtain ⟨b₁, hsleep, h⟩ := Except.bind_eq_ok h
      obtain ⟨locks, rfl⟩ := uddSleepMode_eq_ok hsleep
      cases h
      rfl
    · cases h
      rfl
  | start | stop => cases hruns
  | lock mode =>
    obtain ⟨locks, rfl⟩ := lockMode_eq_ok h
    rfl
  | unlock mode =>
    obtain ⟨locks, rfl⟩ := unlockMode_eq_ok h
    rfl

end Steps

end Board

end HidJoystick
