import HidJoystick.State
import Mathlib.Order.Bounds.Basic

/-!
# The sleep manager

Drivers lock the sleep modes they cannot do without, and the processor sleeps in the shallowest
mode that is locked. The locks are counted in bytes; `sleepmgr.h` loops forever when a count
would overflow or underflow, and reads past the counts when none is left.

* `sleepmgrLockMode_ok`, `sleepmgrUnlockMode_ok` — what the two do to the counts.
* `sleepmgrGetSleepMode_ok` — the shallowest mode that is locked.
-/

namespace HidJoystick

/-- `enum sleepmgr_mode`, from the shallowest to the deepest -/
inductive SleepmgrMode : Type where
  | active : SleepmgrMode
  | idle : SleepmgrMode
  | estdby : SleepmgrMode
  | psave : SleepmgrMode
  | stdby : SleepmgrMode
  | pdown : SleepmgrMode
  deriving DecidableEq, Repr

namespace SleepmgrMode

/-- The value of the enumerator -/
def index : SleepmgrMode → Fin 6
  | active => 0
  | idle => 1
  | estdby => 2
  | psave => 3
  | stdby => 4
  | pdown => 5

theorem index_injective : Function.Injective index := by
  intro m k h
  cases m <;> cases k <;> first | rfl | cases h

instance : LinearOrder SleepmgrMode := LinearOrder.lift' index index_injective

/-- In the order of their values -/
def all : List SleepmgrMode := [active, idle, estdby, psave, stdby, pdown]

theorem mem_all (m : SleepmgrMode) : m ∈ all := by
  cases m <;> decide

theorem pairwise_all : all.Pairwise (· ≤ ·) := by decide

end SleepmgrMode

/-- Where the sleep manager never returns from, or leaves its table. -/
inductive SleepFault : Type where
  /-- a count would exceed 255 -/
  | overflow (mode : SleepmgrMode) : SleepFault
  /-- a count would go below 0 -/
  | underflow (mode : SleepmgrMode) : SleepFault
  /-- no mode is locked -/
  | scan : SleepFault
  deriving DecidableEq, Repr

/-- `sleepmgr_locks` -/
abbrev SleepLocks : Type := Vector Byte 6

/-- How often a mode is locked -/
def SleepLocks.count (locks : SleepLocks) (mode : SleepmgrMode) : Byte := locks[mode.index]

/-- `sleepmgr_init` -/
def sleepmgrInit : SleepLocks := (Vector.replicate 6 0).set 5 1

/-- `sleepmgr_lock_mode` -/
def sleepmgrLockMode (mode : SleepmgrMode) (locks : SleepLocks) : Except SleepFault SleepLocks :=
  if 0xff ≤ locks.count mode then .error (.overflow mode)
  else .ok (locks.set mode.index (locks.count mode + 1))

/-- `sleepmgr_unlock_mode` -/
def sleepmgrUnlockMode (mode : SleepmgrMode) (locks : SleepLocks) : Except SleepFault SleepLocks :=
  if locks.count mode = 0 then .error (.underflow mode)
  else .ok (locks.set mode.index (locks.count mode - 1))

/-- The loop of `sleepmgr_get_sleep_mode` -/
def sleepmgrScan (locks : SleepLocks) : List SleepmgrMode → Except SleepFault SleepmgrMode
  | [] => .error .scan
  | mode :: rest => if locks.count mode = 0 then sleepmgrScan locks rest else .ok mode

/-- `sleepmgr_get_sleep_mode` -/
def sleepmgrGetSleepMode (locks : SleepLocks) : Except SleepFault SleepmgrMode :=
  sleepmgrScan locks SleepmgrMode.all

section Counts

variable {locks : SleepLocks} {mode : SleepmgrMode}

theorem SleepLocks.count_set (locks : SleepLocks) (mode k : SleepmgrMode) (n : Byte) :
    SleepLocks.count (locks.set mode.index n) k = if k = mode then n else locks.count k := by
  by_cases hk : k = mode
  · subst hk
    simp [SleepLocks.count]
  · have hne : mode.index.val ≠ k.index.val :=
      fun h => hk (SleepmgrMode.index_injective (Fin.ext h)).symm
    simp [SleepLocks.count, hk, hne]

/-- A count below 255 goes up. -/
theorem sleepmgrLockMode_ok (h : (locks.count mode).toNat < 255) :
    ∃ locks', sleepmgrLockMode mode locks = .ok locks' ∧ ∀ k,
      (locks'.count k).toNat = (locks.count k).toNat + if k = mode then 1 else 0 := by
  have hroom : ¬ (0xff : Byte) ≤ locks.count mode := by
    rw [BitVec.le_def]
    exact Nat.not_le_of_lt h
  refine ⟨_, if_neg hroom, fun k => ?_⟩
  rw [SleepLocks.count_set]
  split
  · next hk =>
    rw [hk, BitVec.toNat_add]
    exact Nat.mod_eq_of_lt (by change _ + 1 < 256; omega)
  · rfl

/-- A count above 0 goes down. -/
theorem sleepmgrUnlockMode_ok (h : 0 < (locks.count mode).toNat) :
    ∃ locks', sleepmgrUnlockMode mode locks = .ok locks' ∧ ∀ k,
      (locks'.count k).toNat + (if k = mode then 1 else 0) = (locks.count k).toNat := by
  have hheld : locks.count mode ≠ 0 := by
    intro hzero
    rw [hzero] at h
    exact absurd h (by decide)
  refine ⟨_, if_neg hheld, fun k => ?_⟩
  rw [SleepLocks.count_set]
  split
  · next hk =>
    have hone : (1 : Byte) ≤ locks.count mode := BitVec.le_def.mpr h
    rw [hk, BitVec.toNat_sub_of_le hone]
    exact Nat.sub_add_cancel h
  · rfl

/-- The scan finds the first mode that is locked. -/
theorem sleepmgrScan_ok {modes : List SleepmgrMode} (hsorted : modes.Pairwise (· ≤ ·))
    (h : ∃ k ∈ modes, locks.count k ≠ 0) :
    ∃ m, sleepmgrScan locks modes = .ok m ∧ IsLeast {k | k ∈ modes ∧ locks.count k ≠ 0} m := by
  induction modes with
  | nil =>
    obtain ⟨k, hk, _⟩ := h
    cases hk
  | cons m modes ih =>
    obtain ⟨hfirst, hrest⟩ := List.pairwise_cons.mp hsorted
    rw [sleepmgrScan]
    split
    · next hfree =>
      obtain ⟨k, hk, hheld⟩ := h
      have hk' : k ∈ modes := by
        rcases List.mem_cons.mp hk with rfl | hk
        · exact absurd hfree hheld
        · exact hk
      obtain ⟨m', hm', ⟨hmem, hheld'⟩, hleast⟩ := ih hrest ⟨k, hk', hheld⟩
      refine ⟨m', hm', ⟨List.mem_cons_of_mem m hmem, hheld'⟩, fun j hj => ?_⟩
      rcases List.mem_cons.mp hj.1 with rfl | hj'
      · exact absurd hfree hj.2
      · exact hleast ⟨hj', hj.2⟩
    · next hheld =>
      refine ⟨m, rfl, ⟨List.mem_cons_self, hheld⟩, fun j hj => ?_⟩
      rcases List.mem_cons.mp hj.1 with rfl | hj'
      · exact le_refl _
      · exact hfirst j hj'

/-- **The mode the processor sleeps in** is the shallowest one that is locked. -/
theorem sleepmgrGetSleepMode_ok {k : SleepmgrMode} (h : 0 < (locks.count k).toNat) :
    ∃ m, sleepmgrGetSleepMode locks = .ok m ∧ IsLeast {k | 0 < (locks.count k).toNat} m := by
  have hpos (j : SleepmgrMode) : locks.count j ≠ 0 ↔ 0 < (locks.count j).toNat := by
    rw [Nat.pos_iff_ne_zero, ne_eq, ne_eq, ← BitVec.toNat_inj]
    rfl
  obtain ⟨m, hm, hleast⟩ := sleepmgrScan_ok SleepmgrMode.pairwise_all
    ⟨k, SleepmgrMode.mem_all k, (hpos k).mpr h⟩
  refine ⟨m, hm, ?_⟩
  have hset : {k | k ∈ SleepmgrMode.all ∧ locks.count k ≠ 0} =
      {k | 0 < (locks.count k).toNat} := by
    ext j
    exact ⟨fun hj => (hpos j).mp hj.2, fun hj => ⟨SleepmgrMode.mem_all j, (hpos j).mpr hj⟩⟩
  rwa [hset] at hleast

end Counts

end HidJoystick
