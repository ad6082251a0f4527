import HidJoystick.Reachable

/-!
# The LEDs in test mode

In test mode the two sliders compete for one row of LEDs. `jstk_readMask` gives it to the
slider moved further, measured from pad 5 (`winner`), and `joystick` rewrites the display
unless the mask is empty.

* An untouched slider counts as not moved, and wins against one touched at pad 5; then
  the display is not rewritten although something is touched — `display_tracks_iff`.
* The bars are symmetric about the gap between pads 5 and 6, the distances are not —
  `display_mirrored_iff`.
-/

namespace HidJoystick

/-! ## Ticks of the display -/

/-- `joystick` again and again, with one reading of each port a tick. -/
def ticks : Machine Firmware Readings Fault where
  step s r := joystick (.still r) s

/-- The LEDs that are lit, bit `n - 1` for LED `n`. -/
def Firmware.lit (s : Firmware) : Byte := ~~~s.portAOut

/-- The test switch is open. -/
def Readings.normal (r : Readings) : Bool := (Tick.still r).normal

/-- How far a slider counts as moved. -/
def padDistance : Option (Fin 12) → ℕ
  | some i => ((i.val : ℤ) - 5).natAbs
  | none => 0

/-- The pad whose bar is shown: the vertical slider's, unless the horizontal one is moved
further. -/
def winner (v h : Option (Fin 12)) : Option (Fin 12) :=
  if padDistance h ≤ padDistance v then v else h

/-- The LEDs lit after a tick that found those of `lit` lit. -/
def litAfter (r : Readings) (lit : Byte) : Byte :=
  if r.normal then 0
  else
    match winner r.vertPad r.horiPad with
    | some i => jstkLedMask i
    | none => lit

theorem padIndex_some (i : Fin 12) : padIndex (some i) = i := rfl

theorem padDistance_eq (p : Option (Fin 12)) :
    (if padIndex p < 0 then 0 else if padIndex p > 5 then padIndex p - 5 else 5 - padIndex p) =
      padDistance p := by
  rcases p with _ | i
  · rfl
  · revert i
    decide

/-- `jstk_readMask` in terms of pads. -/
theorem jstkReadMask_eq (r : Readings) :
    jstkReadMask r = jstkLedMask (padIndex (winner r.vertPad r.horiPad)) := by
  simp only [jstkReadMask, jstkReadVertIndex_eq, jstkReadHoriIndex_eq, padDistance_eq, winner,
    ge_iff_le, Int.ofNat_le]
  split
  · next hnone =>
    obtain ⟨hv, hh⟩ := hnone
    rw [(padIndex_neg_iff _).mp hv, (padIndex_neg_iff _).mp hh]
    rfl
  · split <;> rfl

/-- Every pad has a bar. -/
theorem jstkLedMask_ne_zero : ∀ i : Fin 12, jstkLedMask i ≠ 0 := by decide

/-- The lit LEDs after a tick -/
theorem not_displayAfter (r : Readings) (portAOut : Byte) :
    ~~~displayAfter (.still r) portAOut = litAfter r (~~~portAOut) := by
  have hall : portAOut ||| ledMask = BitVec.allOnes 8 := BitVec.or_allOnes
  have hmask := jstkReadMask_eq r
  have hread : (Tick.still r).readMask = r := rfl
  -- all LEDs go off first in the normal mode, and before another bar is drawn
  rw [displayAfter, litAfter, hall, hread, hmask, Readings.normal]
  by_cases hnormal : (Tick.still r).normal = true
  · rw [if_pos hnormal, if_pos hnormal]
    decide
  · rw [if_neg hnormal, if_neg hnormal]
    rcases winner r.vertPad r.horiPad with _ | i
    · exact congrArg _ (if_neg (not_not.mpr rfl))
    · rw [padIndex_some, if_pos (jstkLedMask_ne_zero i), BitVec.allOnes_and, BitVec.not_not]

/-- One tick -/
theorem ticks_step (s : Firmware) (r : Readings) :
    ∃ s', ticks.step s r = .ok s' ∧ s'.lit = litAfter r s.lit :=
  ⟨_, joystick_eq (.still r) s, not_displayAfter r s.portAOut⟩

/-- No run of ticks faults, and what is lit at its end can be told from the readings. -/
theorem ticks_run (rs : List Readings) :
    ∀ s, ∃ s', ticks.run s rs = .ok s' ∧ s'.lit = rs.foldl (fun lit r => litAfter r lit) s.lit := by
  induction rs with
  | nil => intro s; exact ⟨s, rfl, rfl⟩
  | cons r rs ih =>
    intro s
    obtain ⟨s₁, hs₁, hlit₁⟩ := ticks_step s r
    obtain ⟨s', hs', hlit'⟩ := ih s₁
    exact ⟨s', (Machine.run_cons_of_ok hs₁).trans hs', by rw [hlit', hlit₁, List.foldl_cons]⟩

theorem lit_ledInit (s : Firmware) : (ledInit s).lit = 0 := by
  have hall : s.portAOut ||| ledMask = BitVec.allOnes 8 := BitVec.or_allOnes
  simp only [Firmware.lit, ledInit, hall]
  decide

/-- The pad whose bar is shown after the ticks `rs`, told from the readings: the winner of the
last tick in test mode that had one, if there was such a tick since the last one in the normal
mode. -/
def shownPad (rs : List Readings) : Option (Fin 12) :=
  rs.foldl (fun shown r => if r.normal then none else (winner r.vertPad r.horiPad).or shown) none

/-- The LEDs of a bar -/
def padBar : Option (Fin 12) → Byte
  | some i => jstkLedMask i
  | none => 0

/-- The two pads in the centre share a bar. -/
theorem padBar_eq_centre_iff {p : Option (Fin 12)} :
    padBar p = jstkLedMask 5 ↔ p = some 5 ∨ p = some 6 := by
  rcases p with _ | i
  · decide
  · revert i
    decide

theorem shownPad_concat (ps : List Readings) (r : Readings) :
    shownPad (ps ++ [r]) =
      if r.normal then none else (winner r.vertPad r.horiPad).or (shownPad ps) := by
  rw [shownPad, List.foldl_append]
  rfl

/-- The bar of the pad shown, from one tick to the next -/
theorem litAfter_padBar (ps : List Readings) (r : Readings) :
    litAfter r (padBar (shownPad ps)) = padBar (shownPad (ps ++ [r])) := by
  rw [litAfter, shownPad_concat]
  split
  · rfl
  · rcases winner r.vertPad r.horiPad with _ | i <;> rfl

/-- What is lit after `led_init` and some ticks is the bar of the pad shown. -/
theorem ticks_run_ledInit (s : Firmware) (rs : List Readings) :
    ∃ s', ticks.run (ledInit s) rs = .ok s' ∧ s'.lit = padBar (shownPad rs) := by
  obtain ⟨s', hs', hlit⟩ := ticks_run rs (ledInit s)
  refine ⟨s', hs', hlit.trans ?_⟩
  rw [lit_ledInit]
  clear hs' hlit
  induction rs using List.reverseRecOn with
  | nil => rfl
  | append_singleton ps r ih =>
    rw [List.foldl_append, ih]
    exact litAfter_padBar ps r

/-! ## Contact -/

/-- A slider is touched. -/
def Readings.touched (r : Readings) : Bool := r.vertPad.isSome || r.horiPad.isSome

/-- The most recent tick in test mode with a slider touched, if there was one since the
last tick in the normal mode. -/
def lastTouch (rs : List Readings) : Option Readings :=
  rs.foldl (fun last r => if r.normal then none else if r.touched then some r else last) none

/-- After the ticks `rs` the display shows the last contact. -/
def Tracks (rs : List Readings) (s : Firmware) : Prop :=
  match lastTouch rs with
  | none => s.lit = 0
  | some r => ∃ i, (r.vertPad = some i ∨ r.horiPad = some i) ∧ s.lit = jstkLedMask i

/-- In test mode, the horizontal slider is touched at pad 5 and the vertical one not at
all. -/
def Missed (r : Readings) : Prop :=
  r.normal = false ∧ r.vertPad = none ∧ padIndex r.horiPad = 5

/-- A tick that shows no pad -/
theorem winner_eq_none_iff {v h : Option (Fin 12)} :
    winner v h = none ↔ v = none ∧ (h = none ∨ padIndex h = 5) := by
  rcases v with _ | v
  · rcases h with _ | h
    · simp [winner]
    · -- an untouched vertical slider counts as not moved, and so does pad 5
      have hzero : padDistance (some h) ≤ padDistance none ↔ padIndex (some h) = 5 := by
        rw [padDistance, padDistance, padIndex_some]
        omega
      rw [winner]
      split
      · next hle => simp [hzero.mp hle]
      · next hgt =>
        have hpad : ¬ padIndex (some h) = 5 := fun h5 => hgt (hzero.mpr h5)
        simp [hpad]
  · rcases h with _ | h
    · simp [winner, padDistance]
    · rw [winner]
      split <;> simp

/-- The winner is one of the two. -/
theorem winner_eq_some {v h : Option (Fin 12)} {i : Fin 12} (hwin : winner v h = some i) :
    v = some i ∨ h = some i := by
  rw [winner] at hwin
  split at hwin
  · exact Or.inl hwin
  · exact Or.inr hwin

theorem litAfter_of_missed {r : Readings} (h : Missed r) (lit : Byte) : litAfter r lit = lit := by
  obtain ⟨htest, hv, hh⟩ := h
  have hnone : winner r.vertPad r.horiPad = none := winner_eq_none_iff.mpr ⟨hv, Or.inr hh⟩
  rw [litAfter, htest, hnone]
  rfl

theorem Missed.touched {r : Readings} (h : Missed r) : r.touched = true := by
  obtain ⟨_, _, hh⟩ := h
  rcases hpad : r.horiPad with _ | i
  · rw [hpad] at hh
    cases hh
  · simp [Readings.touched, hpad]

theorem lastTouch_concat (ps : List Readings) (r : Readings) :
    lastTouch (ps ++ [r]) =
      if r.normal then none else if r.touched then some r else lastTouch ps := by
  rw [lastTouch, List.foldl_append]
  rfl

/-- One more tick, unless it misses a contact. -/
theorem Tracks.concat {ps : List Readings} {r : Readings} {s s' : Firmware} (h : Tracks ps s)
    (hlit : s'.lit = litAfter r s.lit) (hbar : Missed r → s.lit = jstkLedMask 5) :
    Tracks (ps ++ [r]) s' := by
  rw [Tracks, lastTouch_concat, hlit]
  by_cases hnormal : r.normal = true
  · rw [if_pos hnormal, litAfter, if_pos hnormal]
  · rw [if_neg hnormal]
    have hafter : litAfter r s.lit =
        match winner r.vertPad r.horiPad with
        | some i => jstkLedMask i
        | none => s.lit := if_neg hnormal
    rcases hwin : winner r.vertPad r.horiPad with _ | i
    · obtain ⟨hv, hh⟩ := winner_eq_none_iff.mp hwin
      rw [hwin] at hafter
      rcases hpad : r.horiPad with _ | i
      · -- no contact, and the display stays
        have huntouched : ¬ r.touched = true := by simp [Readings.touched, hv, hpad]
        rw [if_neg huntouched, hafter]
        exact h
      · -- the contact is missed, but its bar is there already
        have hfive : padIndex r.horiPad = 5 := hh.resolve_left (by simp [hpad])
        have hmissed : Missed r := ⟨Bool.eq_false_of_not_eq_true hnormal, hv, hfive⟩
        rw [if_pos hmissed.touched]
        refine ⟨i, Or.inr hpad, hafter.trans ((hbar hmissed).trans ?_)⟩
        rw [← hfive, hpad, padIndex_some]
    · -- the winner's bar is drawn
      have htouched : r.touched = true := by
        rcases winner_eq_some hwin with hv | hh
        · simp [Readings.touched, hv]
        · simp [Readings.touched, hh]
      rw [hwin] at hafter
      rw [if_pos htouched]
      exact ⟨i, winner_eq_some hwin, hafter⟩

/-- **The display tracks contact** in a run of ticks exactly if the bar of every contact that is
missed is there already: the pad shown last is one of the two in the centre. -/
theorem display_tracks_iff (s : Firmware) (rs : List Readings) :
    (∀ ps, ps <+: rs → ∃ s', ticks.run (ledInit s) ps = .ok s' ∧ Tracks ps s') ↔
      ∀ ps r, ps ++ [r] <+: rs → Missed r → shownPad ps = some 5 ∨ shownPad ps = some 6 := by
  have hstep (ps : List Readings) (r : Readings) : ∃ u u', ticks.run (ledInit s) ps = .ok u ∧
      ticks.run (ledInit s) (ps ++ [r]) = .ok u' ∧ u.lit = padBar (shownPad ps) ∧
        u'.lit = litAfter r u.lit := by
    obtain ⟨u, hu, hshown⟩ := ticks_run_ledInit s ps
    obtain ⟨u', hu', hlit⟩ := ticks_step u r
    exact ⟨u, u', hu, (Machine.run_append hu).trans (Machine.run_cons_of_ok hu'), hshown, hlit⟩
  constructor
  · -- a missed contact leaves the display, and the bar it should show is there
    intro htracks ps r hps hmissed
    obtain ⟨u, u', hu, hu', hshown, hlit⟩ := hstep ps r
    obtain ⟨v, hv, htrack⟩ := htracks (ps ++ [r]) hps
    obtain rfl : u' = v := Except.ok.inj (hu'.symm.trans hv)
    obtain ⟨htest, hvert, hfive⟩ := hmissed
    rw [Tracks, lastTouch_concat, htest, if_neg Bool.false_ne_true,
      if_pos (Missed.touched ⟨htest, hvert, hfive⟩)] at htrack
    obtain ⟨i, hi, hbar⟩ := htrack
    rw [hlit, litAfter_of_missed ⟨htest, hvert, hfive⟩, hshown] at hbar
    rcases hi with hi | hi
    · rw [hvert] at hi
      cases hi
    · rw [hi, padIndex_some] at hfive
      obtain rfl : i = 5 := Fin.ext (by exact_mod_cast hfive)
      exact padBar_eq_centre_iff.mp hbar
  · -- induction on the ticks so far, the last one outermost
    intro hbar ps
    induction ps using List.reverseRecOn with
    | nil => exact fun _ => ⟨ledInit s, rfl, lit_ledInit s⟩
    | append_singleton ps r ih =>
      intro hps
      obtain ⟨u, u', hu, hu', hshown, hlit⟩ := hstep ps r
      obtain ⟨v, hv, htrack⟩ := ih ((List.prefix_append ps [r]).trans hps)
      obtain rfl : u = v := Except.ok.inj (hu.symm.trans hv)
      refine ⟨u', hu', htrack.concat hlit fun hmissed => ?_⟩
      rw [hshown]
      exact padBar_eq_centre_iff.mpr (hbar ps r hps hmissed)

/-- In test mode, pad 5 of the horizontal slider alone. -/
def touchCentre : Readings := { portB := 0xEF, portC := 0xFF, portD := 0xFF, portE := 0xDF }

/-- Right after `led_init` the contact leaves the display dark. -/
theorem touchCentre_dark :
    ¬ ∀ s rs ps, ps <+: rs → ∃ s', ticks.run (ledInit s) ps = .ok s' ∧ Tracks ps s' := by
  intro hall
  obtain ⟨s', hs', i, _, hbar⟩ := hall Firmware.powerOn [touchCentre] [touchCentre] List.prefix_rfl
  cases hs'
  exact jstkLedMask_ne_zero i (hbar.symm.trans (by decide +kernel))

/-! ## Mirror images -/

/-- On each slider one pad alone reads low, in test mode. -/
structure OneTouch (r : Readings) (v h : Fin 12) : Prop where
  test : r.normal = false
  vert : ∀ i, r.vertLow i = decide (i = v)
  hori : ∀ i, r.horiLow i = decide (i = h)

/-- The pads of the second reading mirror those of the first. -/
def Mirrored (r r' : Readings) : Prop := ∃ v h, OneTouch r v h ∧ OneTouch r' v.rev h.rev

/-- The pads lie on different sides of the centre and are so nearly equally far from it
that pad 5 and pad 6 do not agree which is further; and they are not both in the
centre. -/
def Unfair (v h : Fin 12) : Prop :=
  (v.val ≤ 5 ∧ 6 ≤ h.val ∧ (v.val + h.val = 11 ∨ v.val + h.val = 12) ∨
    h.val ≤ 5 ∧ 6 ≤ v.val ∧ (v.val + h.val = 10 ∨ v.val + h.val = 11)) ∧
  ¬ (v.val ∈ [5, 6] ∧ h.val ∈ [5, 6])

instance (v h : Fin 12) : Decidable (Unfair v h) := inferInstanceAs (Decidable (_ ∧ _))

theorem lowestLow_of_only {low : Fin 12 → Bool} {v : Fin 12} (h : ∀ i, low i = decide (i = v)) :
    lowestLow low = some v := by
  obtain rfl : low = fun i => decide (i = v) := funext h
  revert v
  decide

theorem OneTouch.vertPad {r : Readings} {v h : Fin 12} (ht : OneTouch r v h) : r.vertPad = some v :=
  lowestLow_of_only ht.vert

theorem OneTouch.horiPad {r : Readings} {v h : Fin 12} (ht : OneTouch r v h) : r.horiPad = some h :=
  lowestLow_of_only ht.hori

/-- The bar shown when both sliders are touched. -/
def bar (v h : Fin 12) : Byte :=
  jstkLedMask (if padDistance (some h) ≤ padDistance (some v) then v else h)

theorem OneTouch.litAfter {r : Readings} {v h : Fin 12} (ht : OneTouch r v h) (lit : Byte) :
    litAfter r lit = bar v h := by
  rw [HidJoystick.litAfter, ht.test, ht.vertPad, ht.horiPad, if_neg Bool.false_ne_true, winner, bar]
  by_cases hfurther : padDistance (some h) ≤ padDistance (some v)
  · rw [if_pos hfurther, if_pos hfurther]
  · rw [if_neg hfurther, if_neg hfurther]

/-- The bars are symmetric. -/
theorem jstkLedMask_rev : ∀ i : Fin 12, jstkLedMask i.rev = (jstkLedMask i).reverse := by decide

/-- Mirrored pads show the mirror image of a bar, of the slider that is further from pad 6. -/
theorem bar_rev (v h : Fin 12) :
    bar v.rev h.rev =
      (jstkLedMask (if padDistance (some h.rev) ≤ padDistance (some v.rev) then v else h)).reverse := by
  rw [bar]
  split
  · exact jstkLedMask_rev v
  · exact jstkLedMask_rev h

/-- Pad 5 and pad 6 agree on the bar exactly if the arbitration is fair. -/
theorem bar_fair_iff : ∀ v h : Fin 12,
    jstkLedMask (if padDistance (some h.rev) ≤ padDistance (some v.rev) then v else h) = bar v h ↔
      ¬ Unfair v h := by
  decide +kernel

/-- Mirrored pads show mirrored bars unless the arbitration is unfair to them. -/
theorem bar_rev_iff (v h : Fin 12) : bar v.rev h.rev = (bar v h).reverse ↔ ¬ Unfair v h := by
  rw [bar_rev, ← bar_fair_iff]
  constructor
  · intro heq
    have hback := congrArg BitVec.reverse heq
    rwa [BitVec.reverse_reverse_eq, BitVec.reverse_reverse_eq] at hback
  · intro heq
    rw [heq]

/-- The LEDs lit after corresponding ticks are mirror images, LED `n` for LED `9 - n`. -/
def DisplayMirrored (t t' : Machine.Transition Firmware Readings) : Prop :=
  t'.post.lit = t.post.lit.reverse

/-- **Mirror symmetry.** In two runs of mirrored ticks in test mode the displays are mirror
images after every tick, exactly if the arbitration is fair to the pads of every tick. -/
theorem display_mirrored_iff {rs rs' : List Readings} (h : List.Forall₂ Mirrored rs rs')
    (s s' : Firmware) :
    (∃ u u', ticks.run (ledInit s) rs = .ok u ∧ ticks.run (ledInit s') rs' = .ok u') ∧
      (List.Forall₂ DisplayMirrored (ticks.transitions (ledInit s) rs)
          (ticks.transitions (ledInit s') rs') ↔
        ∀ r ∈ rs, ∀ v h, r.vertPad = some v → r.horiPad = some h → ¬ Unfair v h) := by
  refine ⟨?_, ?_⟩
  · obtain ⟨u, hu, _⟩ := ticks_run rs (ledInit s)
    obtain ⟨u', hu', _⟩ := ticks_run rs' (ledInit s')
    exact ⟨u, u', hu, hu'⟩
  -- what is lit before a tick with both sliders touched does not matter
  generalize ledInit s = a
  generalize ledInit s' = a'
  induction h generalizing a a' with
  | nil => simp
  | cons hmirrored _ ih =>
    obtain ⟨v, h, ht, ht'⟩ := hmirrored
    obtain ⟨b, hb, hlit⟩ := ticks_step a _
    obtain ⟨b', hb', hlit'⟩ := ticks_step a' _
    rw [Machine.transitions_cons_of_ok hb, Machine.transitions_cons_of_ok hb', List.forall₂_cons,
      List.forall_mem_cons, ih b b', DisplayMirrored, hlit, hlit', ht.litAfter, ht'.litAfter,
      bar_rev_iff, ht.vertPad, ht.horiPad]
    simp

/-- Vertical pad 0 and horizontal pad 11 -/
def touchCorner : Readings := { portB := 0xE7, portC := 0xFB, portD := 0xFF, portE := 0xFF }

/-- Vertical pad 11 and horizontal pad 0 -/
def touchMirrorCorner : Readings := { portB := 0xEF, portC := 0xFF, portD := 0xDF, portE := 0xFE }

theorem mirrored_touchCorner : Mirrored touchCorner touchMirrorCorner :=
  ⟨0, 11, ⟨rfl, by decide, by decide⟩, ⟨rfl, by decide, by decide⟩⟩

theorem display_mirrored_touchCorner :
    (∃ u u', ticks.run (ledInit Firmware.powerOn) [touchCorner] = .ok u ∧
        ticks.run (ledInit Firmware.powerOn) [touchMirrorCorner] = .ok u') ∧
      (List.Forall₂ DisplayMirrored (ticks.transitions (ledInit Firmware.powerOn) [touchCorner])
          (ticks.transitions (ledInit Firmware.powerOn) [touchMirrorCorner]) ↔
        ∀ r ∈ [touchCorner], ∀ v h, r.vertPad = some v → r.horiPad = some h → ¬ Unfair v h) :=
  display_mirrored_iff (.cons mirrored_touchCorner .nil) Firmware.powerOn Firmware.powerOn

/-- The same slider wins on both sides. -/
theorem touchCorner_not_mirrored :
    ¬ ∀ s s' rs rs', List.Forall₂ Mirrored rs rs' →
      List.Forall₂ DisplayMirrored (ticks.transitions (ledInit s) rs)
        (ticks.transitions (ledInit s') rs') := by
  intro hall
  have h := hall Firmware.powerOn Firmware.powerOn _ _ (.cons mirrored_touchCorner .nil)
  obtain ⟨hlit, _⟩ := List.forall₂_cons.mp h
  revert hlit
  rw [DisplayMirrored]
  decide +kernel

end HidJoystick
