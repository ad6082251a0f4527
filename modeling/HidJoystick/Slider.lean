import Mathlib.Data.List.FinRange
import Mathlib.Data.Fintype.Basic
import Mathlib.Tactic.FinCases

/-!
# The two sliders

The pure half of `joystick.c`: what the two sliders read, which pad counts, and
what that means as an axis value and as a LED mask. Each slider is twelve touch
pads, low when touched, spread over two ports: vertical over C2–C7 and D0–D5,
horizontal over E0–E7 and B0–B3.

The first part follows the source. The second part (`lowestLow`, `sample`) says
the same in terms of pads instead of port words, and connects the two.
-/

namespace HidJoystick

/-- `uint8_t` -/
abbrev Byte : Type := BitVec 8

/-- `uint16_t` -/
abbrev Word : Type := BitVec 16

/-- An IN report: the two bytes of `jstk_usbReport`. -/
structure Report where
  /-- byte 0, the horizontal axis -/
  x : Byte
  /-- byte 1, the vertical axis -/
  y : Byte
  deriving DecidableEq, Repr

/-- The bytes of a report as they lie in memory. -/
def Report.toList (r : Report) : List Byte := [r.x, r.y]

/-- One reading of the `IN` registers of the ports the sliders are wired to. -/
structure Readings where
  /-- `PORTB.IN` -/
  portB : Byte
  /-- `PORTC.IN` -/
  portC : Byte
  /-- `PORTD.IN` -/
  portD : Byte
  /-- `PORTE.IN` -/
  portE : Byte
  deriving DecidableEq, Repr

/-! ## The code -/

/-- `SLIDER_COUNT` -/
def sliderCount : ℕ := 12

/-- The loop of `jstk_scan`, from pad `i` with `n` pads to go. -/
def jstkScanFrom (jstkBits : Word) (i : ℕ) : ℕ → ℤ
  | 0 => -1
  | n + 1 => if jstkBits &&& (1#16 <<< i) = 0#16 then i else jstkScanFrom jstkBits (i + 1) n

/-- `jstk_scan`: the lowest pad that reads low, or `-1`. -/
def jstkScan (jstkBits : Word) : ℤ := jstkScanFrom jstkBits 0 sliderCount

/-- `jstk_readVertRaw`: C2–C7 and D0–D5 as bits 0–11. -/
def jstkReadVertRaw (r : Readings) : Word :=
  let jstkC := r.portC
  let jstkD := r.portD
  let jstkW := (jstkD.setWidth 16 <<< 8) ||| jstkC.setWidth 16
  (jstkW >>> 2) &&& 0x0FFF#16

/-- `jstk_readVertIndex` -/
def jstkReadVertIndex (r : Readings) : ℤ := jstkScan (jstkReadVertRaw r)

/-- `jstk_readHoriRaw`: E0–E7 and B0–B3 as bits 0–11. -/
def jstkReadHoriRaw (r : Readings) : Word :=
  let jstkE := r.portE
  let jstkB := r.portB
  let jstkW := (jstkB.setWidth 16 <<< 8) ||| jstkE.setWidth 16
  jstkW &&& 0x0FFF#16

/-- `jstk_readHoriIndex` -/
def jstkReadHoriIndex (r : Readings) : ℤ := jstkScan (jstkReadHoriRaw r)

/-- `jstk_idx2axis` -/
def jstkIdx2axis : Vector Byte 12 :=
  #v[0, 23, 46, 69, 92, 116, 139, 162, 185, 208, 231, 255]

/-- `jstk_idxToAxis`. Its argument is always a result of `jstk_scan`
(`padIndex_lt`), so the table is never left. -/
def jstkIdxToAxis (idx : ℤ) : Byte :=
  if idx < 0 then 128 else jstkIdx2axis[idx.toNat]?.getD 0

/-- `jstk_ledMask`: the bar of LEDs for a pad, bit `n - 1` for LED `n`. -/
def jstkLedMask (idx : ℤ) : Byte :=
  if idx < 0 then 0
  else if idx = 5 ∨ idx = 6 then (1#8 <<< 3) ||| (1#8 <<< 4)
  else
    let d := if idx < 5 then 5 - idx else idx - 6
    let n := if d < 2 then 2 else d + 1
    let n := if n > 4 then 4 else n
    if idx < 5 then
      (List.range n.toNat).foldl (fun mask i => mask ||| (1#8 <<< (3 - i))) 0
    else
      (List.range n.toNat).foldl (fun mask i => mask ||| (1#8 <<< (4 + i))) 0

/-- `jstk_readMask`: the bar of the slider moved furthest from its pad 5. -/
def jstkReadMask (r : Readings) : Byte :=
  let vi := jstkReadVertIndex r
  let hi := jstkReadHoriIndex r
  if vi < 0 ∧ hi < 0 then 0
  else
    let dV := if vi < 0 then 0 else if vi > 5 then vi - 5 else 5 - vi
    let dH := if hi < 0 then 0 else if hi > 5 then hi - 5 else 5 - hi
    let jstkUse := if dV ≥ dH then vi else hi
    jstkLedMask jstkUse

/-! ## In terms of pads -/

/-- Pad `i` of the vertical slider reads low: C2–C7, then D0–D5. -/
def Readings.vertLow (r : Readings) (i : Fin 12) : Bool :=
  if i.val < 6 then !r.portC.getLsbD (i + 2) else !r.portD.getLsbD (i - 6)

/-- Pad `i` of the horizontal slider reads low: E0–E7, then B0–B3. -/
def Readings.horiLow (r : Readings) (i : Fin 12) : Bool :=
  if i.val < 8 then !r.portE.getLsbD i else !r.portB.getLsbD (i - 8)

/-- The lowest pad that reads low, if the slider is touched at all. -/
def lowestLow (low : Fin 12 → Bool) : Option (Fin 12) := (List.finRange 12).find? low

/-- A slider's pad as the `int8_t` index the code computes with. -/
def padIndex : Option (Fin 12) → ℤ
  | some i => i.val
  | none => -1

/-- A slider's axis value: the table entry of its pad, 128 when untouched. -/
def padAxis : Option (Fin 12) → Byte
  | some i => jstkIdx2axis[i]
  | none => 128

/-- The pad of the vertical slider that counts. -/
def Readings.vertPad (r : Readings) : Option (Fin 12) := lowestLow r.vertLow

/-- The pad of the horizontal slider that counts. -/
def Readings.horiPad (r : Readings) : Option (Fin 12) := lowestLow r.horiLow

/-- The report a reading stands for: X from the horizontal slider, Y from the
vertical one. -/
def sample (r : Readings) : Report := ⟨padAxis r.horiPad, padAxis r.vertPad⟩

/-- Testing bit `i` of a word the way `jstk_scan` does. -/
theorem and_one_shiftLeft_eq_zero_iff {w : ℕ} (b : BitVec w) {i : ℕ} (hi : i < w) :
    b &&& (1#w <<< i) = 0#w ↔ b.getLsbD i = false := by
  have htwo : 1#w <<< i = BitVec.twoPow w i := (BitVec.twoPow_eq w i).symm
  rw [htwo, BitVec.and_twoPow]
  cases hb : b.getLsbD i
  · simp
  · have hne : BitVec.twoPow w i ≠ 0#w := by
      intro h
      have := congrArg (fun x : BitVec w => x.getLsbD i) h
      simp [hi] at this
    simp [hne]

/-- The scan loop is a search through the pads it still has to look at. -/
theorem jstkScanFrom_eq (b : Word) (i n : ℕ) (hn : i + n ≤ 16) :
    jstkScanFrom b i n =
      match (List.range' i n).find? fun j => !b.getLsbD j with
      | some j => (j : ℤ)
      | none => -1 := by
  induction n generalizing i with
  | zero => rfl
  | succ n ih =>
    have hlt : i < 16 := by omega
    rw [jstkScanFrom, List.range'_succ, List.find?_cons]
    by_cases hb : b.getLsbD i = false
    · rw [if_pos ((and_one_shiftLeft_eq_zero_iff b hlt).mpr hb)]
      simp [hb]
    · rw [if_neg (fun h => hb ((and_one_shiftLeft_eq_zero_iff b hlt).mp h)), ih (i + 1) (by omega)]
      simp [Bool.eq_true_of_not_eq_false hb]

/-- `jstk_scan` finds the lowest pad that reads low. -/
theorem jstkScan_eq (b : Word) (low : Fin 12 → Bool)
    (hlow : ∀ i : Fin 12, low i = !b.getLsbD i) : jstkScan b = padIndex (lowestLow low) := by
  have hrange : List.range' 0 sliderCount = (List.finRange 12).map Fin.val := by decide
  have hpred : (fun j => !b.getLsbD j) ∘ Fin.val = low := by
    funext i
    exact (hlow i).symm
  rw [jstkScan, jstkScanFrom_eq b 0 sliderCount (by decide), hrange, List.find?_map, hpred,
    lowestLow]
  rcases (List.finRange 12).find? low with _ | i <;> rfl

theorem vertLow_eq (r : Readings) (i : Fin 12) :
    r.vertLow i = !(jstkReadVertRaw r).getLsbD i := by
  fin_cases i <;> simp [Readings.vertLow, jstkReadVertRaw]

theorem horiLow_eq (r : Readings) (i : Fin 12) :
    r.horiLow i = !(jstkReadHoriRaw r).getLsbD i := by
  fin_cases i <;> simp [Readings.horiLow, jstkReadHoriRaw]

@[simp] theorem jstkReadVertIndex_eq (r : Readings) :
    jstkReadVertIndex r = padIndex r.vertPad :=
  jstkScan_eq _ _ (vertLow_eq r)

@[simp] theorem jstkReadHoriIndex_eq (r : Readings) :
    jstkReadHoriIndex r = padIndex r.horiPad :=
  jstkScan_eq _ _ (horiLow_eq r)

/-- `jstk_scan` never runs past the last pad. -/
theorem padIndex_lt (p : Option (Fin 12)) : -1 ≤ padIndex p ∧ padIndex p < 12 := by
  rcases p with _ | i
  · decide
  · simp only [padIndex]
    omega

@[simp] theorem padIndex_neg_iff (p : Option (Fin 12)) : padIndex p < 0 ↔ p = none := by
  rcases p with _ | i
  · simp [padIndex]
  · simp only [padIndex, reduceCtorEq, iff_false]
    omega

/-- The table lookup on a pad. -/
@[simp] theorem jstkIdxToAxis_padIndex (p : Option (Fin 12)) :
    jstkIdxToAxis (padIndex p) = padAxis p := by
  rcases p with _ | i
  · rfl
  · revert i
    decide

end HidJoystick
