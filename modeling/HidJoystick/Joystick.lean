import HidJoystick.Udi

/-!
# The tick

The half of `joystick.c` with effects, `led.c`, and the way there from a
start-of-frame interrupt: `main_sof_action`, `ui_process`, `joystick`.

The ports are read at three places of a tick: for the mask, for the test switch
and for the report. Inputs may move in between, so a `Tick` has a reading for
each of the three.
-/

namespace HidJoystick

/-- What the ports read in the course of one tick. -/
structure Tick where
  /-- the ports as `jstk_readMask` reads them -/
  readMask : Readings
  /-- `PORTB.IN` as it is stored in `jstk_testMode` -/
  testMode : Byte
  /-- the ports as `jstk_usbTask` reads them -/
  usbTask : Readings
  deriving DecidableEq, Repr

/-- A tick during which no input moves: one reading of each port. -/
def Tick.still (r : Readings) : Tick := ⟨r, r.portB, r⟩

/-- `PIN4_bm` -/
abbrev pin4Bm : Byte := 0x10

/-- The test switch is open: port B bit 4 reads high. -/
def Tick.normal (t : Tick) : Bool := t.testMode &&& pin4Bm != 0

/-! ## The LEDs -/

/-- `LED_MASK` -/
abbrev ledMask : Byte := 0xFF

/-- `led_init` -/
def ledInit (s : Firmware) : Firmware := { s with portAOut := s.portAOut ||| ledMask }

/-- `led_allOff` -/
def ledAllOff (s : Firmware) : Firmware := { s with portAOut := s.portAOut ||| ledMask }

/-- `led_on` -/
def ledOn (mask : Byte) (s : Firmware) : Firmware :=
  { s with portAOut := s.portAOut &&& ~~~mask }

/-! ## The tick -/

/-- `jstk_usbTask`, the ports reading `r` -/
def jstkUsbTask (r : Readings) (s : Firmware) : Except Fault Firmware := do
  let x := jstkIdxToAxis (jstkReadHoriIndex r)
  let y := jstkIdxToAxis (jstkReadVertIndex r)
  let s := { s with jstkUsbReport := ⟨x, y⟩ }.note (.sampled r ⟨x, y⟩)
  if s.jstkUsbReport.x ≠ s.jstkPrevReport.x ∨ s.jstkUsbReport.y ≠ s.jstkPrevReport.y then
    let (accepted, s) ← udiHidGenericSendReportIn s.jstkUsbReport s
    if accepted then
      return { s with jstkPrevReport := ⟨s.jstkUsbReport.x, s.jstkUsbReport.y⟩ }
    else
      return s
  else
    return s

/-- `joystick`. The delay of 10 ms after a LED update is left out. -/
def joystick (t : Tick) (s : Firmware) : Except Fault Firmware := do
  let s := { s with jstkMask := jstkReadMask t.readMask }
  let s := { s with jstkTestMode := t.testMode }
  if s.jstkTestMode &&& pin4Bm = 0 then
    if s.jstkMask ≠ 0 then
      return ledOn s.jstkMask (ledAllOff s)
    else
      return s
  else
    let s := ledAllOff s
    jstkUsbTask t.usbTask s

/-- `ui_process` -/
def uiProcess (t : Tick) (s : Firmware) : Except Fault Firmware := joystick t s

/-- `main_sof_action` -/
def mainSofAction (t : Tick) (s : Firmware) : Except Fault Firmware := do
  if !s.mainBGenericEnable then
    return s
  else
    uiProcess t s

end HidJoystick
