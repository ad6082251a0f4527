import HidJoystick.Machine

/-!
# Device settings

What a host can set on a USB device with one interface and one endpoint, and read back: the
selected configuration, whether the device may wake the host, the idle rate and the protocol
of the interface, and whether the endpoint is halted. `Order` is what the host can order, and
`apply` what an order does. Some orders reach further than their name says: to select a
configuration is to give up the current one first, and to start the interface is to forget
what was set on it.

* `get_run` — a setting is what was written to it last; `Order.writes` says which orders write
  which.

Numbers are of a type `β` with a zero, which stands for no configuration and for the first
setting of an interface.
-/

universe u

/-- What the host can set and read back. -/
structure DeviceSettings (β : Type u) where
  /-- the selected configuration, or zero -/
  configuration : β
  /-- the device may wake the host -/
  remoteWakeup : Bool
  idleRate : β
  protocol : β
  /-- the endpoint is halted -/
  halted : Bool
  deriving DecidableEq, Repr

namespace DeviceSettings

/-- What the host can order. -/
inductive Order (β : Type u) : Type u where
  | keep : Order β
  | busReset : Order β
  | configure : β → Order β
  | setInterface : β → Order β
  | setRemoteWakeup : Bool → Order β
  | setIdleRate : β → Order β
  | setProtocol : β → Order β
  | halt : Bool → Order β
  deriving DecidableEq, Repr

variable {β : Type u} [Zero β] [DecidableEq β]

/-- The configuration is given up, and its endpoint with it. -/
def unconfigure (c : DeviceSettings β) : DeviceSettings β :=
  { c with configuration := 0, remoteWakeup := false, halted := c.halted && c.configuration == 0 }

/-- The interface starts, with a new endpoint. -/
def start (c : DeviceSettings β) : DeviceSettings β :=
  { c with idleRate := 0, protocol := 0, halted := false }

/-- The effect of an order. -/
def apply : Order β → DeviceSettings β → DeviceSettings β
  | .keep, c => c
  | .busReset, c => c.unconfigure
  | .configure n, c =>
    if n = 0 then c.unconfigure else { c.unconfigure with configuration := n }.start
  | .setInterface n, c => if n = 0 then c.start else { c with halted := false }
  | .setRemoteWakeup on, c => { c with remoteWakeup := on }
  | .setIdleRate rate, c => { c with idleRate := rate }
  | .setProtocol protocol, c => { c with protocol := protocol }
  | .halt on, c => { c with halted := on }

/-- The settings as a machine -/
def machine : Machine (DeviceSettings β) (Order β) Empty where
  step c o := .ok (c.apply o)

/-! ## What is written last -/

/-- The settings that are numbers -/
inductive Register : Type where
  | configuration : Register
  | idleRate : Register
  | protocol : Register
  deriving DecidableEq, Repr

/-- What a register holds. -/
def get : Register → DeviceSettings β → β
  | .configuration, c => c.configuration
  | .idleRate, c => c.idleRate
  | .protocol, c => c.protocol

/-- The order starts the interface. -/
def Order.starts : Order β → Bool
  | .configure n => n ≠ 0
  | .setInterface n => n = 0
  | .keep | .busReset | .setRemoteWakeup _ | .setIdleRate _ | .setProtocol _ | .halt _ => false

/-- What an order writes to a register, if anything. -/
def Order.writes : Register → Order β → Option β
  | .configuration, .busReset => some 0
  | .configuration, .configure n => some n
  | .idleRate, .setIdleRate rate => some rate
  | .protocol, .setProtocol protocol => some protocol
  | .configuration, _ => none
  | .idleRate, o => if o.starts then some 0 else none
  | .protocol, o => if o.starts then some 0 else none

theorem get_apply (r : Register) (o : Order β) (c : DeviceSettings β) :
    (c.apply o).get r = (o.writes r).getD (c.get r) := by
  cases o with
  | configure n =>
    by_cases hn : n = 0
    · rw [apply, if_pos hn]
      cases r <;> simp [get, Order.writes, Order.starts, unconfigure, hn]
    · rw [apply, if_neg hn]
      cases r <;> simp [get, Order.writes, Order.starts, start, hn]
  | setInterface n =>
    by_cases hn : n = 0
    · rw [apply, if_pos hn]
      cases r <;> simp [get, Order.writes, Order.starts, start, hn]
    · rw [apply, if_neg hn]
      cases r <;> simp [get, Order.writes, Order.starts, hn]
  | keep | busReset | setRemoteWakeup _ | setIdleRate _ | setProtocol _ | halt _ => cases r <;> rfl

/-- **A setting is what was written to it last.** -/
theorem get_run {c c' : DeviceSettings β} {os : List (Order β)} (hr : machine.run c os = .ok c')
    (r : Register) : c'.get r = (os.filterMap (Order.writes r)).getLast?.getD (c.get r) := by
  refine Machine.get_run (g := get r) (fun c o c' hstep => ?_) hr
  obtain rfl := Except.ok.inj hstep
  exact get_apply r o c

end DeviceSettings
