import HidJoystick.Delivery
import HidJoystick.Display
import HidJoystick.HostWrites
import HidJoystick.Pins
import HidJoystick.Reachable
import HidJoystick.Sessions
import HidJoystick.BulkIn
import HidJoystick.BulkOut
import HidJoystick.OutDriver
import HidJoystick.ControlTransfers
import HidJoystick.Lifecycle
