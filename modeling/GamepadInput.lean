import GamepadInput.Config.File
import GamepadInput.Evdev.Machine
import GamepadInput.Evdev.Session
import GamepadInput.IoKit.Machine
import GamepadInput.Monitor
import GamepadInput.Proofs.Axis.Hats
import GamepadInput.Proofs.Axis.Native
import GamepadInput.Proofs.Axis.Unit
import GamepadInput.Proofs.Combo.Joining
import GamepadInput.Proofs.Combo.Reading
import GamepadInput.Proofs.Combo.Trigger
import GamepadInput.Proofs.Device.Changes
import GamepadInput.Proofs.Evdev.Calls
import GamepadInput.Proofs.Evdev.Decoding
import GamepadInput.Proofs.Evdev.Holders
import GamepadInput.Proofs.Frame.Host
import GamepadInput.Proofs.Frame.Queries
import GamepadInput.Proofs.Hid.Effect
import GamepadInput.Proofs.Hid.Maps
import GamepadInput.Proofs.Hub.Standing
import GamepadInput.Proofs.Hub.Unplugging
import GamepadInput.Proofs.Input.Flush
import GamepadInput.Proofs.Input.Observers
import GamepadInput.Proofs.Input.Slots
import GamepadInput.Proofs.IoKit.Hearing
import GamepadInput.Proofs.Registry.Accounts
import GamepadInput.Proofs.Registry.Effect
import GamepadInput.Proofs.Virtual.Apart
import GamepadInput.Proofs.Virtual.Delivery
import GamepadInput.Proofs.Virtual.Mirror
import GamepadInput.Proofs.Virtual.Overflow
import GamepadInput.Proofs.Virtual.Paths
import GamepadInput.Proofs.Virtual.Values
import GamepadInput.Proofs.Windows.Hearing
import GamepadInput.Proofs.Windows.Mirror
import GamepadInput.Proofs.Windows.Replug
import GamepadInput.Proofs.Windows.Slots
import GamepadInput.Proofs.Windows.Watching
import GamepadInput.Virtual.Backend
import GamepadInput.Windows.Dump
import GamepadInput.Windows.Machine
