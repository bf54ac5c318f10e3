/-!
# Settings

What a host can set before it starts.  Every setting has a default, and settings are checked once,
when an input is made of them.
-/

namespace GamepadInput

structure Config where
  /-- Number of gamepad slots of a frame. -/
  slots : Nat
  /-- Directory scanned for event nodes on Linux. -/
  deviceDirectory : String
  /-- On Windows, standard gamepads are shown, and their HID interfaces are not. -/
  standardGamepads : Bool
  /-- On Windows, most reports read of one device in one processing. -/
  maxReports : Nat
  /-- On macOS, name of the mode in which the run loop is pumped. -/
  runLoopMode : String
  deriving DecidableEq, Repr

/-- Why a file cannot be read as text. -/
inductive FileError where
  | missing
  | directory
  | notText
  deriving DecidableEq, Repr

/-- Why there are no usable settings. -/
inductive ConfigError where
  | unreadable (cause : FileError)
  /-- The text is no TOML document, or a setting has another type than it should. -/
  | malformed
  | noSlots
  | noReports
  | noRunLoopMode
  deriving DecidableEq, Repr

def FileError.message : FileError → String
  | .missing => "No such file or directory (os error 2)"
  | .directory => "Is a directory (os error 21)"
  | .notText => "stream did not contain valid UTF-8"

/-- Text of an error; a malformed text is not described. -/
def ConfigError.message? : ConfigError → Option String
  | .unreadable cause => some ("i/o error: " ++ cause.message)
  | .malformed => none
  | .noSlots => some "invalid config value: gamepad_slots must be at least 1"
  | .noReports => some "invalid config value: max_reports_per_tick must be at least 1"
  | .noRunLoopMode => some "invalid config value: run_loop_mode must not be empty"

namespace Config

def standard : Config := ⟨4, "/dev/input", true, 32, "padframe"⟩

instance : Inhabited Config := ⟨standard⟩

/-- Refuses settings that nothing can run with; of several faults the first in this order counts. -/
def checked (config : Config) : Except ConfigError Config :=
  if config.slots = 0 then .error .noSlots
  else if config.maxReports = 0 then .error .noReports
  else if config.runLoopMode.isEmpty then .error .noRunLoopMode
  else .ok config

end Config

end GamepadInput
