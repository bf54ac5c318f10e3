import GamepadInput.Config
import GamepadInput.Text.Utf8
import GamepadInput.Toml.Document

/-!
# Settings in a file

A file of settings is a TOML document with a key for each setting.  A key that is absent leaves the
default, and other keys are ignored.
-/

namespace GamepadInput

/-- What there is at a path. -/
inductive File where
  | missing
  | directory
  | contents (bytes : List UInt8)
  deriving DecidableEq, Repr

/-- The text in a file. -/
def File.text : File → Except FileError String
  | .missing => .error .missing
  | .directory => .error .directory
  | .contents bytes => (Text.Utf8.decode? bytes).elim (.error .notText) .ok

namespace Config

/-- A setting of one type; `none` if the value under the key is of another. -/
private def setting? {α : Type} (read : Toml.Value → Option α) (fields : Toml.Fields) (key : String)
    (default : α) : Option α :=
  match fields.find? key with
  | none => some default
  | some value => read value

private def count? : Toml.Value → Option Nat
  | .integer n => if 0 ≤ n then some n.toNat else none
  | _ => none

private def text? : Toml.Value → Option String
  | .text s => some s
  | _ => none

private def flag? : Toml.Value → Option Bool
  | .boolean b => some b
  | _ => none

/-- The settings in a document, not checked. -/
def ofFields? (fields : Toml.Fields) : Option Config := do
  let slots ← setting? count? fields "gamepad_slots" standard.slots
  let deviceDirectory ← setting? text? fields "device_dir" standard.deviceDirectory
  let standardGamepads ← setting? flag? fields "standard_gamepads" standard.standardGamepads
  let maxReports ← setting? count? fields "max_reports_per_tick" standard.maxReports
  let runLoopMode ← setting? text? fields "run_loop_mode" standard.runLoopMode
  pure { slots, deviceDirectory, standardGamepads, maxReports, runLoopMode }

/-- Reads and checks settings. -/
def ofText (text : String) : Except ConfigError Config :=
  match (Toml.Fields.parse? text).bind ofFields? with
  | some config => config.checked
  | none => .error .malformed

/-- Reads and checks the settings in a file. -/
def ofFile (file : File) : Except ConfigError Config :=
  match file.text with
  | .ok text => ofText text
  | .error cause => .error (.unreadable cause)

end Config

end GamepadInput
