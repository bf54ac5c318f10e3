import GamepadInput.Device
import GamepadInput.Json

/-!
# Metadata as a document

Metadata is written as an object with one member for each detail.  Reading ignores other members,
takes an absent or null member as unknown, and refuses a member of another type.
-/

namespace GamepadInput.Metadata

private def textMember (value : Option String) : Json := value.elim .null .text

private def wordMember (value : Option Nat) : Json := value.elim .null fun n => .integer n

def toJson (metadata : Metadata) : Json :=
  .object
    [("bus", textMember metadata.bus), ("serial_number", textMember metadata.serialNumber),
     ("usage_page", wordMember metadata.usagePage), ("usage", wordMember metadata.usage),
     ("path", textMember metadata.path)]

/-- A text that may be unknown; the outer `none` refuses. -/
private def text? : Option Json → Option (Option String)
  | none | some .null => some none
  | some (.text value) => some (some value)
  | some _ => none

/-- A word that may be unknown; the outer `none` refuses. -/
private def word? : Option Json → Option (Option Nat)
  | none | some .null => some none
  | some (.integer value) =>
    if 0 ≤ value ∧ value < usageCount then some (some value.toNat) else none
  | some _ => none

def ofJson? : Json → Option Metadata
  | .object members => do
    let bus ← text? (Json.member? members "bus")
    let serialNumber ← text? (Json.member? members "serial_number")
    let usagePage ← word? (Json.member? members "usage_page")
    let usage ← word? (Json.member? members "usage")
    let path ← text? (Json.member? members "path")
    pure { bus, serialNumber, usagePage, usage, path }
  | _ => none

end GamepadInput.Metadata
