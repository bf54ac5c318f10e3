import GamepadInput.Device
import GamepadInput.Hid.Caps
import GamepadInput.Text.Blank

/-!
# Which HID interfaces are controllers

Interfaces of the pages that game controls are found on are opened, mice and keyboards apart.  With
standard gamepads on, an interface that the standard path shows already is left to it.
-/

namespace GamepadInput.Hid

/-- An interface as the system lists it. -/
structure Info where
  path : String
  vendor : Nat
  product : Nat
  usagePage : Nat
  usage : Nat
  /-- Product string. -/
  product? : Option String
  serial? : Option String
  deriving DecidableEq, Repr

/-- `text` contains `part`. -/
def occursIn (part : List Char) : List Char → Bool
  | [] => part.isEmpty
  | c :: rest => part.isPrefixOf (c :: rest) || occursIn part rest

/-- Vendor and product numbers of devices that the standard path shows. -/
def standardIds : List (Nat × Nat) := [(0x045E, 0x028E), (0x045E, 0x0719), (0x28DE, 0x11FF)]

/-- Mark of an interface that stands in for a standard gamepad. -/
def standardMark : String := "IG_"

/-- The standard path shows the device. -/
def isStandard (vendor product : Nat) (path : String) : Bool :=
  occursIn standardMark.toList path.toList || standardIds.contains (vendor, product)

/-- The collection may hold game controls. -/
def acceptsUsage (page usage : Nat) : Bool :=
  let vendorDefined := page / 0x100 % 0x100 = 0xFF
  (page = genericDesktopPage || page = simulationPage || page = physicalPage || vendorDefined) &&
    !(page = genericDesktopPage && (usage = 0x02 || usage = 0x06))

namespace Info

/-- The interface is worth opening. -/
def accepted (info : Info) (standardGamepads : Bool) : Bool :=
  acceptsUsage info.usagePage info.usage &&
    !(standardGamepads && isStandard info.vendor info.product info.path)

/-- The product string without white space around it, or else the numbers. -/
def name (info : Info) : String :=
  let trimmed := Text.trimBlank (info.product?.getD "")
  if trimmed.isEmpty then
    "HID " ++ Text.hex 4 info.vendor ++ ":" ++ Text.hex 4 info.product
  else trimmed

def metadata (info : Info) : Metadata where
  bus := some "hid"
  serialNumber := info.serial?.filter (!·.isEmpty)
  usagePage := some info.usagePage
  usage := some info.usage
  path := some info.path

end Info

end GamepadInput.Hid
