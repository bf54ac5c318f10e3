import GamepadInput.Binary.Decimal
import GamepadInput.Text.Dump
import GamepadInput.Windows.Backend

/-!
# Diagnostic text of the Windows backend
-/

namespace GamepadInput

open Text (Dump.record Dump.list Dump.nat Dump.bool Dump.option Dump.tagged)

def Metadata.dump (metadata : Metadata) : String :=
  let text (value : Option String) : String := Dump.option (value.map Text.quoted)
  let word (value : Option Nat) : String := Dump.option (value.map Dump.nat)
  Dump.record "DeviceMeta"
    [("bus", text metadata.bus), ("serial_number", text metadata.serialNumber),
     ("usage_page", word metadata.usagePage), ("usage", word metadata.usage),
     ("path", text metadata.path)]

private def numbers (values : List Binary32) : String :=
  Dump.list (values.map Binary.toDecimal)

def Device.dump (device : Device) : String :=
  Dump.record "Device"
    [("id", Dump.nat device.id), ("name", Text.quoted device.name),
     ("vendor_id", Dump.nat device.vendor), ("product_id", Dump.nat device.product),
     ("axis_state", numbers device.axes.toList),
     ("button_state", Dump.list (device.buttons.toList.map Dump.bool)),
     ("meta", device.metadata.dump)]

def Hid.Parser.dump (parser : Hid.Parser) : String :=
  Dump.record "HidpParser"
    [("input_report_len", Dump.nat parser.reportLength),
     ("only_rid0", Dump.bool parser.unnumbered), ("buttons", Dump.nat parser.buttonCount),
     ("axes", Dump.nat parser.axisCount)]

def Hid.ReadMode.dump : Hid.ReadMode → String
  | .buffered => "Buffered"
  | .polled => "Polled"

def Hid.Pad.dump (pad : Hid.Pad) : String :=
  Dump.record "HidPad"
    [("path", Text.quoted pad.path), ("mode", pad.mode.dump), ("parser", pad.parser.dump)]

def XInput.Pad.dump (pad : XInput.Pad) : String :=
  Dump.record "XInputPad"
    [("slot", Dump.nat pad.slot), ("buttons", Dump.nat pad.buttons.toNat),
     ("axes", numbers pad.axes), ("connected_logged", Dump.bool pad.sampled)]

namespace Windows

def Pad.dump : Pad → String
  | .hid pad => Dump.tagged "Hid" pad.dump
  | .xinput pad => Dump.tagged "XInput" pad.dump

private def dumpEntry (entry : Entry Pad) : String :=
  Dump.record "Entry" [("device", entry.device.dump), ("private", entry.data.dump)]

def Backend.dump (backend : Backend) : String :=
  let registry := backend.hub.registry
  let entries (list : List (Entry Pad)) : String := Dump.list (list.map dumpEntry)
  Text.Dump.partialRecord "WindowsBackend"
    [("standard_gamepads", Dump.bool backend.standardGamepads),
     ("registry", Dump.record "DeviceRegistry"
       [("live", entries registry.live), ("retired", entries registry.retired),
        ("next_id", Dump.nat registry.nextId)]),
     ("initialized", Dump.bool backend.session.isSome)]

end Windows

end GamepadInput
