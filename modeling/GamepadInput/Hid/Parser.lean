import GamepadInput.Buttons
import GamepadInput.Hid.Caps

/-!
# Reading input reports

A parser is built from the capabilities of an interface.  It numbers the buttons, gives every axis
and hat its slots, and turns each report into the changes against what it has seen before.

The system decodes the reports: it is asked which usages of a page are set, and for the value of a
usage.  Some devices answer for a value only when asked on the top collection; the parser then asks
there from now on.
-/

namespace GamepadInput.Hid

/-- A report: the id byte and the data after it. -/
abbrev Report := List UInt8

/-- How the system answers questions about a report. -/
structure Queries where
  /-- Usages of a page that are set in a collection; `none` if the question fails. -/
  usages : (page link : Nat) → Report → Option (List Nat)
  /-- Value of a usage in a collection, an unsigned word; `none` if the question fails. -/
  value : (page link usage : Nat) → Report → Option Nat

/-- Buttons with consecutive usages and consecutive numbers. -/
structure ButtonField where
  reportId : Nat
  page : Nat
  link : Nat
  /-- Number of the first button. -/
  firstIndex : Nat
  usages : List Nat
  deriving DecidableEq, Repr

/-- An axis or a hat. -/
structure ValueField where
  reportId : Nat
  page : Nat
  usage : Nat
  link : Nat
  bitSize : Nat
  /-- Values are in two's complement. -/
  signed : Bool
  deriving DecidableEq, Repr

/-- Numbers the buttons in the order of the capabilities and of their usages. -/
def buttonFields (firstIndex : Nat) : List ButtonCap → List ButtonField
  | [] => []
  | cap :: rest =>
    let usages := cap.span.usages
    if usages.isEmpty then buttonFields firstIndex rest
    else
      ⟨cap.reportId, cap.span.page, cap.link, firstIndex, usages⟩ ::
        buttonFields (firstIndex + usages.length) rest

/-- The axes and hats of the capabilities, each with the logical range of its entry. -/
def valueFields (caps : List ValueCap) : List (ValueField × ValueRole × Int × Int) :=
  caps.flatMap fun cap =>
    cap.span.usages.filterMap fun usage =>
      let role := valueRole cap.span.page usage
      if role = .ignored then none
      else
        some (⟨cap.reportId, cap.span.page, usage, cap.link, cap.bitSize, cap.logicalMin < 0⟩,
          role, cap.logicalMin, cap.logicalMax)

/-- Adds the slots of one field.  A range without extent is nonsense, so it is learned from the
samples instead. -/
def pushField (layout : Axis.Layout) (cookie : Nat) (role : ValueRole) (min max : Int) :
    Axis.Layout :=
  if role = .hat then layout.pushHat cookie min max
  else if min < max then layout.pushLinear cookie (.declared min max)
  else layout.pushLinear cookie (.growing 0 0)

/-- The slots of the fields; the place of a field in the list is its cookie. -/
def fieldLayout (layout : Axis.Layout) (cookie : Nat) :
    List (ValueField × ValueRole × Int × Int) → Axis.Layout
  | [] => layout
  | (_, role, min, max) :: rest =>
    fieldLayout (pushField layout cookie role min max) (cookie + 1) rest

structure Parser where
  /-- Bytes of a report with its id, as the interface tells it. -/
  reportLength : Nat
  /-- No capability has a report id, so reads come without the id byte. -/
  unnumbered : Bool
  buttons : List ButtonField
  pressed : Buttons
  values : List ValueField
  layout : Axis.Layout
  deriving DecidableEq, Repr

/-- What the system tells of an interface when a parser is made for it. -/
structure Description where
  reportLength : Nat
  buttonCaps : Nat → CapsAnswer ButtonCap
  valueCaps : Nat → CapsAnswer ValueCap

/-- The pedals that answer for values on the top collection only. -/
def topCollectionOnly (vendor product : Nat) : Bool := vendor = 0x231D && product = 0x011F

namespace Parser

def buttonCount (parser : Parser) : Nat := parser.pressed.size

def axisCount (parser : Parser) : Nat := parser.layout.size

/-- Bytes of the buffer that a report is decoded in. -/
def bufferLength (parser : Parser) : Nat := max parser.reportLength 1

/-- A parser for the controls in `buttonCaps` and `valueCaps`. -/
def ofCaps (reportLength : Nat) (buttonCaps : List ButtonCap) (valueCaps : List ValueCap) :
    Parser :=
  let buttons := buttonFields 0 buttonCaps
  let fields := valueFields valueCaps
  { reportLength
    unnumbered := buttonCaps.all (·.reportId = 0) && valueCaps.all (·.reportId = 0)
    buttons
    pressed := .atRest (buttons.flatMap (·.usages)).length
    values := fields.map (·.1)
    layout := fieldLayout .empty 0 fields }

/-- A parser for an interface; `none` if it has neither buttons nor axes.  A list of capabilities
that cannot be read counts as empty. -/
def ofDescription? (vendor product : Nat) (description : Description) : Option Parser :=
  let parser := ofCaps description.reportLength
    ((enumerate? description.buttonCaps).getD []) ((enumerate? description.valueCaps).getD [])
  let parser :=
    if topCollectionOnly vendor product then
      { parser with values := parser.values.map ({ · with link := 0 }) }
    else parser
  if parser.buttonCount = 0 ∧ parser.axisCount = 0 then none else some parser

end Parser

/-- Brings consecutive buttons down or up, each down if its usage is among `set`. -/
def pressUsages (pressed : Buttons) (index : Nat) (set : List Nat) :
    List Nat → Buttons × List EventKind
  | [] => (pressed, [])
  | usage :: rest =>
    let (pressed, first) := pressed.press index (set.contains usage)
    let (pressed, others) := pressUsages pressed (index + 1) set rest
    (pressed, first ++ others)

/-- Reads the button fields of a report with id `reportId`. -/
def readButtons (queries : Queries) (report : Report) (reportId : Nat) (pressed : Buttons) :
    List ButtonField → Buttons × List EventKind
  | [] => (pressed, [])
  | field :: rest =>
    let (pressed, first) :=
      if field.reportId = reportId then
        match queries.usages field.page field.link report with
        | some set => pressUsages pressed field.firstIndex set field.usages
        | none => (pressed, [])
      else (pressed, [])
    let (pressed, others) := readButtons queries report reportId pressed rest
    (pressed, first ++ others)

namespace ValueField

/-- Asks for the value on the field's own collection, and if that fails on the top one.  The field
returned asks first where the answer came from. -/
def ask? (field : ValueField) (queries : Queries) (report : Report) : Option (Nat × ValueField) :=
  match queries.value field.page field.link field.usage report with
  | some value => some (value, field)
  | none =>
    if field.link = 0 then none
    else
      (queries.value field.page 0 field.usage report).map fun value =>
        (value, { field with link := 0 })

/-- The number that a value stands for. -/
def sample (field : ValueField) (value : Nat) : Int :=
  if field.signed then signExtend value field.bitSize else value

end ValueField

/-- Feeds the value of a field to its slot. -/
def feedField (layout : Axis.Layout) (cookie : Nat) (sample : Int) :
    Except Overflow (Axis.Layout × List EventKind) :=
  match layout.find? cookie with
  | none => .ok (layout, [])
  | some slot => do
    let (layout, changes) ← layout.feed slot sample
    pure (layout, changes.map .axis)

/-- Reads the value fields of a report with id `reportId`; `cookie` is the place of the first. -/
def readValues (queries : Queries) (report : Report) (reportId : Nat) (layout : Axis.Layout)
    (cookie : Nat) :
    List ValueField → Except Overflow (List ValueField × Axis.Layout × List EventKind)
  | [] => .ok ([], layout, [])
  | field :: rest => do
    let answer := if field.reportId = reportId then field.ask? queries report else none
    let (field, layout, first) ←
      match answer with
      | none => pure (field, layout, [])
      | some (value, field) => do
        let (layout, kinds) ← feedField layout cookie (field.sample value)
        pure (field, layout, kinds)
    let (rest, layout, others) ← readValues queries report reportId layout (cookie + 1) rest
    pure (field :: rest, layout, first ++ others)

namespace Parser

/-- Reads a report that starts with its id.  It is cut or filled with zeros to the length that the
interface tells. -/
def read (parser : Parser) (queries : Queries) (data : Report) :
    Except Overflow (Parser × List EventKind) :=
  match data with
  | [] => .ok (parser, [])
  | id :: _ => do
    let report := data.take parser.bufferLength
    let report := report ++ List.replicate (parser.bufferLength - report.length) 0
    let (pressed, presses) := readButtons queries report id.toNat parser.pressed parser.buttons
    let (values, layout, moves) ←
      readValues queries report id.toNat parser.layout 0 parser.values
    pure ({ parser with pressed, values, layout }, presses ++ moves)

/-- Reads the bytes of a buffered read, which come without an id if the reports have none. -/
def readBuffered (parser : Parser) (queries : Queries) (data : Report) :
    Except Overflow (Parser × List EventKind) :=
  parser.read queries (if parser.unnumbered then 0 :: data else data)

end Parser

end GamepadInput.Hid
