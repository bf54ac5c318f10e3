import GamepadInput.Hid.Pad
import GamepadInput.Proofs.Axis.Wiring
import GamepadInput.Proofs.Device.Changes

/-!
# A parser and the record of its device

A parser starts with every control at rest (`Parser.atRest_ofDescription?`).  What it reports of a
report leads a record that shows its controls from before the report to after it, and so does a
whole poll, as many reports as it reads (`Pad.poll_leads`).
-/

namespace GamepadInput

namespace Hid

theorem isAtRest_fieldLayout {layout : Axis.Layout} (rest : layout.IsAtRest) (cookie : Nat)
    (fields : List (ValueField × ValueRole × Int × Int)) :
    (fieldLayout layout cookie fields).IsAtRest := by
  induction fields generalizing layout cookie with
  | nil => exact rest
  | cons field others ih =>
    refine ih ?_ (cookie + 1)
    unfold pushField
    split
    · exact rest.pushHat cookie _ _
    · split <;> exact rest.pushLinear cookie _

/-- A parser starts with every button up and every axis at zero. -/
theorem Parser.atRest_ofDescription? {vendor product : Nat} {description : Description}
    {parser : Parser} (made : ofDescription? vendor product description = some parser) :
    parser.layout.values = .replicate parser.axisCount 0 ∧
      parser.pressed = .replicate parser.buttonCount false := by
  obtain ⟨-, ⟨⟩⟩ := Option.ite_none_left_eq_some.mp made
  have rest (fields : List (ValueField × ValueRole × Int × Int)) :
      (fieldLayout .empty 0 fields).IsAtRest :=
    isAtRest_fieldLayout Axis.Layout.isAtRest_empty 0 fields
  split <;> exact ⟨rest _, by simp [ofCaps, Buttons.atRest, buttonCount]⟩

/-! ## Reports -/

variable {device : Device} {queries : Queries} {report : Report} {reportId : Nat}

theorem pressUsages_leads {pressed : Buttons} (same : device.buttons = pressed) (index : Nat)
    (set usages : List Nat) :
    device.LeadsTo (pressUsages pressed index set usages).2 device.axes
      (pressUsages pressed index set usages).1 := by
  induction usages generalizing device pressed index with
  | nil => exact same ▸ .nil device
  | cons usage rest ih =>
    have first := Buttons.press_leads same index (set.contains usage)
    have others := ih first.buttons_eq (index + 1)
    rw [first.axes_eq] at others
    exact first.append others

/-- Reads one button field of a report. -/
def readField (queries : Queries) (report : Report) (reportId : Nat) (pressed : Buttons)
    (field : ButtonField) : Buttons × List EventKind :=
  if field.reportId = reportId then
    match queries.usages field.page field.link report with
    | some set => pressUsages pressed field.firstIndex set field.usages
    | none => (pressed, [])
  else (pressed, [])

theorem readField_leads {pressed : Buttons} (same : device.buttons = pressed) (field : ButtonField) :
    device.LeadsTo (readField queries report reportId pressed field).2 device.axes
      (readField queries report reportId pressed field).1 := by
  unfold readField
  split
  · split
    · exact pressUsages_leads same field.firstIndex _ field.usages
    · exact same ▸ .nil device
  · exact same ▸ .nil device

theorem readButtons_leads {pressed : Buttons} (same : device.buttons = pressed)
    (fields : List ButtonField) :
    device.LeadsTo (readButtons queries report reportId pressed fields).2 device.axes
      (readButtons queries report reportId pressed fields).1 := by
  induction fields generalizing device pressed with
  | nil => exact same ▸ .nil device
  | cons field rest ih =>
    have first := @readField_leads device queries report reportId pressed same field
    have others := ih first.buttons_eq
    rw [first.axes_eq] at others
    exact first.append others

theorem feedField_leads {layout after : Axis.Layout} {cookie : Nat} {sample : Int}
    {kinds : List EventKind} (same : device.axes = layout.values)
    (fed : feedField layout cookie sample = .ok (after, kinds)) :
    device.LeadsTo kinds after.values device.buttons := by
  unfold feedField at fed
  split at fed
  · cases fed
    exact same ▸ .nil device
  · obtain ⟨⟨moved, changes⟩, fed', fed⟩ := exists_of_bind_ok fed
    cases fed
    exact layout.feed_leads same fed'

theorem readValues_leads {layout after : Axis.Layout} {cookie : Nat}
    {fields asked : List ValueField} {kinds : List EventKind} (same : device.axes = layout.values)
    (read : readValues queries report reportId layout cookie fields = .ok (asked, after, kinds)) :
    device.LeadsTo kinds after.values device.buttons := by
  induction fields generalizing device layout cookie asked kinds with
  | nil =>
    cases read
    exact same ▸ .nil device
  | cons field rest ih =>
    unfold readValues at read
    dsimp only at read
    split at read
    · obtain ⟨_, ⟨⟩, read⟩ := exists_of_bind_ok read
      obtain ⟨⟨others, ends, more⟩, onward, read⟩ := exists_of_bind_ok read
      cases read
      exact ih same onward
    · obtain ⟨⟨fed, own⟩, feeds, read⟩ := exists_of_bind_ok read
      obtain ⟨_, ⟨⟩, read⟩ := exists_of_bind_ok read
      obtain ⟨⟨others, ends, more⟩, onward, read⟩ := exists_of_bind_ok read
      cases read
      have first := feedField_leads same feeds
      have following := ih first.axes_eq onward
      rw [first.buttons_eq] at following
      exact first.append following

theorem Parser.read_leads {parser after : Parser} {data : Report} {kinds : List EventKind}
    (axes : device.axes = parser.layout.values) (buttons : device.buttons = parser.pressed)
    (read : parser.read queries data = .ok (after, kinds)) :
    device.LeadsTo kinds after.layout.values after.pressed := by
  cases data with
  | nil =>
    cases read
    exact axes ▸ buttons ▸ .nil device
  | cons id rest =>
    simp only [Parser.read] at read
    generalize (id :: rest).take parser.bufferLength ++ _ = report at read
    obtain ⟨⟨values, layout, moves⟩, valued, read⟩ := exists_of_bind_ok read
    cases read
    have presses :=
      @readButtons_leads device queries report id.toNat parser.pressed buttons parser.buttons
    have moved := readValues_leads (presses.axes_eq.trans axes) valued
    rw [presses.buttons_eq] at moved
    exact presses.append moved

/-! ## Polls -/

namespace Pad

theorem drain_leads {pad : Pad} {limit : Nat} {reads : List Read} {poll : Poll}
    (axes : device.axes = pad.parser.layout.values) (buttons : device.buttons = pad.parser.pressed)
    (drained : pad.drain queries limit reads = .ok poll) :
    device.LeadsTo poll.kinds poll.pad.parser.layout.values poll.pad.parser.pressed := by
  have still : device.LeadsTo [] pad.parser.layout.values pad.parser.pressed :=
    axes ▸ buttons ▸ .nil device
  induction limit generalizing device pad reads poll with
  | zero =>
    simp only [drain] at drained
    cases drained
    exact still
  | succ limit ih =>
    cases reads with
    | nil =>
      cases drained
      exact still
    | cons read rest =>
      cases read with
      | none =>
        cases drained
        exact still
      | some data =>
        unfold drain at drained
        dsimp only at drained
        split at drained
        · cases drained
          exact still
        · obtain ⟨⟨parser, kinds⟩, first, drained⟩ := exists_of_bind_ok drained
          obtain ⟨others, onward, drained⟩ := exists_of_bind_ok drained
          cases drained
          have leads := Parser.read_leads axes buttons first
          exact leads.append (ih leads.axes_eq leads.buttons_eq onward
            (leads.axes_eq ▸ leads.buttons_eq ▸ .nil _))

theorem poll_leads {pad : Pad} {limit : Nat} {link : Link} {poll : Poll}
    (axes : device.axes = pad.parser.layout.values) (buttons : device.buttons = pad.parser.pressed)
    (polled : pad.poll limit link = .ok poll) :
    device.LeadsTo poll.kinds poll.pad.parser.layout.values poll.pad.parser.pressed := by
  unfold Pad.poll at polled
  split at polled
  · exact drain_leads axes buttons polled
  · unfold request at polled
    split at polled
    · cases polled
      exact axes ▸ buttons ▸ .nil device
    · cases polled
      exact axes ▸ buttons ▸ .nil device
    · obtain ⟨⟨parser, kinds⟩, read, polled⟩ := exists_of_bind_ok polled
      cases polled
      exact Parser.read_leads axes buttons read

end Pad

end Hid

end GamepadInput
