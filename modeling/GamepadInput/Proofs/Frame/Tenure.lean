import GamepadInput.Frame

/-!
# What the calls say of a gamepad slot

What a slot should show is told by the calls alone, without any state: the device that was attached
to it last, unless it was taken out since, and what was heard of that device in the frame shown and
in the frame before.
-/

namespace GamepadInput.Frame

/-- What can be done to a frame: a listener is called, the host reports, the frame ends, or a slot or
a device is disconnected. -/
inductive Call where
  | hear (notice : Notice)
  | handle (event : HostEvent)
  | flush
  | disconnect (index : Nat)
  | disconnectDevice (device : DeviceId)
  deriving DecidableEq, Repr

def perform (frame : Frame) : Call → Frame
  | .hear notice => frame.hear notice
  | .handle event => frame.handle event
  | .flush => frame.flush
  | .disconnect index => frame.disconnect index
  | .disconnectDevice device => frame.disconnectDevice device

/-- Calls in order. -/
def run (frame : Frame) (calls : List Call) : Frame := calls.foldl perform frame

/-! ## What calls say of a slot -/

namespace Call

/-- The device that the call attaches to the slot at `index`. -/
def attaches? (capacity index : Nat) : Call → Option Device
  | hear ⟨device, .attached⟩ => if device.id % capacity = index then some device else none
  | _ => none

/-- The call takes a device out of the slot at `index`. -/
def vacates (index : Nat) (device : DeviceId) : Call → Bool
  | hear ⟨other, .removed⟩ => other.id = device
  | disconnectDevice other => other = device
  | disconnect other => other = index
  | _ => false

def flush? : Call → Option Unit
  | flush => some ()
  | _ => none

/-- The state that the call brings a button of a device to. -/
def edge? (device : DeviceId) (button : Nat) : Call → Option Bool
  | hear ⟨other, .button index down⟩ =>
    if other.id = device ∧ index = button then some down else none
  | _ => none

/-- The value that the call brings an axis of a device to. -/
def move? (device : DeviceId) (axis : Nat) : Call → Option Binary32
  | hear ⟨other, .axis change⟩ =>
    if other.id = device ∧ change.axis = axis then some change.value else none
  | _ => none

end Call

/-- The last thing that `pick` finds in some calls. -/
def last? {α : Type} (pick : Call → Option α) (calls : List Call) : Option α :=
  (calls.filterMap pick).getLast?

/-- The calls before the last one that `pick` takes, what it finds there, and the calls after. -/
def splitLast? {α : Type} (pick : Call → Option α) :
    List Call → Option (List Call × α × List Call)
  | [] => none
  | call :: rest =>
    match splitLast? pick rest with
    | some (before, found, since) => some (call :: before, found, since)
    | none => (pick call).map ([], ·, rest)

/-- The calls after the last flush; all of them if there was none. -/
def sinceFlush (calls : List Call) : List Call :=
  (splitLast? Call.flush? calls).elim calls fun (_, _, since) => since

/-- The calls before the last flush; none of them if there was none. -/
def untilFlush (calls : List Call) : List Call :=
  (splitLast? Call.flush? calls).elim [] fun (before, _, _) => before

/-- A device in its slot, and the calls since it was attached. -/
structure Tenure where
  device : Device
  since : List Call
  deriving DecidableEq, Repr

namespace Tenure

/-- The calls of the frame that is shown. -/
def now (tenure : Tenure) : List Call := sinceFlush tenure.since

/-- The calls of the frame before.  If the device came after the last flush there are none. -/
def before (tenure : Tenure) : List Call := sinceFlush (untilFlush tenure.since)

/-- The last thing heard of a button among some calls; it is up unless it went down. -/
def buttonAfter (tenure : Tenure) (calls : List Call) (button : Nat) : Bool :=
  (last? (Call.edge? tenure.device.id button) calls).getD false

/-- The last thing heard of an axis among some calls; it is at zero unless it moved. -/
def axisAfter (tenure : Tenure) (calls : List Call) (axis : Nat) : Binary32 :=
  (last? (Call.move? tenure.device.id axis) calls).getD 0

def isDown (tenure : Tenure) (button : Nat) : Bool := tenure.buttonAfter tenure.now button

def wasDown (tenure : Tenure) (button : Nat) : Bool := tenure.buttonAfter tenure.before button

def axis (tenure : Tenure) (axis : Nat) : Binary32 := tenure.axisAfter tenure.now axis

def axisBefore (tenure : Tenure) (axis : Nat) : Binary32 := tenure.axisAfter tenure.before axis

/-- Every button and every followed axis after some calls. -/
def padFrame (tenure : Tenure) (calls : List Call) : PadFrame where
  buttons := .ofFn fun button : Fin tenure.device.buttonCount => tenure.buttonAfter calls button
  axes := .ofFn fun axis => tenure.axisAfter calls axis

/-- What a slot shows of the device. -/
def occupant (tenure : Tenure) : Occupant where
  device := tenure.device.id
  axisCount := tenure.device.axisCount
  current := tenure.padFrame tenure.now
  previous := tenure.padFrame tenure.before

end Tenure

/-- The device that holds a slot after some calls: the one attached last, unless it was taken out
since. -/
def tenure? (capacity index : Nat) (calls : List Call) : Option Tenure :=
  (splitLast? (Call.attaches? capacity index) calls).bind fun (_, device, since) =>
    if since.any (Call.vacates index device.id) then none else some ⟨device, since⟩

/-! ## One more call -/

section Concat

variable {α : Type} (pick : Call → Option α) (calls : List Call) (call : Call)

theorem last?_concat : last? pick (calls ++ [call]) = (pick call).or (last? pick calls) := by
  cases found : pick call <;> simp [last?, found]

theorem splitLast?_append (first second : List Call) :
    splitLast? pick (first ++ second) =
      match splitLast? pick second with
      | some (before, found, since) => some (first ++ before, found, since)
      | none => (splitLast? pick first).map fun (before, found, since) =>
          (before, found, since ++ second) := by
  induction first with
  | nil => cases later : splitLast? pick second <;> simp [splitLast?, later]
  | cons call rest ih =>
    rw [List.cons_append, splitLast?, ih]
    cases later : splitLast? pick second with
    | some split => rfl
    | none =>
      cases earlier : splitLast? pick rest with
      | some split => simp [splitLast?, earlier]
      | none => cases found : pick call <;> simp [splitLast?, earlier, found]

theorem splitLast?_concat :
    splitLast? pick (calls ++ [call]) =
      match pick call with
      | some found => some (calls, found, [])
      | none => (splitLast? pick calls).map fun (before, found, since) =>
          (before, found, since ++ [call]) := by
  rw [splitLast?_append]
  cases found : pick call <;> simp [splitLast?, found]

theorem sinceFlush_concat :
    sinceFlush (calls ++ [call]) = if call = .flush then [] else sinceFlush calls ++ [call] := by
  unfold sinceFlush
  rw [splitLast?_concat]
  cases call with
  | flush => rfl
  | hear | handle | disconnect | disconnectDevice =>
    cases splitLast? Call.flush? calls <;> rfl

theorem untilFlush_concat :
    untilFlush (calls ++ [call]) = if call = .flush then calls else untilFlush calls := by
  unfold untilFlush
  rw [splitLast?_concat]
  cases call with
  | flush => rfl
  | hear | handle | disconnect | disconnectDevice =>
    cases splitLast? Call.flush? calls <;> rfl

theorem tenure?_concat (capacity index : Nat) :
    tenure? capacity index (calls ++ [call]) =
      match call.attaches? capacity index with
      | some device => some ⟨device, []⟩
      | none => (tenure? capacity index calls).bind fun tenure =>
          if call.vacates index tenure.device.id then none
          else some ⟨tenure.device, tenure.since ++ [call]⟩ := by
  unfold tenure?
  rw [splitLast?_concat]
  cases call.attaches? capacity index with
  | some device => rfl
  | none =>
    rcases splitLast? (Call.attaches? capacity index) calls with _ | ⟨before, device, since⟩
    · rfl
    · simp only [Option.map_some, Option.bind_some, List.any_append, List.any_cons, List.any_nil]
      cases since.any (Call.vacates index device.id) with
      | true => rfl
      | false => simp

end Concat

/-! ## What one more call shows -/

namespace Tenure

section PadFrame

variable (tenure : Tenure) (calls : List Call)

theorem buttonAfter_concat (call : Call) (button : Nat) :
    tenure.buttonAfter (calls ++ [call]) button =
      (call.edge? tenure.device.id button).getD (tenure.buttonAfter calls button) := by
  unfold buttonAfter
  rw [last?_concat]
  cases call.edge? tenure.device.id button <;> rfl

theorem axisAfter_concat (call : Call) (axis : Nat) :
    tenure.axisAfter (calls ++ [call]) axis =
      (call.move? tenure.device.id axis).getD (tenure.axisAfter calls axis) := by
  unfold axisAfter
  rw [last?_concat]
  cases call.move? tenure.device.id axis <;> rfl

theorem padFrame_nil : tenure.padFrame [] = .atRest tenure.device.buttonCount := by
  simp only [padFrame, PadFrame.atRest, buttonAfter, axisAfter, last?, List.filterMap_nil,
    List.getLast?_nil, Option.getD_none, PadFrame.mk.injEq]
  constructor
  · apply Array.ext <;> simp
  · ext axis inside
    simp

theorem cleared_padFrame : (tenure.padFrame calls).cleared = .atRest tenure.device.buttonCount := by
  simp [PadFrame.cleared, padFrame]

/-- A call in which nothing is heard of the device's controls. -/
theorem padFrame_concat_silent {call : Call}
    (still : ∀ button, call.edge? tenure.device.id button = none)
    (quiet : ∀ axis, call.move? tenure.device.id axis = none) :
    tenure.padFrame (calls ++ [call]) = tenure.padFrame calls := by
  simp only [padFrame, buttonAfter_concat, axisAfter_concat, still, quiet, Option.getD_none]

theorem padFrame_concat_hear (notice : Notice) (mine : notice.device.id = tenure.device.id) :
    tenure.padFrame (calls ++ [.hear notice]) = (tenure.padFrame calls).apply notice.kind := by
  obtain ⟨device, kind⟩ := notice
  replace mine : device.id = tenure.device.id := mine
  cases kind with
  | attached | removed => exact padFrame_concat_silent tenure calls (fun _ => rfl) fun _ => rfl
  | button index down =>
    have still (axis : Nat) : (Call.hear ⟨device, .button index down⟩).move?
        tenure.device.id axis = none := rfl
    have edge (button : Nat) : (Call.hear ⟨device, .button index down⟩).edge?
        tenure.device.id button = if index = button then some down else none := by
      simp [Call.edge?, mine]
    simp only [padFrame, PadFrame.apply, buttonAfter_concat, axisAfter_concat, still, edge,
      Option.getD_none, PadFrame.mk.injEq, and_true]
    apply Array.ext
    · simp
    · intro button inside _
      rw [Array.getElem_setIfInBounds (by simpa using inside)]
      by_cases same : index = button <;> simp [same]
  | axis change =>
    have still (button : Nat) : (Call.hear ⟨device, .axis change⟩).edge?
        tenure.device.id button = none := rfl
    have move (axis : Nat) : (Call.hear ⟨device, .axis change⟩).move?
        tenure.device.id axis = if change.axis = axis then some change.value else none := by
      simp [Call.move?, mine]
    simp only [padFrame, PadFrame.apply, buttonAfter_concat, axisAfter_concat, still, move,
      Option.getD_none, PadFrame.mk.injEq, true_and]
    ext axis inside
    rw [Vector.getElem_setIfInBounds inside]
    by_cases same : change.axis = axis <;> simp [same]

end PadFrame

/-! ### The whole slot -/

/-- The device stays in its slot after another call. -/
def extend (tenure : Tenure) (call : Call) : Tenure :=
  { tenure with since := tenure.since ++ [call] }

theorem occupant_start (device : Device) : (⟨device, []⟩ : Tenure).occupant = .ofDevice device := by
  have now : (⟨device, []⟩ : Tenure).now = [] := rfl
  have before : (⟨device, []⟩ : Tenure).before = [] := rfl
  rw [occupant, now, before, padFrame_nil]
  rfl

theorem occupant_flush (tenure : Tenure) :
    (tenure.extend .flush).occupant = tenure.occupant.flush := by
  have now : (tenure.extend .flush).now = [] := by simp [now, extend, sinceFlush_concat]
  have before : (tenure.extend .flush).before = tenure.now := by
    simp [before, extend, untilFlush_concat, Tenure.now]
  rw [occupant, now, before, padFrame_nil]
  simp only [occupant, Occupant.flush, cleared_padFrame]
  rfl

/-- A call that does not end the frame is another one of the same frame. -/
theorem occupant_extend (tenure : Tenure) {call : Call} (goes : call ≠ .flush) :
    (tenure.extend call).occupant =
      { tenure.occupant with current := tenure.padFrame (tenure.now ++ [call]) } := by
  have now : (tenure.extend call).now = tenure.now ++ [call] := by
    simp [Tenure.now, extend, sinceFlush_concat, goes]
  have before : (tenure.extend call).before = tenure.before := by
    simp [Tenure.before, extend, untilFlush_concat, goes]
  rw [occupant, now, before]
  rfl

theorem occupant_silent (tenure : Tenure) {call : Call} (goes : call ≠ .flush)
    (still : ∀ button, call.edge? tenure.device.id button = none)
    (quiet : ∀ axis, call.move? tenure.device.id axis = none) :
    (tenure.extend call).occupant = tenure.occupant := by
  rw [occupant_extend tenure goes, padFrame_concat_silent tenure tenure.now still quiet]
  rfl

end Tenure

end GamepadInput.Frame
