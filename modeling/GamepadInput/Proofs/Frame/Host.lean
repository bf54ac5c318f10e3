import GamepadInput.Proofs.Frame.History

/-!
# What a frame shows of keyboard and mouse

Keyboard and mouse are told by the host's events and the flushes alone.  What an event sets stays
until another event sets it (`read_current_run`), the frame before shows what was current when it
was flushed (`previous_run`), and no other call changes either snapshot (`current_run_filter`).
-/

namespace GamepadInput

namespace HostEvent

/-- The state that the event brings a key to. -/
def keyEdge? (key : Key) : HostEvent → Option Bool
  | ⟨.key other down, _⟩ => if other = key then some down else none
  | _ => none

/-- The state that the event brings a mouse button to. -/
def buttonEdge? (button : MouseButton) : HostEvent → Option Bool
  | ⟨.button other down, _⟩ => if other = button then some down else none
  | _ => none

/-- The position that the event moves the cursor to. -/
def position? : HostEvent → Option (Int × Int)
  | ⟨.cursor x y, _⟩ => some (x, y)
  | _ => none

/-- The modifiers that the event records.  An event of the mouse records none. -/
def mask? : HostEvent → Option Modifiers
  | ⟨.key _ _, mask⟩ | ⟨.other, mask⟩ => some mask
  | _ => none

/-- How far the event turns the wheel. -/
def turn? : HostEvent → Option (Binary32 × Binary32)
  | ⟨.scroll dx dy, _⟩ => some (dx, dy)
  | _ => none

end HostEvent

namespace Snapshot

variable (snapshot : Snapshot) (event : HostEvent)

theorem key_of_le {key : Key} (past : Key.count ≤ key.code) : snapshot.key key = false := by
  simp [Snapshot.key, past]

theorem key_apply {key : Key} (tracked : key.code < Key.count) :
    (snapshot.apply event).key key = (event.keyEdge? key).getD (snapshot.key key) := by
  obtain ⟨action, mask⟩ := event
  cases action with
  | button | cursor | scroll | other => rfl
  | key other down =>
    simp only [Snapshot.key, apply, HostEvent.keyEdge?]
    by_cases same : other = key
    · simp [same, tracked]
    · have apart : other.code ≠ key.code := fun codes => same (by cases other; cases key; simp_all)
      simp [same, Vector.getElem?_setIfInBounds_ne apart]

theorem button_apply (button : MouseButton) :
    (snapshot.apply event).button button =
      (event.buttonEdge? button).getD (snapshot.button button) := by
  obtain ⟨action, mask⟩ := event
  cases action with
  | key | cursor | scroll | other => rfl
  | button other down =>
    cases other <;> cases button <;>
      simp [Snapshot.button, apply, HostEvent.buttonEdge?, MouseButton.index]

theorem cursor_apply : (snapshot.apply event).cursor = event.position?.getD snapshot.cursor := by
  obtain ⟨action, mask⟩ := event
  cases action <;> rfl

theorem modifiers_apply :
    (snapshot.apply event).modifiers = event.mask?.getD snapshot.modifiers := by
  obtain ⟨action, mask⟩ := event
  cases action <;> rfl

theorem scroll_apply : (snapshot.apply event).scroll = event.turn?.elim snapshot.scroll
    fun turn => (snapshot.scroll.1.add turn.1, snapshot.scroll.2.add turn.2) := by
  obtain ⟨action, mask⟩ := event
  cases action <;> rfl

end Snapshot

namespace Frame

namespace Call

/-- What is found in an event of the host; nothing is in any other call. -/
def ofHost {α : Type} (pick : HostEvent → Option α) : Call → Option α
  | handle event => pick event
  | _ => none

/-- The host reports, or the frame ends. -/
def isHost : Call → Bool
  | handle _ | flush => true
  | hear _ | disconnect _ | disconnectDevice _ => false

end Call

/-! ## What calls say of keyboard and mouse -/

/-- The key is tracked, and the last event of it pressed it. -/
def KeyDown (calls : List Call) (key : Key) : Prop :=
  key.code < Key.count ∧ last? (Call.ofHost (HostEvent.keyEdge? key)) calls = some true

/-- The last event of the mouse button pressed it. -/
def ButtonDown (calls : List Call) (button : MouseButton) : Prop :=
  last? (Call.ofHost (HostEvent.buttonEdge? button)) calls = some true

/-- Where the cursor was moved last; it starts at the origin. -/
def cursorAfter (calls : List Call) : Int × Int :=
  (last? (Call.ofHost HostEvent.position?) calls).getD (0, 0)

/-- The modifiers recorded last; none are held at first. -/
def modifiersAfter (calls : List Call) : Modifiers :=
  (last? (Call.ofHost HostEvent.mask?) calls).getD .none

/-- The turns of the wheel among some calls, added up in order. -/
def scrollOver (calls : List Call) : Binary32 × Binary32 :=
  (calls.filterMap (Call.ofHost HostEvent.turn?)).foldl
    (fun sum turn => (sum.1.add turn.1, sum.2.add turn.2)) (0, 0)

/-! ## One call -/

section Steps

variable (frame : Frame) (call : Call)

theorem current_perform :
    (frame.perform call).current =
      match call with
      | .handle event => frame.current.apply event
      | .flush => { frame.current with scroll := (0, 0) }
      | _ => frame.current := by
  cases call <;> rfl

theorem previous_perform :
    (frame.perform call).previous = if call = .flush then frame.current else frame.previous := by
  cases call <;> rfl

end Steps

/-! ## Any calls -/

section Runs

variable (frame : Frame) (calls : List Call)

/-- What every event sets or leaves, and what the end of a frame keeps, is as it was set last. -/
theorem read_current_run {α : Type} (read : Snapshot → α) {pick : HostEvent → Option α}
    (sets : ∀ snapshot event, read (snapshot.apply event) = (pick event).getD (read snapshot))
    (keeps : ∀ snapshot : Snapshot, read { snapshot with scroll := (0, 0) } = read snapshot) :
    read (frame.run calls).current =
      (last? (Call.ofHost pick) calls).getD (read frame.current) := by
  induction calls using List.reverseRecOn with
  | nil => rfl
  | append_singleton calls call ih =>
    rw [run_concat, current_perform, last?_concat]
    cases call with
    | handle event =>
      rw [sets, ih]
      cases found : pick event <;> simp [Call.ofHost, found]
    | flush => rw [keeps, ih]; rfl
    | hear | disconnect | disconnectDevice => exact ih

/-- The wheel counts from the last flush. -/
theorem scroll_run (rest : frame.current.scroll = (0, 0)) :
    (frame.run calls).current.scroll = scrollOver (sinceFlush calls) := by
  induction calls using List.reverseRecOn with
  | nil => exact rest
  | append_singleton calls call ih =>
    rw [run_concat, current_perform, sinceFlush_concat]
    cases call with
    | handle event =>
      rw [Snapshot.scroll_apply, ih, if_neg nofun]
      cases found : event.turn? <;> simp [scrollOver, Call.ofHost, found]
    | flush => rfl
    | hear | disconnect | disconnectDevice =>
      rw [ih, if_neg nofun, scrollOver, scrollOver, List.filterMap_append]
      exact congrArg (List.foldl _ _) (List.append_nil _).symm

/-- The frame before shows what was current at the last flush. -/
theorem previous_run (slots : Nat) :
    ((atRest slots).run calls).previous = ((atRest slots).run (untilFlush calls)).current := by
  induction calls using List.reverseRecOn with
  | nil => rfl
  | append_singleton calls call ih =>
    rw [run_concat, previous_perform, untilFlush_concat]
    split
    · rfl
    · exact ih

/-- Calls that are not the host's change neither snapshot. -/
theorem current_run_filter :
    (frame.run calls).current = (frame.run (calls.filter Call.isHost)).current ∧
      (frame.run calls).previous = (frame.run (calls.filter Call.isHost)).previous := by
  induction calls using List.reverseRecOn with
  | nil => exact ⟨rfl, rfl⟩
  | append_singleton calls call ih =>
    obtain ⟨current, previous⟩ := ih
    rw [List.filter_append]
    cases call with
    | handle | flush =>
      simp only [List.filter_cons, Call.isHost, if_true, List.filter_nil, run_concat,
        current_perform, previous_perform, current, previous, and_self]
    | hear | disconnect | disconnectDevice =>
      simpa [List.filter_cons, Call.isHost, run_concat, current_perform, previous_perform]
        using And.intro current previous

end Runs

/-! ## Queries -/

section Queries

variable (slots : Nat) (calls : List Call)

theorem key_run (key : Key) :
    ((atRest slots).run calls).current.key key = true ↔ KeyDown calls key := by
  unfold KeyDown
  by_cases tracked : key.code < Key.count
  · have start : (atRest slots).current.key key = false := by
      simp [atRest, Snapshot.atRest, Snapshot.key, tracked]
    rw [read_current_run _ calls (Snapshot.key · key)
      (fun snapshot event => snapshot.key_apply event tracked) fun _ => rfl, start]
    simp [tracked, Option.getD_eq_iff]
  · simp [tracked, Snapshot.key_of_le _ (Nat.le_of_not_lt tracked)]

theorem button_run (button : MouseButton) :
    ((atRest slots).run calls).current.button button = true ↔ ButtonDown calls button := by
  have start : (atRest slots).current.button button = false := by
    simp [atRest, Snapshot.atRest, Snapshot.button]
  rw [read_current_run _ calls (Snapshot.button · button)
    (fun snapshot event => snapshot.button_apply event button) fun _ => rfl, start]
  simp [ButtonDown, Option.getD_eq_iff]

theorem cursor_run : ((atRest slots).run calls).current.cursor = cursorAfter calls :=
  read_current_run _ calls Snapshot.cursor Snapshot.cursor_apply fun _ => rfl

theorem modifiers_run : ((atRest slots).run calls).current.modifiers = modifiersAfter calls :=
  read_current_run _ calls Snapshot.modifiers Snapshot.modifiers_apply fun _ => rfl

end Queries

/-- What a frame answers about keyboard and mouse is what the host's events so far say. -/
structure ShowsHost (calls : List Call) (frame : Frame) : Prop where
  isKeyDown_iff : ∀ key, frame.isKeyDown key = true ↔ KeyDown calls key
  wasKeyPressed_iff : ∀ key, frame.wasKeyPressed key = true ↔
    KeyDown calls key ∧ ¬KeyDown (untilFlush calls) key
  wasKeyReleased_iff : ∀ key, frame.wasKeyReleased key = true ↔
    ¬KeyDown calls key ∧ KeyDown (untilFlush calls) key
  isButtonDown_iff : ∀ button, frame.isButtonDown button = true ↔ ButtonDown calls button
  wasButtonPressed_iff : ∀ button, frame.wasButtonPressed button = true ↔
    ButtonDown calls button ∧ ¬ButtonDown (untilFlush calls) button
  wasButtonReleased_iff : ∀ button, frame.wasButtonReleased button = true ↔
    ¬ButtonDown calls button ∧ ButtonDown (untilFlush calls) button
  cursor_eq : frame.cursor = cursorAfter calls
  previous_cursor_eq : frame.previous.cursor = cursorAfter (untilFlush calls)
  modifiers_eq : frame.current.modifiers = modifiersAfter calls
  scroll_eq : frame.scroll = scrollOver (sinceFlush calls)

/-- After any calls, a frame shows of keyboard and mouse what the host's events say, and both its
snapshots are as if nothing but these events and the flushes had happened. -/
theorem shows_host (slots : Nat) (calls : List Call) :
    ShowsHost calls ((atRest slots).run calls) ∧
      ((atRest slots).run calls).current =
        ((atRest slots).run (calls.filter Call.isHost)).current ∧
      ((atRest slots).run calls).previous =
        ((atRest slots).run (calls.filter Call.isHost)).previous := by
  have keys (calls : List Call) (key : Key) := key_run slots calls key
  have buttons (calls : List Call) (button : MouseButton) := button_run slots calls button
  refine ⟨?_, current_run_filter (atRest slots) calls⟩
  exact {
    isKeyDown_iff := keys calls
    wasKeyPressed_iff := fun key => by
      rw [wasKeyPressed, previous_run, ← keys, ← keys]
      simp
    wasKeyReleased_iff := fun key => by
      rw [wasKeyReleased, previous_run, ← keys, ← keys]
      simp
    isButtonDown_iff := buttons calls
    wasButtonPressed_iff := fun button => by
      rw [wasButtonPressed, previous_run, ← buttons, ← buttons]
      simp
    wasButtonReleased_iff := fun button => by
      rw [wasButtonReleased, previous_run, ← buttons, ← buttons]
      simp
    cursor_eq := cursor_run slots calls
    previous_cursor_eq := by rw [previous_run, cursor_run]
    modifiers_eq := modifiers_run slots calls
    scroll_eq := scroll_run (atRest slots) calls rfl }

end GamepadInput.Frame
