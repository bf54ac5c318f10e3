import GamepadInput.Proofs.Combo.Cursor
import GamepadInput.Proofs.Frame.Host

/-!
# Queries have answers

A query can go wrong where it indexes a table of fixed size, takes a remainder, cuts a text at a
byte, or subtracts machine words.  `Frame.ask` takes each of these steps as one that may fail, and
answers what the plain queries answer (`ask_eq`): tables, remainders and cuts never fail, but the
distance of two cursor positions may not fit the word that a position fits.
-/

namespace GamepadInput

/-- A step that has no result. -/
inductive Fault where
  | overflow (cause : Overflow)
  | divisionByZero
  | outOfRange
  deriving DecidableEq, Repr

namespace Fault

def lookUp {α : Type} {size : Nat} (table : Vector α size) (index : Nat) : Except Fault α :=
  table[index]?.elim (.error outOfRange) .ok

def remainder (a b : Nat) : Except Fault Nat := if b = 0 then .error divisionByZero else .ok (a % b)

theorem lookUp_eq {α : Type} {size : Nat} (table : Vector α size) {index : Nat}
    (inside : index < size) : lookUp table index = .ok table[index] := by
  rw [lookUp, Vector.getElem?_eq_getElem inside]
  rfl

theorem remainder_eq (a : Nat) {b : Nat} (positive : 0 < b) : remainder a b = .ok (a % b) :=
  if_neg (Nat.ne_of_gt positive)

end Fault

namespace Frame

/-- What a host can ask of a frame. -/
inductive Query where
  | isKeyDown (key : Key)
  | wasKeyPressed (key : Key)
  | wasKeyReleased (key : Key)
  | allKeysDown (keys : List Key)
  | anyKeyDown (keys : List Key)
  | isButtonDown (button : MouseButton)
  | wasButtonPressed (button : MouseButton)
  | wasButtonReleased (button : MouseButton)
  | allButtonsDown (buttons : List MouseButton)
  | anyButtonDown (buttons : List MouseButton)
  | cursor
  | cursorDelta
  | hasMouseMove
  | scroll
  | scrolled
  | modifiersDown (mask : Modifiers)
  | modifiersEqual (mask : Modifiers)
  | isDown (modifiers : Modifiers) (keys : List Key)
  | isComboDown (combo : Combo)
  | isTextDown (text : String)
  | capacity
  | slotFor (device : DeviceId)
  | slot (index : Nat)
  | isConnected (index : Nat)
  | connectedCount
  | isPadButtonDown (index button : Nat)
  | isPadButtonUp (index button : Nat)
  | wasPadButtonPressed (index button : Nat)
  | wasPadButtonReleased (index button : Nat)
  | padAxis (index axis : Nat)
  | padAxisDelta (index axis : Nat)

namespace Query

abbrev Answer : Query → Type
  | cursor | cursorDelta => Int × Int
  | scroll => Binary32 × Binary32
  | capacity | slotFor _ | connectedCount => Nat
  | slot _ => Option Slot
  | padAxis .. | padAxisDelta .. => Binary32
  | _ => Bool

/-- The answer is the distance of two cursor positions, or is made from it. -/
def measures : Query → Bool
  | cursorDelta | hasMouseMove => true
  | _ => false

end Query

/-- The distance of two cursor positions, in whole numbers. -/
def distance (frame : Frame) : Int × Int :=
  (frame.current.cursor.1 - frame.previous.cursor.1,
    frame.current.cursor.2 - frame.previous.cursor.2)

/-- What the state of a frame says. -/
def answer (frame : Frame) : (query : Query) → query.Answer
  | .isKeyDown key => frame.isKeyDown key
  | .wasKeyPressed key => frame.wasKeyPressed key
  | .wasKeyReleased key => frame.wasKeyReleased key
  | .allKeysDown keys => frame.allKeysDown keys
  | .anyKeyDown keys => frame.anyKeyDown keys
  | .isButtonDown button => frame.isButtonDown button
  | .wasButtonPressed button => frame.wasButtonPressed button
  | .wasButtonReleased button => frame.wasButtonReleased button
  | .allButtonsDown buttons => frame.allButtonsDown buttons
  | .anyButtonDown buttons => frame.anyButtonDown buttons
  | .cursor => frame.cursor
  | .cursorDelta => frame.distance
  | .hasMouseMove => decide (frame.distance ≠ (0, 0))
  | .scroll => frame.scroll
  | .scrolled => frame.scrolled
  | .modifiersDown mask => frame.modifiersDown mask
  | .modifiersEqual mask => frame.modifiersEqual mask
  | .isDown modifiers keys => frame.isDown modifiers keys
  | .isComboDown combo => frame.isComboDown combo
  | .isTextDown text => frame.isTextDown text
  | .capacity => frame.capacity
  | .slotFor device => frame.slotFor device
  | .slot index => frame.slot? index
  | .isConnected index => frame.isConnected index
  | .connectedCount => frame.connectedCount
  | .isPadButtonDown index button => frame.isPadButtonDown index button
  | .isPadButtonUp index button => frame.isPadButtonUp index button
  | .wasPadButtonPressed index button => frame.wasPadButtonPressed index button
  | .wasPadButtonReleased index button => frame.wasPadButtonReleased index button
  | .padAxis index axis => frame.padAxis index axis
  | .padAxisDelta index axis => frame.padAxisDelta index axis

/-- The answer to a query, unless a step on the way fails. -/
def ask (frame : Frame) : (query : Query) → Except Fault query.Answer
  | .isButtonDown button => now button
  | .wasButtonPressed button => return (← now button) && !(← before button)
  | .wasButtonReleased button => return !(← now button) && (← before button)
  | .allButtonsDown buttons => buttons.allM now
  | .anyButtonDown buttons => buttons.anyM now
  | .cursorDelta => frame.cursorDelta.mapError .overflow
  | .hasMouseMove => frame.hasMouseMove.mapError .overflow
  | .isTextDown text =>
    match Combo.scan? text.toList .empty 0 with
    | none => .error .outOfRange
    | some (.error _) => .ok false
    | some (.ok combo) => .ok (!combo.isEmpty && frame.isComboDown combo)
  | .slotFor device => Fault.remainder device frame.capacity
  -- The others look up what may be missing, and count.
  | query => .ok (frame.answer query)
where
  now (button : MouseButton) : Except Fault Bool :=
    Fault.lookUp frame.current.buttons button.index
  before (button : MouseButton) : Except Fault Bool :=
    Fault.lookUp frame.previous.buttons button.index

/-! ## One frame -/

section Answers

variable (frame : Frame)

theorem now_eq : ask.now frame = fun button => pure (frame.isButtonDown button) :=
  funext fun button => Fault.lookUp_eq _ button.index.isLt

theorem before_eq : ask.before frame = fun button => pure (frame.previous.button button) :=
  funext fun button => Fault.lookUp_eq _ button.index.isLt

/-- Reading a text cuts it between characters only. -/
theorem ask_isTextDown (text : String) :
    frame.ask (.isTextDown text) = .ok (frame.isTextDown text) := by
  have whole := @Combo.scan?_eq [] text.toList .empty 0 rfl
  rw [List.nil_append] at whole
  simp only [ask, whole, isTextDown, Combo.parse]
  cases read : Combo.empty.read 0 text.toList with
  | error cause => rfl
  | ok combo =>
    cases nothing : combo.isEmpty with
    | true => simp [bind, Except.bind, nothing]
    | false => simp [bind, Except.bind, nothing]

/-- The cursor is within reach of where it was at the last flush: its distance fits a word. -/
def InReach : Prop := FitsWord 32 frame.distance.1 ∧ FitsWord 32 frame.distance.2

instance : Decidable frame.InReach := inferInstanceAs (Decidable (_ ∧ _))

theorem cursorDelta_eq :
    frame.cursorDelta = if frame.InReach then .ok frame.distance else .error .subtract := by
  by_cases across : FitsWord 32 frame.distance.1
  · have dx : checkedSub 32 frame.current.cursor.1 frame.previous.cursor.1 =
        .ok frame.distance.1 := if_pos across
    by_cases down : FitsWord 32 frame.distance.2
    · have dy : checkedSub 32 frame.current.cursor.2 frame.previous.cursor.2 =
          .ok frame.distance.2 := if_pos down
      rw [cursorDelta, dx, dy, if_pos ⟨across, down⟩]
      rfl
    · have dy : checkedSub 32 frame.current.cursor.2 frame.previous.cursor.2 =
          .error .subtract := if_neg down
      rw [cursorDelta, dx, dy, if_neg fun both => down both.2]
      rfl
  · have dx : checkedSub 32 frame.current.cursor.1 frame.previous.cursor.1 =
        .error .subtract := if_neg across
    rw [cursorDelta, dx, if_neg fun both => across both.1]
    rfl

/-- A query is answered as the state says, unless the answer needs a distance that does not fit. -/
theorem ask_eq (query : Query) :
    frame.ask query =
      if query.measures = true ∧ ¬frame.InReach then .error (.overflow .subtract)
      else .ok (frame.answer query) := by
  cases query with
  | isButtonDown button =>
    simp only [ask, now_eq]
    rfl
  | wasButtonPressed button | wasButtonReleased button =>
    simp only [ask, now_eq, before_eq]
    rfl
  | allButtonsDown buttons =>
    simp only [ask, now_eq, List.allM_pure]
    rfl
  | anyButtonDown buttons =>
    simp only [ask, now_eq, List.anyM_pure]
    rfl
  | cursorDelta =>
    simp only [ask, cursorDelta_eq]
    by_cases fits : frame.InReach <;> simp [fits, Query.measures, answer, Except.mapError]
  | hasMouseMove =>
    simp only [ask, hasMouseMove, cursorDelta_eq]
    by_cases fits : frame.InReach <;> simp [fits, Query.measures, answer, Except.mapError]
  | isTextDown text => exact frame.ask_isTextDown text
  | slotFor device => exact Fault.remainder_eq device frame.capacity_pos
  | _ => rfl

end Answers

/-! ## Frames that calls lead to -/

/-- How far calls moved the cursor since the last flush among them. -/
def moved (calls : List Call) : Int × Int :=
  ((cursorAfter calls).1 - (cursorAfter (untilFlush calls)).1,
    (cursorAfter calls).2 - (cursorAfter (untilFlush calls)).2)

theorem distance_run (slots : Nat) (calls : List Call) :
    ((atRest slots).run calls).distance = moved calls := by
  rw [distance, previous_run, cursor_run, cursor_run]
  rfl

/-- After any calls every query is answered as the state says, but for the distance of a cursor that
was moved further than its word reaches. -/
theorem ask_run (slots : Nat) (calls : List Call) (query : Query) :
    ((atRest slots).run calls).ask query =
      if query.measures = true ∧ ¬(FitsWord 32 (moved calls).1 ∧ FitsWord 32 (moved calls).2) then
        .error (.overflow .subtract)
      else .ok (((atRest slots).run calls).answer query) := by
  rw [← distance_run slots]
  exact ask_eq _ query

/-- The positions that a call moves the cursor to are words. -/
def Call.FitsWords (call : Call) : Prop :=
  ∀ position ∈ call.ofHost HostEvent.position?, FitsWord 32 position.1 ∧ FitsWord 32 position.2

/-- The cursor goes from one end of its word to the other within one frame. -/
def acrossWord : List Call :=
  [.handle ⟨.cursor (-0x80000000) 0, .none⟩, .flush, .handle ⟨.cursor 0x7FFFFFFF 0, .none⟩]

theorem not_answered_acrossWord :
    ¬∀ slots calls query, (∀ call ∈ calls, Call.FitsWords call) →
      ∃ answer, ((atRest slots).run calls).ask query = .ok answer := by
  intro answered
  have words : ∀ call ∈ acrossWord, Call.FitsWords call := by
    intro call member
    simp only [acrossWord, List.mem_cons, List.not_mem_nil, or_false] at member
    rcases member with rfl | rfl | rfl
    · rintro position ⟨⟩
      decide
    · rintro position ⟨⟩
    · rintro position ⟨⟩
      decide
  obtain ⟨answer, returned⟩ := answered 1 acrossWord .hasMouseMove words
  have far : ((atRest 1).run acrossWord).ask .hasMouseMove = .error (.overflow .subtract) := by
    decide
  rw [far] at returned
  cases returned

end Frame

end GamepadInput
