import GamepadInput.Proofs.Combo.Joining
import GamepadInput.Proofs.Frame.Host

/-!
# Triggering a combination

A combination that a text names can be triggered in every frame: each key that has a name is
tracked, and the host can report every mask.  Once triggered it is down until it breaks, which takes
the release of one of its keys or, if it asks for modifiers, the report of another mask; the mouse,
the pads and the end of a frame do nothing to it (`isTextDown_triggered`).
-/

namespace GamepadInput

namespace Combo

/-- What the host reports when some keys are pressed while the modifiers of a combination are held.
If there are no keys, another event reports the modifiers. -/
def triggers (combo : Combo) (pressed : List Key) : List HostEvent :=
  if pressed.isEmpty then [⟨.other, combo.modifiers⟩]
  else pressed.map fun key => ⟨.key key true, combo.modifiers⟩

/-- The mask is another one than the combination asks for.  One that asks for none takes any. -/
def refuses (combo : Combo) (mask : Modifiers) : Bool :=
  combo.modifiers ≠ .none && mask ≠ combo.modifiers

/-- The event lets go of a key of the combination, or records a mask that the combination
refuses. -/
def breaks (combo : Combo) (event : HostEvent) : Bool :=
  match event.action with
  | .key key down => (!down && decide (key ∈ combo.keys)) || combo.refuses event.modifiers
  | .other => combo.refuses event.modifiers
  | .button .. | .cursor .. | .scroll .. => false

/-- A frame can tell whether the combination is down. -/
structure IsTracked (combo : Combo) : Prop where
  something : combo.isEmpty = false
  keys : ∀ key ∈ combo.keys, key.code < Key.count

/-! ## Combinations that a text names -/

/-- A key that has a name is tracked. -/
theorem Names.tracked {token : List Char} {key : Key} (named : Names token (.key key)) :
    key.code < Key.count := by
  have listed : ∀ entry ∈ Key.names, entry.2.code < Key.count := by decide
  generalize part : Part.key key = what at named
  cases named with
  | @character c plain =>
    cases part
    rw [Text.isAlphanum_iff] at plain
    have upper := Text.toNat_toUpper c
    simp only [Key.count]
    split at upper <;> omega
  | @word _ entry _ known =>
    obtain ⟨name, other⟩ := entry
    rcases mem_vocabulary_iff.mp known with ⟨mask, -, same⟩ | ⟨other, member, same⟩ |
      ⟨n, range, -, same⟩
    · cases same.trans part.symm
    · cases same.trans part.symm
      exact listed _ member
    · cases same.trans part.symm
      simp only [Key.count, Key.functionCount] at range ⊢
      omega

theorem isTracked_of_parse {text : String} {combo : Combo} (parsed : parse text = .ok combo) :
    combo.IsTracked := by
  obtain ⟨items, reads⟩ := Reads.exists_items text.toList
  obtain ⟨-, nonempty, parts, named, rfl⟩ := answers_of_parse reads parsed
  constructor
  · rw [← Bool.not_eq_true, isEmpty_iff named]
    exact nonempty
  · intro key member
    rw [keysOf, List.mem_eraseDups, List.mem_filterMap] at member
    obtain ⟨part, listed, key_eq⟩ := member
    obtain ⟨index, inside, rfl⟩ := List.getElem_of_mem listed
    have name := List.forall₂_iff_get.mp named
    cases part : parts[index] with
    | modifiers mask => simp [part, Part.key?] at key_eq
    | key other =>
      obtain rfl : other = key := by simpa [part, Part.key?] using key_eq
      have names := name.2 index (by rw [name.1]; exact inside) inside
      rw [List.get_eq_getElem, List.get_eq_getElem, part] at names
      exact names.tracked

end Combo

namespace Frame

variable {combo : Combo} {frame : Frame}

/-- The call breaks a combination: only an event of the host can. -/
def Call.breaks (combo : Combo) : Call → Bool
  | handle event => combo.breaks event
  | hear _ | flush | disconnect _ | disconnectDevice _ => false

theorem isComboDown_iff (something : combo.isEmpty = false) :
    frame.isComboDown combo = true ↔
      combo.refuses frame.current.modifiers = false ∧
        ∀ key ∈ combo.keys, frame.current.key key = true := by
  have named : ¬(combo.modifiers = .none ∧ combo.keys = []) := by
    simpa [Combo.isEmpty] using something
  simp [isComboDown, isDown, named, Combo.refuses, modifiersEqual, allKeysDown, isKeyDown,
    Decidable.imp_iff_not_or]

/-! ## While it is down -/

/-- Whatever leaves keys and mask as they are leaves a combination down. -/
theorem isComboDown_of_same {after : Frame} (tracked : combo.IsTracked)
    (down : frame.isComboDown combo = true) (keys : after.current.keys = frame.current.keys)
    (mask : after.current.modifiers = frame.current.modifiers) :
    after.isComboDown combo = true := by
  rw [isComboDown_iff tracked.something] at down ⊢
  simpa only [Snapshot.key, keys, mask] using down

/-- An event of a key leaves a combination down if it neither lets go of one of its keys nor records
a mask that it refuses. -/
theorem isComboDown_key (tracked : combo.IsTracked) (down : frame.isComboDown combo = true)
    (key : Key) (pressed : Bool) (mask : Modifiers) :
    (frame.handle ⟨.key key pressed, mask⟩).isComboDown combo =
      !combo.breaks ⟨.key key pressed, mask⟩ := by
  have others : ∀ other ∈ combo.keys, frame.current.key other = true :=
    ((isComboDown_iff tracked.something).mp down).2
  have shown : ∀ other ∈ combo.keys,
      ((frame.handle ⟨.key key pressed, mask⟩).current.key other = true ↔
        (key = other → pressed = true)) := by
    intro other member
    rw [handle, Snapshot.key_apply _ _ (tracked.keys other member), HostEvent.keyEdge?]
    by_cases same : key = other <;> simp [same, others other member]
  have keys : (∀ other ∈ combo.keys,
      (frame.handle ⟨.key key pressed, mask⟩).current.key other = true) ↔
        (key ∈ combo.keys → pressed = true) := by
    constructor
    · intro all member
      exact (shown key member).mp (all key member) rfl
    · intro kept other member
      rw [shown other member]
      rintro rfl
      exact kept member
  rw [Bool.eq_iff_iff, isComboDown_iff tracked.something, keys]
  cases pressed <;> simp [handle, Snapshot.apply, Combo.breaks, and_comm]

/-- A call leaves a combination down that is down, unless it breaks it. -/
theorem isComboDown_perform (tracked : combo.IsTracked) (down : frame.isComboDown combo = true)
    (call : Call) : (frame.perform call).isComboDown combo = !call.breaks combo := by
  cases call with
  | hear | flush | disconnect | disconnectDevice => exact isComboDown_of_same tracked down rfl rfl
  | handle event =>
    obtain ⟨action, mask⟩ := event
    cases action with
    | button | cursor | scroll => exact isComboDown_of_same tracked down rfl rfl
    | key key pressed => exact isComboDown_key tracked down key pressed mask
    | other =>
      have keys := ((isComboDown_iff tracked.something).mp down).2
      rw [Bool.eq_iff_iff, perform, isComboDown_iff tracked.something]
      simpa [handle, Snapshot.apply, Snapshot.key, Call.breaks, Combo.breaks] using fun _ => keys

theorem isComboDown_run (tracked : combo.IsTracked) (down : frame.isComboDown combo = true)
    {calls : List Call} (unbroken : ∀ call ∈ calls, call.breaks combo = false) :
    (frame.run calls).isComboDown combo = true := by
  induction calls using List.reverseRecOn with
  | nil => exact down
  | append_singleton calls call ih =>
    have before := ih fun other member => unbroken other (by simp [member])
    rw [run_concat, isComboDown_perform tracked before, unbroken call (by simp)]
    rfl

/-! ## Bringing it down -/

/-- Of a key that is pressed among others, the last event is a press. -/
theorem last?_keyEdge?_presses (mask : Modifiers) (pressed : List Key) (key : Key) :
    last? (Call.ofHost (HostEvent.keyEdge? key))
        (pressed.map fun other => .handle ⟨.key other true, mask⟩) =
      if key ∈ pressed then some true else none := by
  induction pressed using List.reverseRecOn with
  | nil => rfl
  | append_singleton pressed other ih =>
    rw [List.map_append, List.map_singleton, last?_concat, ih]
    by_cases same : other = key <;>
      simp [Call.ofHost, HostEvent.keyEdge?, same, Ne.symm]

theorem last?_mask?_triggers (combo : Combo) (pressed : List Key) :
    last? (Call.ofHost HostEvent.mask?) ((combo.triggers pressed).map .handle) =
      some combo.modifiers := by
  unfold Combo.triggers
  cases pressed using List.reverseRecOn with
  | nil => rfl
  | append_singleton pressed key =>
    rw [if_neg (by simp), List.map_append, List.map_append, List.map_singleton, List.map_singleton,
      last?_concat]
    rfl

/-- Pressing all the keys, in any order, with the modifiers held brings a combination down in any
frame. -/
theorem isComboDown_triggers (tracked : combo.IsTracked) (frame : Frame) {pressed : List Key}
    (all : pressed.Perm combo.keys) :
    (frame.run ((combo.triggers pressed).map .handle)).isComboDown combo = true := by
  rw [isComboDown_iff tracked.something]
  constructor
  · have mask := read_current_run frame ((combo.triggers pressed).map .handle) Snapshot.modifiers
      Snapshot.modifiers_apply fun _ => rfl
    rw [mask, last?_mask?_triggers]
    simp [Combo.refuses]
  · intro key member
    have here : key ∈ pressed := all.mem_iff.mpr member
    have some_ : pressed.isEmpty = false := by
      cases pressed with
      | nil => cases here
      | cons => rfl
    have edge := read_current_run frame ((combo.triggers pressed).map .handle) (Snapshot.key · key)
      (fun snapshot event => snapshot.key_apply event (tracked.keys key member)) fun _ => rfl
    have presses := last?_keyEdge?_presses combo.modifiers pressed key
    rw [edge, Combo.triggers, some_, if_neg Bool.false_ne_true, List.map_map]
    rw [if_pos here] at presses
    exact congrArg (Option.getD · _) presses

/-- What a text names can be triggered in any frame, and is down from then on until it breaks. -/
theorem isTextDown_triggered {text : String} {combo : Combo} (parsed : Combo.parse text = .ok combo)
    (frame : Frame) {pressed : List Key} (all : pressed.Perm combo.keys) {calls : List Call}
    (unbroken : ∀ call ∈ calls, call.breaks combo = false) :
    let held := (frame.run ((combo.triggers pressed).map .handle)).run calls
    held.isTextDown text = true ∧
      ∀ call, (held.perform call).isTextDown text = !call.breaks combo := by
  intro held
  have tracked := Combo.isTracked_of_parse parsed
  have down : held.isComboDown combo = true :=
    isComboDown_run tracked (isComboDown_triggers tracked frame all) unbroken
  have answer (frame : Frame) : frame.isTextDown text = frame.isComboDown combo := by
    rw [isTextDown, parsed]
  exact ⟨(answer held).trans down, fun call =>
    (answer _).trans (isComboDown_perform tracked down call)⟩

/-- The keys are pressed in another order than the text names them.  The end of a frame, the mouse,
a pad and another key do not break the combination; the release of one of its keys does. -/
theorem isTextDown_triggered_chord :
    let combo : Combo := ⟨.ctrl, [⟨'B'.toNat⟩, ⟨'A'.toNat⟩]⟩
    let pressed : List Key := [⟨'A'.toNat⟩, ⟨'B'.toNat⟩]
    let calls : List Call := [.flush, .handle ⟨.button .left true, .shift⟩,
      .hear ⟨.atRest "Pad" 0 0 2 2 .unknown, .attached⟩, .handle ⟨.key .escape false, .ctrl⟩]
    let frame := (atRest 1).handle ⟨.key .escape true, .alt⟩
    let held := (frame.run ((combo.triggers pressed).map .handle)).run calls
    Combo.parse "b,ctrl a" = .ok combo ∧ pressed.Perm combo.keys ∧
      (∀ call ∈ calls, call.breaks combo = false) ∧ held.isTextDown "b,ctrl a" = true ∧
      (held.perform (.handle ⟨.key ⟨'B'.toNat⟩ false, .ctrl⟩)).isTextDown "b,ctrl a" = false := by
  intro combo pressed calls frame held
  have spelled : List.Forall₂ Combo.Spells
      [.key ⟨'B'.toNat⟩, .modifiers .ctrl, .key ⟨'A'.toNat⟩] ["b", "ctrl", "a"] :=
    .cons (@Combo.Spells.character 'b' _ (by decide))
      (.cons (@Combo.Spells.modifiers "CTRL" _ _ (by simp [Modifiers.names])
          (Combo.sameName_iff.mpr (by decide)))
        (.cons (@Combo.Spells.character 'a' _ (by decide)) .nil))
  have joins : Combo.Joins ["b", "ctrl", "a"] "b,ctrl a" :=
    @Combo.Joins.cons "b" "," "ctrl a" _ (by decide) (List.all_eq_true.mp (by decide))
      (@Combo.Joins.cons "ctrl" " " "a" _ (by decide) (List.all_eq_true.mp (by decide))
        (.single "a"))
  have parsed : Combo.parse "b,ctrl a" = .ok combo :=
    Combo.parse_of_writes (by decide) (.words spelled joins rfl rfl)
  have all : pressed.Perm combo.keys := by decide
  have unbroken : ∀ call ∈ calls, call.breaks combo = false := by decide
  obtain ⟨down, after⟩ := isTextDown_triggered parsed frame all unbroken
  exact ⟨parsed, all, unbroken, down, after _⟩

end Frame

end GamepadInput
