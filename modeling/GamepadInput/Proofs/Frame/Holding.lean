import GamepadInput.Proofs.Frame.History

/-!
# Holding a slot from one frame to the next

A device that holds a slot when a frame is shown came in that frame, or held the slot in the frame
before and stayed (`tenure?_append`).  Quiet calls, in which no input is heard and no frame ends,
change nothing of what a holder shows (`tenure?_frame`).
-/

namespace GamepadInput

namespace EventKind

/-- The state that a change brings a button to. -/
def edge? (button : Nat) : EventKind → Option Bool
  | .button index down => if index = button then some down else none
  | _ => none

/-- The value that a change brings an axis to. -/
def move? (axis : Nat) : EventKind → Option Binary32
  | .axis change => if change.axis = axis then some change.value else none
  | _ => none

end EventKind

namespace Frame

/-! ## The last call of a kind -/

section Splits

variable {α : Type} {pick : Call → Option α} {calls before since : List Call} {found : α}

theorem eq_of_splitLast? (split : splitLast? pick calls = some (before, found, since)) :
    ∃ call, pick call = some found ∧ calls = before ++ call :: since := by
  induction calls generalizing before with
  | nil => cases split
  | cons call rest ih =>
    rw [splitLast?] at split
    cases later : splitLast? pick rest with
    | some parts =>
      obtain ⟨until_, last, after⟩ := parts
      simp only [later, Option.some.injEq, Prod.mk.injEq] at split
      obtain ⟨rfl, rfl, rfl⟩ := split
      obtain ⟨taken, picked, rfl⟩ := ih later
      exact ⟨taken, picked, rfl⟩
    | none =>
      simp only [later, Option.map_eq_some_iff, Prod.mk.injEq] at split
      obtain ⟨last, picked, rfl, rfl, rfl⟩ := split
      exact ⟨call, picked, rfl⟩

theorem splitLast?_eq_none (others : ∀ call ∈ calls, pick call = none) :
    splitLast? pick calls = none := by
  cases split : splitLast? pick calls with
  | none => rfl
  | some parts =>
    obtain ⟨until_, last, after⟩ := parts
    obtain ⟨call, picked, rfl⟩ := eq_of_splitLast? split
    rw [others call (by simp)] at picked
    cases picked

theorem last?_eq_none (others : ∀ call ∈ calls, pick call = none) : last? pick calls = none := by
  have nothing : calls.filterMap pick = [] := List.filterMap_eq_nil_iff.mpr others
  rw [last?, nothing]
  rfl

theorem last?_append (first second : List Call) :
    last? pick (first ++ second) = (last? pick second).or (last? pick first) := by
  simp only [last?, List.filterMap_append, List.getLast?_append]

theorem splitLast?_flush (goes : .flush ∉ calls) : splitLast? Call.flush? calls = none := by
  refine splitLast?_eq_none fun call member => ?_
  cases call with
  | flush => exact absurd member goes
  | hear | handle | disconnect | disconnectDevice => rfl

/-- What follows the last flush is the frame that is shown. -/
theorem sinceFlush_flush (first : List Call) {second : List Call} (goes : .flush ∉ second) :
    sinceFlush (first ++ .flush :: second) = second := by
  rw [sinceFlush, splitLast?_append, splitLast?, splitLast?_flush goes]
  rfl

theorem untilFlush_flush (first : List Call) {second : List Call} (goes : .flush ∉ second) :
    untilFlush (first ++ .flush :: second) = first := by
  rw [untilFlush, splitLast?_append, splitLast?, splitLast?_flush goes]
  exact List.append_nil first

theorem sinceFlush_append (first : List Call) {second : List Call} (goes : .flush ∉ second) :
    sinceFlush (first ++ second) = sinceFlush first ++ second := by
  unfold sinceFlush
  rw [splitLast?_append, splitLast?_flush goes]
  cases splitLast? Call.flush? first <;> rfl

theorem sinceFlush_eq_self (goes : .flush ∉ calls) : sinceFlush calls = calls := by
  rw [sinceFlush, splitLast?_flush goes]
  rfl

theorem untilFlush_eq_nil (goes : .flush ∉ calls) : untilFlush calls = [] := by
  rw [untilFlush, splitLast?_flush goes]
  rfl

end Splits

/-! ## Holders -/

section Holders

variable {capacity index : Nat} {calls first second : List Call} {tenure : Tenure}

/-- The holder of a slot was attached, and nothing took it out since. -/
theorem attach_of_tenure? (held : tenure? capacity index calls = some tenure) :
    (∃ before, calls = before ++ .hear ⟨tenure.device, .attached⟩ :: tenure.since) ∧
      tenure.since.any (Call.vacates index tenure.device.id) = false := by
  unfold tenure? at held
  obtain ⟨⟨before, device, since⟩, split, stays⟩ := Option.bind_eq_some_iff.mp held
  obtain ⟨kept, ⟨⟩⟩ := Option.ite_none_left_eq_some.mp stays
  obtain ⟨call, attaches, rfl⟩ := eq_of_splitLast? split
  obtain ⟨rfl, -⟩ := attaches?_eq_some.mp attaches
  exact ⟨⟨before, rfl⟩, by simpa using kept⟩

/-- The holder of a slot after some calls and more came with the latter, or it held the slot before
them and nothing in them took it out. -/
theorem tenure?_append (held : tenure? capacity index (first ++ second) = some tenure) :
    tenure? capacity index second = some tenure ∨
      ∃ earlier, tenure? capacity index first = some ⟨tenure.device, earlier⟩ ∧
        tenure.since = earlier ++ second ∧
        second.any (Call.vacates index tenure.device.id) = false := by
  unfold tenure? at held ⊢
  rw [splitLast?_append] at held
  cases later : splitLast? (Call.attaches? capacity index) second with
  | some parts =>
    simp only [later] at held
    exact .inl held
  | none =>
    simp only [later] at held
    obtain ⟨parts, split, stays⟩ := Option.bind_eq_some_iff.mp held
    obtain ⟨⟨before, device, earlier⟩, there, rfl⟩ := Option.map_eq_some_iff.mp split
    obtain ⟨kept, ⟨⟩⟩ := Option.ite_none_left_eq_some.mp stays
    rw [List.any_append, Bool.or_eq_true, not_or, Bool.not_eq_true, Bool.not_eq_true] at kept
    refine .inr ⟨earlier, ?_, rfl, kept.2⟩
    have stayed : earlier.any (Call.vacates index device.id) = false := kept.1
    simp only [there, Option.bind_some, stayed]
    rfl

/-- A device that holds a slot by what was heard alone was attached in it, and stayed. -/
theorem heard_attach {notices : List Notice}
    (held : tenure? capacity index (notices.map .hear) = some tenure) :
    ∃ ahead after, notices = ahead ++ ⟨tenure.device, .attached⟩ :: after ∧
      tenure.since = after.map .hear ∧
      (after.map .hear).any (Call.vacates index tenure.device.id) = false := by
  obtain ⟨⟨before, split⟩, stays⟩ := attach_of_tenure? held
  obtain ⟨ahead, rest, rfl, -, newer⟩ := List.map_eq_append_iff.mp split
  obtain ⟨notice, after, rfl, same, onward⟩ := List.map_eq_cons_iff.mp newer
  cases same
  rw [← onward] at stays
  exact ⟨ahead, after, rfl, onward.symm, stays⟩

/-- The end of a frame leaves every slot to its holder. -/
theorem held_flush (held : tenure? capacity index (first ++ [.flush]) = some tenure) :
    ∃ earlier, tenure.since = earlier ++ [.flush] ∧
      tenure? capacity index first = some ⟨tenure.device, earlier⟩ := by
  rcases tenure?_append held with attached | ⟨earlier, there, since, -⟩
  · cases attached
  · exact ⟨earlier, since, there⟩

end Holders

/-! ## From one frame to the next -/

/-- A call in which no input is heard and no frame ends. -/
def Call.isQuiet : Call → Bool
  | .hear notice => !notice.kind.isInput
  | .flush => false
  | .handle _ | .disconnect _ | .disconnectDevice _ => true

section Quiet

variable {call : Call} {quiet : List Call} (device : DeviceId)

theorem edge?_isQuiet (silent : call.isQuiet = true) (button : Nat) :
    call.edge? device button = none := by
  unfold Call.edge?
  split
  · cases silent
  · rfl

theorem flush_not_mem (silent : ∀ call ∈ quiet, call.isQuiet = true) : .flush ∉ quiet := by
  intro member
  cases silent _ member

theorem flush_not_mem_hear (notices : List Notice) : Call.flush ∉ notices.map .hear := by
  simp

end Quiet

/-- How the holder of a slot came to hold it: the calls so far are those up to the frame before,
quiet ones, and the notices of the frame that is shown. -/
inductive Holding (capacity index : Nat) (first quiet : List Call) (notices : List Notice)
    (tenure : Tenure) : Prop where
  /-- It held the slot in the frame before. -/
  | stayed (earlier : List Call)
      (held : tenure? capacity index first = some ⟨tenure.device, earlier⟩)
      (now : tenure.now = notices.map .hear)
      (was : ∀ button, tenure.wasDown button = (⟨tenure.device, earlier⟩ : Tenure).isDown button)
  /-- It came between the frames. -/
  | joined (attached : .hear ⟨tenure.device, .attached⟩ ∈ quiet)
      (now : tenure.now = notices.map .hear) (was : ∀ button, tenure.wasDown button = false)
  /-- It came in the frame that is shown. -/
  | arrived (ahead after : List Notice)
      (attached : notices = ahead ++ ⟨tenure.device, .attached⟩ :: after)
      (now : tenure.now = after.map .hear) (was : ∀ button, tenure.wasDown button = false)

theorem holding_of_tenure? {capacity index : Nat} {first quiet : List Call} {notices : List Notice}
    {tenure : Tenure} (silent : ∀ call ∈ quiet, call.isQuiet = true)
    (held : tenure? capacity index (first ++ quiet ++ .flush :: notices.map .hear) = some tenure) :
    Holding capacity index first quiet notices tenure := by
  have goes := flush_not_mem silent
  rw [List.append_cons] at held
  rcases tenure?_append held with arrived | ⟨earlier, there, since, -⟩
  · obtain ⟨ahead, after, rfl, since, -⟩ := heard_attach arrived
    refine .arrived ahead after rfl ?_ ?_
    · rw [Tenure.now, since, sinceFlush_eq_self (flush_not_mem_hear after)]
    · intro button
      rw [Tenure.wasDown, Tenure.before, since, untilFlush_eq_nil (flush_not_mem_hear after)]
      rfl
  · have now : tenure.now = notices.map .hear := by
      obtain ⟨before, rfl, -⟩ := held_flush there
      rw [Tenure.now, since, ← List.append_cons, sinceFlush_flush before (flush_not_mem_hear notices)]
    obtain ⟨before, rfl, there⟩ := held_flush there
    have shown : tenure.before = sinceFlush before := by
      rw [Tenure.before, since, ← List.append_cons,
        untilFlush_flush before (flush_not_mem_hear notices)]
    rcases tenure?_append there with joined | ⟨older, there, rfl, -⟩
    · obtain ⟨⟨ahead, split⟩, -⟩ := attach_of_tenure? joined
      have part : ∀ call ∈ before, call ∈ quiet := fun call member => by
        rw [split]
        exact List.mem_append_right _ (List.mem_cons_of_mem _ member)
      refine .joined ?_ now ?_
      · rw [split]
        simp
      · intro button
        have up : last? (Call.edge? tenure.device.id button) before = none :=
          last?_eq_none fun call member => edge?_isQuiet _ (silent call (part call member)) button
        rw [Tenure.wasDown, shown, sinceFlush_eq_self (fun member => goes (part _ member)),
          Tenure.buttonAfter, up]
        rfl
    · refine .stayed older there now fun button => ?_
      have still : last? (Call.edge? tenure.device.id button) quiet = none :=
        last?_eq_none fun call member => edge?_isQuiet _ (silent call member) button
      rw [Tenure.wasDown, shown, sinceFlush_append older goes, Tenure.isDown, Tenure.buttonAfter,
        last?_append, still]
      rfl

end Frame

end GamepadInput
