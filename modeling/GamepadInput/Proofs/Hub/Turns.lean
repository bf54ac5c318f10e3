import GamepadInput.Proofs.Hub.Standing
import GamepadInput.Proofs.Lifecycle

/-!
# The story of a device in a hub

Operations of a hub take a device from one standing to the next by turns.  The story of a device
relates where it stands to what was heard of it; every turn carries it on (`Story.turn`), so
whatever operations a backend makes of these, what is heard of a device is a life in order.
-/

namespace GamepadInput

variable {α : Type}

/-- What an operation does to a device: where it stands before and after, and what is heard. -/
inductive Turn : Standing α → Standing α → List EventKind → Prop where
  | join {entry : Entry α} : Turn .absent (.present entry false []) []
  | report {entry : Entry α} {announced : Bool} {waiting kinds : List EventKind} (data : α)
      (isInput : ∀ kind ∈ kinds, kind.isInput = true) :
      Turn (.present entry announced waiting)
        (.present { entry with data } announced (waiting ++ kinds)) []
  | unplug {entry : Entry α} {announced : Bool} {waiting : List EventKind} :
      Turn (.present entry announced waiting) (if announced then .unplugged entry else .gone) []
  | detect {standing : Standing α} :
      Turn standing standing.detected (standing.announcement.map (·.kind))
  | process {standing : Standing α} :
      Turn standing standing.processed (standing.delivery.map (·.kind))

/-- Turns in order. -/
inductive Turns : Standing α → Standing α → List EventKind → Prop where
  | nil {standing : Standing α} : Turns standing standing []
  | cons {standing next after : Standing α} {kinds others : List EventKind}
      (turn : Turn standing next kinds) (rest : Turns next after others) :
      Turns standing after (kinds ++ others)

/-- Where a device stands, and what was heard of it. -/
inductive Story : Standing α → List EventKind → Prop where
  | absent : Story .absent []
  | present {entry : Entry α} {announced : Bool} {inputs waiting : List EventKind}
      (isInput : ∀ kind ∈ inputs, kind.isInput = true)
      (waits : ∀ kind ∈ waiting, kind.isInput = true) (quiet : announced = false → inputs = []) :
      Story (.present entry announced waiting) (if announced then .attached :: inputs else [])
  | unplugged {entry : Entry α} {inputs : List EventKind}
      (isInput : ∀ kind ∈ inputs, kind.isInput = true) :
      Story (.unplugged entry) (.attached :: inputs)
  /-- Gone before it was announced. -/
  | silent : Story .gone []
  /-- Gone by a shutdown. -/
  | dropped {inputs : List EventKind} (isInput : ∀ kind ∈ inputs, kind.isInput = true) :
      Story .gone (.attached :: inputs)
  | left {inputs : List EventKind} (isInput : ∀ kind ∈ inputs, kind.isInput = true) :
      Story .gone (.attached :: inputs ++ [.removed])

namespace Turns

variable {standing next after : Standing α} {kinds others : List EventKind}

theorem single (turn : Turn standing after kinds) : Turns standing after kinds := by
  simpa using cons turn .nil

theorem append (turns : Turns standing next kinds) (rest : Turns next after others) :
    Turns standing after (kinds ++ others) := by
  induction turns with
  | nil => exact rest
  | cons turn _ ih => simpa using cons turn (ih rest)

/-- Nothing happens to a device that is gone. -/
theorem of_gone (turns : Turns .gone after kinds) : after = .gone ∧ kinds = [] := by
  generalize start : (Standing.gone : Standing α) = standing at turns
  induction turns with
  | nil => exact ⟨rfl, rfl⟩
  | cons turn _ ih =>
    subst start
    cases turn with
    | detect | process => exact ih rfl

/-- Of an unplugged device nothing but its removal is heard. -/
theorem of_unplugged {entry : Entry α} (turns : Turns (.unplugged entry) after kinds) :
    (after = .unplugged entry ∨ after = .gone) ∧ ∀ kind ∈ kinds, kind.isInput = false := by
  generalize start : Standing.unplugged entry = standing at turns
  induction turns with
  | nil => exact ⟨.inl rfl, nofun⟩
  | cons turn rest ih =>
    subst start
    cases turn with
    | detect =>
      obtain ⟨gone, rfl⟩ := rest.of_gone
      exact ⟨.inr gone, by simp [Standing.announcement, EventKind.isInput]⟩
    | process => exact ih rfl

end Turns

namespace Story

variable {standing after : Standing α} {heard kinds : List EventKind}

/-- A live device of which nothing was heard is still to be announced. -/
theorem unannounced {entry : Entry α} {announced : Bool} {waiting : List EventKind}
    (story : Story (.present entry announced waiting) heard) (unheard : heard = []) :
    announced = false := by
  cases story with
  | present =>
    cases announced with
    | true => cases unheard
    | false => rfl

/-- One of which something was heard is announced. -/
theorem announced {entry : Entry α} {announced : Bool} {waiting : List EventKind}
    (story : Story (.present entry announced waiting) heard) (told : heard ≠ []) :
    announced = true := by
  cases story with
  | present =>
    cases announced with
    | true => rfl
    | false => exact absurd rfl told

/-- Only input waits. -/
theorem queued_isInput (story : Story standing heard) :
    ∀ kind ∈ standing.queued, kind.isInput = true := by
  cases story with
  | present _ waits => exact waits
  | absent | unplugged | silent | dropped | left => nofun

theorem removed_not_mem {inputs : List EventKind} (isInput : ∀ kind ∈ inputs, kind.isInput = true) :
    .removed ∉ inputs := by
  intro member
  cases isInput _ member

theorem orderly (story : Story standing heard) : standing.orderly := by
  cases story with
  | present _ waits => exact fun member => removed_not_mem waits (List.dropLast_subset _ member)
  | absent | unplugged | silent | dropped | left => trivial

/-- A turn carries the story of a device on. -/
theorem turn (story : Story standing heard) (turn : Turn standing after kinds) :
    Story after (heard ++ kinds) := by
  cases story with
  | absent =>
    cases turn with
    | @join entry =>
      exact @present _ entry false [] [] (List.forall_mem_nil _) (List.forall_mem_nil _) fun _ => rfl
    | detect | process => exact .absent
  | @present entry announced inputs waiting isInput waits quiet =>
    cases turn with
    | @report _ _ _ kinds data more =>
      rw [List.append_nil]
      refine present isInput ?_ quiet
      intro kind member
      exact (List.mem_append.mp member).elim (waits kind) (more kind)
    | unplug =>
      cases announced with
      | true => simpa using unplugged isInput
      | false => exact .silent
    | detect =>
      have onward {told : List EventKind} (inputs : ∀ kind ∈ told, kind.isInput = true) :
          Story (.present entry true waiting) (.attached :: told) :=
        @present _ entry true told waiting inputs waits (by simp)
      cases announced with
      | true =>
        simpa [Standing.detected, Standing.announcement, Standing.heralds] using onward isInput
      | false =>
        simpa [Standing.detected, Standing.announcement, Standing.heralds] using
          onward (List.forall_mem_nil _)
    | process =>
      have stays := removed_not_mem waits
      have all : ∀ kind ∈ inputs ++ waiting, kind.isInput = true := fun kind member =>
        (List.mem_append.mp member).elim (isInput kind) (waits kind)
      have onward := @present _ { entry with device := entry.device.replay waiting }
        (announced || !waiting.isEmpty) (inputs ++ waiting) [] all (List.forall_mem_nil _)
      rw [Standing.processed, if_neg stays, Standing.delivery]
      cases announced with
      | true => cases waiting <;> simpa [Standing.heralds] using onward (by simp)
      | false =>
        cases quiet rfl
        cases waiting <;> simpa [Standing.heralds] using onward (by simp)
  | unplugged isInput =>
    cases turn with
    | detect => simpa [Standing.detected, Standing.announcement] using left isInput
    | process => simpa [Standing.processed, Standing.delivery] using unplugged isInput
  | silent =>
    obtain ⟨rfl, rfl⟩ := (Turns.single turn).of_gone
    exact .silent
  | dropped isInput =>
    obtain ⟨rfl, rfl⟩ := (Turns.single turn).of_gone
    simpa using dropped isInput
  | left isInput =>
    obtain ⟨rfl, rfl⟩ := (Turns.single turn).of_gone
    simpa using left isInput

theorem turns (story : Story standing heard) (turns : Turns standing after kinds) :
    Story after (heard ++ kinds) := by
  induction turns generalizing heard with
  | nil => simpa using story
  | cons turn _ ih => simpa using ih (story.turn turn)

/-- A shutdown ends the story without a word. -/
theorem cleared (story : Story standing heard) : Story standing.cleared heard := by
  cases story with
  | absent => exact .absent
  | @present entry announced inputs waiting isInput waits quiet =>
    cases announced with
    | true => exact .dropped isInput
    | false => exact .silent
  | unplugged isInput | dropped isInput => exact .dropped isInput
  | silent => exact .silent
  | left isInput => exact .left isInput

/-- A turn by which a device goes lets it be heard to go, if it was heard at all. -/
private theorem quits_turn (story : Story standing heard) (turn : Turn standing after kinds)
    (goes : after = .gone) (alive : standing ≠ .gone) :
    heard ++ kinds = [] ∨ .removed ∈ heard ++ kinds := by
  cases turn with
  | join | report => cases goes
  | @unplug entry announced waiting =>
    cases announced with
    | true => cases goes
    | false =>
      cases story with
      | present => exact .inl rfl
  | detect =>
    cases standing with
    | absent | present => cases goes
    | unplugged entry => exact .inr (by simp [Standing.announcement])
    | gone => exact absurd rfl alive
  | process =>
    cases standing with
    | absent | unplugged => cases goes
    | present entry announced waiting =>
      have stays : .removed ∉ waiting := removed_not_mem story.queued_isInput
      rw [Standing.processed, if_neg stays] at goes
      cases goes
    | gone => exact absurd rfl alive

/-- So a device that is gone without a shutdown was heard to go, if it was heard at all. -/
theorem quits (story : Story standing heard) (turns : Turns standing after kinds)
    (goes : after = .gone) (alive : standing ≠ .gone) :
    heard ++ kinds = [] ∨ .removed ∈ heard ++ kinds := by
  induction turns generalizing heard with
  | nil => exact absurd goes alive
  | @cons standing next after kinds others turn rest ih =>
    rw [← List.append_assoc]
    by_cases gone : next = .gone
    · -- the turn by which it goes is the last that does anything
      subst gone
      obtain ⟨-, rfl⟩ := rest.of_gone
      simpa using story.quits_turn turn rfl alive
    · exact ih (story.turn turn) goes gone

/-- Once nothing of it waits, a device is live just if it was heard to come and not to go. -/
theorem live_iff (story : Story standing heard) (drained : standing.isDrained = true)
    (quits : standing = .gone → heard = [] ∨ .removed ∈ heard) :
    standing.live?.isSome = true ↔ .attached ∈ heard ∧ .removed ∉ heard := by
  cases story with
  | absent => simp [Standing.live?]
  | @present entry announced inputs waiting isInput =>
    simp only [Standing.isDrained, Bool.and_eq_true] at drained
    simp [Standing.live?, drained.1, removed_not_mem isInput]
  | unplugged => cases drained
  | silent | dropped | left =>
    rcases quits rfl with unheard | removed
    · simp [Standing.live?, unheard]
    · simp [Standing.live?, removed]

theorem lifecycle (story : Story standing heard) : Lifecycle heard := by
  cases story with
  | absent | silent => exact .unheard
  | @present entry announced inputs waiting isInput waits quiet =>
    cases announced with
    | true => exact .connected isInput
    | false => exact .unheard
  | unplugged isInput | dropped isInput => exact .connected isInput
  | left isInput => exact .disconnected isInput

end Story

/-! ## Operations of a hub -/

/-- From one hub to another every device goes by turns, `notices` being what is heard meanwhile. -/
def Hub.Carries (hub : Hub α) (notices : List Notice) (after : Hub α) : Prop :=
  ∀ id standing heard, hub.Stands id standing → Story standing heard →
    ∃ next, Turns standing next ((heardOf notices id).map (·.kind)) ∧ after.Stands id next

namespace Hub.Carries

variable {hub middle after : Hub α} {first second : List Notice}

theorem refl (hub : Hub α) : hub.Carries [] hub :=
  fun _ standing _ stands _ => ⟨standing, .nil, stands⟩

theorem trans (there : hub.Carries first middle) (onward : middle.Carries second after) :
    hub.Carries (first ++ second) after := by
  intro id standing heard stands story
  obtain ⟨next, turns, arrives⟩ := there id standing heard stands story
  obtain ⟨last, more, ends⟩ := onward id next _ arrives (story.turns turns)
  refine ⟨last, ?_, ends⟩
  rw [heardOf_append, List.map_append]
  exact turns.append more

theorem attach (hub : Hub α) (device : Device) (data : α) :
    hub.Carries [] (hub.attach device data).1 := by
  intro id standing heard stands story
  by_cases next : hub.registry.nextId = id
  · have absent : standing.isAbsent = true := stands.absent_iff.mpr (Nat.le_of_eq next)
    cases standing with
    | present | unplugged | gone => cases absent
    | absent => exact ⟨_, .single .join, stands.attach_self next device data⟩
  · exact ⟨standing, .nil, stands.attach_other next device data⟩

theorem report (hub : Hub α) {id : DeviceId} (live : (hub.registry.get? id).isSome = true)
    {kinds : List EventKind} (isInput : ∀ kind ∈ kinds, kind.isInput = true) (data : α) :
    hub.Carries [] (hub.report id kinds data) := by
  intro other standing heard stands story
  by_cases here : id = other
  · subst here
    rw [stands.get?_eq] at live
    cases standing with
    | absent | unplugged | gone => cases live
    | present entry announced waiting =>
      exact ⟨_, .single (.report data isInput), stands.report_self kinds data⟩
  · exact ⟨standing, .nil, stands.report_other here kinds data⟩

theorem unplug (hub : Hub α) (id : DeviceId) : hub.Carries [] (hub.unplug id) := by
  intro other standing heard stands story
  by_cases here : id = other
  · subst here
    cases standing with
    | absent | unplugged | gone =>
      exact ⟨_, .nil, by simpa [Hub.unplug, stands.unplug?_none rfl] using stands⟩
    | present entry announced waiting =>
      obtain ⟨next, unplugged, -, arrives⟩ := stands.unplug?_present
      exact ⟨_, .single .unplug, by simpa [Hub.unplug, unplugged] using arrives⟩
  · exact ⟨standing, .nil, stands.unplug_other here⟩

theorem dispatchDevices (hub : Hub α) :
    hub.Carries (Dispatch.notices hub.dispatchDevices.2) hub.dispatchDevices.1 := by
  intro id standing heard stands story
  obtain ⟨arrives, told⟩ := stands.dispatchDevices
  rw [told]
  exact ⟨_, .single .detect, arrives⟩

theorem dispatchAnnounced (hub : Hub α) :
    hub.Carries (Dispatch.notices hub.dispatchAnnounced.2) hub.dispatchAnnounced.1 := by
  intro id standing heard stands story
  obtain ⟨arrives, told⟩ := stands.dispatchAnnounced story.orderly
  rw [told]
  exact ⟨_, .single .process, arrives⟩

end Hub.Carries

/-! ## Runs of a backend -/

/-- Operations in order, between which the hub may be cleared. -/
inductive Hub.Path : Hub α → List Notice → Hub α → Prop where
  | nil {hub : Hub α} : Path hub [] hub
  | carry {hub middle after : Hub α} {notices others : List Notice}
      (carries : hub.Carries notices middle) (rest : Path middle others after) :
      Path hub (notices ++ others) after
  | clear {hub after : Hub α} {notices : List Notice} (rest : Path hub.clear notices after) :
      Path hub notices after

namespace Hub.Path

variable {hub middle after : Hub α} {notices others : List Notice} {id : DeviceId}
  {standing : Standing α} {heard : List EventKind}

theorem append (path : Hub.Path hub notices middle) (rest : Hub.Path middle others after) :
    Hub.Path hub (notices ++ others) after := by
  induction path with
  | nil => exact rest
  | carry carries _ ih => simpa using carry carries (ih rest)
  | clear _ ih => exact clear (ih rest)

theorem single (carries : hub.Carries notices after) : Hub.Path hub notices after := by
  simpa using carry carries nil

/-- What turns keep, and clearing too, holds at the end. -/
theorem keeps {P : Standing α → List EventKind → Prop}
    (turns : ∀ {standing next : Standing α} {heard kinds : List EventKind}, P standing heard →
      Turns standing next kinds → P next (heard ++ kinds))
    (cleared : ∀ {standing : Standing α} {heard : List EventKind}, P standing heard →
      P standing.cleared heard)
    {told : List EventKind} (path : Hub.Path hub notices after) (stands : hub.Stands id standing)
    (story : Story standing told) (kept : P standing heard) :
    ∃ next, after.Stands id next ∧ Story next (told ++ (heardOf notices id).map (·.kind)) ∧
      P next (heard ++ (heardOf notices id).map (·.kind)) := by
  induction path generalizing standing told heard with
  | nil => exact ⟨standing, stands, by simpa using story, by simpa using kept⟩
  | carry carries _ ih =>
    obtain ⟨next, more, arrives⟩ := carries id standing told stands story
    obtain ⟨last, ends, tale, holds⟩ := ih arrives (story.turns more) (turns kept more)
    refine ⟨last, ends, ?_, ?_⟩
    · simpa only [heardOf_append, List.map_append, List.append_assoc] using tale
    · simpa only [heardOf_append, List.map_append, List.append_assoc] using holds
  | clear _ ih => exact ih stands.clear story.cleared (cleared kept)

theorem story (path : Hub.Path hub notices after) (stands : hub.Stands id standing)
    (story : Story standing heard) :
    ∃ next, after.Stands id next ∧ Story next (heard ++ (heardOf notices id).map (·.kind)) := by
  obtain ⟨next, arrives, tale, -⟩ :=
    path.keeps (P := Story) Story.turns Story.cleared stands story story
  exact ⟨next, arrives, tale⟩

/-- Nothing more is heard of a device that is gone. -/
theorem of_gone (path : Hub.Path hub notices after) (stands : hub.Stands id .gone) :
    heardOf notices id = [] := by
  obtain ⟨next, -, -, -, silent⟩ := path.keeps
    (P := fun standing heard => standing = .gone ∧ heard = [])
    (fun kept turns => by
      obtain ⟨rfl, rfl⟩ := kept
      obtain ⟨rfl, rfl⟩ := turns.of_gone
      exact ⟨rfl, rfl⟩)
    (fun kept => by
      obtain ⟨rfl, rfl⟩ := kept
      exact ⟨rfl, rfl⟩)
    stands .silent ⟨rfl, rfl⟩
  simpa using silent

/-- Of a device that was unplugged no input is heard any more. -/
theorem of_unplugged {entry : Entry α} (path : Hub.Path hub notices after)
    (stands : hub.Stands id (.unplugged entry)) :
    ∀ kind ∈ (heardOf notices id).map (·.kind), kind.isInput = false := by
  have told : Story (.unplugged entry) [.attached] := .unplugged nofun
  obtain ⟨next, -, -, -, lifeless⟩ := path.keeps
    (P := fun standing heard => (standing = .unplugged entry ∨ standing = .gone) ∧
      ∀ kind ∈ heard, kind.isInput = false)
    (fun {_ _ heard kinds} kept turns => by
      obtain ⟨rfl | rfl, lifeless⟩ := kept
      · obtain ⟨away, more⟩ := turns.of_unplugged
        exact ⟨away, fun kind member => (List.mem_append.mp member).elim (lifeless kind) (more kind)⟩
      · obtain ⟨rfl, rfl⟩ := turns.of_gone
        exact ⟨.inr rfl, by simpa using lifeless⟩)
    (fun kept => by
      obtain ⟨rfl | rfl, lifeless⟩ := kept <;> exact ⟨.inr rfl, lifeless⟩)
    stands told ⟨.inl rfl, List.forall_mem_nil _⟩
  simpa using lifeless

end Hub.Path

end GamepadInput
