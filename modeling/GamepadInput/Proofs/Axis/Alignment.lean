import GamepadInput.Proofs.Axis.Extent
import GamepadInput.Proofs.Device.Numbering

/-!
# Slots stay with their controls

A layout is built of axes and hats, one after the other; values come and go, in any order with the
building.  The slots are those of the controls in the order in which they were laid out
(`Layout.Reached.wires_eq`), so the two slots of a hat stay side by side and a control is found at its
first slot.  A sample reaches the slots of its control only, and what it returns tells of each slot
that it gave another number (`Layout.Sets`).
-/

namespace GamepadInput.Axis

/-! ## Controls -/

/-- A control that is laid out. -/
inductive Control where
  | linear (cookie : Nat) (range : Range)
  | hat (cookie : Nat) (min max : Int)
  deriving DecidableEq, Repr

namespace Control

def cookie : Control → Nat
  | .linear cookie _ | .hat cookie _ _ => cookie

/-- Number of slots. -/
def width : Control → Nat
  | .linear _ _ => 1
  | .hat _ _ _ => 2

/-- What is behind the slots. -/
def wires : Control → List (Nat × Source)
  | .linear cookie range => [(cookie, .linear range.fixed)]
  | .hat cookie min max => [(cookie, .hat min max), (cookie, .hatSecond)]

/-- Adds the slots to a layout. -/
def layOut (layout : Layout) : Control → Layout
  | .linear cookie range => layout.pushLinear cookie range
  | .hat cookie min max => layout.pushHat cookie min max

variable {control : Control} {wire : Nat × Source} {offset : Nat}

@[simp] theorem length_wires (control : Control) : control.wires.length = control.width := by
  cases control <;> rfl

@[simp] theorem wires_layOut (layout : Layout) (control : Control) :
    (control.layOut layout).wires = layout.wires ++ control.wires := by
  cases control with
  | linear cookie range => exact Layout.wires_pushLinear layout cookie range
  | hat cookie min max => exact Layout.wires_pushHat layout cookie min max

/-- Every slot tells the control it is of. -/
theorem cookie_of_mem_wires (member : wire ∈ control.wires) : wire.1 = control.cookie := by
  cases control with
  | linear cookie range =>
    rw [List.mem_singleton.mp member]
    rfl
  | hat cookie min max =>
    obtain rfl | rfl : wire = (cookie, .hat min max) ∨ wire = (cookie, .hatSecond) := by
      simpa [wires] using member
    · rfl
    · rfl

/-- What is behind a slot of a control, by the place of the slot among those of the control. -/
inductive HasWire : Control → Nat → Nat × Source → Prop where
  | linear (cookie : Nat) (range : Range) :
      HasWire (.linear cookie range) 0 (cookie, .linear range.fixed)
  | first (cookie : Nat) (min max : Int) : HasWire (.hat cookie min max) 0 (cookie, .hat min max)
  | second (cookie : Nat) (min max : Int) : HasWire (.hat cookie min max) 1 (cookie, .hatSecond)

theorem hasWire_of_wires (here : control.wires[offset]? = some wire) :
    HasWire control offset wire := by
  cases control with
  | linear cookie range =>
    match offset with
    | 0 =>
      cases here
      exact .linear cookie range
    | _ + 1 => simp [wires] at here
  | hat cookie min max =>
    match offset with
    | 0 =>
      cases here
      exact .first cookie min max
    | 1 =>
      cases here
      exact .second cookie min max
    | _ + 2 => simp [wires] at here

end Control

namespace Layout

variable {layout before middle after : Layout} {axis : Nat} {raw : Int} {value : Binary32}
variable {controls : List Control} {news others : List (Nat × Binary32)}
variable {changes changes' : List Change}

/-- The layouts of some controls: built of them, with samples and values at any time. -/
inductive Reached : List Control → Layout → Prop where
  | empty : Reached [] .empty
  | layOut {controls : List Control} {layout : Layout} (reached : Reached controls layout)
      (control : Control) : Reached (controls ++ [control]) (control.layOut layout)
  | feed {controls : List Control} {layout after : Layout} {changes : List Change}
      (reached : Reached controls layout) (axis : Nat) (raw : Int)
      (fed : layout.feed axis raw = .ok (after, changes)) : Reached controls after
  | setNormalized {controls : List Control} {layout : Layout} (reached : Reached controls layout)
      (axis : Nat) (value : Binary32) : Reached controls (layout.setNormalized axis value).1

/-- The slots are those of the controls, in order. -/
theorem Reached.wires_eq (reached : Reached controls layout) :
    layout.wires = controls.flatMap (·.wires) := by
  induction reached with
  | empty => rfl
  | layOut reached control ih => simp [ih]
  | feed reached axis raw fed ih => rw [(feeds_of_feed fed).wires_eq, ih]
  | setNormalized reached axis value ih => exact (wires_set _ _ _).trans ih

/-! ## What is set -/

/-- Some slots are given new values, and the changes tell of those that get another number. -/
structure Sets (before after : Layout) (news : List (Nat × Binary32)) (changes : List Change) :
    Prop where
  ascending : changes.Pairwise (·.axis < ·.axis)
  mem_changes_iff (change : Change) :
    change ∈ changes ↔ (change.axis, change.value) ∈ news ∧
      before.values[change.axis]? = some change.last ∧ change.last.equals change.value = false
  holds : ∀ change ∈ changes, after.values[change.axis]? = some change.value
  keeps (place : Nat) : (∀ change ∈ changes, change.axis ≠ place) →
    after.values[place]? = before.values[place]?

/-- A slot that is given nothing new holds what it held. -/
theorem Sets.values_eq (sets : Sets before after news changes) {place : Nat}
    (other : ∀ new ∈ news, new.1 ≠ place) : after.values[place]? = before.values[place]? :=
  sets.keeps place fun change reported =>
    other (change.axis, change.value) ((sets.mem_changes_iff change).mp reported).1

theorem Sets.nil (same : after.values = before.values) : Sets before after [] [] where
  ascending := .nil
  mem_changes_iff change := by simp
  holds change reported := nomatch reported
  keeps place _ := by rw [same]

theorem Sets.congr (sets : Sets middle after news changes) (same : middle.values = before.values) :
    Sets before after news changes where
  ascending := sets.ascending
  mem_changes_iff change := by rw [← same, sets.mem_changes_iff]
  holds := sets.holds
  keeps place other := by rw [← same, sets.keeps place other]

/-- Slots are set, and then slots behind them. -/
theorem Sets.append (first : Sets before middle news changes)
    (second : Sets middle after others changes')
    (apart : ∀ new ∈ news, ∀ other ∈ others, new.1 < other.1) :
    Sets before after (news ++ others) (changes ++ changes') := by
  have below : ∀ change ∈ changes, ∀ other ∈ others, change.axis < other.1 :=
    fun change reported => apart _ ((first.mem_changes_iff change).mp reported).1
  have above : ∀ change ∈ changes', ∀ new ∈ news, new.1 < change.axis :=
    fun change reported new given =>
      apart new given _ ((second.mem_changes_iff change).mp reported).1
  constructor
  · refine List.pairwise_append.mpr ⟨first.ascending, second.ascending, ?_⟩
    exact fun change reported change' reported' =>
      below change reported _ ((second.mem_changes_iff change').mp reported').1
  · intro change
    rw [List.mem_append, List.mem_append, first.mem_changes_iff, second.mem_changes_iff, or_and_right]
    refine or_congr_right (and_congr_right fun given => ?_)
    rw [first.keeps change.axis fun earlier reported => Nat.ne_of_lt (below earlier reported _ given)]
  · intro change reported
    rcases List.mem_append.mp reported with early | late
    · have given := ((first.mem_changes_iff change).mp early).1
      rw [second.keeps change.axis fun later reported => Nat.ne_of_gt (above later reported _ given),
        first.holds change early]
    · exact second.holds change late
  · intro place other
    obtain ⟨early, late⟩ := List.forall_mem_append.mp other
    rw [second.keeps place late, first.keeps place early]

/-- Setting a slot to the number that it holds changes nothing. -/
theorem Sets.of_equal (same : ∀ last ∈ before.values[axis]?, last.equals value = true) :
    Sets before before [(axis, value)] [] where
  ascending := .nil
  mem_changes_iff change := by
    refine iff_of_false List.not_mem_nil ?_
    rintro ⟨given, found, differs⟩
    obtain ⟨place, now⟩ := Prod.mk.inj (List.mem_singleton.mp given)
    rw [place] at found
    rw [now, same change.last found] at differs
    exact Bool.noConfusion differs
  holds change reported := absurd reported List.not_mem_nil
  keeps _ _ := rfl

/-- Setting a slot to another number changes it alone. -/
theorem Sets.of_differs {last : Binary32} (here : before.values[axis]? = some last)
    (differs : last.equals value = false) (holds : after.values[axis]? = some value)
    (keeps : ∀ place, place ≠ axis → after.values[place]? = before.values[place]?) :
    Sets before after [(axis, value)] [⟨axis, value, last⟩] where
  ascending := List.pairwise_singleton _ _
  mem_changes_iff change := by
    rw [List.mem_singleton, List.mem_singleton]
    constructor
    · rintro rfl
      exact ⟨rfl, here, differs⟩
    · rintro ⟨given, found, -⟩
      obtain ⟨place, now⟩ := Prod.mk.inj given
      rw [place, here] at found
      rw [← place, ← now, Option.some.inj found]
  holds change reported := by
    rw [List.mem_singleton.mp reported]
    exact holds
  keeps place other := keeps place (other _ (List.mem_singleton_self _)).symm

theorem sets_set (layout : Layout) (axis : Nat) (value : Binary32) :
    Sets layout (layout.set axis value).1 [(axis, value)] (layout.set axis value).2 := by
  have keeps (place : Nat) (other : place ≠ axis) :
      (layout.set axis value).1.values[place]? = layout.values[place]? :=
    values_set_other other value
  cases here : layout.slots[axis]? with
  | none =>
    simp only [set, here]
    refine .of_equal ?_
    simp [getElem?_values, here]
  | some slot =>
    have holds : layout.values[axis]? = some slot.value := by
      rw [getElem?_values, here, Option.map_some]
    have inside := (Array.getElem?_eq_some_iff.mp here).1
    simp only [set, here] at keeps ⊢
    cases equal : slot.value.equals value with
    | true =>
      refine .of_equal ?_
      simp [holds, equal]
    | false =>
      rw [equal] at keeps
      exact .of_differs holds equal (by simp [getElem?_values, inside]) keeps

theorem Sets.setNormalized (layout : Layout) (axis : Nat) (value : Binary32) :
    Sets layout (layout.setNormalized axis value).1 [(axis, unitClamp value)]
      (layout.setNormalized axis value).2.toList := by
  have sets := sets_set layout axis (unitClamp value)
  have short := layout.length_set_le axis (unitClamp value)
  simp only [Layout.setNormalized]
  cases changes : (layout.set axis (unitClamp value)).2 with
  | nil => rwa [changes] at sets
  | cons change rest =>
    rw [changes, List.length_cons] at short
    have alone : rest = [] := List.eq_nil_of_length_eq_zero (by omega)
    rwa [changes, alone] at sets

/-! ## Samples -/

/-- What a sample gives to which slots, by what feeds the slot that it comes to. -/
inductive Gives (axis : Nat) (raw : Int) : Option Source → List (Nat × Binary32) → Prop where
  | outside : Gives axis raw none []
  | linear {range : Range} {value : Binary32}
      (mapped : (range.widen raw).normalize raw = .ok value) :
      Gives axis raw (some (.linear range)) [(axis, value)]
  | hat {min max : Int} {x y : Binary32} (sampled : hatSample min max raw = .ok (x, y)) :
      Gives axis raw (some (.hat min max)) [(axis, x), (axis + 1, y)]
  | second : Gives axis raw (some .hatSecond) []

/-- A sample sets the slots of its control to what it gives them. -/
theorem Feeds.exists_sets (feeds : layout.Feeds axis raw after changes) :
    ∃ news, Gives axis raw (layout.source? axis) news ∧ Sets layout after news changes := by
  cases feeds with
  | outside absent =>
    rw [source?, absent]
    exact ⟨[], .outside, .nil rfl⟩
  | @linear slot range value here source mapped =>
    rw [source?, here, Option.map_some, source]
    exact ⟨_, .linear mapped, (sets_set _ axis value).congr (values_setRange _ _ _)⟩
  | @hat slot min max x y here source sampled =>
    rw [source?, here, Option.map_some, source]
    refine ⟨_, .hat sampled, (sets_set layout axis x).append (sets_set _ (axis + 1) y) ?_⟩
    simp
  | second here source =>
    rw [source?, here, Option.map_some, source]
    exact ⟨[], .second, .nil rfl⟩

/-- A slot is its control and source with the value it holds. -/
theorem slot_eq {place : Nat} (wires : after.wires = before.wires)
    (source : after.source? place = before.source? place)
    (value : after.values[place]? = before.values[place]?) :
    after.slots[place]? = before.slots[place]? := by
  have wire := congrArg (·[place]?) wires
  simp only [getElem?_wires, source?, getElem?_values] at wire source value
  cases here : before.slots[place]? with
  | none => simpa [here] using value
  | some slot =>
    obtain ⟨other, there, same⟩ : ∃ other, after.slots[place]? = some other ∧
        other.value = slot.value := by simpa [here] using value
    rw [there, here] at wire source
    rw [there]
    have cookie : other.cookie = slot.cookie := (Prod.ext_iff.mp (Option.some.inj wire)).1
    have kind : other.source = slot.source := Option.some.inj source
    obtain ⟨_, _, _⟩ := other
    cases cookie
    cases kind
    cases same
    rfl

/-- What a sample of the slot `axis` can do. -/
structure Fed (layout : Layout) (axis : Nat) (raw : Int) (after : Layout) (changes : List Change) :
    Prop where
  /-- No control is moved. -/
  wires_eq : after.wires = layout.wires
  /-- Only the range of the slot itself can grow. -/
  source?_eq (place : Nat) : after.source? place =
    if place = axis then (layout.source? axis).map (·.widen raw) else layout.source? place
  /-- Slots are set to what the sample gives them, and the changes tell of them. -/
  exists_sets : ∃ news, Gives axis raw (layout.source? axis) news ∧ Sets layout after news changes
  /-- Slots stay as they are but the one that is fed, and if it is the first of a hat, the next. -/
  others (place : Nat) : place ≠ axis →
    (place = axis + 1 → ∀ min max, layout.source? axis ≠ some (.hat min max)) →
    after.slots[place]? = layout.slots[place]?

theorem fed_of_feed (fed : layout.feed axis raw = .ok (after, changes)) :
    Fed layout axis raw after changes := by
  have feeds := feeds_of_feed fed
  obtain ⟨news, gives, sets⟩ := feeds.exists_sets
  refine ⟨feeds.wires_eq, feeds.source?_eq, ⟨news, gives, sets⟩, fun place other next => ?_⟩
  refine slot_eq feeds.wires_eq (by rw [feeds.source?_eq, if_neg other]) (sets.values_eq ?_)
  generalize layout.source? axis = source at gives next
  cases gives with
  | outside | second => nofun
  | linear => simpa using other.symm
  | hat =>
    have apart : axis + 1 ≠ place := fun here => next here.symm _ _ rfl
    simpa using ⟨other.symm, apart⟩

theorem feed_idle (raw : Int)
    (resting : layout.source? axis = none ∨ layout.source? axis = some .hatSecond) :
    layout.feed axis raw = .ok (layout, []) := by
  cases here : layout.slots[axis]? with
  | none => simp only [feed, here]
  | some slot =>
    have kind : slot.source = .hatSecond := by simpa [source?, here] using resting
    simp only [feed, here, kind]

/-! ## Slots of the controls -/

/-- The slots of a layout stand as its controls do. -/
structure Aligned (controls : List Control) (layout : Layout) : Prop where
  wires_eq : layout.wires = controls.flatMap (·.wires)
  size_eq : layout.size = (controls.map (·.width)).sum
  size_values : layout.values.size = layout.size
  /-- The first slot of a hat is followed by the second. -/
  hat_next {place cookie : Nat} {min max : Int} {x : Binary32} :
    layout.slots[place]? = some ⟨cookie, .hat min max, x⟩ →
      ∃ y, layout.slots[place + 1]? = some ⟨cookie, .hatSecond, y⟩
  /-- The second slot of a hat follows the first. -/
  hat_before {place cookie : Nat} {y : Binary32} :
    layout.slots[place]? = some ⟨cookie, .hatSecond, y⟩ →
      ∃ first min max x, place = first + 1 ∧
        layout.slots[first]? = some ⟨cookie, .hat min max, x⟩
  /-- A control is found behind the slots of the controls before it. -/
  find?_iff (cookie place : Nat) : layout.find? cookie = some place ↔
    ∃ number control, controls[number]? = some control ∧ control.cookie = cookie ∧
      place = firstPlace Control.width controls number
  feed {axis : Nat} {raw : Int} {after : Layout} {changes : List Change} :
    layout.feed axis raw = .ok (after, changes) → Fed layout axis raw after changes
  /-- A second slot of a hat takes no samples, and neither does a slot that is not there. -/
  idle {axis : Nat} (raw : Int) :
    layout.source? axis = none ∨ layout.source? axis = some .hatSecond →
      layout.feed axis raw = .ok (layout, [])
  setNormalized (axis : Nat) (value : Binary32) :
    Sets layout (layout.setNormalized axis value).1 [(axis, unitClamp value)]
      (layout.setNormalized axis value).2.toList

variable {place cookie : Nat}

/-- A slot whose source tells all about it. -/
theorem exists_slot_of_wire {source : Source} (wired : layout.wires[place]? = some (cookie, source))
    (whole : ∀ {other : Source}, other.fixed = source ↔ other = source) :
    ∃ value, layout.slots[place]? = some ⟨cookie, source, value⟩ := by
  obtain ⟨⟨_, _, value⟩, here, rfl, kind⟩ := slot_of_wire wired
  cases whole.mp kind
  exact ⟨value, here⟩

/-- A control is found behind the slots of those before it, if none of them has its cookie. -/
theorem find?_of_controls {number : Nat} {control : Control}
    (wired : layout.wires = controls.flatMap (·.wires)) (listed : controls[number]? = some control)
    (others : ∀ other ∈ controls.take number, other.cookie ≠ control.cookie) :
    layout.find? control.cookie = some (firstPlace Control.width controls number) := by
  have first : ∃ source rest, control.wires = (control.cookie, source) :: rest ∧
      source ≠ .hatSecond := by
    cases control with
    | linear cookie range => exact ⟨_, _, rfl, nofun⟩
    | hat cookie min max => exact ⟨_, _, rfl, nofun⟩
  obtain ⟨source, rest, own, fed⟩ := first
  obtain ⟨inside, rfl⟩ := List.getElem?_eq_some_iff.mp listed
  have split : layout.wires = (controls.take number).flatMap (·.wires) ++
      (controls[number].cookie, source) ::
        (rest ++ (controls.drop (number + 1)).flatMap (·.wires)) := by
    rw [← List.cons_append, ← own, ← List.flatMap_cons, List.getElem_cons_drop,
      ← List.flatMap_append, List.take_append_drop, wired]
  rw [find?_of_wires split fed, length_flatMap_eq_sum Control.length_wires]
  · rfl
  · intro wire member
    obtain ⟨other, earlier, among⟩ := List.mem_flatMap.mp member
    rw [Control.cookie_of_mem_wires among]
    exact others other earlier

/-- A slot is one of a control. -/
theorem Reached.exists_owner (reached : Reached controls layout) {wire : Nat × Source}
    (wired : layout.wires[place]? = some wire) :
    ∃ number offset control, place = firstPlace Control.width controls number + offset ∧
      controls[number]? = some control ∧ control.HasWire offset wire := by
  rw [reached.wires_eq] at wired
  obtain ⟨number, offset, control, rfl, listed, own⟩ :=
    exists_of_getElem?_flatMap Control.length_wires wired
  exact ⟨number, offset, control, rfl, listed, Control.hasWire_of_wires own⟩

/-- The slots of a control are where the control is. -/
theorem Reached.getElem?_wires (reached : Reached controls layout) {number offset : Nat}
    {control : Control} (listed : controls[number]? = some control)
    (inside : offset < control.width) :
    layout.wires[firstPlace Control.width controls number + offset]? = control.wires[offset]? := by
  rw [reached.wires_eq]
  exact getElem?_flatMap_firstPlace Control.length_wires listed inside

theorem Reached.hat_next (reached : Reached controls layout) {min max : Int} {x : Binary32}
    (here : layout.slots[place]? = some ⟨cookie, .hat min max, x⟩) :
    ∃ y, layout.slots[place + 1]? = some ⟨cookie, .hatSecond, y⟩ := by
  have wired : layout.wires[place]? = some (cookie, .hat min max) := by
    rw [Layout.getElem?_wires, here]
    rfl
  obtain ⟨number, offset, control, rfl, listed, own⟩ := reached.exists_owner wired
  cases own
  exact exists_slot_of_wire (reached.getElem?_wires listed Nat.one_lt_two)
    Source.fixed_eq_hatSecond_iff

theorem Reached.hat_before (reached : Reached controls layout) {y : Binary32}
    (here : layout.slots[place]? = some ⟨cookie, .hatSecond, y⟩) :
    ∃ first min max x, place = first + 1 ∧
      layout.slots[first]? = some ⟨cookie, .hat min max, x⟩ := by
  have wired : layout.wires[place]? = some (cookie, .hatSecond) := by
    rw [Layout.getElem?_wires, here]
    rfl
  obtain ⟨number, offset, control, rfl, listed, own⟩ := reached.exists_owner wired
  cases own with
  | second _ min max =>
    obtain ⟨x, slot⟩ := exists_slot_of_wire (reached.getElem?_wires listed Nat.two_pos)
      Source.fixed_eq_hat_iff
    exact ⟨_, min, max, x, rfl, slot⟩

theorem Reached.find?_iff (reached : Reached controls layout)
    (distinct : (controls.map (·.cookie)).Nodup) :
    layout.find? cookie = some place ↔
      ∃ number control, controls[number]? = some control ∧ control.cookie = cookie ∧
        place = firstPlace Control.width controls number := by
  constructor
  · intro found
    obtain ⟨source, wired, fed⟩ := wire_of_find? found
    obtain ⟨number, offset, control, rfl, listed, own⟩ := reached.exists_owner wired
    refine ⟨number, control, listed, ?_⟩
    cases own with
    | linear | first => exact ⟨rfl, rfl⟩
    | second => exact absurd rfl fed
  · rintro ⟨number, control, listed, rfl, rfl⟩
    refine find?_of_controls reached.wires_eq listed fun other earlier same => ?_
    obtain ⟨inside, rfl⟩ := List.getElem?_eq_some_iff.mp listed
    obtain ⟨place, before, rfl⟩ := List.mem_take_iff_getElem.mp earlier
    have apart := List.pairwise_iff_getElem.mp distinct place number (by simp; omega)
      (by simpa using inside) (by omega)
    simp only [List.getElem_map] at apart
    exact apart same

/-- Wherever a layout of controls with different cookies has got to, its slots stand as the controls
do. -/
theorem Reached.aligned (reached : Reached controls layout)
    (distinct : (controls.map (·.cookie)).Nodup) : Aligned controls layout where
  wires_eq := reached.wires_eq
  size_eq := by rw [← length_wires, reached.wires_eq, length_flatMap_eq_sum Control.length_wires]
  size_values := by simp [values, size]
  hat_next := reached.hat_next
  hat_before := reached.hat_before
  find?_iff _ _ := reached.find?_iff distinct
  feed := fed_of_feed
  idle := feed_idle
  setNormalized := Sets.setNormalized layout

/-- A hat that was moved, and behind it an axis whose range has grown, when one more is laid out. -/
theorem Reached.aligned_grown :
    ([.hat 7 0 7, .linear 3 (.growing 0 0), .linear 0 (.declared 0 255)].map Control.cookie).Nodup ∧
    ∃ layout,
      Reached [.hat 7 0 7, .linear 3 (.growing 0 0), .linear 0 (.declared 0 255)] layout ∧
      layout.wires.length = 4 ∧
      Aligned [.hat 7 0 7, .linear 3 (.growing 0 0), .linear 0 (.declared 0 255)] layout := by
  have distinct : ([.hat 7 0 7, .linear 3 (.growing 0 0), .linear 0 (.declared 0 255)].map
      Control.cookie).Nodup := by decide
  let right : Layout :=
    ⟨#[⟨7, .hat 0 7, .one⟩, ⟨7, .hatSecond, 0⟩, ⟨3, .linear (.growing 0 0), 0⟩]⟩
  have moved : Reached [.hat 7 0 7, .linear 3 (.growing 0 0)] right :=
    ((Reached.empty.layOut (.hat 7 0 7)).layOut (.linear 3 (.growing 0 0))).feed 0 2 rfl
  obtain ⟨grown, changes, fed⟩ : ∃ grown changes, right.feed 2 5 = .ok (grown, changes) :=
    feed_ok_iff.mpr fun source here => by
      cases here
      exact .inr (by decide)
  have reached := (moved.feed 2 5 fed).layOut (.linear 0 (.declared 0 255))
  exact ⟨distinct, _, reached, by rw [reached.wires_eq]; rfl, reached.aligned distinct⟩

end Layout

end GamepadInput.Axis
