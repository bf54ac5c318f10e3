import GamepadInput.Evdev.Decoder
import GamepadInput.Proofs.Axis.Bounds
import GamepadInput.Proofs.Axis.Wiring
import GamepadInput.Proofs.Device.Changes
import Mathlib.Data.List.Induction
import Mathlib.Data.List.Nodup
import Mathlib.Data.List.Pairwise

/-!
# Controls of a node, and what its samples make of them

A decoder numbers the controls of its node without gaps (`Numbers`): buttons by ascending code, axes
in the order of their ranges.  What it reports of samples takes a record at rest to the decoder's
own state, and a button is down if the last value of its code was another than zero
(`Decoder.decodeAll_ofControls`).
-/

namespace GamepadInput.Evdev

/-! ## Numbering -/

namespace ButtonMap

theorem number?_empty (code : Nat) : empty.number? code = none := by
  rw [number?, empty, Vector.getElem?_replicate]
  split
  · rfl
  · split <;> rfl

theorem number?_add (map : ButtonMap) {code : Nat} (first : firstButton ≤ code)
    (last : code < keyBits) (other : Nat) :
    (map.add code).number? other = if other = code then some map.count else map.number? other := by
  have inside : code - firstButton < keyBits - firstButton := by omega
  by_cases below : other < firstButton
  · rw [number?, number?, if_pos below, if_pos below, if_neg (by omega)]
  · have same : code - firstButton = other - firstButton ↔ other = code := by omega
    rw [number?, number?, if_neg below, if_neg below, add, Vector.getElem?_setIfInBounds]
    simp only [same, inside, if_true]
    split <;> rfl

/-- What comes of numbering codes: each has its place among those that the node has. -/
theorem number?_foldl (keys : CodeSet keyBits) {codes : List Nat} (distinct : codes.Nodup)
    (inside : ∀ code ∈ codes, firstButton ≤ code ∧ code < keyBits) :
    let map := codes.foldl (fun map code => if keys.has code then map.add code else map) empty
    map.count = (codes.filter keys.has).length ∧
      ∀ code, map.number? code = (codes.filter keys.has).idxOf? code := by
  induction codes using List.reverseRecOn with
  | nil => exact ⟨rfl, number?_empty⟩
  | append_singleton codes last ih =>
    obtain ⟨before, -, apart⟩ := List.nodup_append.mp distinct
    obtain ⟨count, numbers⟩ := ih before fun code member => inside code (by simp [member])
    rw [List.foldl_append, List.foldl_cons, List.foldl_nil, List.filter_append]
    cases has : keys.has last with
    | false => simpa [has] using ⟨count, numbers⟩
    | true =>
      have new : last ∉ codes.filter keys.has := fun member =>
        apart last (List.mem_of_mem_filter member) last (by simp) rfl
      have added : [last].filter keys.has = [last] := by simp [has]
      rw [if_pos rfl, added]
      refine ⟨by rw [List.length_append, ← count]; rfl, fun code => ?_⟩
      obtain ⟨first, limit⟩ := inside last (by simp)
      rw [number?_add _ first limit, numbers, count, List.idxOf?, List.findIdx?_append]
      by_cases same : code = last
      · subst same
        have nowhere : (codes.filter keys.has).findIdx? (· == code) = none :=
          List.idxOf?_eq_none_iff.mpr new
        simp [nowhere]
      · have differ : (last == code) = false := beq_eq_false_iff_ne.mpr (Ne.symm same)
        simp [same, differ]

end ButtonMap

/-- The codes in use are numbered from zero without gaps, in the order `before`. -/
structure Numbers (inUse : Nat → Prop) (before : Nat → Nat → Prop) (number? : Nat → Option Nat)
    (count : Nat) : Prop where
  isSome_iff (code : Nat) : (number? code).isSome = true ↔ inUse code
  lt_count {code number : Nat} : number? code = some number → number < count
  onto {number : Nat} : number < count → ∃ code, number? code = some number
  injective {code other number : Nat} :
    number? code = some number → number? other = some number → code = other
  lt_iff {code other number later : Nat} : number? code = some number → number? other = some later →
    (number < later ↔ before code other)

theorem getElem?_of_idxOf? {codes : List Nat} {code number : Nat}
    (found : codes.idxOf? code = some number) : codes[number]? = some code := by
  obtain ⟨inside, here, -⟩ := List.findIdx?_eq_some_iff_getElem.mp found
  rw [List.getElem?_eq_getElem inside]
  exact congrArg some (by simpa using here)

theorem idxOf?_eq_some_iff {codes : List Nat} {code number : Nat} (distinct : codes.Nodup) :
    codes.idxOf? code = some number ↔ codes[number]? = some code := by
  refine ⟨getElem?_of_idxOf?, fun here => ?_⟩
  obtain ⟨inside, here⟩ := List.getElem?_eq_some_iff.mp here
  rw [List.idxOf?, List.findIdx?_eq_some_iff_getElem]
  refine ⟨inside, by simpa using here, fun earlier lower same => ?_⟩
  have same : codes[earlier] = codes[number] := by
    rw [here]
    simpa using same
  exact absurd ((distinct.getElem_inj_iff).mp same) (Nat.ne_of_lt lower)

/-- Places in an ordered list number what is in it. -/
theorem numbers_idxOf? {codes : List Nat} {before : Nat → Nat → Prop}
    (asymmetric : ∀ code other, before code other → ¬before other code)
    (ordered : codes.Pairwise before) :
    Numbers (· ∈ codes) before codes.idxOf? codes.length := by
  have distinct : codes.Nodup := ordered.imp fun {code other} first same => by
    subst same
    exact asymmetric code code first first
  have place {code number : Nat} :
      codes.idxOf? code = some number ↔ codes[number]? = some code := idxOf?_eq_some_iff distinct
  have follows {number later : Nat} {code other : Nat} (here : codes[number]? = some code)
      (there : codes[later]? = some other) (lower : number < later) : before code other := by
    obtain ⟨inside, rfl⟩ := List.getElem?_eq_some_iff.mp here
    obtain ⟨inside', rfl⟩ := List.getElem?_eq_some_iff.mp there
    exact List.pairwise_iff_getElem.mp ordered number later inside inside' lower
  refine ⟨fun code => ?_, fun here => ?_, fun inside => ?_, fun here there => ?_,
    fun here there => ⟨fun lower => follows (place.mp here) (place.mp there) lower, fun first => ?_⟩⟩
  · rw [List.isSome_idxOf?]
  · exact (List.getElem?_eq_some_iff.mp (place.mp here)).1
  · exact ⟨_, place.mpr (List.getElem?_eq_getElem inside)⟩
  · exact Option.some.inj ((place.mp here).symm.trans (place.mp there))
  · rename_i code other number later
    rcases Nat.lt_trichotomy number later with lower | same | higher
    · exact lower
    · subst same
      have same := Option.some.inj ((place.mp here).symm.trans (place.mp there))
      subst same
      exact absurd first (asymmetric code code first)
    · exact absurd first (asymmetric _ _ (follows (place.mp there) (place.mp here) higher))

/-- The code is that of a button, and the node has it. -/
def IsButton (keys : CodeSet keyBits) (code : Nat) : Prop :=
  firstButton ≤ code ∧ code < keyBits ∧ keys.has code = true

/-- The code has a range that can be normalized. -/
def IsAxis (ranges : List CodeRange) (code : Nat) : Prop :=
  ∃ range ∈ ranges, range.code = code ∧ range.min ≠ range.max

/-- The range of one code is listed before that of another. -/
def ListedBefore (ranges : List CodeRange) (code other : Nat) : Prop :=
  (ranges.map (·.code)).idxOf code < (ranges.map (·.code)).idxOf other

/-- The sample is one of the key `code`. -/
def Sample.isOfKey (sample : Sample) (code : Nat) : Bool :=
  sample.kind = keyKind && sample.code = code

/-- Whether the key `code` is down after some samples, if it was `held` before them: the last value
of the key decides. -/
def isDown (samples : List Sample) (code : Nat) (held : Bool) : Bool :=
  (((samples.filter (·.isOfKey code)).getLast?).map (·.value != 0)).getD held

theorem isDown_single (sample : Sample) (code : Nat) (held : Bool) :
    isDown [sample] code held = if sample.isOfKey code = true then sample.value != 0 else held := by
  unfold isDown
  split <;> simp_all

theorem isDown_append (samples more : List Sample) (code : Nat) (held : Bool) :
    isDown (samples ++ more) code held = isDown more code (isDown samples code held) := by
  simp only [isDown, List.filter_append, List.getLast?_append]
  cases (more.filter (·.isOfKey code)).getLast? <;> simp

namespace Decoder

/-- Takes samples in order, and reports what changed. -/
def decodeAll (decoder : Decoder) : List Sample → Except Overflow (Decoder × List EventKind)
  | [] => .ok (decoder, [])
  | sample :: rest => do
    let (decoder, kinds) ← decoder.decode sample
    let (decoder, more) ← decoder.decodeAll rest
    pure (decoder, kinds ++ more)

/-- Key codes of the buttons of a node, ascending. -/
def buttonsOf (keys : CodeSet keyBits) : List Nat :=
  (List.range' firstButton (keyBits - firstButton)).filter keys.has

theorem mem_range_buttons {code : Nat} :
    code ∈ List.range' firstButton (keyBits - firstButton) ↔
      firstButton ≤ code ∧ code < keyBits := by
  have all : firstButton + (keyBits - firstButton) = keyBits := rfl
  rw [List.mem_range'_1, all]

theorem mem_buttonsOf {keys : CodeSet keyBits} {code : Nat} :
    code ∈ buttonsOf keys ↔ IsButton keys code := by
  rw [buttonsOf, List.mem_filter, mem_range_buttons, and_assoc, IsButton]

/-- The number of a key code is its place among the buttons of the node. -/
theorem button?_ofControls (keys : CodeSet keyBits) (ranges : List CodeRange) :
    (ofControls keys ranges).buttonCount = (buttonsOf keys).length ∧
      ∀ code, (ofControls keys ranges).button? code = (buttonsOf keys).idxOf? code := by
  have distinct : (List.range' firstButton (keyBits - firstButton)).Nodup := List.nodup_range'
  simp only [buttonCount, button?, ofControls, ButtonMap.ofKeys, buttonsOf]
  exact ButtonMap.number?_foldl keys distinct fun _ member => mem_range_buttons.mp member

theorem numbers_button? (keys : CodeSet keyBits) (ranges : List CodeRange) :
    Numbers (IsButton keys) (· < ·) (ofControls keys ranges).button?
      (ofControls keys ranges).buttonCount := by
  obtain ⟨count, number⟩ := button?_ofControls keys ranges
  have ordered : (buttonsOf keys).Pairwise (· < ·) := List.Pairwise.filter _ List.pairwise_lt_range'
  have numbers := numbers_idxOf? (fun _ _ => Nat.lt_asymm) ordered
  rw [show (· ∈ buttonsOf keys) = IsButton keys from funext fun _ => propext mem_buttonsOf]
    at numbers
  rw [count, funext number]
  exact numbers

theorem wires_layoutOf (ranges : List CodeRange) :
    (layoutOf ranges).wires = (ranges.filter (·.isUsed)).map fun range =>
      (range.code, .linear (.declared range.min range.max)) := by
  have extended (used : List CodeRange) (layout : Axis.Layout) :
      (used.foldl (fun layout range =>
        layout.pushLinear range.code (.declared range.min range.max)) layout).wires =
      layout.wires ++ used.map fun range =>
        (range.code, .linear (.declared range.min range.max)) := by
    induction used generalizing layout with
    | nil => simp
    | cons range rest ih => simp [ih]
  rw [layoutOf, extended, Axis.Layout.wires_empty, List.nil_append]

/-- Axes are found by their code alone: no slot is the second of a hat. -/
theorem find?_layoutOf (ranges : List CodeRange) (code : Nat) :
    (layoutOf ranges).find? code = ((ranges.filter (·.isUsed)).map (·.code)).idxOf? code := by
  rw [Axis.Layout.find?_eq, wires_layoutOf, List.idxOf?, List.findIdx?_map, List.findIdx?_map]
  refine congrArg (List.findIdx? · _) (funext fun range => ?_)
  change (_ && _) = (range.code == code)
  rw [Bool.eq_iff_iff]
  simp

theorem listedBefore_pairwise {ranges : List CodeRange} (distinct : (ranges.map (·.code)).Nodup) :
    (ranges.map (·.code)).Pairwise (ListedBefore ranges) := by
  rw [List.pairwise_iff_getElem]
  intro number later inside inside' lower
  rwa [ListedBefore, distinct.idxOf_getElem, distinct.idxOf_getElem]

theorem numbers_find? (keys : CodeSet keyBits) {ranges : List CodeRange}
    (distinct : (ranges.map (·.code)).Nodup) (codes : ∀ range ∈ ranges, range.code < axisBits) :
    Numbers (IsAxis ranges) (ListedBefore ranges) (ofControls keys ranges).layout.find?
      (ofControls keys ranges).axisCount := by
  have used : ((ranges.filter (·.isUsed)).map (·.code)).Sublist (ranges.map (·.code)) :=
    List.filter_sublist.map _
  have numbers := numbers_idxOf? (fun _ _ => Nat.lt_asymm)
    ((listedBefore_pairwise distinct).sublist used)
  have inUse : (· ∈ (ranges.filter (·.isUsed)).map (·.code)) = IsAxis ranges := by
    refine funext fun code => propext ?_
    simp only [List.mem_map, List.mem_filter, CodeRange.isUsed, Bool.and_eq_true, decide_eq_true_eq,
      bne_iff_ne, IsAxis]
    constructor
    · rintro ⟨range, ⟨listed, -, extent⟩, is_⟩
      exact ⟨range, listed, is_, extent⟩
    · rintro ⟨range, listed, is_, extent⟩
      exact ⟨range, ⟨listed, codes range listed, extent⟩, is_⟩
  have found : (ofControls keys ranges).layout.find? =
      ((ranges.filter (·.isUsed)).map (·.code)).idxOf? := funext (find?_layoutOf ranges)
  have count : (ofControls keys ranges).axisCount =
      ((ranges.filter (·.isUsed)).map (·.code)).length := by
    rw [axisCount, ← Axis.Layout.length_wires]
    simp [ofControls, wires_layoutOf]
  rw [found, count, ← inUse]
  exact numbers

/-! ## One sample -/

variable {before after : Decoder} {samples : List Sample} {kinds : List EventKind}

/-- What a decoder made of some samples. -/
structure Moved (before : Decoder) (samples : List Sample) (after : Decoder)
    (kinds : List EventKind) : Prop where
  buttons_eq : after.buttons = before.buttons
  wires_eq : after.layout.wires = before.layout.wires
  /-- A mapped key is down as its last value says. -/
  pressed {code number : Nat} : before.button? code = some number →
    after.pressed[number]? = before.pressed[number]?.map (isDown samples code)
  /-- The events take a record from the state before to the state after. -/
  leads (device : Device) : device.axes = before.layout.values → device.buttons = before.pressed →
    device.LeadsTo kinds after.layout.values after.pressed

theorem Moved.nil (decoder : Decoder) : decoder.Moved [] decoder [] where
  buttons_eq := rfl
  wires_eq := rfl
  pressed := fun {code number} _ => by
    rw [show isDown [] code = id from rfl, Option.map_id, id]
  leads := fun device axes buttons => axes ▸ buttons ▸ .nil device

theorem Moved.append {middle : Decoder} {more : List Sample} {others : List EventKind}
    (first : before.Moved samples middle kinds) (second : middle.Moved more after others) :
    before.Moved (samples ++ more) after (kinds ++ others) where
  buttons_eq := second.buttons_eq.trans first.buttons_eq
  wires_eq := second.wires_eq.trans first.wires_eq
  pressed := fun {code number} mapped => by
    have mapped' : middle.button? code = some number := by
      rw [button?, first.buttons_eq]
      exact mapped
    rw [second.pressed mapped', first.pressed mapped, Option.map_map]
    exact congrArg (Option.map · _) (funext fun held => (isDown_append samples more code held).symm)
  leads := fun device axes buttons => by
    have there := first.leads device axes buttons
    exact there.append (second.leads _ there.axes_eq there.buttons_eq)

/-- A sample that is not of a mapped key moves no button. -/
theorem moved_of_others {sample : Sample} {layout : Axis.Layout}
    (others : ∀ code number, before.button? code = some number → sample.isOfKey code = false)
    (wires : layout.wires = before.layout.wires)
    (leads : ∀ device : Device, device.axes = before.layout.values →
      device.LeadsTo kinds layout.values device.buttons) :
    before.Moved [sample] { before with layout } kinds where
  buttons_eq := rfl
  wires_eq := wires
  pressed := fun {code number} mapped => by
    have same : isDown [sample] code = id :=
      funext fun held => by rw [isDown_single, if_neg (by simp [others code number mapped]), id]
    rw [same, Option.map_id, id]
  leads := fun device axes buttons => buttons ▸ leads device axes

/-- A sample of a mapped key brings its button where the value says. -/
theorem moved_press {sample : Sample} {button : Nat} (key : sample.kind = keyKind)
    (mapped : before.button? sample.code = some button) :
    before.Moved [sample] (before.press button (sample.value != 0)).1
      (before.press button (sample.value != 0)).2 where
  buttons_eq := rfl
  wires_eq := rfl
  pressed := fun {code number} mapped' => by
    change (before.pressed.press button (sample.value != 0)).1[number]? = _
    have mine : number = button ↔ sample.isOfKey code = true := by
      rw [Sample.isOfKey, Bool.and_eq_true, decide_eq_true_eq, decide_eq_true_eq]
      constructor
      · rintro rfl
        exact ⟨key, ButtonMap.code_unique mapped mapped'⟩
      · rintro ⟨-, rfl⟩
        exact Option.some.inj (mapped'.symm.trans mapped)
    have moves : isDown [sample] code =
        if number = button then fun _ => sample.value != 0 else id := by
      funext held
      rw [isDown_single]
      by_cases same : number = button
      · rw [if_pos (mine.mp same), if_pos same]
      · rw [if_neg fun ofKey => same (mine.mpr ofKey), if_neg same, id]
    rw [Buttons.getElem?_press, moves]
    split
    · rfl
    · rw [Option.map_id, id]
  leads := fun device axes buttons => by
    have leads := Buttons.press_leads buttons button (sample.value != 0)
    rwa [axes] at leads

/-- One sample that fits is decoded, whatever it is of. -/
theorem exists_decode (bounded : before.layout.Bounded) {sample : Sample}
    (fits : Fits32 sample.value) : ∃ after kinds, before.decode sample = .ok (after, kinds) ∧
      before.Moved [sample] after kinds ∧ after.layout.Bounded := by
  have idle (others : ∀ code number,
      before.button? code = some number → sample.isOfKey code = false) :
      before.Moved [sample] before [] :=
    moved_of_others others rfl fun device axes => axes ▸ .nil device
  unfold decode
  split
  · rename_i key
    cases mapped : before.button? sample.code with
    | none =>
      refine ⟨before, [], rfl, idle fun code number mapped' => ?_, bounded⟩
      rw [Sample.isOfKey, Bool.and_eq_false_iff]
      refine .inr (decide_eq_false fun same => ?_)
      rw [same, mapped'] at mapped
      cases mapped
    | some button => exact ⟨_, _, rfl, moved_press key mapped, bounded⟩
  · rename_i other
    have others (code number : Nat) (_ : before.button? code = some number) :
        sample.isOfKey code = false := by
      simp [Sample.isOfKey, other]
    split
    · cases found : before.layout.find? sample.code with
      | none => exact ⟨before, [], rfl, idle others, bounded⟩
      | some axis =>
        obtain ⟨layout, changes, fed, bounded'⟩ := bounded.feed axis fits
        refine ⟨{ before with layout }, changes.map .axis, ?_, moved_of_others others
          (Axis.Layout.feeds_of_feed fed).wires_eq fun device axes =>
            before.layout.feed_leads axes fed, bounded'⟩
        simp only [fed, bind, Except.bind, pure, Except.pure]
    · exact ⟨before, [], rfl, idle others, bounded⟩

/-- Samples that fit are decoded, each from the state that those before it leave. -/
theorem exists_decodeAll (bounded : before.layout.Bounded) {samples : List Sample}
    (fits : ∀ sample ∈ samples, Fits32 sample.value) :
    ∃ after kinds, before.decodeAll samples = .ok (after, kinds) ∧
      before.Moved samples after kinds := by
  induction samples generalizing before with
  | nil => exact ⟨before, [], rfl, .nil before⟩
  | cons sample rest ih =>
    obtain ⟨middle, kinds, decoded, first, bounded'⟩ :=
      exists_decode bounded (fits sample List.mem_cons_self)
    obtain ⟨after, more, decodedAll, second⟩ :=
      ih bounded' fun other later => fits other (List.mem_cons_of_mem _ later)
    refine ⟨after, kinds ++ more, ?_, first.append second⟩
    simp only [decodeAll, decoded, decodedAll, bind, Except.bind, pure, Except.pure]

/-! ## The samples of a node -/

variable {keys : CodeSet keyBits} {ranges : List CodeRange}

/-- A sample that says nothing new after `samples`. -/
inductive Silent (keys : CodeSet keyBits) (ranges : List CodeRange) (samples : List Sample)
    (sample : Sample) : Prop where
  | otherKind (noKey : sample.kind ≠ keyKind) (noAxis : sample.kind ≠ axisKind)
  | unmappedKey (key : sample.kind = keyKind) (unmapped : ¬IsButton keys sample.code)
  | unmappedAxis (axis : sample.kind = axisKind) (unmapped : ¬IsAxis ranges sample.code)
  /-- The key is where the sample says already; held keys repeat themselves so. -/
  | repeated (key : sample.kind = keyKind)
      (same : isDown samples sample.code false = (sample.value != 0))

/-- The decoder that a node's keys and ranges give, after `samples`, and what it reported of them. -/
structure Decodes (keys : CodeSet keyBits) (ranges : List CodeRange) (samples : List Sample)
    (after : Decoder) (kinds : List EventKind) : Prop where
  buttons : Numbers (IsButton keys) (· < ·) after.button? after.buttonCount
  axes : Numbers (IsAxis ranges) (ListedBefore ranges) after.layout.find? after.axisCount
  inputs : ∀ kind ∈ kinds, kind.isInput = true
  axis_lt (change : Axis.Change) : .axis change ∈ kinds → change.axis < after.axisCount
  button_lt (number : Nat) (down : Bool) : .button number down ∈ kinds → number < after.buttonCount
  /-- A record at rest with these controls is brought to the decoder's state. -/
  replayed (device : Device) : device.IsAtRest → device.axisCount = after.axisCount →
    device.buttonCount = after.buttonCount →
      (device.replay kinds).axes = after.layout.values ∧
        (device.replay kinds).buttons = after.pressed
  pressed (code number : Nat) : after.button? code = some number →
    after.pressed[number]? = some (isDown samples code false)
  silent (sample : Sample) : Silent keys ranges samples sample →
    after.decode sample = .ok (after, [])

/-- What every slot that is laid down keeps holds of the whole layout. -/
theorem layoutOf_induction {property : Axis.Layout → Prop} (empty : property .empty)
    (push : ∀ range ∈ ranges, ∀ layout, property layout →
      property (layout.pushLinear range.code (.declared range.min range.max))) :
    property (layoutOf ranges) := by
  have extended (used : List CodeRange) (inside : ∀ range ∈ used, range ∈ ranges)
      (layout : Axis.Layout) (holds : property layout) : property (used.foldl
        (fun layout range => layout.pushLinear range.code (.declared range.min range.max))
        layout) := by
    induction used generalizing layout with
    | nil => exact holds
    | cons range others ih =>
      exact ih (fun other later => inside other (List.mem_cons_of_mem _ later)) _
        (push range (inside range List.mem_cons_self) layout holds)
  exact extended _ (fun range => List.mem_of_mem_filter) _ empty

theorem isAtRest_layoutOf (ranges : List CodeRange) : (layoutOf ranges).IsAtRest :=
  layoutOf_induction Axis.Layout.isAtRest_empty fun range _ _ rest => rest.pushLinear range.code _

theorem bounded_layoutOf (fits : ∀ range ∈ ranges, Fits32 range.min ∧ Fits32 range.max) :
    (layoutOf ranges).Bounded :=
  layoutOf_induction Axis.Layout.bounded_empty fun range listed _ bounded =>
    bounded.pushLinear range.code ⟨(fits range listed).1, (fits range listed).2⟩

/-- What says nothing new is decoded to nothing. -/
theorem decode_silent
    (buttons : Numbers (IsButton keys) (· < ·) after.button? after.buttonCount)
    (axes : Numbers (IsAxis ranges) (ListedBefore ranges) after.layout.find? after.axisCount)
    (pressed : ∀ code number, after.button? code = some number →
      after.pressed[number]? = some (isDown samples code false))
    {sample : Sample} (silent : Silent keys ranges samples sample) :
    after.decode sample = .ok (after, []) := by
  cases silent with
  | otherKind noKey noAxis => rw [decode, if_neg noKey, if_neg noAxis]
  | unmappedKey key unmapped =>
    have none : after.button? sample.code = none :=
      Option.not_isSome_iff_eq_none.mp fun some => unmapped ((buttons.isSome_iff _).mp some)
    rw [decode, if_pos key, none]
  | unmappedAxis axis unmapped =>
    have none : after.layout.find? sample.code = none :=
      Option.not_isSome_iff_eq_none.mp fun some => unmapped ((axes.isSome_iff _).mp some)
    rw [decode, if_neg (by simp [axis, axisKind, keyKind]), if_pos axis, none]
  | repeated key same =>
    rw [decode, if_pos key]
    cases mapped : after.button? sample.code with
    | none => rfl
    | some number =>
      have held := pressed _ _ mapped
      rw [same] at held
      simp only [press, Buttons.press_of_held held]

/-- A node's samples are decoded as its keys and ranges say. -/
theorem decodeAll_ofControls (keys : CodeSet keyBits) (ranges : List CodeRange)
    (samples : List Sample) (distinct : (ranges.map (·.code)).Nodup)
    (codes : ∀ range ∈ ranges, range.code < axisBits)
    (ends : ∀ range ∈ ranges, Fits32 range.min ∧ Fits32 range.max)
    (fits : ∀ sample ∈ samples, Fits32 sample.value) :
    ∃ after kinds, (ofControls keys ranges).decodeAll samples = .ok (after, kinds) ∧
      Decodes keys ranges samples after kinds := by
  obtain ⟨after, kinds, decoded, moved⟩ :=
    @exists_decodeAll (ofControls keys ranges) (bounded_layoutOf ends) samples fits
  have numbered : after.button? = (ofControls keys ranges).button? := by
    funext code
    rw [button?, moved.buttons_eq, ← button?]
  have found : after.layout.find? = (ofControls keys ranges).layout.find? :=
    funext (Axis.Layout.find?_congr moved.wires_eq)
  have buttonCount : after.buttonCount = (ofControls keys ranges).buttonCount := by
    rw [Decoder.buttonCount, moved.buttons_eq, ← Decoder.buttonCount]
  have axisCount : after.axisCount = (ofControls keys ranges).axisCount :=
    Axis.Layout.size_of_wires moved.wires_eq
  have buttons : Numbers (IsButton keys) (· < ·) after.button? after.buttonCount := by
    rw [numbered, buttonCount]
    exact numbers_button? keys ranges
  have axes : Numbers (IsAxis ranges) (ListedBefore ranges) after.layout.find? after.axisCount := by
    rw [found, axisCount]
    exact numbers_find? keys distinct codes
  have leads (device : Device) (rest : device.IsAtRest) (axes : device.axisCount = after.axisCount)
      (buttons : device.buttonCount = after.buttonCount) :
      device.LeadsTo kinds after.layout.values after.pressed := by
    refine moved.leads device ?_ ?_
    · rw [rest.axes_eq, axes, axisCount]
      exact (isAtRest_layoutOf ranges).symm
    · rw [rest.buttons_eq, buttons, buttonCount]
      rfl
  have pressed (code number : Nat) (mapped : after.button? code = some number) :
      after.pressed[number]? = some (isDown samples code false) := by
    have up : (ofControls keys ranges).pressed[number]? = some false := by
      have inside := buttons.lt_count mapped
      rw [buttonCount] at inside
      exact Array.getElem?_replicate.trans (if_pos inside)
    rw [moved.pressed (numbered ▸ mapped), up, Option.map_some]
  obtain ⟨device, rest, deviceAxes, deviceButtons⟩ :=
    Device.exists_isAtRest after.axisCount after.buttonCount
  have admitted := (leads device rest deviceAxes deviceButtons).admitted
  exact ⟨after, kinds, decoded, {
    buttons, axes, pressed
    inputs := admitted.isInput
    axis_lt := fun change member => deviceAxes ▸ admitted.index_lt.1 change member
    button_lt := fun number down member => deviceButtons ▸ admitted.index_lt.2 number down member
    replayed := fun device rest axes buttons =>
      ⟨(leads device rest axes buttons).axes_eq, (leads device rest axes buttons).buttons_eq⟩
    silent := fun _ silent => decode_silent buttons axes pressed silent }⟩

/-- The last key code and one below the first, an axis without extent, a key held and repeated. -/
theorem decodeAll_ofControls_edges :
    ∃ after kinds, (ofControls (.ofCodes keyBits [0x2FF, 0x130, 0xFF])
        [⟨5, 0, 255⟩, ⟨2, 7, 7⟩, ⟨0, -128, 127⟩]).decodeAll
          [⟨keyKind, 0x2FF, 1⟩, ⟨keyKind, 0x2FF, 2⟩, ⟨axisKind, 0, 127⟩] = .ok (after, kinds) ∧
      Decodes (.ofCodes keyBits [0x2FF, 0x130, 0xFF]) [⟨5, 0, 255⟩, ⟨2, 7, 7⟩, ⟨0, -128, 127⟩]
        [⟨keyKind, 0x2FF, 1⟩, ⟨keyKind, 0x2FF, 2⟩, ⟨axisKind, 0, 127⟩] after kinds :=
  decodeAll_ofControls _ _ _ (by decide) (by decide) (by decide) (by decide)

end Decoder

end GamepadInput.Evdev
