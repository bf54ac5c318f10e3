import GamepadInput.Proofs.Axis.Alignment
import GamepadInput.Proofs.Hid.Fields
import Mathlib.Algebra.Order.BigOperators.Group.List
import Mathlib.Data.List.Sort

/-!
# What the maps of a parser are

The capabilities of an interface list its controls, by runs of usages.  A parser numbers the buttons
among them through (`ButtonMap`), and gives the axes and hats slots (`ValueMap`); here it is said which
controls these are, and in which order, from the capabilities alone (`Parser.maps_ofCaps`).
-/

namespace GamepadInput.Hid

open Axis

/-! ## Controls of the capabilities -/

/-- Number of usages of a page: they are words of 16 bits, and so is the number of entries. -/
def usageCount : Nat := 0x10000

/-- The usages of each entry that are `wanted`, entry by entry and in ascending order. -/
def usagesOf {α : Type} (wanted : α → Nat → Bool) (caps : List α) : List (α × Nat) :=
  caps.flatMap fun cap => ((List.range usageCount).filter (wanted cap)).map (cap, ·)

/-- The buttons of some capabilities. -/
def buttonUsages (caps : List ButtonCap) : List (ButtonCap × Nat) :=
  usagesOf (fun cap usage => cap.span.has usage) caps

/-- The axes and hats of some capabilities. -/
def valueUsages (caps : List ValueCap) : List (ValueCap × Nat) :=
  usagesOf (fun cap usage => valueRole cap.span.page usage != .ignored && cap.span.has usage) caps

theorem usagesOf_cons {α : Type} (wanted : α → Nat → Bool) (cap : α) (rest : List α) :
    usagesOf wanted (cap :: rest) =
      ((List.range usageCount).filter (wanted cap)).map (cap, ·) ++ usagesOf wanted rest := rfl

/-- There are no more of them than a word of 32 bits counts. -/
theorem length_usagesOf_lt {α : Type} {wanted : α → Nat → Bool} {caps : List α}
    (few : caps.length < usageCount) : (usagesOf wanted caps).length < 0x100000000 := by
  have each (cap : α) : ((List.range usageCount).filter (wanted cap)).length ≤ usageCount :=
    (List.length_filter_le _ _).trans List.length_range.le
  have bound := List.sum_le_card_nsmul
    (caps.map fun cap => ((List.range usageCount).filter (wanted cap)).length) usageCount
    (by simpa using fun cap _ => each cap)
  rw [List.length_map, Nat.nsmul_eq_mul] at bound
  rw [usagesOf, List.length_flatMap]
  simp only [List.length_map]
  unfold usageCount at few bound ⊢
  omega

/-- The usages of a run are those that it has among all usages. -/
theorem UsageSpan.usages_eq_filter {span : UsageSpan} (word : span.last < usageCount) :
    span.usages = (List.range usageCount).filter span.has := by
  have ascends : span.usages.Pairwise (· < ·) := List.pairwise_lt_range'
  refine ascends.eq_of_mem_iff (List.pairwise_lt_range.filter _) fun usage => ?_
  rw [mem_usages, List.mem_filter, List.mem_range, has, Bool.and_eq_true, decide_eq_true_iff,
    decide_eq_true_iff]
  omega

/-! ## Buttons -/

/-- The button at `offset` among those of the field with this number is the one numbered `index`. -/
def Parser.IsButton (parser : Parser) (number offset index : Nat) : Prop :=
  ∃ field, parser.buttons[number]? = some field ∧ offset < field.usages.length ∧
    field.firstIndex + offset = index

/-- What the numbers of the buttons are. -/
structure ButtonMap (caps : List ButtonCap) (parser : Parser) : Prop where
  /-- Every button has a number, and the numbers are words of 32 bits. -/
  buttonCount_eq : parser.buttonCount = (buttonUsages caps).length
  buttonCount_lt : parser.buttonCount < 0x100000000
  /-- Every number is that of one button of one field. -/
  owner {index : Nat} : index < parser.buttonCount →
    ∃! owner : Nat × Nat, parser.IsButton owner.1 owner.2 index
  /-- The numbers are in the order of the entries and of their usages. -/
  usage_eq {number offset index : Nat} : parser.IsButton number offset index →
    ∃ field cap usage, parser.buttons[number]? = some field ∧
      field.usages[offset]? = some usage ∧ (buttonUsages caps)[index]? = some (cap, usage) ∧
      field.reportId = cap.reportId ∧ field.page = cap.span.page ∧ field.link = cap.link

theorem Consecutive.firstIndex_eq {index number : Nat} {fields : List ButtonField}
    {field : ButtonField} (consecutive : Consecutive index fields)
    (listed : fields[number]? = some field) :
    field.firstIndex = index + firstPlace (·.usages.length) fields number := by
  induction fields generalizing index number with
  | nil => simp at listed
  | cons first rest ih =>
    obtain ⟨here, later⟩ := consecutive
    cases number with
    | zero =>
      cases listed
      exact here
    | succ number => rw [ih later listed, firstPlace_cons_succ, Nat.add_assoc]

theorem Parser.isButton_iff {parser : Parser} (consecutive : Consecutive 0 parser.buttons)
    {number offset index : Nat} :
    parser.IsButton number offset index ↔
      IsPlace (·.usages.length) parser.buttons number offset index := by
  constructor
  · rintro ⟨field, listed, inside, rfl⟩
    exact ⟨⟨field, listed, inside⟩, by rw [consecutive.firstIndex_eq listed, Nat.zero_add]⟩
  · rintro ⟨⟨field, listed, inside⟩, rfl⟩
    exact ⟨field, listed, inside, by rw [consecutive.firstIndex_eq listed, Nat.zero_add]⟩

/-- A button with the field it is in. -/
def ButtonField.controls (field : ButtonField) : List (Nat × Nat × Nat × Nat) :=
  field.usages.map (field.reportId, field.page, field.link, ·)

/-- The buttons of the fields are those of the capabilities. -/
theorem flatMap_buttonFields {caps : List ButtonCap}
    (words : ∀ cap ∈ caps, cap.span.last < usageCount) (index : Nat) :
    (buttonFields index caps).flatMap (·.controls) =
      (buttonUsages caps).map fun button =>
        (button.1.reportId, button.1.span.page, button.1.link, button.2) := by
  induction caps generalizing index with
  | nil => rfl
  | cons cap rest ih =>
    obtain ⟨word, words⟩ := List.forall_mem_cons.mp words
    rw [buttonUsages, usagesOf_cons, ← buttonUsages, List.map_append, List.map_map,
      ← UsageSpan.usages_eq_filter word]
    simp only [buttonFields]
    split
    · rename_i inverted
      rw [ih words, List.isEmpty_iff.mp inverted]
      rfl
    · rw [List.flatMap_cons, ih words]
      rfl

theorem buttonMap_ofCaps (reportLength : Nat) {buttonCaps : List ButtonCap}
    (valueCaps : List ValueCap) (few : buttonCaps.length < usageCount)
    (words : ∀ cap ∈ buttonCaps, cap.span.last < usageCount) :
    ButtonMap buttonCaps (.ofCaps reportLength buttonCaps valueCaps) := by
  have listed := flatMap_buttonFields words 0
  have wide (field : ButtonField) : field.controls.length = field.usages.length :=
    List.length_map _
  have total : Parser.buttonCount (.ofCaps reportLength buttonCaps valueCaps) =
      ((buttonFields 0 buttonCaps).map (·.usages.length)).sum := by
    rw [Parser.buttonCount, Parser.ofCaps, ← List.length_flatMap]
    exact Array.size_replicate
  have counted : Parser.buttonCount (.ofCaps reportLength buttonCaps valueCaps) =
      (buttonUsages buttonCaps).length := by
    rw [total, ← length_flatMap_eq_sum wide, listed, List.length_map]
  have isButton {number offset index : Nat} :
      Parser.IsButton (.ofCaps reportLength buttonCaps valueCaps) number offset index ↔
        IsPlace (·.usages.length) (buttonFields 0 buttonCaps) number offset index :=
    Parser.isButton_iff (consecutive_buttonFields 0 buttonCaps)
  refine ⟨counted, counted ▸ length_usagesOf_lt few, fun inside => ?_, fun button => ?_⟩
  · simp only [isButton]
    exact existsUnique_isPlace (total ▸ inside)
  · obtain ⟨⟨field, here, inside⟩, rfl⟩ := isButton.mp button
    have entry := getElem?_flatMap_firstPlace wide here inside
    rw [listed, List.getElem?_map, ButtonField.controls, List.getElem?_map,
      List.getElem?_eq_getElem inside] at entry
    obtain ⟨⟨cap, usage⟩, found, same⟩ := Option.map_eq_some_iff.mp entry
    simp only [Prod.mk.injEq] at same
    obtain ⟨reportId, page, link, rfl⟩ := same
    exact ⟨field, cap, _, here, List.getElem?_eq_getElem inside, found, reportId.symm, page.symm,
      link.symm⟩

/-! ## Axes and hats -/

/-- The field of a usage. -/
def ValueCap.field (cap : ValueCap) (usage : Nat) : ValueField :=
  ⟨cap.reportId, cap.span.page, usage, cap.link, cap.bitSize, cap.logicalMin < 0⟩

/-- Number of slots of a field: a hat has two. -/
def ValueField.width (field : ValueField) : Nat :=
  if valueRole field.page field.usage = .hat then 2 else 1

/-- What is laid out for a field. -/
def fieldControl (number : Nat) (role : ValueRole) (min max : Int) : Control :=
  if role = .hat then .hat number min max
  else .linear number (if min < max then .declared min max else .growing 0 0)

/-- What is laid out for the axes and hats of some capabilities: each has its number for a cookie. -/
def valueControls (caps : List ValueCap) : List Control :=
  (valueUsages caps).mapIdx fun number value =>
    fieldControl number (valueRole value.1.span.page value.2) value.1.logicalMin value.1.logicalMax

/-- The slot at `offset` among those of the field with this number is the one at `slot`. -/
def Parser.IsSlot (parser : Parser) (number offset slot : Nat) : Prop :=
  ∃ field first, parser.values[number]? = some field ∧ offset < field.width ∧
    parser.layout.find? number = some first ∧ first + offset = slot

/-- What the axes and hats are, and where their slots are. -/
structure ValueMap (caps : List ValueCap) (parser : Parser) : Prop where
  /-- Every axis and every hat has a field, in the order of the entries and of their usages. -/
  values_eq : parser.values = (valueUsages caps).map fun value => value.1.field value.2
  /-- Numbers of fields are words of 32 bits. -/
  length_values_lt : parser.values.length < 0x100000000
  /-- An axis has a slot, and a hat has two. -/
  wires_eq : parser.layout.wires = (valueControls caps).flatMap (·.wires)
  size_eq : parser.layout.size = (parser.values.map (·.width)).sum
  /-- A field is found behind the slots of the fields before it. -/
  find?_eq {number : Nat} : number < parser.values.length →
    parser.layout.find? number = some (firstPlace ValueField.width parser.values number)
  find?_none {number : Nat} : parser.values.length ≤ number → parser.layout.find? number = none
  /-- Every slot is one of exactly one field. -/
  owner {slot : Nat} : slot < parser.layout.size →
    ∃! owner : Nat × Nat, parser.IsSlot owner.1 owner.2 slot

theorem UsageSpan.filterMap_usages {β : Type} {span : UsageSpan} (word : span.last < usageCount)
    (ignored : Nat → Prop) [DecidablePred ignored] (f : Nat → β) :
    span.usages.filterMap (fun usage => if ignored usage then none else some (f usage)) =
      ((List.range usageCount).filter fun usage => !ignored usage && span.has usage).map f := by
  rw [← List.filter_filter, ← usages_eq_filter word]
  induction span.usages with
  | nil => rfl
  | cons usage rest ih =>
    by_cases left : ignored usage
    · simp [left, ih]
    · simp [left, ih]

theorem valueFields_eq {caps : List ValueCap} (words : ∀ cap ∈ caps, cap.span.last < usageCount) :
    valueFields caps = (valueUsages caps).map fun value =>
      (value.1.field value.2, valueRole value.1.span.page value.2, value.1.logicalMin,
        value.1.logicalMax) := by
  induction caps with
  | nil => rfl
  | cons cap rest ih =>
    obtain ⟨word, words⟩ := List.forall_mem_cons.mp words
    rw [valueUsages, usagesOf_cons, ← valueUsages, List.map_append, ← ih words, List.map_map,
      valueFields, List.flatMap_cons, ← valueFields]
    refine congrArg (· ++ valueFields rest) ?_
    exact UsageSpan.filterMap_usages word (fun usage => valueRole cap.span.page usage = .ignored) _

theorem pushField_eq (layout : Layout) (cookie : Nat) (role : ValueRole) (min max : Int) :
    pushField layout cookie role min max = (fieldControl cookie role min max).layOut layout := by
  unfold pushField fieldControl
  split
  · rfl
  · split <;> rfl

theorem reached_fieldLayout {controls : List Control} {layout : Layout}
    (reached : Layout.Reached controls layout) (cookie : Nat)
    (fields : List (ValueField × ValueRole × Int × Int)) :
    Layout.Reached (controls ++ (fields.mapIdx fun number field =>
      fieldControl (cookie + number) field.2.1 field.2.2.1 field.2.2.2))
      (fieldLayout layout cookie fields) := by
  induction fields generalizing controls layout cookie with
  | nil => simpa [fieldLayout] using reached
  | cons field rest ih =>
    obtain ⟨own, role, min, max⟩ := field
    have next := ih (reached.layOut (fieldControl cookie role min max)) (cookie + 1)
    rw [fieldLayout, pushField_eq]
    simpa [List.mapIdx_cons, Nat.add_assoc, Nat.add_comm 1] using next

@[simp] theorem cookie_fieldControl (number : Nat) (role : ValueRole) (min max : Int) :
    (fieldControl number role min max).cookie = number := by
  unfold fieldControl
  split <;> rfl

theorem width_fieldControl (number : Nat) (role : ValueRole) (min max : Int) :
    (fieldControl number role min max).width = if role = .hat then 2 else 1 := by
  unfold fieldControl
  split <;> rfl

section Values

variable {caps : List ValueCap}

theorem getElem?_valueControls (caps : List ValueCap) (number : Nat) :
    (valueControls caps)[number]? = (valueUsages caps)[number]?.map fun value =>
      fieldControl number (valueRole value.1.span.page value.2) value.1.logicalMin
        value.1.logicalMax := by
  rw [valueControls, List.getElem?_mapIdx]

theorem reached_valueFields (words : ∀ cap ∈ caps, cap.span.last < usageCount) :
    Layout.Reached (valueControls caps) (fieldLayout .empty 0 (valueFields caps)) := by
  have reached := reached_fieldLayout .empty 0 (valueFields caps)
  have controls : valueControls caps = (valueFields caps).mapIdx fun number field =>
      fieldControl (0 + number) field.2.1 field.2.2.1 field.2.2.2 := by
    refine List.ext_getElem? fun number => ?_
    rw [getElem?_valueControls, valueFields_eq words, List.getElem?_mapIdx, List.getElem?_map,
      Option.map_map]
    simp only [Nat.zero_add]
    rfl
  rwa [List.nil_append, ← controls] at reached

/-- A control is laid out for each field, with its slots. -/
theorem map_width_valueControls (caps : List ValueCap) :
    (valueControls caps).map (·.width) =
      ((valueUsages caps).map fun value => value.1.field value.2).map (·.width) := by
  refine List.ext_getElem? fun number => ?_
  rw [List.getElem?_map, getElem?_valueControls]
  simp [Function.comp_def, width_fieldControl, ValueField.width, ValueCap.field]

/-- The cookies are the numbers from zero on. -/
theorem map_cookie_valueControls (caps : List ValueCap) :
    (valueControls caps).map (·.cookie) = List.range (valueControls caps).length := by
  refine List.ext_getElem (by simp) fun number inside _ => ?_
  simp [valueControls]

/-- A field is found by its number. -/
theorem find?_valueControls {layout : Layout} (reached : Layout.Reached (valueControls caps) layout)
    {number place : Nat} : layout.find? number = some place ↔
      number < (valueControls caps).length ∧
        place = firstPlace Control.width (valueControls caps) number := by
  have cookies := map_cookie_valueControls caps
  have cookieAt {place : Nat} {control : Control}
      (listed : (valueControls caps)[place]? = some control) : control.cookie = place := by
    obtain ⟨inside, rfl⟩ := List.getElem?_eq_some_iff.mp listed
    simpa [inside] using congrArg (·[place]?) cookies
  rw [reached.find?_iff (cookies ▸ List.nodup_range)]
  constructor
  · rintro ⟨place, control, listed, rfl, rfl⟩
    rw [cookieAt listed]
    exact ⟨(List.getElem?_eq_some_iff.mp listed).1, rfl⟩
  · rintro ⟨inside, rfl⟩
    have listed := List.getElem?_eq_getElem inside
    exact ⟨number, _, listed, cookieAt listed, rfl⟩

theorem valueMap_ofCaps (reportLength : Nat) (buttonCaps : List ButtonCap)
    (few : caps.length < usageCount) (words : ∀ cap ∈ caps, cap.span.last < usageCount) :
    ValueMap caps (.ofCaps reportLength buttonCaps caps) := by
  set parser := Parser.ofCaps reportLength buttonCaps caps with parser_eq
  have values_eq : parser.values = (valueUsages caps).map fun value => value.1.field value.2 := by
    rw [parser_eq, Parser.ofCaps, valueFields_eq words, List.map_map]
    rfl
  have reached : Layout.Reached (valueControls caps) parser.layout := reached_valueFields words
  have wired := reached.wires_eq
  have widths : (valueControls caps).map (·.width) = parser.values.map (·.width) := by
    rw [values_eq, map_width_valueControls]
  have lengths : (valueControls caps).length = parser.values.length := by
    simpa using congrArg List.length widths
  have size_eq : parser.layout.size = (parser.values.map (·.width)).sum := by
    rw [← Layout.length_wires, wired, length_flatMap_eq_sum Control.length_wires, widths]
  have find?_eq {number : Nat} (inside : number < parser.values.length) :
      parser.layout.find? number = some (firstPlace ValueField.width parser.values number) :=
    (find?_valueControls reached).mpr ⟨lengths ▸ inside, (firstPlace_congr widths number).symm⟩
  have isSlot {number offset slot : Nat} : parser.IsSlot number offset slot ↔
      IsPlace ValueField.width parser.values number offset slot := by
    constructor
    · rintro ⟨field, first, listed, inside, found, rfl⟩
      rw [find?_eq (List.getElem?_eq_some_iff.mp listed).1] at found
      exact ⟨⟨field, listed, inside⟩, congrArg (· + offset) (Option.some.inj found)⟩
    · rintro ⟨⟨field, listed, inside⟩, rfl⟩
      exact ⟨field, _, listed, inside, find?_eq (List.getElem?_eq_some_iff.mp listed).1, rfl⟩
  refine ⟨values_eq, ?_, wired, size_eq, find?_eq, fun outside => ?_, fun inside => ?_⟩
  · rw [values_eq, List.length_map]
    exact length_usagesOf_lt few
  · rw [Option.eq_none_iff_forall_ne_some]
    intro slot found
    have inside := ((find?_valueControls reached).mp found).1
    omega
  · simp only [isSlot]
    exact existsUnique_isPlace (size_eq ▸ inside)

end Values

/-! ## Both maps -/

/-- The maps of a parser are those of the capabilities, whatever their runs of usages are. -/
theorem Parser.maps_ofCaps (reportLength : Nat) {buttonCaps : List ButtonCap}
    {valueCaps : List ValueCap} (fewButtons : buttonCaps.length < usageCount)
    (fewValues : valueCaps.length < usageCount)
    (buttonWords : ∀ cap ∈ buttonCaps, cap.span.last < usageCount)
    (valueWords : ∀ cap ∈ valueCaps, cap.span.last < usageCount) :
    ButtonMap buttonCaps (.ofCaps reportLength buttonCaps valueCaps) ∧
      ValueMap valueCaps (.ofCaps reportLength buttonCaps valueCaps) :=
  ⟨buttonMap_ofCaps reportLength valueCaps fewButtons buttonWords,
    valueMap_ofCaps reportLength buttonCaps fewValues valueWords⟩

/-- Axes before and behind hats, among usages that are ignored and runs that end before they start. -/
theorem Parser.maps_ofCaps_mixed :
    (∀ cap ∈ [(⟨1, 0, ⟨9, 1, 3⟩⟩ : ButtonCap), ⟨1, 0, ⟨9, 5, 4⟩⟩, ⟨2, 1, .single 9 0xFFFF⟩],
      cap.span.last < usageCount) ∧
    (∀ cap ∈ [(⟨1, 0, ⟨1, 0x37, 0x3A⟩, 0, 7, 4⟩ : ValueCap), ⟨1, 0, ⟨1, 0x32, 0x30⟩, 0, 255, 8⟩,
        ⟨1, 0, .single 1 0x39, 1, 8, 4⟩, ⟨1, 0, .single 2 0xBB, -128, 127, 8⟩],
      cap.span.last < usageCount) ∧
    ∃ parser : Parser,
      ButtonMap [⟨1, 0, ⟨9, 1, 3⟩⟩, ⟨1, 0, ⟨9, 5, 4⟩⟩, ⟨2, 1, .single 9 0xFFFF⟩] parser ∧
      ValueMap [⟨1, 0, ⟨1, 0x37, 0x3A⟩, 0, 7, 4⟩, ⟨1, 0, ⟨1, 0x32, 0x30⟩, 0, 255, 8⟩,
        ⟨1, 0, .single 1 0x39, 1, 8, 4⟩, ⟨1, 0, .single 2 0xBB, -128, 127, 8⟩] parser ∧
      parser.buttonCount = 4 ∧ parser.axisCount = 7 ∧ parser.layout.find? 4 = some 6 := by
  have buttonWords : ∀ cap ∈ [(⟨1, 0, ⟨9, 1, 3⟩⟩ : ButtonCap), ⟨1, 0, ⟨9, 5, 4⟩⟩,
      ⟨2, 1, .single 9 0xFFFF⟩], cap.span.last < usageCount := by decide
  have valueWords : ∀ cap ∈ [(⟨1, 0, ⟨1, 0x37, 0x3A⟩, 0, 7, 4⟩ : ValueCap),
      ⟨1, 0, ⟨1, 0x32, 0x30⟩, 0, 255, 8⟩, ⟨1, 0, .single 1 0x39, 1, 8, 4⟩,
      ⟨1, 0, .single 2 0xBB, -128, 127, 8⟩], cap.span.last < usageCount := by decide
  obtain ⟨buttons, values⟩ := Parser.maps_ofCaps 8 (by decide) (by decide) buttonWords valueWords
  exact ⟨buttonWords, valueWords, _, buttons, values, by decide, by decide,
    by rw [Layout.find?_eq]; decide⟩

end GamepadInput.Hid
