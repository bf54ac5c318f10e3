import GamepadInput.Hid.Parser
import GamepadInput.Proofs.Axis.Feeding
import GamepadInput.Proofs.Hid.Reading
import GamepadInput.Proofs.Hid.Tracking

/-!
# Where the controls of a field are

A parser numbers the buttons field by field (`Consecutive`), and lays down the slots of the value
fields in order, a hat's two and an axis's one (`wires_fieldLayout`).  The slots of a field are found
by its place among the fields (`find?_control`).  A parser keeps all that while it reads (`Serves`).
-/

namespace GamepadInput.Hid

open Axis

/-! ## Buttons -/

/-- The fields number their buttons one after the other, from `index` on. -/
def Consecutive (index : Nat) : List ButtonField → Prop
  | [] => True
  | field :: rest => field.firstIndex = index ∧ Consecutive (index + field.usages.length) rest

theorem consecutive_buttonFields (index : Nat) (caps : List ButtonCap) :
    Consecutive index (buttonFields index caps) := by
  induction caps generalizing index with
  | nil => trivial
  | cons cap rest ih =>
    simp only [buttonFields]
    split
    · exact ih index
    · exact ⟨rfl, ih _⟩

/-! ## Slots -/

/-- How the slots of a field are fed. -/
def fieldSource (role : ValueRole) (min max : Int) : Source :=
  if role = .hat then .hat min max
  else .linear (if min < max then .declared min max else .growing 0 0)

theorem fieldSource_ne_hatSecond (role : ValueRole) (min max : Int) :
    fieldSource role min max ≠ .hatSecond := by
  unfold fieldSource
  split <;> simp

/-- How the slots of the fields of some capabilities are fed. -/
def valueSources (caps : List ValueCap) : List Source :=
  (valueFields caps).map fun field => fieldSource field.2.1 field.2.2.1 field.2.2.2

/-- What is behind the slots of controls that are numbered from `cookie` on. -/
def controlWires (cookie : Nat) : List Source → List (Nat × Source)
  | [] => []
  | source :: rest => source.wires cookie ++ controlWires (cookie + 1) rest

/-- Number of slots of some controls. -/
def slotCount : List Source → Nat
  | [] => 0
  | source :: rest => source.width + slotCount rest

@[simp] theorem slotCount_nil : slotCount [] = 0 := rfl

@[simp] theorem slotCount_cons (source : Source) (rest : List Source) :
    slotCount (source :: rest) = source.width + slotCount rest := rfl

@[simp] theorem slotCount_append (sources others : List Source) :
    slotCount (sources ++ others) = slotCount sources + slotCount others := by
  induction sources with
  | nil => simp
  | cons source rest ih => simp [ih, Nat.add_assoc]

@[simp] theorem length_controlWires (cookie : Nat) (sources : List Source) :
    (controlWires cookie sources).length = slotCount sources := by
  induction sources generalizing cookie with
  | nil => rfl
  | cons source rest ih => simp [controlWires, ih]

theorem controlWires_append (cookie : Nat) (sources others : List Source) :
    controlWires cookie (sources ++ others) =
      controlWires cookie sources ++ controlWires (cookie + sources.length) others := by
  induction sources generalizing cookie with
  | nil => rfl
  | cons source rest ih =>
    rw [List.cons_append, controlWires, controlWires, ih, List.append_assoc, List.length_cons,
      Nat.add_assoc, Nat.add_comm 1]

/-- A control keeps its number in all its slots. -/
theorem lt_of_mem_controlWires {cookie : Nat} {sources : List Source} {wire : Nat × Source}
    (member : wire ∈ controlWires cookie sources) : wire.1 < cookie + sources.length := by
  induction sources generalizing cookie with
  | nil => cases member
  | cons source rest ih =>
    rw [List.length_cons]
    rcases List.mem_append.mp member with own | later
    · have mine : wire.1 = cookie := by
        rcases List.mem_cons.mp own with rfl | second
        · rfl
        · split at second
          · rw [List.mem_singleton.mp second]
          · cases second
      omega
    · have below := ih later
      omega

theorem wires_pushField (layout : Layout) (cookie : Nat) (role : ValueRole) (min max : Int) :
    (pushField layout cookie role min max).wires =
      layout.wires ++ (fieldSource role min max).wires cookie := by
  unfold pushField fieldSource
  split
  · exact Layout.wires_pushHat layout cookie min max
  · split <;> exact Layout.wires_pushLinear layout cookie _

theorem wires_fieldLayout (layout : Layout) (cookie : Nat)
    (fields : List (ValueField × ValueRole × Int × Int)) :
    (fieldLayout layout cookie fields).wires = layout.wires ++ controlWires cookie
      (fields.map fun field => fieldSource field.2.1 field.2.2.1 field.2.2.2) := by
  induction fields generalizing layout cookie with
  | nil => exact (List.append_nil _).symm
  | cons field rest ih =>
    obtain ⟨own, role, min, max⟩ := field
    rw [fieldLayout, ih, wires_pushField, List.append_assoc, List.map_cons, controlWires]

/-- The control that follows some others is found behind their slots. -/
theorem find?_control {layout : Layout} {before : List Source} {source : Source}
    {behind : List (Nat × Source)} (control : source ≠ .hatSecond)
    (wired : layout.wires = controlWires 0 before ++ (source.wires before.length ++ behind)) :
    layout.find? before.length = some (slotCount before) := by
  rw [Source.wires, List.cons_append] at wired
  have others : ∀ wire ∈ controlWires 0 before, wire.1 ≠ before.length := by
    intro wire member
    have lower := lt_of_mem_controlWires member
    omega
  rw [Layout.find?_of_wires wired control others, length_controlWires]

/-! ## Parsers of some capabilities -/

/-- A field without its collection, which a parser changes to where the answers come from. -/
def ValueField.unlinked (field : ValueField) : ValueField := { field with link := 0 }

/-- What a parser keeps of the capabilities that it was built from. -/
structure Serves (buttonCaps : List ButtonCap) (valueCaps : List ValueCap) (parser : Parser) :
    Prop where
  buttons_eq : parser.buttons = buttonFields 0 buttonCaps
  size_pressed : parser.pressed.size = (parser.buttons.flatMap (·.usages)).length
  values_eq : parser.values.map (·.unlinked) = (valueFields valueCaps).map (·.1.unlinked)
  wires_eq : parser.layout.wires = controlWires 0 (valueSources valueCaps)
  bounded : parser.layout.Bounded
  plain : parser.layout.Plain

variable {buttonCaps : List ButtonCap} {valueCaps : List ValueCap} {parser : Parser}

theorem serves_ofCaps (fits : ∀ cap ∈ valueCaps, cap.Fits) (reportLength : Nat) :
    Serves buttonCaps valueCaps (.ofCaps reportLength buttonCaps valueCaps) where
  buttons_eq := rfl
  size_pressed := Array.size_replicate
  values_eq := by
    rw [Parser.ofCaps, List.map_map]
    rfl
  wires_eq := by
    rw [Parser.ofCaps, wires_fieldLayout, Layout.wires_empty, List.nil_append, valueSources]
  bounded := bounded_fieldLayout Layout.bounded_empty 0 (fits_valueFields fits)
  plain := (isAtRest_fieldLayout Layout.isAtRest_empty 0 _).plain

/-- Asking elsewhere changes nothing else. -/
theorem Serves.ofValues (serves : Serves buttonCaps valueCaps parser) {values : List ValueField}
    (same : values.map (·.unlinked) = parser.values.map (·.unlinked)) :
    Serves buttonCaps valueCaps { parser with values } :=
  { serves with values_eq := same.trans serves.values_eq }

theorem Serves.length_values (serves : Serves buttonCaps valueCaps parser) :
    parser.values.length = (valueSources valueCaps).length := by
  have lengths := congrArg List.length serves.values_eq
  simpa [valueSources] using lengths

end GamepadInput.Hid
