import GamepadInput.Proofs.Hid.Fields

/-!
# What one report makes of a parser

A report moves the controls of its fields for which the system answers, and no others: a button goes
where its usage says, a slot takes the sample that the answer stands for.  What is reported are the
differences between the states before and after, buttons first (`Parser.read_hears`).
-/

namespace GamepadInput.Hid

open Axis

/-! ## Answers -/

/-- The answer for the buttons of a field in a report with id `reportId`: the usages that are set. -/
def ButtonField.answer? (field : ButtonField) (queries : Queries) (report : Report)
    (reportId : Nat) : Option (List Nat) :=
  if field.reportId = reportId then queries.usages field.page field.link report else none

namespace ValueField

variable (field : ValueField) (queries : Queries) (report : Report) (reportId : Nat)

/-- The value of a usage on the field's own collection or, failing that, on the top one. -/
def value? : Option Nat :=
  (queries.value field.page field.link field.usage report).or
    (queries.value field.page 0 field.usage report)

/-- The sample that a report with id `reportId` has of the field. -/
def sample? : Option Int :=
  if field.reportId = reportId then (field.value? queries report).map field.sample else none

/-- The field after a report: an answer that only the top collection gave moves it there. -/
def heard : ValueField :=
  if field.reportId = reportId ∧ queries.value field.page field.link field.usage report = none ∧
      (queries.value field.page 0 field.usage report).isSome then field.unlinked
  else field

variable {field queries report reportId}

@[simp] theorem unlinked_heard :
    (field.heard queries report reportId).unlinked = field.unlinked := by
  unfold heard
  split <;> rfl

theorem ask?_eq (own : field.reportId = reportId) :
    field.ask? queries report =
      (field.value? queries report).map (·, field.heard queries report reportId) := by
  unfold ask? value? heard
  cases answer : queries.value field.page field.link field.usage report with
  | some value => simp
  | none =>
    by_cases link : field.link = 0
    · rw [link] at answer
      simp [link, answer]
    · cases queries.value field.page 0 field.usage report <;> simp [own, link, unlinked]

theorem heard_of_sample?_none (silent : field.sample? queries report reportId = none) :
    field.heard queries report reportId = field := by
  refine if_neg ?_
  rintro ⟨own, -, top⟩
  rw [sample?, if_pos own, Option.map_eq_none_iff, value?, Option.or_eq_none_iff] at silent
  rw [silent.2] at top
  cases top

/-- The collection that answers does not matter for what the answer stands for. -/
theorem sample_heard (value : Nat) :
    (field.heard queries report reportId).sample value = field.sample value := by
  unfold heard
  split <;> rfl

end ValueField

variable {queries : Queries} {report : Report} {reportId : Nat}

/-! ## Buttons -/

/-- Consecutive buttons go where their usages say. -/
theorem pressUsages_rewrites {pressed : Buttons} {index : Nat} {usages : List Nat}
    (inside : index + usages.length ≤ pressed.size) (set : List Nat) :
    Rewrites edge? index usages.length pressed (pressUsages pressed index set usages).1
        (pressUsages pressed index set usages).2 ∧
      ∀ (offset usage : Nat), usages[offset]? = some usage →
        (pressUsages pressed index set usages).1[index + offset]? = some (set.contains usage) := by
  induction usages generalizing pressed index with
  | nil => exact ⟨.refl edge?_self index 0 pressed, by simp⟩
  | cons usage rest ih =>
    rw [List.length_cons] at inside
    have here : index < pressed.size := by omega
    have behind : index + 1 + rest.length ≤ (pressed.press index (set.contains usage)).1.size := by
      rw [Buttons.size_press]
      omega
    obtain ⟨first, here⟩ := pressed.rewrites_press here (set.contains usage)
    obtain ⟨others, there⟩ := ih behind
    refine ⟨?_, fun offset other found => ?_⟩
    · rw [List.length_cons, Nat.add_comm rest.length]
      exact first.append others
    · cases offset with
      | zero =>
        cases found
        exact (others.same index (.inl (by omega))).trans here
      | succ offset =>
        have moved := there offset other found
        rwa [Nat.add_right_comm, Nat.add_assoc] at moved

/-- The button has one of the field's usages. -/
def ButtonField.Covers (field : ButtonField) (number : Nat) : Prop :=
  field.firstIndex ≤ number ∧ number < field.firstIndex + field.usages.length

/-- What a report makes of the buttons of some fields. -/
structure Presses (queries : Queries) (report : Report) (reportId : Nat) (fields : List ButtonField)
    (before after : Buttons) : Prop where
  pressed : ∀ field ∈ fields, ∀ set, field.answer? queries report reportId = some set →
    ∀ (offset usage : Nat), field.usages[offset]? = some usage →
      after[field.firstIndex + offset]? = some (set.contains usage)
  others (number : Nat) :
    (∀ field ∈ fields, field.Covers number → field.answer? queries report reportId = none) →
      after[number]? = before[number]?

theorem readField_presses {pressed : Buttons} {field : ButtonField}
    (inside : field.firstIndex + field.usages.length ≤ pressed.size) :
    Rewrites edge? field.firstIndex field.usages.length pressed
        (readField queries report reportId pressed field).1
        (readField queries report reportId pressed field).2 ∧
      Presses queries report reportId [field] pressed
        (readField queries report reportId pressed field).1 := by
  have read : readField queries report reportId pressed field =
      (field.answer? queries report reportId).elim (pressed, []) fun set =>
        pressUsages pressed field.firstIndex set field.usages := by
    unfold readField ButtonField.answer?
    split
    · cases queries.usages field.page field.link report <;> rfl
    · rfl
  cases answer : field.answer? queries report reportId with
  | none =>
    rw [read, answer, Option.elim_none]
    refine ⟨.refl edge?_self _ _ pressed, fun other mine set found => ?_, fun _ _ => rfl⟩
    rw [List.mem_singleton.mp mine, answer] at found
    cases found
  | some set =>
    rw [read, answer, Option.elim_some]
    obtain ⟨rewrites, there⟩ := pressUsages_rewrites inside set
    refine ⟨rewrites, fun other mine set' found => ?_, fun number idle => rewrites.same number ?_⟩
    · cases List.mem_singleton.mp mine
      rw [answer] at found
      cases found
      exact there
    · by_contra covered
      have silent := idle field List.mem_cons_self ⟨by omega, by omega⟩
      rw [answer] at silent
      cases silent

/-- The fields of a parser, read one after the other. -/
theorem readButtons_presses {pressed : Buttons} {index : Nat} {fields : List ButtonField}
    (numbered : Consecutive index fields)
    (inside : index + (fields.flatMap (·.usages)).length ≤ pressed.size) :
    Rewrites edge? index (fields.flatMap (·.usages)).length pressed
        (readButtons queries report reportId pressed fields).1
        (readButtons queries report reportId pressed fields).2 ∧
      Presses queries report reportId fields pressed
        (readButtons queries report reportId pressed fields).1 := by
  induction fields generalizing pressed index with
  | nil => exact ⟨.refl edge?_self index 0 pressed, nofun, fun _ _ => rfl⟩
  | cons field rest ih =>
    obtain ⟨rfl, numbered⟩ := numbered
    rw [List.flatMap_cons, List.length_append] at inside ⊢
    obtain ⟨first, moved⟩ := @readField_presses queries report reportId pressed field (by omega)
    have behind : field.firstIndex + field.usages.length + (rest.flatMap (·.usages)).length ≤
        (readField queries report reportId pressed field).1.size := by
      rw [first.size_eq]
      omega
    obtain ⟨second, moves⟩ := ih numbered behind
    refine ⟨first.append second, fun other mine set answer offset usage found => ?_,
      fun number idle => ?_⟩
    · rcases List.mem_cons.mp mine with rfl | later
      · -- what follows starts behind the field's buttons
        have bound := (List.getElem?_eq_some_iff.mp found).1
        exact (second.same _ (.inl (by omega))).trans
          (moved.pressed other List.mem_cons_self set answer offset usage found)
      · exact moves.pressed other later set answer offset usage found
    · rw [readButtons]
      exact (moves.others number fun other later => idle other (List.mem_cons_of_mem _ later)).trans
        (moved.others number fun other mine =>
          idle other (List.mem_singleton.mp mine ▸ List.mem_cons_self))

/-! ## Axes and hats -/

/-- What a report makes of the slots of the controls `sources`, which follow the controls `done`. -/
structure Moves (queries : Queries) (report : Report) (reportId : Nat) (done sources : List Source)
    (fields : List ValueField) (before after : Layout) : Prop where
  taken (number : Nat) (field : ValueField) (source : Source) (raw : Int) :
    fields[number]? = some field → sources[number]? = some source →
      field.sample? queries report reportId = some raw →
        Layout.Takes before after (slotCount (done ++ sources.take number)) (done.length + number)
          raw source
  others (axis : Nat) :
    (∀ (number : Nat) field source, fields[number]? = some field → sources[number]? = some source →
      slotCount (done ++ sources.take number) ≤ axis →
        axis < slotCount (done ++ sources.take number) + source.width →
          field.sample? queries report reportId = none) →
      after.slots[axis]? = before.slots[axis]?

/-- One field: if the report has a sample of it, its control takes the sample. -/
theorem exists_feedField {layout : Layout} (bounded : layout.Bounded) (plain : layout.Plain)
    {raw : Int} (fits : Fits32 raw) {source : Source} (control : source ≠ .hatSecond)
    {done : List Source} {behind : List (Nat × Source)}
    (wired : layout.wires = controlWires 0 done ++ (source.wires done.length ++ behind)) :
    ∃ after kinds, feedField layout done.length raw = .ok (after, kinds) ∧ after.Bounded ∧
      after.Plain ∧ after.wires = layout.wires ∧
      Layout.Takes layout after (slotCount done) done.length raw source ∧
      Rewrites move? (slotCount done) source.width layout.slots after.slots kinds := by
  obtain ⟨after, changes, fed, rest⟩ := Layout.exists_feed bounded plain fits control wired
  rw [length_controlWires] at fed rest
  refine ⟨after, changes.map .axis, ?_, rest⟩
  rw [feedField, find?_control control wired]
  simp only [fed, bind, Except.bind, pure, Except.pure]

/-- Reads one value field of a report. -/
def readValue (queries : Queries) (report : Report) (reportId : Nat) (layout : Layout)
    (cookie : Nat) (field : ValueField) :
    Except Overflow (ValueField × Layout × List EventKind) :=
  match if field.reportId = reportId then field.ask? queries report else none with
  | none => pure (field, layout, [])
  | some (value, field) => do
    let (layout, kinds) ← feedField layout cookie (field.sample value)
    pure (field, layout, kinds)

theorem exists_readValue (fits : queries.Fits) {layout : Layout} (bounded : layout.Bounded)
    (plain : layout.Plain) {source : Source} (control : source ≠ .hatSecond) {done : List Source}
    {behind : List (Nat × Source)} (field : ValueField)
    (wired : layout.wires = controlWires 0 done ++ (source.wires done.length ++ behind)) :
    ∃ after kinds, readValue queries report reportId layout done.length field =
        .ok (field.heard queries report reportId, after, kinds) ∧
      after.Bounded ∧ after.Plain ∧ after.wires = layout.wires ∧
      Rewrites move? (slotCount done) source.width layout.slots after.slots kinds ∧
      (∀ raw, field.sample? queries report reportId = some raw →
        Layout.Takes layout after (slotCount done) done.length raw source) ∧
      (field.sample? queries report reportId = none → after = layout) := by
  cases sampled : field.sample? queries report reportId with
  | none =>
    have silent :
        (if field.reportId = reportId then field.ask? queries report else none) = none := by
      rw [ValueField.sample?] at sampled
      split at sampled
      · rename_i own
        rw [if_pos own, ValueField.ask?_eq own, Option.map_eq_none_iff.mp sampled, Option.map_none]
      · rename_i foreign
        exact if_neg foreign
    refine ⟨layout, [], ?_, bounded, plain, rfl, .refl move?_self _ _ _, nofun, fun _ => rfl⟩
    rw [readValue, silent, ValueField.heard_of_sample?_none sampled]
    rfl
  | some raw =>
    obtain ⟨own, answered⟩ := Option.ite_none_right_eq_some.mp sampled
    obtain ⟨value, answer, rfl⟩ := Option.map_eq_some_iff.mp answered
    have asked := @ValueField.ask?_eq field queries report reportId own
    rw [answer, Option.map_some] at asked
    have fits' := fits_ask? fits asked
    rw [ValueField.sample_heard] at fits'
    obtain ⟨after, kinds, fed, bounded', plain', wires, takes, rewrites⟩ :=
      exists_feedField bounded plain fits' control wired
    refine ⟨after, kinds, ?_, bounded', plain', wires, rewrites, fun raw same => ?_, nofun⟩
    · simp only [readValue, if_pos own, asked, ValueField.sample_heard, fed, bind, Except.bind,
        pure, Except.pure]
    · cases same
      exact takes

theorem readValues_cons (layout : Layout) (cookie : Nat) (field : ValueField)
    (rest : List ValueField) :
    readValues queries report reportId layout cookie (field :: rest) = (do
      let (field, layout, first) ← readValue queries report reportId layout cookie field
      let (rest, layout, others) ← readValues queries report reportId layout (cookie + 1) rest
      pure (field :: rest, layout, first ++ others)) := by
  rw [readValues, readValue]
  cases (if field.reportId = reportId then field.ask? queries report else none) with
  | none => rfl
  | some answer =>
    obtain ⟨value, asked⟩ := answer
    dsimp only
    cases feedField layout cookie (asked.sample value) <;> rfl

/-- The first field, and those after it, whose slots lie behind. -/
theorem Moves.cons {done sources : List Source} {source : Source} {field : ValueField}
    {rest : List ValueField} {before middle after : Layout} {kinds others : List EventKind}
    (takes : ∀ raw, field.sample? queries report reportId = some raw →
      Layout.Takes before middle (slotCount done) done.length raw source)
    (idle : field.sample? queries report reportId = none → middle = before)
    (first : Rewrites move? (slotCount done) source.width before.slots middle.slots kinds)
    (second : Rewrites move? (slotCount done + source.width) (slotCount sources) middle.slots
      after.slots others)
    (moves : Moves queries report reportId (done ++ [source]) sources rest middle after) :
    Moves queries report reportId done (source :: sources) (field :: rest) before after := by
  have counts (number : Nat) : slotCount (done ++ (source :: sources).take (number + 1)) =
      slotCount (done ++ [source] ++ sources.take number) := by
    rw [List.take_succ_cons, List.append_assoc, List.singleton_append]
  refine ⟨fun number own control raw here there sampled => ?_, fun axis silent => ?_⟩
  · cases number with
    | zero =>
      cases here
      cases there
      have count : slotCount (done ++ (source :: sources).take 0) = slotCount done := by simp
      rw [count, Nat.add_zero]
      exact (takes raw sampled).congr (fun _ _ _ => rfl)
        fun place _ inside => second.same place (.inl inside)
    | succ number =>
      have later := moves.taken number own control raw here there sampled
      rw [counts, Nat.add_comm number, ← Nat.add_assoc]
      rw [List.length_append, List.length_singleton] at later
      refine later.congr (fun place inside _ => (first.same place (.inr ?_)).symm) fun _ _ _ => rfl
      have behind : slotCount (done ++ [source] ++ sources.take number) =
          slotCount done + source.width + slotCount (sources.take number) := by
        rw [slotCount_append, slotCount_append, slotCount_cons, slotCount_nil, Nat.add_zero]
      omega
  · have stays : after.slots[axis]? = middle.slots[axis]? := by
      refine moves.others axis fun number own control here there low high => ?_
      rw [← counts] at low high
      exact silent (number + 1) own control here there low high
    rw [stays]
    cases sampled : field.sample? queries report reportId with
    | none => rw [idle sampled]
    | some raw =>
      refine first.same axis ?_
      by_contra inside
      have nothing := silent 0 field source rfl rfl (by simp; omega) (by simp; omega)
      rw [sampled] at nothing
      cases nothing

/-- The fields of a parser, read one after the other. -/
theorem exists_readValues (fits : queries.Fits) {layout : Layout} (bounded : layout.Bounded)
    (plain : layout.Plain) {done sources : List Source} {fields : List ValueField}
    (controls : ∀ source ∈ sources, source ≠ .hatSecond) (sizes : fields.length = sources.length)
    (wired : layout.wires = controlWires 0 (done ++ sources)) :
    ∃ after kinds, readValues queries report reportId layout done.length fields =
        .ok (fields.map (·.heard queries report reportId), after, kinds) ∧
      after.Bounded ∧ after.Plain ∧ after.wires = layout.wires ∧
      Rewrites move? (slotCount done) (slotCount sources) layout.slots after.slots kinds ∧
      Moves queries report reportId done sources fields layout after := by
  induction fields generalizing layout done sources with
  | nil =>
    cases List.length_eq_zero_iff.mp sizes.symm
    exact ⟨layout, [], rfl, bounded, plain, rfl, .refl move?_self _ _ _, nofun, fun _ _ => rfl⟩
  | cons field rest ih =>
    obtain ⟨source, sources, rfl⟩ := List.exists_cons_of_length_eq_add_one sizes.symm
    obtain ⟨control, controls⟩ := List.forall_mem_cons.mp controls
    have wired' : layout.wires = controlWires 0 done ++
        (source.wires done.length ++ controlWires (done.length + 1) sources) := by
      rw [wired, controlWires_append, Nat.zero_add, controlWires]
    obtain ⟨middle, first, read, bounded, plain, wires, rewrites, takes, idle⟩ :=
      @exists_readValue queries report reportId fits layout bounded plain source control done _ field
        wired'
    obtain ⟨after, others, reads, bounded, plain, wires', rewrites', moves⟩ :=
      @ih middle bounded plain (done ++ [source]) sources controls (Nat.succ.inj sizes)
        (by rw [wires, wired, List.append_assoc, List.singleton_append])
    rw [List.length_append, List.length_singleton] at reads
    have behind : slotCount (done ++ [source]) = slotCount done + source.width := by simp
    rw [behind] at rewrites'
    refine ⟨after, first ++ others, ?_, bounded, plain, wires'.trans wires, ?_, ?_⟩
    · rw [readValues_cons, read]
      simp only [bind, Except.bind, reads, pure, Except.pure, List.map_cons]
    · rw [slotCount_cons]
      exact rewrites.append rewrites'
    · exact .cons takes idle rewrites rewrites' moves

/-! ## A whole report -/

/-- Parsers of some capabilities, as built and after any reports. -/
inductive ParserOf (buttonCaps : List ButtonCap) (valueCaps : List ValueCap) : Parser → Prop where
  | built (reportLength : Nat) :
      ParserOf buttonCaps valueCaps (.ofCaps reportLength buttonCaps valueCaps)
  /-- For the pedals that answer on the top collection only. -/
  | top (reportLength : Nat) :
      ParserOf buttonCaps valueCaps
        { Parser.ofCaps reportLength buttonCaps valueCaps with
          values := (Parser.ofCaps reportLength buttonCaps valueCaps).values.map (·.unlinked) }
  | read {parser after : Parser} {queries : Queries} {data : Report} {kinds : List EventKind}
      (earlier : ParserOf buttonCaps valueCaps parser) (fits : queries.Fits)
      (read : parser.read queries data = .ok (after, kinds)) : ParserOf buttonCaps valueCaps after

theorem parserOf_ofDescription? {vendor product : Nat} {description : Description} {parser : Parser}
    (made : Parser.ofDescription? vendor product description = some parser) :
    ParserOf ((enumerate? description.buttonCaps).getD [])
      ((enumerate? description.valueCaps).getD []) parser := by
  obtain ⟨-, ⟨⟩⟩ := Option.ite_none_left_eq_some.mp made
  split
  · exact .top description.reportLength
  · exact .built description.reportLength

/-- The report that the system is asked about: cut or filled with zeros to its length. -/
def Parser.filled (parser : Parser) (data : Report) : Report :=
  data.take parser.bufferLength ++
    List.replicate (parser.bufferLength - (data.take parser.bufferLength).length) 0

theorem Parser.read_cons (parser : Parser) (id : UInt8) (rest : Report) :
    parser.read queries (id :: rest) = (do
      let report := parser.filled (id :: rest)
      let (pressed, presses) := readButtons queries report id.toNat parser.pressed parser.buttons
      let (values, layout, moves) ←
        readValues queries report id.toNat parser.layout 0 parser.values
      pure ({ parser with pressed, values, layout }, presses ++ moves)) := rfl

/-- What a report with id `reportId` makes of a parser of some capabilities, and what is reported. -/
structure Hears (valueCaps : List ValueCap) (queries : Queries) (report : Report) (reportId : Nat)
    (before after : Parser) (kinds : List EventKind) : Prop where
  /-- Of the fields, only where they ask changes. -/
  fields_eq : after = { before with
    pressed := after.pressed
    values := before.values.map (·.heard queries report reportId)
    layout := after.layout }
  presses : Presses queries report reportId before.buttons before.pressed after.pressed
  moves : Moves queries report reportId [] (valueSources valueCaps) before.values before.layout
    after.layout
  /-- Buttons that differ, by ascending number, and then slots that do. -/
  kinds_eq : kinds =
    (List.range before.buttonCount).filterMap
        (difference? edge? before.pressed after.pressed) ++
      (List.range before.axisCount).filterMap
        (difference? move? before.layout.slots after.layout.slots)

variable {buttonCaps : List ButtonCap} {valueCaps : List ValueCap} {parser : Parser}

theorem Serves.exists_read (serves : Serves buttonCaps valueCaps parser) (fits : queries.Fits)
    (id : UInt8) (rest : Report) :
    ∃ after kinds, parser.read queries (id :: rest) = .ok (after, kinds) ∧
      Serves buttonCaps valueCaps after ∧
      Hears valueCaps queries (parser.filled (id :: rest)) id.toNat parser after kinds := by
  have controls : ∀ source ∈ valueSources valueCaps, source ≠ .hatSecond := by
    intro source member
    obtain ⟨field, -, rfl⟩ := List.mem_map.mp member
    exact fieldSource_ne_hatSecond _ _ _
  have numbered : Consecutive 0 parser.buttons := by
    rw [serves.buttons_eq]
    exact consecutive_buttonFields 0 buttonCaps
  have inside : 0 + (parser.buttons.flatMap (·.usages)).length = parser.pressed.size := by
    rw [serves.size_pressed, Nat.zero_add]
  have buttons := @readButtons_presses queries (parser.filled (id :: rest)) id.toNat parser.pressed
    0 parser.buttons numbered (Nat.le_of_eq inside)
  obtain ⟨layout, moved, read, bounded, plain, wires, slots, moves⟩ :=
    @exists_readValues queries (parser.filled (id :: rest)) id.toNat fits parser.layout
      serves.bounded serves.plain [] (valueSources valueCaps) parser.values controls
      serves.length_values (by rw [serves.wires_eq, List.nil_append])
  generalize result : readButtons queries (parser.filled (id :: rest)) id.toNat parser.pressed
    parser.buttons = pressing at buttons
  obtain ⟨pressed, presses⟩ := pressing
  obtain ⟨rewrites, pressing⟩ := buttons
  have heard : parser.read queries (id :: rest) = .ok ({ parser with
      pressed
      values := parser.values.map (·.heard queries (parser.filled (id :: rest)) id.toNat)
      layout }, presses ++ moved) := by
    rw [List.length_nil] at read
    simp only [Parser.read_cons, result, read, bind, Except.bind, pure, Except.pure]
  refine ⟨_, _, heard, ?_, ?_⟩
  · exact {
      buttons_eq := serves.buttons_eq
      size_pressed := rewrites.size_eq.trans serves.size_pressed
      values_eq := by
        rw [← serves.values_eq, List.map_map]
        exact congrArg (List.map · _) (funext fun _ => ValueField.unlinked_heard)
      wires_eq := wires.trans serves.wires_eq
      bounded := bounded
      plain := plain }
  · have slotted : parser.layout.slots.size = slotCount (valueSources valueCaps) := by
      rw [← length_controlWires 0, ← serves.wires_eq, Layout.length_wires, Layout.size]
    refine ⟨rfl, pressing, moves, ?_⟩
    rw [← serves.size_pressed] at rewrites
    rw [slotCount_nil, ← slotted] at slots
    exact congrArg₂ (· ++ ·) rewrites.all slots.all

theorem ParserOf.serves (caps : ∀ cap ∈ valueCaps, cap.Fits)
    (of : ParserOf buttonCaps valueCaps parser) : Serves buttonCaps valueCaps parser := by
  induction of with
  | built reportLength => exact serves_ofCaps caps reportLength
  | top reportLength =>
    refine (serves_ofCaps caps reportLength).ofValues ?_
    rw [List.map_map]
    rfl
  | @read parser after queries data kinds _ fits read ih =>
    cases data with
    | nil =>
      cases read
      exact ih
    | cons id rest =>
      obtain ⟨after', kinds', read', serves, -⟩ := ih.exists_read fits id rest
      cases read.symm.trans read'
      exact serves

/-- Whatever reports a parser has read and however the system answers, the next report is read, and
moves just what is answered for. -/
theorem Parser.read_hears (caps : ∀ cap ∈ valueCaps, cap.Fits)
    (of : ParserOf buttonCaps valueCaps parser) (fits : queries.Fits) (id : UInt8) (rest : Report) :
    parser.read queries [] = .ok (parser, []) ∧
      ∃ after kinds, parser.read queries (id :: rest) = .ok (after, kinds) ∧
        Hears valueCaps queries (parser.filled (id :: rest)) id.toNat parser after kinds := by
  obtain ⟨after, kinds, read, -, hears⟩ := (of.serves caps).exists_read fits id rest
  exact ⟨rfl, after, kinds, read, hears⟩

/-- A hat, and an axis in two's complement, in a collection below the top. -/
def stickCaps : List ValueCap := [⟨0, 1, .single 1 0x39, 0, 7, 4⟩, ⟨0, 1, .single 1 0x30, -8, 7, 4⟩]

/-- Answers for two usages of every page, and for values on the top collection only. -/
def topAnswers : Queries where
  usages _ _ _ := some [1, 3]
  value _ link _ _ := if link = 0 then some 6 else none

/-- The parser of a pair of buttons and a stick asks on the top collection after its first report. -/
theorem Parser.read_hears_fallback :
    ∃ parser kinds,
      (Parser.ofCaps 2 [⟨0, 1, ⟨9, 1, 2⟩⟩] stickCaps).read topAnswers [0, 1] = .ok (parser, kinds) ∧
      parser.read topAnswers [] = .ok (parser, []) ∧
      ∃ after more, parser.read topAnswers [0, 5, 5] = .ok (after, more) ∧
        Hears stickCaps topAnswers (parser.filled [0, 5, 5]) 0 parser after more := by
  have caps : ∀ cap ∈ stickCaps, cap.Fits := by
    simp [stickCaps, ValueCap.Fits, Fits32]
  have fits : topAnswers.Fits := by
    intro page link usage report value answer
    obtain ⟨-, answer⟩ := Option.ite_none_right_eq_some.mp answer
    cases answer
    decide
  have start : ParserOf [⟨0, 1, ⟨9, 1, 2⟩⟩] stickCaps (.ofCaps 2 [⟨0, 1, ⟨9, 1, 2⟩⟩] stickCaps) :=
    .built 2
  obtain ⟨-, parser, kinds, read, -⟩ := Parser.read_hears caps start fits 0 [1]
  exact ⟨parser, kinds, read, Parser.read_hears caps (.read start fits read) fits 0 [5, 5]⟩

end GamepadInput.Hid
