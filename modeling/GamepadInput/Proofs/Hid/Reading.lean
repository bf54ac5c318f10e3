import GamepadInput.Hid.Pad
import GamepadInput.Proofs.Axis.Bounds
import GamepadInput.Proofs.Hid.SignExtension

/-!
# Reading a HID device

The system answers in words of 32 bits: logical ranges, and values of usages.  Then every report is
read without overflow, and all that it reports is input (`Pad.poll_ok`).
-/

namespace GamepadInput.Hid

/-- The logical range fits 32 bits. -/
def ValueCap.Fits (cap : ValueCap) : Prop := Fits32 cap.logicalMin ∧ Fits32 cap.logicalMax

/-- Every list of value controls that the system gives fits 32 bits. -/
def Description.Fits (description : Description) : Prop :=
  ∀ room caps, description.valueCaps room = .list caps → ∀ cap ∈ caps, cap.Fits

/-- Every value that the system gives fits 32 bits. -/
def Queries.Fits (queries : Queries) : Prop :=
  ∀ page link usage report (value : Nat),
    queries.value page link usage report = some value → Fits32 value

theorem fits32_signExtend (raw bits : Nat) : Fits32 (signExtend raw bits) := by
  have size : (if bits = 0 ∨ 32 ≤ bits then 32 else bits) ≤ 32 := by
    split
    · omega
    · omega
  rw [signExtend_eq_bmod]
  exact .of_fitsWord ((fitsWord_bmod _ raw).mono size)

/-! ## Slots -/

theorem bounded_pushField {layout : Axis.Layout} (bounded : layout.Bounded) (cookie : Nat)
    (role : ValueRole) {min max : Int} (low : Fits32 min) (high : Fits32 max) :
    (pushField layout cookie role min max).Bounded := by
  unfold pushField
  split
  · exact bounded.pushHat cookie low high
  · split
    · exact bounded.pushLinear cookie ⟨low, high⟩
    · exact bounded.pushLinear cookie ⟨by decide, by decide⟩

theorem bounded_fieldLayout {layout : Axis.Layout} (bounded : layout.Bounded) (cookie : Nat)
    {fields : List (ValueField × ValueRole × Int × Int)}
    (fits : ∀ field ∈ fields, Fits32 field.2.2.1 ∧ Fits32 field.2.2.2) :
    (fieldLayout layout cookie fields).Bounded := by
  induction fields generalizing layout cookie with
  | nil => exact bounded
  | cons field rest ih =>
    obtain ⟨low, high⟩ := fits field (by simp)
    exact ih (bounded_pushField bounded cookie field.2.1 low high) (cookie + 1)
      fun other member => fits other (by simp [member])

theorem fits_valueFields {caps : List ValueCap} (fits : ∀ cap ∈ caps, cap.Fits) :
    ∀ field ∈ valueFields caps, Fits32 field.2.2.1 ∧ Fits32 field.2.2.2 := by
  intro field member
  obtain ⟨cap, among, inside⟩ := List.mem_flatMap.mp member
  obtain ⟨usage, -, made⟩ := List.mem_filterMap.mp inside
  obtain ⟨-, ⟨⟩⟩ := Option.ite_none_left_eq_some.mp made
  exact fits cap among

theorem Description.Fits.enumerate? {description : Description} (fits : description.Fits) :
    ∀ cap ∈ (enumerate? description.valueCaps).getD [], cap.Fits := by
  cases listed : Hid.enumerate? description.valueCaps with
  | none => nofun
  | some caps =>
    unfold Hid.enumerate? at listed
    split at listed
    · rename_i first
      cases listed
      exact fits _ _ first
    · split at listed
      · cases listed
      · split at listed
        · rename_i second
          cases listed
          exact fits _ _ second
        · cases listed
        · cases listed
    · cases listed

/-- A parser starts within 32 bits. -/
theorem Parser.bounded_ofDescription? {vendor product : Nat} {description : Description}
    {parser : Parser} (fits : description.Fits)
    (made : ofDescription? vendor product description = some parser) : parser.layout.Bounded := by
  obtain ⟨-, ⟨⟩⟩ := Option.ite_none_left_eq_some.mp made
  have bounded : (fieldLayout .empty 0
      (valueFields ((enumerate? description.valueCaps).getD []))).Bounded :=
    bounded_fieldLayout Axis.Layout.bounded_empty 0 (fits_valueFields fits.enumerate?)
  split
  · exact bounded
  · exact bounded

/-! ## Reports -/

theorem isInput_of_mem_pressUsages {pressed : Buttons} {index : Nat} {set usages : List Nat}
    {kind : EventKind} (reported : kind ∈ (pressUsages pressed index set usages).2) :
    kind.isInput = true := by
  induction usages generalizing pressed index with
  | nil => cases reported
  | cons usage rest ih =>
    rcases List.mem_append.mp reported with first | others
    · exact Buttons.isInput_of_mem_press first
    · exact ih others

theorem isInput_of_mem_readButtons {queries : Queries} {report : Report} {reportId : Nat}
    {pressed : Buttons} {fields : List ButtonField} {kind : EventKind}
    (reported : kind ∈ (readButtons queries report reportId pressed fields).2) :
    kind.isInput = true := by
  induction fields generalizing pressed with
  | nil => cases reported
  | cons field rest ih =>
    simp only [readButtons, List.mem_append] at reported
    rcases reported with first | others
    · split at first
      · split at first
        · exact isInput_of_mem_pressUsages first
        · cases first
      · cases first
    · exact ih others

variable {queries : Queries}

theorem fits_ask? (fits : queries.Fits) {field after : ValueField} {report : Report} {value : Nat}
    (asked : field.ask? queries report = some (value, after)) : Fits32 (after.sample value) := by
  have answer : Fits32 value := by
    unfold ValueField.ask? at asked
    split at asked
    · rename_i own
      cases asked
      exact fits _ _ _ _ _ own
    · obtain ⟨-, top⟩ := Option.ite_none_left_eq_some.mp asked
      obtain ⟨answer, given, ⟨⟩⟩ := Option.map_eq_some_iff.mp top
      exact fits _ _ _ _ _ given
  unfold ValueField.sample
  split
  · exact fits32_signExtend value after.bitSize
  · exact answer

theorem feedField_ok {layout : Axis.Layout} (bounded : layout.Bounded) (cookie : Nat)
    {sample : Int} (fits : Fits32 sample) :
    ∃ after kinds, feedField layout cookie sample = .ok (after, kinds) ∧ after.Bounded ∧
      ∀ kind ∈ kinds, kind.isInput = true := by
  cases found : layout.find? cookie with
  | none => exact ⟨layout, [], by simp [feedField, found], bounded, nofun⟩
  | some slot =>
    obtain ⟨after, changes, fed, still⟩ := bounded.feed slot fits
    refine ⟨after, changes.map .axis, ?_, still, ?_⟩
    · simp only [feedField, found, fed]
      rfl
    · intro kind member
      obtain ⟨change, -, rfl⟩ := List.mem_map.mp member
      rfl

theorem readValues_ok (fits : queries.Fits) (report : Report) (reportId : Nat)
    {layout : Axis.Layout} (bounded : layout.Bounded) (cookie : Nat) (fields : List ValueField) :
    ∃ fields' after kinds,
      readValues queries report reportId layout cookie fields = .ok (fields', after, kinds) ∧
        after.Bounded ∧ ∀ kind ∈ kinds, kind.isInput = true := by
  induction fields generalizing layout cookie with
  | nil => exact ⟨[], layout, [], rfl, bounded, nofun⟩
  | cons field rest ih =>
    cases answer : if field.reportId = reportId then field.ask? queries report else none with
    | none =>
      obtain ⟨fields, after, kinds, read, still, inputs⟩ := ih bounded (cookie + 1)
      refine ⟨field :: fields, after, kinds, ?_, still, inputs⟩
      simp only [readValues, answer, read, bind, Except.bind, pure, Except.pure, List.nil_append]
    | some answered =>
      obtain ⟨value, asked⟩ := answered
      obtain ⟨-, given⟩ := Option.ite_none_right_eq_some.mp answer
      obtain ⟨fed, first, stored, within, moves⟩ := feedField_ok bounded cookie (fits_ask? fits given)
      obtain ⟨fields, after, kinds, read, still, inputs⟩ := ih within (cookie + 1)
      refine ⟨asked :: fields, after, first ++ kinds, ?_, still, ?_⟩
      · simp only [readValues, answer, stored, read, bind, Except.bind, pure, Except.pure]
      · intro kind member
        exact (List.mem_append.mp member).elim (moves kind) (inputs kind)

theorem Parser.read_ok (fits : queries.Fits) {parser : Parser} (bounded : parser.layout.Bounded)
    (data : Report) :
    ∃ after kinds, parser.read queries data = .ok (after, kinds) ∧ after.layout.Bounded ∧
      ∀ kind ∈ kinds, kind.isInput = true := by
  cases data with
  | nil => exact ⟨parser, [], rfl, bounded, nofun⟩
  | cons id rest =>
    simp only [Parser.read]
    generalize (id :: rest).take parser.bufferLength ++ _ = report
    obtain ⟨values, layout, moves, read, still, inputs⟩ :=
      readValues_ok fits report id.toNat bounded 0 parser.values
    refine ⟨_, _, by rw [read]; rfl, still, ?_⟩
    intro kind member
    exact (List.mem_append.mp member).elim isInput_of_mem_readButtons (inputs kind)

/-! ## Polls -/

namespace Pad

theorem drain_ok (fits : queries.Fits) {pad : Pad} (bounded : pad.parser.layout.Bounded)
    (limit : Nat) (reads : List Read) :
    ∃ poll, pad.drain queries limit reads = .ok poll ∧ poll.pad.parser.layout.Bounded ∧
      ∀ kind ∈ poll.kinds, kind.isInput = true := by
  induction limit generalizing pad reads with
  | zero => exact ⟨⟨pad, [], false, 0⟩, by simp only [drain], bounded, nofun⟩
  | succ limit ih =>
    cases reads with
    | nil => exact ⟨_, rfl, bounded, nofun⟩
    | cons read rest =>
      cases read with
      | none => exact ⟨_, rfl, bounded, nofun⟩
      | some data =>
        unfold drain
        dsimp only
        split
        · exact ⟨_, rfl, bounded, nofun⟩
        · obtain ⟨parser, kinds, first, within, inputs⟩ := Parser.read_ok fits bounded
            (if pad.parser.unnumbered then 0 :: data.take pad.bufferLength
              else data.take pad.bufferLength)
          have kept : ({ pad with parser } : Pad).parser.layout.Bounded := within
          obtain ⟨poll, others, still, more⟩ := ih kept rest
          refine ⟨{ poll with kinds := kinds ++ poll.kinds, taken := poll.taken + 1 }, ?_, still, ?_⟩
          · simp only [Parser.readBuffered, first, others, bind, Except.bind, pure, Except.pure]
          · intro kind member
            exact (List.mem_append.mp member).elim (inputs kind) (more kind)

theorem request_ok (fits : queries.Fits) {pad : Pad} (bounded : pad.parser.layout.Bounded)
    (reads : List Read) :
    ∃ poll, pad.request queries reads = .ok poll ∧ poll.pad.parser.layout.Bounded ∧
      ∀ kind ∈ poll.kinds, kind.isInput = true := by
  cases reads with
  | nil => exact ⟨_, rfl, bounded, nofun⟩
  | cons read rest =>
    cases read with
    | none => exact ⟨_, rfl, bounded, nofun⟩
    | some data =>
      obtain ⟨parser, kinds, done, still, inputs⟩ :=
        Parser.read_ok fits bounded (data.take pad.bufferLength)
      exact ⟨_, by rw [request, done]; rfl, still, inputs⟩

/-- A device within 32 bits is polled, and stays within. -/
theorem poll_ok {pad : Pad} (bounded : pad.parser.layout.Bounded) (limit : Nat) {link : Link}
    (fits : link.queries.Fits) :
    ∃ poll, pad.poll limit link = .ok poll ∧ poll.pad.parser.layout.Bounded ∧
      ∀ kind ∈ poll.kinds, kind.isInput = true := by
  unfold poll
  split
  · exact drain_ok fits bounded limit link.waiting
  · exact request_ok fits bounded link.waiting

/-! ## What polling does not change -/

theorem path_drain {pad : Pad} {limit : Nat} {reads : List Read} {done : Poll}
    (polled : pad.drain queries limit reads = .ok done) : done.pad.path = pad.path := by
  induction limit generalizing pad reads done with
  | zero =>
    simp only [drain, Except.ok.injEq] at polled
    rw [← polled]
  | succ limit ih =>
    cases reads with
    | nil =>
      cases polled
      rfl
    | cons read rest =>
      cases read with
      | none =>
        cases polled
        rfl
      | some data =>
        unfold drain at polled
        dsimp only at polled
        split at polled
        · cases polled
          rfl
        · obtain ⟨⟨parser, kinds⟩, -, polled⟩ := exists_of_bind_ok polled
          obtain ⟨others, drained, polled⟩ := exists_of_bind_ok polled
          cases polled
          have stays : others.pad.path = ({ pad with parser } : Pad).path := ih drained
          exact stays

theorem path_request {pad : Pad} {reads : List Read} {done : Poll}
    (polled : pad.request queries reads = .ok done) : done.pad.path = pad.path := by
  cases reads with
  | nil =>
    cases polled
    rfl
  | cons read rest =>
    cases read with
    | none =>
      cases polled
      rfl
    | some data =>
      obtain ⟨⟨parser, kinds⟩, -, polled⟩ := exists_of_bind_ok polled
      cases polled
      rfl

/-- A device stays at its path. -/
theorem path_poll {pad : Pad} {limit : Nat} {link : Link} {done : Poll}
    (polled : pad.poll limit link = .ok done) : done.pad.path = pad.path := by
  unfold poll at polled
  split at polled
  · exact path_drain polled
  · exact path_request polled

end Pad

end GamepadInput.Hid
