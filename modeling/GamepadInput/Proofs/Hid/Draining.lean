import GamepadInput.Proofs.Hid.Reading

/-!
# Reports read a few at a time

A poll reads reports in the order in which they came in, and stops at its limit or at a read without
bytes (`readsOf`).  What it reports is what decoding those reports in one go does
(`Pad.exists_drain`).  A poll with a smaller limit that is behind stays behind
(`readsOf_append_le`).
-/

namespace GamepadInput.Hid

/-! ## How far a poll gets -/

/-- How many of the reports a poll with a limit reads. -/
def readsOf : (limit : Nat) → List Report → Nat
  | 0, _ => 0
  | _, [] => 0
  | limit + 1, data :: rest => if data.isEmpty then 1 else readsOf limit rest + 1

@[simp] theorem readsOf_zero (reports : List Report) : readsOf 0 reports = 0 := by
  cases reports <;> rfl

@[simp] theorem readsOf_nil (limit : Nat) : readsOf limit [] = 0 := by
  cases limit <;> rfl

theorem readsOf_le_length (limit : Nat) (reports : List Report) :
    readsOf limit reports ≤ reports.length := by
  induction reports generalizing limit with
  | nil => simp
  | cons data rest ih =>
    cases limit with
    | zero => simp
    | succ limit =>
      have others := ih limit
      rw [readsOf, List.length_cons]
      split <;> omega

/-- A poll that may read at all reads something that is there. -/
theorem readsOf_pos {limit : Nat} (positive : 0 < limit) {reports : List Report}
    (some : reports ≠ []) : 0 < readsOf limit reports := by
  cases limit with
  | zero => cases positive
  | succ limit =>
    cases reports with
    | nil => exact absurd rfl some
    | cons data rest =>
      rw [readsOf]
      split <;> omega

/-- A poll reads no less if it may read more, or finds more. -/
theorem readsOf_mono {limit higher : Nat} (le : limit ≤ higher) (reports more : List Report) :
    readsOf limit reports ≤ readsOf higher (reports ++ more) := by
  induction reports generalizing limit higher with
  | nil => simp
  | cons data rest ih =>
    cases limit with
    | zero => simp
    | succ limit =>
      cases higher with
      | zero => cases le
      | succ higher =>
        have others := ih (Nat.le_of_succ_le_succ le)
        rw [List.cons_append, readsOf, readsOf]
        split <;> omega

/-- A poll that is some reports behind one with a higher limit does not pass it. -/
theorem readsOf_append_le {limit higher : Nat} (le : limit ≤ higher) (behind reports : List Report) :
    readsOf limit (behind ++ reports) ≤ behind.length + readsOf higher reports := by
  induction behind generalizing limit with
  | nil =>
    have alone := readsOf_mono le reports []
    rw [List.append_nil] at alone
    simpa using alone
  | cons data rest ih =>
    cases limit with
    | zero => simp
    | succ limit =>
      have others := ih (Nat.le_of_succ_le le)
      rw [List.cons_append, readsOf, List.length_cons]
      split <;> omega

/-! ## What the reports come to -/

namespace Pad

/-- Decodes reports in one go, each cut to the bytes that a read can take.  A read without bytes is
no report. -/
def decodeAll (pad : Pad) (queries : Queries) :
    List Report → Except Overflow (Pad × List EventKind)
  | [] => .ok (pad, [])
  | data :: rest =>
    let data := data.take pad.bufferLength
    if data.isEmpty then pad.decodeAll queries rest
    else do
      let (parser, kinds) ← pad.parser.readBuffered queries data
      let (pad, more) ← { pad with parser }.decodeAll queries rest
      pure (pad, kinds ++ more)

variable {pad middle after : Pad} {queries : Queries} {kinds others : List EventKind}

/-- Decoding goes on where the reports before left the device. -/
theorem decodeAll_append (pad : Pad) (queries : Queries) (reports more : List Report) :
    pad.decodeAll queries (reports ++ more) = (do
      let (middle, kinds) ← pad.decodeAll queries reports
      let (after, others) ← middle.decodeAll queries more
      pure (after, kinds ++ others)) := by
  induction reports generalizing pad with
  | nil =>
    have done : pad.decodeAll queries [] = pure (pad, []) := rfl
    simp [done]
  | cons data rest ih =>
    rw [List.cons_append, decodeAll, decodeAll]
    dsimp only
    split
    · exact ih pad
    · simp only [ih, bind_assoc, pure_bind, List.append_assoc]

/-- More reports change nothing of what those before them tell. -/
theorem kinds_isPrefix_of_decodeAll {reports more : List Report}
    (first : pad.decodeAll queries reports = .ok (middle, kinds))
    (whole : pad.decodeAll queries (reports ++ more) = .ok (after, others)) : kinds <+: others := by
  rw [decodeAll_append] at whole
  obtain ⟨_, same, whole⟩ := exists_of_bind_ok whole
  cases first.symm.trans same
  obtain ⟨⟨last, later⟩, -, whole⟩ := exists_of_bind_ok whole
  cases whole
  exact List.prefix_append kinds later

/-- The buffer for a read holds some bytes. -/
theorem isEmpty_take_bufferLength (pad : Pad) (data : Report) :
    (data.take pad.bufferLength).isEmpty = data.isEmpty := by
  have room : 0 < pad.bufferLength := Nat.lt_of_lt_of_le (by decide) (Nat.le_max_right _ leastBuffer)
  cases data with
  | nil => simp
  | cons byte rest =>
    cases length : pad.bufferLength with
    | zero => omega
    | succ n => rfl

/-- Decoding changes nothing of a device but its parser. -/
theorem eq_of_decodeAll {reports : List Report}
    (decoded : pad.decodeAll queries reports = .ok (after, kinds)) :
    after = { pad with parser := after.parser } := by
  induction reports generalizing pad kinds with
  | nil =>
    cases decoded
    rfl
  | cons data rest ih =>
    rw [decodeAll] at decoded
    dsimp only at decoded
    split at decoded
    · exact ih decoded
    · obtain ⟨⟨parser, own⟩, -, decoded⟩ := exists_of_bind_ok decoded
      obtain ⟨⟨reached, later⟩, onward, decoded⟩ := exists_of_bind_ok decoded
      cases decoded
      have same := ih onward
      exact same

/-- A poll of reports decodes those that it reads. -/
theorem exists_drain (fits : queries.Fits) (bounded : pad.parser.layout.Bounded) (limit : Nat)
    (reports : List Report) :
    ∃ after kinds,
      pad.drain queries limit (reports.map some) = .ok ⟨after, kinds, false, readsOf limit reports⟩ ∧
      pad.decodeAll queries (reports.take (readsOf limit reports)) = .ok (after, kinds) := by
  induction limit generalizing pad reports with
  | zero => exact ⟨pad, [], by rw [readsOf_zero, drain], by simp [decodeAll]⟩
  | succ limit ih =>
    cases reports with
    | nil => exact ⟨pad, [], rfl, rfl⟩
    | cons data rest =>
      have empty := pad.isEmpty_take_bufferLength data
      rw [List.map_cons, drain, readsOf]
      cases bytes : data.isEmpty with
      | true =>
        refine ⟨pad, [], ?_, ?_⟩
        · simp only [empty, bytes, if_true]
        · rw [if_pos rfl, List.take_succ_cons, List.take_zero, decodeAll]
          simp only [empty, bytes, if_true, decodeAll]
      | false =>
        obtain ⟨parser, own, read, bounded', -⟩ := Parser.read_ok fits bounded
          (if pad.parser.unnumbered then 0 :: data.take pad.bufferLength
            else data.take pad.bufferLength)
        have kept : ({ pad with parser } : Pad).parser.layout.Bounded := bounded'
        obtain ⟨after, kinds, drained, decoded⟩ := ih kept rest
        refine ⟨after, own ++ kinds, ?_, ?_⟩
        · simp only [empty, bytes, Bool.false_eq_true, if_false, Parser.readBuffered, read, drained,
            bind, Except.bind, pure, Except.pure]
        · simp only [Bool.false_eq_true, if_false, List.take_succ_cons, decodeAll, empty, bytes,
            Parser.readBuffered, read, decoded, bind, Except.bind, pure, Except.pure]

end Pad

end GamepadInput.Hid
