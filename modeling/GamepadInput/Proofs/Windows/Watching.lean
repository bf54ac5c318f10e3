import GamepadInput.Proofs.Hid.Draining
import GamepadInput.Proofs.Windows.Replug
import GamepadInput.Proofs.Windows.Slots

/-!
# The reports of one device over many processings

Reports of a buffered device wait until a processing reads them, as many as it may.  What is heard
of the device is what decoding the reports read so far does in one go, however they were divided
among the processings (`watch_decodes`).  So the most that a processing reads makes no difference
but to when the reports are heard of (`streams_agree`).
-/

namespace GamepadInput.Windows

def Call.isProcess : Call → Bool
  | process _ => true
  | start _ | detect _ | shutdown => false

/-- A processing, and what leads up to it. -/
structure Tick where
  /-- Calls that the host makes before. -/
  calls : List Call
  /-- What the processing reads of other devices. -/
  readings : Readings
  /-- Reports of the device that come in since the processing before and in this one. -/
  arrivals : List Hid.Report
  /-- How many of them come in while this processing still reads the device. -/
  early : Nat

namespace Tick

/-- What the processing finds of the device, of which some reports were not read yet. -/
def found (tick : Tick) (unread : List Hid.Report) : List Hid.Report :=
  unread ++ tick.arrivals.take tick.early

/-- How much of it the processing reads. -/
def reads (tick : Tick) (limit : Nat) (unread : List Hid.Report) : Nat :=
  Hid.readsOf limit (tick.found unread)

/-- What waits for the next processing after this one read some reports. -/
def left (tick : Tick) (unread : List Hid.Report) (reads : Nat) : List Hid.Report :=
  (unread ++ tick.arrivals).drop reads

structure Fits (tick : Tick) : Prop where
  calls : ∀ call ∈ tick.calls, call.Fits
  quiet : ∀ call ∈ tick.calls, call.isProcess = false
  readings : tick.readings.Fits

/-- The same reports come in, and none is found sooner than by the processing of `other`. -/
structure Lags (tick other : Tick) : Prop where
  arrivals_eq : tick.arrivals = other.arrivals
  early_le : tick.early ≤ other.early

/-- A processing reads the oldest reports. -/
theorem take_found (tick : Tick) (limit : Nat) (unread : List Hid.Report) :
    (tick.found unread).take (tick.reads limit unread) =
      (unread ++ tick.arrivals).take (tick.reads limit unread) := by
  have room : tick.reads limit unread ≤ (tick.found unread).length := Hid.readsOf_le_length _ _
  have whole : unread ++ tick.arrivals = tick.found unread ++ tick.arrivals.drop tick.early := by
    rw [found, List.append_assoc, List.take_append_drop]
  rw [whole, List.take_append_of_le_length room]

end Tick

/-- All reports that come in. -/
def arrivals (ticks : List Tick) : List Hid.Report := ticks.flatMap (·.arrivals)

/-- The readings in which the device of a path has some reports. -/
def Readings.offering (readings : Readings) (path : String) (queries : Hid.Queries)
    (reports : List Hid.Report) : Readings :=
  { readings with
    link := fun other =>
      if other = path then ⟨reports.map some, queries⟩ else readings.link other }

theorem Readings.Fits.offering {readings : Readings} (fits : readings.Fits) {queries : Hid.Queries}
    (answers : queries.Fits) (path : String) (reports : List Hid.Report) :
    (readings.offering path queries reports).Fits where
  link other := by
    unfold Readings.offering
    dsimp only
    split
    · exact answers
    · exact fits.link other
  sample := fits.sample

namespace Backend

/-- A backend after some processings, what was heard meanwhile, and the reports of a device that
wait. -/
structure Watched where
  backend : Backend
  notices : List Notice
  unread : List Hid.Report

/-- What was heard of a device. -/
def Watched.heard (watched : Watched) (id : DeviceId) : List EventKind :=
  (heardOf watched.notices id).map (·.kind)

/-- Runs processings with what leads up to them.  The reports of the device at `path` wait, those in
`unread` already, until a processing takes them. -/
def watch (path : String) (queries : Hid.Queries) (backend : Backend) (unread : List Hid.Report) :
    List Tick → Except Overflow Watched
  | [] => .ok ⟨backend, [], unread⟩
  | tick :: rest => do
    let between ← backend.run tick.calls
    let processed ← between.backend.process
      (tick.readings.offering path queries (tick.found unread))
    let taken := (processed.taken.lookup path).getD 0
    let later ← watch path queries processed.backend (tick.left unread taken) rest
    pure ⟨later.backend, between.notices ++ processed.notices ++ later.notices, later.unread⟩

variable {backend : Backend} {session : Session} {call : Call} {calls : List Call}
  {done : Outcome Backend} {readings : Readings} {id : DeviceId} {pad after : Hid.Pad}
  {path : String} {queries : Hid.Queries} {hub : Hub Pad}

/-! ## Reads taken -/

theorem maxReports_run (ran : backend.run calls = .ok done) :
    done.backend.maxReports = backend.maxReports := by
  rw [run_frame ran]

/-- A poll tells how much it took of the path of its device. -/
theorem path_taken_pollPad {limit : Nat} {standard : Option SampleQuery} {pad : Pad} {poll : Poll}
    (polled : pollPad limit standard readings pad = .ok poll) :
    poll.taken.map (·.1) = pad.hidPath? := by
  cases pad with
  | hid pad =>
    obtain ⟨done, -, polled⟩ := exists_of_bind_ok polled
    cases polled
    rfl
  | xinput pad =>
    simp only [pollPad] at polled
    split at polled
    · cases polled
      rfl
    · obtain ⟨⟨after, kinds⟩, -, polled⟩ := exists_of_bind_ok polled
      cases polled
      rfl

/-- What was taken at a path was taken by the device open there. -/
theorem lookup_pollAll {limit : Nat} {standard : Option SampleQuery} {entries : List (Entry Pad)}
    {entry : Entry Pad} {poll : Poll} {after : Hub Pad} {failed : List DeviceId}
    {taken : List (String × Nat)} {count : Nat}
    (polled : pollAll limit standard readings hub entries = .ok (after, failed, taken))
    (member : entry ∈ entries)
    (single : ∀ other ∈ entries, other.data.hidPath? = some path → other = entry)
    (own : pollPad limit standard readings entry.data = .ok poll)
    (took : poll.taken = some (path, count)) : taken.lookup path = some count := by
  induction entries generalizing hub failed taken with
  | nil => cases member
  | cons first rest ih =>
    obtain ⟨read, polling, polled⟩ := exists_of_bind_ok polled
    obtain ⟨⟨next, failing, more⟩, others, polled⟩ := exists_of_bind_ok polled
    cases polled
    have at_ := path_taken_pollPad polling
    by_cases here : first.data.hidPath? = some path
    · cases single first List.mem_cons_self here
      cases polling.symm.trans own
      rw [took]
      simp
    · rcases List.mem_cons.mp member with rfl | later
      · cases polling.symm.trans own
        rw [took] at at_
        exact absurd at_.symm here
      · have found := ih others later fun other among => single other (List.mem_cons_of_mem _ among)
        cases noted : read.taken with
        | none => simpa [noted] using found
        | some pair =>
          obtain ⟨other, amount⟩ := pair
          have differ : (path == other) = false := by
            refine beq_eq_false_iff_ne.mpr ?_
            rintro rfl
            rw [noted] at at_
            exact here at_.symm
          simpa [noted, List.lookup_cons, differ] using found

/-! ## Reports that wait -/

/-- The reports that wait after some processings, if each reads no more than `limit`. -/
def backlog (limit : Nat) (unread : List Hid.Report) : List Tick → List Hid.Report
  | [] => unread
  | tick :: rest =>
    backlog limit (tick.left unread (tick.reads limit unread)) rest

theorem backlog_append (limit : Nat) (unread : List Hid.Report) (first last : List Tick) :
    backlog limit unread (first ++ last) = backlog limit (backlog limit unread first) last := by
  induction first generalizing unread with
  | nil => rfl
  | cons tick rest ih => exact ih _

theorem length_backlog_le (limit : Nat) (unread : List Hid.Report) (ticks : List Tick) :
    (backlog limit unread ticks).length ≤ unread.length + (arrivals ticks).length := by
  induction ticks generalizing unread with
  | nil => simp [backlog]
  | cons tick rest ih =>
    have later := ih (tick.left unread (tick.reads limit unread))
    simp only [Tick.left, List.length_drop, List.length_append] at later
    simp only [backlog, arrivals, List.flatMap_cons, List.length_append]
    exact Nat.le_trans later (by rw [arrivals]; omega)

/-- Where no more reports come in, each processing reads one at least of those that wait. -/
theorem backlog_eq_nil {limit : Nat} (reads : 1 ≤ limit) {unread : List Hid.Report}
    {ticks : List Tick} (quiet : ∀ tick ∈ ticks, tick.arrivals = [])
    (enough : unread.length ≤ ticks.length) : backlog limit unread ticks = [] := by
  induction ticks generalizing unread with
  | nil => exact List.eq_nil_of_length_eq_zero (Nat.le_zero.mp enough)
  | cons tick rest ih =>
    rw [List.forall_mem_cons] at quiet
    refine ih quiet.2 ?_
    have found : tick.found unread = unread := by simp [Tick.found, quiet.1]
    rw [Tick.left, quiet.1, List.append_nil, List.length_drop, Tick.reads, found]
    rw [List.length_cons] at enough
    by_cases none : unread = []
    · simp [none]
    · have some := Hid.readsOf_pos reads none
      omega

/-- At the end there are processings enough to read, one by one, all reports that wait by then. -/
def Ebbs (unread : List Hid.Report) (ticks : List Tick) : Prop :=
  ∃ first last, ticks = first ++ last ∧ (∀ tick ∈ last, tick.arrivals = []) ∧
    unread.length + (arrivals first).length ≤ last.length

theorem Ebbs.backlog_eq_nil {limit : Nat} (reads : 1 ≤ limit) {unread : List Hid.Report}
    {ticks : List Tick} (ebbs : Ebbs unread ticks) : backlog limit unread ticks = [] := by
  obtain ⟨first, last, rfl, quiet, enough⟩ := ebbs
  rw [backlog_append]
  exact Backend.backlog_eq_nil reads quiet (Nat.le_trans (length_backlog_le _ _ _) enough)

/-- What is left when less is taken is what is left when more is taken, and some before it. -/
theorem exists_drop_append {α : Type} (behind list : List α) {less more : Nat}
    (le : less ≤ behind.length + more) :
    ∃ between, (behind ++ list).drop less = between ++ list.drop more := by
  refine ⟨((behind ++ list).drop less).take (behind.length + more - less), ?_⟩
  have rest : list.drop more =
      ((behind ++ list).drop less).drop (behind.length + more - less) := by
    rw [List.drop_drop, Nat.add_sub_cancel' le, List.drop_length_add_append]
  rw [rest, List.take_append_drop]

theorem arrivals_eq_of_lags {ticks others : List Tick}
    (lags : List.Forall₂ Tick.Lags ticks others) : arrivals ticks = arrivals others := by
  induction lags with
  | nil => rfl
  | cons first _ ih =>
    simp only [arrivals, List.flatMap_cons] at ih ⊢
    rw [first.arrivals_eq, ih]

/-- Who reads no more at once, and sees no reports sooner, has no fewer reports waiting. -/
theorem exists_backlog_append {smaller larger : Nat} (le : smaller ≤ larger)
    {ticks others : List Tick} (same : List.Forall₂ Tick.Lags ticks others)
    (behind unread : List Hid.Report) :
    ∃ between,
      backlog smaller (behind ++ unread) ticks = between ++ backlog larger unread others := by
  induction same generalizing behind unread with
  | nil => exact ⟨behind, rfl⟩
  | @cons tick other rest later lags _ ih =>
    have few :
        tick.reads smaller (behind ++ unread) ≤ behind.length + other.reads larger unread := by
      obtain ⟨more, split⟩ : other.arrivals.take tick.early <+: other.arrivals.take other.early :=
        List.take_prefix_take_left lags.early_le
      have found : other.found unread = tick.found unread ++ more := by
        rw [Tick.found, Tick.found, lags.arrivals_eq, List.append_assoc, split]
      calc tick.reads smaller (behind ++ unread)
          = Hid.readsOf smaller (behind ++ tick.found unread) := by
            rw [Tick.reads, Tick.found, Tick.found, List.append_assoc]
        _ ≤ behind.length + Hid.readsOf larger (tick.found unread) := Hid.readsOf_append_le le _ _
        _ ≤ behind.length + other.reads larger unread := by
            rw [Tick.reads, found]
            exact Nat.add_le_add_left (Hid.readsOf_mono (Nat.le_refl _) _ _) _
    obtain ⟨between, split⟩ := exists_drop_append behind (unread ++ other.arrivals) few
    have left : tick.left (behind ++ unread) (tick.reads smaller (behind ++ unread)) =
        between ++ other.left unread (other.reads larger unread) := by
      rw [Tick.left, Tick.left, lags.arrivals_eq, List.append_assoc, split]
    rw [backlog, backlog, left]
    exact ih between _

/-! ## One device -/

/-- The HID device `id` is live, with `pad` behind it. -/
def Holds (backend : Backend) (id : DeviceId) (pad : Hid.Pad) : Prop :=
  ∃ entry ∈ backend.hub.registry.live, entry.id = id ∧ entry.data = .hid pad

/-- The device is live. -/
def IsLive (backend : Backend) (id : DeviceId) : Prop :=
  ∃ entry ∈ backend.hub.registry.live, entry.id = id

theorem Holds.isLive (holds : backend.Holds id pad) : backend.IsLive id :=
  let ⟨entry, live, mine, _⟩ := holds
  ⟨entry, live, mine⟩

namespace Settled

theorem lt_nextId (settled : Settled backend) (live : backend.IsLive id) :
    id < backend.hub.registry.nextId := by
  obtain ⟨entry, live, rfl⟩ := live
  exact settled.sound.stood.lt_nextId live

/-- A device that is live after calls and came before them was live before. -/
theorem isLive_of_run (settled : Settled backend) (fits : ∀ call ∈ calls, call.Fits)
    (ran : backend.run calls = .ok done) (early : id < backend.hub.registry.nextId)
    (live : done.backend.IsLive id) : backend.IsLive id := by
  obtain ⟨entry, there, rfl⟩ := live
  obtain ⟨old, was, same, -⟩ := (settled.remains fits ran).older entry there early
  exact ⟨old, was, same⟩

/-- A device that stays live without being processed is as it was, and not heard of. -/
theorem holds_perform (settled : Settled backend) (fits : call.Fits)
    (quiet : call.isProcess = false) (performed : backend.perform call = .ok done)
    (holds : backend.Holds id pad) (live : done.backend.IsLive id) :
    done.backend.Holds id pad ∧ heardOf done.notices id = [] := by
  obtain ⟨old, was, mine, data⟩ := holds
  obtain ⟨entry, there, rfl⟩ := live
  cases settled.came fits performed there with
  | stays same unheard =>
    obtain ⟨stands, -⟩ := settled.sound.stands_of_live was
    cases stands.live?_eq same mine.symm
    exact ⟨⟨_, there, rfl, data⟩, unheard⟩
  | joins _ fresh =>
    have early := settled.sound.stood.lt_nextId was
    rw [mine] at early
    exact absurd early (Nat.not_lt_of_le fresh)
  | answers processes =>
    rw [processes] at quiet
    cases quiet

theorem holds_run (settled : Settled backend) (fits : ∀ call ∈ calls, call.Fits)
    (quiet : ∀ call ∈ calls, call.isProcess = false) (ran : backend.run calls = .ok done)
    (holds : backend.Holds id pad) (live : done.backend.IsLive id) :
    done.backend.Holds id pad ∧ heardOf done.notices id = [] := by
  induction calls generalizing backend done with
  | nil =>
    cases ran
    exact ⟨holds, rfl⟩
  | cons call rest ih =>
    rw [List.forall_mem_cons] at fits quiet
    obtain ⟨first, others, performed, onward, -⟩ := of_runAll_cons ran
    cases ran.symm.trans (runAll_cons performed onward)
    have between := settled.of_perform fits.1 performed
    have early := Nat.lt_of_lt_of_le (settled.lt_nextId holds.isLive)
      (settled.counts fits.1 performed)
    obtain ⟨kept, unheard⟩ := settled.holds_perform fits.1 quiet.1 performed holds
      (between.isLive_of_run fits.2 onward early live)
    obtain ⟨still, silent⟩ := ih between fits.2 quiet.2 onward kept live
    refine ⟨still, ?_⟩
    rw [heardOf_append, unheard, silent, List.append_nil]

/-- A processing reads a buffered device, and what it reads is heard. -/
theorem holds_process (settled : Settled backend) (fits : readings.Fits) (answers : queries.Fits)
    (holds : backend.Holds id pad) (buffered : pad.mode = .buffered) (reports : List Hid.Report) :
    ∃ processed after kinds,
      backend.process (readings.offering pad.path queries reports) = .ok processed ∧
      processed.backend.Holds id after ∧
      (heardOf processed.notices id).map (·.kind) = kinds ∧
      processed.taken.lookup pad.path = some (Hid.readsOf backend.maxReports reports) ∧
      pad.decodeAll queries (reports.take (Hid.readsOf backend.maxReports reports)) =
        .ok (after, kinds) := by
  obtain ⟨entry, live, rfl, data⟩ := holds
  have bounded : entry.data.Bounded := settled.sound.bounded _ (List.mem_map_of_mem live)
  rw [data] at bounded
  obtain ⟨after, kinds, drained, decoded⟩ :=
    Hid.Pad.exists_drain answers bounded backend.maxReports reports
  have fits' := fits.offering answers pad.path reports
  cases started : backend.session with
  | none =>
    have nothing := settled.fresh (by rw [started]; rfl)
    rw [nothing] at live
    cases live
  | some session =>
    have polled : pollPad backend.maxReports session.standard
        (readings.offering pad.path queries reports) entry.data =
          .ok ⟨.hid after, kinds, false,
            some (pad.path, Hid.readsOf backend.maxReports reports)⟩ := by
      have link : (readings.offering pad.path queries reports).link pad.path =
          ⟨reports.map some, queries⟩ := if_pos rfl
      rw [data]
      simp only [pollPad, Hid.Pad.poll, buffered, link, drained, bind, Except.bind, pure,
        Except.pure]
    obtain ⟨done, performed, -⟩ := settled.toKept.process fits'
    obtain ⟨processed, finished, performed'⟩ := exists_of_bind_ok performed
    cases performed'
    refine ⟨processed, after, kinds, finished, ?_, ?_, ?_, decoded⟩
    · exact ⟨_, (settled.mem_live_process started fits' performed).mpr
        ⟨entry, live, _, polled, rfl, rfl⟩, Device.id_replay _ _, rfl⟩
    · exact settled.heard_process started fits' performed live polled rfl
    · simp only [process, started] at finished
      obtain ⟨⟨hub, failed, taken⟩, polledAll, finished⟩ := exists_of_bind_ok finished
      cases finished
      refine lookup_pollAll polledAll live (fun other among here => ?_) polled rfl
      exact settled.orderly.apart other among entry live pad.path here (by rw [data]; rfl)

section Ticks

variable {tick : Tick} {ticks : List Tick} {unread : List Hid.Report} {between : Outcome Backend}
  {processed : Processed} {watched : Watched}

/-- A processing and what leads up to it are calls like any others. -/
theorem run_tick (answers : queries.Fits) (fits : tick.Fits)
    (ran : backend.run tick.calls = .ok between)
    (finished : between.backend.process
      (tick.readings.offering path queries (tick.found unread)) = .ok processed) :
    ∃ calls, (∀ call ∈ calls, call.Fits) ∧
      backend.run calls = .ok ⟨processed.backend, between.notices ++ processed.notices⟩ := by
  let reading : Call := .process (tick.readings.offering path queries (tick.found unread))
  have fits' : reading.Fits := fits.readings.offering answers path _
  have performed : between.backend.perform reading =
      .ok ⟨processed.backend, processed.notices⟩ := by
    change between.backend.perform (.process _) = _
    simp only [perform, finished, bind, Except.bind, pure, Except.pure]
  refine ⟨tick.calls ++ [reading], ?_, ?_⟩
  · exact List.forall_mem_append.mpr ⟨fits.calls, List.forall_mem_singleton.mpr fits'⟩
  · have last : processed.backend.run [] = .ok ⟨processed.backend, []⟩ := rfl
    have whole := runAll_append ran (runAll_cons performed last)
    rw [List.append_nil] at whole
    exact whole

/-- Watching a device is a run like any other. -/
theorem exists_watch (settled : Settled backend) (answers : queries.Fits) (path : String)
    (unread : List Hid.Report) (fits : ∀ tick ∈ ticks, tick.Fits) :
    ∃ watched calls, backend.watch path queries unread ticks = .ok watched ∧
      (∀ call ∈ calls, call.Fits) ∧
        backend.run calls = .ok ⟨watched.backend, watched.notices⟩ := by
  induction ticks generalizing backend unread with
  | nil => exact ⟨_, [], rfl, nofun, rfl⟩
  | cons tick rest ih =>
    rw [List.forall_mem_cons] at fits
    obtain ⟨between, ran, -⟩ := settled.sound.run fits.1.calls
    obtain ⟨done, performed, -⟩ := (settled.run fits.1.calls ran).toKept.process
      (fits.1.readings.offering answers path (tick.found unread))
    obtain ⟨processed, finished, -⟩ := exists_of_bind_ok performed
    obtain ⟨first, fitting, ran'⟩ := run_tick answers fits.1 ran finished
    obtain ⟨later, calls, watched, fitting', continued⟩ := ih (settled.run fitting ran')
      (tick.left unread ((processed.taken.lookup path).getD 0)) fits.2
    refine ⟨⟨later.backend, between.notices ++ processed.notices ++ later.notices, later.unread⟩,
      first ++ calls, ?_, List.forall_mem_append.mpr ⟨fitting, fitting'⟩,
      runAll_append ran' continued⟩
    simp only [watch, ran, finished, watched, bind, Except.bind, pure, Except.pure]

theorem isLive_of_watch (settled : Settled backend) (answers : queries.Fits)
    (fits : ∀ tick ∈ ticks, tick.Fits)
    (done : backend.watch path queries unread ticks = .ok watched)
    (early : id < backend.hub.registry.nextId) (live : watched.backend.IsLive id) :
    backend.IsLive id := by
  obtain ⟨again, calls, same, fitting, ran⟩ := settled.exists_watch answers path unread fits
  cases done.symm.trans same
  exact settled.isLive_of_run fitting ran early live

/-- What is heard of a device that stays live is what decoding the reports taken does. -/
theorem tick_decodes (settled : Settled backend) (answers : queries.Fits) (fits : tick.Fits)
    (holds : backend.Holds id pad) (buffered : pad.mode = .buffered)
    (ran : backend.run tick.calls = .ok between)
    (finished : between.backend.process
      (tick.readings.offering pad.path queries (tick.found unread)) = .ok processed)
    (live : processed.backend.IsLive id) :
    ∃ after, processed.backend.Holds id after ∧
      processed.taken.lookup pad.path = some (tick.reads backend.maxReports unread) ∧
      pad.decodeAll queries ((unread ++ tick.arrivals).take (tick.reads backend.maxReports unread)) =
        .ok (after, (heardOf (between.notices ++ processed.notices) id).map (·.kind)) := by
  have middle := settled.run fits.calls ran
  have early := Nat.lt_of_lt_of_le (settled.lt_nextId holds.isLive)
    (settled.remains fits.calls ran).counts
  have stays : between.backend.IsLive id := by
    have alone : { tick with calls := [] }.Fits := ⟨nofun, nofun, fits.readings⟩
    obtain ⟨calls, fitting, ran'⟩ := run_tick answers alone rfl finished
    exact middle.isLive_of_run fitting ran' early live
  obtain ⟨kept, unheard⟩ := settled.holds_run fits.calls fits.quiet ran holds stays
  obtain ⟨processed', after, kinds, finished', reached, rfl, took, decoded⟩ :=
    middle.holds_process fits.readings answers kept buffered (tick.found unread)
  cases finished.symm.trans finished'
  rw [maxReports_run ran, ← Tick.reads] at took decoded
  rw [Tick.take_found] at decoded
  refine ⟨after, reached, took, ?_⟩
  rw [heardOf_append, unheard, List.nil_append]
  exact decoded

/-- What is heard of a device that stays is what decoding the reports read does in one go. -/
theorem watch_decodes (settled : Settled backend) (answers : queries.Fits)
    (fits : ∀ tick ∈ ticks, tick.Fits) (holds : backend.Holds id pad)
    (buffered : pad.mode = .buffered)
    (done : backend.watch pad.path queries unread ticks = .ok watched)
    (live : watched.backend.IsLive id) :
    watched.unread = backlog backend.maxReports unread ticks ∧
      ∃ read after, unread ++ arrivals ticks = read ++ watched.unread ∧
        pad.decodeAll queries read = .ok (after, watched.heard id) := by
  induction ticks generalizing backend pad unread watched with
  | nil =>
    cases done
    exact ⟨rfl, [], pad, by simp [arrivals], rfl⟩
  | cons tick rest ih =>
    rw [List.forall_mem_cons] at fits
    obtain ⟨between, ran, done⟩ := exists_of_bind_ok done
    obtain ⟨processed, finished, done⟩ := exists_of_bind_ok done
    obtain ⟨later, continued, done⟩ := exists_of_bind_ok done
    cases done
    obtain ⟨calls, fitting, ran'⟩ := run_tick answers fits.1 ran finished
    have onward := settled.run fitting ran'
    -- the device is live at the end, so it was all the time
    have stays : processed.backend.IsLive id :=
      onward.isLive_of_watch answers fits.2 continued (Nat.lt_of_lt_of_le
        (settled.lt_nextId holds.isLive) (settled.remains fitting ran').counts) live
    obtain ⟨after, reached, took, decoded⟩ :=
      settled.tick_decodes answers fits.1 holds buffered ran finished stays
    have same := Hid.Pad.eq_of_decodeAll decoded
    have path : after.path = pad.path := by rw [same]
    have mode : after.mode = .buffered := by rw [same, ← buffered]
    rw [took, Option.getD_some, ← path] at continued
    obtain ⟨left, read, last, whole, decoded'⟩ := ih onward fits.2 reached mode continued live
    have setting : processed.backend.maxReports = backend.maxReports := maxReports_run ran'
    rw [setting] at left
    refine ⟨left, (unread ++ tick.arrivals).take (tick.reads backend.maxReports unread) ++ read,
      last, ?_, ?_⟩
    · rw [List.append_assoc, ← whole, Tick.left, ← List.append_assoc, List.take_append_drop,
        List.append_assoc]
      rfl
    · rw [Hid.Pad.decodeAll_append, decoded]
      simp only [decoded', Watched.heard, heardOf_append, List.map_append, List.append_assoc, bind,
        Except.bind, pure, Except.pure]

end Ticks

end Settled

/-- Two backends hold a buffered device in the same state, and the same reports wait for it.  What
is heard of it is the same in the end, however many reports each reads at once, and one that reads
fewer is never ahead.

The last needs that it is not shown reports sooner: a processing that goes on reading while reports
come in can pass another that found nothing more to read and stopped before. -/
theorem streams_agree {standard standard' : Bool} {limit limit' : Nat} (reads : 1 ≤ limit)
    (reads' : 1 ≤ limit') {calls calls' : List Call} (fits : ∀ call ∈ calls, call.Fits)
    (fits' : ∀ call ∈ calls', call.Fits) {done done' : Outcome Backend}
    (ran : (ofSettings standard limit).run calls = .ok done)
    (ran' : (ofSettings standard' limit').run calls' = .ok done') {pad : Hid.Pad}
    (buffered : pad.mode = .buffered) {id id' : DeviceId} (holds : done.backend.Holds id pad)
    (holds' : done'.backend.Holds id' pad) {queries : Hid.Queries} (answers : queries.Fits)
    (waiting : List Hid.Report) {ticks ticks' : List Tick} (ticking : ∀ tick ∈ ticks, tick.Fits)
    (ticking' : ∀ tick ∈ ticks', tick.Fits) :
    ∃ one two, done.backend.watch pad.path queries waiting ticks = .ok one ∧
      done'.backend.watch pad.path queries waiting ticks' = .ok two ∧
      (one.backend.IsLive id → two.backend.IsLive id' →
        -- with all reports read, it is what decoding them in one go tells.
        (arrivals ticks = arrivals ticks' → one.unread = [] → two.unread = [] →
          ∃ after, pad.decodeAll queries (waiting ++ arrivals ticks) = .ok (after, one.heard id) ∧
            two.heard id' = one.heard id) ∧
        (limit ≤ limit' → List.Forall₂ Tick.Lags ticks ticks' →
          one.heard id <+: two.heard id') ∧
        (Ebbs waiting ticks → one.unread = []) ∧ (Ebbs waiting ticks' → two.unread = [])) := by
  have settled := (Settled.new standard limit).run fits ran
  have settled' := (Settled.new standard' limit').run fits' ran'
  have setting : done.backend.maxReports = limit := maxReports_run ran
  have setting' : done'.backend.maxReports = limit' := maxReports_run ran'
  obtain ⟨one, -, watched, -⟩ := settled.exists_watch answers pad.path waiting ticking
  obtain ⟨two, -, watched', -⟩ := settled'.exists_watch answers pad.path waiting ticking'
  refine ⟨one, two, watched, watched', fun live live' => ?_⟩
  obtain ⟨left, read, after, whole, decoded⟩ :=
    settled.watch_decodes answers ticking holds buffered watched live
  obtain ⟨left', read', after', whole', decoded'⟩ :=
    settled'.watch_decodes answers ticking' holds' buffered watched' live'
  rw [setting] at left
  rw [setting'] at left'
  refine ⟨fun same none none' => ?_, fun le lags => ?_, fun ebbs => ?_, fun ebbs => ?_⟩
  · rw [none, List.append_nil] at whole
    rw [none', List.append_nil, ← same, whole] at whole'
    rw [← whole', decoded] at decoded'
    exact ⟨after, whole ▸ decoded, (congrArg Prod.snd (Except.ok.inj decoded')).symm⟩
  · obtain ⟨between, behind⟩ := exists_backlog_append le lags [] waiting
    rw [List.nil_append, ← left, ← left'] at behind
    have further : read' = read ++ between := by
      rw [arrivals_eq_of_lags lags, whole', behind, ← List.append_assoc] at whole
      exact List.append_cancel_right whole
    rw [further] at decoded'
    exact Hid.Pad.kinds_isPrefix_of_decodeAll decoded decoded'
  · rw [left, ebbs.backlog_eq_nil reads]
  · rw [left', ebbs.backlog_eq_nil reads']

/-- The first button of every page is down in a report whose byte behind the id is not zero. -/
def firstButton : Hid.Queries where
  usages _ _ report := some (if report[1]? = some 0 then [] else [1])
  value _ _ _ _ := none

theorem fits_firstButton : firstButton.Fits := by
  intro page link usage report value answer
  cases answer

/-- The plain pad is opened, and its reports have no id of their own. -/
def opening : List Call := [.start ⟨none, .plain, true⟩, .detect (sees false)]

theorem fits_opening : ∀ call ∈ opening, call.Fits := by
  simp [opening, Call.Fits, fits_sees]

/-- A press and a release come in by the first processing, and then nothing more. -/
def clicks : List Tick :=
  [⟨[], failingReads, [[1], [0]], 2⟩, ⟨[.detect (sees false)], failingReads, [], 0⟩,
    ⟨[], failingReads, [], 0⟩]

theorem fits_clicks : ∀ tick ∈ clicks, tick.Fits := by
  simp only [clicks, List.forall_mem_cons]
  refine ⟨⟨?_, ?_, ?_⟩, ⟨?_, ?_, ?_⟩, ⟨?_, ?_, ?_⟩, nofun⟩ <;>
    simp [Call.Fits, Call.isProcess, fits_sees, fits_failingReads]

/-- A click is heard at once, or spread over two processings. -/
theorem streams_agree_click :
    ∃ slow fast one two, (ofSettings true 1).run opening = .ok slow ∧
      (ofSettings true 8).run opening = .ok fast ∧
      slow.backend.watch "pad" firstButton [] clicks = .ok one ∧
      fast.backend.watch "pad" firstButton [] clicks = .ok two ∧
      one.heard 0 = [.button 0 true, .button 0 false] ∧ two.heard 0 = one.heard 0 ∧
      ∃ early late, slow.backend.watch "pad" firstButton [] (clicks.take 1) = .ok early ∧
        fast.backend.watch "pad" firstButton [] (clicks.take 1) = .ok late ∧
        early.heard 0 = [.button 0 true] ∧ early.heard 0 <+: late.heard 0 := by
  have agree (ticks : List Tick) (fits : ∀ tick ∈ ticks, tick.Fits) :=
    @streams_agree true true 1 8 (by decide) (by decide) _ _ fits_opening fits_opening _ _ rfl rfl _
      rfl 0 0 ⟨_, .head _, rfl, rfl⟩ ⟨_, .head _, rfl, rfl⟩ _ fits_firstButton [] ticks ticks fits
      fits
  have lags (ticks : List Tick) : List.Forall₂ Tick.Lags ticks ticks :=
    List.forall₂_same.mpr fun _ _ => ⟨rfl, Nat.le_refl _⟩
  obtain ⟨early, late, watched, watched', begun⟩ :=
    agree (clicks.take 1) fun tick member => fits_clicks tick (List.mem_of_mem_take member)
  obtain ⟨-, ahead, -⟩ := begun
    (by cases watched; exact ⟨_, .head _, rfl⟩) (by cases watched'; exact ⟨_, .head _, rfl⟩)
  have first : early.heard 0 = [.button 0 true] := by
    cases watched
    decide +kernel
  obtain ⟨one, two, ended, ended', through⟩ := agree clicks fits_clicks
  obtain ⟨whole, -, read, read'⟩ := through
    (by cases ended; exact ⟨_, .head _, rfl⟩) (by cases ended'; exact ⟨_, .head _, rfl⟩)
  have ebbs : Ebbs [] clicks := ⟨clicks.take 1, clicks.drop 1, rfl, by simp [clicks], by decide⟩
  obtain ⟨after, -, same⟩ := whole rfl (read ebbs) (read' ebbs)
  have click : one.heard 0 = [.button 0 true, .button 0 false] := by
    cases ended
    decide +kernel
  exact ⟨_, _, one, two, rfl, rfl, ended, ended', click, same, early, late, watched, watched', first,
    ahead (by decide) (lags _)⟩

/-- Without `Tick.Lags`, a backend that reads fewer at once can be ahead.  Two presses, the first let
go, wait for it, and the last release comes in after the first read of the second processing.  One
that reads two at once still reads then, and one that read all three before has found nothing
more. -/
theorem ahead_of_larger :
    ¬∀ (limit limit' : Nat) (calls : List Call) (done done' : Outcome Backend) (pad : Hid.Pad)
        (id : DeviceId) (queries : Hid.Queries) (waiting : List Hid.Report)
        (ticks ticks' : List Tick) (one two : Watched),
      1 ≤ limit → limit ≤ limit' → (∀ call ∈ calls, call.Fits) →
      (ofSettings true limit).run calls = .ok done →
      (ofSettings true limit').run calls = .ok done' → pad.mode = .buffered →
      done.backend.Holds id pad → done'.backend.Holds id pad → queries.Fits →
      (∀ tick ∈ ticks, tick.Fits) → (∀ tick ∈ ticks', tick.Fits) →
      ticks.map (·.arrivals) = ticks'.map (·.arrivals) →
      done.backend.watch pad.path queries waiting ticks = .ok one →
      done'.backend.watch pad.path queries waiting ticks' = .ok two →
      one.backend.IsLive id → two.backend.IsLive id → one.heard id <+: two.heard id := by
  intro claimed
  let ticks (early : Nat) : List Tick :=
    [⟨[], failingReads, [], 0⟩, ⟨[], failingReads, [[0]], early⟩]
  have fits (early : Nat) : ∀ tick ∈ ticks early, tick.Fits := by
    simp only [ticks, List.forall_mem_cons]
    exact ⟨⟨nofun, nofun, fits_failingReads⟩, ⟨nofun, nofun, fits_failingReads⟩, nofun⟩
  have refuted := claimed 2 3 opening _ _ _ 0 firstButton [[1], [0], [1]] (ticks 1) (ticks 0) _ _
    (by decide) (by decide) fits_opening rfl rfl rfl ⟨_, .head _, rfl, rfl⟩ ⟨_, .head _, rfl, rfl⟩
    fits_firstButton (fits 1) (fits 0) rfl rfl rfl ⟨_, .head _, rfl⟩ ⟨_, .head _, rfl⟩
  revert refuted
  decide +kernel

end Backend

end GamepadInput.Windows
