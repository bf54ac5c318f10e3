import GamepadInput.Proofs.Hub.Order
import GamepadInput.Proofs.Virtual.Life
import Mathlib.Data.List.GetD
import Mathlib.Data.Option.Basic

/-!
# The paths of virtual pads

A virtual pad has no node of its own to be opened at.  Its path tells how many pads were live when it
was attached, and that number comes again once a pad has left: live pads may share a path
(`not_nodup_paths`).  They do exactly if as many pads were live when each was attached, and they
never come to it, whatever is attached next, exactly if each pad is at the place that its path tells
(`paths_run`).
-/

namespace GamepadInput.VirtualBackend

/-! ## Counts and places -/

/-- The path of a pad that was attached while `count` pads were live. -/
def padPath (count : Nat) : String := "virtual:" ++ toString count

theorem padPath_injective : Function.Injective padPath := by
  intro count other same
  have digits : Nat.toDigits 10 count = Nat.toDigits 10 other := by
    have texts := congrArg String.toList same
    simpa [padPath] using texts
  rw [← @Nat.ofDigitChars_ten_toDigits count, digits, Nat.ofDigitChars_ten_toDigits]

theorem some_padPath_injective : Function.Injective (some ∘ padPath) :=
  (Option.some_injective _).comp padPath_injective

/-- No count is below its place, the first place being `place`. -/
def Ahead : (place : Nat) → List Nat → Prop
  | _, [] => True
  | place, count :: rest => place ≤ count ∧ Ahead (place + 1) rest

namespace Ahead

variable {place lower count : Nat} {counts fewer : List Nat}

theorem mono (ahead : Ahead place counts) (le : lower ≤ place) : Ahead lower counts := by
  induction counts generalizing place lower with
  | nil => trivial
  | cons count rest ih => exact ⟨Nat.le_trans le ahead.1, ih ahead.2 (Nat.succ_le_succ le)⟩

/-- What is left of a list moves to lower places. -/
theorem sublist (left : fewer.Sublist counts) (ahead : Ahead place counts) :
    Ahead place fewer := by
  induction left generalizing place with
  | slnil => trivial
  | cons count _ ih => exact (ih ahead.2).mono (Nat.le_succ place)
  | cons_cons count _ ih => exact ⟨ahead.1, ih ahead.2⟩

theorem concat_iff :
    Ahead place (counts ++ [count]) ↔ Ahead place counts ∧ place + counts.length ≤ count := by
  induction counts generalizing place with
  | nil => simp [Ahead]
  | cons first rest ih =>
    rw [List.cons_append, Ahead, Ahead, ih, List.length_cons, and_assoc]
    refine and_congr_right fun _ => and_congr_right fun _ => ?_
    omega

/-- Distinct counts below the number of places are each at their place. -/
theorem eq_range (ahead : Ahead 0 counts) (distinct : counts.Nodup)
    (below : ∀ count ∈ counts, count < counts.length) : counts = List.range counts.length := by
  induction counts using List.reverseRecOn with
  | nil => rfl
  | append_singleton others last ih =>
    obtain ⟨ahead, least⟩ := concat_iff.mp ahead
    rw [List.nodup_append] at distinct
    obtain ⟨distinct, -, apart⟩ := distinct
    have most := below last (by simp)
    rw [List.length_append, List.length_singleton] at most
    have top : last = others.length := by omega
    -- the others are below the last count too, as they differ from it
    have placed := ih ahead distinct fun count member => by
      have under := below count (by simp [member])
      have differs := apart count member last (by simp)
      rw [List.length_append, List.length_singleton] at under
      omega
    rw [List.length_append, List.length_singleton, List.range_succ, ← placed, top]

/-- Counts stay distinct under more of them exactly if each is at its place. -/
theorem nodup_append_iff (ahead : Ahead 0 counts) :
    (∀ more, (counts ++ List.range' counts.length more).Nodup) ↔
      counts = List.range counts.length := by
  constructor
  · intro distinct
    have here := distinct 0
    rw [List.range'_zero, List.append_nil] at here
    refine ahead.eq_range here fun count member => ?_
    by_contra above
    have all := distinct (count - counts.length + 1)
    rw [List.nodup_append] at all
    refine all.2.2 count member count ?_ rfl
    rw [List.mem_range'_1]
    omega
  · intro placed more
    have all : counts ++ List.range' counts.length more = List.range (counts.length + more) := by
      rw [List.range_eq_range', ← List.range'_append_1, Nat.zero_add, ← List.range_eq_range',
        ← placed]
    rw [all]
    exact List.nodup_range

end Ahead

/-! ## The live pads of a backend -/

variable {backend : VirtualBackend} {id : DeviceId} {standing after : Standing VirtualPadState}
  {notices : List Notice} {kinds : List EventKind} {call : Call} {calls : List Call}

/-- Numbers of the live pads, in order. -/
def liveIds (backend : VirtualBackend) : List DeviceId := backend.hub.registry.live.map Entry.id

/-- Paths of the live pads, in order. -/
def livePaths (backend : VirtualBackend) : List (Option String) :=
  backend.hub.registry.devices.map (·.metadata.path)

def Call.isAttach : Call → Bool
  | .attach .. => true
  | .press .. | .release .. | .moveAxis .. | .setAxis .. | .detach _ | .unplug _ | .detect
  | .process | .shutdown => false

/-- How many pads were live when each pad of a run was attached, in the order of their numbers. -/
def joinCounts (backend : VirtualBackend) : List Call → List Nat
  | [] => []
  | call :: rest =>
    (if call.isAttach then [backend.hub.registry.size] else []) ++
      (backend.perform call).backend.joinCounts rest

theorem joinCounts_concat (backend : VirtualBackend) (calls : List Call) (call : Call) :
    backend.joinCounts (calls ++ [call]) = backend.joinCounts calls ++
      if call.isAttach then [(backend.run calls).backend.hub.registry.size] else [] := by
  induction calls generalizing backend with
  | nil => simp [joinCounts, run]
  | cons first rest ih => simp only [List.cons_append, joinCounts, run, ih, List.append_assoc]

theorem run_concat_backend (backend : VirtualBackend) (calls : List Call) (call : Call) :
    (backend.run (calls ++ [call])).backend = ((backend.run calls).backend.perform call).backend := by
  simp [run_append, run]

theorem livePaths_attach (backend : VirtualBackend) (pad : VirtualPad) :
    (backend.attach pad).1.livePaths =
      backend.livePaths ++ [some (padPath backend.hub.registry.size)] := by
  simp [livePaths, attach, Hub.attach, Registry.insert, Registry.devices, Device.atRest,
    Metadata.located, padPath]

theorem liveIds_attach (backend : VirtualBackend) (pad : VirtualPad) :
    (backend.attach pad).1.liveIds = backend.liveIds ++ [backend.hub.registry.nextId] := by
  simp [liveIds, attach, Hub.attach, Registry.insert]

theorem liveIds_report (backend : VirtualBackend) (id : DeviceId) (state : VirtualPadState)
    (kinds : List EventKind) : (backend.report id state kinds).liveIds = backend.liveIds :=
  Registry.ids_update fun _ mine => mine

/-- Only attaching gives a number and adds a pad; the others keep their order. -/
theorem ids_perform (backend : VirtualBackend) (other : call.isAttach = false) :
    (backend.perform call).backend.hub.registry.nextId = backend.hub.registry.nextId ∧
      (backend.perform call).backend.liveIds.Sublist backend.liveIds := by
  cases target : call.target? with
  | some id =>
    rcases backend.perform_target target with nothing | ⟨_, after, kinds, _, _, answered⟩ |
      ⟨state, _, _, ended⟩ | ⟨hub, _, unplugged, unplugs⟩
    · rw [nothing]
      exact ⟨rfl, .refl _⟩
    · rw [answered, liveIds_report]
      exact ⟨rfl, .refl _⟩
    · rw [ended, liveIds_report]
      exact ⟨rfl, .refl _⟩
    · have next := backend.hub.nextId_unplug id
      have left := (backend.hub.live_unplug id).map Entry.id
      rw [Hub.unplug, unplugged, Option.getD_some] at next left
      rw [unplugs]
      exact ⟨next, left⟩
  | none =>
    cases call with
    | attach => cases other
    | press | release | moveAxis | setAxis | detach | unplug => cases target
    | detect | process =>
      exact ⟨Registry.nextId_dispatchAll _ _, Registry.ids_dispatchAll _ _⟩
    | shutdown => exact ⟨rfl, List.nil_sublist _⟩

/-- What a backend knows of a pad beyond its controls stays as it is while the pad is live. -/
theorem Moves.metadata_eq (move : Moves id standing call after notices kinds)
    (other : call.isAttach = false) {entry : Entry VirtualPadState}
    (live : after.live? = some entry) :
    ∃ old, standing.live? = some old ∧ entry.device.metadata = old.device.metadata := by
  cases move with
  | join => cases other
  | stay => exact ⟨entry, live, rfl⟩
  | feed | close =>
    cases live
    exact ⟨_, rfl, rfl⟩
  | @unplug _ announced => cases announced <;> cases live
  | detect =>
    cases standing with
    | absent | unplugged | gone => cases live
    | present old =>
      cases live
      exact ⟨_, rfl, rfl⟩
  | process =>
    cases standing with
    | absent | unplugged | gone => cases live
    | present old announced waiting =>
      simp only [Standing.processed] at live
      split at live
      · cases live
      · cases live
        exact ⟨old, rfl, Device.metadata_replay _ _⟩
  | shutdown => cases standing <;> cases live

/-! ## Runs -/

/-- The number of pads that were live when pad `id` of a run was attached. -/
def joinCount (calls : List Call) (id : DeviceId) : Nat := (empty.joinCounts calls).getD id 0

/-- How the live pads after a run relate to the counts of the run. -/
structure Counted (calls : List Call) : Prop where
  nextId_eq : (empty.run calls).backend.hub.registry.nextId = (empty.joinCounts calls).length
  id_lt : ∀ id ∈ (empty.run calls).backend.liveIds, id < (empty.joinCounts calls).length
  path_eq : ∀ entry ∈ (empty.run calls).backend.hub.registry.live,
    entry.device.metadata.path = some (padPath (joinCount calls entry.id))
  ahead : Ahead 0 ((empty.run calls).backend.liveIds.map (joinCount calls))

theorem Counted.attach (counted : Counted calls) (pad : VirtualPad) (made : pad.Made) :
    Counted (calls ++ [.attach pad made]) := by
  have backend : (empty.run (calls ++ [.attach pad made])).backend =
      ((empty.run calls).backend.attach pad).1 := by
    rw [run_concat_backend]
    rfl
  have counts : empty.joinCounts (calls ++ [.attach pad made]) =
      empty.joinCounts calls ++ [(empty.run calls).backend.hub.registry.size] :=
    joinCounts_concat empty calls _
  have earlier {id : DeviceId} (before : id < (empty.joinCounts calls).length) :
      joinCount (calls ++ [.attach pad made]) id = joinCount calls id := by
    rw [joinCount, counts, List.getD_append _ _ _ _ before, joinCount]
  have latest : joinCount (calls ++ [.attach pad made])
      (empty.run calls).backend.hub.registry.nextId =
        (empty.run calls).backend.hub.registry.size := by
    rw [joinCount, counts, counted.nextId_eq, List.getD_append_right _ _ _ _ (Nat.le_refl _),
      Nat.sub_self]
    rfl
  refine ⟨?_, ?_, ?_, ?_⟩
  · rw [backend, counts, List.length_append, List.length_singleton, ← counted.nextId_eq]
    rfl
  · rw [backend, counts, liveIds_attach, List.length_append, List.length_singleton]
    intro id member
    rcases List.mem_append.mp member with old | new
    · exact Nat.lt_succ_of_lt (counted.id_lt id old)
    · rw [List.mem_singleton.mp new, counted.nextId_eq]
      exact Nat.lt_succ_self _
  · rw [backend]
    intro entry live
    rcases (Hub.mem_live_attach _).mp live with old | rfl
    · rw [earlier (counted.id_lt _ (List.mem_map_of_mem old))]
      exact counted.path_eq entry old
    · rw [Entry.id_mk, latest]
      rfl
  · have others : (empty.run calls).backend.liveIds.map (joinCount (calls ++ [.attach pad made])) =
        (empty.run calls).backend.liveIds.map (joinCount calls) :=
      List.map_congr_left fun id member => earlier (counted.id_lt id member)
    rw [backend, liveIds_attach, List.map_append, others, List.map_singleton, latest]
    refine Ahead.concat_iff.mpr ⟨counted.ahead, ?_⟩
    simp [liveIds, Registry.size]

theorem joinCounts_other (other : call.isAttach = false) :
    empty.joinCounts (calls ++ [call]) = empty.joinCounts calls := by
  simp [joinCounts_concat, other]

theorem joinCount_other (other : call.isAttach = false) :
    joinCount (calls ++ [call]) = joinCount calls := by
  funext id
  rw [joinCount, joinCounts_other other, joinCount]

theorem Counted.other (counted : Counted calls) (other : call.isAttach = false) :
    Counted (calls ++ [call]) := by
  have backend := run_concat_backend empty calls call
  have counts : empty.joinCounts (calls ++ [call]) = empty.joinCounts calls := joinCounts_other other
  have same : joinCount (calls ++ [call]) = joinCount calls := joinCount_other other
  obtain ⟨next, left⟩ := (empty.run calls).backend.ids_perform other
  refine ⟨?_, ?_, ?_, ?_⟩
  · rw [backend, counts, next, counted.nextId_eq]
  · rw [backend, counts]
    exact fun id member => counted.id_lt id (left.subset member)
  · rw [backend, same]
    intro entry live
    obtain ⟨standing, reaches⟩ := exists_reaches calls entry.id
    obtain ⟨after, move, stands⟩ := perform_moves reaches.stands reaches.course.orderly call
    obtain ⟨old, here, metadata⟩ := move.metadata_eq other (stands.live?_eq live rfl)
    cases standing with
    | absent | unplugged | gone => cases here
    | present entry' announced waiting =>
      cases here
      have path := counted.path_eq old reaches.stands.mem_live
      rwa [reaches.stands.mine old rfl, ← metadata] at path
  · rw [backend, same]
    exact counted.ahead.sublist (left.map _)

theorem counted_run (calls : List Call) : Counted calls := by
  induction calls using List.reverseRecOn with
  | nil => exact ⟨rfl, nofun, nofun, trivial⟩
  | append_singleton before call ih =>
    cases call with
    | attach pad made => exact ih.attach pad made
    | press | release | moveAxis | setAxis | detach | unplug | detect | process | shutdown =>
      exact ih.other rfl

theorem livePaths_run (calls : List Call) : (empty.run calls).backend.livePaths =
    ((empty.run calls).backend.liveIds.map (joinCount calls)).map (some ∘ padPath) := by
  rw [livePaths, Registry.devices, liveIds, List.map_map, List.map_map, List.map_map]
  exact List.map_congr_left fun entry live => (counted_run calls).path_eq entry live

/-! ## Paths that stay distinct -/

/-- Each live pad is at the place that its path tells. -/
def IsPlaced (backend : VirtualBackend) : Prop :=
  backend.livePaths = (List.range backend.hub.registry.size).map (some ∘ padPath)

theorem livePaths_attaches {more : List Call} (attaches : ∀ call ∈ more, call.isAttach = true)
    (backend : VirtualBackend) : (backend.run more).backend.livePaths = backend.livePaths ++
      (List.range' backend.hub.registry.size more.length).map (some ∘ padPath) := by
  induction more generalizing backend with
  | nil => simp [run]
  | cons call rest ih =>
    have onward := ih (fun other later => attaches other (List.mem_cons_of_mem _ later))
    cases call with
    | press | release | moveAxis | setAxis | detach | unplug | detect | process | shutdown =>
      cases attaches _ List.mem_cons_self
    | attach pad made =>
      have size : (backend.attach pad).1.hub.registry.size = backend.hub.registry.size + 1 := by
        simp [attach, Hub.attach, Registry.insert, Registry.size]
      rw [run, perform, onward, livePaths_attach, size, List.length_cons, List.range'_succ,
        List.map_cons, List.append_assoc]
      rfl

/-- Pads leave only from the end of the live list. -/
def LeaveFromEnd (calls : List Call) : Prop :=
  ∀ before call rest, calls = before ++ call :: rest → call.isAttach = false →
    (empty.run (before ++ [call])).backend.liveIds <+: (empty.run before).backend.liveIds

theorem isPlaced_iff (calls : List Call) : (empty.run calls).backend.IsPlaced ↔
    (empty.run calls).backend.liveIds.map (joinCount calls) =
      List.range (empty.run calls).backend.liveIds.length := by
  rw [IsPlaced, livePaths_run, (List.map_injective_iff.mpr some_padPath_injective).eq_iff]
  simp only [liveIds, Registry.size, List.length_map]

theorem isPlaced_of_leaveFromEnd (ends : LeaveFromEnd calls) :
    (empty.run calls).backend.IsPlaced := by
  induction calls using List.reverseRecOn with
  | nil => rfl
  | append_singleton before call ih =>
    have placed := ih fun earlier other rest split => ends earlier other (rest ++ [call])
      (by rw [split, List.append_assoc, List.cons_append])
    cases attaches : call.isAttach with
    | true =>
      have joins : ∀ other ∈ [call], other.isAttach = true := by simpa using attaches
      have onward := livePaths_attaches joins (empty.run before).backend
      have size : (empty.run (before ++ [call])).backend.hub.registry.size =
          (empty.run before).backend.hub.registry.size + 1 := by
        have lengths := congrArg List.length onward
        simpa [livePaths, Registry.devices, Registry.size, run_append] using lengths
      rw [IsPlaced, size, List.range_succ, List.map_append, ← placed]
      simpa [run_append] using onward
    | false =>
      rw [isPlaced_iff] at placed ⊢
      have left := (ends before call [] rfl attaches).map (joinCount before)
      rw [placed, List.prefix_iff_eq_take, List.take_range, List.length_map] at left
      have fewer := (ends before call [] rfl attaches).length_le
      rw [joinCount_other attaches, left, Nat.min_eq_left fewer]

/-- The paths of the live pads after a run. -/
structure Paths (calls : List Call) : Prop where
  /-- A path tells how many pads were live when its pad was attached. -/
  path_eq : ∀ entry ∈ (empty.run calls).backend.hub.registry.live,
    ∃ count, (empty.joinCounts calls)[entry.id]? = some count ∧
      entry.device.metadata.path = some (padPath count)
  /-- Pads share a path exactly if as many were live when each of them was attached. -/
  nodup_iff : (empty.run calls).backend.livePaths.Nodup ↔
    ((empty.run calls).backend.liveIds.map fun id => (empty.joinCounts calls)[id]?).Nodup
  /-- The paths stay distinct however many pads are attached next exactly if the pads are in place. -/
  lasting_iff : (∀ more : List Call, (∀ call ∈ more, call.isAttach = true) →
      (empty.run (calls ++ more)).backend.livePaths.Nodup) ↔ (empty.run calls).backend.IsPlaced
  /-- They are in place as long as none leaves before one that came later. -/
  placed : LeaveFromEnd calls → (empty.run calls).backend.IsPlaced

theorem nodup_livePaths_iff (calls : List Call) :
    (empty.run calls).backend.livePaths.Nodup ↔
      ((empty.run calls).backend.liveIds.map (joinCount calls)).Nodup := by
  rw [livePaths_run]
  exact List.nodup_map_iff some_padPath_injective

/-- In every state that a run reaches, the paths of the live pads are distinct exactly if the counts
are that they tell, and they are sure to stay so exactly if the pads are in place. -/
theorem paths_run (calls : List Call) : Paths calls := by
  have counted := counted_run calls
  have known {id : DeviceId} (live : id ∈ (empty.run calls).backend.liveIds) :
      (empty.joinCounts calls)[id]? = some (joinCount calls id) := by
    rw [joinCount, List.getD_eq_getElem?_getD, List.getElem?_eq_getElem (counted.id_lt id live)]
    rfl
  refine ⟨?_, ?_, ?_, isPlaced_of_leaveFromEnd⟩
  · intro entry live
    exact ⟨_, known (List.mem_map_of_mem live), counted.path_eq entry live⟩
  · have counts : ((empty.run calls).backend.liveIds.map fun id => (empty.joinCounts calls)[id]?) =
        ((empty.run calls).backend.liveIds.map (joinCount calls)).map some := by
      rw [List.map_map]
      exact List.map_congr_left fun id live => known live
    rw [nodup_livePaths_iff, counts, List.nodup_map_iff (Option.some_injective _)]
  · have size : (empty.run calls).backend.hub.registry.size =
        ((empty.run calls).backend.liveIds.map (joinCount calls)).length := by
      simp [liveIds, Registry.size]
    have after {more : List Call} (attaches : ∀ call ∈ more, call.isAttach = true) :
        (empty.run (calls ++ more)).backend.livePaths.Nodup ↔
          ((empty.run calls).backend.liveIds.map (joinCount calls) ++
            List.range' (empty.run calls).backend.hub.registry.size more.length).Nodup := by
      rw [run_append, livePaths_attaches attaches, livePaths_run, ← List.map_append]
      exact List.nodup_map_iff some_padPath_injective
    rw [isPlaced_iff, ← List.length_map (joinCount calls), ← counted.ahead.nodup_append_iff, ← size]
    constructor
    · intro distinct count
      let pad : Call := .attach (.named "") (.named "")
      have attaches : ∀ call ∈ List.replicate count pad, call.isAttach = true := by
        intro call member
        rw [List.eq_of_mem_replicate member]
        rfl
      have all := (after attaches).mp (distinct _ attaches)
      rwa [List.length_replicate] at all
    · exact fun distinct more attaches => (after attaches).mpr (distinct more.length)

/-- Of two pads the first leaves, and the next one gets the path of the second. -/
theorem not_nodup_paths :
    ¬∀ calls : List Call, (empty.run calls).backend.livePaths.Nodup := by
  intro distinct
  let pad : Call := .attach (.named "Pad") (.named "Pad")
  have shared := distinct [pad, pad, .unplug 0, pad]
  revert shared
  decide

end GamepadInput.VirtualBackend
