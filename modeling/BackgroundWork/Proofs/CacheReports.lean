import BackgroundWork.Proofs.SnapshotReads
import Mathlib.Data.List.Basic
import Mathlib.Data.List.Induction

set_option autoImplicit false

/-!
The cache after any moves of the coordinator. While the worker runs, the reports that came are
those that it took, in order, followed by those that wait; each part of its cache is as the last
of those that it took says. Reports come by themselves: no client sends one.
-/

namespace BackgroundWork.Compression

/-! ### Caches and reports -/

namespace StatusCache.Latest

variable {updates : List CacheUpdate} {cache other : StatusCache}

/-- The reports determine the cache. -/
theorem unique (latest : cache.Latest updates) (also : other.Latest updates) : cache = other := by
  cases cache
  cases other
  simp only [StatusCache.mk.injEq]
  exact ⟨latest.status.trans also.status.symm, latest.queue.trans also.queue.symm,
    latest.stats.trans also.stats.symm, latest.capabilities.trans also.capabilities.symm,
    latest.isThrottled.trans also.isThrottled.symm,
    latest.throttleReason.trans also.throttleReason.symm⟩

theorem applyAll (latest : cache.Latest updates) (later : List CacheUpdate) :
    (later.foldl StatusCache.apply cache).Latest (updates ++ later) := by
  induction later generalizing updates cache with
  | nil => rwa [List.append_nil]
  | cons update later ih =>
    rw [← List.singleton_append, ← List.append_assoc]
    exact ih (latest.apply update)

end StatusCache.Latest

namespace Coordinator

/-- The reports that wait for the worker, in order. -/
def reports (coordinator : Coordinator) : List CacheUpdate :=
  coordinator.internal.filterMap Event.update?

/-- The cache once the worker has taken the reports that wait. -/
def informed (coordinator : Coordinator) : StatusCache :=
  coordinator.reports.foldl StatusCache.apply coordinator.worker.cache

end Coordinator

/-! ### What clients send -/

theorem CallerRequest.update?_eq_none {request : CallerRequest} {event : Event}
    (dispatches : request.command = .dispatch event) : event.update? = none := by
  cases request <;> cases dispatches <;> rfl

/-- The report that a move brings, if it does. -/
def Move.report? : Move → Option CacheUpdate
  | .report update => some update
  | _ => none

/-- What can happen to a coordinator, reports apart. -/
abbrev Aside := { next : Move // next.report? = none }

theorem report?_of_aside (others : List Aside) :
    (others.map Subtype.val).filterMap Move.report? = [] := by
  refine List.filterMap_eq_nil_iff.mpr fun next member => ?_
  obtain ⟨other, _, rfl⟩ := List.mem_map.mp member
  exact other.2

namespace Journal

variable {settings : CoordinatorSettings} {moves : List Move}

/-- Only what clients can ask for is sent to the worker. -/
theorem sent_of_request (settings : CoordinatorSettings) (moves : List Move) :
    ∀ entry ∈ (of settings moves).sent, ∃ request : CallerRequest,
      entry.2 = request.command := by
  induction moves using List.reverseRecOn with
  | nil =>
    intro entry member
    cases member
  | append_singleton moves next ih =>
    intro entry member
    rw [← move_of] at member
    rcases List.mem_append.mp member with earlier | last
    · exact ih entry earlier
    · cases next with
      | send ticket request =>
        simp only [Run.sends] at last
        split at last
        · cases List.mem_singleton.mp last
          exact ⟨request, rfl⟩
        · cases last
      | _ => cases last

/-- Of what the worker takes, only what was handed to it by itself are reports. -/
theorem Accounted.reports_taken {journal : Journal} (accounted : journal.Accounted settings)
    (asked : ∀ entry ∈ journal.sent, ∃ request : CallerRequest, entry.2 = request.command) :
    (journal.taken.filterMap Item.event?).filterMap Event.update? =
      (journal.taken.filterMap Item.internal?).filterMap Event.update? := by
  obtain ⟨left, sent, _⟩ := accounted.sent
  rw [List.filterMap_filterMap, List.filterMap_filterMap]
  refine List.filterMap_congr fun item among => ?_
  cases item with
  | internal | tick | leave => rfl
  | command ticket command =>
    cases command with
    | snapshot | shutdown => rfl
    | dispatch event =>
      have entry : (ticket, .dispatch event) ∈ journal.sent := by
        rw [sent]
        exact List.mem_append_left _ (List.mem_filterMap.mpr ⟨_, among, rfl⟩)
      obtain ⟨request, same⟩ := asked _ entry
      exact CallerRequest.update?_eq_none same.symm

/-- While the worker runs, every report that comes is handed to it. -/
theorem posted_reports (running : (of settings moves).coordinator.life = .running) :
    (of settings moves).posted.filterMap Event.update? = moves.filterMap Move.report? := by
  induction moves using List.reverseRecOn with
  | nil => rfl
  | append_singleton moves next ih =>
    rw [← move_of] at running ⊢
    have before := (Follows.move (of settings moves) next).running running
    have runs := isRunning_iff.mpr before
    have posted : ((of settings moves).move next).posted.filterMap Event.update? =
        (of settings moves).posted.filterMap Event.update? ++
          ((of settings moves).run.posts next).filterMap Event.update? :=
      List.filterMap_append
    rw [posted, ih before, List.filterMap_append]
    congr 1
    cases next with
    | report update => simp [Run.posts, runs, Event.update?, Move.report?]
    | announce grant =>
      simp only [Run.posts]
      split <;> rfl
    | _ => rfl

end Journal

namespace Run

variable {settings : CoordinatorSettings} {moves : List Move}

/-- While the worker runs, the reports that came are those that its cache is made of, followed by
those that wait. -/
theorem reports_known (running : (of settings moves).coordinator.life = .running) :
    ∃ known, moves.filterMap Move.report? = known ++ (of settings moves).coordinator.reports ∧
      (of settings moves).coordinator.worker.cache.Latest known := by
  rw [← Journal.run_of] at running ⊢
  have accounted := Journal.accounted settings moves
  obtain ⟨left, posted, waits⟩ := accounted.posted
  obtain ⟨history, reached, events, _⟩ := accounted.followed running
  refine ⟨((Journal.of settings moves).taken.filterMap Item.internal?).filterMap Event.update?,
    ?_, ?_⟩
  · rw [← Journal.posted_reports running, posted, waits running, List.filterMap_append]
    rfl
  · have latest := reached.latest
    rwa [events, accounted.reports_taken (Journal.sent_of_request settings moves)] at latest

/-- Once the worker has taken the reports that wait, its cache is made of all that came. -/
theorem informed_latest (running : (of settings moves).coordinator.life = .running) :
    (of settings moves).coordinator.informed.Latest (moves.filterMap Move.report?) := by
  obtain ⟨known, came, latest⟩ := reports_known running
  rw [came]
  exact latest.applyAll _

theorem running_of_append {later : List Move}
    (running : (of settings (moves ++ later)).coordinator.life = .running) :
    (of settings moves).coordinator.life = .running := by
  induction later using List.reverseRecOn with
  | nil => rwa [List.append_nil] at running
  | append_singleton later next ih =>
    rw [← List.append_assoc, ← Journal.run_of, ← Journal.move_of] at running
    have before := (Journal.Follows.move _ next).running running
    rw [Journal.coordinator, Journal.run_of] at before
    exact ih before

/-- Later moves change what the worker will know by their reports, and by nothing else. -/
theorem informed_append {later : List Move}
    (running : (of settings (moves ++ later)).coordinator.life = .running) :
    (of settings (moves ++ later)).coordinator.informed =
      (later.filterMap Move.report?).foldl StatusCache.apply
        (of settings moves).coordinator.informed := by
  have latest := informed_latest running
  rw [List.filterMap_append] at latest
  exact latest.unique ((informed_latest (running_of_append running)).applyAll _)

end Run

end BackgroundWork.Compression
