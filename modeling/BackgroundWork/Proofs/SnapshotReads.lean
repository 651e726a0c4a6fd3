import BackgroundWork.Proofs.ClientOrder
import BackgroundWork.Proofs.ClientRuns

set_option autoImplicit false

/-!
What a snapshot shows. The worker takes reports and announcements before commands, so that when it
copies its state for a client all that was handed over before is in it. Main statement: whatever
was completed before a client asks for a snapshot is among the events that the snapshot is the
state after, and each part of the cache is the one that was reported last.
-/

namespace BackgroundWork.Compression

open Engine (Client.fetch Client.sendFor)
open Program (Goes goes_ask goes_bind goes_done)

/-! ### The cache -/

namespace CacheUpdate

/-- The whole status that a report carries, if it does. -/
def status? : CacheUpdate → Option ComprehensiveStatus
  | .status report => some report
  | .queue _ | .capabilities _ | .stats _ => none

/-- The state of the queue that a report carries, if it does. -/
def queue? : CacheUpdate → Option QueueStatus
  | .status report => report.queueStatus
  | .queue report => some report
  | .capabilities _ | .stats _ => none

/-- The statistics that a report carries, if it does. -/
def stats? : CacheUpdate → Option Stats
  | .status report => report.compressionStats
  | .stats report => some report
  | .queue _ | .capabilities _ => none

/-- The capabilities that a report carries, if it does. -/
def capabilities? : CacheUpdate → Option Telemetry.DeviceCapabilities
  | .status report => report.deviceCapabilities
  | .capabilities report => some report
  | .queue _ | .stats _ => none

/-- What a report says of the workers, if it does. -/
def throttle? : CacheUpdate → Option WorkerThrottle
  | .status report => report.workerThrottle
  | .queue _ | .capabilities _ | .stats _ => none

end CacheUpdate

/-- Each part of a cache is as the last report that carries it says. -/
structure StatusCache.Latest (updates : List CacheUpdate) (cache : StatusCache) : Prop where
  status : cache.currentStatus = (updates.filterMap CacheUpdate.status?).getLast?
  queue : cache.queueStatus = (updates.filterMap CacheUpdate.queue?).getLast?
  stats : cache.compressionStats = (updates.filterMap CacheUpdate.stats?).getLast?
  capabilities : cache.deviceCapabilities = (updates.filterMap CacheUpdate.capabilities?).getLast?
  isThrottled : cache.isThrottled =
    ((updates.filterMap CacheUpdate.throttle?).getLast?.map (·.isThrottled)).getD false
  throttleReason : cache.throttleReason =
    (updates.filterMap CacheUpdate.throttle?).getLast?.bind (·.throttleReason)

theorem getLast?_filterMap_snoc {α β : Type} (view : α → Option β) (earlier : List α) (last : α) :
    ((earlier ++ [last]).filterMap view).getLast? =
      (view last).or (earlier.filterMap view).getLast? := by
  rw [Journal.filterMap_snoc, List.getLast?_append]
  cases view last <;> rfl

namespace StatusCache.Latest

theorem empty : StatusCache.empty.Latest [] :=
  ⟨rfl, rfl, rfl, rfl, rfl, rfl⟩

theorem apply {updates : List CacheUpdate} {cache : StatusCache} (latest : cache.Latest updates)
    (update : CacheUpdate) : (cache.apply update).Latest (updates ++ [update]) := by
  constructor <;> rw [getLast?_filterMap_snoc]
  · rw [← latest.status]
    cases update with
    | status | queue | capabilities | stats => rfl
  · rw [← latest.queue]
    cases update with
    | status | queue | capabilities | stats => rfl
  · rw [← latest.stats]
    cases update with
    | status | queue | capabilities | stats => rfl
  · rw [← latest.capabilities]
    cases update with
    | status | queue | capabilities | stats => rfl
  · cases update with
    | status report =>
      cases told : report.workerThrottle with
      | none => simpa [StatusCache.apply, applyThrottle, CacheUpdate.throttle?, told]
          using latest.isThrottled
      | some throttle => simp [StatusCache.apply, applyThrottle, CacheUpdate.throttle?, told]
    | queue | capabilities | stats => exact latest.isThrottled
  · cases update with
    | status report =>
      cases told : report.workerThrottle with
      | none => simpa [StatusCache.apply, applyThrottle, CacheUpdate.throttle?, told]
          using latest.throttleReason
      | some throttle => simp [StatusCache.apply, applyThrottle, CacheUpdate.throttle?, told]
    | queue | capabilities | stats => exact latest.throttleReason

end StatusCache.Latest

/-- The report that an event is, if it is one. -/
def Event.update? : Event → Option CacheUpdate
  | .refreshed update => some update
  | .start | .stop | .lifecycle _ | .telemetryTick | .budgetExpired _ => none

/-- Handling an event changes the cache if it is a report, and only as the report says. -/
theorem handling_cache {settings : CoordinatorSettings} {moment : Moment} {worker after : Worker}
    {event : Event} {effects : List Effect}
    (handling : Handling settings moment worker event after effects) :
    after.cache = (event.update?.elim worker.cache worker.cache.apply) := by
  cases handling with
  | startedBehind _ _ _ _ opening | wentBehind _ _ opening =>
    rw [opening.frame]
    rfl
  | reported due => rcases due with rfl | rfl <;> rfl
  | _ => rfl

theorem Reached.latest {settings : CoordinatorSettings} {history : List Handled}
    {worker : Worker} (reached : Reached settings history worker) :
    worker.cache.Latest ((history.map (·.event)).filterMap Event.update?) := by
  refine Reached.keeps (fun history worker =>
    worker.cache.Latest ((history.map (·.event)).filterMap Event.update?)) reached .empty ?_ ?_
  · intro history worker moment event after effects latest handling
    rw [handling_cache handling, List.map_append, List.filterMap_append]
    cases report : event.update? with
    | none => simpa [report] using latest
    | some update => simpa [report] using latest.apply update
  · intro _ _ _ _ latest _
    exact latest

/-! ### Reports that clients bring in -/

namespace Documents

/-- What requests ask of the worker's side and the engine, with the answers. -/
abbrev Event := (coordination.sum Engine.Bridge.interface).Event

variable {α β : Type} {events : List Event}

theorem goes_andThen {action : Action α} {next : α → Action β} {value : β}
    (goes : Goes (action.andThen next) events (.ok value)) :
    ∃ first result later, events = first ++ later ∧ Goes action first (.ok result) ∧
      Goes (next result) later (.ok value) := by
  obtain ⟨first, result, later, rfl, begun, rest⟩ := goes_bind.1 goes
  cases result with
  | error error => cases (goes_done.1 rest).2
  | ok result => exact ⟨first, result, later, rfl, begun, rest⟩

theorem goes_post {update : CacheUpdate} {result : Except ServiceError Unit}
    (goes : Goes (post update) events result) :
    events = [⟨.inl (.post update), ()⟩] ∧ result = .ok () := by
  obtain ⟨answer, later, rfl, rest⟩ := goes_ask.1 goes
  obtain ⟨rfl, rfl⟩ := goes_done.1 rest
  exact ⟨rfl, rfl⟩

/-- What was brought in is handed to the worker before the client has it. -/
theorem posted_of_report {action : Action α} {update : α → CacheUpdate} {value : α}
    (goes : Goes (action.andThen fun value =>
      (post (update value)).andThen fun () => .done (.ok value)) events (.ok value)) :
    (⟨.inl (.post (update value)), ()⟩ : Event) ∈ events := by
  obtain ⟨first, result, later, rfl, _, rest⟩ := goes_andThen goes
  obtain ⟨posting, _, last, rfl, posted, ended⟩ := goes_andThen rest
  obtain ⟨rfl, _⟩ := goes_post posted
  cases (goes_done.1 ended).2
  exact List.mem_append_right _ List.mem_cons_self

/-- The report that is handed over after the statistics were asked for. -/
def postings : Except ServiceError Stats → List Event
  | .error _ => []
  | .ok stats => [⟨.inl (.post (.stats stats)), ()⟩]

theorem goes_refreshStats {result : Except ServiceError Unit}
    (goes : Goes refreshStats events result) :
    result = .ok () ∧ ∃ pull answer,
      events = pull.map Interface.Event.inRight ++ postings answer ∧
        Goes (Client.fetch Stats.record.codec .getStats) pull answer := by
  obtain ⟨first, answer, later, rfl, asked, rest⟩ := goes_bind.1 goes
  obtain ⟨pull, pulls, rfl⟩ := Goes.of_inRight asked
  cases answer with
  | error error =>
    obtain ⟨rfl, rfl⟩ := goes_done.1 rest
    exact ⟨rfl, pull, .error error, rfl, pulls⟩
  | ok stats =>
    obtain ⟨rfl, rfl⟩ := goes_post rest
    exact ⟨rfl, pull, .ok stats, rfl, pulls⟩

/-- How a compression goes: it is refused before anything is sent, or fails at the engine, or
succeeds and asks for the statistics. -/
inductive Compressing : List Event → Except ServiceError Summary → Prop
  | refused {error : ServiceError} : Compressing [] (.error error)
  | withheld {phase : Background.BudgetPhase} {error : ServiceError} :
      Compressing [⟨.inl .phase, phase⟩] (.error error)
  | failed {phase : Background.BudgetPhase} {payload : String}
      {sending : List Engine.Bridge.interface.Event} {error : ServiceError}
      (sends : Goes (Client.sendFor Summary.record.codec .compressDocument payload none) sending
        (.error error)) :
      Compressing (⟨.inl .phase, phase⟩ :: sending.map Interface.Event.inRight) (.error error)
  | compressed {phase : Background.BudgetPhase} {payload : String}
      {sending : List Engine.Bridge.interface.Event} {summary : Summary}
      {refreshing : List Event}
      (sends : Goes (Client.sendFor Summary.record.codec .compressDocument payload none) sending
        (.ok summary))
      (refreshes : Goes refreshStats refreshing (.ok ())) :
      Compressing
        (⟨.inl .phase, phase⟩ :: (sending.map Interface.Event.inRight ++ refreshing))
        (.ok summary)

theorem compressing_of_goes {maxBytes : Nat} {documentId : String} {config : Option Config}
    {result : Except ServiceError Summary}
    (goes : Goes (compress maxBytes documentId config) events result) :
    Compressing events result := by
  unfold compress named at goes
  cases checked : DocumentId.ofText documentId with
  | error fault =>
    simp only [checked] at goes
    obtain ⟨rfl, rfl⟩ := goes_done.1 goes
    exact .refused
  | ok id =>
    simp only [checked] at goes
    obtain ⟨phase, later, rfl, rest⟩ := goes_ask.1 goes
    split at rest
    · obtain ⟨rfl, rfl⟩ := goes_done.1 rest
      exact .withheld
    split at rest
    · obtain ⟨rfl, rfl⟩ := goes_done.1 rest
      exact .withheld
    obtain ⟨first, answer, behind, rfl, sent, refreshes⟩ := goes_bind.1 rest
    obtain ⟨sending, sends, rfl⟩ := Goes.of_inRight sent
    cases answer with
    | error error =>
      obtain ⟨rfl, rfl⟩ := goes_done.1 refreshes
      rw [List.append_nil]
      exact .failed sends
    | ok summary =>
      obtain ⟨refreshing, done, last, rfl, refreshed, ended⟩ := goes_bind.1 refreshes
      obtain ⟨rfl, _⟩ := goes_refreshStats refreshed
      obtain ⟨rfl, rfl⟩ := goes_done.1 ended
      rw [List.append_nil]
      exact .compressed sends refreshed

/-- A compression that succeeds asks for the phase, sends the request and then asks for the
statistics. -/
theorem goes_compress {maxBytes : Nat} {documentId : String} {config : Option Config}
    {summary : Summary} (goes : Goes (compress maxBytes documentId config) events (.ok summary)) :
    ∃ phase payload sending pull answer,
      events = ⟨.inl .phase, phase⟩ :: (sending.map Interface.Event.inRight ++
        (pull.map Interface.Event.inRight ++ postings answer)) ∧
      Goes (Client.sendFor Summary.record.codec .compressDocument payload none) sending
        (.ok summary) ∧
      Goes (Client.fetch Stats.record.codec .getStats) pull answer := by
  cases compressing_of_goes goes with
  | compressed sends refreshes =>
    obtain ⟨_, pull, answer, rfl, pulls⟩ := goes_refreshStats refreshes
    exact ⟨_, _, _, pull, answer, rfl, sends, pulls⟩

end Documents

namespace Exchange

/-! ### Where snapshots come from -/

section

variable {settings : CoordinatorSettings} {exchange after : Exchange} {number : Nat} {call : Call}

/-- A snapshot shows the worker at a time between two others at which it ran and no report or
announcement waited. -/
def Seen (settings : CoordinatorSettings) (before after : Journal) (snapshot : Snapshot) : Prop :=
  ∃ journal : Journal, journal.Accounted settings ∧ before.Follows journal ∧
    journal.Follows after ∧ journal.coordinator.life = .running ∧
    journal.coordinator.internal = [] ∧ snapshot = journal.coordinator.worker.snapshot

/-- What a call shows is the worker at a time after the given one. -/
def ShowsLater (settings : CoordinatorSettings) (before : Journal) (number : Nat)
    (exchange : Exchange) : Prop :=
  ∀ call request snapshot, exchange.calls[number]? = some call →
    (⟨.inl (.ask request), Answer.snapshot snapshot⟩ : Service.Event) ∈ call.events →
    Seen settings before exchange.journal snapshot

theorem ShowsLater.move {before : Journal} (shows : ShowsLater settings before number exchange)
    (orderly : Orderly settings exchange) (follows : before.Follows exchange.journal)
    (exchanging : Exchanging exchange after) : ShowsLater settings before number after := by
  have goesOn : ∀ {snapshot}, Seen settings before exchange.journal snapshot →
      Seen settings before after.journal snapshot := by
    rintro snapshot ⟨journal, accounted, first, second, seen⟩
    exact ⟨journal, accounted, first, second.trans exchanging.follows, seen⟩
  intro call request snapshot found told
  cases exchanging.stems found with
  | made => cases told
  | left same => exact goesOn (shows call request snapshot same told)
  | answered same asks serving =>
    rcases List.mem_append.mp told with earlier | last
    · exact goesOn (shows _ request snapshot same earlier)
    · cases List.mem_singleton.mp last
      generalize after.journal = journal at serving
      cases serving
  | heard same asks given moved =>
    rcases List.mem_append.mp told with earlier | last
    · exact goesOn (shows _ request snapshot same earlier)
    · cases List.mem_singleton.mp last
      obtain ⟨command, running, quiet, _, _, reply⟩ | ⟨lost, _⟩ :=
        (exchange.journal.recording _).answered given
      · cases reply
        exact ⟨exchange.journal, orderly.accounted, follows, exchanging.follows, running, quiet,
          rfl⟩
      · rcases lost with lost | lost <;> cases lost

theorem shows_later {before : Exchange} (orderly : Orderly settings before)
    (absent : before.calls[number]? = none) (later : List Move) :
    ShowsLater settings before.journal number (before.moves later) := by
  have none : ShowsLater settings before.journal number before := by
    intro call _ _ found
    cases absent.symm.trans found
  refine (keeps (fun after => Orderly settings after ∧
    before.journal.Follows after.journal ∧ ShowsLater settings before.journal number after)
    ⟨orderly, .refl _, none⟩ ?_ later).2.2
  rintro middle after ⟨orderly, follows, shows⟩ exchanging
  exact ⟨orderly.move exchanging, follows.trans exchanging.follows,
    shows.move orderly follows exchanging⟩

end

/-! ### What was completed -/

/-- An event at the boundary to the engine, among those of a call. -/
def engineEvent (event : Engine.Bridge.interface.Event) : Service.Event :=
  event.inRight.inRight

/-- What was completed for a client or the system: a request of a client that succeeded, a report
that a client had brought in, the statistics that came after a compression, and a handler that the
system has run. -/
inductive Completed (exchange : Exchange) : Event → Prop
  | started {number : Nat} {events : List Service.Event}
      (done : exchange.calls[number]? = some ⟨.start, events, .done (.ok ())⟩) :
      Completed exchange .start
  | stopped {number : Nat} {events : List Service.Event}
      (done : exchange.calls[number]? = some ⟨.stop, events, .done (.ok ())⟩) :
      Completed exchange .stop
  | followed {number : Nat} {events : List Service.Event} {event : LifecycleEvent}
      (done : exchange.calls[number]? = some ⟨.lifecycle event, events, .done (.ok ())⟩) :
      Completed exchange (.lifecycle event)
  | refreshedStatus {number : Nat} {events : List Service.Event} {status : ComprehensiveStatus}
      (done : exchange.calls[number]? = some ⟨.refreshStatus, events, .done (.ok status)⟩) :
      Completed exchange (.refreshed (.status status))
  | refreshedQueue {number : Nat} {events : List Service.Event} {status : QueueStatus}
      (done : exchange.calls[number]? = some ⟨.refreshQueue, events, .done (.ok status)⟩) :
      Completed exchange (.refreshed (.queue status))
  | compressed {number maxBytes : Nat} {documentId : String} {config : Option Config}
      {earlier events later : List Service.Event} {summary : Summary} {stats : Stats}
      {pull : List Engine.Bridge.interface.Event}
      (done : exchange.calls[number]? =
        some ⟨.compress maxBytes documentId config, events, .done (.ok summary)⟩)
      (pulled : events = earlier ++ pull.map engineEvent ++ later)
      (pulls : Goes (Client.fetch Stats.record.codec .getStats) pull (.ok stats)) :
      Completed exchange (.refreshed (.stats stats))
  | expired {grant : Nat} (announced : grant ∈ exchange.journal.run.announced) :
      Completed exchange (.budgetExpired grant)

section

variable {settings : CoordinatorSettings} {exchange : Exchange} {number : Nat}

/-- An event that was sent for a client was taken if the client was told that it was handled. -/
theorem Orderly.taken_of_ok {call : Call} {request : CallerRequest} {event : Event}
    {events : List Service.Event} {rest : Program Service (Except ServiceError Unit)}
    (orderly : Orderly settings exchange) (found : exchange.calls[number]? = some call)
    (told : call.events = events) (requesting : Requesting request Answer.outcome events rest)
    (succeeded : rest = .done (.ok ())) (dispatches : request.command = .dispatch event) :
    event ∈ exchange.journal.taken.filterMap Item.event? := by
  cases requesting with
  | asks => cases succeeded
  | told answer =>
    have heard : (⟨.inl (.ask request), answer⟩ : Service.Event) ∈ call.events := by
      rw [told]
      exact List.mem_cons_self
    cases orderly.genuine number call found _ heard with
    | accepted taken =>
      rw [dispatches] at taken
      exact List.mem_filterMap.mpr ⟨_, taken, rfl⟩
    | lost lost =>
      obtain ⟨message, refused⟩ := outcome_of_lost answer lost
      have outcome : answer.outcome = .ok () := by
        injection succeeded
      cases refused.symm.trans outcome

/-- A client that got a snapshot was told of it. -/
theorem told_of_shown {request : CallerRequest} {snapshot : Snapshot}
    {events : List Service.Event} {rest : Program Service (Except ServiceError Snapshot)}
    (requesting : Requesting request Answer.shown events rest)
    (succeeded : rest = .done (.ok snapshot)) :
    (⟨.inl (.ask request), Answer.snapshot snapshot⟩ : Service.Event) ∈ events := by
  cases requesting with
  | asks => cases succeeded
  | told answer =>
    have shown : answer.shown = .ok snapshot := by
      injection succeeded
    cases answer with
    | snapshot copy =>
      cases shown
      exact List.mem_cons_self
    | handled | dropped | refused => cases shown

theorem Orderly.posted_of_event {call : Call} {update : CacheUpdate}
    {events : List Documents.Event} (orderly : Orderly settings exchange)
    (found : exchange.calls[number]? = some call)
    (running : exchange.journal.coordinator.life = .running)
    (asked : call.events = events.map Interface.Event.inRight)
    (posts : (⟨.inl (.post update), ()⟩ : Documents.Event) ∈ events) :
    .refreshed update ∈ exchange.journal.posted := by
  have told : (⟨.inr (.inl (.post update)), ()⟩ : Service.Event) ∈ call.events := by
    rw [asked]
    exact List.mem_map_of_mem posts
  cases orderly.genuine number call found _ told with
  | posted posted => exact posted running

/-- A place in a list is known by a property that only its entry has. -/
theorem append_cons_unique {α : Type} {marked : α → Prop} {first second third fourth : List α}
    {entry other : α} (same : first ++ entry :: second = third ++ other :: fourth)
    (before : ∀ item ∈ first, ¬marked item) (after : ∀ item ∈ second, ¬marked item)
    (own : marked other) : entry :: second = other :: fourth := by
  rcases List.append_eq_append_iff.mp same with ⟨part, _, split⟩ | ⟨part, split, rest⟩
  · cases part with
    | nil => exact split
    | cons item part =>
      obtain ⟨_, rfl⟩ := List.cons.inj split
      exact absurd own (after other (List.mem_append_right _ List.mem_cons_self))
  · cases part with
    | nil => exact rest.symm
    | cons item part =>
      obtain ⟨rfl, _⟩ := List.cons.inj rest
      refine absurd own (before other ?_)
      rw [split]
      exact List.mem_append_right _ List.mem_cons_self

/-- Whether an event enters the engine for the statistics. -/
def EntersForStats (event : Service.Event) : Prop :=
  ∃ payload token, event.op = .inr (.inr (.invoke .getStats payload token))

theorem not_entersForStats_of_quiet {part : List Engine.Bridge.interface.Event}
    (quiet : ∀ event ∈ part, Engine.invocation? event.op = none) :
    ∀ event ∈ part.map engineEvent, ¬EntersForStats event := by
  rintro _ member ⟨payload, token, same⟩
  obtain ⟨event, among, rfl⟩ := List.mem_map.mp member
  have op : event.op = .invoke .getStats payload token := by
    injection same with same
    injection same
  have silent := quiet event among
  rw [op] at silent
  cases silent

theorem not_entersForStats_of_posting (answer : Except ServiceError Stats) :
    ∀ event ∈ (Documents.postings answer).map Interface.Event.inRight,
      ¬EntersForStats event := by
  rintro _ member ⟨payload, token, same⟩
  obtain ⟨event, among, rfl⟩ := List.mem_map.mp member
  cases answer with
  | error error => cases among
  | ok stats =>
    cases List.mem_singleton.mp among
    cases same

theorem engineEvent_injective : Function.Injective engineEvent := by
  rintro ⟨firstOp, firstAnswer⟩ ⟨secondOp, secondAnswer⟩ same
  cases same
  rfl

/-- If the statistics came after a compression that succeeded, they were handed to the worker. -/
theorem posted_of_compress {maxBytes : Nat} {documentId : String} {config : Option Config}
    {summary : Summary} {stats : Stats} {events : List Documents.Event}
    {earlier later : List Service.Event} {pull : List Engine.Bridge.interface.Event}
    (goes : Goes (Documents.compress maxBytes documentId config) events (.ok summary))
    (pulled : events.map Interface.Event.inRight = earlier ++ pull.map engineEvent ++ later)
    (pulls : Goes (Client.fetch Stats.record.codec .getStats) pull (.ok stats)) :
    (⟨.inl (.post (.stats stats)), ()⟩ : Documents.Event) ∈ events := by
  obtain ⟨phase, payload, sending, own, answer, rfl, sends, ownPulls⟩ :=
    Documents.goes_compress goes
  obtain ⟨entry, sent, sendingSo, quietSent⟩ := Engine.Client.goes_sendFor_cons sends
  obtain ⟨raw, read, ownSo, quietRead⟩ := Engine.Client.goes_sendFor_cons ownPulls
  obtain ⟨other, others, pullSo, _⟩ := Engine.Client.goes_sendFor_cons pulls
  have lifted : ∀ part : List Engine.Bridge.interface.Event,
      (part.map Interface.Event.inRight).map Interface.Event.inRight = part.map engineEvent :=
    fun part => List.map_map
  rw [List.map_cons, List.map_append, List.map_append, lifted, lifted] at pulled
  have before : ∀ event ∈ (⟨.inr (.inl .phase), phase⟩ : Service.Event) ::
      sending.map engineEvent, ¬EntersForStats event := by
    rw [sendingSo]
    refine List.forall_mem_cons.mpr ⟨?_, List.forall_mem_cons.mpr
      ⟨?_, not_entersForStats_of_quiet quietSent⟩⟩
    · rintro ⟨_, _, same⟩
      cases same
    · rintro ⟨_, _, same⟩
      cases same
  have after : ∀ event ∈ read.map engineEvent ++
      (Documents.postings answer).map Interface.Event.inRight, ¬EntersForStats event :=
    List.forall_mem_append.mpr
      ⟨not_entersForStats_of_quiet quietRead, not_entersForStats_of_posting answer⟩
  -- Both ways through the pull start where the engine is entered for the statistics.
  have aligned : own.map engineEvent ++ (Documents.postings answer).map Interface.Event.inRight =
      pull.map engineEvent ++ later := by
    rw [ownSo, pullSo, List.append_assoc] at pulled
    rw [ownSo, pullSo]
    exact append_cons_unique pulled before after ⟨_, _, rfl⟩
  obtain ⟨rfl, rfl⟩ := Goes.unique engineEvent_injective ownPulls pulls aligned
  simp [Documents.postings]

/-- What was completed while the worker runs was posted or dispatched. -/
theorem Completed.handed {event : Event} (completed : Completed exchange event)
    (orderly : Orderly settings exchange)
    (running : exchange.journal.coordinator.life = .running) :
    event ∈ exchange.journal.posted ∨
      event ∈ exchange.journal.taken.filterMap Item.event? := by
  have passes : ∀ {number : Nat} {call : Call}, exchange.calls[number]? = some call →
      Program.Passes call.task.program call.events call.rest :=
    fun found => orderly.passes _ (List.mem_of_getElem? found)
  cases completed with
  | started done | stopped done | followed done =>
    exact .inr (orderly.taken_of_ok done rfl (requesting_of_passes (passes done)) rfl rfl)
  | refreshedStatus done =>
    obtain ⟨events, goes, same⟩ := Goes.of_inRight ((passes done).goes rfl)
    have posts := Documents.posted_of_report goes
    exact .inl (orderly.posted_of_event done running same posts)
  | refreshedQueue done =>
    obtain ⟨events, goes, same⟩ := Goes.of_inRight ((passes done).goes rfl)
    have posts := Documents.posted_of_report goes
    exact .inl (orderly.posted_of_event done running same posts)
  | compressed done pulled pulls =>
    obtain ⟨events, goes, same⟩ := Goes.of_inRight ((passes done).goes rfl)
    have posts := posted_of_compress goes (same.symm.trans pulled) pulls
    exact .inl (orderly.posted_of_event done running same posts)
  | expired announced =>
    exact .inl ((orderly.accounted.announced _ announced).resolve_right (fun gone => gone running))

theorem internal_subset (items : List Item) :
    items.filterMap Item.internal? ⊆ items.filterMap Item.event? := by
  intro event member
  obtain ⟨item, among, internal⟩ := List.mem_filterMap.mp member
  refine List.mem_filterMap.mpr ⟨item, among, ?_⟩
  cases item with
  | internal => exact internal
  | command | tick | leave => cases internal

/-- All that was posted before a time at which nothing waits is dispatched by then, in order and
each as often as it was posted. -/
theorem dispatched_of_posted {journal : Journal} (accounted : journal.Accounted settings)
    (running : journal.coordinator.life = .running) (quiet : journal.coordinator.internal = []) :
    journal.posted = journal.taken.filterMap Item.internal? := by
  obtain ⟨left, posted, waits⟩ := accounted.posted
  rw [posted, waits running, quiet, List.append_nil]

end

/-- However clients, pulls, the system and the worker's turns come: a snapshot that a client gets
shows the worker after some sequence of dispatched events, at the beginning of all that it ever
takes. In that sequence is every event that was completed before the client asked: each start, stop
and lifecycle event that succeeded, each report that a client brought in, the statistics that came
after a compression, and each expiry whose handler has run. What was handed to the worker before
the client asked comes first among the reports and expiries of the sequence, in order and each as
often as it was handed over, so that equal ones count. And each part of the cache is as the last of
its reports says. All the while, what was handed to the worker is what it took, in order,
followed by what still waits while it runs, so that nothing is taken twice and nothing is lost; and
no call sends more than one command. -/
theorem snapshot_reads_completed (settings : CoordinatorSettings) (history later : List Move) :
    let before := of settings history
    let after := before.moves (.call .snapshot :: later)
    (∀ events snapshot,
      after.calls[before.calls.length]? = some ⟨.snapshot, events, .done (.ok snapshot)⟩ →
      ∃ dispatched, before.journal.taken <+: dispatched ∧ dispatched <+: after.journal.taken ∧
        (∃ handled worker, Reached settings handled worker ∧
          handled.map (·.event) = dispatched.filterMap Item.event? ∧
          snapshot = worker.snapshot) ∧
        (∀ event, Completed before event → event ∈ dispatched.filterMap Item.event?) ∧
        before.journal.posted <+: dispatched.filterMap Item.internal? ∧
        snapshot.cache.Latest ((dispatched.filterMap Item.event?).filterMap Event.update?)) ∧
      after.journal.taken.filterMap Item.internal? <+: after.journal.posted ∧
      after.journal.taken.filterMap Item.command? <+: after.journal.sent ∧
      (after.journal.sent.map Prod.fst).Nodup ∧
      (after.journal.coordinator.life = .running →
        after.journal.posted = after.journal.taken.filterMap Item.internal? ++
            after.journal.coordinator.internal ∧
          after.journal.sent = after.journal.taken.filterMap Item.command? ++
            after.journal.coordinator.commands) := by
  intro before after
  have orderly : Orderly settings before := .of settings history
  have orderlyAfter : Orderly settings after := orderly.moves _
  refine ⟨?_, ?_⟩
  · intro events snapshot found
    have absent : before.calls[before.calls.length]? = none := List.getElem?_eq_none (Nat.le_refl _)
    have shows := shows_later orderly absent (.call .snapshot :: later)
    have told := told_of_shown
      (requesting_of_passes (orderlyAfter.passes _ (List.mem_of_getElem? found))) rfl
    obtain ⟨journal, accounted, first, second, running, quiet, rfl⟩ := shows _ _ _ found told
    obtain ⟨handled, reached, events, _⟩ := accounted.followed running
    have posted : before.journal.posted <+: journal.taken.filterMap Item.internal? := by
      rw [← dispatched_of_posted accounted running quiet]
      exact first.posted
    refine ⟨journal.taken, first.taken, second.taken, ⟨handled, _, reached, events, rfl⟩, ?_, posted,
      ?_⟩
    · intro event completed
      rcases completed.handed orderly (first.running running) with handedOver | taken
      · exact internal_subset journal.taken (posted.subset handedOver)
      · exact (first.taken.filterMap Item.event?).subset taken
    · rw [← events]
      exact reached.latest
  · obtain ⟨posted, postedSo, postedWaits⟩ := orderlyAfter.accounted.posted
    obtain ⟨sent, sentSo, sentWaits⟩ := orderlyAfter.accounted.sent
    refine ⟨⟨posted, postedSo.symm⟩, ⟨sent, sentSo.symm⟩, orderlyAfter.once, ?_⟩
    intro running
    rw [postedSo, sentSo, postedWaits running, sentWaits running]
    exact ⟨rfl, rfl⟩

end Exchange

end BackgroundWork.Compression
