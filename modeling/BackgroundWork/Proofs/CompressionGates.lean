import BackgroundWork.Proofs.CacheReports
import BackgroundWork.Proofs.DocumentCalls
import BackgroundWork.Proofs.DocumentGate

set_option autoImplicit false

/-!
What stands in front of a compression and what follows it. Three checks come first, and the engine
is asked only if the request passes them all; the statistics are brought in only after a
compression that succeeded, and whether they come is of no matter to the caller. Main statement:
what is asked of the engine, the result, and what the worker knows afterwards, while it goes on
beside the request.
-/

namespace BackgroundWork.Compression.Documents

open Background (BudgetPhase)
open Engine (Client.fetch Client.send Client.sendFor Invocation Reply)
open Program (handleRight)

/-! ### The checks -/

/-- Why a request is not passed on to the engine: the first check that it does not pass. -/
inductive Withheld (maxBytes : Nat) (documentId payload : String) (phase : BudgetPhase) :
    ServiceError → Prop
  | named {fault : ValidationError} (faulty : NameFault documentId fault) :
      Withheld maxBytes documentId payload phase (.validation fault)
  | expired (sound : ∀ fault, ¬NameFault documentId fault) (closed : phase = .expired) :
      Withheld maxBytes documentId payload phase .resourceBudgetExpired
  | large (sound : ∀ fault, ¬NameFault documentId fault) (unexpired : phase ≠ .expired)
      (exceeds : maxBytes < payload.utf8ByteSize) :
      Withheld maxBytes documentId payload phase
        (.validation (.payloadTooLarge "compression_compress_document" payload.utf8ByteSize
          maxBytes))

/-- Whether a request passes all checks. -/
structure Admitted (maxBytes : Nat) (documentId payload : String) (phase : BudgetPhase) :
    Prop where
  sound : ∀ fault, ¬NameFault documentId fault
  unexpired : phase ≠ .expired
  fits : payload.utf8ByteSize ≤ maxBytes

theorem withheld_of_not_admitted {maxBytes : Nat} {documentId payload : String}
    {phase : BudgetPhase} (refused : ¬Admitted maxBytes documentId payload phase) :
    ∃ error, Withheld maxBytes documentId payload phase error := by
  by_cases sound : ∀ fault, ¬NameFault documentId fault
  · by_cases closed : phase = .expired
    · exact ⟨_, .expired sound closed⟩
    by_cases fits : payload.utf8ByteSize ≤ maxBytes
    · exact absurd ⟨sound, closed, fits⟩ refused
    · exact ⟨_, .large sound closed (Nat.lt_of_not_le fits)⟩
  · obtain ⟨fault, faulty⟩ := Classical.not_forall.mp sound
    exact ⟨_, .named (Classical.not_not.mp faulty)⟩

/-- What is done after a compression. -/
def conclude (summary : Summary) : Action Summary :=
  refreshStats.andThen fun () => .done (.ok summary)

/-- What is done with a request that passed the checks. -/
def perform (payload : String) : Action Summary :=
  (atEngine (Client.sendFor Summary.record.codec .compressDocument payload none)).andThen conclude

section

variable {σ : Type} {handle : Surroundings.Handler σ} {state : σ} {maxBytes : Nat}
  {documentId : String} {config : Option Config}

theorem compress_of_sound (sound : ∀ fault, ¬NameFault documentId fault) (maxBytes : Nat)
    (config : Option Config) :
    compress maxBytes documentId config =
      .ask (.inl .phase) fun (phase : BudgetPhase) =>
        if phase = .expired then .done (.error .resourceBudgetExpired)
        else
          let payload := (Request.compress ⟨documentId⟩ config).render
          match ensurePayloadWithin "compression_compress_document" payload maxBytes with
          | .error error => .done (.error (.validation error))
          | .ok () => perform payload := by
  rw [compress, named, DocumentId.ofText_of_sound sound]
  rfl

/-- A request that is withheld asks for the phase at most. -/
theorem compress_withheld {error : ServiceError}
    (withheld : Withheld maxBytes documentId (Request.compress ⟨documentId⟩ config).render
      (handle (.inl .phase) state).1 error) :
    ((compress maxBytes documentId config).run handle state).1 = .error error ∧
      entries ((compress maxBytes documentId config).events handle state) = [] ∧
      reports ((compress maxBytes documentId config).events handle state) = [] := by
  cases withheld with
  | named faulty =>
    rw [compress, named, DocumentId.ofText_of_fault faulty]
    exact ⟨rfl, rfl, rfl⟩
  | expired sound closed =>
    rw [compress_of_sound sound]
    simp only [Program.run, Program.events, closed, ↓reduceIte]
    exact ⟨trivial, rfl, rfl⟩
  | large sound unexpired exceeds =>
    rw [compress_of_sound sound]
    simp only [Program.run, Program.events, unexpired, ensurePayloadWithin, exceeds, ↓reduceIte]
    exact ⟨trivial, rfl, rfl⟩

/-- A request that is admitted asks for the phase and goes on. -/
theorem compress_admitted
    (admitted : Admitted maxBytes documentId (Request.compress ⟨documentId⟩ config).render
      (handle (.inl .phase) state).1) :
    let payload := (Request.compress ⟨documentId⟩ config).render
    let checked := handle (.inl .phase) state
    (compress maxBytes documentId config).run handle state =
        (perform payload).run handle checked.2 ∧
      entries ((compress maxBytes documentId config).events handle state) =
        entries ((perform payload).events handle checked.2) ∧
      reports ((compress maxBytes documentId config).events handle state) =
        reports ((perform payload).events handle checked.2) := by
  obtain ⟨sound, unexpired, fits⟩ := admitted
  rw [compress_of_sound sound]
  simp only [Program.run, Program.events, unexpired, ensurePayloadWithin, Nat.not_lt.mpr fits,
    ↓reduceIte]
  exact ⟨trivial, rfl, rfl⟩

/-! ### What follows -/

/-- Bringing in the statistics never fails. They are asked for once, and what comes is handed to
the worker. -/
theorem refreshStats_brings (handle : Surroundings.Handler σ) (state : σ) :
    let pulled := (Client.fetch Stats.record.codec .getStats).run (handleRight handle) state
    (refreshStats.run handle state).1 = .ok () ∧
      entries (refreshStats.events handle state) = [⟨.getStats, "", none⟩] ∧
      reports (refreshStats.events handle state) = pulled.1.toOption.toList.map .stats := by
  intro pulled
  obtain ⟨entered, unreported⟩ := events_sendFor handle state Stats.record.codec .getStats ""
  have ran : (atEngine (Client.sendFor Stats.record.codec .getStats "" none)).run handle state =
      pulled := run_atEngine handle state _
  simp only [refreshStats, Client.fetch, Program.run_bind, Program.events_bind, entries_append,
    reports_append, ran, entered, unreported]
  cases pulled.1 with
  | error error => exact ⟨rfl, rfl, rfl⟩
  | ok stats => exact ⟨rfl, rfl, rfl⟩

/-- What becomes of a request to the engine, by what comes back for it and then for the
statistics. -/
structure Performed (payload : String) (outcome : Except ServiceError Summary)
    (pulled : Except ServiceError Stats) (asked : List Invocation) (handed : List CacheUpdate)
    (result : Except ServiceError Summary) : Prop where
  result : result = outcome
  failed : ∀ error, outcome = .error error →
    asked = [⟨.compressDocument, payload, none⟩] ∧ handed = []
  fetched : ∀ summary, outcome = .ok summary →
    asked = [⟨.compressDocument, payload, none⟩, ⟨.getStats, "", none⟩] ∧
      handed = pulled.toOption.toList.map .stats

theorem Performed.entered {payload : String} {outcome result : Except ServiceError Summary}
    {pulled : Except ServiceError Stats} {asked : List Invocation} {handed : List CacheUpdate}
    (performed : Performed payload outcome pulled asked handed result) :
    ∃ entry ∈ asked, entry.call = .compressDocument := by
  refine ⟨⟨.compressDocument, payload, none⟩, ?_, rfl⟩
  cases outcome with
  | error error =>
    rw [(performed.failed error rfl).1]
    exact List.mem_cons_self
  | ok summary =>
    rw [(performed.fetched summary rfl).1]
    exact List.mem_cons_self

theorem performed (handle : Surroundings.Handler σ) (state : σ) (payload : String) :
    let sent := (Client.send .compressDocument payload none).run (handleRight handle) state
    let pulled := (Client.fetch Stats.record.codec .getStats).run (handleRight handle) sent.2
    Performed payload (sent.1.bind (Reply.decode Summary.record.codec)) pulled.1
      (entries ((perform payload).events handle state))
      (reports ((perform payload).events handle state))
      ((perform payload).run handle state).1 := by
  intro sent pulled
  obtain ⟨entered, unreported⟩ :=
    events_sendFor handle state Summary.record.codec .compressDocument payload
  have ran := run_sendFor handle state Summary.record.codec .compressDocument payload
  obtain ⟨refreshed, askedStats, handed⟩ := refreshStats_brings handle sent.2
  cases answer : sent.1.bind (Reply.decode Summary.record.codec) with
  | error error =>
    obtain ⟨run, events⟩ := andThen_of_error conclude (ran.trans (Prod.ext answer rfl))
    rw [perform, run, events, entered, unreported]
    exact ⟨rfl, fun _ _ => ⟨rfl, rfl⟩, nofun⟩
  | ok summary =>
    obtain ⟨run, events⟩ := andThen_of_ok conclude (ran.trans (Prod.ext answer rfl))
    obtain ⟨runStats, eventsStats⟩ := andThen_pure handle sent.2 refreshStats fun () => summary
    rw [perform, run, events, conclude, runStats, eventsStats, refreshed, entries_append,
      reports_append, entered, unreported, askedStats, handed]
    exact ⟨rfl, nofun, fun _ _ => ⟨rfl, rfl⟩⟩

end

/-! ### What the worker comes to know -/

/-- Answers while other things happen to the coordinator before each of them: what does is for the
engine's side to say, as are the engine's answers. -/
def beside {τ : Type} (settings : CoordinatorSettings)
    (engine : Engine.Bridge.interface.Handler τ) (aside : τ → List Aside) :
    Surroundings.Handler (List Move × τ)
  | .inl .phase, (moves, rest) =>
    let moves := moves ++ (aside rest).map Subtype.val
    ((Run.of settings moves).coordinator.worker.phase, (moves, rest))
  | .inl (.post update), (moves, rest) =>
    ((), (moves ++ (aside rest).map Subtype.val ++ [.report update], rest))
  | .inr op, (moves, rest) =>
    let (answer, after) := engine op rest
    (answer, (moves ++ (aside rest).map Subtype.val, after))

section

variable {τ α : Type} {settings : CoordinatorSettings}
  {engine : Engine.Bridge.interface.Handler τ} {aside : τ → List Aside}

/-- The reports that come while a request goes on are those that it hands over. -/
theorem reports_beside (action : Program Surroundings α) (state : List Move × τ) :
    let handle := beside settings engine aside
    ∃ later, (action.run handle state).2.1 = state.1 ++ later ∧
      later.filterMap Move.report? = reports (action.events handle state) := by
  intro handle
  induction action generalizing state with
  | done value => exact ⟨[], (List.append_nil _).symm, rfl⟩
  | ask op next ih =>
    obtain ⟨moves, rest⟩ := state
    obtain ⟨later, ran, handed⟩ := ih (handle op (moves, rest)).1 (handle op (moves, rest)).2
    rw [Program.run, ran]
    match op with
    | .inl .phase =>
      refine ⟨(aside rest).map Subtype.val ++ later, List.append_assoc .., ?_⟩
      rw [List.filterMap_append, report?_of_aside, handed]
      rfl
    | .inl (.post update) =>
      refine ⟨(aside rest).map Subtype.val ++ ([.report update] ++ later), ?_, ?_⟩
      · simp only [handle, beside, List.append_assoc]
      · rw [List.filterMap_append, report?_of_aside, List.filterMap_append, handed]
        rfl
    | .inr op =>
      refine ⟨(aside rest).map Subtype.val ++ later, List.append_assoc .., ?_⟩
      rw [List.filterMap_append, report?_of_aside, handed]
      rfl

/-- A request to compress a document is passed on to the engine exactly if the document's name has
no fault, the phase at that time is not the one after expiry, and the request is at most so many
bytes. Otherwise the engine is not asked at all and the error is that of the first check that fails,
with the size and the limit if it is the last one. The result of one that is passed on is that of
its reply, whatever happens afterwards. The statistics are asked for once if the reply was a
summary, and else not; if they come they are handed to the worker, else nothing is.

Whatever else happens to the coordinator before, meanwhile and later, as long as the worker runs:
what it will know, once it has taken the reports that wait, differs from what it would have known
by these statistics if they came, and not at all if they did not. -/
theorem compress_passes_checks (maxBytes : Nat) (documentId : String) (config : Option Config) :
    let request := compress maxBytes documentId config
    let payload := (Request.compress ⟨documentId⟩ config).render
    (∀ {σ : Type} (handle : Surroundings.Handler σ) (state : σ),
      let phase := (handle (.inl .phase) state).1
      let checked := (handle (.inl .phase) state).2
      let sent := (Client.send .compressDocument payload none).run (handleRight handle) checked
      let pulled := (Client.fetch Stats.record.codec .getStats).run (handleRight handle) sent.2
      let asked := entries (request.events handle state)
      let handed := reports (request.events handle state)
      let result := (request.run handle state).1
      ((∃ entry ∈ asked, entry.call = .compressDocument) ↔
          Admitted maxBytes documentId payload phase) ∧
        (Admitted maxBytes documentId payload phase →
          Performed payload (sent.1.bind (Reply.decode Summary.record.codec)) pulled.1 asked handed
            result) ∧
        (¬Admitted maxBytes documentId payload phase →
          asked = [] ∧ handed = [] ∧
            ∃ error, Withheld maxBytes documentId payload phase error ∧ result = .error error)) ∧
      ∀ {τ : Type} (settings : CoordinatorSettings) (engine : Engine.Bridge.interface.Handler τ)
        (aside : τ → List Aside) (moves : List Move) (start : τ) (later : List Aside),
        let handle := beside settings engine aside
        let handed := reports (request.events handle (moves, start))
        let before := Run.of settings moves
        let after := Run.of settings
          ((request.run handle (moves, start)).2.1 ++ later.map Subtype.val)
        after.coordinator.life = .running →
          (handed = [] → after.coordinator.informed = before.coordinator.informed) ∧
            ∀ stats, handed = [.stats stats] →
              after.coordinator.informed =
                { before.coordinator.informed with compressionStats := some stats } := by
  intro request payload
  constructor
  · intro σ handle state phase checked sent pulled asked handed result
    by_cases admitted : Admitted maxBytes documentId payload phase
    · obtain ⟨run, entered, reported⟩ := compress_admitted admitted
      have performed := performed handle checked payload
      rw [← run, ← entered, ← reported] at performed
      exact ⟨iff_of_true performed.entered admitted, fun _ => performed, absurd admitted⟩
    · obtain ⟨error, withheld⟩ := withheld_of_not_admitted admitted
      obtain ⟨refused, unasked, unreported⟩ := compress_withheld withheld
      refine ⟨iff_of_false ?_ admitted, fun passed => absurd passed admitted,
        fun _ => ⟨unasked, unreported, error, withheld, refused⟩⟩
      rintro ⟨entry, member, _⟩
      rw [show asked = [] from unasked] at member
      cases member
  · intro τ settings engine aside moves start later handle handed before after running
    obtain ⟨came, ran, same⟩ : ∃ came, (request.run handle (moves, start)).2.1 = moves ++ came ∧
      came.filterMap Move.report? = handed := reports_beside request (moves, start)
    have all : (came ++ later.map Subtype.val).filterMap Move.report? = handed := by
      rw [List.filterMap_append, report?_of_aside, List.append_nil, same]
    have informed : after.coordinator.informed =
        handed.foldl StatusCache.apply before.coordinator.informed := by
      simp only [after, ran, List.append_assoc] at running ⊢
      rw [Run.informed_append running, all]
    rw [informed]
    refine ⟨fun nothing => ?_, fun stats one => ?_⟩
    · rw [nothing]
      rfl
    · rw [one]
      rfl

end

end BackgroundWork.Compression.Documents
