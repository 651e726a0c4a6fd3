import BackgroundWork.Proofs.Clients

set_option autoImplicit false

/-!
What the clients of the coordinator are told. In every exchange, what a call was told is true of
the worker: an accepted request was taken, a refused one means that the worker has ended, and a
report that was handed over was posted if the worker ran. What waits for the worker was sent by a
call that waits for it, and no call sends twice.
-/

namespace BackgroundWork.Compression.Exchange

open Program (Passes)

/-! ### What calls are told -/

/-- What a call was told is true of the worker. -/
inductive Genuine (journal : Journal) (number : Nat) : Service.Event → Prop
  | accepted {request : CallerRequest} {answer : Answer} {worker : Worker}
      (taken : .command number request.command ∈ journal.taken)
      (reply : Reply worker request.command answer) :
      Genuine journal number ⟨.inl (.ask request), answer⟩
  | lost {request : CallerRequest} {answer : Answer} (lost : answer = .dropped ∨ answer = .refused)
      (ended : journal.coordinator.life ≠ .running) :
      Genuine journal number ⟨.inl (.ask request), answer⟩
  | joined {result : Except ServiceError Unit} (ended : journal.coordinator.life ≠ .running)
      (clean : journal.coordinator.life = .returned → result = .ok ()) :
      Genuine journal number ⟨.inl .join, result⟩
  | phase (phase : Background.BudgetPhase) :
      Genuine journal number ⟨.inr (.inl .phase), phase⟩
  | posted {update : CacheUpdate}
      (posted : journal.coordinator.life = .running → .refreshed update ∈ journal.posted) :
      Genuine journal number ⟨.inr (.inl (.post update)), ()⟩
  | engine (op : Engine.Bridge.Op) (answer : Engine.Bridge.interface.Answer op) :
      Genuine journal number ⟨.inr (.inr op), answer⟩

theorem Genuine.follow {journal after : Journal} {number : Nat} {event : Service.Event}
    (genuine : Genuine journal number event) (follows : journal.Follows after) :
    Genuine after number event := by
  have still : journal.coordinator.life ≠ .running →
      after.coordinator.life = journal.coordinator.life :=
    fun ended => (follows.ended ended).life
  cases genuine with
  | accepted taken reply => exact .accepted (follows.taken.subset taken) reply
  | lost lost ended => exact .lost lost (by rwa [still ended])
  | joined ended clean =>
    have same := still ended
    rw [← same] at ended clean
    exact .joined ended clean
  | phase phase => exact .phase phase
  | posted posted =>
    exact .posted fun running => follows.posted.subset (posted (follows.running running))
  | engine op answer => exact .engine op answer

theorem Serving.genuine {settings : CoordinatorSettings} {journal after : Journal} {number : Nat}
    {op : Service.Op} {answer : Service.Answer op} (accounted : journal.Accounted settings)
    (serving : Serving journal op answer after) : Genuine after number ⟨op, answer⟩ := by
  cases serving with
  | refused request ended => exact .lost (.inr rfl) ended
  | joined joining =>
    have ended : journal.coordinator.life ≠ .running := by
      cases joining with
      | again joined => exact accounted.joined joined
      | returned ended | failed ended =>
        rw [ended]
        nofun
    have still := ((Journal.Follows.move journal .join).ended ended).life
    refine .joined (by rwa [still]) ?_
    intro returned
    cases joining with
    | again | returned => rfl
    | failed failed => cases failed.symm.trans (still.symm.trans returned)
  | phase => exact .phase _
  | posted update =>
    refine .posted ?_
    intro running
    have runs := isRunning_iff.mpr ((Journal.Follows.move journal (.report update)).running running)
    simp [Journal.move, Run.posts, runs]
  | engine op answer => exact .engine op answer

/-- An operation that is answered leaves the requests that wait as they are. -/
theorem Serving.frame {journal after : Journal} {op : Service.Op} {answer : Service.Answer op}
    (serving : Serving journal op answer after) :
    after.sent = journal.sent ∧
      after.coordinator.commands ⊆ journal.coordinator.commands ∧
      after.coordinator.commands.map Prod.fst = journal.coordinator.commands.map Prod.fst := by
  have moved : ∀ next : Compression.Move, journal.run.sends next = [] →
      journal.run.answers next = [] →
      (journal.move next).sent = journal.sent ∧
        (journal.move next).coordinator.commands ⊆ journal.coordinator.commands ∧
        (journal.move next).coordinator.commands.map Prod.fst =
          journal.coordinator.commands.map Prod.fst := by
    intro next unsent quiet
    have recording := journal.recording next
    rw [quiet] at recording
    have same := sent_move_of_not_send unsent
    exact ⟨same, recording.commands same, recording.tickets same⟩
  cases serving with
  | refused | phase | engine => exact ⟨rfl, List.Subset.refl _, rfl⟩
  | joined | posted => exact moved _ rfl rfl

/-- A move sends nothing, or what a call asks for that was not waiting. -/
theorem Exchanging.sends {exchange after : Exchange} (exchanging : Exchanging exchange after) :
    (after.journal.sent = exchange.journal.sent ∧
      after.journal.coordinator.commands ⊆ exchange.journal.coordinator.commands) ∨
      ∃ number call request, exchange.calls[number]? = some call ∧
        call.request? = some request ∧
        number ∉ exchange.journal.coordinator.commands.map Prod.fst ∧
        exchange.journal.coordinator.life = .running ∧
        after = { exchange with journal := exchange.journal.move (.send number request) } := by
  cases exchanging with
  | ignored | called => exact .inl ⟨rfl, List.Subset.refl _⟩
  | sent found asks fresh running => exact .inr ⟨_, _, _, found, asks, fresh, running, rfl⟩
  | answered found asks serving => exact .inl ⟨serving.frame.1, serving.frame.2.1⟩
  | around unsent => exact .inl ⟨unsent, (exchange.journal.recording _).commands unsent⟩

/-- Every call goes as its program says and was told what is true. What waits for the worker was
sent by a call that waits for it, and no call sends twice. -/
structure Orderly (settings : CoordinatorSettings) (exchange : Exchange) : Prop where
  journal : ∃ moves, exchange.journal = .of settings moves
  passes : ∀ call ∈ exchange.calls, Passes call.task.program call.events call.rest
  waiting : ∀ entry ∈ exchange.journal.coordinator.commands, ∃ call request,
    exchange.calls[entry.1]? = some call ∧ call.request? = some request ∧
      entry.2 = request.command
  sent : ∀ number ∈ exchange.journal.sent.map Prod.fst, ∃ call,
    exchange.calls[number]? = some call ∧
      (number ∈ exchange.journal.coordinator.commands.map Prod.fst ∨ call.events ≠ [])
  once : (exchange.journal.sent.map Prod.fst).Nodup
  genuine : ∀ number call, exchange.calls[number]? = some call →
    ∀ event ∈ call.events, Genuine exchange.journal number event

namespace Orderly

variable {settings : CoordinatorSettings} {exchange after : Exchange}

theorem accounted (orderly : Orderly settings exchange) :
    exchange.journal.Accounted settings := by
  obtain ⟨moves, same⟩ := orderly.journal
  rw [same]
  exact Journal.accounted settings moves

theorem clear (orderly : Orderly settings exchange) :
    exchange.journal.coordinator.ClearAtEnd := by
  obtain ⟨moves, same⟩ := orderly.journal
  have sound := Sound.of settings moves
  rw [← Journal.run_of, ← same] at sound
  exact sound.clear

theorem unique (orderly : Orderly settings exchange) :
    (exchange.journal.coordinator.commands.map Prod.fst).Nodup := by
  by_cases running : exchange.journal.coordinator.life = .running
  · obtain ⟨left, sent, waits⟩ := orderly.accounted.sent
    have once := orderly.once
    rw [sent, waits running, List.map_append] at once
    exact (List.nodup_append.mp once).2.1
  · rw [orderly.clear.commands running]
    exact List.nodup_nil

theorem new (settings : CoordinatorSettings) : Orderly settings (.new settings) where
  journal := ⟨[], rfl⟩
  passes := by
    intro call member
    cases member
  waiting := by
    intro entry member
    cases member
  sent := by
    intro number member
    cases member
  once := List.nodup_nil
  genuine := by
    intro number call found
    cases found

theorem journal_of (orderly : Orderly settings exchange) (exchanging : Exchanging exchange after) :
    ∃ moves, after.journal = .of settings moves := by
  have moved : ∀ next, ∃ moves, exchange.journal.move next = .of settings moves := by
    intro next
    obtain ⟨moves, same⟩ := orderly.journal
    rw [same]
    exact ⟨_, Journal.move_of ..⟩
  cases exchanging with
  | ignored | called => exact orderly.journal
  | sent | around => exact moved _
  | answered found asks serving =>
    cases serving with
    | refused | phase | engine => exact orderly.journal
    | joined | posted => exact moved _

theorem passes_of {number : Nat} {call : Call} (orderly : Orderly settings exchange)
    (stems : Stems exchange after number call) :
    Passes call.task.program call.events call.rest := by
  cases stems with
  | made _ task => exact .here _
  | left found => exact orderly.passes call (List.mem_of_getElem? found)
  | answered found asks => exact (orderly.passes _ (List.mem_of_getElem? found)).snoc asks _
  | heard found asks => exact (orderly.passes _ (List.mem_of_getElem? found)).snoc asks _

/-- The answer that the worker gives to a call is true of it. -/
theorem genuine_answer {number : Nat} {call : Call} {request : CallerRequest} {answer : Answer}
    {next : Compression.Move} (orderly : Orderly settings exchange)
    (found : exchange.calls[number]? = some call) (asks : call.request? = some request)
    (given : (number, answer) ∈ exchange.journal.run.answers next) :
    Genuine (exchange.journal.move next) number ⟨.inl (.ask request), answer⟩ := by
  obtain ⟨command, _, _, queued, taken, reply⟩ | ⟨lost, ended⟩ :=
    (exchange.journal.recording next).answered given
  · obtain ⟨caller, other, known, asking, rfl⟩ := orderly.waiting _ queued
    cases found.symm.trans known
    cases asks.symm.trans asking
    refine .accepted ?_ reply
    rw [taken]
    exact List.mem_concat_self
  · exact .lost lost ended

theorem genuine_of {number : Nat} {call : Call} (orderly : Orderly settings exchange)
    (exchanging : Exchanging exchange after) (stems : Stems exchange after number call)
    {event : Service.Event} (member : event ∈ call.events) :
    Genuine after.journal number event := by
  have still : ∀ {before : Call}, exchange.calls[number]? = some before →
      event ∈ before.events → Genuine after.journal number event :=
    fun found earlier => (orderly.genuine number _ found event earlier).follow exchanging.follows
  cases stems with
  | made => cases member
  | left found => exact still found member
  | answered found asks serving =>
    rcases List.mem_append.mp member with earlier | last
    · exact still found earlier
    · cases List.mem_singleton.mp last
      exact serving.genuine orderly.accounted
  | heard found asks given moved =>
    rcases List.mem_append.mp member with earlier | last
    · exact still found earlier
    · cases List.mem_singleton.mp last
      rw [moved]
      exact orderly.genuine_answer found (congrArg asked? asks) given

/-- Nobody who still waits after a move was answered in it. -/
theorem unanswered {number : Nat} {call later : Call} (orderly : Orderly settings exchange)
    (found : exchange.calls[number]? = some call) (stems : Stems exchange after number later)
    (waits : number ∈ exchange.journal.coordinator.commands.map Prod.fst)
    (still : number ∈ after.journal.coordinator.commands.map Prod.fst) : later = call := by
  cases stems with
  | made absent => cases absent.symm.trans found
  | left same =>
    cases found.symm.trans same
    rfl
  | answered same asks serving =>
    obtain ⟨entry, queued, rfl⟩ := List.mem_map.mp waits
    obtain ⟨caller, request, known, asking, _⟩ := orderly.waiting entry queued
    cases same.symm.trans known
    obtain ⟨_, rest, _⟩ := Call.rest_of_request asking
    cases asks.symm.trans rest
    -- Only a worker that has ended answers a request at once, and for that one nobody waits.
    generalize after.journal = journal at serving
    cases serving with
    | refused _ ended =>
      rw [orderly.clear.commands ended] at queued
      cases queued
  | heard same asks given moved unsent =>
    -- Who is answered and who still waits are apart, as nobody waits twice.
    have apart := orderly.unique
    rw [← (exchange.journal.recording _).tickets unsent, ← moved] at apart
    have told := List.mem_map_of_mem (f := Prod.fst) given
    exact absurd rfl ((List.nodup_append.mp apart).2.2 _ told _ still)

theorem waiting_of (orderly : Orderly settings exchange) (exchanging : Exchanging exchange after)
    {entry : Nat × Command} (member : entry ∈ after.journal.coordinator.commands) :
    ∃ call request, after.calls[entry.1]? = some call ∧ call.request? = some request ∧
      entry.2 = request.command := by
  obtain ⟨_, earlier⟩ | ⟨number, call, request, found, asks, _, running, rfl⟩ := exchanging.sends
  · obtain ⟨call, request, found, asks, same⟩ := orderly.waiting entry (earlier member)
    obtain ⟨later, still⟩ := exchanging.found found
    have unchanged := orderly.unanswered found (exchanging.stems still)
      (List.mem_map_of_mem (earlier member)) (List.mem_map_of_mem member)
    rw [unchanged] at still
    exact ⟨call, request, still, asks, same⟩
  · rw [Journal.move_send running] at member
    rcases List.mem_append.mp member with earlier | last
    · exact orderly.waiting entry earlier
    · cases List.mem_singleton.mp last
      exact ⟨call, request, found, asks, rfl⟩

/-- Whoever waits for the worker goes on waiting, or has its answer. -/
theorem stands {number : Nat} {call : Call} (orderly : Orderly settings exchange)
    (exchanging : Exchanging exchange after) (found : exchange.calls[number]? = some call)
    (waits : number ∈ exchange.journal.coordinator.commands.map Prod.fst) :
    ∃ later, after.calls[number]? = some later ∧
      (number ∈ after.journal.coordinator.commands.map Prod.fst ∨ later.events ≠ []) := by
  obtain ⟨later, still⟩ := exchanging.found found
  cases exchanging with
  | ignored | called => exact ⟨later, still, .inl waits⟩
  | sent _ _ _ running =>
    refine ⟨later, still, .inl ?_⟩
    rw [Journal.move_send running, List.map_append]
    exact List.mem_append_left _ waits
  | answered same asks serving =>
    refine ⟨later, still, .inl ?_⟩
    rwa [serving.frame.2.2]
  | @around next unsent =>
    have tickets := (exchange.journal.recording next).tickets unsent
    rw [← tickets] at waits
    rcases List.mem_append.mp waits with told | behind
    · obtain ⟨answer, heard⟩ := heard_around found told
      refine ⟨_, heard, .inr ?_⟩
      rw [tickets] at waits
      obtain ⟨entry, queued, rfl⟩ := List.mem_map.mp waits
      obtain ⟨caller, request, known, asks, _⟩ := orderly.waiting entry queued
      cases found.symm.trans known
      obtain ⟨_, _, goesOn⟩ := Call.rest_of_request asks
      rw [goesOn]
      exact List.append_ne_nil_of_right_ne_nil _ (List.cons_ne_nil _ _)
    · exact ⟨later, still, .inl behind⟩

theorem sent_of (orderly : Orderly settings exchange) (exchanging : Exchanging exchange after)
    {number : Nat} (member : number ∈ after.journal.sent.map Prod.fst) :
    ∃ call, after.calls[number]? = some call ∧
      (number ∈ after.journal.coordinator.commands.map Prod.fst ∨ call.events ≠ []) := by
  have earlier : number ∈ exchange.journal.sent.map Prod.fst →
      ∃ call, after.calls[number]? = some call ∧
        (number ∈ after.journal.coordinator.commands.map Prod.fst ∨ call.events ≠ []) := by
    intro earlier
    obtain ⟨call, found, waits | told⟩ := orderly.sent number earlier
    · exact orderly.stands exchanging found waits
    · obtain ⟨later, still, continues⟩ := exchanging.call found
      refine ⟨later, still, .inr ?_⟩
      intro empty
      have events := continues.events
      rw [empty] at events
      exact told (List.prefix_nil.mp events)
  obtain ⟨unsent, _⟩ | ⟨sender, call, request, found, _, _, running, rfl⟩ := exchanging.sends
  · rw [unsent] at member
    exact earlier member
  · have moved := Journal.move_send running sender request
    rw [moved, List.map_append] at member
    rcases List.mem_append.mp member with before | last
    · exact earlier before
    · cases List.mem_singleton.mp last
      refine ⟨call, found, .inl ?_⟩
      rw [moved, List.map_append]
      exact List.mem_append_right _ (List.mem_singleton.mpr rfl)

theorem once_of (orderly : Orderly settings exchange) (exchanging : Exchanging exchange after) :
    (after.journal.sent.map Prod.fst).Nodup := by
  obtain ⟨unsent, _⟩ | ⟨number, call, request, found, asks, fresh, running, rfl⟩ :=
    exchanging.sends
  · rw [unsent]
    exact orderly.once
  · have unsent : number ∉ exchange.journal.sent.map Prod.fst := by
      intro earlier
      obtain ⟨other, same, stands⟩ := orderly.sent number earlier
      cases found.symm.trans same
      have passes := orderly.passes call (List.mem_of_getElem? found)
      exact stands.elim fresh fun told => told (Call.events_of_request passes asks).1
    rw [Journal.move_send running, List.map_append, List.nodup_append]
    refine ⟨orderly.once, List.nodup_cons.mpr ⟨List.not_mem_nil, List.nodup_nil⟩, ?_⟩
    intro earlier member last new same
    cases List.mem_singleton.mp new
    rw [same] at member
    exact unsent member

theorem move (orderly : Orderly settings exchange) (exchanging : Exchanging exchange after) :
    Orderly settings after where
  journal := orderly.journal_of exchanging
  passes call member := by
    obtain ⟨number, found⟩ := List.mem_iff_getElem?.mp member
    exact orderly.passes_of (exchanging.stems found)
  waiting _ member := orderly.waiting_of exchanging member
  sent _ member := orderly.sent_of exchanging member
  once := orderly.once_of exchanging
  genuine _ _ found _ member := orderly.genuine_of exchanging (exchanging.stems found) member

theorem moves (orderly : Orderly settings exchange) (later : List Move) :
    Orderly settings (exchange.moves later) :=
  keeps (Orderly settings) orderly move later

theorem of (settings : CoordinatorSettings) (history : List Move) :
    Orderly settings (.of settings history) :=
  (new settings).moves history

end Orderly

end BackgroundWork.Compression.Exchange
