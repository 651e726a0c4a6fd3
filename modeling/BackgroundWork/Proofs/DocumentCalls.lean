import BackgroundWork.Compression.Documents
import BackgroundWork.Proofs.ClientRuns

set_option autoImplicit false

/-!
Requests about documents under a handler. What a request asks of the engine and what it hands to
the worker are read off its events, part by part.
-/

namespace BackgroundWork

/-! ### Programs part by part -/

namespace Program

variable {I J : Interface} {α β σ : Type}

/-- The part of a handler that answers the operations of the second interface. -/
def handleRight (handle : (I.sum J).Handler σ) : J.Handler σ :=
  fun op => handle (.inr op)

theorem events_bind (handle : I.Handler σ) (program : Program I α) (after : α → Program I β)
    (state : σ) :
    (program.bind after).events handle state =
      program.events handle state ++
        (after (program.run handle state).1).events handle (program.run handle state).2 := by
  induction program generalizing state with
  | done value => rfl
  | ask op next ih => exact congrArg (⟨op, (handle op state).1⟩ :: ·) (ih _ _)

theorem run_inRight (handle : (I.sum J).Handler σ) (program : Program J α) (state : σ) :
    (program.inRight : Program (I.sum J) α).run handle state =
      program.run (handleRight handle) state := by
  induction program generalizing state with
  | done value => rfl
  | ask op next ih => exact ih _ _

theorem events_inRight (handle : (I.sum J).Handler σ) (program : Program J α) (state : σ) :
    (program.inRight : Program (I.sum J) α).events handle state =
      (program.events (handleRight handle) state).map Interface.Event.inRight := by
  induction program generalizing state with
  | done value => rfl
  | ask op next ih => exact congrArg (⟨.inr op, (handle (.inr op) state).1⟩ :: ·) (ih _ _)

end Program

namespace Engine.Client

variable {α σ : Type} {handle : Bridge.interface.Handler σ} {state : σ} {call : Call}
  {payload : String} {token : Option String}

theorem entries_send :
    ((send call payload token).events handle state).filterMap (fun event => invocation? event.op) =
      [⟨call, payload, token⟩] :=
  (goes_send (Program.goes_run handle _ state)).entries

theorem entries_sendFor (codec : Json.Codec α) :
    ((sendFor codec call payload token).events handle state).filterMap
        (fun event => invocation? event.op) = [⟨call, payload, token⟩] :=
  Calling.entries (goes_classified (Program.goes_run handle _ state))

theorem run_sendFor (codec : Json.Codec α) :
    (sendFor codec call payload token).run handle state =
      (((send call payload token).run handle state).1.bind (Reply.decode codec),
        ((send call payload token).run handle state).2) := by
  refine (Program.run_bind handle (send call payload token) _ state).trans ?_
  cases ((send call payload token).run handle state).1 with
  | error error => rfl
  | ok reply => rfl

end Engine.Client

namespace Compression.Documents

open Engine (Invocation invocation?)
open Program (handleRight events_bind events_inRight run_bind run_inRight)

/-- What requests ask of the worker's side and the engine, with the answers. -/
abbrev Surroundings := coordination.sum Engine.Bridge.interface

/-! ### What a request does -/

/-- The entry into the engine that an operation is, if it is one. -/
def entered? : Surroundings.Op → Option Invocation
  | .inl _ => none
  | .inr op => invocation? op

/-- The report that an operation hands to the worker, if it does. -/
def reported? : Surroundings.Op → Option CacheUpdate
  | .inl (.post update) => some update
  | .inl .phase | .inr _ => none

/-- The entries into the engine among what was asked for. -/
def entries (events : List Surroundings.Event) : List Invocation :=
  events.filterMap fun event => entered? event.op

/-- The reports that were handed to the worker among what was asked for. -/
def reports (events : List Surroundings.Event) : List CacheUpdate :=
  events.filterMap fun event => reported? event.op

section

variable {α β σ : Type} {handle : Surroundings.Handler σ} {state : σ}

theorem entries_append (first later : List Surroundings.Event) :
    entries (first ++ later) = entries first ++ entries later :=
  List.filterMap_append

theorem reports_append (first later : List Surroundings.Event) :
    reports (first ++ later) = reports first ++ reports later :=
  List.filterMap_append

theorem entries_inRight (events : List Engine.Bridge.interface.Event) :
    entries (events.map Interface.Event.inRight) =
      events.filterMap fun event => invocation? event.op :=
  List.filterMap_map

theorem reports_inRight (events : List Engine.Bridge.interface.Event) :
    reports (events.map Interface.Event.inRight) = [] := by
  rw [reports, List.filterMap_map]
  exact List.filterMap_eq_nil_iff.mpr fun _ _ => rfl

theorem events_atEngine (handle : Surroundings.Handler σ) (state : σ)
    (program : Program Engine.Bridge.interface (Except ServiceError α)) :
    entries ((atEngine program).events handle state) =
        (program.events (handleRight handle) state).filterMap (fun event => invocation? event.op) ∧
      reports ((atEngine program).events handle state) = [] := by
  have lifted : (atEngine program).events handle state = _ := events_inRight handle program state
  rw [lifted]
  exact ⟨entries_inRight _, reports_inRight _⟩

theorem run_atEngine (handle : Surroundings.Handler σ) (state : σ)
    (program : Program Engine.Bridge.interface (Except ServiceError α)) :
    (atEngine program).run handle state = program.run (handleRight handle) state :=
  run_inRight handle program state

/-- A part that only sends a request enters the engine with it and hands nothing over. -/
theorem events_sendFor (handle : Surroundings.Handler σ) (state : σ) (codec : Json.Codec α)
    (call : Engine.Call) (payload : String) :
    let sending := atEngine (Engine.Client.sendFor codec call payload none)
    entries (sending.events handle state) = [⟨call, payload, none⟩] ∧
      reports (sending.events handle state) = [] := by
  obtain ⟨asked, unreported⟩ := events_atEngine handle state
    (Engine.Client.sendFor codec call payload none)
  exact ⟨asked.trans (Engine.Client.entries_sendFor codec), unreported⟩

theorem run_sendFor (handle : Surroundings.Handler σ) (state : σ) (codec : Json.Codec α)
    (call : Engine.Call) (payload : String) :
    let sent := (Engine.Client.send call payload none).run (handleRight handle) state
    (atEngine (Engine.Client.sendFor codec call payload none)).run handle state =
      (sent.1.bind (Engine.Reply.decode codec), sent.2) :=
  (run_atEngine handle state _).trans (Engine.Client.run_sendFor codec)

/-- After a part that succeeded the rest is done. -/
theorem andThen_of_ok {action : Action α} (next : α → Action β) {value : α} {after : σ}
    (succeeded : action.run handle state = (.ok value, after)) :
    (action.andThen next).run handle state = (next value).run handle after ∧
      (action.andThen next).events handle state =
        action.events handle state ++ (next value).events handle after := by
  constructor
  · exact (run_bind ..).trans (by rw [succeeded])
  · exact (events_bind ..).trans (by rw [succeeded])

/-- After a part that failed nothing is done. -/
theorem andThen_of_error {action : Action α} (next : α → Action β) {error : ServiceError}
    {after : σ} (failed : action.run handle state = (.error error, after)) :
    (action.andThen next).run handle state = (.error error, after) ∧
      (action.andThen next).events handle state = action.events handle state := by
  constructor
  · exact (run_bind ..).trans (by rw [failed]; rfl)
  · exact (events_bind ..).trans (by rw [failed]; exact List.append_nil _)

/-- A part whose value is only made into another. -/
theorem andThen_pure (handle : Surroundings.Handler σ) (state : σ) (action : Action α)
    (make : α → β) :
    (action.andThen fun value => .done (.ok (make value))).run handle state =
        ((action.run handle state).1.map make, (action.run handle state).2) ∧
      (action.andThen fun value => .done (.ok (make value))).events handle state =
        action.events handle state := by
  generalize ran : action.run handle state = outcome
  obtain ⟨result, after⟩ := outcome
  cases result with
  | error error => exact andThen_of_error _ ran
  | ok value =>
    obtain ⟨run, events⟩ := andThen_of_ok (fun value => .done (.ok (make value))) ran
    exact ⟨run, events.trans (List.append_nil _)⟩

end

end Compression.Documents
end BackgroundWork
