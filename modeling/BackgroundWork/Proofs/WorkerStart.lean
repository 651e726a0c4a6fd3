import BackgroundWork.Proofs.Clients
import BackgroundWork.Proofs.SettingsGrammar

set_option autoImplicit false

/-!
Whether a worker can be started with the settings that were looked up. Its timer is first due one
interval from now, at a reading that the clock must have. An interval that takes the clock beyond
its greatest reading is accepted by the lookup all the same, and costs the worker its life: it has
switched monitoring on and never reports.

Main statement: `start_succeeds_within_clock`.
-/

namespace BackgroundWork

/-- An accepted interval, in milliseconds, takes as many whole seconds as were said. -/
theorem Settings.interval_of_ofLookup {lookup : String → Option String} {settings : Settings}
    (found : ofLookup lookup = .ok settings) :
    ∃ said, Says lookup .telemetryInterval said ∧ 0 < said.getD 30 ∧
      settings.coordinator.telemetryIntervalMs = 1000 * said.getD 30 := by
  obtain ⟨said, each, holds⟩ := ofLookup_eq_ok_iff.1 found
  refine ⟨said .telemetryInterval, each .telemetryInterval, ?_, holds.telemetryInterval⟩
  have states := each .telemetryInterval
  generalize said .telemetryInterval = number at states
  cases states with
  | nothing => decide
  | number _ _ positive _ => exact positive

namespace Compression

/-! ### The timer -/

/-- A timer can be started exactly if it has a period and the clock has a reading one period from
now. -/
theorem Timer.start_eq {period : Nat} (now : Nat) (lasting : 0 < period) :
    Timer.start now period =
      if (now + period) / 1000 ≤ Clock.greatestSecond then .ok ⟨now + period, period⟩
      else .error .overflow := by
  have filled : period ≠ 0 := Nat.ne_of_gt lasting
  unfold Timer.start
  by_cases reached : (now + period) / 1000 ≤ Clock.greatestSecond
  · rw [if_pos reached, if_neg (Nat.not_lt.2 reached), if_neg filled]
  · rw [if_neg reached, if_pos (Nat.lt_of_not_le reached)]

/-! ### The first call -/

section

variable {settings : CoordinatorSettings} {moment : Moment}

/-- A client has a new worker started, and the worker takes its first turn. -/
def Exchange.starting (settings : CoordinatorSettings) (engine : EngineAnswers) (moment : Moment) :
    Exchange :=
  .of settings [.call .start, .proceed 0 engine, .turn moment]

/-- The call to start, once it was answered. -/
def Call.startAnswered (answer : Answer) : Call :=
  ⟨.start, [⟨.inl (.ask .start), answer⟩], .done answer.outcome⟩

/-- The worker's first turn is about the start, and its progress is what the client learns. -/
theorem Exchange.starting_eq (engine : EngineAnswers) {progress : Progress} {answer : Answer}
    (turned : (Coordinator.new settings).handle moment .start (some 0) = progress)
    (answered : progress.answers = [(0, answer)]) :
    (starting settings engine moment).calls = [.startAnswered answer] ∧
      (starting settings engine moment).journal.coordinator = progress.coordinator ∧
      (starting settings engine moment).journal.run.effects = progress.effects := by
  -- Before the turn the command waits and nothing was done.
  let waiting := (Journal.new settings).move (.send 0 .start)
  have moved : starting settings engine moment =
      (Exchange.mk waiting [.new .start]).around (.turn moment) := rfl
  have next : waiting.run.coordinator.turn? moment = some progress := by
    rw [← turned]
    rfl
  have answers : waiting.run.answers (.turn moment) = [(0, answer)] := by
    rw [Run.answers, next]
    exact answered
  have run : waiting.run.move (.turn moment) = waiting.run.take moment.window progress := by
    simp only [Run.move, next]
  rw [moved]
  refine ⟨?_, ?_, ?_⟩
  · rw [around, answers]
    rfl
  · exact congrArg Run.coordinator run
  · have effects : waiting.run.effects = [] := rfl
    have done := congrArg Run.effects run
    rw [Run.effects_take, effects, List.nil_append] at done
    exact done

/-- A new worker starts if its timer does. Monitoring is switched on before. -/
theorem Worker.new_start (settings : CoordinatorSettings) (moment : Moment) :
    Worker.new.handle settings moment .start =
      match Timer.start moment.now settings.telemetryIntervalMs with
      | .error fault => .error ⟨fault.message,
          ⟨{ Worker.new with isActive := true, probe := ⟨true⟩ }, [.setMonitoring true]⟩⟩
      | .ok timer => .ok ⟨Worker.new.activated timer, Worker.new.activation⟩ := by
  have inactive : Worker.new.isActive = false := rfl
  exact start_eq inactive

theorem Exchange.starting_of_timer {timer : Timer} (engine : EngineAnswers)
    (timed : Timer.start moment.now settings.telemetryIntervalMs = .ok timer) :
    let exchange := starting settings engine moment
    exchange.calls = [.startAnswered .handled] ∧
      exchange.journal.coordinator.life = .running ∧
      exchange.journal.coordinator.worker = Worker.new.activated timer ∧
      exchange.journal.run.effects = Worker.new.activation := by
  have handled : Worker.new.handle settings moment .start =
      .ok ⟨Worker.new.activated timer, Worker.new.activation⟩ := by
    rw [Worker.new_start, timed]
  have turned : (Coordinator.new settings).handle moment .start (some 0) =
      ⟨{ Coordinator.new settings with worker := Worker.new.activated timer },
        Worker.new.activation, [(0, .handled)]⟩ := by
    simp only [Coordinator.handle, Coordinator.new, handled]
    rfl
  obtain ⟨calls, coordinator, effects⟩ := starting_eq engine turned rfl
  exact ⟨calls, congrArg Coordinator.life coordinator, congrArg Coordinator.worker coordinator,
    effects⟩

theorem Exchange.starting_of_fault {fault : Timer.Fault} (engine : EngineAnswers)
    (timed : Timer.start moment.now settings.telemetryIntervalMs = .error fault) :
    let exchange := starting settings engine moment
    exchange.calls = [.startAnswered .dropped] ∧
      exchange.journal.coordinator.life = .failed (.panicked fault.message) ∧
      exchange.journal.run.effects = [.setMonitoring true] := by
  have crashed : Worker.new.handle settings moment .start =
      .error ⟨fault.message, ⟨{ Worker.new with isActive := true, probe := ⟨true⟩ },
        [.setMonitoring true]⟩⟩ := by
    rw [Worker.new_start, timed]
  have turned : (Coordinator.new settings).handle moment .start (some 0) =
      (Coordinator.new settings).finish (.failed (.panicked fault.message))
        ⟨{ Worker.new with isActive := true, probe := ⟨true⟩ }, [.setMonitoring true]⟩
        [(0, .dropped)] [] := by
    simp only [Coordinator.handle, Coordinator.new, crashed]
    rfl
  have answered : ((Coordinator.new settings).finish (.failed (.panicked fault.message))
      ⟨{ Worker.new with isActive := true, probe := ⟨true⟩ }, [.setMonitoring true]⟩
      [(0, .dropped)] []).answers = [(0, .dropped)] := by
    simp [Coordinator.finish, Coordinator.turnedAway]
  obtain ⟨calls, coordinator, effects⟩ := starting_eq engine turned answered
  exact ⟨calls, congrArg Coordinator.life coordinator, effects⟩

end

/-- A worker with settings that were looked up has queues for commands and pushes, and its interval
is as many seconds as were said. A client that has it started is told so, and the worker is active
with its first report due one interval from now, exactly if the clock has a reading for that time.
Else the worker crashes after it has switched monitoring on, and the client is told that its
request was dropped. -/
theorem start_succeeds_within_clock {lookup : String → Option String} {settings : Settings}
    (found : Settings.ofLookup lookup = .ok settings) (engine : EngineAnswers) (moment : Moment) :
    let exchange := Exchange.starting settings.coordinator engine moment
    let coordinator := exchange.journal.coordinator
    let due := moment.now + settings.coordinator.telemetryIntervalMs
    (∃ said, Settings.Says lookup .telemetryInterval said ∧
      settings.coordinator.telemetryIntervalMs = 1000 * said.getD 30) ∧
    0 < settings.coordinator.commandQueueDepth ∧ 0 < settings.coordinator.publisherQueueDepth ∧
    ((exchange.calls = [⟨.start, [⟨.inl (.ask .start), Answer.handled⟩], .done (.ok ())⟩] ∧
        coordinator.life = .running ∧ coordinator.worker.isActive = true ∧
        coordinator.worker.timer.map (·.due) = some due) ↔
      due / 1000 ≤ Clock.greatestSecond) ∧
    (Clock.greatestSecond < due / 1000 →
      exchange.calls = [⟨.start, [⟨.inl (.ask .start), Answer.dropped⟩],
        .done (.error (.coordinatorUnavailable "worker dropped the request"))⟩] ∧
      coordinator.life = .failed (.panicked "overflow when adding duration to instant") ∧
      exchange.journal.run.effects = [.setMonitoring true]) := by
  intro exchange coordinator due
  obtain ⟨_, _, holds⟩ := Settings.ofLookup_eq_ok_iff.1 found
  have commands : 0 < settings.coordinator.commandQueueDepth := by
    rw [holds.commandQueueDepth]
    decide
  have pushes : 0 < settings.coordinator.publisherQueueDepth := by
    rw [holds.publisherQueueDepth]
    decide
  obtain ⟨said, states, positive, interval⟩ := Settings.interval_of_ofLookup found
  have lasting : 0 < settings.coordinator.telemetryIntervalMs := by omega
  have timed := Timer.start_eq moment.now lasting
  refine ⟨⟨said, states, interval⟩, commands, pushes, ?_⟩
  by_cases reached : due / 1000 ≤ Clock.greatestSecond
  · rw [if_pos reached] at timed
    obtain ⟨calls, life, worker, _⟩ := Exchange.starting_of_timer engine timed
    have active : coordinator.worker.isActive = true := congrArg Worker.isActive worker
    have timer : coordinator.worker.timer.map (·.due) = some due :=
      congrArg (fun worker => worker.timer.map (·.due)) worker
    exact ⟨⟨fun _ => reached, fun _ => ⟨calls, life, active, timer⟩⟩,
      fun beyond => absurd reached (Nat.not_le.2 beyond)⟩
  · rw [if_neg reached] at timed
    obtain ⟨calls, life, effects⟩ := Exchange.starting_of_fault engine timed
    refine ⟨⟨?_, fun within => absurd within reached⟩, fun _ => ⟨calls, life, effects⟩⟩
    rintro ⟨_, running, _⟩
    have failed : coordinator.life = .failed (.panicked Timer.Fault.overflow.message) := life
    rw [running] at failed
    cases failed

/-- A lookup of nothing but an interval. -/
def intervalOnly (text : String) (key : String) : Option String :=
  if key = "ORCHESTRATOR_TELEMETRY_INTERVAL_SECS" then some text else none

/-- An engine that cannot be entered and has nothing to say. -/
def silentEngine : EngineAnswers
  | .invoke .. => (.error "unreachable" : Except String Engine.RawReply)
  | .read _ => Text.Terminated.cut []
  | .release _ => ()
  | .lastError => (none : Option String)

/-- The longest interval that the clock reaches from its origin. -/
theorem start_succeeds_within_clock_last_reading :
    let settings : Settings :=
      { Settings.default with coordinator.telemetryIntervalMs := 9223372036854775807000 }
    let exchange := Exchange.starting settings.coordinator silentEngine (.calm none)
    Settings.ofLookup (intervalOnly " +9223372036854775807") = .ok settings ∧
      exchange.calls = [⟨.start, [⟨.inl (.ask .start), Answer.handled⟩], .done (.ok ())⟩] ∧
      exchange.journal.coordinator.worker.isActive = true := by
  intro settings exchange
  have found : Settings.ofLookup (intervalOnly " +9223372036854775807") = .ok settings := by
    decide +kernel
  obtain ⟨_, _, _, started, _⟩ := start_succeeds_within_clock found silentEngine (.calm none)
  obtain ⟨calls, _, active, _⟩ := started.2 (by decide)
  exact ⟨found, calls, active⟩

/-- The greatest interval that fits its key is accepted, and the worker does not survive being
started with it. -/
theorem greatest_interval_not_started :
    let settings : Settings :=
      { Settings.default with coordinator.telemetryIntervalMs := 18446744073709551615000 }
    let exchange := Exchange.starting settings.coordinator silentEngine (.calm none)
    Settings.ofLookup (intervalOnly "18446744073709551615") = .ok settings ∧
      exchange.calls = [⟨.start, [⟨.inl (.ask .start), Answer.dropped⟩],
        .done (.error (.coordinatorUnavailable "worker dropped the request"))⟩] ∧
      exchange.journal.coordinator.isRunning = false := by
  intro settings exchange
  have found : Settings.ofLookup (intervalOnly "18446744073709551615") = .ok settings := by
    decide +kernel
  have timed : Timer.start (Moment.calm none).now settings.coordinator.telemetryIntervalMs =
      .error .overflow := by
    decide
  obtain ⟨calls, life, _⟩ := Exchange.starting_of_fault silentEngine timed
  refine ⟨found, calls, ?_⟩
  rw [Coordinator.isRunning, life]
  rfl

end Compression
end BackgroundWork
