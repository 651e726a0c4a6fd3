import BackgroundWork.Proofs.TurnLedger

set_option autoImplicit false

/-!
The telemetry timer on an ideal clock. The clock passes over a moment only when the worker has
nothing left to do in it, so whatever is due is handled at its time. An activation is what lies
between a start that finds the worker inactive and the stop after it, and it counts its ticks. Each
event leaves the timer set for the next tick of the activation that lasts, whatever came between;
that invariant carries the runs.

Main statement: `Timeline.ticks_once_per_period`.
-/

namespace BackgroundWork.Compression

open Background

/-! ### Activations -/

/-- An event that the worker took, and when. -/
structure Dispatch where
  time : Nat
  event : Event
  deriving DecidableEq

/-- A stretch of time in which the worker is active. -/
structure Activation where
  /-- When the worker took the start that found it inactive. -/
  began : Nat
  /-- When it took ticks since then, in order. -/
  ticks : List Nat
  deriving DecidableEq

namespace Activation

/-- An activation with one more tick. -/
def ticked (activation : Activation) (time : Nat) : Activation :=
  { activation with ticks := activation.ticks ++ [time] }

/-- What an event makes of the activation that lasts, if one does. A start begins one unless one
lasts, and a stop ends it. -/
def follow : Option Activation → Dispatch → Option Activation
  | none, ⟨time, .start⟩ => some ⟨time, []⟩
  | some activation, ⟨time, .telemetryTick⟩ => some (activation.ticked time)
  | _, ⟨_, .stop⟩ => none
  | lasting, _ => lasting

variable (settings : CoordinatorSettings) (activation : Activation)

/-- When the tick of an index is due, counted from zero. -/
def dueTime (index : Nat) : Nat :=
  activation.began + (index + 1) * settings.telemetryIntervalMs

/-- The timer that is set for the next tick. -/
def timer : Timer :=
  ⟨activation.dueTime settings activation.ticks.length, settings.telemetryIntervalMs⟩

/-- Every tick has come at its time, and the next one is not overdue. -/
structure OnTime (now : Nat) : Prop where
  positive : 0 < settings.telemetryIntervalMs
  ticks : activation.ticks =
    (List.range activation.ticks.length).map (activation.dueTime settings)
  began : activation.began ≤ now
  past : ∀ index < activation.ticks.length, activation.dueTime settings index ≤ now
  next : now ≤ activation.dueTime settings activation.ticks.length

variable {settings activation} {now : Nat}

theorem dueTime_succ (index : Nat) :
    activation.dueTime settings (index + 1) =
      activation.dueTime settings index + settings.telemetryIntervalMs := by
  rw [dueTime, dueTime, Nat.succ_mul (index + 1), Nat.add_assoc]

theorem timer_due : (activation.timer settings).due =
    activation.dueTime settings activation.ticks.length := rfl

theorem ticks_ticked (time : Nat) :
    (activation.ticked time).ticks.length = activation.ticks.length + 1 :=
  List.length_append

theorem timer_due_ticked (time : Nat) :
    ((activation.ticked time).timer settings).due =
      (activation.timer settings).due + settings.telemetryIntervalMs := by
  rw [timer_due, timer_due, ticks_ticked]
  exact dueTime_succ _

/-- Handled in time, the timer moves on by its period. -/
theorem timer_next (next : now ≤ activation.dueTime settings activation.ticks.length)
    (time : Nat) :
    (activation.timer settings).next now = (activation.ticked time).timer settings := by
  have punctual : ¬ (activation.timer settings).due + Timer.tolerance < now := by
    rw [timer_due]
    omega
  rw [Timer.next, if_neg punctual]
  exact congrArg (Timer.mk · settings.telemetryIntervalMs)
    (timer_due_ticked time).symm

namespace OnTime

theorem begin (positive : 0 < settings.telemetryIntervalMs) (now : Nat) :
    OnTime settings ⟨now, []⟩ now where
  positive := positive
  ticks := rfl
  began := Nat.le_refl now
  past _ none := absurd none (Nat.not_lt_zero _)
  next := Nat.le_add_right _ _

theorem tick (onTime : activation.OnTime settings now)
    (due : activation.dueTime settings activation.ticks.length ≤ now) :
    (activation.ticked now).OnTime settings now := by
  have exactly : activation.dueTime settings activation.ticks.length = now :=
    Nat.le_antisymm due onTime.next
  refine ⟨onTime.positive, ?_, onTime.began, ?_, ?_⟩
  · rw [ticks_ticked, List.range_succ, List.map_append]
    change activation.ticks ++ [now] =
      (List.range activation.ticks.length).map (activation.dueTime settings) ++
        [activation.dueTime settings activation.ticks.length]
    rw [← onTime.ticks, exactly]
  · intro index counted
    rw [ticks_ticked] at counted
    rcases Nat.lt_succ_iff_lt_or_eq.mp counted with earlier | rfl
    · exact onTime.past index earlier
    · exact due
  · rw [ticks_ticked]
    change now ≤ activation.dueTime settings (activation.ticks.length + 1)
    rw [dueTime_succ, exactly]
    exact Nat.le_add_right _ _

theorem pass (onTime : activation.OnTime settings now)
    (early : now < activation.dueTime settings activation.ticks.length) :
    activation.OnTime settings (now + 1) where
  positive := onTime.positive
  ticks := onTime.ticks
  began := Nat.le_succ_of_le onTime.began
  past index counted := Nat.le_succ_of_le (onTime.past index counted)
  next := early

end OnTime
end Activation

/-! ### The timer of the worker -/

/-- What handling an event does to the activity of a worker and its timer. -/
inductive Timing (settings : CoordinatorSettings) (now : Nat) (worker after : Worker) :
    Event → Prop
  | begun {timer : Timer} (inactive : worker.isActive = false)
      (timed : Timer.start now settings.telemetryIntervalMs = .ok timer)
      (active : after.isActive = true) (set : after.timer = some timer) :
      Timing settings now worker after .start
  | ended (inactive : after.isActive = false) (cleared : after.timer = none) :
      Timing settings now worker after .stop
  | kept {event : Event} (started : event = .start → worker.isActive = true)
      (stopped : event = .stop → worker.isActive = false)
      (active : after.isActive = worker.isActive) (timer : after.timer = worker.timer) :
      Timing settings now worker after event

section

variable {settings : CoordinatorSettings} {moment : Moment} {worker after : Worker}
  {event : Event} {effects : List Effect} {now : Nat} {lasting : Option Activation}

theorem Handling.timing (handling : Handling settings moment worker event after effects) :
    Timing settings moment.now worker after event := by
  cases handling with
  | startedAgain active => exact .kept (fun _ => active) nofun rfl rfl
  | startedInFront inactive front timed => exact .begun inactive timed rfl rfl
  | startedBehind inactive behind timed read opening =>
    rw [opening.frame]
    exact .begun inactive timed rfl rfl
  | stoppedAgain inactive => exact .kept nofun (fun _ => inactive) rfl rfl
  | stopped active => exact .ended rfl rfl
  | wentBehind active read opening =>
    rw [opening.frame]
    exact .kept nofun nofun rfl rfl
  | reported due active read =>
    rcases due with rfl | rfl <;> exact .kept nofun nofun rfl rfl
  | placed | cameBack | warned | tickedInactive | expired | stale | refreshed =>
    exact .kept nofun nofun rfl rfl

theorem of_timer_start {timer : Timer}
    (timed : Timer.start now settings.telemetryIntervalMs = .ok timer) :
    0 < settings.telemetryIntervalMs ∧ timer = Activation.timer settings ⟨now, []⟩ := by
  unfold Timer.start at timed
  split at timed
  · cases timed
  · split at timed
    · cases timed
    · rename_i nonzero
      obtain rfl := Except.ok.inj timed
      refine ⟨Nat.pos_of_ne_zero nonzero, ?_⟩
      simp [Activation.timer, Activation.dueTime]

/-- A worker is active during an activation only, and then its timer is set for the next tick. -/
structure Worker.OnSchedule (settings : CoordinatorSettings) (now : Nat)
    (lasting : Option Activation) (worker : Worker) : Prop where
  active : worker.isActive = lasting.isSome
  timer : worker.timer = lasting.map (Activation.timer settings)
  onTime : ∀ activation, lasting = some activation → activation.OnTime settings now

/-- A tick leaves it to the timer when the next one is due. -/
theorem Timing.of_tick (timing : Timing settings now worker after .telemetryTick) :
    after.isActive = worker.isActive ∧ after.timer = worker.timer := by
  cases timing with
  | kept started stopped active timer => exact ⟨active, timer⟩

namespace Worker.OnSchedule

theorem kept (onSchedule : worker.OnSchedule settings now lasting)
    (active : after.isActive = worker.isActive) (timer : after.timer = worker.timer) :
    after.OnSchedule settings now lasting :=
  ⟨active.trans onSchedule.active, timer.trans onSchedule.timer, onSchedule.onTime⟩

/-- The schedule is kept by every event but a tick, for which the timer has moved on before. -/
theorem handle (onSchedule : worker.OnSchedule settings now lasting)
    (timing : Timing settings now worker after event) (other : event ≠ .telemetryTick) :
    after.OnSchedule settings now (Activation.follow lasting ⟨now, event⟩) := by
  have active := onSchedule.active
  cases timing with
  | begun inactive timed begun set =>
    obtain ⟨positive, rfl⟩ := of_timer_start timed
    cases lasting with
    | some activation => cases inactive.symm.trans active
    | none =>
      refine ⟨begun, set, fun activation same => ?_⟩
      obtain rfl := Option.some.inj same
      exact .begin positive now
  | ended inactive cleared =>
    have closed : Activation.follow lasting ⟨now, .stop⟩ = none := by cases lasting <;> rfl
    rw [closed]
    exact ⟨inactive, cleared, nofun⟩
  | kept started stopped stillActive stillTimed =>
    have same : Activation.follow lasting ⟨now, event⟩ = lasting := by
      cases lasting with
      | none =>
        cases event with
        | start => cases (started rfl).symm.trans active
        | _ => rfl
      | some activation =>
        cases event with
        | stop => cases (stopped rfl).symm.trans active
        | telemetryTick => exact absurd rfl other
        | _ => rfl
    rw [same]
    exact onSchedule.kept stillActive stillTimed

/-- A tick is taken when it is due, and moves the timer on. -/
theorem tick {timer : Timer} (onSchedule : worker.OnSchedule settings now lasting)
    (timed : worker.timer = some timer) (due : timer.due ≤ now) :
    ∃ activation, lasting = some activation ∧
      now = activation.dueTime settings activation.ticks.length ∧
      OnSchedule settings now (Activation.follow lasting ⟨now, .telemetryTick⟩)
        { worker with timer := some (timer.next now) } := by
  obtain ⟨active, set, onTime⟩ := onSchedule
  cases lasting with
  | none => cases timed.symm.trans set
  | some activation =>
    have waits : timer = activation.timer settings := Option.some.inj (timed.symm.trans set)
    subst waits
    have punctual := onTime activation rfl
    refine ⟨activation, rfl, Nat.le_antisymm punctual.next due, active, ?_, ?_⟩
    · rw [Activation.timer_next punctual.next now]
      rfl
    · intro later same
      obtain rfl := Option.some.inj same
      exact punctual.tick due

theorem pass (onSchedule : worker.OnSchedule settings now lasting)
    (early : ∀ timer, worker.timer = some timer → now < timer.due) :
    worker.OnSchedule settings (now + 1) lasting := by
  refine ⟨onSchedule.active, onSchedule.timer, fun activation lasts => ?_⟩
  have set : worker.timer = some (activation.timer settings) := by
    rw [onSchedule.timer, lasts]
    rfl
  exact (onSchedule.onTime activation lasts).pass (early _ set)

end Worker.OnSchedule
end

/-- A move in which nothing is taken leaves the worker as it is, or ends it. -/
theorem Journal.still_of_untaken {journal : Journal} {next : Move}
    (untaken : journal.run.takes next = []) :
    ((journal.move next).coordinator.worker = journal.coordinator.worker ∧
        (journal.move next).coordinator.life = journal.coordinator.life) ∨
      (journal.move next).coordinator.life ≠ .running := by
  have taken : (journal.move next).taken = journal.taken := by
    rw [Journal.move, untaken, List.append_nil]
  have recording := journal.recording next
  generalize journal.move next = after, journal.run.answers next = answers at recording taken ⊢
  cases recording with
  | unmoved unmoved =>
    refine .inl ⟨?_, unmoved.life⟩
    rw [unmoved.coordinator]
  | posted | sent => exact .inl ⟨rfl, rfl⟩
  | turned => simp at taken
  | cancelled running =>
    have cancelled : journal.coordinator.cancel = _ := if_pos (isRunning_iff.mpr running)
    refine .inr ?_
    change journal.coordinator.cancel.coordinator.life ≠ .running
    rw [cancelled]
    exact Life.noConfusion

/-- Nobody but the timer sends a tick. -/
theorem untold_of_moving {before after : Run} (moving : Moving before after)
    (untold : .telemetryTick ∉ before.coordinator.internal) :
    .telemetryTick ∉ after.coordinator.internal := by
  cases moving with
  | ignored | sent | closed | joined => exact untold
  | reported | announced =>
    intro member
    rcases mem_post member with earlier | same
    · exact untold earlier
    · cases same
  | turned running turning => exact fun member => untold (turning.waiting.1 member)
  | cancelled => exact fun member => untold ((cancel_frame _).2.1 member)

/-! ### Runs on an ideal clock -/

/-- A move that finds the given reading of the clock. -/
def Move.timed (now : Nat) : Move → Move
  | .turn moment => .turn { moment with now }
  | next => next

/-- What happens on an ideal clock. -/
inductive Beat where
  /-- A move at the time that it is. -/
  | move (next : Move)
  /-- A millisecond goes by. -/
  | pass

/-- A journal with an ideal clock and the events that the worker took, in order. -/
structure Timeline where
  journal : Journal
  /-- The clock, in milliseconds. -/
  now : Nat
  dispatched : List Dispatch

namespace Timeline

/-- A timeline at first, from any reading of the clock on. -/
def new (settings : CoordinatorSettings) (origin : Nat) : Timeline := ⟨.new settings, origin, []⟩

/-- The worker of a timeline, with what waits for it. -/
abbrev coordinator (timeline : Timeline) : Coordinator := timeline.journal.coordinator

/-- Whether the worker has nothing left to do at the time that it is. -/
def isIdle (timeline : Timeline) : Bool :=
  (timeline.coordinator.item? timeline.now).isNone

/-- The events that the worker takes in a move. -/
def dispatches (timeline : Timeline) (next : Move) : List Dispatch :=
  ((timeline.journal.run.takes (next.timed timeline.now)).filterMap Item.event?).map
    (⟨timeline.now, ·⟩)

/-- A beat. Time goes by only while the worker has nothing left to do. -/
def beat (timeline : Timeline) : Beat → Timeline
  | .move next =>
    { timeline with
      journal := timeline.journal.move (next.timed timeline.now)
      dispatched := timeline.dispatched ++ timeline.dispatches next }
  | .pass => if timeline.isIdle then { timeline with now := timeline.now + 1 } else timeline

/-- A timeline after more beats. -/
def beats (timeline : Timeline) (later : List Beat) : Timeline :=
  later.foldl beat timeline

/-- The timeline of beats. -/
def of (settings : CoordinatorSettings) (origin : Nat) (history : List Beat) : Timeline :=
  (new settings origin).beats history

/-- The activation that lasts, if one does. -/
def activation? (timeline : Timeline) : Option Activation :=
  timeline.dispatched.foldl Activation.follow none

variable {settings : CoordinatorSettings} {timeline after : Timeline}

theorem beats_append (timeline : Timeline) (first second : List Beat) :
    timeline.beats (first ++ second) = (timeline.beats first).beats second :=
  List.foldl_append

theorem beats_cons (timeline : Timeline) (next : Beat) (later : List Beat) :
    timeline.beats (next :: later) = (timeline.beat next).beats later := rfl

/-- Whoever has ended has nothing to do. -/
theorem isIdle_of_ended (ended : timeline.coordinator.life ≠ .running) :
    timeline.isIdle = true := by
  have gone : ¬ timeline.coordinator.isRunning = true := mt isRunning_iff.mp ended
  simp only [isIdle, Coordinator.item?, if_neg gone, Option.isNone_none]

/-- With nothing left to do, the timer is set for later. -/
theorem early_of_idle (running : timeline.coordinator.life = .running)
    (idle : timeline.isIdle = true) :
    ∀ timer, timeline.coordinator.worker.timer = some timer → timeline.now < timer.due := by
  intro timer timed
  have runs : timeline.coordinator.isRunning = true := isRunning_iff.mpr running
  rw [isIdle, Coordinator.item?, if_pos runs] at idle
  split at idle
  · cases idle
  · cases idle
  · split at idle
    · simp only [Coordinator.tick?, timed] at idle
      by_cases due : timer.isDue timeline.now = true
      · rw [if_pos due] at idle
        cases idle
      · simpa [Timer.isDue] using due
    · cases idle

/-- A tick is taken of a timer that is due, and only while somebody could send a command. -/
theorem due_of_tick (taken : timeline.coordinator.item? timeline.now = some .tick) :
    timeline.coordinator.isOpen = true ∧
      ∀ timer, timeline.coordinator.worker.timer = some timer → timer.due ≤ timeline.now := by
  unfold Coordinator.item? at taken
  split at taken
  · split at taken
    · cases taken
    · cases taken
    · split at taken
      · rename_i isOpen
        refine ⟨isOpen, fun timer timed => ?_⟩
        simp only [Coordinator.tick?, timed] at taken
        by_cases due : timer.isDue timeline.now = true
        · simpa [Timer.isDue] using due
        · rw [if_neg due] at taken
          cases taken
      · cases taken
  · cases taken

/-- A worker to which nothing was sent is done when its timer is set for later. -/
theorem isIdle_of_early (isOpen : timeline.coordinator.isOpen = true)
    (quiet : timeline.coordinator.internal = []) (unasked : timeline.coordinator.commands = [])
    (early : ∀ timer, timeline.coordinator.worker.timer = some timer → timeline.now < timer.due) :
    timeline.isIdle = true := by
  unfold isIdle Coordinator.item?
  by_cases runs : timeline.coordinator.isRunning = true
  · simp only [if_pos runs, quiet, unasked, if_pos isOpen, Coordinator.tick?]
    cases timed : timeline.coordinator.worker.timer with
    | none => rfl
    | some timer =>
      have later : ¬ timer.isDue timeline.now = true := by
        simpa [Timer.isDue] using early timer timed
      simp only [if_neg later]
      rfl
  · rw [if_neg runs]
    rfl

/-! ### What beats come to -/

/-- The worker takes what is there for it. -/
theorem turned_of_item {item : Item} (moment : Moment)
    (taken : timeline.coordinator.item? timeline.now = some item) :
    ∃ rest progress,
      timeline.coordinator.turn? { moment with now := timeline.now } = some progress ∧
        timeline.coordinator.life = .running ∧
        First timeline.now timeline.coordinator item rest ∧
        Dealt { moment with now := timeline.now } rest item progress := by
  cases turned : timeline.coordinator.turn? { moment with now := timeline.now } with
  | none => cases (item?_of_idle turned).symm.trans taken
  | some progress =>
    obtain ⟨running, other, rest, takes, first, dealt⟩ := dealt_of_turn turned
    obtain rfl := Option.some.inj (takes.symm.trans taken)
    exact ⟨rest, progress, rfl, running, first, dealt⟩

/-- What a beat comes to for the worker. -/
inductive Pacing (timeline after : Timeline) : Prop
  | still (now : after.now = timeline.now) (dispatched : after.dispatched = timeline.dispatched)
      (worker : after.coordinator.worker = timeline.coordinator.worker)
      (life : after.coordinator.life = timeline.coordinator.life)
  | ended (ended : after.coordinator.life ≠ .running)
  | handled {moment : Moment} {item : Item} {event : Event} {rest : Coordinator} {turn : Turn}
      (now : after.now = timeline.now)
      (dispatched : after.dispatched = timeline.dispatched ++ [⟨timeline.now, event⟩])
      (running : timeline.coordinator.life = .running)
      (taken : timeline.coordinator.item? timeline.now = some item)
      (found : moment.now = timeline.now)
      (first : First timeline.now timeline.coordinator item rest)
      (due : item.event? = some event)
      (handled : rest.worker.handle rest.settings moment event = .ok turn)
      (worker : after.coordinator.worker = turn.worker)
  | passed (idle : timeline.isIdle = true) (now : after.now = timeline.now + 1)
      (dispatched : after.dispatched = timeline.dispatched)
      (journal : after.journal = timeline.journal)

theorem pacing_of_untaken {next : Move}
    (untaken : timeline.journal.run.takes (next.timed timeline.now) = []) :
    Pacing timeline (timeline.beat (.move next)) := by
  have dispatched : (timeline.beat (.move next)).dispatched = timeline.dispatched := by
    rw [beat, dispatches, untaken]
    exact List.append_nil _
  rcases Journal.still_of_untaken untaken with ⟨worker, life⟩ | ended
  · exact .still rfl dispatched worker life
  · exact .ended ended

/-- A turn at the time that it is, when there is something to take. -/
theorem beat_turn {moment : Moment} {item : Item} {progress : Progress}
    (taken : timeline.coordinator.item? timeline.now = some item)
    (turned : timeline.coordinator.turn? { moment with now := timeline.now } = some progress) :
    (timeline.beat (.move (.turn moment))).coordinator = progress.coordinator ∧
      (timeline.beat (.move (.turn moment))).dispatched =
        timeline.dispatched ++ item.event?.toList.map (⟨timeline.now, ·⟩) := by
  constructor
  · simp only [beat, Timeline.coordinator, Move.timed, Journal.move, Journal.coordinator, Run.move]
    rw [turned]
    rfl
  · have takes : timeline.journal.run.takes (.turn { moment with now := timeline.now }) =
        [item] := congrArg Option.toList taken
    simp only [beat, dispatches, Move.timed, takes]
    cases event : item.event? <;> simp [event]

theorem pacing_of_turn {item : Item} (moment : Moment)
    (taken : timeline.coordinator.item? timeline.now = some item) :
    Pacing timeline (timeline.beat (.move (.turn moment))) := by
  obtain ⟨rest, progress, turned, running, first, dealt⟩ := turned_of_item moment taken
  obtain ⟨coordinator, dispatched⟩ := beat_turn taken turned
  cases dealt with
  | handled due handled =>
    rw [due] at dispatched
    refine .handled rfl dispatched running taken rfl first due handled ?_
    rw [coordinator]
  | crashed | shutDown | left =>
    refine .ended ?_
    rw [coordinator]
    nofun
  | shown ticket =>
    cases first with
    | command quiet waiting =>
      refine .still rfl ?_ ?_ ?_
      · rw [dispatched]
        exact List.append_nil _
      · rw [coordinator]
      · rw [coordinator]

theorem pacing (timeline : Timeline) (next : Beat) : Pacing timeline (timeline.beat next) := by
  cases next with
  | move next =>
    cases next with
    | turn moment =>
      cases taken : timeline.coordinator.item? timeline.now with
      | none => exact pacing_of_untaken (congrArg Option.toList taken)
      | some item => exact pacing_of_turn moment taken
    | send | report | announce | close | cancel | join => exact pacing_of_untaken rfl
  | pass =>
    by_cases idle : timeline.isIdle = true
    · have passed : timeline.beat .pass = { timeline with now := timeline.now + 1 } :=
        if_pos idle
      rw [passed]
      exact .passed idle rfl rfl rfl
    · have stays : timeline.beat .pass = timeline := if_neg idle
      rw [stays]
      exact .still rfl rfl rfl rfl

theorem activation?_of_dispatched {dispatch : Dispatch}
    (dispatched : after.dispatched = timeline.dispatched ++ [dispatch]) :
    after.activation? = Activation.follow timeline.activation? dispatch := by
  rw [activation?, dispatched, List.foldl_append]
  rfl

theorem activation?_of_same (dispatched : after.dispatched = timeline.dispatched) :
    after.activation? = timeline.activation? := by
  rw [activation?, dispatched]
  rfl

theorem moving (timeline : Timeline) (next : Beat) :
    Moving timeline.journal.run (timeline.beat next).journal.run := by
  cases next with
  | move next => exact timeline.journal.run.moving _
  | pass =>
    have same : (timeline.beat .pass).journal = timeline.journal := by
      rw [beat]
      split <;> rfl
    rw [same]
    exact .ignored

/-! ### What holds along a timeline -/

/-- Nobody but the timer ticks, and while the worker runs its timer is on schedule. -/
structure Scheduled (settings : CoordinatorSettings) (timeline : Timeline) : Prop where
  sound : Sound settings timeline.journal.run
  untold : .telemetryTick ∉ timeline.coordinator.internal
  onSchedule : timeline.coordinator.life = .running →
    timeline.coordinator.worker.OnSchedule settings timeline.now timeline.activation?

namespace Scheduled

theorem new (settings : CoordinatorSettings) (origin : Nat) :
    Scheduled settings (.new settings origin) where
  sound := .new settings
  untold := List.not_mem_nil
  onSchedule _ := ⟨rfl, rfl, nofun⟩

/-- What is taken is a tick of the timer, or something else that leaves the timer alone. -/
theorem first {item : Item} {event : Event} {rest : Coordinator}
    (scheduled : Scheduled settings timeline)
    (first : First timeline.now timeline.coordinator item rest)
    (due : item.event? = some event) :
    (rest.worker = timeline.coordinator.worker ∧ event ≠ .telemetryTick) ∨
      item = .tick ∧ event = .telemetryTick ∧
        ∃ timer, timeline.coordinator.worker.timer = some timer ∧
          rest.worker =
            { timeline.coordinator.worker with timer := some (timer.next timeline.now) } := by
  cases first with
  | internal waiting =>
    obtain rfl := Option.some.inj due
    refine .inl ⟨rfl, fun tick => scheduled.untold ?_⟩
    rw [waiting, tick]
    exact List.mem_cons_self
  | @command ticket command others quiet waiting =>
    refine .inl ⟨rfl, ?_⟩
    have queued : (ticket, command) ∈ timeline.coordinator.commands := by
      rw [waiting]
      exact List.mem_cons_self
    obtain ⟨request, sent⟩ := scheduled.sound.requested _ queued
    dsimp only at sent
    subst sent
    cases request <;> cases due <;> nofun
  | tick quiet idle timed =>
    obtain rfl := Option.some.inj due
    exact .inr ⟨rfl, rfl, _, timed, rfl⟩
  | leave => cases due

/-- A tick is taken at the time of the timer. -/
theorem tick {timer : Timer} (scheduled : Scheduled settings timeline)
    (taken : timeline.coordinator.item? timeline.now = some .tick)
    (timed : timeline.coordinator.worker.timer = some timer) :
    ∃ activation, timeline.activation? = some activation ∧
      timeline.now = activation.dueTime settings activation.ticks.length ∧
      Worker.OnSchedule settings timeline.now
        (Activation.follow timeline.activation? ⟨timeline.now, .telemetryTick⟩)
        { timeline.coordinator.worker with timer := some (timer.next timeline.now) } := by
  obtain ⟨_, _, _, running, _, _⟩ := turned_of_item (.calm none) taken
  exact (scheduled.onSchedule running).tick timed ((due_of_tick taken).2 timer timed)

theorem beat (scheduled : Scheduled settings timeline) (next : Beat) :
    Scheduled settings (timeline.beat next) := by
  have moving := timeline.moving next
  refine ⟨scheduled.sound.move moving, untold_of_moving moving scheduled.untold, ?_⟩
  intro running
  have pacing := timeline.pacing next
  generalize timeline.beat next = after at running pacing
  cases pacing with
  | still now dispatched worker life =>
    rw [now, worker, activation?_of_same dispatched]
    exact scheduled.onSchedule (life.symm.trans running)
  | ended ended => exact absurd running ended
  | handled now dispatched runs taken found first due handled worker =>
    have configured := first.frame.1.trans scheduled.sound.configured
    have timing := (handling_of_ok handled).timing
    rw [configured, found] at timing
    rw [now, worker, activation?_of_dispatched dispatched]
    rcases scheduled.first first due with ⟨same, other⟩ | ⟨rfl, rfl, timer, timed, moved⟩
    · rw [same] at timing
      exact (scheduled.onSchedule runs).handle timing other
    · -- The timer has moved on before the tick is handled, and handling it leaves the timer alone.
      rw [moved] at timing
      obtain ⟨activation, _, _, onSchedule⟩ := scheduled.tick taken timed
      exact onSchedule.kept timing.of_tick.1 timing.of_tick.2
  | passed idle now dispatched journal =>
    have same : after.coordinator = timeline.coordinator := congrArg Journal.coordinator journal
    rw [same] at running ⊢
    rw [now, activation?_of_same dispatched]
    exact (scheduled.onSchedule running).pass (early_of_idle running idle)

theorem beats (scheduled : Scheduled settings timeline) (later : List Beat) :
    Scheduled settings (timeline.beats later) := by
  induction later generalizing timeline with
  | nil => exact scheduled
  | cons next later ih => exact ih (scheduled.beat next)

end Scheduled

theorem scheduled (settings : CoordinatorSettings) (origin : Nat) (history : List Beat) :
    Scheduled settings (.of settings origin history) :=
  (Scheduled.new settings origin).beats history

/-! ### The clock goes on -/

/-- Once a tick was taken the next one is due later. -/
theorem Scheduled.early_after_tick (scheduled : Scheduled settings timeline) (moment : Moment)
    (taken : timeline.coordinator.item? timeline.now = some .tick)
    (runs : (timeline.beat (.move (.turn moment))).coordinator.life = .running) :
    ∀ timer, (timeline.beat (.move (.turn moment))).coordinator.worker.timer = some timer →
      timeline.now < timer.due := by
  intro timer timed
  obtain ⟨rest, progress, turned, running, first, _⟩ := turned_of_item moment taken
  obtain ⟨_, dispatched⟩ := beat_turn taken turned
  cases first with
  | tick quiet idle set =>
    obtain ⟨activation, lasts, exactly, _⟩ := scheduled.tick taken set
    have set := ((scheduled.beat (.move (.turn moment))).onSchedule runs).timer
    rw [activation?_of_dispatched dispatched, lasts] at set
    obtain rfl := Option.some.inj (timed.symm.trans set)
    have positive := ((scheduled.onSchedule running).onTime activation lasts).positive
    change timeline.now < ((activation.ticked timeline.now).timer settings).due
    rw [Activation.timer_due_ticked, Activation.timer_due, ← exactly]
    exact Nat.lt_add_of_pos_right positive

/-- After a turn less waits for the worker, or it has nothing left to do. -/
theorem Scheduled.wanes {item : Item} (scheduled : Scheduled settings timeline)
    (moment : Moment) (taken : timeline.coordinator.item? timeline.now = some item) :
    (timeline.beat (.move (.turn moment))).isIdle = true ∨
      (timeline.beat (.move (.turn moment))).coordinator.internal.length +
          (timeline.beat (.move (.turn moment))).coordinator.commands.length <
        timeline.coordinator.internal.length + timeline.coordinator.commands.length := by
  obtain ⟨rest, progress, turned, _, first, dealt⟩ := turned_of_item moment taken
  have same := (beat_turn taken turned).1
  by_cases runs : (timeline.beat (.move (.turn moment))).coordinator.life = .running
  · obtain ⟨internal, commands⟩ := dealt.waiting (by rwa [same] at runs)
    rw [← same] at internal commands
    cases first with
    | internal waiting =>
      right
      rw [internal, commands, waiting]
      exact Nat.add_lt_add_right (Nat.lt_succ_self _) _
    | command quiet waiting =>
      right
      rw [internal, commands, waiting]
      exact Nat.add_lt_add_left (Nat.lt_succ_self _) _
    | tick quiet idle timed =>
      left
      have early := scheduled.early_after_tick moment taken runs
      have isOpen : progress.coordinator.isOpen = true := by
        cases dealt with
        | handled => exact (due_of_tick taken).1
        | crashed =>
          rw [same] at runs
          cases runs
      refine isIdle_of_early ?_ (internal.trans quiet) (commands.trans idle) early
      rw [same]
      exact isOpen
    | leave =>
      rw [same] at runs
      cases dealt with
      | handled due | crashed due => cases due
      | left => cases runs
  · exact .inl (isIdle_of_ended runs)

/-- Turn by turn, the worker comes to have nothing left to do. -/
theorem Scheduled.settles (scheduled : Scheduled settings timeline) (moment : Moment) :
    ∃ later, (∀ beat ∈ later, beat = .move (.turn moment)) ∧
      (timeline.beats later).now = timeline.now ∧ (timeline.beats later).isIdle = true := by
  -- By how much waits. A tick does not add to it, and it is the last that the worker takes.
  induction waiting : timeline.coordinator.internal.length + timeline.coordinator.commands.length
    using Nat.strongRecOn generalizing timeline with
  | ind size ih =>
    cases taken : timeline.coordinator.item? timeline.now with
    | none =>
      refine ⟨[], List.forall_mem_nil _, rfl, ?_⟩
      change (timeline.coordinator.item? timeline.now).isNone = true
      rw [taken]
      rfl
    | some item =>
      rcases scheduled.wanes moment taken with idle | fewer
      · refine ⟨[.move (.turn moment)], ?_, rfl, idle⟩
        simp
      · obtain ⟨later, turns, now, idle⟩ :=
          ih _ (waiting ▸ fewer) (scheduled.beat (.move (.turn moment))) rfl
        refine ⟨.move (.turn moment) :: later, ?_, now, idle⟩
        simpa using turns

/-- The clock reaches every later reading. -/
theorem Scheduled.reaches (scheduled : Scheduled settings timeline) (moment : Moment)
    (duration : Nat) :
    ∃ later, (∀ beat ∈ later, beat = .pass ∨ beat = .move (.turn moment)) ∧
      (timeline.beats later).now = timeline.now + duration ∧
      (timeline.beats later).isIdle = true := by
  induction duration with
  | zero =>
    obtain ⟨later, turns, now, idle⟩ := scheduled.settles moment
    exact ⟨later, fun beat member => .inr (turns beat member), now, idle⟩
  | succ duration ih =>
    obtain ⟨later, before, now, idle⟩ := ih
    obtain ⟨more, turns, same, idleAgain⟩ :=
      ((scheduled.beats later).beat .pass).settles moment
    have passed : ((timeline.beats later).beat .pass).now = (timeline.beats later).now + 1 := by
      rw [Timeline.beat, if_pos idle]
    refine ⟨later ++ .pass :: more, ?_, ?_, ?_⟩
    · intro beat member
      rcases List.mem_append.mp member with earlier | further
      · exact before beat earlier
      · rcases List.mem_cons.mp further with here | last
        · exact .inl here
        · exact .inr (turns beat last)
    · rw [beats_append, beats_cons, same, passed, now, Nat.add_assoc]
    · rw [beats_append, beats_cons]
      exact idleAgain

/-! ### The schedule -/

/-- The ticks of an activation, with nothing left out and nothing twice. -/
structure Punctual (period : Nat) (timeline : Timeline) (activation : Activation) : Prop where
  /-- They came one period after the beginning, two periods after it and so forth. -/
  ticks : activation.ticks =
    (List.range activation.ticks.length).map fun index => activation.began + (index + 1) * period
  /-- None came early. -/
  due : activation.began + activation.ticks.length * period ≤ timeline.now
  /-- None is overdue. -/
  next : timeline.now ≤ activation.began + (activation.ticks.length + 1) * period
  /-- With nothing left to do at the time that it is, there were as many as whole periods. -/
  count : timeline.isIdle = true →
    activation.ticks.length = (timeline.now - activation.began) / period

theorem Scheduled.punctual {activation : Activation} (scheduled : Scheduled settings timeline)
    (running : timeline.coordinator.life = .running)
    (lasts : timeline.activation? = some activation) :
    Punctual settings.telemetryIntervalMs timeline activation := by
  have onSchedule := scheduled.onSchedule running
  obtain ⟨positive, ticks, began, past, next⟩ := onSchedule.onTime activation lasts
  have due : activation.began + activation.ticks.length * settings.telemetryIntervalMs ≤
      timeline.now := by
    cases counted : activation.ticks.length with
    | zero => simpa using began
    | succ earlier =>
      exact past earlier (by omega)
  refine ⟨ticks, due, next, fun idle => ?_⟩
  · have set : timeline.coordinator.worker.timer = some (activation.timer settings) := by
      rw [onSchedule.timer, lasts]
      rfl
    have early := early_of_idle running idle _ set
    rw [Activation.timer_due, Activation.dueTime] at early
    exact (Nat.div_eq_of_lt_le (by omega) (by omega)).symm

/-- Only the timer of an active worker ticks, and only at the next time of the activation that
lasts. -/
theorem Scheduled.tick_dispatched {next : Move} {dispatch : Dispatch}
    (scheduled : Scheduled settings timeline)
    (member : dispatch ∈ timeline.dispatches next) (ticks : dispatch.event = .telemetryTick) :
    timeline.coordinator.life = .running ∧ timeline.coordinator.worker.isActive = true ∧
      ∃ activation, timeline.activation? = some activation ∧
        dispatch.time =
          activation.began + (activation.ticks.length + 1) * settings.telemetryIntervalMs := by
  obtain ⟨event, taken, rfl⟩ := List.mem_map.mp member
  obtain ⟨item, took, due⟩ := List.mem_filterMap.mp taken
  have found : timeline.coordinator.item? timeline.now = some item := by
    cases next with
    | turn moment => exact Option.mem_toList.mp took
    | send | report | announce | close | cancel | join => cases took
  obtain ⟨rest, _, _, running, first, _⟩ := turned_of_item (.calm none) found
  refine ⟨running, ?_⟩
  rcases scheduled.first first due with ⟨_, other⟩ | ⟨rfl, _, timer, timed, _⟩
  · exact absurd ticks other
  · obtain ⟨activation, lasts, exactly, _⟩ := scheduled.tick found timed
    have active := (scheduled.onSchedule running).active
    rw [lasts] at active
    exact ⟨active, activation, lasts, exactly⟩

/-- The telemetry timer ticks once per period of the activation that lasts. After any beats, from
any reading of the clock on: while the worker runs, it is active exactly during an activation, which begins
with a start that finds it inactive, is not touched by further starts, and ends with a stop; the
ticks of the activation came one period after its beginning, two periods after it and so forth, and
at a time at which nothing is left to do they are as many as the whole periods since then. Whatever
is done next, a tick is taken by an active worker only and at the next of these times, so none is
left over from an activation that has ended. And the clock reaches every later time. -/
theorem ticks_once_per_period (settings : CoordinatorSettings) (origin : Nat)
    (history : List Beat) :
    let timeline := Timeline.of settings origin history
    let worker := timeline.coordinator.worker
    let period := settings.telemetryIntervalMs
    (timeline.coordinator.life = .running →
      worker.isActive = timeline.activation?.isSome ∧
        ∀ activation, timeline.activation? = some activation →
          Punctual period timeline activation) ∧
      (∀ next dispatch, dispatch ∈ timeline.dispatches next →
        dispatch.event = .telemetryTick →
        timeline.coordinator.life = .running ∧ worker.isActive = true ∧
          ∃ activation, timeline.activation? = some activation ∧
            dispatch.time = activation.began + (activation.ticks.length + 1) * period) ∧
      ∀ moment horizon, timeline.now ≤ horizon →
        ∃ later, (∀ beat ∈ later, beat = .pass ∨ beat = .move (.turn moment)) ∧
          (Timeline.of settings origin (history ++ later)).now = horizon ∧
          (Timeline.of settings origin (history ++ later)).isIdle = true := by
  intro timeline worker period
  have scheduled : Scheduled settings timeline := scheduled settings origin history
  refine ⟨fun running => ?_, ?_, ?_⟩
  · refine ⟨(scheduled.onSchedule running).active, fun activation lasts => ?_⟩
    exact scheduled.punctual running lasts
  · intro next dispatch member ticks
    exact scheduled.tick_dispatched member ticks
  · intro moment horizon later
    obtain ⟨beats, kinds, now, idle⟩ := scheduled.reaches moment (horizon - timeline.now)
    have after : Timeline.of settings origin (history ++ beats) = timeline.beats beats :=
      beats_append _ history beats
    refine ⟨beats, kinds, ?_, ?_⟩
    · rw [after, now]
      omega
    · rw [after]
      exact idle

/-- With a period of three milliseconds: started, started once more after the first tick, stopped
at the second one, and started again two milliseconds later. -/
theorem ticks_once_per_period_restarted :
    ∃ settings origin history timeline,
      timeline = Timeline.of settings origin history ∧
        timeline.coordinator.worker.isActive = true ∧
        timeline.activation? = some ⟨18, [21]⟩ ∧ Punctual 3 timeline ⟨18, [21]⟩ ∧
        (timeline.dispatched.filter (·.event = .telemetryTick)).map (·.time) = [13, 16, 21] := by
  let settings : CoordinatorSettings :=
    { Settings.default.coordinator with telemetryIntervalMs := 3 }
  let turn : Beat := .move (.turn (.calm none))
  let history : List Beat :=
    [.move (.send 0 .start), turn, .pass, .pass, .pass, turn, .move (.send 1 .start), turn,
      .pass, .move (.send 2 (.lifecycle .thermalStateChanged)), turn, .pass, .pass, turn,
      .move (.send 3 .stop), turn, .pass, .pass, .move (.send 4 .start), turn, .pass, .pass,
      .pass, turn]
  obtain ⟨schedule, _, _⟩ := ticks_once_per_period settings 10 history
  have running : (Timeline.of settings 10 history).coordinator.life = .running := by
    decide +kernel
  have lasts : (Timeline.of settings 10 history).activation? = some ⟨18, [21]⟩ := by
    decide +kernel
  obtain ⟨active, punctual⟩ := schedule running
  refine ⟨settings, 10, history, _, rfl, ?_, lasts, punctual _ lasts, ?_⟩
  · rw [active, lasts]
    rfl
  · decide +kernel

end Timeline
end BackgroundWork.Compression
