import BackgroundWork.Compression.Handle
import BackgroundWork.Proofs.CoordinatorSteps

set_option autoImplicit false

/-!
Runs of a coordinator among its callers, the engine and the system. Callers send requests, pulls
report, the system runs the handlers it was given, and the worker takes its turns, all in any
order. What holds at first and is kept by every move holds after every run.
-/

namespace BackgroundWork.Compression

open Background

/-! ### Windows as the system sees them -/

/-- A dealing with the system about windows. -/
inductive WindowEvent where
  /-- A window was asked for under a number, and the system granted it as a task. -/
  | granted (grant : Nat) (task : TaskId)
  | refused (grant : Nat)
  | ended (task : TaskId)
  deriving DecidableEq

/-- The number under which a window was asked for. -/
def WindowEvent.asked? : WindowEvent → Option Nat
  | granted grant _ | refused grant => some grant
  | ended _ => none

/-- The dealings among effects, when the system answers with the given window. -/
def windowEvents (window : Option TaskId) (effects : List Effect) : List WindowEvent :=
  effects.filterMap fun
    | .askWindow grant => some (window.elim (.refused grant) (.granted grant))
    | .endTask task => some (.ended task)
    | _ => none

@[simp] theorem windowEvents_append (window : Option TaskId) (first second : List Effect) :
    windowEvents window (first ++ second) =
      windowEvents window first ++ windowEvents window second :=
  List.filterMap_append

/-! ### Moves -/

/-- What can happen to a coordinator. -/
inductive Move where
  | send (ticket : Nat) (request : CallerRequest)
  | report (update : CacheUpdate)
  /-- The system runs the handler that it was given with the request of a number. One that it runs
  while it is asked comes right after that turn, since the worker looks only between turns. -/
  | announce (grant : Nat)
  | turn (moment : Moment)
  | close
  | cancel
  | join

/-- What the worker did at one time. -/
structure Deed where
  /-- The window that the system grants if it is asked for one. -/
  window : Option TaskId
  progress : Progress

/-- A coordinator with its past. -/
structure Run where
  coordinator : Coordinator
  /-- What the worker did, in order. -/
  deeds : List Deed
  /-- The numbers whose handlers the system has run. -/
  announced : List Nat

namespace Run

/-- A run at first. -/
def new (settings : CoordinatorSettings) : Run := ⟨.new settings, [], []⟩

/-- The dealings with the system so far, in order. -/
def windows (run : Run) : List WindowEvent :=
  run.deeds.flatMap fun deed => windowEvents deed.window deed.progress.effects

/-- The numbers under which windows were asked for so far, in order. -/
def asked (run : Run) : List Nat :=
  run.windows.filterMap WindowEvent.asked?

/-- The worker does something. -/
def take (run : Run) (window : Option TaskId) (progress : Progress) : Run :=
  { run with
    coordinator := progress.coordinator
    deeds := run.deeds ++ [⟨window, progress⟩] }

/-- A move. The system runs each handler at most once, whatever it answered when it was given
the handler and whatever became of the window since. -/
def move (run : Run) : Move → Run
  | .send ticket request =>
    match run.coordinator.send ticket request.command with
    | .ok coordinator => { run with coordinator }
    | .error _ => run
  | .report update => { run with coordinator := run.coordinator.post (.refreshed update) }
  | .announce grant =>
    if run.announced.count grant < run.asked.count grant then
      { run with
        coordinator := run.coordinator.post (.budgetExpired grant)
        announced := run.announced ++ [grant] }
    else run
  | .turn moment =>
    match run.coordinator.turn? moment with
    | some progress => run.take moment.window progress
    | none => run
  | .close => { run with coordinator := run.coordinator.close }
  | .cancel => run.take none run.coordinator.cancel
  | .join =>
    match run.coordinator.join? with
    | some (_, coordinator) => { run with coordinator }
    | none => run

/-- The run that moves lead to. -/
def of (settings : CoordinatorSettings) (moves : List Move) : Run :=
  moves.foldl move (new settings)

@[simp] theorem windows_take (run : Run) (window : Option TaskId) (progress : Progress) :
    (run.take window progress).windows =
      run.windows ++ windowEvents window progress.effects := by
  simp [windows, take]

end Run

/-! ### What moves come to -/

/-- What a move can come to. -/
inductive Moving : Run → Run → Prop
  | ignored {run : Run} : Moving run run
  | sent {run : Run} (running : run.coordinator.life = .running) (ticket : Nat)
      (request : CallerRequest) :
      Moving run
        { run with
          coordinator :=
            { run.coordinator with
              commands := run.coordinator.commands ++ [(ticket, request.command)] } }
  | reported {run : Run} (update : CacheUpdate) :
      Moving run { run with coordinator := run.coordinator.post (.refreshed update) }
  | announced {run : Run} {grant : Nat}
      (due : run.announced.count grant < run.asked.count grant) :
      Moving run
        { run with
          coordinator := run.coordinator.post (.budgetExpired grant)
          announced := run.announced ++ [grant] }
  | turned {run : Run} {moment : Moment} {progress : Progress}
      (running : run.coordinator.life = .running)
      (turning : Turning moment run.coordinator progress) :
      Moving run (run.take moment.window progress)
  | closed {run : Run} : Moving run { run with coordinator := run.coordinator.close }
  | cancelled {run : Run} : Moving run (run.take none run.coordinator.cancel)
  | joined {run : Run} :
      Moving run { run with coordinator := { run.coordinator with isJoined := true } }

theorem moving_of_join {run : Run} {result : Except ServiceError Unit} {coordinator : Coordinator}
    (joined : run.coordinator.join? = some (result, coordinator)) :
    Moving run { run with coordinator } := by
  unfold Coordinator.join? at joined
  by_cases again : run.coordinator.isJoined = true
  · rw [if_pos again] at joined
    cases joined
    exact .ignored
  · rw [if_neg again] at joined
    split at joined <;> cases joined <;> exact .joined

theorem Run.moving (run : Run) (next : Move) : Moving run (run.move next) := by
  cases next with
  | send ticket request =>
    unfold Run.move Coordinator.send
    by_cases running : run.coordinator.isRunning = true
    · simp only [running, ↓reduceIte]
      exact .sent (isRunning_iff.mp running) ticket request
    · simp only [running]
      exact .ignored
  | report update => exact .reported update
  | announce grant =>
    unfold Run.move
    by_cases due : run.announced.count grant < run.asked.count grant
    · simp only [due, ↓reduceIte]
      exact .announced due
    · simp only [due, ↓reduceIte]
      exact .ignored
  | turn moment =>
    cases turned : run.coordinator.turn? moment with
    | none =>
      simp only [Run.move, turned]
      exact .ignored
    | some progress =>
      obtain ⟨running, turning⟩ := turning_of_turn turned
      simp only [Run.move, turned]
      exact .turned running turning
  | close => exact .closed
  | cancel => exact .cancelled
  | join =>
    cases joined : run.coordinator.join? with
    | none =>
      simp only [Run.move, joined]
      exact .ignored
    | some joining =>
      simp only [Run.move, joined]
      exact moving_of_join joined

/-- What holds at first and is kept by every move holds after every run. -/
theorem Run.keeps (Kept : Run → Prop) {settings : CoordinatorSettings}
    (first : Kept (.new settings))
    (move : ∀ {before after}, Kept before → Moving before after → Kept after)
    (moves : List Move) : Kept (.of settings moves) :=
  List.foldlRecOn moves Run.move first fun run kept next _ => move kept (run.moving next)

/-! ### What waits in a run -/

/-- What waits for the worker has its origin outside: commands in requests, and each expiry in a
handler that the system has run. -/
structure Sound (settings : CoordinatorSettings) (run : Run) : Prop where
  configured : run.coordinator.settings = settings
  clear : run.coordinator.ClearAtEnd
  requested : ∀ entry ∈ run.coordinator.commands,
    ∃ request : CallerRequest, entry.2 = request.command
  announced : ∀ grant, .budgetExpired grant ∈ run.coordinator.internal → grant ∈ run.announced

namespace Sound

variable {settings : CoordinatorSettings} {run after : Run}

theorem new (settings : CoordinatorSettings) : Sound settings (.new settings) where
  configured := rfl
  clear := .of_running rfl
  requested := by intro entry member; cases member
  announced := by intro grant member; cases member

theorem post (sound : Sound settings run) (event : Event) (later : List Nat)
    (origin : ∀ grant, event = .budgetExpired grant → grant ∈ later) :
    Sound settings
      { run with
        coordinator := run.coordinator.post event
        announced := run.announced ++ later } := by
  have clear := post_clearAtEnd sound.clear event
  refine ⟨?_, clear, ?_, ?_⟩
  · rw [post_frame]
    exact sound.configured
  · rw [post_frame]
    exact sound.requested
  · intro grant member
    rcases mem_post member with earlier | rfl
    · exact List.mem_append_left _ (sound.announced grant earlier)
    · exact List.mem_append_right _ (origin grant rfl)

theorem take (sound : Sound settings run) {window : Option TaskId} {progress : Progress}
    (configured : progress.coordinator.settings = run.coordinator.settings)
    (clear : progress.coordinator.ClearAtEnd)
    (internal : progress.coordinator.internal ⊆ run.coordinator.internal)
    (commands : progress.coordinator.commands ⊆ run.coordinator.commands) :
    Sound settings (run.take window progress) where
  configured := configured.trans sound.configured
  clear := clear
  requested := by
    intro entry member
    exact sound.requested entry (commands member)
  announced := by
    intro grant member
    exact sound.announced grant (internal member)

theorem move (sound : Sound settings run) (moving : Moving run after) : Sound settings after := by
  cases moving with
  | ignored => exact sound
  | sent running ticket request =>
    refine ⟨sound.configured, .of_running running, ?_, sound.announced⟩
    intro entry member
    rcases List.mem_append.mp member with earlier | last
    · exact sound.requested entry earlier
    · cases List.mem_singleton.mp last
      exact ⟨request, rfl⟩
  | reported update => simpa using sound.post (.refreshed update) [] (by simp)
  | announced => exact sound.post _ _ (by simp)
  | turned running turning =>
    obtain ⟨internal, commands⟩ := turning.waiting
    have clear := turning.clearAtEnd running
    exact sound.take turning.settings clear internal commands
  | cancelled =>
    obtain ⟨configured, internal, commands⟩ := cancel_frame run.coordinator
    exact sound.take configured (cancel_clearAtEnd sound.clear) internal commands
  | closed | joined =>
    obtain ⟨held, internal, commands⟩ := sound.clear
    exact ⟨sound.configured, ⟨held, internal, commands⟩, sound.requested, sound.announced⟩

theorem of (settings : CoordinatorSettings) (moves : List Move) :
    Sound settings (.of settings moves) :=
  Run.keeps (Sound settings) (new settings) move moves

end Sound

end BackgroundWork.Compression
