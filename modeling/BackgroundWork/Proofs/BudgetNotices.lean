import BackgroundWork.Proofs.LifecyclePhase
import BackgroundWork.Proofs.Publishing
import BackgroundWork.Proofs.SettingsOverrides
import BackgroundWork.Proofs.WindowLedger

set_option autoImplicit false

/-!
What the engine is told of windows. Right after a window was granted it is told how long the window
lasts, and right before the worker lets go of it, that it is closed. Only a worker that crashes or
is cancelled lets go of its window untold. Main statement: the notices of a run come in brackets
around its windows, so that opening and closing notices alternate.
-/

namespace BackgroundWork.Compression

open Background

/-! ### Notices -/

/-- A dealing about a window, with the system or with the engine. -/
inductive Notice where
  | granted (grant : Nat) (task : TaskId)
  /-- The engine was told how long a window lasts; zero when it is closed. -/
  | told (seconds : UInt32)
  | ended (task : TaskId)
  deriving DecidableEq

/-- What the engine was told, if it was. -/
def Notice.told? : Notice → Option UInt32
  | told seconds => some seconds
  | granted .. | ended _ => none

/-- The dealings among effects, when the system answers with the given window. -/
def noticesAmong (window : Option TaskId) (effects : List Effect) : List Notice :=
  effects.filterMap fun
    | .askWindow grant => window.map fun task => .granted grant task
    | .push (.budget seconds) => some (.told seconds)
    | .endTask task => some (.ended task)
    | _ => none

@[simp] theorem noticesAmong_nil (window : Option TaskId) : noticesAmong window [] = [] := rfl

@[simp] theorem noticesAmong_append (window : Option TaskId) (first second : List Effect) :
    noticesAmong window (first ++ second) =
      noticesAmong window first ++ noticesAmong window second :=
  List.filterMap_append

/-- The push that an effect is, if it is one. -/
def Effect.push? : Effect → Option Push
  | .push sent => some sent
  | _ => none

/-- How long a window lasts, as a push says if it does. -/
def Push.seconds? : Push → Option UInt32
  | budget seconds => some seconds
  | _ => none

/-- The dealings of a run about its windows, in order. -/
def Run.notices (run : Run) : List Notice :=
  run.deeds.flatMap fun deed => noticesAmong deed.window deed.progress.effects

/-- The pushes that the worker submitted in a run, in order. -/
def Run.pushes (run : Run) : List Push :=
  run.deeds.flatMap fun deed => deed.progress.effects.filterMap Effect.push?

/-- What was submitted about windows in a run, in order. -/
def Run.told (run : Run) : List UInt32 :=
  run.pushes.filterMap Push.seconds?

theorem noticesAmong_told (window : Option TaskId) (effects : List Effect) :
    (noticesAmong window effects).filterMap Notice.told? =
      (effects.filterMap Effect.push?).filterMap Push.seconds? := by
  unfold noticesAmong
  rw [List.filterMap_filterMap, List.filterMap_filterMap]
  congr 1
  funext effect
  cases effect with
  | push push => cases push <;> rfl
  | askWindow grant => cases window <;> rfl
  | setMonitoring | pull | endTask => rfl

theorem Run.notices_told (run : Run) : run.notices.filterMap Notice.told? = run.told := by
  simp only [Run.notices, Run.told, Run.pushes, List.filterMap_flatMap, noticesAmong_told]

@[simp] theorem Run.notices_take (run : Run) (window : Option TaskId) (progress : Progress) :
    (run.take window progress).notices =
      run.notices ++ noticesAmong window progress.effects := by
  simp [Run.notices, Run.take]

/-! ### One turn -/

/-- How a window that may be held is closed. -/
def farewell (held : Option HeldBudget) : List Notice :=
  held.toList.flatMap fun held => [.told 0, .ended held.budget.task]

/-- What one turn can do about windows, with the dealings and how the worker is then. -/
inductive NoticeChange (seconds : UInt32) :
    WindowState → Life → WindowState → List Notice → Prop
  | kept (state : WindowState) {life : Life} (stays : life = .running ∨ state.held = none) :
      NoticeChange seconds state life state []
  | closed (state : WindowState) (life : Life) :
      NoticeChange seconds state life { state with held := none } (farewell state.held)
  | refused (asked granted : Nat) :
      NoticeChange seconds ⟨none, asked, granted⟩ .running ⟨none, asked + 1, granted⟩ []
  | granted (asked granted : Nat) (task : TaskId) :
      NoticeChange seconds ⟨none, asked, granted⟩ .running
        ⟨some (.granted (asked + 1) task seconds), asked + 1, granted + 1⟩
        [.granted (asked + 1) task, .told seconds]
  | deserted (held : HeldBudget) (asked granted : Nat) (failure : TaskFailure) :
      NoticeChange seconds ⟨some held, asked, granted⟩ (.failed failure) ⟨none, asked, granted⟩
        [.ended held.budget.task]

/-- How a window that may be held is let go of untold. -/
def desertion (held : Option HeldBudget) : List Notice :=
  held.toList.map fun held => .ended held.budget.task

theorem noticesAmong_windowEffects (window : Option TaskId) (effects : List Effect) :
    noticesAmong window (windowEffects effects) = noticesAmong window effects := by
  refine filterMap_windowEffects (fun effect blind => ?_) effects
  cases effect with
  | askWindow | endTask => cases blind
  | setMonitoring | pull => rfl
  | push push =>
    cases push with
    | budget => cases blind
    | deviceState | memoryPressure | visibility | lifecycle => rfl

theorem noticesAmong_closing (window : Option TaskId) (held : Option HeldBudget) :
    noticesAmong window (closing held) = farewell held := by
  cases held <;> rfl

theorem noticesAmong_endTask (window : Option TaskId) (held : Option HeldBudget) :
    noticesAmong window (held.toList.map fun held => .endTask held.budget.task) =
      desertion held := by
  cases held <;> rfl

theorem Dealing.noticeChange {seconds : UInt32} {window : Option TaskId}
    {state after : WindowState} {effects : List Effect}
    (dealing : Dealing seconds window state after effects) :
    NoticeChange seconds state .running after (noticesAmong window effects) := by
  cases dealing with
  | left leaving =>
    cases leaving with
    | kept => exact .kept state (.inl rfl)
    | closed =>
      rw [noticesAmong_closing]
      exact .closed state _
  | refused => exact .refused _ _
  | granted _ _ task => exact .granted _ _ task

/-- A window that is still held when the worker fails is let go of untold. -/
theorem Leaving.desertion {state after : WindowState} {effects : List Effect}
    (leaving : Leaving state after effects) (seconds : UInt32) (window : Option TaskId)
    (failure : TaskFailure) :
    NoticeChange seconds state (.failed failure) { after with held := none }
      (noticesAmong window effects ++ desertion after.held) := by
  obtain ⟨held, asked, granted⟩ := state
  cases leaving with
  | kept =>
    cases held with
    | none => exact .kept _ (.inr rfl)
    | some held => exact .deserted held asked granted failure
  | closed =>
    rw [noticesAmong_closing]
    change NoticeChange _ _ _ _ (farewell held ++ [])
    rw [List.append_nil]
    exact .closed ⟨held, asked, granted⟩ _

section

variable {settings : CoordinatorSettings} {coordinator rest : Coordinator} {moment : Moment}
  {progress : Progress}

theorem noticesAmong_finish (coordinator : Coordinator) (window : Option TaskId) (life : Life)
    (turn : Turn) (answers : List (Nat × Answer)) (left : List (Nat × Command)) :
    noticesAmong window (coordinator.finish life turn answers left).effects =
      noticesAmong window (windowEffects turn.effects) ++ desertion turn.worker.held := by
  rw [noticesAmong_windowEffects, Coordinator.finish_effects, noticesAmong_append,
    noticesAmong_endTask]

/-- An inactive worker holds no window, so that a settled one has closed it at the end. -/
theorem Settled.tearDown {worker : Worker} (settled : Settled settings worker) :
    worker.tearDown.worker.held = none ∧
      windowEffects worker.tearDown.effects = closing worker.held := by
  unfold Worker.tearDown
  cases active : worker.isActive with
  | false =>
    have free := settled.free_of_inactive active
    rw [stop_of_inactive active, free]
    exact ⟨free, rfl⟩
  | true =>
    rw [stop_of_active active]
    refine ⟨rfl, ?_⟩
    rw [windowEffects_append, windowEffects_closing, windowEffects_switching, List.append_nil]

/-- A worker that ends in order has closed its window. -/
theorem Settled.finish (settled : Settled settings coordinator.worker) (seconds : UInt32)
    (window : Option TaskId) (life : Life) (answers : List (Nat × Answer))
    (left : List (Nat × Command)) :
    let turn := coordinator.worker.tearDown
    NoticeChange seconds coordinator.worker.windowState life
      (coordinator.finish life turn answers left).coordinator.worker.windowState
      (noticesAmong window (coordinator.finish life turn answers left).effects) := by
  intro turn
  obtain ⟨asked, granted⟩ := (tearDown_leaving coordinator.worker).frame
  obtain ⟨gone, closed⟩ := settled.tearDown
  have change : NoticeChange seconds coordinator.worker.windowState life _ _ := .closed _ _
  have state : (coordinator.finish life turn answers left).coordinator.worker.windowState =
      ⟨none, coordinator.worker.windowState.asked, coordinator.worker.windowState.granted⟩ := by
    rw [← asked, ← granted]
    rfl
  rw [noticesAmong_finish, closed, gone, noticesAmong_closing, state]
  exact (List.append_nil (farewell coordinator.worker.held)).symm ▸ change

theorem Taking.settled {now : Nat} {event : Event} {ticket : Option Nat}
    (taking : Taking now coordinator event ticket rest)
    (settled : Settled settings coordinator.worker) : Settled settings rest.worker := by
  rw [taking.frame.2.2]
  exact ⟨settled.window, settled.phase⟩

theorem Turning.noticeChange (turning : Turning moment coordinator progress)
    (running : coordinator.life = .running)
    (settled : Settled coordinator.settings coordinator.worker) :
    NoticeChange coordinator.settings.backgroundGrantSeconds coordinator.worker.windowState
      progress.coordinator.life progress.coordinator.worker.windowState
      (noticesAmong moment.window progress.effects) := by
  cases turning with
  | handled taking handling =>
    obtain ⟨configured, life, _⟩ := taking.frame
    rw [← configured, ← taking.windowState, ← noticesAmong_windowEffects]
    simp only [life, running]
    exact handling.dealing.noticeChange
  | crashed taking crashing =>
    obtain ⟨configured, _, _⟩ := taking.frame
    rw [← configured, ← taking.windowState, noticesAmong_finish]
    exact crashing.leaving.desertion _ _ _
  | shown => exact .kept _ (.inl running)
  | @shutDown ticket rest =>
    let left : Coordinator := { coordinator with commands := rest }
    have kept : Settled left.settings left.worker := settled
    exact kept.finish _ _ _ _ _
  | letGo => exact settled.finish _ _ _ _ _

theorem Turning.settled (turning : Turning moment coordinator progress)
    (settled : Settled coordinator.settings coordinator.worker)
    (stays : progress.coordinator.life = .running) :
    Settled coordinator.settings progress.coordinator.worker := by
  cases turning with
  | handled taking handling =>
    rw [taking.frame.1] at handling
    exact (taking.settled settled).handle handling
  | shown => exact settled
  | crashed | shutDown | letGo => cases stays

theorem cancel_noticeChange (coordinator : Coordinator) (seconds : UInt32)
    (clear : coordinator.ClearAtEnd) :
    NoticeChange seconds coordinator.worker.windowState coordinator.cancel.coordinator.life
      coordinator.cancel.coordinator.worker.windowState
      (noticesAmong none coordinator.cancel.effects) := by
  unfold Coordinator.cancel
  split
  · rw [noticesAmong_finish]
    exact (Leaving.kept coordinator.worker.windowState).desertion _ _ _
  · rename_i ended
    exact .kept _ (.inr (clear.held (mt isRunning_iff.2 ended)))

end

/-! ### Brackets -/

/-- All that is said about a window that was closed in order. -/
def bracket (seconds : UInt32) (window : Nat × TaskId) : List Notice :=
  [.granted window.1 window.2, .told seconds, .told 0, .ended window.2]

/-- What is said about the last window, unless it was closed in order: it is held, or the worker
failed with it. -/
inductive Unclosed (seconds : UInt32) : Life → Option HeldBudget → List Notice → Prop
  | none (life : Life) : Unclosed seconds life none []
  | held (grant : Nat) (task : TaskId) :
      Unclosed seconds .running (some (.granted grant task seconds))
        [.granted grant task, .told seconds]
  | deserted (failure : TaskFailure) (grant : Nat) (task : TaskId) :
      Unclosed seconds (.failed failure) none
        [.granted grant task, .told seconds, .ended task]

/-- The dealings are brackets around windows, the last of which may not be closed. -/
def Bracketed (seconds : UInt32) (life : Life) (log : List Notice) (state : WindowState) : Prop :=
  ∃ windows last, log = List.flatMap (bracket seconds) windows ++ last ∧
    Unclosed seconds life state.held last ∧
    state.granted = windows.length + (last.filterMap Notice.told?).length

namespace Bracketed

variable {seconds : UInt32} {life : Life} {log events : List Notice} {state after : WindowState}

theorem new (seconds : UInt32) (life : Life) : Bracketed seconds life [] ⟨none, 0, 0⟩ :=
  ⟨[], [], rfl, .none life, rfl⟩

/-- One turn more of a worker that runs. -/
theorem change (bracketed : Bracketed seconds .running log state)
    (change : NoticeChange seconds state life after events) :
    Bracketed seconds life (log ++ events) after := by
  obtain ⟨windows, last, rfl, unclosed, granted⟩ := bracketed
  -- A running worker that holds a window has an open bracket at the end, and one that holds none
  -- has none, so the window says which changes are left.
  generalize holds : state.held = held at unclosed
  cases change with
  | kept _ stays =>
    refine ⟨windows, last, List.append_nil _, ?_, granted⟩
    rw [holds]
    cases unclosed with
    | none => exact .none life
    | held grant task =>
      rw [holds] at stays
      obtain rfl | absent := stays
      · exact .held grant task
      · cases absent
  | closed =>
    rw [holds]
    cases unclosed with
    | none => exact ⟨windows, [], by simp [farewell], .none life, granted⟩
    | held grant task =>
      refine ⟨windows ++ [(grant, task)], [], ?_, .none life, ?_⟩
      · simp [farewell, bracket]
      · rw [granted, List.length_append]
        rfl
  | refused asked =>
    cases holds
    cases unclosed with
    | none => exact ⟨windows, [], List.append_nil _, .none _, granted⟩
  | granted asked _ task =>
    cases holds
    cases unclosed with
    | none =>
      refine ⟨windows, _, by rw [List.append_nil], .held _ task, ?_⟩
      exact congrArg (· + 1) granted
  | deserted window asked _ failure =>
    cases holds
    cases unclosed with
    | held grant task =>
      exact ⟨windows, _, List.append_assoc _ _ _, .deserted failure grant task, granted⟩

end Bracketed

/-! ### Alternation -/

/-- Opening and closing notices in turns. -/
def alternating (seconds : UInt32) (count : Nat) : List UInt32 :=
  (List.range count).map fun index => if index % 2 = 0 then seconds else 0

@[simp] theorem length_alternating (seconds : UInt32) (count : Nat) :
    (alternating seconds count).length = count := by
  simp [alternating]

theorem alternating_succ (seconds : UInt32) (count : Nat) :
    alternating seconds (count + 1) =
      alternating seconds count ++ [if count % 2 = 0 then seconds else 0] := by
  simp [alternating, List.range_succ]

theorem count_alternating {seconds : UInt32} (lasting : seconds ≠ 0) (count : Nat) :
    (alternating seconds count).count seconds = (count + 1) / 2 := by
  induction count with
  | zero => rfl
  | succ count ih =>
    rw [alternating_succ, List.count_append, ih]
    by_cases even : count % 2 = 0
    · simp only [even, ↓reduceIte, List.count_singleton_self]
      omega
    · simp only [even, ↓reduceIte, List.count_singleton, beq_iff_eq, Ne.symm lasting]
      omega

theorem getLast?_alternating {seconds : UInt32} (lasting : seconds ≠ 0) (count : Nat) :
    (alternating seconds count).getLast? = some seconds ↔ count % 2 = 1 := by
  cases count with
  | zero => simp [alternating]
  | succ count =>
    rw [alternating_succ, List.getLast?_concat]
    by_cases even : count % 2 = 0
    · simp only [even, ↓reduceIte, true_iff]
      omega
    · simp only [even, ↓reduceIte, Option.some.injEq, Ne.symm lasting, false_iff]
      omega

theorem alternating_add_two (seconds : UInt32) (count : Nat) :
    alternating seconds (count + 2) = seconds :: 0 :: alternating seconds count := by
  have shift (index : Nat) : (index + 1 + 1) % 2 = index % 2 := Nat.add_mod_right index 2
  simp [alternating, List.range_succ_eq_map, Function.comp_def, shift]

theorem flatMap_bracket_told (seconds : UInt32) (windows : List (Nat × TaskId)) :
    (windows.flatMap (bracket seconds)).filterMap Notice.told? =
      alternating seconds (2 * windows.length) := by
  induction windows with
  | nil => rfl
  | cons window windows ih =>
    rw [List.flatMap_cons, List.filterMap_append, ih, List.length_cons, Nat.mul_succ,
      alternating_add_two]
    rfl

section

variable {seconds : UInt32} {life : Life} {log : List Notice} {state : WindowState}

theorem Unclosed.told {held : Option HeldBudget} {last : List Notice}
    (unclosed : Unclosed seconds life held last) :
    last.filterMap Notice.told? = [] ∨ last.filterMap Notice.told? = [seconds] := by
  cases unclosed with
  | none => exact .inl rfl
  | held | deserted => exact .inr rfl

/-- Opening and closing notices alternate, and there are as many opening notices as windows. -/
theorem Bracketed.told (bracketed : Bracketed seconds life log state) :
    log.filterMap Notice.told? = alternating seconds (log.filterMap Notice.told?).length ∧
      state.granted = ((log.filterMap Notice.told?).length + 1) / 2 := by
  obtain ⟨windows, last, rfl, unclosed, granted⟩ := bracketed
  rw [List.filterMap_append, flatMap_bracket_told, granted]
  obtain nothing | opened := unclosed.told
  · rw [nothing, List.append_nil, length_alternating]
    refine ⟨rfl, ?_⟩
    simp only [List.length_nil]
    omega
  · rw [opened, List.length_append, length_alternating, List.length_singleton, alternating_succ,
      if_pos (Nat.mul_mod_right 2 _)]
    refine ⟨rfl, ?_⟩
    omega

/-- Brackets end with the end of a window that was told closed. -/
theorem flatMap_bracket_ne {windows : List (Nat × TaskId)} {earlier : List Notice} {grant : Nat}
    {task : TaskId} :
    windows.flatMap (bracket seconds) ≠
      earlier ++ [.granted grant task, .told seconds, .ended task] := by
  intro same
  obtain rfl | ⟨others, window, rfl⟩ := List.eq_nil_or_concat windows
  · simp at same
  · rw [List.concat_eq_append, List.flatMap_append, List.flatMap_singleton, bracket,
      List.append_cons] at same
    obtain ⟨_, ends⟩ := List.append_inj' same rfl
    cases ends

/-- The last notice is an opening one while a window is held, and when the worker failed with one
in hand. -/
theorem Bracketed.open_iff (bracketed : Bracketed seconds life log state) :
    (log.filterMap Notice.told?).length % 2 = 1 ↔
      state.held.isSome = true ∨
        ∃ failure earlier grant task, life = .failed failure ∧
          log = earlier ++ [.granted grant task, .told seconds, .ended task] := by
  obtain ⟨windows, last, rfl, unclosed, granted⟩ := bracketed
  rw [List.filterMap_append, flatMap_bracket_told, List.length_append, length_alternating]
  generalize state.held = held at unclosed
  cases unclosed with
  | none =>
    refine iff_of_false (by simp) ?_
    rintro (held | ⟨failure, earlier, grant, task, _, same⟩)
    · cases held
    · rw [List.append_nil] at same
      exact flatMap_bracket_ne same
  | held => exact iff_of_true (Nat.mul_add_mod 2 windows.length 1) (.inl rfl)
  | deserted failure grant task =>
    refine iff_of_true (Nat.mul_add_mod 2 windows.length 1) (.inr ?_)
    exact ⟨failure, _, grant, task, rfl, rfl⟩

end

/-! ### Runs -/

/-- The notices of a run come in brackets, and its worker is settled while it runs. -/
structure Run.Noticed (settings : CoordinatorSettings) (run : Run) : Prop where
  settled : run.coordinator.life = .running → Settled settings run.coordinator.worker
  bracketed : Bracketed settings.backgroundGrantSeconds run.coordinator.life run.notices
    run.coordinator.worker.windowState

theorem Run.Noticed.cancel {settings : CoordinatorSettings} {run : Run}
    (noticed : run.Noticed settings) (sound : Sound settings run) :
    (run.take none run.coordinator.cancel).Noticed settings := by
  obtain ⟨settled, bracketed⟩ := noticed
  have change := cancel_noticeChange run.coordinator settings.backgroundGrantSeconds sound.clear
  by_cases running : run.coordinator.life = .running
  · refine ⟨?_, ?_⟩
    · unfold Run.take Coordinator.cancel
      rw [if_pos (isRunning_iff.2 running)]
      exact nofun
    · rw [Run.notices_take]
      exact (running ▸ bracketed).change change
  · have nothing : run.coordinator.cancel = ⟨run.coordinator, [], []⟩ :=
      if_neg (mt isRunning_iff.1 running)
    rw [nothing]
    refine ⟨settled, ?_⟩
    rw [Run.notices_take, noticesAmong_nil, List.append_nil]
    exact bracketed

theorem Moving.noticed {settings : CoordinatorSettings} {run after : Run}
    (noticed : run.Noticed settings) (sound : Sound settings run) (moving : Moving run after) :
    after.Noticed settings := by
  obtain ⟨settled, bracketed⟩ := noticed
  cases moving with
  | turned running turning =>
    have known : Settled run.coordinator.settings run.coordinator.worker :=
      sound.configured ▸ settled running
    have change := turning.noticeChange running known
    rw [sound.configured] at change
    refine ⟨fun stays => sound.configured ▸ turning.settled known stays, ?_⟩
    rw [Run.notices_take]
    exact (running ▸ bracketed).change change
  | cancelled => exact Run.Noticed.cancel ⟨settled, bracketed⟩ sound
  | reported | announced =>
    rw [post_frame]
    exact ⟨settled, bracketed⟩
  | ignored | sent | closed | joined => exact ⟨settled, bracketed⟩

theorem Run.noticed (settings : CoordinatorSettings) (moves : List Move) :
    (Run.of settings moves).Noticed settings := by
  have kept := Run.keeps (fun run => Sound settings run ∧ run.Noticed settings)
    ⟨.new settings, fun _ => .new settings, .new _ _⟩
    (fun ⟨sound, noticed⟩ moving => ⟨sound.move moving, moving.noticed noticed sound⟩) moves
  exact kept.2

/-! ### At the engine -/

/-- Notices of different lengths are different texts. -/
theorem Push.budget_payload_injective {first second : UInt32}
    (same : (Push.budget first).payload = (Push.budget second).payload) : first = second := by
  have texts : (Push.budget first).encode = (Push.budget second).encode :=
    String.ofList_injective same
  have digits : Numeric.natText first.toNat = Numeric.natText second.toNat := by
    simpa [Push.encode, Json.objectText, Json.commaSeparated, Json.memberText] using texts
  exact UInt32.toNat_inj.1 (Numeric.natText_injective digits)

/-- Whether an entry into the engine says how long a window lasts. -/
def isNotice (entry : Engine.Invocation) : Bool :=
  entry.call == .handleBackgroundTaskExtension

/-- The notices among the entries of pushes are those among the pushes. -/
theorem filter_isNotice (pushes : List Push) :
    (pushes.map Push.invocation).filter isNotice =
      (pushes.filterMap Push.seconds?).map fun seconds => (Push.budget seconds).invocation := by
  induction pushes with
  | nil => rfl
  | cons push rest ih =>
    cases push <;>
      simpa [isNotice, Push.invocation, Push.call, Push.seconds?, List.filterMap_cons] using ih

/-- Whether a push comes from callers and not from the worker. -/
def Push.isVisibility : Push → Bool
  | visibility _ => true
  | _ => false

theorem filterMap_seconds (pushes : List Push) :
    (pushes.filter fun push => !push.isVisibility).filterMap Push.seconds? =
      pushes.filterMap Push.seconds? := by
  induction pushes with
  | nil => rfl
  | cons push rest ih =>
    cases push <;> simpa [Push.isVisibility, Push.seconds?, List.filterMap_cons] using ih

/-- If no push was dropped, the notices that have entered the engine are the first of those that
were submitted. -/
theorem entered_notices {pushes : List Push} {depth : Nat} {history : List Publishing.Move}
    (workers : (Publishing.submissions history).filter (fun push => !push.isVisibility) <+: pushes)
    (complete : (Publishing.of depth history).accepted = Publishing.submissions history) :
    (Publishing.of depth history).entries.filter isNotice <+:
      (pushes.filterMap Push.seconds?).map fun seconds => (Push.budget seconds).invocation := by
  have entered := (Publishing.entries_prefix depth history).filter isNotice
  rw [complete, filter_isNotice, ← filterMap_seconds] at entered
  exact entered.trans ((workers.filterMap Push.seconds?).map _)

/-- Whatever callers and the system do: what the worker submits about windows are opening and
closing notices in turns, beginning with an opening one; there are as many opening notices as
windows; the last one is an opening one while a window is held, and besides when the worker crashed
or was cancelled with a window in hand, which then was let go of untold; all notices stand in
brackets around the windows they are about. Under settings that were looked up, opening and closing
notices differ, also as texts. And if the publisher dropped nothing, the notices that the engine
gets are the first of these. -/
theorem notices_bracket_windows (settings : CoordinatorSettings) (moves : List Move) :
    let run := Run.of settings moves
    let worker := run.coordinator.worker
    let seconds := settings.backgroundGrantSeconds
    run.told = alternating seconds run.told.length ∧
    worker.snapshot.budgetGrants = (run.told.length + 1) / 2 ∧
    (seconds ≠ 0 → run.told.count seconds = worker.snapshot.budgetGrants) ∧
    (run.told.length % 2 = 1 ↔
      worker.held.isSome = true ∨
        ∃ failure earlier grant task, run.coordinator.life = .failed failure ∧
          run.notices = earlier ++ [.granted grant task, .told seconds, .ended task]) ∧
    (seconds ≠ 0 → (∀ failure, run.coordinator.life ≠ .failed failure) →
      (run.told.getLast? = some seconds ↔ worker.held.isSome = true)) ∧
    (∃ windows last, run.notices = List.flatMap (bracket seconds) windows ++ last ∧
      Unclosed seconds run.coordinator.life worker.held last) ∧
    (∀ lookup full, Settings.ofLookup lookup = .ok full → full.coordinator = settings →
      seconds ≠ 0 ∧ (Push.budget seconds).payload ≠ (Push.budget 0).payload) ∧
    (∀ depth history,
      (Publishing.submissions history).filter (fun push => !push.isVisibility) <+: run.pushes →
      (Publishing.of depth history).accepted = Publishing.submissions history →
        (Publishing.of depth history).entries.filter isNotice <+:
          run.told.map fun seconds => (Push.budget seconds).invocation) := by
  intro run worker seconds
  have bracketed := (Run.noticed settings moves).bracketed
  obtain ⟨told, granted⟩ := bracketed.told
  have isOpen := bracketed.open_iff
  rw [Run.notices_told] at told granted isOpen
  refine ⟨told, granted, ?_, isOpen, ?_, ?_, ?_, ?_⟩
  · intro lasting
    rw [told, count_alternating lasting]
    exact granted.symm
  · intro lasting ordered
    rw [told, getLast?_alternating lasting]
    refine isOpen.trans (or_iff_left ?_)
    rintro ⟨failure, _, _, _, failed, _⟩
    exact ordered failure failed
  · obtain ⟨windows, last, split, unclosed, _⟩ := bracketed
    exact ⟨windows, last, split, unclosed⟩
  · rintro lookup full found rfl
    have lasting : seconds ≠ 0 := Settings.grant_ne_zero found
    exact ⟨lasting, fun same => lasting (Push.budget_payload_injective same)⟩
  · intro depth history workers complete
    exact entered_notices workers complete

/-- The device cannot be read while a window is held: the worker crashes, and the window is let go
of although the last that the engine was told is that it is open. -/
theorem crash_leaves_window_told_open :
    let unreadable : Moment :=
      { Moment.calm none with signals.battery := .error "sensor" }
    let run := Run.of Settings.default.coordinator
      [.send 0 .start, .turn (.calm none), .send 1 (.lifecycle .enteredBackground),
        .turn (.calm (some ⟨1⟩)), .send 2 (.lifecycle .thermalStateChanged), .turn unreadable]
    run.coordinator.life = .failed (.panicked "sensor") ∧
      run.notices = [.granted 1 ⟨1⟩, .told 30, .ended ⟨1⟩] ∧
      ¬(run.told.getLast? = some Settings.default.coordinator.backgroundGrantSeconds ↔
        run.coordinator.worker.held.isSome = true) := by
  decide +kernel

/-- A window is refused, the next one is closed when it expires, and the worker is cancelled with
the third in hand. -/
example :
    let behind : Move := .send 0 (.lifecycle .enteredBackground)
    let run := Run.of Settings.default.coordinator
      [.send 0 .start, behind, .turn (.calm none), .turn (.calm none), behind,
        .turn (.calm (some ⟨7⟩)), .announce 2, .turn (.calm none), behind,
        .turn (.calm (some ⟨8⟩)), .cancel]
    run.notices = bracket 30 (2, ⟨7⟩) ++ [.granted 3 ⟨8⟩, .told 30, .ended ⟨8⟩] ∧
      run.told = [30, 0, 30] := by
  decide +kernel

end BackgroundWork.Compression
