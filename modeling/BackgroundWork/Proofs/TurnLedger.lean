import BackgroundWork.Proofs.TurnItems
import BackgroundWork.Proofs.WindowLedger

set_option autoImplicit false

/-!
What was handed to the worker, and what it took. A journal keeps, along a run, what was posted and
sent while the worker ran and what the worker took in its turns. While it runs, all that was
handed over was either taken, in order and once, or still waits, and the worker is as the events
that it took have left it. Once it has ended in order it is torn down, and nothing changes any
more.
-/

namespace BackgroundWork.Compression

open Background

/-! ### Journals -/

namespace Run

/-- What was done so far, in order. -/
def effects (run : Run) : List Effect :=
  run.deeds.flatMap (·.progress.effects)

@[simp] theorem effects_take (run : Run) (window : Option TaskId) (progress : Progress) :
    (run.take window progress).effects = run.effects ++ progress.effects := by
  simp [effects, take]

/-- The worker of a run has ended in order. -/
structure TornDown (run : Run) : Prop where
  stopped : run.coordinator.worker.Stopped
  /-- Monitoring is off at the system too. -/
  switchedOff : (monitoringCalls run.effects).getLast?.getD false = false
  /-- No window is open at the system. -/
  closed : openTasks run.windows = []

/-- The report or announcement that a move hands to the worker, if it runs. -/
def posts (run : Run) : Move → List Event
  | .report update => if run.coordinator.isRunning then [.refreshed update] else []
  | .announce grant =>
    if run.coordinator.isRunning ∧ run.announced.count grant < run.asked.count grant then
      [.budgetExpired grant]
    else []
  | _ => []

/-- The command that a move sends to the worker, if it runs. -/
def sends (run : Run) : Move → List (Nat × Command)
  | .send ticket request =>
    if run.coordinator.isRunning then [(ticket, request.command)] else []
  | _ => []

/-- What the worker takes in a move. -/
def takes (run : Run) : Move → List Item
  | .turn moment => (run.coordinator.item? moment.now).toList
  | _ => []

/-- The answers that a move gives to callers. -/
def answers (run : Run) : Move → List (Nat × Answer)
  | .turn moment => (run.coordinator.turn? moment).elim [] (·.answers)
  | .cancel => run.coordinator.cancel.answers
  | _ => []

end Run

/-- A run with what was handed to the worker while it ran, and what it took. -/
structure Journal where
  run : Run
  /-- The reports and announcements that were handed to the worker, in order. -/
  posted : List Event
  /-- The commands that were sent to the worker, with their tickets, in order. -/
  sent : List (Nat × Command)
  /-- What the worker took, in order. -/
  taken : List Item

namespace Journal

/-- A journal at first. -/
def new (settings : CoordinatorSettings) : Journal := ⟨.new settings, [], [], []⟩

/-- The worker of a journal, with what waits for it. -/
abbrev coordinator (journal : Journal) : Coordinator := journal.run.coordinator

/-- A move. -/
def move (journal : Journal) (next : Move) : Journal where
  run := journal.run.move next
  posted := journal.posted ++ journal.run.posts next
  sent := journal.sent ++ journal.run.sends next
  taken := journal.taken ++ journal.run.takes next

/-- The journal of moves. -/
def of (settings : CoordinatorSettings) (moves : List Move) : Journal :=
  moves.foldl move (new settings)

theorem run_of (settings : CoordinatorSettings) (moves : List Move) :
    (of settings moves).run = .of settings moves :=
  (List.foldl_hom Journal.run fun _ _ => rfl).symm

/-- Nothing has happened to the worker, nothing was handed over and nothing taken. -/
structure Unmoved (journal after : Journal) : Prop where
  coordinator : after.coordinator =
    { journal.coordinator with
      isOpen := after.coordinator.isOpen
      isJoined := after.coordinator.isJoined }
  effects : after.run.effects = journal.run.effects
  windows : after.run.windows = journal.run.windows
  announced : journal.coordinator.life = .running → after.run.announced = journal.run.announced
  joined : after.coordinator.isJoined = true →
    journal.coordinator.isJoined = true ∨ journal.coordinator.life ≠ .running
  posted : after.posted = journal.posted
  sent : after.sent = journal.sent
  taken : after.taken = journal.taken

namespace Unmoved

variable {journal after last : Journal}

theorem refl (journal : Journal) : Unmoved journal journal :=
  ⟨rfl, rfl, rfl, fun _ => rfl, .inl, rfl, rfl, rfl⟩

theorem life (unmoved : Unmoved journal after) :
    after.coordinator.life = journal.coordinator.life := by
  rw [unmoved.coordinator]

theorem trans (first : Unmoved journal after) (second : Unmoved after last) :
    Unmoved journal last where
  coordinator := by
    rw [second.coordinator, first.coordinator]
  effects := second.effects.trans first.effects
  windows := second.windows.trans first.windows
  announced running :=
    (second.announced (first.life.trans running)).trans (first.announced running)
  joined again := by
    rcases second.joined again with before | ended
    · exact first.joined before
    · rw [first.life] at ended
      exact .inr ended
  posted := second.posted.trans first.posted
  sent := second.sent.trans first.sent
  taken := second.taken.trans first.taken

end Unmoved

/-- What a move comes to, and the answers that it gives. -/
inductive Recording : Journal → Journal → List (Nat × Answer) → Prop
  | unmoved {journal after : Journal} (unmoved : Unmoved journal after) :
      Recording journal after []
  | posted {journal : Journal} (running : journal.coordinator.life = .running) (event : Event)
      (later : List Nat) (origin : ∀ grant ∈ later, event = .budgetExpired grant) :
      Recording journal
        { journal with
          run :=
            { journal.run with
              coordinator :=
                { journal.coordinator with internal := journal.coordinator.internal ++ [event] }
              announced := journal.run.announced ++ later }
          posted := journal.posted ++ [event] } []
  | sent {journal : Journal} (running : journal.coordinator.life = .running) (ticket : Nat)
      (command : Command) :
      Recording journal
        { journal with
          run :=
            { journal.run with
              coordinator :=
                { journal.coordinator with
                  commands := journal.coordinator.commands ++ [(ticket, command)] } }
          sent := journal.sent ++ [(ticket, command)] } []
  | turned {journal : Journal} {moment : Moment} {item : Item} {rest : Coordinator}
      {progress : Progress} (running : journal.coordinator.life = .running)
      (first : First moment.now journal.coordinator item rest)
      (dealt : Dealt moment rest item progress) :
      Recording journal
        { journal with
          run := journal.run.take moment.window progress
          taken := journal.taken ++ [item] } progress.answers
  | cancelled {journal : Journal} (running : journal.coordinator.life = .running) :
      Recording journal
        { journal with run := journal.run.take none journal.coordinator.cancel }
        journal.coordinator.cancel.answers

variable {settings : CoordinatorSettings} {journal after : Journal}

theorem recording_of_same {next : Move} (same : journal.move next = journal)
    (quiet : journal.run.answers next = []) :
    Recording journal (journal.move next) (journal.run.answers next) := by
  rw [same, quiet]
  exact .unmoved (.refl journal)

theorem recording_announce (journal : Journal) (grant : Nat) :
    Recording journal (journal.move (.announce grant)) [] := by
  by_cases due : journal.run.announced.count grant < journal.run.asked.count grant
  · by_cases runs : journal.coordinator.isRunning = true
    · have posted := Recording.posted (isRunning_iff.mp runs) (.budgetExpired grant) [grant]
        (by simp)
      simpa [move, Run.move, Run.posts, Run.sends, Run.takes, Coordinator.post, due, runs]
        using posted
    · refine .unmoved ⟨?_, ?_, ?_, ?_, ?_, ?_, ?_, ?_⟩
      · simp [move, Run.move, Coordinator.post, due, runs]
      · simp [move, Run.move, Run.effects, due]
      · simp [move, Run.move, Run.windows, due]
      · exact fun running => absurd (isRunning_iff.mpr running) runs
      · exact fun _ => .inr (mt isRunning_iff.mpr runs)
      · simp [move, Run.posts, runs]
      · simp [move, Run.sends]
      · simp [move, Run.takes]
  · refine recording_of_same ?_ rfl
    simp [move, Run.move, Run.posts, Run.sends, Run.takes, due]

theorem recording_turn (journal : Journal) (moment : Moment) :
    Recording journal (journal.move (.turn moment)) (journal.run.answers (.turn moment)) := by
  cases turned : journal.coordinator.turn? moment with
  | none =>
    refine recording_of_same ?_ (by simp [Run.answers, turned])
    simp [move, Run.move, Run.posts, Run.sends, Run.takes, turned, item?_of_idle turned]
  | some progress =>
    obtain ⟨running, item, rest, next, first, dealt⟩ := dealt_of_turn turned
    have turning := Recording.turned running first dealt
    simpa [move, Run.move, Run.posts, Run.sends, Run.takes, Run.answers, turned, next]
      using turning

theorem recording_cancel (journal : Journal) :
    Recording journal (journal.move .cancel) journal.coordinator.cancel.answers := by
  by_cases runs : journal.coordinator.isRunning = true
  · have cancelled := Recording.cancelled (isRunning_iff.mp runs)
    simpa [move, Run.move, Run.posts, Run.sends, Run.takes] using cancelled
  · have ignored : journal.coordinator.cancel = ⟨journal.coordinator, [], []⟩ := if_neg runs
    rw [ignored]
    refine .unmoved ⟨?_, ?_, ?_, fun _ => rfl, fun _ => .inr (mt isRunning_iff.mpr runs), ?_, ?_,
      ?_⟩ <;>
      simp [move, Run.move, Run.posts, Run.sends, Run.takes, ignored, Run.take, Run.windows,
        Run.effects, windowEvents]

theorem recording_join (journal : Journal) : Recording journal (journal.move .join) [] := by
  cases joined : journal.coordinator.join? with
  | none =>
    refine recording_of_same ?_ rfl
    simp [move, Run.move, Run.posts, Run.sends, Run.takes, joined]
  | some joining =>
    obtain ⟨result, coordinator⟩ := joining
    obtain ⟨rfl, joining⟩ := joining_of_join joined
    have ended : journal.coordinator.isJoined = true ∨ journal.coordinator.life ≠ .running := by
      cases joining with
      | again before => exact .inl before
      | returned ended | failed ended => exact .inr (by simp [ended])
    refine .unmoved ⟨?_, ?_, ?_, ?_, fun _ => ended, ?_, ?_, ?_⟩ <;>
      simp [move, Run.move, Run.posts, Run.sends, Run.takes, joined, Run.windows, Run.effects]

theorem move_send (running : journal.coordinator.life = .running) (ticket : Nat)
    (request : CallerRequest) :
    journal.move (.send ticket request) =
      { journal with
        run :=
          { journal.run with
            coordinator :=
              { journal.coordinator with
                commands := journal.coordinator.commands ++ [(ticket, request.command)] } }
        sent := journal.sent ++ [(ticket, request.command)] } := by
  have runs : journal.coordinator.isRunning = true := isRunning_iff.mpr running
  simp [move, Run.move, Run.posts, Run.sends, Run.takes, Coordinator.send, runs]

theorem recording (journal : Journal) (next : Move) :
    Recording journal (journal.move next) (journal.run.answers next) := by
  cases next with
  | send ticket request =>
    by_cases runs : journal.coordinator.isRunning = true
    · have running := isRunning_iff.mp runs
      rw [move_send running]
      exact .sent running ticket request.command
    · refine recording_of_same ?_ rfl
      simp [move, Run.move, Run.posts, Run.sends, Run.takes, Coordinator.send, runs]
  | report update =>
    by_cases runs : journal.coordinator.isRunning = true
    · have posted := Recording.posted (isRunning_iff.mp runs) (.refreshed update) []
        (List.forall_mem_nil _)
      simpa [move, Run.move, Run.posts, Run.sends, Run.takes, Run.answers, Coordinator.post, runs]
        using posted
    · refine recording_of_same ?_ rfl
      simp [move, Run.move, Run.posts, Run.sends, Run.takes, Coordinator.post, runs]
  | announce grant => exact recording_announce journal grant
  | turn moment => exact recording_turn journal moment
  | close =>
    refine .unmoved ⟨?_, ?_, ?_, ?_, .inl, ?_, ?_, ?_⟩ <;>
      simp [move, Run.move, Run.posts, Run.sends, Run.takes, Coordinator.close, Run.windows,
        Run.effects]
  | cancel => exact recording_cancel journal
  | join => exact recording_join journal

theorem Recording.tickets {answers : List (Nat × Answer)}
    (recording : Recording journal after answers) (unsent : after.sent = journal.sent) :
    answers.map Prod.fst ++ after.coordinator.commands.map Prod.fst =
      journal.coordinator.commands.map Prod.fst := by
  cases recording with
  | unmoved unmoved =>
    have commands : after.coordinator.commands = journal.coordinator.commands := by
      rw [unmoved.coordinator]
    rw [commands]
    rfl
  | posted => rfl
  | sent => simp at unsent
  | turned running first dealt => exact dealt.tickets.trans first.tickets.symm
  | cancelled running =>
    have cancelled : journal.coordinator.cancel = _ := if_pos (isRunning_iff.mpr running)
    change journal.coordinator.cancel.answers.map Prod.fst ++
      journal.coordinator.cancel.coordinator.commands.map Prod.fst = _
    rw [cancelled]
    simp [Coordinator.finish, turnedAway_tickets]

theorem Recording.commands {answers : List (Nat × Answer)}
    (recording : Recording journal after answers) (unsent : after.sent = journal.sent) :
    after.coordinator.commands ⊆ journal.coordinator.commands := by
  cases recording with
  | unmoved unmoved =>
    have commands : after.coordinator.commands = journal.coordinator.commands := by
      rw [unmoved.coordinator]
    rw [commands]
    exact List.Subset.refl _
  | posted => exact List.Subset.refl _
  | sent => simp at unsent
  | turned running first dealt =>
    intro entry member
    rw [first.waiting.2]
    exact List.mem_append_right _ (dealt.commands member)
  | cancelled running => exact (cancel_frame journal.coordinator).2.2

/-- An answer either is the one to the command that was taken, when no report or announcement
waited, or tells of the worker's end. -/
theorem Recording.answered {answers : List (Nat × Answer)} {ticket : Nat} {answer : Answer}
    (recording : Recording journal after answers) (given : (ticket, answer) ∈ answers) :
    (∃ command, journal.coordinator.life = .running ∧ journal.coordinator.internal = [] ∧
        (ticket, command) ∈ journal.coordinator.commands ∧
        after.taken = journal.taken ++ [.command ticket command] ∧
        Reply journal.coordinator.worker command answer) ∨
      (answer = .dropped ∨ answer = .refused) ∧ after.coordinator.life ≠ .running := by
  cases recording with
  | unmoved | posted | sent => cases given
  | turned running first dealt =>
    obtain ⟨command, rfl, reply⟩ | ended := dealt.answered given
    · cases first with
      | command quiet waiting =>
        have queued : (ticket, command) ∈ journal.coordinator.commands := by
          rw [waiting]
          exact List.mem_cons_self
        exact .inl ⟨command, running, quiet, queued, rfl, reply⟩
    · exact .inr ended
  | cancelled running =>
    have cancelled : journal.coordinator.cancel = _ := if_pos (isRunning_iff.mpr running)
    rw [cancelled] at given
    refine .inr ⟨error_of_turnedAway given, ?_⟩
    change journal.coordinator.cancel.coordinator.life ≠ .running
    rw [cancelled]
    nofun

/-! ### What a journal accounts for -/

theorem filterMap_snoc {α β : Type} (view : α → Option β) (earlier : List α) (last : α) :
    (earlier ++ [last]).filterMap view = earlier.filterMap view ++ (view last).toList := by
  rw [List.filterMap_append]
  cases shown : view last <;> simp [shown]

/-- What was handed over was taken, in order, or still waits; the worker is as the events that it
took have left it, until it ends; and if it ended in order it is torn down. -/
structure Accounted (settings : CoordinatorSettings) (journal : Journal) : Prop where
  posted : ∃ left, journal.posted = journal.taken.filterMap Item.internal? ++ left ∧
    (journal.coordinator.life = .running → left = journal.coordinator.internal)
  sent : ∃ left, journal.sent = journal.taken.filterMap Item.command? ++ left ∧
    (journal.coordinator.life = .running → left = journal.coordinator.commands)
  followed : journal.coordinator.life = .running →
    ∃ history, Reached settings history journal.coordinator.worker ∧
      history.map (·.event) = journal.taken.filterMap Item.event? ∧
      effectsOf history = journal.run.effects
  announced : ∀ grant ∈ journal.run.announced,
    .budgetExpired grant ∈ journal.posted ∨ journal.coordinator.life ≠ .running
  joined : journal.coordinator.isJoined = true → journal.coordinator.life ≠ .running
  shutDown : ∀ ticket, .command ticket .shutdown ∈ journal.taken →
    journal.coordinator.life = .returned ∧
      ∃ earlier, journal.taken = earlier ++ [.command ticket .shutdown]
  returned : journal.coordinator.life = .returned →
    journal.coordinator.worker.Stopped ∧
      (monitoringCalls journal.run.effects).getLast?.getD false = false

namespace Accounted

theorem new (settings : CoordinatorSettings) : Accounted settings (.new settings) where
  posted := ⟨[], rfl, fun _ => rfl⟩
  sent := ⟨[], rfl, fun _ => rfl⟩
  followed _ := ⟨[], .new, rfl, rfl⟩
  announced := nofun
  joined := nofun
  shutDown := nofun
  returned := nofun

theorem unmoved (accounted : Accounted settings journal) (unmoved : Unmoved journal after) :
    Accounted settings after := by
  obtain ⟨coordinator, effects, windows, announced, joined, posted, sent, taken⟩ := unmoved
  have life : after.coordinator.life = journal.coordinator.life := by rw [coordinator]
  have worker : after.coordinator.worker = journal.coordinator.worker := by rw [coordinator]
  have internal : after.coordinator.internal = journal.coordinator.internal := by
    rw [coordinator]
  have commands : after.coordinator.commands = journal.coordinator.commands := by
    rw [coordinator]
  constructor
  · rw [posted, taken, life, internal]
    exact accounted.posted
  · rw [sent, taken, life, commands]
    exact accounted.sent
  · rw [life, worker, taken, effects]
    exact accounted.followed
  · intro grant member
    rw [posted, life]
    by_cases running : journal.coordinator.life = .running
    · rw [announced running] at member
      exact accounted.announced grant member
    · exact .inr running
  · intro again
    rw [life]
    exact (joined again).elim accounted.joined id
  · rw [taken, life]
    exact accounted.shutDown
  · rw [life, worker, effects]
    exact accounted.returned

theorem post (accounted : Accounted settings journal)
    (running : journal.coordinator.life = .running) (event : Event) (later : List Nat)
    (origin : ∀ grant ∈ later, event = .budgetExpired grant) :
    Accounted settings
      { journal with
        run :=
          { journal.run with
            coordinator :=
              { journal.coordinator with internal := journal.coordinator.internal ++ [event] }
            announced := journal.run.announced ++ later }
        posted := journal.posted ++ [event] } := by
  obtain ⟨left, posted, waits⟩ := accounted.posted
  refine ⟨⟨left ++ [event], ?_, ?_⟩, accounted.sent, accounted.followed, ?_, accounted.joined,
    accounted.shutDown, accounted.returned⟩
  · rw [posted, List.append_assoc]
  · intro _
    rw [waits running]
  · intro grant member
    rcases List.mem_append.mp member with earlier | last
    · rcases accounted.announced grant earlier with known | ended
      · exact .inl (List.mem_append_left _ known)
      · exact absurd running ended
    · rw [origin grant last]
      exact .inl List.mem_concat_self

theorem send (accounted : Accounted settings journal)
    (running : journal.coordinator.life = .running) (ticket : Nat) (command : Command) :
    Accounted settings
      { journal with
        run :=
          { journal.run with
            coordinator :=
              { journal.coordinator with
                commands := journal.coordinator.commands ++ [(ticket, command)] } }
        sent := journal.sent ++ [(ticket, command)] } := by
  obtain ⟨left, sent, waits⟩ := accounted.sent
  refine ⟨accounted.posted, ⟨left ++ [(ticket, command)], ?_, ?_⟩, accounted.followed,
    accounted.announced, accounted.joined, accounted.shutDown, accounted.returned⟩
  · rw [sent, List.append_assoc]
  · intro _
    rw [waits running]

theorem cancel (accounted : Accounted settings journal)
    (running : journal.coordinator.life = .running) :
    Accounted settings
      { journal with run := journal.run.take none journal.coordinator.cancel } := by
  have cancelled : journal.coordinator.cancel = _ := if_pos (isRunning_iff.mpr running)
  have life : journal.coordinator.cancel.coordinator.life = .failed .cancelled := by
    rw [cancelled]
    rfl
  have joined : journal.coordinator.cancel.coordinator.isJoined =
      journal.coordinator.isJoined := by
    rw [cancelled]
    rfl
  obtain ⟨posted, postedSo, _⟩ := accounted.posted
  obtain ⟨sent, sentSo, _⟩ := accounted.sent
  have ended : journal.coordinator.cancel.coordinator.life ≠ .running := by
    rw [life]
    nofun
  refine ⟨⟨posted, postedSo, fun runs => absurd runs ended⟩,
    ⟨sent, sentSo, fun runs => absurd runs ended⟩, fun runs => absurd runs ended,
    fun _ _ => .inr ended, fun _ => ended, ?_, ?_⟩
  · intro ticket member
    have returned := running.symm.trans (accounted.shutDown ticket member).1
    cases returned
  · intro returned
    have both := life.symm.trans returned
    cases both

section

variable {moment : Moment} {item : Item} {rest : Coordinator} {progress : Progress}
  {history : List Handled}

/-- The worker after a turn in which it runs on is as one more event has left it, if it handled
one. -/
theorem followed_turn (dealt : Dealt moment rest item progress)
    (configured : rest.settings = settings) (reached : Reached settings history rest.worker)
    (running : progress.coordinator.life = .running) :
    ∃ later, Reached settings (history ++ later) progress.coordinator.worker ∧
      later.map (·.event) = item.event?.toList ∧ effectsOf later = progress.effects := by
  cases dealt with
  | handled due handled =>
    rw [configured] at handled
    exact ⟨[_], reached.handle moment _ handled, by simp [due], by simp [effectsOf]⟩
  | shown => exact ⟨[], by simpa using reached, rfl, rfl⟩
  | crashed | shutDown | left => cases running

theorem stopped_turn (dealt : Dealt moment rest item progress) (running : rest.life = .running)
    (reached : Reached settings history rest.worker)
    (returned : progress.coordinator.life = .returned) :
    progress.coordinator.worker.Stopped ∧
      (monitoringCalls (effectsOf history ++ progress.effects)).getLast?.getD false = false := by
  have inactive := tearDown_inactive rest.worker
  have stopped := reached.tearDown.stopped inactive
  have switched := reached.tearDown.tallied.lastCall
  rw [effectsOf_snoc, inactive] at switched
  cases dealt with
  | shutDown | left =>
    rw [finish_of_free stopped.held]
    exact ⟨stopped, switched⟩
  | handled | shown => cases running.symm.trans returned
  | crashed => cases returned

/-- A turn takes the first of all that waits, and nothing else is lost while the worker runs on. -/
theorem turn (accounted : Accounted settings journal)
    (configured : journal.coordinator.settings = settings)
    (running : journal.coordinator.life = .running)
    (first : First moment.now journal.coordinator item rest)
    (dealt : Dealt moment rest item progress) :
    Accounted settings
      { journal with
        run := journal.run.take moment.window progress
        taken := journal.taken ++ [item] } := by
  obtain ⟨sameSettings, sameLife, sameJoined⟩ := first.frame
  have runs := sameLife.trans running
  obtain ⟨history, reached, events, effects⟩ := accounted.followed running
  have reachedRest := first.reached reached
  obtain ⟨internal, commands⟩ := first.waiting
  constructor
  · obtain ⟨left, posted, waits⟩ := accounted.posted
    refine ⟨rest.internal, ?_, fun still => (dealt.waiting still).1.symm⟩
    rw [posted, waits running, internal, filterMap_snoc, List.append_assoc]
  · obtain ⟨left, sent, waits⟩ := accounted.sent
    refine ⟨rest.commands, ?_, fun still => (dealt.waiting still).2.symm⟩
    rw [sent, waits running, commands, filterMap_snoc, List.append_assoc]
  · intro still
    obtain ⟨later, reached, more, done⟩ :=
      followed_turn dealt (sameSettings.trans configured) reachedRest still
    refine ⟨_, reached, ?_, ?_⟩
    · rw [List.map_append, events, more, filterMap_snoc]
    · rw [Run.effects_take, ← effects, ← done]
      exact List.flatMap_append
  · intro grant member
    rcases accounted.announced grant member with known | ended
    · exact .inl known
    · exact absurd running ended
  · intro again
    have joined : journal.coordinator.isJoined = true :=
      sameJoined.symm.trans (dealt.joined.symm.trans again)
    exact absurd running (accounted.joined joined)
  · intro ticket member
    rcases List.mem_append.mp member with earlier | last
    · cases running.symm.trans (accounted.shutDown ticket earlier).1
    · cases List.mem_singleton.mp last
      cases dealt with
      | handled due | crashed due => cases due
      | shutDown => exact ⟨rfl, journal.taken, rfl⟩
  · intro returned
    rw [Run.effects_take, ← effects]
    exact stopped_turn dealt runs reachedRest returned

end

theorem record {answers : List (Nat × Answer)} (accounted : Accounted settings journal)
    (sound : Sound settings journal.run) (recording : Recording journal after answers) :
    Accounted settings after := by
  cases recording with
  | unmoved unmoved => exact accounted.unmoved unmoved
  | posted running event later origin => exact accounted.post running event later origin
  | sent running ticket command => exact accounted.send running ticket command
  | turned running first dealt => exact accounted.turn sound.configured running first dealt
  | cancelled running => exact accounted.cancel running

end Accounted

theorem move_of (settings : CoordinatorSettings) (moves : List Move) (next : Move) :
    (of settings moves).move next = of settings (moves ++ [next]) := by
  simp [of]

theorem accounted (settings : CoordinatorSettings) (moves : List Move) :
    Accounted settings (of settings moves) := by
  have kept : ∀ journal, Sound settings journal.run → Accounted settings journal →
      Accounted settings (moves.foldl move journal) := by
    induction moves with
    | nil => exact fun _ _ accounted => accounted
    | cons next moves ih =>
      intro journal sound accounted
      exact ih _ (sound.move (journal.run.moving next))
        (accounted.record sound (journal.recording next))
  exact kept _ (.new settings) (.new settings)

/-- A worker that has ended stays as it is, and is handed nothing and takes nothing. -/
theorem unmoved_of_ended (ended : journal.coordinator.life ≠ .running) (next : Move) :
    Unmoved journal (journal.move next) := by
  have recording := journal.recording next
  generalize journal.move next = after, journal.run.answers next = answers at recording
  cases recording with
  | unmoved unmoved => exact unmoved
  | posted running | sent running | turned running | cancelled running =>
    exact absurd running ended

/-- A journal goes on: nothing is taken back, and once the worker has ended nothing happens to it
any more. -/
structure Follows (journal after : Journal) : Prop where
  posted : journal.posted <+: after.posted
  sent : journal.sent <+: after.sent
  taken : journal.taken <+: after.taken
  ended : journal.coordinator.life ≠ .running → Unmoved journal after

namespace Follows

variable {last : Journal}

theorem refl (journal : Journal) : Follows journal journal :=
  ⟨List.prefix_rfl, List.prefix_rfl, List.prefix_rfl, fun _ => .refl journal⟩

theorem trans (first : Follows journal after) (second : Follows after last) :
    Follows journal last where
  posted := first.posted.trans second.posted
  sent := first.sent.trans second.sent
  taken := first.taken.trans second.taken
  ended gone := by
    have still := first.ended gone
    exact still.trans (second.ended (by rwa [still.life]))

theorem move (journal : Journal) (next : Move) : Follows journal (journal.move next) :=
  ⟨List.prefix_append _ _, List.prefix_append _ _, List.prefix_append _ _,
    fun ended => unmoved_of_ended ended next⟩

/-- A worker that runs has always run. -/
theorem running (follows : Follows journal after)
    (runs : after.coordinator.life = .running) : journal.coordinator.life = .running := by
  by_cases ended : journal.coordinator.life = .running
  · exact ended
  · exact (follows.ended ended).life.symm.trans runs

end Follows

theorem tornDown {moves : List Move}
    (returned : (of settings moves).coordinator.life = .returned) :
    (of settings moves).run.TornDown := by
  obtain ⟨stopped, switchedOff⟩ := (accounted settings moves).returned returned
  refine ⟨stopped, switchedOff, ?_⟩
  have booked : Ledger _ _ _ := Run.booked settings moves
  rw [← run_of] at booked
  have tasks : openTasks (of settings moves).run.windows = _ := booked.tasks
  rw [tasks]
  have held : (of settings moves).run.coordinator.worker.held = none := stopped.held
  simp [Worker.windowState, held]

end Journal

end BackgroundWork.Compression
