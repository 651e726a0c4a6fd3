import BackgroundWork.Proofs.ExportJourney

set_option autoImplicit false

/-!
Exports that are asked for at one coordinator while others run. Calls go on by one operation at a
time, in any order and with any answers, and each can be dropped before any of its operations. The
guard follows the one call that was let in. Main statement: no two calls are past the guard, a
refused call does nothing at all, and whichever way a call leaves, the next one is let in.
-/

namespace BackgroundWork.Export

/-! ### Refusals from outside -/

/-- Whether whatever runs the job answers as if it refused the export. -/
def IsRefusal : (op : Asked) → Reply op → Prop
  | .inr _, answer => answer = .error .exportInProgress
  | .inl _, _ => False

/-- An export ends as refused only if it was answered so. -/
def Process.Honest : Process → Prop
  | .done result => result ≠ .error .exportInProgress
  | .ask op next => ∀ answer, ¬IsRefusal op answer → Honest (next answer)

theorem Process.finish_honest (path : String) (job : Job) : (finish path job).Honest := by
  intro _ _
  dsimp only
  split
  · split
    · exact fun _ _ => nofun
    · exact nofun
  · exact nofun

theorem Process.answered_honest {after : Job → Process} (later : ∀ job, (after job).Honest)
    (answer : Except ServiceError Job) :
    answer ≠ .error .exportInProgress →
      Process.Honest
        (match answer with
        | .error error => .done (.error error)
        | .ok job => after job) := by
  intro fair
  cases answer with
  | error error => exact fun same => fair (congrArg _ (Except.error.inj same))
  | ok job => exact later job

theorem Process.follow_honest (intervalMs : Nat) (path : String) (attempts : UInt32) (left : Nat)
    (job : Job) : (follow intervalMs path attempts left job).Honest := by
  induction left generalizing attempts job with
  | zero =>
    unfold follow
    split
    · exact finish_honest path job
    all_goals exact nofun
  | succ left ih =>
    unfold follow
    split
    · exact finish_honest path job
    · exact nofun
    all_goals exact fun _ _ _ _ => answered_honest (ih _)

theorem Process.start_honest (settings : PollSettings) (assignment : Assignment) :
    (start settings assignment).Honest := by
  intro _ _ created _
  cases created with
  | error message => exact nofun
  | ok _ => exact fun _ _ => answered_honest (follow_honest _ _ _ _)

/-! ### Calls at a coordinator -/

/-- How a call stands. -/
inductive Standing where
  /-- Answered on entry. -/
  | answered (result : Except ServiceError Outcome)
  /-- Let in, with what is left to do. -/
  | running (process : Process)
  | ended (result : Except ServiceError Outcome)
  /-- Given up by its caller on the way. -/
  | dropped

/-- A call for an export. -/
structure Call where
  /-- What was selected on entry. -/
  wanted : Selection
  /-- What is selected now. -/
  selection : Selection
  /-- What was asked for, in order. -/
  asked : List Asked
  standing : Standing

/-- A call on entry. -/
def Call.new (selection : Selection) (standing : Standing) : Call :=
  ⟨selection, selection, [], standing⟩

/-- Whether a call is past the guard. -/
def Call.isRunning (call : Call) : Bool :=
  match call.standing with
  | .running _ => true
  | .answered _ | .ended _ | .dropped => false

/-- What a call was answered, if it was. -/
def Call.result? (call : Call) : Option (Except ServiceError Outcome) :=
  match call.standing with
  | .answered result | .ended result => some result
  | .running _ | .dropped => none

/-- A call that was let in is not answered as refused. -/
def Call.Honest (call : Call) : Prop :=
  match call.standing with
  | .running process => process.Honest
  | .ended result => result ≠ .error .exportInProgress
  | .answered _ | .dropped => True

/-- A coordinator with the calls for exports that it got, each known by its number. -/
structure Traffic where
  coordinator : Coordinator
  calls : List Call
  /-- The phases that were written, each with the number of the call that did so. -/
  written : List (Nat × Phase)

namespace Traffic

/-- What can happen at a coordinator. -/
inductive Move where
  | call (assignment : Assignment)
  /-- A call goes on: with the given answer to what it asks for, or to its end. -/
  | proceed (number : Nat) (reply : (op : Asked) → Reply op)
  | drop (number : Nat)

/-- Whether a call goes on with an answer as if it was refused. -/
def Move.Refuses (number : Nat) : Move → Prop
  | .proceed other reply => other = number ∧ ∃ op, IsRefusal op (reply op)
  | .call _ | .drop _ => False

def new : Traffic := ⟨.new, [], []⟩

def add (traffic : Traffic) (call : Call) (coordinator : Coordinator) : Traffic :=
  { traffic with coordinator, calls := traffic.calls ++ [call] }

/-- A call gets on, and writes phases. -/
def put (traffic : Traffic) (number : Nat) (call : Call) (coordinator : Coordinator)
    (phases : List Phase) : Traffic where
  coordinator
  calls := traffic.calls.set number call
  written := traffic.written ++ phases.map fun phase => (number, phase)

/-- A call comes in. -/
def receive (traffic : Traffic) (settings : PollSettings) (assignment : Assignment) : Traffic :=
  let selection := assignment.selection
  match traffic.coordinator.enter selection with
  | .answered result => traffic.add (.new selection (.answered result)) traffic.coordinator
  | .entered coordinator =>
    traffic.add (.new selection (.running (.start settings assignment))) coordinator

/-- A call that is past the guard asks for an operation and goes on with the rest. -/
def ask (traffic : Traffic) (number : Nat) (call : Call) (op : Asked) (rest : Process) :
    Traffic :=
  let journey := Journey.ask ⟨traffic.coordinator, call.selection, call.asked⟩ op
  traffic.put number
    { call with
      selection := journey.selection
      asked := journey.asked
      standing := .running rest }
    journey.coordinator (phase? op).toList

/-- A call that is past the guard ends. -/
def finish (traffic : Traffic) (number : Nat) (call : Call)
    (result : Except ServiceError Outcome) : Traffic :=
  traffic.put number { call with standing := .ended result }
    (traffic.coordinator.finish result) [Coordinator.lastPhase result]

/-- A call that is past the guard is dropped. -/
def abandon (traffic : Traffic) (number : Nat) (call : Call) : Traffic :=
  traffic.put number { call with standing := .dropped } traffic.coordinator.abandon []

/-- A move. A call that has left makes none. -/
def move (settings : PollSettings) (traffic : Traffic) : Move → Traffic
  | .call assignment => traffic.receive settings assignment
  | .proceed number reply =>
    match traffic.calls[number]? with
    | none => traffic
    | some call =>
      match call.standing with
      | .running (.ask op next) => traffic.ask number call op (next (reply op))
      | .running (.done result) => traffic.finish number call result
      | .answered _ | .ended _ | .dropped => traffic
  | .drop number =>
    match traffic.calls[number]? with
    | none => traffic
    | some call => if call.isRunning then traffic.abandon number call else traffic

/-- The traffic after further moves. -/
def moves (settings : PollSettings) (traffic : Traffic) (later : List Move) : Traffic :=
  later.foldl (move settings) traffic

/-- The traffic that moves lead to. -/
def of (settings : PollSettings) (history : List Move) : Traffic :=
  new.moves settings history

/-- Whether the call of a number is past the guard. -/
def isRunning (traffic : Traffic) (number : Nat) : Bool :=
  traffic.calls[number]?.any Call.isRunning

theorem isRunning_of_found {traffic : Traffic} {number : Nat} {call : Call}
    (found : traffic.calls[number]? = some call) :
    traffic.isRunning number = call.isRunning := by
  simp only [isRunning, found, Option.any_some]

theorem found_add {traffic : Traffic} {call other : Call} {coordinator : Coordinator}
    {number : Nat} :
    (traffic.add call coordinator).calls[number]? = some other ↔
      traffic.calls[number]? = some other ∨ number = traffic.calls.length ∧ call = other := by
  unfold add
  rcases Nat.lt_trichotomy number traffic.calls.length with below | rfl | above
  · simp [List.getElem?_append_left below, Nat.ne_of_lt below]
  · simp
  · have late : (traffic.calls ++ [call])[number]? = none := by simp; omega
    simp [late, Nat.ne_of_gt above, Nat.le_of_lt above]

theorem isRunning_add (traffic : Traffic) (call : Call) (coordinator : Coordinator)
    (number : Nat) :
    (traffic.add call coordinator).isRunning number = true ↔
      traffic.isRunning number = true ∨
        number = traffic.calls.length ∧ call.isRunning = true := by
  simp only [isRunning, Option.any_eq_true, found_add, or_and_right, exists_or, and_assoc,
    exists_and_left, exists_eq_left']

section Put

variable {traffic : Traffic} {number other : Nat} {call : Call} {coordinator : Coordinator}
  {phases : List Phase}

theorem put_self (known : number < traffic.calls.length) :
    (traffic.put number call coordinator phases).calls[number]? = some call :=
  List.getElem?_set_self known

theorem put_other (different : other ≠ number) :
    (traffic.put number call coordinator phases).calls[other]? = traffic.calls[other]? :=
  List.getElem?_set_ne (Ne.symm different)

theorem isRunning_put_self (known : number < traffic.calls.length) :
    (traffic.put number call coordinator phases).isRunning number = call.isRunning :=
  isRunning_of_found (put_self known)

theorem isRunning_put_other (different : other ≠ number) :
    (traffic.put number call coordinator phases).isRunning other = traffic.isRunning other :=
  congrArg (Option.any Call.isRunning) (put_other different)

/-- A call that gets on writes only phases of its own. -/
theorem written_put_other (different : other ≠ number) (phase : Phase) :
    (other, phase) ∈ (traffic.put number call coordinator phases).written ↔
      (other, phase) ∈ traffic.written := by
  simp [put, Ne.symm different]

end Put

/-! ### What moves come to -/

/-- What a move can come to. -/
inductive Moving (settings : PollSettings) (next : Move) : Traffic → Traffic → Prop
  | ignored {traffic : Traffic} : Moving settings next traffic traffic
  | answered {traffic : Traffic} {selection : Selection}
      (result : Except ServiceError Outcome) :
      Moving settings next traffic
        (traffic.add (.new selection (.answered result)) traffic.coordinator)
  | entered {traffic : Traffic} (assignment : Assignment)
      (free : traffic.coordinator.isBusy = false) :
      Moving settings next traffic
        (traffic.add (.new assignment.selection (.running (.start settings assignment)))
          { traffic.coordinator with isBusy := true })
  /-- A call that is past the guard gets on, and leaves the guard only with its end. -/
  | went {traffic : Traffic} {number : Nat} {call later : Call} {coordinator : Coordinator}
      {phases : List Phase} (found : traffic.calls[number]? = some call)
      (running : call.isRunning = true)
      (guarded : coordinator.isBusy = (later.isRunning && traffic.coordinator.isBusy))
      (shown : coordinator.phase = phases.getLast?.getD traffic.coordinator.phase)
      (admitted : ∀ result, later.standing ≠ .answered result)
      (honest : ¬next.Refuses number → call.Honest → later.Honest) :
      Moving settings next traffic (traffic.put number later coordinator phases)

theorem enter_of_selected (coordinator : Coordinator) {selection : Selection}
    (selected : selection.isEmpty = false) :
    coordinator.enter selection =
      if coordinator.isBusy then .answered (.error .exportInProgress)
      else .entered { coordinator with isBusy := true } := by
  simp only [Coordinator.enter, selected, Bool.false_eq_true, ↓reduceIte]

theorem enter_entered {coordinator next : Coordinator} {selection : Selection}
    (entry : coordinator.enter selection = .entered next) :
    coordinator.isBusy = false ∧ next = { coordinator with isBusy := true } := by
  unfold Coordinator.enter at entry
  split at entry
  · cases entry
  split at entry
  · cases entry
  · rename_i free
    cases entry
    exact ⟨Bool.not_eq_true _ ▸ free, rfl⟩

theorem moving (settings : PollSettings) (traffic : Traffic) (next : Move) :
    Moving settings next traffic (traffic.move settings next) := by
  cases next with
  | call assignment =>
    simp only [move, receive]
    split
    · exact .answered _
    · rename_i entry
      obtain ⟨free, rfl⟩ := enter_entered entry
      exact .entered assignment free
  | proceed number reply =>
    simp only [move]
    split
    · exact .ignored
    · rename_i call found
      split
      · rename_i op next standing
        have running : call.isRunning = true := by simp only [Call.isRunning, standing]
        have asked := Journey.ask_coordinator
          ⟨traffic.coordinator, call.selection, call.asked⟩ op
        refine .went found running ?_ ?_ nofun ?_
        · exact (congrArg Coordinator.isBusy asked).trans rfl
        · refine (congrArg Coordinator.phase asked).trans ?_
          cases phase? op <;> rfl
        · intro fair honest
          simp only [Call.Honest, standing] at honest
          exact honest _ fun refused => fair ⟨rfl, op, refused⟩
      · rename_i result standing
        have running : call.isRunning = true := by simp only [Call.isRunning, standing]
        refine .went found running rfl rfl nofun fun _ honest => ?_
        simpa only [Call.Honest, Process.Honest, standing] using honest
      all_goals exact .ignored
  | drop number =>
    simp only [move]
    split
    · exact .ignored
    · rename_i call found
      split
      · rename_i running
        exact .went found running rfl rfl nofun fun _ _ => trivial
      · exact .ignored

/-! ### The guard -/

/-- The guard is taken exactly as long as the one call that is past it runs. Calls that were
answered on entry left no trace. -/
structure Guarded (history : List Move) (traffic : Traffic) : Prop where
  held : ∃ holder : Option Nat, traffic.coordinator.isBusy = holder.isSome ∧
    ∀ number, traffic.isRunning number = true ↔ holder = some number
  silent : ∀ number call result, traffic.calls[number]? = some call →
    call.standing = .answered result →
      call.asked = [] ∧ call.selection = call.wanted ∧
        ∀ phase, (number, phase) ∉ traffic.written
  numbered : ∀ entry ∈ traffic.written, entry.1 < traffic.calls.length
  shown : traffic.coordinator.phase = (traffic.written.getLast?.map Prod.snd).getD .idle
  honest : ∀ number call, traffic.calls[number]? = some call →
    (∀ move ∈ history, ¬move.Refuses number) → call.Honest

theorem new_guarded : Guarded [] new where
  held := ⟨none, rfl, fun _ => by simp [isRunning, new]⟩
  silent _ _ _ found := by cases found
  numbered _ found := by cases found
  shown := rfl
  honest _ _ found := by cases found

section Guarded

variable {settings : PollSettings} {history : List Move} {next : Move} {traffic : Traffic}

/-- A new call has left no trace yet. -/
theorem Guarded.add (guarded : Guarded history traffic) {selection : Selection}
    {standing : Standing} {coordinator : Coordinator}
    (phase : coordinator.phase = traffic.coordinator.phase)
    (honest : (Call.new selection standing).Honest)
    (held : ∃ holder : Option Nat, coordinator.isBusy = holder.isSome ∧
      ∀ number, (traffic.add (.new selection standing) coordinator).isRunning number = true ↔
        holder = some number) :
    Guarded (history ++ [next]) (traffic.add (.new selection standing) coordinator) where
  held := held
  silent number call result found answered := by
    rcases found_add.1 found with earlier | ⟨rfl, rfl⟩
    · exact guarded.silent number call result earlier answered
    · exact ⟨rfl, rfl, fun phase wrote => absurd (guarded.numbered _ wrote) (Nat.lt_irrefl _)⟩
  numbered entry wrote := by
    have below := guarded.numbered entry wrote
    simp only [Traffic.add, List.length_append]
    omega
  shown := phase.trans guarded.shown
  honest number call found fair := by
    rcases found_add.1 found with earlier | ⟨rfl, rfl⟩
    · exact guarded.honest number call earlier fun move said => fair move (by simp [said])
    · exact honest

/-- A call that gets on touches no other. -/
theorem Guarded.put (guarded : Guarded history traffic) {number : Nat} {call later : Call}
    {coordinator : Coordinator} {phases : List Phase}
    (found : traffic.calls[number]? = some call)
    (running : call.isRunning = true)
    (busy : coordinator.isBusy = (later.isRunning && traffic.coordinator.isBusy))
    (shown : coordinator.phase = phases.getLast?.getD traffic.coordinator.phase)
    (admitted : ∀ result, later.standing ≠ .answered result)
    (honest : ¬next.Refuses number → call.Honest → later.Honest) :
    Guarded (history ++ [next]) (traffic.put number later coordinator phases) := by
  have known : number < traffic.calls.length := (List.getElem?_eq_some_iff.1 found).1
  refine ⟨?_, ?_, ?_, ?_, ?_⟩
  -- The call is past the guard, so it is the holder, and the guard is free once it has left.
  · obtain ⟨holder, taken, held⟩ := guarded.held
    have holding : holder = some number := (held number).1 (isRunning_of_found found ▸ running)
    subst holding
    refine ⟨if later.isRunning then some number else none, ?_, fun other => ?_⟩
    · refine busy.trans ?_
      rw [taken]
      cases later.isRunning <;> rfl
    · by_cases same : other = number
      · subst same
        rw [isRunning_put_self known]
        simp
      · rw [isRunning_put_other same, held]
        simp [Ne.symm same]
  · intro other answered result present stands
    by_cases same : other = number
    · subst same
      obtain rfl := Option.some.inj ((put_self known).symm.trans present)
      exact absurd stands (admitted result)
    · obtain ⟨idle, kept, unwritten⟩ :=
        guarded.silent other answered result ((put_other same).symm.trans present) stands
      exact ⟨idle, kept, fun phase wrote =>
        unwritten phase ((written_put_other same phase).1 wrote)⟩
  · intro entry wrote
    simp only [Traffic.put, List.length_set]
    rcases List.mem_append.1 wrote with earlier | now
    · exact guarded.numbered entry earlier
    · obtain ⟨_, _, rfl⟩ := List.mem_map.1 now
      exact known
  · simp only [Traffic.put]
    rw [shown, guarded.shown, List.getLast?_append, List.getLast?_map]
    cases phases.getLast? <;> rfl
  · intro other answered present fair
    have before : ∀ move ∈ history, ¬move.Refuses other :=
      fun move said => fair move (by simp [said])
    by_cases same : other = number
    · subst same
      obtain rfl := Option.some.inj ((put_self known).symm.trans present)
      exact honest (fair next (by simp)) (guarded.honest other call found before)
    · exact guarded.honest other answered ((put_other same).symm.trans present) before

theorem Guarded.move {after : Traffic} (guarded : Guarded history traffic)
    (moving : Moving settings next traffic after) : Guarded (history ++ [next]) after := by
  obtain ⟨holder, busy, held⟩ := guarded.held
  cases moving with
  | ignored =>
    exact { guarded with
      honest := fun number call found fair =>
        guarded.honest number call found fun move said => fair move (by simp [said]) }
  | answered result =>
    refine guarded.add rfl trivial ⟨holder, busy, fun number => ?_⟩
    rw [isRunning_add, held]
    exact or_iff_left fun other => Bool.false_ne_true other.2
  | entered assignment free =>
    obtain rfl : holder = none := Option.not_isSome_iff_eq_none.1 (by simp [← busy, free])
    refine guarded.add rfl (Process.start_honest settings assignment)
      ⟨some traffic.calls.length, rfl, fun number => ?_⟩
    rw [isRunning_add, held]
    simp [Call.isRunning, Call.new, eq_comm]
  | went found running free shown admitted honest =>
    exact guarded.put found running free shown admitted honest

theorem Guarded.moves (guarded : Guarded history traffic) (later : List Move) :
    Guarded (history ++ later) (traffic.moves settings later) := by
  induction later generalizing history traffic with
  | nil => simpa [Traffic.moves] using guarded
  | cons next later ih =>
    have rest := ih (guarded.move (moving settings traffic next))
    simpa [Traffic.moves] using rest

theorem of_guarded (settings : PollSettings) (history : List Move) :
    Guarded history (of settings history) :=
  new_guarded.moves history

/-! ### One at a time -/

theorem Guarded.isBusy_iff (guarded : Guarded history traffic) :
    traffic.coordinator.isBusy = true ↔ ∃ number, traffic.isRunning number = true := by
  obtain ⟨holder, busy, held⟩ := guarded.held
  simp only [busy, held, Option.isSome_iff_exists]

theorem Guarded.unique (guarded : Guarded history traffic) {first second : Nat}
    (one : traffic.isRunning first = true) (other : traffic.isRunning second = true) :
    first = second := by
  obtain ⟨holder, _, held⟩ := guarded.held
  have same : some first = some second := ((held first).1 one).symm.trans ((held second).1 other)
  exact Option.some.inj same

/-- A call is let in if none is past the guard, and it is refused otherwise. -/
theorem Guarded.receive (guarded : Guarded history traffic) (settings : PollSettings)
    {assignment : Assignment}
    (selected : assignment.selection.isEmpty = false) :
    ((∀ number, traffic.isRunning number = false) →
      traffic.receive settings assignment =
        traffic.add (.new assignment.selection (.running (.start settings assignment)))
          { traffic.coordinator with isBusy := true }) ∧
    ((∃ number, traffic.isRunning number = true) →
      traffic.receive settings assignment =
        traffic.add (.new assignment.selection (.answered (.error .exportInProgress)))
          traffic.coordinator) := by
  simp only [Traffic.receive, enter_of_selected traffic.coordinator selected]
  cases busy : traffic.coordinator.isBusy with
  | false =>
    have none := mt guarded.isBusy_iff.2 (by simp [busy])
    exact ⟨fun _ => rfl, fun some => absurd some none⟩
  | true =>
    obtain ⟨number, running⟩ := guarded.isBusy_iff.1 busy
    exact ⟨fun none => absurd running (by simp [none number]), fun _ => rfl⟩

/-- Once the call that was past the guard has left, none is. -/
theorem Guarded.free_of_left (guarded : Guarded history traffic) {after : Traffic} {number : Nat}
    (moving : Moving settings next traffic after) (running : traffic.isRunning number = true)
    (left : after.isRunning number = false) (other : Nat) : after.isRunning other = false := by
  cases moving with
  | ignored => exact absurd running (by simp [left])
  | answered result =>
    exact absurd (left.symm.trans ((isRunning_add _ _ _ _).2 (.inl running))) Bool.false_ne_true
  | entered assignment free =>
    exact absurd (guarded.isBusy_iff.2 ⟨number, running⟩) (by simp [free])
  | @went holder call _ _ _ found runs _ _ _ _ =>
    have known : holder < traffic.calls.length := (List.getElem?_eq_some_iff.1 found).1
    obtain rfl : number = holder := guarded.unique running ((isRunning_of_found found).trans runs)
    by_cases same : other = number
    · exact same ▸ left
    · rw [isRunning_put_other same]
      exact Bool.eq_false_iff.2 fun further => same (guarded.unique further running)

/-! ### Leaving -/

theorem move_ask (settings : PollSettings) {number : Nat} {call : Call} {op : Asked}
    {rest : Reply op → Process} (found : traffic.calls[number]? = some call)
    (standing : call.standing = .running (.ask op rest)) (reply : (op : Asked) → Reply op) :
    traffic.move settings (.proceed number reply) =
      traffic.ask number call op (rest (reply op)) := by
  simp only [Traffic.move, found, standing]

theorem move_done (settings : PollSettings) {number : Nat} {call : Call}
    {result : Except ServiceError Outcome} (found : traffic.calls[number]? = some call)
    (standing : call.standing = .running (.done result)) (reply : (op : Asked) → Reply op) :
    traffic.move settings (.proceed number reply) = traffic.finish number call result := by
  simp only [Traffic.move, found, standing]

theorem move_drop {number : Nat} {call : Call} (found : traffic.calls[number]? = some call)
    (running : call.isRunning = true) :
    traffic.move settings (.drop number) = traffic.abandon number call := by
  simp only [Traffic.move, found, running, ↓reduceIte]

/-- A call that goes on leaves sometime, whatever it is answered. -/
theorem leaves (settings : PollSettings) {number : Nat} (reply : Nat → (op : Asked) → Reply op)
    (process : Process) (first : Nat) {call : Call} (found : traffic.calls[number]? = some call)
    (standing : call.standing = .running process) :
    ∃ steps, (traffic.moves settings
      ((List.range' first steps).map fun i => .proceed number (reply i))).isRunning number =
        false := by
  have known : number < traffic.calls.length := (List.getElem?_eq_some_iff.1 found).1
  -- Induction on what the call has left to do: every answer leads to a part of it.
  induction process generalizing traffic call first with
  | done result =>
    refine ⟨1, ?_⟩
    have step := move_done settings found standing (reply first)
    simp only [List.range'_one, List.map_cons, List.map_nil, Traffic.moves, List.foldl_cons,
      List.foldl_nil, step]
    exact isRunning_put_self known
  | ask op next ih =>
    have step := move_ask settings found standing (reply first)
    let asked := traffic.ask number call op (next (reply first op))
    have later : asked.calls[number]? = some _ := put_self known
    obtain ⟨steps, left⟩ := ih (reply first op) (first + 1) later rfl
      (List.getElem?_eq_some_iff.1 later).1
    refine ⟨steps + 1, ?_⟩
    simpa only [List.range'_succ, List.map_cons, Traffic.moves, List.foldl_cons, step] using left

end Guarded

/-- At a coordinator no two calls are past the guard. While one is, others are refused: they ask
for nothing, write no phase and leave their selection as it is. Each call that is past the guard
leaves it, by its end or by being dropped, and then the next is let in. -/
theorem single_flight (settings : PollSettings) (history : List Move) :
    let traffic := of settings history
    (∀ first second, traffic.isRunning first = true → traffic.isRunning second = true →
      first = second) ∧
    (∀ assignment, assignment.selection.isEmpty = false →
      ((∀ number, traffic.isRunning number = false) →
        traffic.move settings (.call assignment) =
          traffic.add (.new assignment.selection (.running (.start settings assignment)))
            { traffic.coordinator with isBusy := true }) ∧
      ((∃ number, traffic.isRunning number = true) →
        traffic.move settings (.call assignment) =
          traffic.add (.new assignment.selection (.answered (.error .exportInProgress)))
            traffic.coordinator)) ∧
    (∀ number call, traffic.calls[number]? = some call →
      call.result? = some (.error .exportInProgress) →
      (∀ move ∈ history, ¬move.Refuses number) →
        call.asked = [] ∧ call.selection = call.wanted ∧
          ∀ phase, (number, phase) ∉ traffic.written) ∧
    traffic.coordinator.phase = (traffic.written.getLast?.map Prod.snd).getD .idle ∧
    (∀ number next, traffic.isRunning number = true →
      (traffic.move settings next).isRunning number = false →
        ∀ assignment, assignment.selection.isEmpty = false →
          ((traffic.move settings next).move settings (.call assignment)).isRunning
            (traffic.move settings next).calls.length = true) ∧
    (∀ number, traffic.isRunning number = true →
      (traffic.move settings (.drop number)).isRunning number = false) ∧
    (∀ number call result reply, traffic.calls[number]? = some call →
      call.standing = .running (.done result) →
        let after := traffic.move settings (.proceed number reply)
        after.isRunning number = false ∧
          after.calls[number]?.bind Call.result? = some result) ∧
    (∀ number (reply : Nat → (op : Asked) → Reply op), ∃ steps,
      (traffic.moves settings
        ((List.range steps).map fun i => .proceed number (reply i))).isRunning number = false) := by
  intro traffic
  have guarded : Guarded history traffic := of_guarded settings history
  refine ⟨fun _ _ => guarded.unique, fun _ => guarded.receive settings, ?_, guarded.shown, ?_, ?_,
    ?_, ?_⟩
  · intro number call found answered fair
    have honest := guarded.honest number call found fair
    cases standing : call.standing with
    | answered result => exact guarded.silent number call result found standing
    | ended result =>
      simp only [Call.result?, standing, Option.some.injEq] at answered
      simp only [Call.Honest, standing] at honest
      exact absurd answered honest
    | running | dropped => simp [Call.result?, standing] at answered
  · intro number next running left assignment selected
    have moved := moving settings traffic next
    have empty := guarded.free_of_left moved running left
    have admitted := ((guarded.move moved).receive settings selected).1 empty
    refine (congrArg (isRunning · _) admitted).trans ?_
    exact (isRunning_add _ _ _ _).2 (.inr ⟨rfl, rfl⟩)
  · intro number running
    obtain ⟨call, found, runs⟩ := (Option.any_eq_true _ _).1 running
    rw [move_drop found runs]
    exact isRunning_put_self (List.getElem?_eq_some_iff.1 found).1
  · intro number call result reply found standing after
    have known : number < traffic.calls.length := (List.getElem?_eq_some_iff.1 found).1
    have step : after = traffic.finish number call result :=
      move_done settings found standing reply
    rw [step]
    exact ⟨isRunning_put_self known, congrArg (Option.bind · Call.result?) (put_self known)⟩
  · intro number reply
    cases running : traffic.isRunning number with
    | false => exact ⟨0, running⟩
    | true =>
      obtain ⟨call, found, runs⟩ := (Option.any_eq_true _ _).1 running
      obtain ⟨process, standing⟩ : ∃ process, call.standing = .running process := by
        unfold Call.isRunning at runs
        split at runs
        · exact ⟨_, ‹_›⟩
        all_goals cases runs
      obtain ⟨steps, left⟩ := leaves settings reply process 0 found standing
      exact ⟨steps, by simpa only [List.range_eq_range'] using left⟩

/-- A call that comes in while another runs is refused; dropping the other makes room. -/
example :
    let call : Move :=
      .call ⟨"/", .projects, Selection.empty.insert "a", false, .jsonLines, "token"⟩
    let traffic := of ⟨2, 1000⟩ [call, call, .drop 0, call]
    (List.range 3).map traffic.isRunning = [false, false, true] := rfl

end Traffic
end BackgroundWork.Export
