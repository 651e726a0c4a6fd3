import BackgroundWork.Proofs.ExportTraffic

set_option autoImplicit false

/-!
What callers see while no export runs. The guard is cleared whichever way a call leaves, but the
phase is written by the call itself: one that ends writes a phase at rest, and one that is dropped
leaves the phase that it wrote last, which claims work. So the phase claims work that nobody does
exactly after a call that was dropped and before the next one writes.

Main statement: `Traffic.phase_claims_dropped_work`.
-/

namespace BackgroundWork.Export

/-- Whether a phase claims no work. -/
def Phase.isResting : Phase → Bool
  | .idle | .succeeded | .failed | .timedOut => true
  | .submitting | .polling _ => false

theorem Coordinator.lastPhase_isResting (result : Except ServiceError Outcome) :
    (lastPhase result).isResting = true := by
  cases result with
  | ok outcome => rfl
  | error error => cases error <;> rfl

/-- An export tells of work only, however it goes on. -/
def Process.TellsWork : Process → Prop
  | .done _ => True
  | .ask op next =>
    (∀ phase ∈ phase? op, phase.isResting = false) ∧ ∀ answer, TellsWork (next answer)

namespace Process

/-- An operation that writes no phase tells of none. -/
theorem tellsWork_ask {op : Asked} {next : Reply op → Process} (quiet : phase? op = none)
    (later : ∀ answer, (next answer).TellsWork) : TellsWork (.ask op next) := by
  refine ⟨fun phase written => ?_, later⟩
  rw [quiet] at written
  cases written

theorem tellsWork_publish {phase : Phase} {next : Unit → Process}
    (work : phase.isResting = false) (later : (next ()).TellsWork) :
    TellsWork (.ask (.inl (.publish phase)) next) := by
  refine ⟨fun other written => ?_, fun _ => later⟩
  obtain rfl := Option.some.inj written
  exact work

theorem finish_tellsWork (path : String) (job : Job) : (finish path job).TellsWork := by
  refine tellsWork_ask rfl fun _ => ?_
  cases job.totalEntities with
  | none => trivial
  | some total =>
    dsimp only
    split
    · exact tellsWork_ask rfl fun _ => trivial
    · trivial

theorem answered_tellsWork {after : Job → Process} (later : ∀ job, (after job).TellsWork)
    (answer : Except ServiceError Job) :
    TellsWork
      (match answer with
      | .error error => .done (.error error)
      | .ok job => after job) := by
  cases answer with
  | error error => trivial
  | ok job => exact later job

theorem follow_tellsWork (intervalMs : Nat) (path : String) (attempts : UInt32) (left : Nat)
    (job : Job) : (follow intervalMs path attempts left job).TellsWork := by
  induction left generalizing attempts job with
  | zero =>
    unfold follow
    split
    · exact finish_tellsWork path job
    all_goals trivial
  | succ left ih =>
    unfold follow
    split
    · exact finish_tellsWork path job
    · trivial
    all_goals
      refine tellsWork_publish rfl (tellsWork_ask rfl fun _ => tellsWork_ask rfl ?_)
      exact answered_tellsWork (ih _)

theorem start_tellsWork (settings : PollSettings) (assignment : Assignment) :
    (start settings assignment).TellsWork := by
  refine tellsWork_ask rfl fun stamp => tellsWork_ask rfl fun created => ?_
  cases created with
  | error message => trivial
  | ok _ =>
    refine tellsWork_publish rfl (tellsWork_ask rfl ?_)
    exact answered_tellsWork fun job => follow_tellsWork _ _ _ _ job

end Process

/-- Whether a call was let in and did not end. -/
def Standing.isOpen : Standing → Bool
  | .running _ | .dropped => true
  | .answered _ | .ended _ => false

theorem Call.isOpen_of_isRunning {call : Call} (running : call.isRunning = true) :
    call.standing.isOpen = true := by
  unfold isRunning at running
  split at running
  · rename_i process standing
    rw [standing]
    rfl
  all_goals cases running

namespace Traffic

/-- What the phases say that were written: a call tells of work until it ends, and the end of a
call puts the phase at rest. -/
structure Marked (traffic : Traffic) : Prop where
  running : ∀ (number : Nat) (call : Call) (process : Process), traffic.calls[number]? = some call →
    call.standing = .running process → process.TellsWork
  working : ∀ (number : Nat) (call : Call) (phase : Phase), traffic.calls[number]? = some call →
    call.standing.isOpen = true → (number, phase) ∈ traffic.written →
      phase.isResting = false
  ended : ∀ (number : Nat) (call : Call) (phase : Phase) (result : Except ServiceError Outcome),
    traffic.calls[number]? = some call → call.standing = .ended result →
      traffic.written.getLast? = some (number, phase) → phase.isResting = true

section

variable {settings : PollSettings} {history : List Move} {traffic : Traffic}

theorem new_marked : Marked new where
  running number call process found := absurd found (by simp [new])
  working number call phase found := absurd found (by simp [new])
  ended number call phase result found := absurd found (by simp [new])

/-- A call that comes in has written nothing. -/
theorem Marked.add (marked : Marked traffic) (guarded : Guarded history traffic) {call : Call}
    {coordinator : Coordinator} (unended : ∀ result, call.standing ≠ .ended result)
    (tells : ∀ process, call.standing = .running process → process.TellsWork) :
    Marked (traffic.add call coordinator) where
  running number other process found standing := by
    rcases found_add.1 found with earlier | ⟨_, rfl⟩
    · exact marked.running number other process earlier standing
    · exact tells process standing
  working number other phase found isOpen written := by
    rcases found_add.1 found with earlier | ⟨rfl, _⟩
    · exact marked.working number other phase earlier isOpen written
    · exact absurd (guarded.numbered _ written) (Nat.lt_irrefl _)
  ended number other phase result found standing last := by
    rcases found_add.1 found with earlier | ⟨_, rfl⟩
    · exact marked.ended number other phase result earlier standing last
    · exact absurd standing (unended result)

/-- A call that gets on tells of work unless it ends, and puts the phase at rest if it does. -/
theorem Marked.put (marked : Marked traffic) {number : Nat} {call later : Call}
    {coordinator : Coordinator} {phases : List Phase} (found : traffic.calls[number]? = some call)
    (isRunning : call.isRunning = true)
    (tells : ∀ process, later.standing = .running process → process.TellsWork)
    (works : later.standing.isOpen = true → ∀ phase ∈ phases, phase.isResting = false)
    (rests : ∀ result, later.standing = .ended result →
      ∃ phase, phases.getLast? = some phase ∧ phase.isResting = true) :
    Marked (traffic.put number later coordinator phases) := by
  have known : number < traffic.calls.length := (List.getElem?_eq_some_iff.1 found).1
  refine ⟨?_, ?_, ?_⟩
  · intro other another process present standing
    by_cases same : other = number
    · subst same
      obtain rfl := Option.some.inj ((put_self known).symm.trans present)
      exact tells process standing
    · exact marked.running other another process ((put_other same).symm.trans present) standing
  · intro other another phase present isOpen written
    by_cases same : other = number
    · subst same
      obtain rfl := Option.some.inj ((put_self known).symm.trans present)
      rcases List.mem_append.1 written with earlier | now
      · exact marked.working other call phase found (Call.isOpen_of_isRunning isRunning) earlier
      · obtain ⟨told, among, pair⟩ := List.mem_map.1 now
        obtain rfl := (Prod.mk.inj pair).2
        exact works isOpen told among
    · exact marked.working other another phase ((put_other same).symm.trans present) isOpen
        ((written_put_other same phase).1 written)
  · intro other another phase result present standing last
    by_cases same : other = number
    · subst same
      obtain rfl := Option.some.inj ((put_self known).symm.trans present)
      obtain ⟨final, ends, resting⟩ := rests result standing
      simp only [Traffic.put, List.getLast?_append, List.getLast?_map, ends, Option.map_some,
        Option.some_or, Option.some.injEq, Prod.mk.injEq] at last
      rw [← last.2]
      exact resting
    · refine marked.ended other another phase result ((put_other same).symm.trans present) standing
        ?_
      simp only [Traffic.put, List.getLast?_append, List.getLast?_map] at last
      cases final : phases.getLast? with
      | none =>
        rw [final] at last
        exact last
      | some told =>
        rw [final] at last
        exact absurd (Prod.mk.inj (Option.some.inj last)).1 (Ne.symm same)

theorem Marked.move (marked : Marked traffic) (guarded : Guarded history traffic) (next : Move) :
    Marked (traffic.move settings next) := by
  cases next with
  | call assignment =>
    simp only [Traffic.move, receive]
    split
    · exact marked.add guarded (fun _ => Standing.noConfusion) fun _ => Standing.noConfusion
    · refine marked.add guarded (fun _ => Standing.noConfusion) fun process standing => ?_
      obtain rfl := Standing.running.inj standing
      exact Process.start_tellsWork settings assignment
  | proceed number reply =>
    simp only [Traffic.move]
    split
    · exact marked
    rename_i call found
    split
    · rename_i op next standing
      have isRunning : call.isRunning = true := by simp only [Call.isRunning, standing]
      obtain ⟨told, tells⟩ := marked.running number call _ found standing
      refine marked.put found isRunning (fun process same => ?_) (fun _ phase written => ?_)
        fun _ => Standing.noConfusion
      · obtain rfl := Standing.running.inj same
        exact tells (reply op)
      · exact told phase (Option.mem_toList.1 written)
    · rename_i result standing
      have isRunning : call.isRunning = true := by simp only [Call.isRunning, standing]
      exact marked.put found isRunning (fun _ => Standing.noConfusion) Bool.noConfusion fun _ _ =>
        ⟨_, rfl, Coordinator.lastPhase_isResting result⟩
    all_goals exact marked
  | drop number =>
    simp only [Traffic.move]
    split
    · exact marked
    rename_i call found
    split
    · rename_i isRunning
      exact marked.put found isRunning (fun _ => Standing.noConfusion)
        (fun _ => List.forall_mem_nil _) fun _ => Standing.noConfusion
    · exact marked

theorem Marked.moves (marked : Marked traffic) (guarded : Guarded history traffic)
    (later : List Move) : Marked (traffic.moves settings later) := by
  induction later generalizing history traffic with
  | nil => exact marked
  | cons next later ih =>
    have step : Marked (traffic.move settings next) := marked.move guarded next
    exact ih step (guarded.move (moving settings traffic next))

theorem of_marked (settings : PollSettings) (history : List Move) : Marked (of settings history) :=
  new_marked.moves (of_guarded settings []) history

/-- Whether the phase that was written last is by a call that was dropped. -/
def IsForsaken (traffic : Traffic) : Prop :=
  ∃ (number : Nat) (phase : Phase) (call : Call),
    traffic.written.getLast? = some (number, phase) ∧ traffic.calls[number]? = some call ∧
      call.standing = .dropped

/-- While no call is past the guard, callers see work exactly if the call that wrote last was
dropped. -/
theorem Marked.claims_iff (marked : Marked traffic) (guarded : Guarded history traffic)
    (free : traffic.coordinator.isBusy = false) :
    traffic.coordinator.phase.isResting = false ↔ traffic.IsForsaken := by
  have idle : ∀ number, traffic.isRunning number = false := by
    intro number
    refine Bool.eq_false_iff.2 fun running => ?_
    rw [guarded.isBusy_iff.2 ⟨number, running⟩] at free
    cases free
  have shown := guarded.shown
  cases last : traffic.written.getLast? with
  | none =>
    rw [last] at shown
    have resting : traffic.coordinator.phase.isResting = true := by
      rw [shown]
      rfl
    refine iff_of_false (by simp [resting]) ?_
    rintro ⟨number, phase, call, wrote, _⟩
    exact absurd (last.symm.trans wrote) nofun
  | some entry =>
    obtain ⟨number, phase⟩ := entry
    rw [last] at shown
    have shown : traffic.coordinator.phase = phase := shown
    have wrote : (number, phase) ∈ traffic.written := List.mem_of_getLast? last
    have known := guarded.numbered _ wrote
    obtain ⟨call, found⟩ : ∃ call, traffic.calls[number]? = some call :=
      ⟨_, List.getElem?_eq_getElem known⟩
    -- The call that wrote last is known, and only its standing tells the cases apart.
    have forsaken : traffic.IsForsaken ↔ call.standing = .dropped := by
      constructor
      · rintro ⟨other, told, another, wrote, present, standing⟩
        obtain ⟨rfl, rfl⟩ := Prod.mk.inj (Option.some.inj (last.symm.trans wrote))
        obtain rfl := Option.some.inj (found.symm.trans present)
        exact standing
      · intro standing
        exact ⟨number, phase, call, last, found, standing⟩
    rw [shown, forsaken]
    cases standing : call.standing with
    | answered result =>
      obtain ⟨_, _, unwritten⟩ := guarded.silent number call result found standing
      exact absurd wrote (unwritten phase)
    | running process =>
      have running : traffic.isRunning number = true := by
        rw [isRunning_of_found found]
        simp only [Call.isRunning, standing]
      exact absurd running (by simp [idle number])
    | ended result =>
      have resting := marked.ended number call phase result found standing last
      simp [resting]
    | dropped =>
      have isOpen : call.standing.isOpen = true := by
        rw [standing]
        rfl
      have work := marked.working number call phase found isOpen wrote
      simp [work]

/-- Only a drop leaves a dropped call. -/
theorem undropped_move (undropped : ∀ call ∈ traffic.calls, call.standing ≠ .dropped)
    {next : Move} (kept : ∀ number, next ≠ .drop number) :
    ∀ call ∈ (traffic.move settings next).calls, call.standing ≠ .dropped := by
  have added : ∀ (call : Call) (coordinator : Coordinator), call.standing ≠ .dropped →
      ∀ other ∈ (traffic.add call coordinator).calls, other.standing ≠ .dropped := by
    intro call coordinator kept other among
    rcases List.mem_append.1 among with earlier | now
    · exact undropped other earlier
    · obtain rfl := List.mem_singleton.1 now
      exact kept
  have got_on : ∀ (number : Nat) (call : Call) (coordinator : Coordinator) (phases : List Phase),
      call.standing ≠ .dropped →
        ∀ other ∈ (traffic.put number call coordinator phases).calls,
          other.standing ≠ .dropped := by
    intro number call coordinator phases kept other among
    rcases List.mem_or_eq_of_mem_set among with earlier | rfl
    · exact undropped other earlier
    · exact kept
  cases next with
  | call assignment =>
    simp only [Traffic.move, receive]
    split
    · exact added _ _ Standing.noConfusion
    · exact added _ _ Standing.noConfusion
  | proceed number reply =>
    simp only [Traffic.move]
    split
    · exact undropped
    split
    · exact got_on _ _ _ _ Standing.noConfusion
    · exact got_on _ _ _ _ Standing.noConfusion
    all_goals exact undropped
  | drop number => exact absurd rfl (kept number)

theorem undropped_moves (undropped : ∀ call ∈ traffic.calls, call.standing ≠ .dropped)
    (later : List Move) (kept : ∀ number, .drop number ∉ later) :
    ∀ call ∈ (traffic.moves settings later).calls, call.standing ≠ .dropped := by
  induction later generalizing traffic with
  | nil => exact undropped
  | cons next later ih =>
    have now : ∀ number, next ≠ .drop number := fun number same => kept number (by simp [same])
    exact ih (undropped_move undropped now) fun number among => kept number (by simp [among])

end

/-- While no call is past the guard, callers see work exactly if the call that wrote the last phase
was dropped, and so never if no call was. A call that ends leaves the guard free and the phase at
rest. One that is dropped leaves the guard free and the phase as it is, which tells of work if the
call wrote it. -/
theorem phase_claims_dropped_work (settings : PollSettings) (history : List Move) :
    let traffic := of settings history
    (traffic.coordinator.isBusy = false →
      (traffic.coordinator.phase.isResting = false ↔ traffic.IsForsaken)) ∧
    ((∀ number, .drop number ∉ history) → traffic.coordinator.isBusy = false →
      traffic.coordinator.phase.isResting = true) ∧
    (∀ number call result reply, traffic.calls[number]? = some call →
      call.standing = .running (.done result) →
        let after := (traffic.move settings (.proceed number reply)).coordinator
        after.isBusy = false ∧ after.phase.isResting = true) ∧
    (∀ number, traffic.isRunning number = true →
      (traffic.move settings (.drop number)).coordinator = ⟨false, traffic.coordinator.phase⟩ ∧
        ∀ phase, traffic.written.getLast? = some (number, phase) →
          traffic.coordinator.phase = phase ∧ phase.isResting = false) := by
  intro traffic
  have guarded : Guarded history traffic := of_guarded settings history
  have marked : Marked traffic := of_marked settings history
  refine ⟨marked.claims_iff guarded, fun kept free => ?_, ?_, fun number running => ?_⟩
  · have undropped : ∀ call ∈ traffic.calls, call.standing ≠ .dropped :=
      undropped_moves (by simp [new]) history kept
    refine Bool.not_eq_false _ ▸ mt (marked.claims_iff guarded free).1 ?_
    rintro ⟨number, phase, call, _, found, standing⟩
    exact undropped call (List.mem_of_getElem? found) standing
  · intro number call result reply found standing after
    have step : traffic.move settings (.proceed number reply) =
        traffic.finish number call result := move_done settings found standing reply
    have left : after = traffic.coordinator.finish result := by
      simp only [after, step]
      rfl
    rw [left]
    exact ⟨rfl, Coordinator.lastPhase_isResting result⟩
  · obtain ⟨call, found, runs⟩ := (Option.any_eq_true _ _).1 running
    refine ⟨?_, fun phase last => ?_⟩
    · rw [move_drop found runs]
      rfl
    · have shown := guarded.shown
      rw [last] at shown
      exact ⟨shown, marked.working number call phase found (Call.isOpen_of_isRunning runs)
        (List.mem_of_getLast? last)⟩

/-- A call whose directory cannot be created, and one that is dropped while it waits for its first
check. -/
theorem phase_claims_dropped_work_two_calls :
    let settings : PollSettings := ⟨30, 1000⟩
    let job : Job := ⟨⟨List.replicate 32 7, rfl⟩, .inProgress, none, none, none, none, none⟩
    let answer := Script.reply ⟨"0", .ok (), fun _ => .ok job⟩ 0
    let refuse := Script.reply ⟨"0", .error "no space", fun _ => .ok job⟩ 0
    let call : Move :=
      .call ⟨"/", .projects, Selection.empty.insert "a", false, .jsonLines, "token"⟩
    let refused := call :: List.replicate 2 (.proceed 0 refuse)
    let waiting := call :: List.replicate 5 (.proceed 0 answer)
    (of settings (refused ++ [.proceed 0 refuse])).coordinator.phase.isResting = true ∧
    ((of settings refused).move settings (.proceed 0 refuse)).coordinator.phase.isResting = true ∧
    (of settings waiting).coordinator.phase = .polling 1 ∧
    ((of settings waiting).move settings (.drop 0)).coordinator = ⟨false, .polling 1⟩ ∧
    (of settings (waiting ++ [.drop 0])).IsForsaken := by
  intro settings job answer refuse call refused waiting
  have settled : (of settings (refused ++ [.proceed 0 refuse])).coordinator.isBusy = false := rfl
  have undropped : ∀ number, .drop number ∉ refused ++ [.proceed 0 refuse] := by
    simp [refused, call]
  have runs : (of settings waiting).isRunning 0 = true := rfl
  have wrote : (of settings waiting).written.getLast? = some (0, .polling 1) := rfl
  have free : (of settings (waiting ++ [.drop 0])).coordinator.isBusy = false := rfl
  obtain ⟨_, rests, _, _⟩ :=
    phase_claims_dropped_work settings (refused ++ [.proceed 0 refuse])
  obtain ⟨_, _, ends, _⟩ := phase_claims_dropped_work settings refused
  obtain ⟨_, _, _, drops⟩ := phase_claims_dropped_work settings waiting
  obtain ⟨claims, _, _, _⟩ := phase_claims_dropped_work settings (waiting ++ [.drop 0])
  obtain ⟨left, shown⟩ := drops 0 runs
  obtain ⟨shown, _⟩ := shown _ wrote
  refine ⟨rests undropped settled, (ends 0 _ _ refuse rfl rfl).2, shown, ?_, (claims free).1 rfl⟩
  rw [left, shown]

/-- A call that is dropped while it waits for its first check: the guard is free, and callers see a
check that nobody makes. -/
theorem phase_claims_check_of_dropped :
    let job : Job := ⟨⟨List.replicate 32 7, rfl⟩, .inProgress, none, none, none, none, none⟩
    let reply := Script.reply ⟨"0", .ok (), fun _ => .ok job⟩ 0
    let call : Move :=
      .call ⟨"/", .projects, Selection.empty.insert "a", false, .jsonLines, "token"⟩
    let traffic := of ⟨30, 1000⟩ (call :: List.replicate 5 (.proceed 0 reply) ++ [.drop 0])
    traffic.coordinator = ⟨false, .polling 1⟩ ∧ traffic.coordinator.phase.isResting = false :=
  ⟨rfl, rfl⟩

end Traffic
end BackgroundWork.Export
