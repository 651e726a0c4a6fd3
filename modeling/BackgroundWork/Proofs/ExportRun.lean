import BackgroundWork.Proofs.ExportJourney

set_option autoImplicit false

/-!
One export from its entry to its end, for any answers of whatever runs its job. Each check of the
job's status takes the loop one answer further, so what the export asks for and how it ends follow
from the first answer that is no job in progress, or from the last one that there may be. Main
statement: what an export asks for, what callers see of it, and how it ends.
-/

namespace BackgroundWork.Export

/-! ### Checks -/

/-- Whether an answer is a job that is not done. -/
def isPending : Except ServiceError Job → Bool
  | .ok job => !job.status.isTerminal
  | .error _ => false

/-- What a check asks for, given its number and the answer before it. -/
def check (intervalMs number : Nat) : Except ServiceError Job → List Asked
  | .ok job =>
    [.inl (.publish (.polling (.ofNat number))), .inl (.sleep intervalMs), .inr (.poll job.id)]
  | .error _ => []

/-- What a number of checks ask for, the first of them after the given answer. -/
def Script.checks (script : Script) (intervalMs first count : Nat) : List Asked :=
  (List.range count).flatMap fun i => check intervalMs (first + i + 1) (script.answer (first + i))

/-- The outcome of a completed job. -/
def completion (path : String) (job : Job) : Outcome :=
  match job.totalEntities with
  | some total =>
    if 0 < total then .exported job.id path total else .noRecordsExported job.id path
  | none => .noRecordsExported job.id path

/-- What is asked for after the last answer. -/
def ending (path : String) : Except ServiceError Job → List Asked
  | .error _ => []
  | .ok job =>
    match job.status with
    | .completed =>
      .inl .clearSelection ::
        if (completion path job).isSuccess then [.inl (.reveal path)] else []
    | .failed | .requested | .inProgress => []

/-- How an export ends after the last answer, if there may be so many checks. -/
def verdict (path : String) (most : UInt32) :
    Except ServiceError Job → Except ServiceError Outcome
  | .error error => .error error
  | .ok job =>
    match job.status with
    | .completed => .ok (completion path job)
    | .failed => .error (.jobFailed job.id (job.errorMessage.getD Process.unexplained))
    | .requested | .inProgress => .error (.timeout job.id most)

section

variable {intervalMs left : Nat} {path : String} {attempts most : UInt32} {job : Job}

theorem status_of_pending (pending : job.status.isTerminal = false) :
    job.status = .requested ∨ job.status = .inProgress := by
  cases status : job.status with
  | requested => exact .inl rfl
  | inProgress => exact .inr rfl
  | completed | failed => rw [status] at pending; cases pending

theorem verdict_of_pending (pending : job.status.isTerminal = false) :
    verdict path most (.ok job) = .error (.timeout job.id most) := by
  rcases status_of_pending pending with status | status <;> simp only [verdict, status]

theorem ending_of_pending (pending : job.status.isTerminal = false) :
    ending path (.ok job) = [] := by
  rcases status_of_pending pending with status | status <;> simp only [ending, status]

theorem follow_of_exhausted (pending : job.status.isTerminal = false) :
    Process.follow intervalMs path attempts 0 job = .done (.error (.timeout job.id attempts)) := by
  unfold Process.follow
  rcases status_of_pending pending with status | status <;> simp only [status]

theorem follow_of_pending (pending : job.status.isTerminal = false) :
    Process.follow intervalMs path attempts (left + 1) job =
      .ask (.inl (.publish (.polling (attempts + 1)))) fun _ =>
        .ask (.inl (.sleep intervalMs)) fun _ =>
          .ask (.inr (.poll job.id)) fun (answer : Except ServiceError Job) =>
            match answer with
            | .error error => .done (.error error)
            | .ok job => Process.follow intervalMs path (attempts + 1) left job := by
  conv => lhs; unfold Process.follow
  cases status : job.status with
  | requested | inProgress => rfl
  | completed | failed => rw [status] at pending; cases pending

end

namespace Script

variable {script : Script} {intervalMs : Nat} {path : String} {job : Job} {journey : Journey}

theorem run_ask (op : Asked) (next : Reply op → Process) :
    Program.run script.handle (.ask op next) journey =
      (next (script.reply journey.answers op)).run script.handle (journey.ask op) := rfl

theorem finish_run (completed : job.status = .completed) :
    (Process.finish path job).run script.handle journey =
      (.ok (completion path job), journey.asks (ending path (.ok job))) := by
  unfold Process.finish
  rw [run_ask]
  unfold completion ending completion
  simp only [completed]
  cases job.totalEntities with
  | none => rfl
  | some total =>
    by_cases positive : 0 < total
    · simp only [positive, ↓reduceIte, run_ask]
      rfl
    · simp only [positive, ↓reduceIte]
      rfl

/-- A job that is done is not checked again. -/
theorem follow_run_terminal (done : job.status.isTerminal = true) (attempts most : UInt32)
    (left : Nat) :
    (Process.follow intervalMs path attempts left job).run script.handle journey =
      (verdict path most (.ok job), journey.asks (ending path (.ok job))) := by
  unfold Process.follow
  cases status : job.status with
  | completed =>
    simp only [verdict, status]
    exact finish_run status
  | failed =>
    simp only [verdict, ending, status]
    rfl
  | requested | inProgress => rw [status] at done; cases done

/-- A job that is not done is checked as long as a check is left. -/
theorem follow_run_pending (pending : job.status.isTerminal = false) (number left : Nat) :
    (Process.follow intervalMs path (.ofNat number) (left + 1) job).run script.handle journey =
      match script.answer journey.answers with
      | .error error =>
        (.error error, journey.asks (check intervalMs (number + 1) (.ok job)))
      | .ok next =>
        (Process.follow intervalMs path (.ofNat (number + 1)) left next).run script.handle
          (journey.asks (check intervalMs (number + 1) (.ok job))) := by
  let waiting := journey.asks
    [.inl (.publish (.polling (.ofNat (number + 1)))), .inl (.sleep intervalMs)]
  have unanswered : waiting.answers = journey.answers := by simp [waiting, Journey.answers]
  have next : (UInt32.ofNat number + 1 : UInt32) = .ofNat (number + 1) := by simp
  rw [follow_of_pending pending, next]
  change Program.run _ (match script.answer waiting.answers with
    | .error error => .done (.error error)
    | .ok job => Process.follow intervalMs path (.ofNat (number + 1)) left job) _ = _
  rw [unanswered]
  cases script.answer journey.answers <;> rfl

theorem checks_succ (first count : Nat) :
    script.checks intervalMs first (count + 1) =
      check intervalMs (first + 1) (script.answer first) ++
        script.checks intervalMs (first + 1) count := by
  simp [checks, List.range_succ_eq_map, List.flatMap_map, Nat.add_comm, Nat.add_left_comm]

/-- Following a job: every answer but the last is a job that is not done, the last one is not or
there may be no further check, and it says how the export ends. -/
theorem follow_run (intervalMs : Nat) (path : String) (left first : Nat)
    (answered : script.answer first = .ok job) (current : journey.answers = first + 1) :
    ∃ checks ≤ left,
      (∀ i < checks, isPending (script.answer (first + i)) = true) ∧
      (checks < left → isPending (script.answer (first + checks)) = false) ∧
      (Process.follow intervalMs path (.ofNat first) left job).run script.handle journey =
        (verdict path (.ofNat (first + left)) (script.answer (first + checks)),
          journey.asks (script.checks intervalMs first checks ++
            ending path (script.answer (first + checks)))) := by
  -- Induction on the checks that are left. One of them is used up by each job that is not done.
  induction left generalizing first job journey with
  | zero =>
    refine ⟨0, Nat.le_refl 0, by simp, by simp, ?_⟩
    simp only [Nat.add_zero, answered]
    cases done : job.status.isTerminal with
    | true => exact follow_run_terminal done _ _ _
    | false =>
      rw [follow_of_exhausted done, verdict_of_pending done, ending_of_pending done]
      simp [checks, Program.run]
  | succ left ih =>
    cases done : job.status.isTerminal with
    | true =>
      refine ⟨0, Nat.zero_le _, by simp, ?_, ?_⟩
      · simp [answered, isPending, done]
      · simp only [Nat.add_zero, answered]
        exact follow_run_terminal done _ _ _
    | false =>
      have pending : isPending (script.answer first) = true := by
        simp [answered, isPending, done]
      rw [follow_run_pending done, current]
      cases next : script.answer (first + 1) with
      | error error =>
        refine ⟨1, by omega, ?_, ?_, ?_⟩
        · intro i below
          rwa [show i = 0 by omega]
        · simp [next, isPending]
        · simp [next, answered, verdict, ending, checks]
      | ok job' =>
        have current' : (journey.asks (check intervalMs (first + 1) (.ok job))).answers =
            first + 1 + 1 := by
          rw [Journey.asks_answers, current]
          rfl
        obtain ⟨checks, most, open_, closed, ran⟩ := ih (first + 1) next current'
        refine ⟨checks + 1, by omega, ?_, ?_, ?_⟩
        · intro i below
          cases i with
          | zero => exact pending
          | succ i => simpa [Nat.add_comm, Nat.add_left_comm] using open_ i (by omega)
        · intro below
          simpa [Nat.add_comm, Nat.add_left_comm] using closed (by omega)
        · simp only [ran, checks_succ, answered]
          simp [Nat.add_comm, Nat.add_left_comm]

/-- An export whose directory can be created submits its job and follows it. -/
theorem start_run (creatable : script.created = .ok ()) (settings : PollSettings)
    (assignment : Assignment) (journey : Journey) (current : journey.answers = 0) :
    ∃ checks ≤ settings.maxAttempts.toNat,
      (∀ i < checks, isPending (script.answer i) = true) ∧
      (checks < settings.maxAttempts.toNat → isPending (script.answer checks) = false) ∧
      (Process.start settings assignment).run script.handle journey =
        (verdict (assignment.path script.stamp) settings.maxAttempts (script.answer checks),
          journey.asks (assignment.opening script.stamp ++
            script.checks settings.intervalMs 0 checks ++
            ending (assignment.path script.stamp) (script.answer checks))) := by
  let created := journey.asks
    [.inl .stamp, .inl (.createDirectory (Path.directory assignment.documents assignment.domain))]
  have submits : (Process.start settings assignment).run script.handle journey =
      (Process.submit settings (assignment.request script.stamp)).run script.handle created := by
    obtain ⟨stamp, created, answer⟩ := script
    obtain rfl : created = .ok () := creatable
    rfl
  let submitting := created.ask (.inl (.publish .submitting))
  have unanswered : submitting.answers = 0 := by
    simpa [submitting, created, Journey.answers, Journey.asks, Journey.ask] using current
  have started : (Process.start settings assignment).run script.handle journey =
      match script.answer 0 with
      | .error error => (.error error, journey.asks (assignment.opening script.stamp))
      | .ok job =>
        (Process.follow settings.intervalMs (assignment.path script.stamp) 0
          settings.maxAttempts.toNat job).run script.handle
          (journey.asks (assignment.opening script.stamp)) := by
    rw [submits]
    change Program.run _ (match script.answer submitting.answers with
      | .error error => .done (.error error)
      | .ok job => Process.follow settings.intervalMs (assignment.path script.stamp) 0
          settings.maxAttempts.toNat job) _ = _
    rw [unanswered]
    cases script.answer 0 <;> rfl
  cases first : script.answer 0 with
  | error error =>
    refine ⟨0, Nat.zero_le _, by simp, by simp [first, isPending], ?_⟩
    rw [started, first]
    simp [verdict, ending, checks]
  | ok job =>
    have answered : (journey.asks (assignment.opening script.stamp)).answers = 0 + 1 := by
      rw [Journey.asks_answers, current]
      rfl
    obtain ⟨checks, most, pending, settled, ran⟩ :=
      follow_run settings.intervalMs (assignment.path script.stamp) settings.maxAttempts.toNat 0
        first answered
    simp only [Nat.zero_add] at pending settled ran
    refine ⟨checks, most, pending, settled, ?_⟩
    rw [started, first]
    simpa using ran

theorem run_of_free (script : Script) (settings : PollSettings) {coordinator : Coordinator}
    {assignment : Assignment} (selected : assignment.selection.isEmpty = false)
    (free : coordinator.isBusy = false) :
    script.run settings coordinator assignment =
      let (result, journey) := (Process.start settings assignment).run script.handle
        ⟨{ coordinator with isBusy := true }, assignment.selection, []⟩
      (result, { journey with coordinator := journey.coordinator.finish result }) := by
  unfold run Coordinator.enter
  simp [selected, free]

theorem checks_phases (first count : Nat)
    (pending : ∀ i < count, isPending (script.answer (first + i)) = true) :
    (script.checks intervalMs first count).filterMap phase? =
      (List.range count).map fun i => .polling (.ofNat (first + i + 1)) := by
  induction count generalizing first with
  | zero => rfl
  | succ count ih =>
    have later : ∀ i < count, isPending (script.answer (first + 1 + i)) = true := by
      intro i below
      simpa [Nat.add_comm, Nat.add_left_comm] using pending (i + 1) (by omega)
    rw [checks_succ, List.filterMap_append, ih (first + 1) later, List.range_succ_eq_map]
    cases answered : script.answer first with
    | error error =>
      have now := pending 0 (by omega)
      rw [Nat.add_zero, answered] at now
      cases now
    | ok job =>
      simp only [check, List.filterMap_cons, List.filterMap_nil, phase?, List.map_cons,
        List.map_map, List.singleton_append, Nat.add_zero]
      congr 1
      apply List.map_congr_left
      intro i _
      simp only [Function.comp, Nat.succ_eq_add_one, Nat.add_comm, Nat.add_left_comm]

end Script

/-! ### How it ends -/

section

variable {path : String} {most : UInt32} {last : Except ServiceError Job}

theorem ending_phases : (ending path last).filterMap phase? = [] := by
  cases last with
  | error error => rfl
  | ok job =>
    simp only [ending]
    cases job.status with
    | completed => cases (completion path job).isSuccess <;> rfl
    | failed | requested | inProgress => rfl

theorem verdict_timeout_iff (punctual : ∀ job attempts, last ≠ .error (.timeout job attempts)) :
    (∃ id attempts, verdict path most last = .error (.timeout id attempts)) ↔
      isPending last = true := by
  cases last with
  | error error =>
    simpa [verdict, isPending] using fun job attempts same =>
      punctual job attempts (congrArg Except.error same)
  | ok job => cases status : job.status <;> simp [verdict, status, isPending, JobStatus.isTerminal]

theorem verdict_timeout_attempts
    (punctual : ∀ job attempts, last ≠ .error (.timeout job attempts)) {id : Uuid}
    {attempts : UInt32} (late : verdict path most last = .error (.timeout id attempts)) :
    attempts = most := by
  cases last with
  | error error =>
    cases late
    exact absurd rfl (punctual id attempts)
  | ok job => cases status : job.status <;> simp_all [verdict]

theorem verdict_mayStillComplete_iff
    (punctual : ∀ job attempts, last ≠ .error (.timeout job attempts)) :
    (∃ error, verdict path most last = .error error ∧ error.mayStillComplete = true) ↔
      isPending last = true := by
  have late : (∃ id attempts, verdict path most last = .error (.timeout id attempts)) ↔ _ :=
    verdict_timeout_iff punctual
  rw [← late]
  constructor
  · rintro ⟨error, ended, unsure⟩
    cases error with
    | timeout id attempts => exact ⟨id, attempts, ended⟩
    | _ => cases unsure
  · rintro ⟨id, attempts, ended⟩
    exact ⟨_, ended, rfl⟩

theorem verdict_jobFailed_iff (id : Uuid) (message : String) :
    verdict path most last = .error (.jobFailed id message) ↔
      (∃ job, last = .ok job ∧ job.status = .failed ∧ job.id = id ∧
        job.errorMessage.getD Process.unexplained = message) ∨
      last = .error (.jobFailed id message) := by
  cases last with
  | error error => simp [verdict]
  | ok job => cases status : job.status <;> simp [verdict, status]

theorem verdict_ok_iff (outcome : Outcome) :
    verdict path most last = .ok outcome ↔
      ∃ job, last = .ok job ∧ job.status = .completed ∧ completion path job = outcome := by
  cases last with
  | error error => simp [verdict]
  | ok job => cases status : job.status <;> simp [verdict, status]

theorem completion_exported_iff (job : Job) (id : Uuid) (file : String) (total : Int64) :
    completion path job = .exported id file total ↔
      job.totalEntities = some total ∧ 0 < total ∧ job.id = id ∧ path = file := by
  unfold completion
  cases job.totalEntities with
  | none => simp
  | some number =>
    by_cases positive : 0 < number
    · simp only [positive, ↓reduceIte, Outcome.exported.injEq, Option.some.injEq]
      constructor
      · rintro ⟨rfl, rfl, rfl⟩
        exact ⟨rfl, positive, rfl, rfl⟩
      · rintro ⟨rfl, _, rfl, rfl⟩
        exact ⟨rfl, rfl, rfl⟩
    · simp only [positive, ↓reduceIte, reduceCtorEq, Option.some.injEq, false_iff]
      rintro ⟨rfl, other, _⟩
      exact positive other

theorem completion_noRecords_iff (job : Job) (id : Uuid) (file : String) :
    completion path job = .noRecordsExported id file ↔
      (∀ total, job.totalEntities = some total → ¬0 < total) ∧ job.id = id ∧ path = file := by
  unfold completion
  cases job.totalEntities with
  | none => simp
  | some number =>
    have only : (∀ total, some number = some total → ¬0 < total) ↔ ¬0 < number :=
      ⟨fun none => none number rfl, fun none total same => Option.some.inj same ▸ none⟩
    rw [only]
    by_cases positive : 0 < number <;> simp only [positive, ↓reduceIte] <;> simp

/-- The phase in which an export ends says that it is over, and whether it went well or was given
up. -/
theorem lastPhase_verdict (punctual : ∀ job attempts, last ≠ .error (.timeout job attempts)) :
    (Coordinator.lastPhase (verdict path most last) = .timedOut ↔ isPending last = true) ∧
      (Coordinator.lastPhase (verdict path most last) = .succeeded ↔
        ∃ job, last = .ok job ∧ job.status = .completed) := by
  cases last with
  | error error =>
    cases error with
    | timeout job attempts => exact absurd rfl (punctual job attempts)
    | _ => simp [verdict, Coordinator.lastPhase, isPending]
  | ok job =>
    cases status : job.status <;>
      simp [verdict, status, Coordinator.lastPhase, isPending, JobStatus.isTerminal]

end

/-- Following stops before the last answer that there may be unless all are jobs that are not
done. -/
theorem Script.pending_last_iff {script : Script} {checks limit : Nat} (within : checks ≤ limit)
    (pending : ∀ i < checks, isPending (script.answer i) = true)
    (settled : checks < limit → isPending (script.answer checks) = false) :
    isPending (script.answer checks) = true ↔
      ∀ i ≤ limit, isPending (script.answer i) = true := by
  constructor
  · intro last i below
    have exhausted : checks = limit := by
      refine Nat.le_antisymm within (Nat.le_of_not_lt fun fewer => ?_)
      rw [settled fewer] at last
      cases last
    rcases Nat.lt_or_eq_of_le below with earlier | rfl
    · exact pending i (by omega)
    · rwa [← exhausted]
  · intro all
    exact all checks within

/-- An export of a selection whose directory can be created, while no other runs. It submits its
job once and checks it, each time after one sleep, as long as the answers are jobs that are not
done, and at most as often as the settings say. Callers see it submitting, then each check by its
number, then its end, which follows from the last answer: it is given up exactly if all answers
that there may be are jobs that are not done, and an error among the answers is its own. The
capability may answer with any error but that it gave a job up itself. -/
theorem export_follows_answers (settings : PollSettings) (script : Script)
    (coordinator : Coordinator) (assignment : Assignment)
    (selected : assignment.selection.isEmpty = false) (free : coordinator.isBusy = false)
    (creatable : script.created = .ok ())
    (punctual : ∀ i job attempts, script.answer i ≠ .error (.timeout job attempts)) :
    let most := settings.maxAttempts.toNat
    let path := assignment.path script.stamp
    let result := (script.run settings coordinator assignment).1
    let journey := (script.run settings coordinator assignment).2
    ∃ checks ≤ most, ∃ last, script.answer checks = last ∧
      (∀ i < checks, isPending (script.answer i) = true) ∧
      (checks < most → isPending last = false) ∧
      journey.asked = assignment.opening script.stamp ++
        script.checks settings.intervalMs 0 checks ++ ending path last ∧
      journey.phases =
        .submitting :: (List.range checks).map (fun i => .polling (.ofNat (i + 1))) ∧
      journey.coordinator = ⟨false, Coordinator.lastPhase result⟩ ∧
      ((∃ id attempts, result = .error (.timeout id attempts)) ↔
        ∀ i ≤ most, isPending (script.answer i) = true) ∧
      (∀ id attempts, result = .error (.timeout id attempts) →
        attempts = settings.maxAttempts) ∧
      (journey.coordinator.phase = .timedOut ↔
        ∀ i ≤ most, isPending (script.answer i) = true) ∧
      ((∃ error, result = .error error ∧ error.mayStillComplete = true) ↔
        ∀ i ≤ most, isPending (script.answer i) = true) ∧
      (∀ id message, result = .error (.jobFailed id message) ↔
        (∃ job, last = .ok job ∧ job.status = .failed ∧ job.id = id ∧
          job.errorMessage.getD Process.unexplained = message) ∨
        last = .error (.jobFailed id message)) ∧
      (∀ id file total, result = .ok (.exported id file total) ↔
        ∃ job, last = .ok job ∧ job.status = .completed ∧
          job.totalEntities = some total ∧ 0 < total ∧ job.id = id ∧ path = file) ∧
      (∀ id file, result = .ok (.noRecordsExported id file) ↔
        ∃ job, last = .ok job ∧ job.status = .completed ∧
          (∀ total, job.totalEntities = some total → ¬0 < total) ∧ job.id = id ∧ path = file) ∧
      (journey.coordinator.phase = .succeeded ↔
        ∃ job, last = .ok job ∧ job.status = .completed) ∧
      ((∃ error, last = .error error ∧ result = .error error) ↔
        ∃ i ≤ checks, ∃ error, script.answer i = .error error) := by
  intro most path result journey
  obtain ⟨checks, within, pending, settled, ran⟩ := Script.start_run creatable settings
    assignment ⟨{ coordinator with isBusy := true }, assignment.selection, []⟩ rfl
  have whole := script.run_of_free settings selected free
  rw [ran] at whole
  have ended : result = verdict path settings.maxAttempts (script.answer checks) :=
    congrArg Prod.fst whole
  have left : journey =
      let journey := (⟨{ coordinator with isBusy := true }, assignment.selection, []⟩ :
        Journey).asks (assignment.opening script.stamp ++
          script.checks settings.intervalMs 0 checks ++ ending path (script.answer checks))
      { journey with coordinator := journey.coordinator.finish result } := by
    rw [ended]
    exact congrArg Prod.snd whole
  have asked : journey.asked = assignment.opening script.stamp ++
      script.checks settings.intervalMs 0 checks ++ ending path (script.answer checks) := by
    rw [left]
    exact Journey.asks_asked _ _
  have phase : journey.coordinator = ⟨false, Coordinator.lastPhase result⟩ := by
    rw [left]
    rfl
  have gaveUp := Script.pending_last_iff within pending settled
  have onTime := punctual checks
  refine ⟨checks, within, _, rfl, pending, settled, asked, ?_, phase, ?_, ?_, ?_, ?_, ?_, ?_, ?_,
    ?_, ?_⟩
  · unfold Journey.phases
    rw [asked, List.filterMap_append, List.filterMap_append, ending_phases, List.append_nil,
      Script.checks_phases 0 checks (by simpa using pending)]
    simp only [Nat.zero_add]
    rfl
  · rw [ended, ← gaveUp]
    exact verdict_timeout_iff onTime
  · intro id attempts late
    rw [ended] at late
    exact verdict_timeout_attempts onTime late
  · rw [phase, ended, ← gaveUp]
    exact (lastPhase_verdict onTime).1
  · rw [ended, ← gaveUp]
    exact verdict_mayStillComplete_iff onTime
  · intro id message
    rw [ended]
    exact verdict_jobFailed_iff id message
  · intro id file total
    rw [ended, verdict_ok_iff]
    simp only [completion_exported_iff]
  · intro id file
    rw [ended, verdict_ok_iff]
    simp only [completion_noRecords_iff]
  · rw [phase, ended]
    exact (lastPhase_verdict onTime).2
  · constructor
    · rintro ⟨error, last, _⟩
      exact ⟨checks, Nat.le_refl _, error, last⟩
    · rintro ⟨i, below, error, answered⟩
      rcases Nat.lt_or_eq_of_le below with earlier | rfl
      · have other := pending i earlier
        rw [answered] at other
        cases other
      · exact ⟨error, answered, by rw [ended, answered]; rfl⟩

/-- The job completes at the last check that there may be. -/
theorem export_follows_answers_last_check :
    ∃ (settings : PollSettings) (script : Script) (coordinator : Coordinator)
      (assignment : Assignment), settings.maxAttempts = 2 ∧
      assignment.selection.isEmpty = false ∧ coordinator.isBusy = false ∧
      script.created = .ok () ∧
      (∀ i job attempts, script.answer i ≠ .error (.timeout job attempts)) ∧
      (script.run settings coordinator assignment).1 =
        .ok (.exported ⟨List.replicate 32 7, rfl⟩ "/Projects_Exports/projects_selected_0.jsonl" 3) ∧
      (script.run settings coordinator assignment).2.phases =
        [.submitting, .polling 1, .polling 2] := by
  let id : Uuid := ⟨List.replicate 32 7, rfl⟩
  let job (status : JobStatus) : Job := ⟨id, status, some 3, none, none, none, none⟩
  let script : Script :=
    ⟨"0", .ok (), fun
      | 0 => .ok (job .requested)
      | 1 => .ok (job .inProgress)
      | _ => .ok (job .completed)⟩
  let assignment : Assignment :=
    ⟨"/", .projects, Selection.empty.insert "a", false, .jsonLines, "token"⟩
  have punctual : ∀ i job attempts, script.answer i ≠ .error (.timeout job attempts) := by
    intro i _ _
    match i with
    | 0 | 1 | _ + 2 => exact nofun
  obtain ⟨checks, within, last, answered, _, settled, _, phases, _, _, _, _, _, _, exported, _⟩ :=
    export_follows_answers ⟨2, 1000⟩ script .new assignment rfl rfl rfl punctual
  obtain rfl : checks = 2 := by
    match checks with
    | 0 | 1 => cases answered; cases settled (by decide)
    | 2 => rfl
    | _ + 3 => exact absurd within (by simp)
  refine ⟨⟨2, 1000⟩, script, .new, assignment, rfl, rfl, rfl, rfl, punctual, ?_, phases⟩
  exact (exported _ _ _).mpr ⟨_, answered.symm, rfl, rfl, by decide, rfl, by decide⟩

end BackgroundWork.Export
