import BackgroundWork.Proofs.WindowLedger

set_option autoImplicit false

/-!
Expiries that come late. The system can run a handler at any time after it was given, and the
announcement waits among the worker's events for as long as it takes. The numbers of the ledger
say which request it belongs to. Main statement: an expiry ends the window that was granted to
its own request, if that one is still held, and else does nothing at all.
-/

namespace BackgroundWork.Compression

open Background

namespace Ledger

variable {seconds : UInt32} {log : List WindowEvent} {state : WindowState}

/-- No request shares its number with another. -/
theorem asked_nodup (ledger : Ledger seconds log state) :
    (log.filterMap WindowEvent.asked?).Nodup := by
  rw [ledger.asked]
  exact List.nodup_range'

/-- The number of the window that is held is the number of the last dealing and of no other. -/
theorem last_of_held (ledger : Ledger seconds log state) {held : HeldBudget}
    (holds : state.held = some held) {before after : List WindowEvent} {event : WindowEvent}
    (split : log = before ++ event :: after) (own : event.asked? = some held.grant) :
    after = [] ∧ event = .granted held.grant held.budget.task := by
  obtain ⟨_, earlier, last⟩ := ledger.last held holds
  rw [last] at split
  obtain ⟨rfl, _, rfl⟩ | ⟨later, rfl, inside⟩ := snoc_split split
  · exact ⟨rfl, rfl⟩
  · -- the number would stand twice among those asked for
    have once := List.nodup_iff_count.mp ledger.asked_nodup held.grant
    have again : List.count held.grant
        ([.granted held.grant held.budget.task].filterMap WindowEvent.asked?) = 1 :=
      List.count_singleton_self
    rw [last, inside, List.filterMap_append, List.filterMap_append,
      List.filterMap_cons_some own, List.count_append, List.count_append,
      List.count_cons_self] at once
    omega

end Ledger

section

variable {coordinator : Coordinator} {moment : Moment} {event : Event} {rest : List Event}

theorem turn_of_internal (running : coordinator.life = .running)
    (waiting : coordinator.internal = event :: rest) :
    coordinator.turn? moment =
      some ({ coordinator with internal := rest }.handle moment event none) := by
  unfold Coordinator.turn?
  rw [if_pos (isRunning_iff.mpr running)]
  split
  · rename_i first
    rw [waiting] at first
    cases first
    rfl
  · rename_i quiet _
    rw [waiting] at quiet
    cases quiet
  · rename_i quiet _
    rw [waiting] at quiet
    cases quiet

/-- The expiry of the window that is held ends it. -/
theorem turn_of_own_expiry {held : HeldBudget} (running : coordinator.life = .running)
    (waiting : coordinator.internal = .budgetExpired held.grant :: rest)
    (holds : coordinator.worker.held = some held) :
    coordinator.turn? moment =
      some
        ⟨{ coordinator with
            internal := rest
            worker := { coordinator.worker with held := none, phase := .expired } },
          [.push (.budget 0), .endTask held.budget.task], []⟩ := by
  have handled : coordinator.worker.handle coordinator.settings moment
      (.budgetExpired held.grant) = .ok _ := congrArg Except.ok (expire_of_held holds)
  rw [turn_of_internal running waiting]
  simp only [Coordinator.handle, handled]
  rfl

/-- Any other expiry is only taken from what waits. -/
theorem turn_of_other_expiry {grant : Nat} (running : coordinator.life = .running)
    (waiting : coordinator.internal = .budgetExpired grant :: rest)
    (other : coordinator.worker.held.map (·.grant) ≠ some grant) :
    coordinator.turn? moment = some ⟨{ coordinator with internal := rest }, [], []⟩ := by
  have handled : coordinator.worker.handle coordinator.settings moment (.budgetExpired grant) =
      .ok (.new coordinator.worker) := congrArg Except.ok (expire_of_other other)
  rw [turn_of_internal running waiting]
  simp only [Coordinator.handle, handled]
  rfl

end

/-- Whatever callers, pulls and the system do, no number is used for two requests; callers cannot
send an expiry; and when the worker takes an expiry, the system has run the handler of that very
request, and either the window that was granted to it is held and is what the turn ends, or nothing
changes but that the expiry is gone. In particular nothing does when the request was refused or its
window is not the last dealing any more. -/
theorem expiry_isolated (settings : CoordinatorSettings) (moves : List Move) :
    let run := Run.of settings moves
    let coordinator := run.coordinator
    run.asked.Nodup ∧
      (∀ ticket grant, (ticket, .dispatch (.budgetExpired grant)) ∉ coordinator.commands) ∧
      ∀ grant rest moment, coordinator.internal = .budgetExpired grant :: rest →
        grant ∈ run.announced ∧
          ((∃ task,
              coordinator.worker.held =
                  some (.granted grant task settings.backgroundGrantSeconds) ∧
                run.windows.getLast? = some (.granted grant task) ∧
                coordinator.turn? moment =
                  some
                    ⟨{ coordinator with
                        internal := rest
                        worker := { coordinator.worker with held := none, phase := .expired } },
                      [.push (.budget 0), .endTask task], []⟩) ∨
            coordinator.worker.held.map (·.grant) ≠ some grant ∧
              coordinator.turn? moment = some ⟨{ coordinator with internal := rest }, [], []⟩) ∧
          ((.refused grant ∈ run.windows ∨
              ∃ earlier task later, run.windows = earlier ++ .granted grant task :: later ∧
                later ≠ []) →
            coordinator.turn? moment = some ⟨{ coordinator with internal := rest }, [], []⟩) := by
  intro run coordinator
  have ledger : Ledger _ run.windows coordinator.worker.windowState := Run.booked settings moves
  have sound := Sound.of settings moves
  refine ⟨ledger.asked_nodup, ?_, ?_⟩
  · intro ticket grant member
    obtain ⟨request, sent⟩ := sound.requested _ member
    cases request <;> cases sent
  · intro grant rest moment waiting
    have running : coordinator.life = .running := by
      apply Decidable.byContradiction
      intro gone
      have quiet := sound.clear.internal gone
      rw [waiting] at quiet
      cases quiet
    refine ⟨?_, ?_, ?_⟩
    · apply sound.announced
      rw [waiting]
      exact List.mem_cons_self
    · by_cases own : coordinator.worker.held.map (·.grant) = some grant
      · obtain ⟨held, holds, rfl⟩ := Option.map_eq_some_iff.mp own
        obtain ⟨duration, earlier, last⟩ := ledger.last held holds
        refine .inl ⟨held.budget.task, ?_, ?_, turn_of_own_expiry running waiting holds⟩
        · rw [holds, ← duration]
          exact congrArg some held.eq_granted
        · rw [last, List.getLast?_concat]
      · exact .inr ⟨own, turn_of_other_expiry running waiting own⟩
    · intro spent
      apply turn_of_other_expiry running waiting
      intro own
      obtain ⟨held, holds, rfl⟩ := Option.map_eq_some_iff.mp own
      rcases spent with refused | ⟨earlier, task, later, granted, more⟩
      · obtain ⟨before, after, split⟩ := List.append_of_mem refused
        obtain ⟨_, other⟩ := ledger.last_of_held holds split rfl
        cases other
      · obtain ⟨absent, _⟩ := ledger.last_of_held holds granted rfl
        exact more absent

/-- The end of the first window is announced when the second is open, under the same task. -/
example :
    (Run.of Settings.default.coordinator
      [.send 0 .start, .turn (.calm none),
        .send 1 (.lifecycle .enteredBackground), .turn (.calm (some ⟨7⟩)),
        .send 2 (.lifecycle .becameActive), .turn (.calm none),
        .send 3 (.lifecycle .enteredBackground), .turn (.calm (some ⟨7⟩)),
        .announce 1, .turn (.calm none)]).windows =
      [.granted 1 ⟨7⟩, .ended ⟨7⟩, .granted 2 ⟨7⟩] := by
  decide +kernel

end BackgroundWork.Compression
