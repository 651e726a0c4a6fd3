import BackgroundWork.Export.Coordinator

set_option autoImplicit false

/-!
What an export asks for on its way and what that changes: the phase that callers see, its own
selection and the list of what it asked for. A script of answers takes an export from its entry to
its end.
-/

namespace BackgroundWork.Export

/-! ### On the way -/

/-- An operation that an export asks for. -/
abbrev Asked := Surroundings.Op ⊕ Capability.Op

/-- The answers to an operation. -/
abbrev Reply (op : Asked) := (Surroundings.interface.sum Capability.interface).Answer op

/-- The phase that an operation writes. -/
def phase? : Asked → Option Phase
  | .inl (.publish phase) => some phase
  | _ => none

/-- An export on its way. -/
structure Journey where
  coordinator : Coordinator
  selection : Selection
  /-- What was asked for, in order. -/
  asked : List Asked

namespace Journey

/-- Asks for an operation. -/
def ask (journey : Journey) (op : Asked) : Journey where
  coordinator :=
    match op with
    | .inl (.publish phase) => journey.coordinator.publish phase
    | _ => journey.coordinator
  selection :=
    match op with
    | .inl .clearSelection => .empty
    | _ => journey.selection
  asked := journey.asked ++ [op]

/-- Asks for one operation after the other. -/
def asks (journey : Journey) (ops : List Asked) : Journey :=
  ops.foldl ask journey

/-- The phases that were written, in order. -/
def phases (journey : Journey) : List Phase :=
  journey.asked.filterMap phase?

/-- How many answers came from whatever runs the job. -/
def answers (journey : Journey) : Nat :=
  journey.asked.countP Sum.isRight

@[simp] theorem asks_nil (journey : Journey) : journey.asks [] = journey := rfl

@[simp] theorem asks_asks (journey : Journey) (first second : List Asked) :
    (journey.asks first).asks second = journey.asks (first ++ second) :=
  List.foldl_append.symm

@[simp] theorem asks_asked (journey : Journey) (ops : List Asked) :
    (journey.asks ops).asked = journey.asked ++ ops := by
  induction ops generalizing journey with
  | nil => simp
  | cons op ops ih =>
    have later := ih (journey.ask op)
    simpa [asks, ask] using later

theorem asks_answers (journey : Journey) (ops : List Asked) :
    (journey.asks ops).answers = journey.answers + ops.countP Sum.isRight := by
  simp [answers]

/-- Writing a phase is all that an operation does to the coordinator. -/
theorem ask_coordinator (journey : Journey) (op : Asked) :
    (journey.ask op).coordinator =
      { journey.coordinator with phase := (phase? op).getD journey.coordinator.phase } := by
  rcases op with op | _
  · cases op <;> rfl
  · rfl

end Journey

/-! ### The whole export -/

/-- What one export meets. -/
structure Script where
  /-- The second in which it starts, as it is written in names of files. -/
  stamp : String
  /-- What comes of creating the directory. -/
  created : Except String Unit
  /-- What whatever runs the job answers: first to the submission, then to each check. -/
  answer : Nat → Except ServiceError Job

namespace Script

/-- The answer to an operation, after the given number of answers about the job. -/
def reply (script : Script) (answers : Nat) : (op : Asked) → Reply op
  | .inl .stamp => script.stamp
  | .inl (.createDirectory _) => script.created
  | .inl (.publish _) | .inl (.sleep _) | .inl .clearSelection | .inl (.reveal _) => ()
  | .inr _ => script.answer answers

/-- What an export meets, as a handler. -/
def handle (script : Script) (op : (Surroundings.interface.sum Capability.interface).Op)
    (journey : Journey) :
    (Surroundings.interface.sum Capability.interface).Answer op × Journey :=
  (script.reply journey.answers op, journey.ask op)

/-- A whole export, with what it leaves behind. -/
def run (script : Script) (settings : PollSettings) (coordinator : Coordinator)
    (assignment : Assignment) : Except ServiceError Outcome × Journey :=
  match coordinator.enter assignment.selection with
  | .answered result => (result, ⟨coordinator, assignment.selection, []⟩)
  | .entered coordinator =>
    let (result, journey) :=
      (Process.start settings assignment).run script.handle
        ⟨coordinator, assignment.selection, []⟩
    (result, { journey with coordinator := journey.coordinator.finish result })

end Script

/-! ### What is asked for -/

namespace Assignment

/-- The file that an export writes. -/
def path (assignment : Assignment) (stamp : String) : String :=
  Path.file assignment.documents assignment.domain assignment.format stamp

/-- What an export submits. -/
def request (assignment : Assignment) (stamp : String) : Request where
  ids := assignment.selection.ids
  includeBlobs := assignment.includeBlobs
  format := assignment.format
  targetPath := assignment.path stamp
  authToken := assignment.authToken

/-- What an export asks for up to the first answer about its job. -/
def opening (assignment : Assignment) (stamp : String) : List Asked :=
  [.inl .stamp, .inl (.createDirectory (Path.directory assignment.documents assignment.domain)),
    .inl (.publish .submitting), .inr (.submit (assignment.request stamp))]

end Assignment

end BackgroundWork.Export
