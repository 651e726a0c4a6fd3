import BackgroundWork.Compression.Push

set_option autoImplicit false

/-!
What the client asks at the boundary to the engine. Whatever a program is answered, it may keep to
operations of some kind, and programs that do can be put together. Sending a request enters the
engine first of all, and never again.
-/

namespace BackgroundWork

/-! ### Programs that keep to some operations -/

namespace Program

variable {I : Interface} {α β : Type}

/-- Whether a program asks only for operations of some kind, whatever it is answered. -/
def AsksOnly (allowed : I.Op → Prop) : Program I α → Prop
  | .done _ => True
  | .ask op next => allowed op ∧ ∀ answer, (next answer).AsksOnly allowed

variable {allowed : I.Op → Prop}

theorem AsksOnly.bind {program : Program I α} {after : α → Program I β}
    (first : program.AsksOnly allowed) (later : ∀ value, (after value).AsksOnly allowed) :
    (program.bind after).AsksOnly allowed := by
  induction program with
  | done value => exact later value
  | ask op next ih => exact ⟨first.1, fun answer => ih answer (first.2 answer)⟩

end Program

namespace Engine

/-! ### Entering the engine -/

/-- An entry into the engine. -/
structure Invocation where
  call : Call
  payload : String
  token : Option String
  deriving DecidableEq, Repr

/-- The entry into the engine that an operation is, if it is one. -/
def invocation? : Bridge.Op → Option Invocation
  | .invoke call payload token => some ⟨call, payload, token⟩
  | .read _ | .release _ | .lastError => none

/-- Whether a program never enters the engine. -/
def Quiet {α : Type} (program : Program Bridge.interface α) : Prop :=
  program.AsksOnly fun op => invocation? op = none

theorem Client.receive_quiet (call : Call) (raw : RawReply) : Quiet (receive call raw) := by
  unfold receive
  extract_lets answer
  have answered : ∀ body, Quiet (answer body) := by
    intro body
    cases body with
    | error fault => trivial
    | ok body =>
      by_cases success : raw.status = 0
      · simp only [answer, success, ↓reduceIte]
        trivial
      · simp only [answer, success, ↓reduceIte]
        exact ⟨rfl, fun _ => trivial⟩
  cases raw.buffer with
  | none => exact answered (.ok none)
  | some buffer => exact ⟨rfl, fun _ => ⟨rfl, fun _ => answered _⟩⟩

theorem Client.send_quiet (call : Call) (payload : String) (token : Option String) :
    ∃ next, send call payload token = .ask (.invoke call payload token) next ∧
      ∀ answer, Quiet (next answer) := by
  refine ⟨_, rfl, fun answer => ?_⟩
  cases answer with
  | error panic => trivial
  | ok raw => exact receive_quiet call raw

end Engine

namespace Compression

/-- How a push enters the engine. -/
def Push.invocation (push : Push) : Engine.Invocation :=
  ⟨push.call, push.payload, none⟩

theorem Push.send_quiet (push : Push) :
    ∃ next, push.send = .ask (.invoke push.call push.payload none) next ∧
      ∀ answer, Engine.Quiet (next answer) := by
  obtain ⟨next, sends, quiet⟩ := Engine.Client.send_quiet push.call push.payload none
  refine ⟨fun answer => (next answer).bind fun _ => .done (), ?_, fun answer => ?_⟩
  · change (Engine.Client.send push.call push.payload none).bind _ = _
    rw [sends]
    rfl
  · exact (quiet answer).bind fun _ => trivial

end Compression
end BackgroundWork
