set_option autoImplicit false

/-!
Programs that ask their surroundings. An interface lists operations with the types of their
answers. A program either is done or asks for one operation and goes on with the answer, so what
it does is data: it can be run by a handler that keeps a state, put in terms of another
interface, stopped between two operations, or interleaved with others. The laws say that running
and rewriting a program go part by part.
-/

namespace BackgroundWork

/-- Operations that a program may ask for, each with the type of its answers. -/
structure Interface where
  Op : Type
  Answer : Op → Type

/-- The operations of both interfaces. -/
def Interface.sum (I J : Interface) : Interface where
  Op := I.Op ⊕ J.Op
  Answer
    | .inl op => I.Answer op
    | .inr op => J.Answer op

/-- A computation that may ask for operations of an interface. -/
inductive Program (I : Interface) (α : Type) : Type where
  | done (value : α)
  | ask (op : I.Op) (next : I.Answer op → Program I α)

namespace Program

variable {I J K : Interface} {α β σ : Type}

/-- One operation. -/
def perform (op : I.Op) : Program I (I.Answer op) :=
  .ask op .done

/-- One program after another. -/
def bind : Program I α → (α → Program I β) → Program I β
  | .done value, after => after value
  | .ask op next, after => .ask op fun answer => (next answer).bind after

instance : Monad (Program I) where
  pure := .done
  bind := bind

/-- The outcome of a program under a handler, and the state that the handler is left with. -/
def run (handle : (op : I.Op) → σ → I.Answer op × σ) : Program I α → σ → α × σ
  | .done value, state => (value, state)
  | .ask op next, state =>
    let (answer, state) := handle op state
    (next answer).run handle state

/-- A program with each operation replaced by a program of another interface. -/
def translate (meaning : (op : I.Op) → Program J (I.Answer op)) : Program I α → Program J α
  | .done value => .done value
  | .ask op next => (meaning op).bind fun answer => (next answer).translate meaning

/-- A program among operations of a further interface. -/
def inLeft (program : Program I α) : Program (I.sum J) α :=
  program.translate fun op => .ask (.inl op) .done

/-- A program among operations of a further interface. -/
def inRight (program : Program J α) : Program (I.sum J) α :=
  program.translate fun op => .ask (.inr op) .done

/-- A program with the operations of the second interface replaced by programs. -/
def translateRight (meaning : (op : J.Op) → Program K (J.Answer op)) :
    Program (I.sum J) α → Program (I.sum K) α :=
  translate fun
    | .inl op => .ask (.inl op) .done
    | .inr op => (meaning op).inRight

/-! ### Laws -/

theorem bind_assoc {γ : Type} (program : Program I α) (after : α → Program I β)
    (last : β → Program I γ) :
    (program.bind after).bind last = program.bind fun value => (after value).bind last := by
  induction program with
  | done value => rfl
  | ask op next ih => exact congrArg (ask op) (funext ih)

theorem run_bind (handle : (op : I.Op) → σ → I.Answer op × σ) (program : Program I α)
    (after : α → Program I β) (state : σ) :
    (program.bind after).run handle state =
      (after (program.run handle state).1).run handle (program.run handle state).2 := by
  induction program generalizing state with
  | done value => rfl
  | ask op next ih => exact ih _ _

theorem translate_bind (meaning : (op : I.Op) → Program J (I.Answer op)) (program : Program I α)
    (after : α → Program I β) :
    (program.bind after).translate meaning =
      (program.translate meaning).bind fun value => (after value).translate meaning := by
  induction program with
  | done value => rfl
  | ask op next ih =>
    simp only [bind, translate, bind_assoc]
    exact congrArg (meaning op).bind (funext ih)

end Program
end BackgroundWork
