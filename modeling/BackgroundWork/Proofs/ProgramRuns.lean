import BackgroundWork.Program

set_option autoImplicit false

/-!
What a program asks for and what it is answered. A handler takes a program one way through its
operations to its end; whatever holds of all ways holds of every run. A way through one program
after another is a way through each, and a way through a program in terms of another interface is
a way through the program itself with each operation spelled out.
-/

namespace BackgroundWork

/-- What answers operations, keeping a state. -/
abbrev Interface.Handler (I : Interface) (σ : Type) :=
  (op : I.Op) → σ → I.Answer op × σ

/-- An operation that was asked for, with its answer. -/
structure Interface.Event (I : Interface) where
  op : I.Op
  answer : I.Answer op

/-- What was asked for, among operations of a further interface. -/
def Interface.Event.inRight {I J : Interface} (event : J.Event) : (I.sum J).Event :=
  ⟨.inr event.op, event.answer⟩

namespace Program

variable {I J : Interface} {α β σ : Type}

/-- The operations that a program asks for under a handler, with their answers, in order. -/
def events (handle : I.Handler σ) : Program I α → σ → List I.Event
  | .done _, _ => []
  | .ask op next, state =>
    let (answer, state) := handle op state
    ⟨op, answer⟩ :: (next answer).events handle state

/-- A program can ask for operations, get their answers and end with a value. -/
inductive Goes : Program I α → List I.Event → α → Prop
  | done (value : α) : Goes (.done value) [] value
  | ask {op : I.Op} {next : I.Answer op → Program I α} {answer : I.Answer op}
      {events : List I.Event} {value : α} (rest : Goes (next answer) events value) :
      Goes (.ask op next) (⟨op, answer⟩ :: events) value

theorem goes_run (handle : I.Handler σ) (program : Program I α)
    (state : σ) : program.Goes (program.events handle state) (program.run handle state).1 := by
  induction program generalizing state with
  | done value => exact .done value
  | ask op next ih => exact .ask (ih (handle op state).1 (handle op state).2)

theorem goes_done {value result : α} {events : List I.Event} :
    Goes (.done value : Program I α) events result ↔ events = [] ∧ result = value := by
  constructor
  · rintro ⟨⟩
    exact ⟨rfl, rfl⟩
  · rintro ⟨rfl, rfl⟩
    exact .done result

theorem goes_ask {op : I.Op} {next : I.Answer op → Program I α} {events : List I.Event}
    {result : α} :
    Goes (.ask op next) events result ↔
      ∃ answer later, events = ⟨op, answer⟩ :: later ∧ Goes (next answer) later result := by
  constructor
  · rintro (_ | ⟨rest⟩)
    exact ⟨_, _, rfl, rest⟩
  · rintro ⟨answer, later, rfl, rest⟩
    exact .ask rest

theorem goes_bind {program : Program I α} {after : α → Program I β} {events : List I.Event}
    {result : β} :
    Goes (program.bind after) events result ↔
      ∃ first value later, events = first ++ later ∧ Goes program first value ∧
        Goes (after value) later result := by
  induction program generalizing events with
  | done value =>
    constructor
    · intro whole
      exact ⟨[], value, events, rfl, .done value, whole⟩
    · rintro ⟨first, other, later, rfl, start, rest⟩
      obtain ⟨rfl, rfl⟩ := goes_done.1 start
      exact rest
  | ask op next ih =>
    constructor
    · intro whole
      obtain ⟨answer, others, rfl, rest⟩ := goes_ask.1 whole
      obtain ⟨first, value, later, rfl, start, rest⟩ := (ih answer).1 rest
      exact ⟨⟨op, answer⟩ :: first, value, later, rfl, .ask start, rest⟩
    · rintro ⟨first, value, later, rfl, start, rest⟩
      obtain ⟨answer, others, rfl, further⟩ := goes_ask.1 start
      exact .ask ((ih answer).2 ⟨others, value, later, rfl, further, rest⟩)

/-- Events of one interface, each spelled out as a way through what it means in another. -/
inductive Spelled (meaning : (op : I.Op) → Program J (I.Answer op)) :
    List I.Event → List J.Event → Prop
  | nil : Spelled meaning [] []
  | cons {event : I.Event} {part : List J.Event} {outer : List I.Event} {inner : List J.Event}
      (meant : Goes (meaning event.op) part event.answer) (rest : Spelled meaning outer inner) :
      Spelled meaning (event :: outer) (part ++ inner)

theorem Goes.of_translate {meaning : (op : I.Op) → Program J (I.Answer op)}
    {program : Program I α} {inner : List J.Event} {result : α}
    (goes : Goes (program.translate meaning) inner result) :
    ∃ outer, program.Goes outer result ∧ Spelled meaning outer inner := by
  induction program generalizing inner with
  | done value =>
    obtain ⟨rfl, rfl⟩ := goes_done.1 goes
    exact ⟨[], .done result, .nil⟩
  | ask op next ih =>
    obtain ⟨part, answer, later, rfl, meant, rest⟩ := goes_bind.1 goes
    obtain ⟨outer, goesOn, spelled⟩ := ih answer rest
    exact ⟨⟨op, answer⟩ :: outer, .ask goesOn, .cons meant spelled⟩

theorem spelled_nil {meaning : (op : I.Op) → Program J (I.Answer op)} {inner : List J.Event} :
    Spelled meaning [] inner ↔ inner = [] := by
  constructor
  · rintro ⟨⟩
    rfl
  · rintro rfl
    exact .nil

theorem spelled_cons {meaning : (op : I.Op) → Program J (I.Answer op)} {event : I.Event}
    {outer : List I.Event} {inner : List J.Event} :
    Spelled meaning (event :: outer) inner ↔
      ∃ part later, inner = part ++ later ∧ Goes (meaning event.op) part event.answer ∧
        Spelled meaning outer later := by
  constructor
  · rintro (_ | ⟨meant, rest⟩)
    exact ⟨_, _, rfl, meant, rest⟩
  · rintro ⟨part, later, rfl, meant, rest⟩
    exact .cons meant rest

theorem spelled_append {meaning : (op : I.Op) → Program J (I.Answer op)}
    {outer others : List I.Event} {inner : List J.Event} :
    Spelled meaning (outer ++ others) inner ↔
      ∃ first later, inner = first ++ later ∧ Spelled meaning outer first ∧
        Spelled meaning others later := by
  induction outer generalizing inner with
  | nil =>
    constructor
    · intro whole
      exact ⟨[], inner, rfl, .nil, whole⟩
    · rintro ⟨first, later, rfl, start, rest⟩
      rwa [spelled_nil.1 start]
  | cons event outer ih =>
    constructor
    · intro whole
      obtain ⟨part, later, rfl, meant, rest⟩ := spelled_cons.1 whole
      obtain ⟨first, last, rfl, start, rest⟩ := ih.1 rest
      exact ⟨part ++ first, last, (List.append_assoc ..).symm, .cons meant start, rest⟩
    · rintro ⟨first, last, rfl, start, rest⟩
      obtain ⟨part, later, rfl, meant, start⟩ := spelled_cons.1 start
      rw [List.append_assoc]
      exact .cons meant (ih.2 ⟨later, last, rfl, start, rest⟩)

theorem Goes.of_inRight {program : Program J α} {events : List (I.sum J).Event} {result : α}
    (goes : Goes (program.inRight : Program (I.sum J) α) events result) :
    ∃ inner, program.Goes inner result ∧ events = inner.map Interface.Event.inRight := by
  obtain ⟨outer, goesOn, spelled⟩ := goes.of_translate
  refine ⟨outer, goesOn, ?_⟩
  clear goes goesOn
  induction spelled with
  | nil => rfl
  | @cons event part outer inner meant rest ih =>
    obtain ⟨answer, later, rfl, ended⟩ := goes_ask.1 meant
    obtain ⟨rfl, rfl⟩ := goes_done.1 ended
    rw [ih]
    rfl

/-- A program that is answered the same goes the same way to the same end, whatever comes after
and however its events are seen. -/
theorem Goes.unique {γ : Type} {view : I.Event → γ}
    (faithful : Function.Injective view)
    {program : Program I α} {events others : List I.Event} {value other : α}
    {behind beyond : List γ} (goes : Goes program events value)
    (goesToo : Goes program others other)
    (same : events.map view ++ behind = others.map view ++ beyond) :
    events = others ∧ value = other := by
  induction goes generalizing others with
  | done value =>
    obtain ⟨rfl, rfl⟩ := goes_done.1 goesToo
    exact ⟨rfl, rfl⟩
  | ask rest ih =>
    obtain ⟨answer, later, rfl, restToo⟩ := goes_ask.1 goesToo
    rw [List.map_cons, List.map_cons, List.cons_append, List.cons_append] at same
    obtain ⟨head, tail⟩ := List.cons.inj same
    cases faithful head
    obtain ⟨rfl, rfl⟩ := ih restToo tail
    exact ⟨rfl, rfl⟩

/-! ### Halfway -/

/-- A program can ask for operations, get their answers and have the rest still to do. -/
inductive Passes : Program I α → List I.Event → Program I α → Prop
  | here (program : Program I α) : Passes program [] program
  | ask {op : I.Op} {next : I.Answer op → Program I α} {answer : I.Answer op}
      {events : List I.Event} {rest : Program I α} (later : Passes (next answer) events rest) :
      Passes (.ask op next) (⟨op, answer⟩ :: events) rest

theorem Passes.snoc {program rest : Program I α} {events : List I.Event} {op : I.Op}
    {next : I.Answer op → Program I α} (passes : Passes program events rest)
    (asks : rest = .ask op next) (answer : I.Answer op) :
    Passes program (events ++ [⟨op, answer⟩]) (next answer) := by
  induction passes with
  | here =>
    subst asks
    exact .ask (.here _)
  | ask later ih => exact .ask (ih asks)

theorem Passes.goes {program rest : Program I α} {events : List I.Event} {value : α}
    (passes : Passes program events rest) (ended : rest = .done value) :
    Goes program events value := by
  induction passes with
  | here =>
    subst ended
    exact .done value
  | ask later ih => exact .ask (ih ended)

theorem Passes.of_inRight {program : Program J α} {rest : Program (I.sum J) α}
    {events : List (I.sum J).Event}
    (passes : Passes (program.inRight : Program (I.sum J) α) events rest) :
    ∃ inner : Program J α, rest = inner.inRight := by
  induction program generalizing events with
  | done value =>
    cases passes
    exact ⟨.done value, rfl⟩
  | ask op next ih =>
    cases passes with
    | here => exact ⟨.ask op next, rfl⟩
    | ask later => exact ih _ later

/-! ### What holds of every way -/

/-- A program asks only for operations of some kind, whatever it is answered, and its value is one
of some kind. -/
def Ensures (allowed : I.Op → Prop) (good : α → Prop) (program : Program I α) : Prop :=
  ∀ events value, program.Goes events value → (∀ event ∈ events, allowed event.op) ∧ good value

section

variable {allowed : I.Op → Prop} {good : α → Prop} {fine : β → Prop}

theorem Ensures.done {value : α} (kind : good value) : Ensures allowed good (.done value) := by
  intro events result goes
  obtain ⟨rfl, rfl⟩ := goes_done.1 goes
  exact ⟨nofun, kind⟩

theorem Ensures.weaken {program : Program I α} {kind : α → Prop}
    (ensures : Ensures allowed good program) (weaker : ∀ value, good value → kind value) :
    Ensures allowed kind program := fun events value goes =>
  ⟨(ensures events value goes).1, weaker value (ensures events value goes).2⟩

theorem Ensures.ask {op : I.Op} {next : I.Answer op → Program I α} (kind : allowed op)
    (later : ∀ answer, Ensures allowed good (next answer)) :
    Ensures allowed good (.ask op next) := by
  intro events result goes
  obtain ⟨answer, others, rfl, rest⟩ := goes_ask.1 goes
  obtain ⟨asked, ended⟩ := later answer _ _ rest
  exact ⟨List.forall_mem_cons.2 ⟨kind, asked⟩, ended⟩

theorem Ensures.bind {program : Program I α} {after : α → Program I β}
    (first : Ensures allowed good program)
    (later : ∀ value, good value → Ensures allowed fine (after value)) :
    Ensures allowed fine (program.bind after) := by
  intro events result goes
  obtain ⟨start, value, others, rfl, begun, rest⟩ := goes_bind.1 goes
  obtain ⟨asked, kind⟩ := first _ _ begun
  obtain ⟨askedLater, ended⟩ := later value kind _ _ rest
  refine ⟨fun event among => ?_, ended⟩
  obtain before | behind := List.mem_append.1 among
  · exact asked event before
  · exact askedLater event behind

theorem Ensures.inRight {program : Program J α} {permitted : (I.sum J).Op → Prop}
    (inner : Ensures (fun op => permitted (.inr op)) good program) :
    Ensures permitted good (program.inRight : Program (I.sum J) α) := by
  intro events result goes
  obtain ⟨parts, within, rfl⟩ := goes.of_inRight
  obtain ⟨asked, kind⟩ := inner _ _ within
  refine ⟨fun event among => ?_, kind⟩
  obtain ⟨part, found, rfl⟩ := List.mem_map.1 among
  exact asked part found

theorem Ensures.run {program : Program I α} (ensures : Ensures allowed good program)
    (handle : I.Handler σ) (state : σ) :
    (∀ event ∈ program.events handle state, allowed event.op) ∧
      good (program.run handle state).1 :=
  ensures _ _ (goes_run handle program state)

end

end Program
end BackgroundWork
