import BackgroundWork.Compression.Publisher
import BackgroundWork.Proofs.PushReading
import Mathlib.Data.List.Forall2

set_option autoImplicit false

/-!
The publisher between those who hand it pushes and the engine. Pushes come at any time, also while
one is being sent, and the engine answers in any way. The pushes that were accepted are those that
entered the engine, perhaps the one in hand, and those that wait, in this order. Main statement:
each enters once and in its turn, by the entry point of its kind and with what it has to tell, and
a push is lost only when it finds the queue full.
-/

namespace BackgroundWork.Compression

open Engine (Bridge.Op Bridge.interface Invocation Quiet invocation?)

/-- The publisher with its past. -/
structure Publishing where
  publisher : Publisher
  /-- What is left to do for the push in hand, if there is one. -/
  sending : Option (Program Bridge.interface Unit)
  /-- The pushes that were accepted, in order. -/
  accepted : List Push
  /-- The entries into the engine, in order. -/
  entries : List Invocation

namespace Publishing

/-! ### Moves -/

/-- What the engine can answer. -/
abbrev Replies := (op : Bridge.Op) → Bridge.interface.Answer op

/-- What can happen to a publisher. -/
inductive Move where
  | submit (push : Push)
  /-- The publisher goes on by one operation. -/
  | go (replies : Replies)

/-- A publisher at first. -/
def new (depth : Nat) : Publishing := ⟨.new depth, none, [], []⟩

def submit (publishing : Publishing) (push : Push) : Publishing :=
  { publishing with
    publisher := publishing.publisher.submit push
    accepted :=
      if publishing.publisher.isFull then publishing.accepted
      else publishing.accepted ++ [push] }

/-- The publisher goes on with the push in hand; if there is none, it takes the next. -/
def go (publishing : Publishing) (replies : Replies) : Publishing :=
  match publishing.sending with
  | none =>
    match publishing.publisher.take? with
    | none => publishing
    | some (push, publisher) => { publishing with publisher, sending := some push.send }
  | some (.done ()) => { publishing with sending := none }
  | some (.ask op next) =>
    { publishing with
      sending := some (next (replies op))
      entries := publishing.entries ++ (invocation? op).toList }

def move (publishing : Publishing) : Move → Publishing
  | .submit push => publishing.submit push
  | .go replies => publishing.go replies

/-- What further moves lead to. -/
def moves (publishing : Publishing) (later : List Move) : Publishing :=
  later.foldl move publishing

/-- What moves lead to. -/
def of (depth : Nat) (history : List Move) : Publishing :=
  (new depth).moves history

theorem moves_append (publishing : Publishing) (first second : List Move) :
    publishing.moves (first ++ second) = (publishing.moves first).moves second :=
  List.foldl_append

/-- Whether nothing is left to do. -/
def isDrained (publishing : Publishing) : Bool :=
  publishing.sending.isNone && publishing.publisher.waiting.isEmpty

/-- The push that a move hands in, if it does. -/
def Move.push? : Move → Option Push
  | .submit push => some push
  | .go _ => none

/-- The pushes that were handed in, in order. -/
def submissions (history : List Move) : List Push :=
  history.filterMap Move.push?

/-! ### What moves come to -/

variable {publishing : Publishing} {push : Push}

theorem submit_of_full (full : publishing.publisher.depth ≤ publishing.publisher.waiting.length) :
    publishing.submit push = publishing := by
  simp only [submit, Publisher.submit, Publisher.isFull, full, decide_true, ↓reduceIte]

theorem submit_of_room (room : publishing.publisher.waiting.length < publishing.publisher.depth) :
    publishing.submit push =
      { publishing with
        publisher :=
          { publishing.publisher with waiting := publishing.publisher.waiting ++ [push] }
        accepted := publishing.accepted ++ [push] } := by
  simp only [submit, Publisher.submit, Publisher.isFull, Nat.not_le.2 room, decide_false,
    Bool.false_eq_true, ↓reduceIte]

/-- What a move can come to. -/
inductive Moving : Publishing → Publishing → Prop
  | ignored {publishing : Publishing} : Moving publishing publishing
  | accepted {publishing : Publishing} (push : Push)
      (room : publishing.publisher.waiting.length < publishing.publisher.depth) :
      Moving publishing
        { publishing with
          publisher :=
            { publishing.publisher with waiting := publishing.publisher.waiting ++ [push] }
          accepted := publishing.accepted ++ [push] }
  | took {publishing : Publishing} (push : Push) (rest : List Push)
      (idle : publishing.sending = none) (waits : publishing.publisher.waiting = push :: rest) :
      Moving publishing
        { publishing with
          publisher := { publishing.publisher with waiting := rest }
          sending := some push.send }
  | asked {publishing : Publishing} {op : Bridge.Op}
      {next : Bridge.interface.Answer op → Program Bridge.interface Unit}
      (sending : publishing.sending = some (.ask op next)) (answer : Bridge.interface.Answer op) :
      Moving publishing
        { publishing with
          sending := some (next answer)
          entries := publishing.entries ++ (invocation? op).toList }
  | finished {publishing : Publishing} (sending : publishing.sending = some (.done ())) :
      Moving publishing { publishing with sending := none }

theorem moving (publishing : Publishing) (next : Move) :
    Moving publishing (publishing.move next) := by
  cases next with
  | submit push =>
    rcases Nat.lt_or_ge publishing.publisher.waiting.length publishing.publisher.depth with
      room | full
    · rw [move, submit_of_room room]
      exact .accepted push room
    · rw [move, submit_of_full full]
      exact .ignored
  | go replies =>
    simp only [move, go]
    split
    · rename_i idle
      cases waits : publishing.publisher.waiting with
      | nil =>
        simp only [Publisher.take?, waits]
        exact .ignored
      | cons push rest =>
        simp only [Publisher.take?, waits]
        exact .took push rest idle waits
    · exact .finished ‹_›
    · exact .asked ‹_› _

/-! ### The order of pushes -/

/-- How the pushes that were taken have entered the engine, with what is left to do for the last
of them. -/
inductive Sending : List Push → Option (Program Bridge.interface Unit) → List Invocation → Prop
  | between (taken : List Push) : Sending taken none (taken.map Push.invocation)
  | before (earlier : List Push) (push : Push) :
      Sending (earlier ++ [push]) (some push.send) (earlier.map Push.invocation)
  | after (taken : List Push) {program : Program Bridge.interface Unit} (quiet : Quiet program) :
      Sending taken (some program) (taken.map Push.invocation)

/-- One operation for the push in hand. The first of them enters the engine, and no other does. -/
theorem Sending.ask {taken : List Push} {entries : List Invocation} {op : Bridge.Op}
    {next : Bridge.interface.Answer op → Program Bridge.interface Unit}
    (sending : Sending taken (some (.ask op next)) entries) (answer : Bridge.interface.Answer op) :
    Sending taken (some (next answer)) (entries ++ (invocation? op).toList) := by
  generalize left : some (Program.ask (I := Bridge.interface) op next) = program at sending
  cases sending with
  | between => cases left
  | before earlier push =>
    obtain ⟨rest, sends, quiet⟩ := push.send_quiet
    rw [sends] at left
    cases left
    -- Here the push enters; all that it has left to do is quiet.
    have entered : earlier.map Push.invocation ++ [push.invocation] =
        (earlier ++ [push]).map Push.invocation := by simp
    exact entered ▸ .after _ (quiet answer)
  | after taken quiet =>
    cases left
    obtain ⟨silent, later⟩ := quiet
    rw [silent, Option.toList_none, List.append_nil]
    exact .after taken (later answer)

theorem Sending.done {taken : List Push} {entries : List Invocation}
    (sending : Sending taken (some (.done ())) entries) : entries = taken.map Push.invocation := by
  generalize left : some (Program.done ()) = program at sending
  cases sending with
  | between => cases left
  | before earlier push =>
    obtain ⟨rest, sends, _⟩ := push.send_quiet
    rw [sends] at left
    cases left
  | after taken quiet => rfl

theorem Sending.entries_prefix {taken : List Push} {entries : List Invocation}
    {program : Option (Program Bridge.interface Unit)} (sending : Sending taken program entries) :
    entries <+: taken.map Push.invocation := by
  cases sending with
  | between | after => exact List.prefix_rfl
  | before earlier push =>
    rw [List.map_append]
    exact List.prefix_append _ _

/-- Only the push in hand may not have entered yet. -/
theorem Sending.length_taken {taken : List Push} {entries : List Invocation}
    {program : Option (Program Bridge.interface Unit)} (sending : Sending taken program entries) :
    taken.length ≤ entries.length + 1 := by
  cases sending with
  | between | after => simp
  | before earlier push => simp

theorem Sending.idle {taken : List Push} {entries : List Invocation}
    (sending : Sending taken none entries) : entries = taken.map Push.invocation := by
  generalize left : (none : Option (Program Bridge.interface Unit)) = program at sending
  cases sending with
  | between => rfl
  | before | after => cases left

/-- What was accepted was taken or waits, and what was taken entered the engine in its turn. -/
structure Orderly (depth : Nat) (publishing : Publishing) : Prop where
  fixed : publishing.publisher.depth = depth
  room : publishing.publisher.waiting.length ≤ depth
  order : ∃ taken, publishing.accepted = taken ++ publishing.publisher.waiting ∧
    Sending taken publishing.sending publishing.entries

theorem Orderly.new (depth : Nat) : Orderly depth (new depth) :=
  ⟨rfl, Nat.zero_le _, [], rfl, .between []⟩

theorem Orderly.move {depth : Nat} {after : Publishing} (orderly : Orderly depth publishing)
    (moving : Moving publishing after) : Orderly depth after := by
  obtain ⟨fixed, room, taken, accepted, sent⟩ := orderly
  cases moving with
  | ignored => exact ⟨fixed, room, taken, accepted, sent⟩
  | accepted push free =>
    refine ⟨fixed, ?_, taken, ?_, sent⟩
    · rw [List.length_append]
      exact fixed ▸ free
    · rw [accepted, List.append_assoc]
  | took push rest idle waits =>
    rw [waits] at room accepted
    rw [idle] at sent
    refine ⟨fixed, Nat.le_of_succ_le room, taken ++ [push], ?_, ?_⟩
    · rw [accepted, List.append_assoc]
      rfl
    · rw [sent.idle]
      exact .before taken push
  | asked sending answer =>
    rw [sending] at sent
    exact ⟨fixed, room, taken, accepted, sent.ask answer⟩
  | finished sending =>
    rw [sending] at sent
    refine ⟨fixed, room, taken, accepted, ?_⟩
    rw [sent.done]
    exact .between taken

theorem Orderly.of (depth : Nat) (history : List Move) : Orderly depth (of depth history) :=
  List.foldlRecOn history Publishing.move (.new depth) fun publishing orderly next _ =>
    orderly.move (moving publishing next)

theorem entries_prefix (depth : Nat) (history : List Move) :
    (of depth history).entries <+: (of depth history).accepted.map Push.invocation := by
  obtain ⟨_, _, taken, accepted, sending⟩ := Orderly.of depth history
  rw [accepted, List.map_append]
  exact sending.entries_prefix.trans (List.prefix_append _ _)

/-- What is accepted stays so, and was handed in before, in this order. -/
theorem moves_accepted (publishing : Publishing) (later : List Move) :
    ∃ more, (publishing.moves later).accepted = publishing.accepted ++ more ∧
      more.Sublist (submissions later) := by
  induction later generalizing publishing with
  | nil => exact ⟨[], (List.append_nil _).symm, .slnil⟩
  | cons next later ih =>
    obtain ⟨more, accepted, among⟩ := ih (publishing.move next)
    cases next with
    | submit push =>
      by_cases full : publishing.publisher.isFull = true
      · refine ⟨more, accepted.trans ?_, among.cons push⟩
        simp only [move, submit, full, ↓reduceIte]
      · refine ⟨push :: more, accepted.trans ?_, among.cons_cons push⟩
        simp only [move, submit, full, Bool.false_eq_true, ↓reduceIte, List.append_assoc,
          List.singleton_append]
    | go replies =>
      refine ⟨more, accepted.trans ?_, among⟩
      have kept : (publishing.go replies).accepted = publishing.accepted := by
        unfold go
        split
        · split <;> rfl
        all_goals rfl
      exact congrArg (· ++ more) kept

/-- The entries carry the pushes that were accepted, from the first one on. -/
theorem carried (depth : Nat) (history : List Move) :
    let publishing := of depth history
    List.Forall₂ Carries publishing.entries
      (publishing.accepted.take publishing.entries.length) := by
  intro publishing
  have entries : publishing.entries =
      (publishing.accepted.take publishing.entries.length).map Push.invocation := by
    rw [List.map_take]
    exact List.prefix_iff_eq_take.1 <| entries_prefix depth history
  generalize publishing.accepted.take publishing.entries.length = sent at entries ⊢
  rw [entries, List.forall₂_map_left_iff]
  exact List.forall₂_same.2 fun push _ => carries_invocation push

/-! ### Draining -/

/-- The publisher goes on by some operations. -/
def going (replies : Nat → Replies) (first steps : Nat) : List Move :=
  (List.range' first steps).map fun i => .go (replies i)

theorem moves_going_succ (publishing : Publishing) (replies : Nat → Replies)
    (first steps : Nat) :
    publishing.moves (going replies first (steps + 1)) =
      (publishing.go (replies first)).moves (going replies (first + 1) steps) := by
  simp only [going, List.range'_succ, List.map_cons, moves, List.foldl_cons, move]

theorem moves_going_add (publishing : Publishing) (replies : Nat → Replies)
    (first steps more : Nat) :
    publishing.moves (going replies first (steps + more)) =
      (publishing.moves (going replies first steps)).moves
        (going replies (first + steps) more) := by
  rw [← moves_append, going, going, going, ← List.map_append, List.range'_append_1]

/-- The push in hand is finished sometime, whatever the engine answers. -/
theorem finishes (replies : Nat → Replies) (program : Program Bridge.interface Unit)
    (publishing : Publishing) (first : Nat) (sending : publishing.sending = some program) :
    ∃ steps, let later := publishing.moves (going replies first steps)
      later.sending = none ∧ later.publisher = publishing.publisher ∧
        later.accepted = publishing.accepted := by
  induction program generalizing publishing first with
  | done value =>
    refine ⟨1, ?_⟩
    have step : publishing.go (replies first) = { publishing with sending := none } := by
      simp only [go, sending]
    rw [moves_going_succ, step]
    exact ⟨rfl, rfl, rfl⟩
  | ask op next ih =>
    let asked : Publishing :=
      { publishing with
        sending := some (next (replies first op))
        entries := publishing.entries ++ (invocation? op).toList }
    have step : publishing.go (replies first) = asked := by simp only [go, sending, asked]
    obtain ⟨steps, done⟩ := ih (replies first op) asked (first + 1) rfl
    exact ⟨steps + 1, by rwa [moves_going_succ, step]⟩

/-- The queue is empty sometime, if nothing more comes in. -/
theorem drains_waiting (replies : Nat → Replies) (waiting : List Push) (publishing : Publishing)
    (first : Nat) (idle : publishing.sending = none)
    (waits : publishing.publisher.waiting = waiting) :
    ∃ steps, let later := publishing.moves (going replies first steps)
      later.isDrained = true ∧ later.accepted = publishing.accepted := by
  -- Nothing comes in meanwhile, so that each push which is sent leaves a shorter queue.
  induction waiting generalizing publishing first with
  | nil => exact ⟨0, by simp [moves, going, isDrained, idle, waits], rfl⟩
  | cons push rest ih =>
    let taken : Publishing :=
      { publishing with
        publisher := { publishing.publisher with waiting := rest }
        sending := some push.send }
    have step : publishing.go (replies first) = taken := by
      simp only [go, idle, Publisher.take?, waits, taken]
    obtain ⟨sent, finished, left, kept⟩ := finishes replies push.send taken (first + 1) rfl
    obtain ⟨steps, drained, accepted⟩ := ih _ (first + 1 + sent) finished (by rw [left])
    rw [← moves_going_add] at drained accepted
    refine ⟨sent + steps + 1, ?_⟩
    rw [moves_going_succ, step]
    exact ⟨drained, accepted.trans kept⟩

theorem drains (publishing : Publishing) (replies : Nat → Replies) :
    ∃ steps, let later := publishing.moves (going replies 0 steps)
      later.isDrained = true ∧ later.accepted = publishing.accepted := by
  cases sending : publishing.sending with
  | none => exact drains_waiting replies _ publishing 0 sending rfl
  | some program =>
    obtain ⟨sent, finished, _, kept⟩ := finishes replies program publishing 0 sending
    obtain ⟨steps, drained, accepted⟩ := drains_waiting replies _ _ (0 + sent) finished rfl
    rw [← moves_going_add] at drained accepted
    exact ⟨sent + steps, drained, accepted.trans kept⟩

/-! ### The whole history -/

/-- Whatever is handed in when, and whatever the engine answers: the pushes that were accepted are
among those handed in, in the same order; they enter the engine each once and in this order, by
the entry point for the kind of push, and with a payload that reads as what the push has to tell;
one is dropped only when it finds as many waiting as there may be, and then nothing else changes;
and all that were accepted have entered when nothing is left to do, which comes about if nothing
more is handed in. -/
theorem pushes_enter_in_order (depth : Nat) (history : List Move) :
    let publishing := of depth history
    let waiting := publishing.publisher.waiting
    publishing.accepted.Sublist (submissions history) ∧
    publishing.entries <+: publishing.accepted.map Push.invocation ∧
    List.Forall₂ Carries publishing.entries
      (publishing.accepted.take publishing.entries.length) ∧
    publishing.accepted.length ≤ publishing.entries.length + 1 + waiting.length ∧
    waiting <:+ publishing.accepted ∧
    waiting.length ≤ depth ∧
    (∀ push,
      (waiting.length = depth → publishing.move (.submit push) = publishing) ∧
      (waiting.length ≠ depth →
        publishing.move (.submit push) =
          { publishing with
            publisher := { publishing.publisher with waiting := waiting ++ [push] }
            accepted := publishing.accepted ++ [push] })) ∧
    (publishing.isDrained = true →
      publishing.entries = publishing.accepted.map Push.invocation) ∧
    (∀ replies, ∃ steps, let later := publishing.moves (going replies 0 steps)
      later.isDrained = true ∧ later.accepted = publishing.accepted) := by
  intro publishing waiting
  obtain ⟨fixed, room, taken, accepted, sending⟩ := Orderly.of depth history
  refine ⟨?_, entries_prefix depth history, carried depth history, ?_, ⟨taken, accepted.symm⟩, room,
    fun push => ⟨?_, ?_⟩, ?_, drains publishing⟩
  · obtain ⟨more, all, among⟩ := moves_accepted (new depth) history
    exact all.symm ▸ among
  · rw [accepted, List.length_append]
    exact Nat.add_le_add_right sending.length_taken _
  · intro full
    exact submit_of_full (Nat.le_of_eq (fixed.trans full.symm))
  · intro free
    exact submit_of_room (fixed ▸ Nat.lt_of_le_of_ne room free)
  · intro drained
    obtain ⟨idle, empty⟩ := (Bool.and_eq_true_iff ..).1 drained
    rw [Option.isNone_iff_eq_none.1 idle] at sending
    rw [accepted, List.isEmpty_iff.1 empty, List.append_nil]
    exact sending.idle

/-- A push that comes while one waits is dropped, and one is sent although the engine crashed on
the one before it. -/
example :
    let crashing : Replies := fun
      | .invoke .. => .error "crash"
      | .read _ => .cut []
      | .release _ => ()
      | .lastError => none
    (of 1 [.submit (.budget 30), .submit (.budget 0), .go crashing, .submit (.visibility true),
      .go crashing, .go crashing, .go crashing, .go crashing]).entries =
      [(Push.budget 30).invocation, (Push.visibility true).invocation] := rfl

end Publishing
end BackgroundWork.Compression
