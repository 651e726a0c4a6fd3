import BackgroundWork.Background.SystemHost
import BackgroundWork.Proofs.Utf8Reading
import Mathlib.Data.List.Nodup

set_option autoImplicit false

/-!
The contexts of expiry callbacks, followed along all calls to the system. Calls are made one after
another: a request for a task, or the end of a task that was granted and not ended. The system
answers a request with a refusal or with a number that no task has, and it calls back, as often as
it likes, with the context of the request that it is answering and with those of the tasks that it
has not ended. Main statement: the contexts that are kept are at all times those that the system
may call back with, and each handler is run by the first callback with its own context and never
again.
-/

namespace BackgroundWork.Background

variable {η : Type}

/-! ### Calls to the system -/

/-- A call to the system that has not come back. -/
inductive SystemCall where
  /-- A request for a task, with the address of its context. -/
  | request (context : Nat)
  | ending (task : TaskId)
  deriving DecidableEq

/-- The context of a request. -/
def SystemCall.context? : SystemCall → Option Nat
  | request context => some context
  | ending _ => none

/-- The application's side and the system, with what has come of their dealings so far. -/
structure Dialogue (η : Type) where
  host : SystemHost η
  underWay : Option SystemCall
  /-- The tasks that the system has granted and not ended, with the contexts of their requests. -/
  granted : List (TaskId × Nat)
  /-- The names under which the system was asked for tasks. -/
  names : List Text.Terminated
  /-- The contexts that the system was given, with the handlers that they were made for. -/
  given : List (Nat × η)
  /-- The handlers that were run, with the contexts that the system had called back with. -/
  fired : List (Nat × η)

namespace Dialogue

/-- What can happen between the application and the system. -/
inductive Move (η : Type) where
  /-- The application asks for a task. -/
  | request (name : String) (handler : η)
  /-- The system answers the request that is under way. -/
  | answer (number : Int32)
  /-- The application has a task ended. -/
  | finish (task : TaskId)
  /-- The system has ended the task. -/
  | finished
  | callBack (context : Nat)

/-- At first there are no tasks. -/
def new : Dialogue η := ⟨.new, none, [], [], [], []⟩

/-- The contexts that the system may call back with: that of the request that it is answering, and
those of the tasks that it has not ended. -/
def callable (dialogue : Dialogue η) : List Nat :=
  (dialogue.underWay.bind SystemCall.context?).toList ++ dialogue.granted.map Prod.snd

/-- A move. There is one call at a time, and only tasks that were granted and not ended are ended;
the system answers with no number that it has granted and not ended, and calls back only with
contexts that it may call back with. Other moves are not made. -/
def move (dialogue : Dialogue η) : Move η → Dialogue η
  | .request name handler =>
    match dialogue.underWay, dialogue.host.prepare name handler with
    | none, some (name, context, host) =>
      { dialogue with
        host
        underWay := some (.request context)
        names := dialogue.names ++ [name]
        given := dialogue.given ++ [(context, handler)] }
    | _, _ => dialogue
  | .answer number =>
    match dialogue.underWay with
    | some (.request context) =>
      match dialogue.host.settle context number with
      | (none, host) => { dialogue with host, underWay := none }
      | (some task, host) =>
        if task ∈ dialogue.granted.map Prod.fst then dialogue
        else
          { dialogue with
            host
            underWay := none
            granted := (task, context) :: dialogue.granted }
    | _ => dialogue
  | .finish task =>
    if dialogue.underWay = none ∧ task ∈ dialogue.granted.map Prod.fst then
      { dialogue with underWay := some (.ending task) }
    else dialogue
  | .finished =>
    match dialogue.underWay with
    | some (.ending task) =>
      { dialogue with
        host := dialogue.host.forget task
        underWay := none
        granted := dialogue.granted.filter (·.1 != task) }
    | _ => dialogue
  | .callBack context =>
    if context ∈ dialogue.callable then
      let (handler, host) := dialogue.host.callBack (some context)
      { dialogue with
        host
        fired := dialogue.fired ++ handler.toList.map fun handler => (context, handler) }
    else dialogue

/-- The dialogue after moves. -/
def moves (dialogue : Dialogue η) (later : List (Move η)) : Dialogue η :=
  later.foldl move dialogue

/-- The dialogue that moves lead to. -/
def of (history : List (Move η)) : Dialogue η :=
  new.moves history

end Dialogue

/-! ### What the application's side does -/

/-- An entry is found by its key, if no other has it. -/
theorem find?_of_key {κ β : Type} [BEq κ] [LawfulBEq κ] {entries : List (κ × β)} {key : κ}
    {value : β} (distinct : (entries.map Prod.fst).Nodup) (known : (key, value) ∈ entries) :
    entries.find? (·.1 == key) = some (key, value) := by
  cases found : entries.find? (·.1 == key) with
  | none => simpa using List.find?_eq_none.mp found _ known
  | some entry =>
    have same : entry.1 = key := by simpa using List.find?_some found
    exact congrArg some
      (List.inj_on_of_nodup_map distinct (List.mem_of_find?_eq_some found) known same)

namespace SystemHost

variable {host : SystemHost η} {context : Nat} {task : TaskId}

theorem callBack_frame (host : SystemHost η) (context : Nat) :
    (host.callBack (some context)).2.contexts.map Prod.fst = host.contexts.map Prod.fst ∧
      (host.callBack (some context)).2.tasks = host.tasks ∧
      (host.callBack (some context)).2.fresh = host.fresh := by
  unfold callBack
  cases found : host.contexts.find? (·.1 == context) with
  | none =>
    simp only [found, and_self]
  | some entry =>
    simp only [found, and_self, and_true, List.map_map]
    refine List.map_congr_left fun kept _ => ?_
    by_cases same : kept.1 = context
    · simp [same]
    · simp [same]

/-- A callback with a context that is kept takes the handler out of it and leaves the others. -/
theorem callBack_of_kept {slot : Option η} (distinct : (host.contexts.map Prod.fst).Nodup)
    (kept : (context, slot) ∈ host.contexts) :
    (host.callBack (some context)).1 = slot ∧
      ∀ other, other ∈ (host.callBack (some context)).2.contexts ↔
        other = (context, none) ∨ other ∈ host.contexts ∧ other.1 ≠ context := by
  have found := find?_of_key distinct kept
  unfold callBack
  simp only [found, List.mem_map, true_and]
  rintro other
  constructor
  · rintro ⟨entry, member, rfl⟩
    by_cases same : entry.1 = context
    · simp [same]
    · simp [same, member]
  · rintro (rfl | ⟨member, unlike⟩)
    · exact ⟨_, kept, by simp⟩
    · exact ⟨other, member, by simp [unlike]⟩

theorem forget_of_absent (absent : task ∉ host.tasks.map Prod.fst) : host.forget task = host := by
  have unknown : host.tasks.find? (·.1 == task) = none := by
    refine List.find?_eq_none.mpr fun entry member same => absent ?_
    exact List.mem_map.mpr ⟨entry, member, by simpa using same⟩
  simp only [forget, unknown]

theorem forget_of_known (distinct : (host.tasks.map Prod.fst).Nodup)
    (known : (task, context) ∈ host.tasks) :
    host.forget task =
      { host.discard context with tasks := host.tasks.filter (·.1 != task) } := by
  simp only [forget, find?_of_key distinct known]

end SystemHost

/-! ### What is kept -/

namespace Dialogue

/-- What the application's side keeps is what the system may still call back with, and which
handlers have been run. -/
structure Kept (dialogue : Dialogue η) : Prop where
  tasks : dialogue.host.tasks = dialogue.granted
  numbers : (dialogue.granted.map Prod.fst).Nodup
  contexts : dialogue.host.contexts.map Prod.fst = dialogue.callable
  callable : dialogue.callable.Nodup
  /-- A task is ended while it is known. -/
  ending : ∀ task, dialogue.underWay = some (.ending task) →
    task ∈ dialogue.granted.map Prod.fst
  given : (dialogue.given.map Prod.fst).Nodup
  fresh : ∀ context ∈ dialogue.given.map Prod.fst, context < dialogue.host.fresh
  /-- A context that is kept has the handler that it was made for until that is run. -/
  slots : ∀ context slot, (context, slot) ∈ dialogue.host.contexts →
    ∃ handler, (context, handler) ∈ dialogue.given ∧
      slot = if context ∈ dialogue.fired.map Prod.fst then none else some handler
  once : (dialogue.fired.map Prod.fst).Nodup
  own : dialogue.fired ⊆ dialogue.given

section

variable {dialogue : Dialogue η} {context : Nat} {task : TaskId}

theorem callable_of_request (asking : dialogue.underWay = some (.request context)) :
    dialogue.callable = context :: dialogue.granted.map Prod.snd := by
  rw [callable, asking]
  rfl

theorem callable_of_free (free : dialogue.underWay = none) :
    dialogue.callable = dialogue.granted.map Prod.snd := by
  rw [callable, free]
  rfl

theorem callable_of_ending (ends : dialogue.underWay = some (.ending task)) :
    dialogue.callable = dialogue.granted.map Prod.snd := by
  rw [callable, ends]
  rfl

theorem mem_callable (known : context ∈ dialogue.callable) :
    dialogue.underWay = some (.request context) ∨ context ∈ dialogue.granted.map Prod.snd := by
  match underWay : dialogue.underWay with
  | none => exact .inr (by rwa [callable_of_free underWay] at known)
  | some (.ending task) => exact .inr (by rwa [callable_of_ending underWay] at known)
  | some (.request asked) =>
    rw [callable_of_request underWay] at known
    rcases List.mem_cons.mp known with rfl | granted
    · exact .inl rfl
    · exact .inr granted

theorem Kept.new : Kept (.new : Dialogue η) where
  tasks := rfl
  numbers := List.nodup_nil
  contexts := rfl
  callable := List.nodup_nil
  ending := nofun
  given := List.nodup_nil
  fresh := nofun
  slots := nofun
  once := List.nodup_nil
  own := nofun

theorem Kept.mem_given (kept : Kept dialogue) (known : context ∈ dialogue.callable) :
    context ∈ dialogue.given.map Prod.fst := by
  rw [← kept.contexts] at known
  obtain ⟨entry, member, rfl⟩ := List.mem_map.mp known
  obtain ⟨handler, given, _⟩ := kept.slots _ _ member
  exact List.mem_map_of_mem given

/-- A context that has not been made was neither given nor called back with. -/
theorem Kept.unknown (kept : Kept dialogue) :
    dialogue.host.fresh ∉ dialogue.given.map Prod.fst ∧
      dialogue.host.fresh ∉ dialogue.callable ∧
      dialogue.host.fresh ∉ dialogue.fired.map Prod.fst := by
  have ungiven : dialogue.host.fresh ∉ dialogue.given.map Prod.fst :=
    fun given => Nat.lt_irrefl _ (kept.fresh _ given)
  exact ⟨ungiven, fun known => ungiven (kept.mem_given known),
    fun fired => ungiven (List.map_subset _ kept.own fired)⟩

theorem Kept.request (kept : Kept dialogue) (name : String) (handler : η) :
    Kept (dialogue.move (.request name handler)) := by
  cases free : dialogue.underWay with
  | some call => simpa only [move, free] using kept
  | none =>
    cases spoken : Text.Terminated.ofText? name with
    | none => simpa [move, free, SystemHost.prepare, spoken] using kept
    | some text =>
      have moved : dialogue.move (.request name handler) =
          { dialogue with
            host := { dialogue.host with
              contexts := (dialogue.host.fresh, some handler) :: dialogue.host.contexts
              fresh := dialogue.host.fresh + 1 }
            underWay := some (.request dialogue.host.fresh)
            names := dialogue.names ++ [text]
            given := dialogue.given ++ [(dialogue.host.fresh, handler)] } := by
        simp [move, free, SystemHost.prepare, spoken]
      have quiet := callable_of_free free
      obtain ⟨ungiven, uncalled, unfired⟩ := kept.unknown
      rw [quiet] at uncalled
      rw [moved]
      constructor
      · exact kept.tasks
      · exact kept.numbers
      · exact congrArg (dialogue.host.fresh :: ·) (kept.contexts.trans quiet)
      · exact List.nodup_cons.mpr ⟨uncalled, quiet ▸ kept.callable⟩
      · exact nofun
      · rw [List.map_append]
        exact List.nodup_append.mpr ⟨kept.given, List.nodup_singleton _, by grind⟩
      · simp only [List.map_append, List.mem_append]
        rintro context (known | new)
        · exact Nat.lt_succ_of_lt (kept.fresh context known)
        · cases List.mem_singleton.mp new
          exact Nat.lt_succ_self _
      · rintro context slot member
        rcases List.mem_cons.mp member with new | old
        · cases new
          exact ⟨handler, List.mem_append_right _ List.mem_cons_self, (if_neg unfired).symm⟩
        · obtain ⟨given, among, same⟩ := kept.slots context slot old
          exact ⟨given, List.mem_append_left _ among, same⟩
      · exact kept.once
      · exact fun _ fired => List.mem_append_left _ (kept.own fired)

/-- Contexts may be given up: what is still kept is as it was. -/
theorem Kept.slots_of_filter (kept : Kept dialogue) :
    ∀ other slot, (other, slot) ∈ (dialogue.host.discard context).contexts →
      ∃ handler, (other, handler) ∈ dialogue.given ∧
        slot = if other ∈ dialogue.fired.map Prod.fst then none else some handler :=
  fun other slot member => kept.slots other slot (List.mem_of_mem_filter member)

theorem map_discard (host : SystemHost η) (context : Nat) :
    (host.discard context).contexts.map Prod.fst =
      (host.contexts.map Prod.fst).filter (· != context) := by
  rw [List.filter_map]
  rfl

theorem Kept.refuse (kept : Kept dialogue) (asking : dialogue.underWay = some (.request context)) :
    Kept { dialogue with host := dialogue.host.discard context, underWay := none } := by
  have callable := callable_of_request asking
  have distinct := kept.callable
  rw [callable] at distinct
  obtain ⟨uncalled, others⟩ := List.nodup_cons.mp distinct
  constructor
  · exact kept.tasks
  · exact kept.numbers
  · -- Only the context of the request goes.
    rw [map_discard, kept.contexts, callable, List.filter_cons_of_neg (by simp)]
    exact List.filter_eq_self.mpr fun other member => by
      simpa using ne_of_mem_of_not_mem member uncalled
  · exact others
  · exact nofun
  · exact kept.given
  · exact kept.fresh
  · exact kept.slots_of_filter
  · exact kept.once
  · exact kept.own

theorem Kept.grant (kept : Kept dialogue) (asking : dialogue.underWay = some (.request context))
    (unknown : task ∉ dialogue.granted.map Prod.fst) :
    Kept { dialogue with
      host := { dialogue.host with tasks := (task, context) :: dialogue.host.tasks }
      underWay := none
      granted := (task, context) :: dialogue.granted } := by
  have callable := callable_of_request asking
  have distinct := kept.callable
  rw [callable] at distinct
  constructor
  · exact congrArg ((task, context) :: ·) kept.tasks
  · exact List.nodup_cons.mpr ⟨unknown, kept.numbers⟩
  · exact kept.contexts.trans callable
  · exact distinct
  · exact nofun
  · exact kept.given
  · exact kept.fresh
  · exact kept.slots
  · exact kept.once
  · exact kept.own

theorem Kept.finish (kept : Kept dialogue) (free : dialogue.underWay = none)
    (known : task ∈ dialogue.granted.map Prod.fst) :
    Kept { dialogue with underWay := some (.ending task) } := by
  have callable := callable_of_free free
  have distinct := kept.callable
  rw [callable] at distinct
  constructor
  · exact kept.tasks
  · exact kept.numbers
  · exact kept.contexts.trans callable
  · exact distinct
  · rintro other same
    cases same
    exact known
  · exact kept.given
  · exact kept.fresh
  · exact kept.slots
  · exact kept.once
  · exact kept.own

theorem Kept.finished (kept : Kept dialogue) (ends : dialogue.underWay = some (.ending task)) :
    Kept { dialogue with
      host := dialogue.host.forget task
      underWay := none
      granted := dialogue.granted.filter (·.1 != task) } := by
  obtain ⟨⟨known, context⟩, member, same⟩ := List.mem_map.mp (kept.ending task ends)
  obtain rfl : known = task := same
  have callable := callable_of_ending ends
  have distinct := kept.callable
  rw [callable] at distinct
  rw [SystemHost.forget_of_known (kept.tasks ▸ kept.numbers) (kept.tasks ▸ member)]
  -- A task and its context go together.
  have together : ∀ entry ∈ dialogue.granted,
      (entry.2 != context) = (entry.1 != known) := by
    intro entry among
    rw [Bool.eq_iff_iff, bne_iff_ne, bne_iff_ne, not_iff_not]
    constructor
    · intro same
      rw [List.inj_on_of_nodup_map distinct among member same]
    · intro same
      rw [List.inj_on_of_nodup_map kept.numbers among member same]
  have contexts : (dialogue.granted.map Prod.snd).filter (· != context) =
      (dialogue.granted.filter (·.1 != known)).map Prod.snd := by
    rw [List.filter_map]
    exact congrArg _ (List.filter_congr together)
  constructor
  · exact congrArg (List.filter _) kept.tasks
  · exact (List.filter_sublist.map _).nodup kept.numbers
  · rw [map_discard, kept.contexts, callable, contexts]
    rfl
  · exact (List.filter_sublist.map _).nodup distinct
  · exact nofun
  · exact kept.given
  · exact kept.fresh
  · exact kept.slots_of_filter
  · exact kept.once
  · exact kept.own

/-- What a callback finds: the context is kept, with its own handler unless that was run before. -/
theorem Kept.slot_of_callable (kept : Kept dialogue) (known : context ∈ dialogue.callable) :
    ∃ handler, (context, handler) ∈ dialogue.given ∧
      (context, if context ∈ dialogue.fired.map Prod.fst then none else some handler) ∈
        dialogue.host.contexts := by
  rw [← kept.contexts] at known
  obtain ⟨⟨_, slot⟩, member, rfl⟩ := List.mem_map.mp known
  obtain ⟨handler, given, same⟩ := kept.slots _ _ member
  exact ⟨handler, given, same ▸ member⟩

theorem Kept.distinct (kept : Kept dialogue) : (dialogue.host.contexts.map Prod.fst).Nodup :=
  kept.contexts ▸ kept.callable

/-- The first callback with a context runs its handler, and no other callback runs any. -/
theorem Kept.heard (kept : Kept dialogue) (known : context ∈ dialogue.callable) :
    ∃ handler, (context, handler) ∈ dialogue.given ∧
      (dialogue.host.callBack (some context)).1 =
        if context ∈ dialogue.fired.map Prod.fst then none else some handler := by
  obtain ⟨handler, given, member⟩ := kept.slot_of_callable known
  exact ⟨handler, given, (SystemHost.callBack_of_kept kept.distinct member).1⟩

/-- The handlers that were run after a callback: at most one more, and the context's own. -/
theorem Kept.ran (kept : Kept dialogue) {handler : η}
    (given : (context, handler) ∈ dialogue.given) :
    let ran := if context ∈ dialogue.fired.map Prod.fst then none else some handler
    let fired := dialogue.fired ++ ran.toList.map fun handler => (context, handler)
    (∀ other, other ∈ fired.map Prod.fst ↔
        other = context ∨ other ∈ dialogue.fired.map Prod.fst) ∧
      (fired.map Prod.fst).Nodup ∧ fired ⊆ dialogue.given := by
  by_cases before : context ∈ dialogue.fired.map Prod.fst
  · simp only [before, ↓reduceIte, Option.toList_none, List.map_nil, List.append_nil]
    refine ⟨fun other => ?_, kept.once, kept.own⟩
    exact ⟨.inr, fun known => known.elim (fun same => same ▸ before) id⟩
  · simp only [before, ↓reduceIte, Option.toList_some, List.map_cons, List.map_nil]
    refine ⟨fun other => ?_, ?_, ?_⟩
    · rw [List.map_append, List.mem_append, List.map_singleton, List.mem_singleton]
      exact or_comm
    · rw [List.map_append]
      exact List.nodup_append.mpr ⟨kept.once, List.nodup_singleton _, by grind⟩
    · exact List.append_subset.mpr ⟨kept.own, List.cons_subset.mpr ⟨given, List.nil_subset _⟩⟩

theorem Kept.callBack (kept : Kept dialogue) (context : Nat) :
    Kept (dialogue.move (.callBack context)) := by
  by_cases known : context ∈ dialogue.callable
  · obtain ⟨handler, given, member⟩ := kept.slot_of_callable known
    obtain ⟨contexts, tasks, fresh⟩ := SystemHost.callBack_frame dialogue.host context
    obtain ⟨heard, others⟩ := SystemHost.callBack_of_kept kept.distinct member
    obtain ⟨ran, once, own⟩ := kept.ran given
    simp only [move, known, heard, ↓reduceIte]
    constructor
    · exact tasks.trans kept.tasks
    · exact kept.numbers
    · exact contexts.trans kept.contexts
    · exact kept.callable
    · exact kept.ending
    · exact kept.given
    · exact fresh ▸ kept.fresh
    · intro other slot among
      simp only [ran]
      rcases (others _).mp among with same | ⟨old, unlike⟩
      · cases same
        exact ⟨handler, given, (if_pos (.inl rfl)).symm⟩
      · simpa only [show other ≠ context from unlike, false_or] using kept.slots other slot old
    · exact once
    · exact own
  · simpa only [move, known, ↓reduceIte] using kept

theorem Kept.move (kept : Kept dialogue) (next : Move η) : Kept (dialogue.move next) := by
  cases next with
  | request name handler => exact kept.request name handler
  | answer number =>
    match asking : dialogue.underWay with
    | none => simpa only [Dialogue.move, asking] using kept
    | some (.ending task) => simpa only [Dialogue.move, asking] using kept
    | some (.request context) =>
      by_cases refused : number = SystemHost.refusal
      · simpa only [Dialogue.move, asking, SystemHost.settle, refused, ↓reduceIte]
          using kept.refuse asking
      · by_cases known : (⟨number⟩ : TaskId) ∈ dialogue.granted.map Prod.fst
        · simpa only [Dialogue.move, asking, SystemHost.settle, refused, known, ↓reduceIte]
            using kept
        · have absent : (⟨number⟩ : TaskId) ∉ dialogue.host.tasks.map Prod.fst := by
            rwa [kept.tasks]
          simpa only [Dialogue.move, asking, SystemHost.settle, refused, known, ↓reduceIte,
            SystemHost.forget_of_absent absent] using kept.grant asking known
  | finish task =>
    by_cases ready : dialogue.underWay = none ∧ task ∈ dialogue.granted.map Prod.fst
    · simpa only [Dialogue.move, ready, and_self, ↓reduceIte] using kept.finish ready.1 ready.2
    · simpa only [Dialogue.move, ready, ↓reduceIte] using kept
  | finished =>
    match ends : dialogue.underWay with
    | none => simpa only [Dialogue.move, ends] using kept
    | some (.request context) => simpa only [Dialogue.move, ends] using kept
    | some (.ending task) => simpa only [Dialogue.move, ends] using kept.finished ends
  | callBack context => exact kept.callBack context

theorem Kept.moves (kept : Kept dialogue) (later : List (Move η)) : Kept (dialogue.moves later) :=
  List.foldlRecOn later Dialogue.move kept fun _ kept next _ => kept.move next

theorem Kept.of (history : List (Move η)) : Kept (of history) :=
  Kept.new.moves history

/-! ### Requests that come to nothing -/

/-- A name with a zero has no form in which the system could be given it. -/
theorem ofText?_of_zero {name : String} (zero : Char.ofNat 0 ∈ name.toList) :
    Text.Terminated.ofText? name = none := by
  refine dif_pos ?_
  rw [Text.Utf8.encode_eq]
  exact List.mem_flatMap.mpr ⟨_, zero, by decide⟩

theorem move_request_of_zero (dialogue : Dialogue η) {name : String} (handler : η)
    (zero : Char.ofNat 0 ∈ name.toList) : dialogue.move (.request name handler) = dialogue := by
  have unprepared : dialogue.host.prepare name handler = none := by
    rw [SystemHost.prepare, ofText?_of_zero zero]
    rfl
  cases free : dialogue.underWay with
  | none => simp only [move, free, unprepared]
  | some call => simp only [move, free]

theorem moves_callBacks (dialogue : Dialogue η) (calls : List Nat) :
    (dialogue.moves (calls.map .callBack)).underWay = dialogue.underWay ∧
      (dialogue.moves (calls.map .callBack)).granted = dialogue.granted := by
  induction calls generalizing dialogue with
  | nil => exact ⟨rfl, rfl⟩
  | cons context calls ih =>
    have frame : (dialogue.move (.callBack context)).underWay = dialogue.underWay ∧
        (dialogue.move (.callBack context)).granted = dialogue.granted := by
      simp only [move]
      split <;> exact ⟨rfl, rfl⟩
    obtain ⟨underWay, granted⟩ := ih (dialogue.move (.callBack context))
    exact ⟨underWay.trans frame.1, granted.trans frame.2⟩

/-- What a request comes to: it is under way, unless its name cannot be given to the system. -/
theorem move_request_of_free (free : dialogue.underWay = none) (name : String) (handler : η) :
    (dialogue.move (.request name handler)).granted = dialogue.granted ∧
      ∀ task, (dialogue.move (.request name handler)).underWay ≠ some (.ending task) := by
  cases prepared : dialogue.host.prepare name handler with
  | none =>
    simp [move, free, prepared]
  | some made =>
    simp [move, free, prepared]

theorem move_refusal (quiet : ∀ task, dialogue.underWay ≠ some (.ending task)) :
    (dialogue.move (.answer SystemHost.refusal)).granted = dialogue.granted ∧
      (dialogue.move (.answer SystemHost.refusal)).underWay = none := by
  match underWay : dialogue.underWay with
  | none => simp only [move, underWay, and_self]
  | some (.request context) =>
    simp only [move, underWay, SystemHost.settle, ↓reduceIte, and_self]
  | some (.ending task) => exact absurd underWay (quiet task)

/-- A request that is refused leaves the tasks as they were, whenever the system calls back. -/
theorem moves_refused (free : dialogue.underWay = none) (name : String) (handler : η)
    (calls : List Nat) :
    let after := dialogue.moves
      (.request name handler :: calls.map .callBack ++ [.answer SystemHost.refusal])
    after.granted = dialogue.granted ∧ after.underWay = none := by
  intro after
  obtain ⟨asked, quiet⟩ := move_request_of_free free name handler
  obtain ⟨underWay, granted⟩ := moves_callBacks (dialogue.move (.request name handler)) calls
  have answered : after = ((dialogue.move (.request name handler)).moves
      (calls.map .callBack)).move (.answer SystemHost.refusal) := List.foldl_append
  obtain ⟨same, ended⟩ := move_refusal (underWay ▸ quiet)
  rw [answered]
  exact ⟨same.trans (granted.trans asked), ended⟩

end

/-- However often and whenever the system calls back: the tasks that are kept are those that it has
granted and not ended. The contexts that are kept are those that it may call back with, and each is
kept by the request that it is answering or by a task. A callback runs the handler that the context
was made for, unless it was run before, so that each is run at most once. A request under a name
with a zero is not made, and one that is refused leaves what is kept as it was, whatever the system
did meanwhile. -/
theorem contexts_outlive_callbacks (history : List (Move η)) :
    let dialogue := of history
    (∀ task, task ∈ dialogue.host.tasks.map Prod.fst ↔ task ∈ dialogue.granted.map Prod.fst) ∧
      (dialogue.host.tasks.map Prod.fst).Nodup ∧
      dialogue.host.contexts.map Prod.fst = dialogue.callable ∧
      (∀ context ∈ dialogue.callable,
        (dialogue.underWay = some (.request context) ∨
          context ∈ dialogue.host.tasks.map Prod.snd) ∧
        ∃ handler, (context, handler) ∈ dialogue.given ∧
          (dialogue.host.callBack (some context)).1 =
            if context ∈ dialogue.fired.map Prod.fst then none else some handler) ∧
      (dialogue.given.map Prod.fst).Nodup ∧
      dialogue.fired ⊆ dialogue.given ∧
      (dialogue.fired.map Prod.fst).Nodup ∧
      (∀ name handler, Char.ofNat 0 ∈ name.toList →
        dialogue.move (.request name handler) = dialogue) ∧
      (dialogue.underWay = none → ∀ name handler (calls : List Nat),
        let after := dialogue.moves
          (.request name handler :: calls.map .callBack ++ [.answer SystemHost.refusal])
        after.host.tasks = dialogue.host.tasks ∧
          after.host.contexts.map Prod.fst = dialogue.host.contexts.map Prod.fst) := by
  intro dialogue
  have kept : Kept dialogue := .of history
  refine ⟨fun task => by rw [kept.tasks], kept.tasks ▸ kept.numbers, kept.contexts, ?_, kept.given,
    kept.own, kept.once, fun _ handler => move_request_of_zero dialogue handler, ?_⟩
  · intro context known
    refine ⟨?_, kept.heard known⟩
    rw [kept.tasks]
    exact mem_callable known
  · intro free name handler calls after
    have keptAfter : Kept after := kept.moves _
    obtain ⟨granted, ended⟩ := moves_refused free name handler calls
    have tasks : after.host.tasks = dialogue.host.tasks := by
      rw [keptAfter.tasks, kept.tasks]
      exact granted
    refine ⟨tasks, ?_⟩
    rw [keptAfter.contexts, kept.contexts, callable_of_free free, callable_of_free ended, granted]

example :
    (of [.request "upload" 7, .callBack 0, .answer 1, .callBack 0, .finish ⟨1⟩, .callBack 0,
      .finished, .callBack 0]).fired = [(0, 7)] := by decide +kernel

end Dialogue

end BackgroundWork.Background
