import BackgroundWork.Compression.Subject
import BackgroundWork.Proofs.CacheReports
import BackgroundWork.Proofs.DocumentCalls

set_option autoImplicit false

/-!
Where reports come from. Any number of pulls are under way at once: those for a worker that has
become active, those that clients ask for, and the statistics after a compression. Each asks the
engine and hands over what it brings in, one operation at a time and in any order with the others,
with the worker's turns and with all else that happens to it. Main statement: each part of the
cache is as the last report that carries it says, in the order in which they came; what a pull
brings in is one report if it succeeds, and none if it fails.
-/

namespace BackgroundWork.Compression

open Documents (Action Surroundings atEngine entries post reports)
open Engine (Client.fetch)
open Program (Goes Passes goes_ask goes_bind goes_done)

theorem Documents.reports_snoc (events : List Surroundings.Event) (last : Surroundings.Event) :
    reports (events ++ [last]) = reports events ++ (reported? last.op).toList :=
  Journal.filterMap_snoc (fun event : Surroundings.Event => reported? event.op) events last

/-! ### Pulls -/

theorem refreshStats_eq : Documents.refreshStats = Subject.stats.pull := by
  refine congrArg (Program.bind (atEngine Subject.stats.fetch)) (funext fun answer => ?_)
  cases answer <;> rfl

theorem refreshStatus_eq : Documents.refreshStatus = Subject.status.refresh := rfl

theorem refreshQueue_eq : Documents.refreshQueue = Subject.queue.refresh := rfl

/-- What a pull has asked for and handed over when it has come to its end. -/
inductive Subject.Brings (subject : Subject) :
    List Surroundings.Event → List CacheUpdate → Prop
  | came {asking : List Engine.Bridge.interface.Event} {data : subject.Data}
      (answered : Goes subject.fetch asking (.ok data)) :
      Brings subject
        (asking.map Interface.Event.inRight ++ [⟨.inl (.post (subject.report data)), ()⟩])
        [subject.report data]
  | failed {asking : List Engine.Bridge.interface.Event} {error : ServiceError}
      (failed : Goes subject.fetch asking (.error error)) :
      Brings subject (asking.map Interface.Event.inRight) []

namespace Subject

variable {subject : Subject} {events : List Surroundings.Event}

theorem Brings.reports {updates : List CacheUpdate} (brings : subject.Brings events updates) :
    reports events = updates := by
  cases brings with
  | came =>
    rw [Documents.reports_append, Documents.reports_inRight]
    rfl
  | failed => exact Documents.reports_inRight _

/-- Whatever asks the engine first, and hands over the data if it comes, brings in a report. -/
theorem brings_of_goes {α : Type} {result : α}
    {next : Except ServiceError subject.Data → Program Surroundings α}
    (goes : Goes ((atEngine subject.fetch).bind next) events result)
    (ends : ∀ error later, Goes (next (.error error)) later result → later = [])
    (hands : ∀ data later, Goes (next (.ok data)) later result →
      later = [⟨.inl (.post (subject.report data)), ()⟩]) :
    ∃ updates, subject.Brings events updates := by
  obtain ⟨first, answer, later, rfl, asked, rest⟩ := goes_bind.1 goes
  obtain ⟨asking, fetched, rfl⟩ := Goes.of_inRight asked
  cases answer with
  | error error =>
    rw [ends error later rest, List.append_nil]
    exact ⟨_, .failed fetched⟩
  | ok data =>
    rw [hands data later rest]
    exact ⟨_, .came fetched⟩

theorem brings_of_pull {result : Except ServiceError Unit}
    (goes : Goes subject.pull events result) : ∃ updates, subject.Brings events updates :=
  brings_of_goes goes (fun _ _ rest => (goes_done.1 rest).1)
    fun _ _ rest => (Documents.goes_post rest).1

theorem brings_of_refresh {result : Except ServiceError subject.Data}
    (goes : Goes subject.refresh events result) : ∃ updates, subject.Brings events updates := by
  refine brings_of_goes goes (fun _ _ rest => (goes_done.1 rest).1) fun data later rest => ?_
  obtain ⟨posting, answer, last, rfl, posted, ended⟩ := goes_bind.1 rest
  obtain ⟨rfl, rfl⟩ := Documents.goes_post posted
  rw [(goes_done.1 ended).1, List.append_nil]

end Subject

/-! ### Sources -/

/-- A request whose data is of no interest. -/
def Documents.Action.forget {α : Type} (action : Action α) : Action Unit :=
  action.bind fun result => .done (result.map fun _ => ())

/-- Where a report can come from: a worker that has become active, a client who asks for one, and a
compression. -/
inductive Source where
  | active (pull : Pull)
  | status
  | queue
  | compress (maxBytes : Nat) (documentId : String) (config : Option Config)

namespace Source

/-- What a source brings in. -/
def subject : Source → Subject
  | active pull => pull.subject
  | status => .status
  | queue => .queue
  | compress .. => .stats

/-- What is done for a source. -/
def program : Source → Action Unit
  | active pull => pull.subject.pull
  | status => Documents.refreshStatus.forget
  | queue => Documents.refreshQueue.forget
  | compress maxBytes documentId config => (Documents.compress maxBytes documentId config).forget

/-- What a source has asked for and handed over when it has come to its end. A compression that
fails does not ask for the statistics. -/
inductive Brought : Source → List Surroundings.Event → List CacheUpdate → Prop
  | brings {source : Source} (before : List Surroundings.Event)
      {asking : List Surroundings.Event} {updates : List CacheUpdate}
      (silent : reports before = [])
      (brings : source.subject.Brings asking updates) :
      Brought source (before ++ asking) updates
  | unasked {maxBytes : Nat} {documentId : String} {config : Option Config}
      {events : List Surroundings.Event} (silent : reports events = [])
      (unasked : ∀ entry ∈ entries events, entry.call ≠ .getStats) :
      Brought (.compress maxBytes documentId config) events []

end Source

variable {events : List Surroundings.Event}

theorem goes_of_forget {α : Type} {action : Action α} {result : Except ServiceError Unit}
    (goes : Goes action.forget events result) : ∃ value, Goes action events value := by
  obtain ⟨first, value, later, rfl, begun, rest⟩ := goes_bind.1 goes
  rw [(goes_done.1 rest).1, List.append_nil]
  exact ⟨value, begun⟩

theorem entries_of_sendFor {α : Type} {codec : Json.Codec α} {call : Engine.Call}
    {payload : String} {token : Option String} {result : Except ServiceError α}
    {asking : List Engine.Bridge.interface.Event}
    (goes : Goes (Engine.Client.sendFor codec call payload token) asking result) :
    entries (asking.map Interface.Event.inRight) = [⟨call, payload, token⟩] := by
  rw [Documents.entries_inRight]
  exact (Engine.Client.goes_classified goes).entries

theorem brought_of_compress {maxBytes : Nat} {documentId : String} {config : Option Config}
    {result : Except ServiceError Summary}
    (goes : Goes (Documents.compress maxBytes documentId config) events result) :
    ∃ updates, Source.Brought (.compress maxBytes documentId config) events updates := by
  have silent : ∀ (phase : Background.BudgetPhase) (sending : List Engine.Bridge.interface.Event),
      reports (⟨.inl .phase, phase⟩ :: sending.map Interface.Event.inRight) = [] :=
    fun _ sending => Documents.reports_inRight sending
  cases Documents.compressing_of_goes goes with
  | refused => exact ⟨[], .unasked rfl nofun⟩
  | withheld => exact ⟨[], .unasked rfl nofun⟩
  | failed sends =>
    refine ⟨[], .unasked (silent _ _) fun entry member => ?_⟩
    cases List.mem_singleton.mp (entries_of_sendFor sends ▸ member :)
    nofun
  | compressed sends refreshes =>
    rw [refreshStats_eq] at refreshes
    obtain ⟨updates, brings⟩ := Subject.brings_of_pull refreshes
    exact ⟨updates, .brings _ (silent _ _) brings⟩

namespace Source

theorem Brought.reports {source : Source} {updates : List CacheUpdate}
    (brought : source.Brought events updates) : reports events = updates := by
  cases brought with
  | brings before silent brings =>
    rw [Documents.reports_append, silent, brings.reports, List.nil_append]
  | unasked silent => exact silent

/-- A source that has come to its end has handed over what it brought in. -/
theorem brought_of_goes {source : Source} {result : Except ServiceError Unit}
    (goes : Goes source.program events result) : source.Brought events (reports events) := by
  have ended : ∃ updates, source.Brought events updates := by
    cases source with
    | active pull =>
      obtain ⟨updates, brings⟩ := Subject.brings_of_pull goes
      exact ⟨updates, .brings [] rfl brings⟩
    | status =>
      obtain ⟨_, goes⟩ := goes_of_forget goes
      rw [refreshStatus_eq] at goes
      obtain ⟨updates, brings⟩ := Subject.brings_of_refresh goes
      exact ⟨updates, .brings [] rfl brings⟩
    | queue =>
      obtain ⟨_, goes⟩ := goes_of_forget goes
      rw [refreshQueue_eq] at goes
      obtain ⟨updates, brings⟩ := Subject.brings_of_refresh goes
      exact ⟨updates, .brings [] rfl brings⟩
    | compress maxBytes documentId config =>
      obtain ⟨_, goes⟩ := goes_of_forget goes
      exact brought_of_compress goes
  obtain ⟨updates, brought⟩ := ended
  rwa [brought.reports]

end Source

/-! ### All at once -/

/-- What is under way for a source. -/
structure Inquiry where
  source : Source
  /-- What was asked for so far, with the answers. -/
  events : List Surroundings.Event
  /-- What is still to be done. -/
  rest : Action Unit

/-- A coordinator among its sources. -/
structure Intake where
  /-- What has happened to the coordinator, in order. -/
  moves : List Move
  inquiries : List Inquiry
  /-- The reports that came, in order, each with the number of the inquiry that brought it. -/
  arrivals : List (Nat × CacheUpdate)

namespace Intake

/-- What can happen. -/
inductive Step where
  /-- Reports are to be brought in. -/
  | begin (source : Source)
  /-- An inquiry goes on, with what the engine has to say if it is asked. -/
  | proceed (number : Nat)
    (answer : (op : Engine.Bridge.interface.Op) → Engine.Bridge.interface.Answer op)
  /-- Something else happens to the coordinator. -/
  | aside (next : Aside)

/-- What an operation is answered. -/
def answer (settings : CoordinatorSettings) (intake : Intake)
    (engine : (op : Engine.Bridge.interface.Op) → Engine.Bridge.interface.Answer op) :
    (op : Surroundings.Op) → Surroundings.Answer op
  | .inl .phase => (Run.of settings intake.moves).coordinator.worker.phase
  | .inl (.post _) => ()
  | .inr op => engine op

/-- An inquiry goes on with the answer to an operation. A report that it hands over comes at
once. -/
def proceed (intake : Intake) (number : Nat) (inquiry : Inquiry) (op : Surroundings.Op)
    (answer : Surroundings.Answer op) (rest : Action Unit) : Intake where
  moves := intake.moves ++ (Documents.reported? op).toList.map .report
  inquiries := intake.inquiries.set number
    { inquiry with
      events := inquiry.events ++ [⟨op, answer⟩]
      rest }
  arrivals := intake.arrivals ++ (Documents.reported? op).toList.map (number, ·)

/-- One step. -/
def step (settings : CoordinatorSettings) (intake : Intake) : Step → Intake
  | .begin source =>
    { intake with inquiries := intake.inquiries ++ [⟨source, [], source.program⟩] }
  | .proceed number engine =>
    match intake.inquiries[number]? with
    | some ⟨source, events, .ask op next⟩ =>
      let answer := intake.answer settings engine op
      intake.proceed number ⟨source, events, .ask op next⟩ op answer (next answer)
    | _ => intake
  | .aside next => { intake with moves := intake.moves ++ [next.val] }

/-- Nothing has happened. -/
def new : Intake := ⟨[], [], []⟩

/-- What steps lead to. -/
def of (settings : CoordinatorSettings) (steps : List Step) : Intake :=
  steps.foldl (step settings) new

/-- The reports that an inquiry has brought in, in order. -/
def broughtBy (intake : Intake) (number : Nat) : List CacheUpdate :=
  intake.arrivals.filterMap fun arrival =>
    if arrival.1 = number then some arrival.2 else none

theorem broughtBy_proceed (intake : Intake) (number other : Nat) (inquiry : Inquiry)
    (op : Surroundings.Op) (answer : Surroundings.Answer op) (rest : Action Unit) :
    (intake.proceed number inquiry op answer rest).broughtBy other =
      intake.broughtBy other ++
        if number = other then (Documents.reported? op).toList else [] := by
  rw [proceed, broughtBy, List.filterMap_append]
  congr 1
  cases Documents.reported? op <;> split <;> simp [*]

/-- Every inquiry goes as its program says, and the reports that came are those that inquiries
have handed over. -/
structure Kept (intake : Intake) : Prop where
  passes : ∀ inquiry ∈ intake.inquiries,
    Passes inquiry.source.program inquiry.events inquiry.rest
  brought : ∀ number inquiry, intake.inquiries[number]? = some inquiry →
    intake.broughtBy number = reports inquiry.events
  known : ∀ arrival ∈ intake.arrivals, arrival.1 < intake.inquiries.length
  came : intake.moves.filterMap Move.report? = intake.arrivals.map Prod.snd

namespace Kept

variable {settings : CoordinatorSettings} {intake : Intake}

theorem new : Kept new where
  passes inquiry member := by cases member
  brought number inquiry found := by cases found
  known arrival member := by cases member
  came := rfl

theorem broughtBy_of_absent (kept : Kept intake) {number : Nat}
    (absent : intake.inquiries.length ≤ number) : intake.broughtBy number = [] := by
  refine List.filterMap_eq_nil_iff.mpr fun arrival member => if_neg ?_
  have known := kept.known arrival member
  omega

theorem begin (kept : Kept intake) (source : Source) :
    Kept { intake with inquiries := intake.inquiries ++ [⟨source, [], source.program⟩] } where
  passes inquiry member := by
    rcases List.mem_append.mp member with earlier | last
    · exact kept.passes inquiry earlier
    · cases List.mem_singleton.mp last
      exact .here _
  brought number inquiry found := by
    rw [List.getElem?_append] at found
    split at found
    · exact kept.brought number inquiry found
    · rename_i absent
      cases List.mem_singleton.mp (List.mem_of_getElem? found)
      exact kept.broughtBy_of_absent (Nat.le_of_not_lt absent)
  known arrival member := by
    have known := kept.known arrival member
    simp only [List.length_append]
    omega
  came := kept.came

theorem aside (kept : Kept intake) (next : Aside) :
    Kept { intake with moves := intake.moves ++ [next.val] } where
  passes := kept.passes
  brought := kept.brought
  known := kept.known
  came := by
    rw [Journal.filterMap_snoc, next.2, kept.came]
    exact List.append_nil _

theorem proceed (kept : Kept intake) {number : Nat} {source : Source}
    {events : List Surroundings.Event} {op : Surroundings.Op}
    {next : Surroundings.Answer op → Action Unit}
    (found : intake.inquiries[number]? = some ⟨source, events, .ask op next⟩)
    (answer : Surroundings.Answer op) :
    Kept (intake.proceed number ⟨source, events, .ask op next⟩ op answer (next answer)) where
  passes inquiry member := by
    rcases List.mem_or_eq_of_mem_set member with earlier | rfl
    · exact kept.passes inquiry earlier
    · exact (kept.passes _ (List.mem_of_getElem? found)).snoc rfl answer
  brought other inquiry now := by
    rw [broughtBy_proceed]
    rw [Intake.proceed, List.getElem?_set] at now
    by_cases same : number = other
    · subst same
      rw [if_pos rfl] at now ⊢
      rw [kept.brought _ _ found]
      rw [if_pos (List.getElem?_eq_some_iff.mp found).1] at now
      cases now
      exact (Documents.reports_snoc events ⟨op, answer⟩).symm
    · rw [if_neg same] at now ⊢
      rw [kept.brought other inquiry now, List.append_nil]
  known arrival member := by
    rw [Intake.proceed, List.length_set]
    rcases List.mem_append.mp member with earlier | last
    · exact kept.known arrival earlier
    · obtain ⟨update, _, rfl⟩ := List.mem_map.mp last
      exact (List.getElem?_eq_some_iff.mp found).1
  came := by
    rw [Intake.proceed, List.filterMap_append, List.map_append, kept.came]
    cases Documents.reported? op <;> rfl

theorem step (kept : Kept intake) (next : Step) : Kept (intake.step settings next) := by
  cases next with
  | begin source => exact kept.begin source
  | aside next => exact kept.aside next
  | proceed number engine =>
    cases found : intake.inquiries[number]? with
    | none => simpa only [Intake.step, found] using kept
    | some inquiry =>
      obtain ⟨source, events, rest⟩ := inquiry
      cases rest with
      | done result => simpa only [Intake.step, found] using kept
      | ask op next => simpa only [Intake.step, found] using kept.proceed found _

theorem of (settings : CoordinatorSettings) (steps : List Step) :
    Kept (Intake.of settings steps) :=
  List.foldlRecOn steps (Intake.step settings) .new fun _ kept next _ => kept.step next

end Kept

/-- Whatever pulls are under way at once, however the engine answers each, and whatever else
happens to the coordinator: while the worker runs, the reports that came are those that it took,
in order, followed by those that wait for it, and each part of its cache is as the last of those
that it took says. What came from a pull that has come to its end is one report with the data that
the engine answered, or none if the engine's answer was a failure or it was not asked at all, after
a compression that failed. -/
theorem cache_follows_arrivals (settings : CoordinatorSettings) (steps : List Step) :
    let intake := Intake.of settings steps
    let coordinator := (Run.of settings intake.moves).coordinator
    (coordinator.life = .running →
        (∃ known, intake.arrivals.map Prod.snd = known ++ coordinator.reports ∧
          coordinator.worker.cache.Latest known) ∧
        coordinator.informed.Latest (intake.arrivals.map Prod.snd)) ∧
      ∀ number inquiry, intake.inquiries[number]? = some inquiry →
        intake.broughtBy number = reports inquiry.events ∧
        ∀ result, inquiry.rest = .done result →
          inquiry.source.Brought inquiry.events (intake.broughtBy number) := by
  intro intake coordinator
  have kept : Kept intake := .of settings steps
  constructor
  · intro running
    rw [← kept.came]
    exact ⟨Run.reports_known running, Run.informed_latest running⟩
  · intro number inquiry found
    have brought := kept.brought number inquiry found
    refine ⟨brought, fun result ended => ?_⟩
    rw [brought]
    exact Source.brought_of_goes ((kept.passes inquiry (List.mem_of_getElem? found)).goes ended)

end Intake

end BackgroundWork.Compression
