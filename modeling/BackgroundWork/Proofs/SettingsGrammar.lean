import BackgroundWork.Settings
import Mathlib.Algebra.Group.Nat.Defs
import Mathlib.Data.List.TakeWhile
import Mathlib.Tactic.Choose

set_option autoImplicit false

/-!
Which texts override a setting. A lookup says nothing of a key, or it gives it a positive number
that fits: decimal digits, perhaps with a plus sign before them and blanks around. Settings can be
looked up exactly if this holds of every key, and then each setting has its number or its default.
Else the first key for which it fails is refused.

Main statement: `Settings.lookup_follows_grammar`.
-/

namespace BackgroundWork

/-! ### Trimming -/

namespace Text

theorem trimStart_of_shown {text : List Char} (shown : ∀ c ∈ text.head?, isBlank c = false) :
    trimStart text = text := by
  cases text with
  | nil => rfl
  | cons c text => exact List.dropWhile_cons_of_neg (by simp [shown c rfl])

/-- Trimming takes blanks away on both sides. -/
theorem exists_blanks_around (text : List Char) :
    ∃ before after, (∀ c ∈ before, isBlank c = true) ∧ (∀ c ∈ after, isBlank c = true) ∧
      text = before ++ (trim text ++ after) := by
  refine ⟨text.takeWhile isBlank, ((trimStart text).reverse.takeWhile isBlank).reverse,
    fun c => List.mem_takeWhile_imp,
    fun c among => List.mem_takeWhile_imp (List.mem_reverse.1 among), ?_⟩
  have inner : trim text ++ ((trimStart text).reverse.takeWhile isBlank).reverse =
      trimStart text := by
    rw [trim, ← List.reverse_append]
    unfold trimStart
    rw [List.takeWhile_append_dropWhile, List.reverse_reverse]
  rw [inner, trimStart, List.takeWhile_append_dropWhile]

/-- Of a text without blanks, trimming takes nothing away. -/
theorem trim_surrounded {before core after : List Char}
    (blankBefore : ∀ c ∈ before, isBlank c = true) (blankAfter : ∀ c ∈ after, isBlank c = true)
    (filled : core ≠ []) (shown : ∀ c ∈ core, isBlank c = false) :
    trim (before ++ (core ++ after)) = core := by
  have first : ∀ c ∈ (core ++ after).head?, isBlank c = false := by
    intro c leads
    obtain ⟨d, inner, rfl⟩ := List.exists_cons_of_ne_nil filled
    exact shown c (List.mem_of_mem_head? leads)
  have last : ∀ c ∈ core.reverse.head?, isBlank c = false := by
    intro c leads
    exact shown c (List.mem_reverse.1 (List.mem_of_mem_head? leads))
  have start : trimStart (before ++ (core ++ after)) = core ++ after := by
    rw [trimStart, List.dropWhile_append_of_pos blankBefore]
    exact trimStart_of_shown first
  have back : trimStart (after.reverse ++ core.reverse) = core.reverse := by
    have blank : ∀ c ∈ after.reverse, isBlank c = true :=
      fun c among => blankAfter c (List.mem_reverse.1 among)
    rw [trimStart, List.dropWhile_append_of_pos blank]
    exact trimStart_of_shown last
  rw [trim, start, List.reverse_append, back, List.reverse_reverse]

end Text

namespace Settings

variable {lookup : String → Option String}

/-! ### Numbers -/

/-- A text of decimal digits, perhaps with a plus sign before them, with blanks around, and the
number that the digits stand for. -/
inductive Numeral : List Char → Nat → Prop
  | spelled {before sign digits after : List Char}
      (blankBefore : ∀ c ∈ before, Text.isBlank c = true) (signed : sign = [] ∨ sign = ['+'])
      (filled : digits ≠ []) (decimal : ∀ c ∈ digits, c.isDigit = true)
      (blankAfter : ∀ c ∈ after, Text.isBlank c = true) :
      Numeral (before ++ (sign ++ digits ++ after)) (Nat.ofDigitChars 10 digits 0)

theorem isDigit_eq (c : Char) : Json.isDigit c = c.isDigit := by
  simp [Json.isDigit, Char.isDigit, Char.le_def]

theorem isBlank_of_isDigit {c : Char} (digit : c.isDigit = true) : Text.isBlank c = false := by
  have least : 48 ≤ c.toNat ∧ c.toNat ≤ 57 := by
    simpa [Char.isDigit, UInt32.le_iff_toNat_le] using digit
  simp only [Text.isBlank, Bool.or_eq_false_iff, Bool.and_eq_false_iff, decide_eq_false_iff_not,
    beq_eq_false_iff_ne]
  omega

theorem foldl_digits (digits : List Char) (n : Nat) :
    digits.foldl (fun value c => value * 10 + Json.digitValue c) n =
      Nat.ofDigitChars 10 digits n := by
  induction digits generalizing n with
  | nil => rfl
  | cons c digits ih =>
    have next : n * 10 + Json.digitValue c = 10 * n + (c.toNat - '0'.toNat) := by
      rw [Nat.mul_comm, Json.digitValue]
    rw [List.foldl_cons, Nat.ofDigitChars_cons, next, ih]

theorem number?_eq_some_iff {core : List Char} {value : Nat} :
    number? core = some value ↔
      ∃ sign digits, (sign = [] ∨ sign = ['+']) ∧ digits ≠ [] ∧
        (∀ c ∈ digits, c.isDigit = true) ∧ core = sign ++ digits ∧
        Nat.ofDigitChars 10 digits 0 = value := by
  have digits_iff : ∀ digits : List Char,
      (if digits.isEmpty || !digits.all Json.isDigit then none
        else some (digits.foldl (fun value c => value * 10 + Json.digitValue c) 0)) = some value ↔
      digits ≠ [] ∧ (∀ c ∈ digits, c.isDigit = true) ∧ Nat.ofDigitChars 10 digits 0 = value := by
    intro digits
    rw [foldl_digits]
    by_cases filled : digits = []
    · simp [filled]
    · simp [filled, isDigit_eq]
  constructor
  · intro read
    unfold number? at read
    split at read
    next rest =>
      obtain ⟨filled, decimal, value⟩ := (digits_iff rest).1 read
      exact ⟨['+'], rest, .inr rfl, filled, decimal, rfl, value⟩
    next =>
      obtain ⟨filled, decimal, value⟩ := (digits_iff core).1 read
      exact ⟨[], core, .inl rfl, filled, decimal, rfl, value⟩
  · rintro ⟨sign, digits, signed, filled, decimal, rfl, value⟩
    have read := (digits_iff digits).2 ⟨filled, decimal, value⟩
    unfold number?
    obtain rfl | rfl := signed
    · split
      next rest same =>
        -- A plus sign is no digit, so these digits cannot start with one.
        rw [List.nil_append] at same
        rw [same] at decimal
        exact absurd (decimal '+' List.mem_cons_self) (by decide)
      next => exact read
    · exact read

/-- What is left of a text by trimming is a number exactly if the text is a numeral. -/
theorem number?_trim_eq_some_iff {text : List Char} {value : Nat} :
    number? (Text.trim text) = some value ↔ Numeral text value := by
  rw [number?_eq_some_iff]
  constructor
  · rintro ⟨sign, digits, signed, filled, decimal, core, rfl⟩
    obtain ⟨before, after, blankBefore, blankAfter, whole⟩ := Text.exists_blanks_around text
    rw [whole, core]
    exact .spelled blankBefore signed filled decimal blankAfter
  · rintro ⟨blankBefore, signed, filled, decimal, blankAfter⟩
    rename_i before sign digits after
    have shown : ∀ c ∈ sign ++ digits, Text.isBlank c = false := by
      intro c among
      obtain inSign | inDigits := List.mem_append.1 among
      · obtain rfl | rfl := signed
        · cases inSign
        · rw [List.mem_singleton.1 inSign]
          decide
      · exact isBlank_of_isDigit (decimal c inDigits)
    have core := Text.trim_surrounded blankBefore blankAfter (by simp [filled]) shown
    exact ⟨sign, digits, signed, filled, decimal, core, rfl⟩

/-! ### Keys -/

/-- What a lookup says of a key: nothing, or a positive number that fits it. -/
inductive Says (lookup : String → Option String) (key : Key) : Option Nat → Prop
  | nothing (absent : lookup key.name = none) : Says lookup key none
  | number {text : String} {value : Nat} (given : lookup key.name = some text)
      (numeral : Numeral text.toList value) (positive : 0 < value)
      (fits : value < 2 ^ key.bits) : Says lookup key (some value)

/-- The message by which the text of a key is refused: it gives no number that fits the key, or
the number zero. -/
inductive Refuses (lookup : String → Option String) (key : Key) : String → Prop
  | unfit {text : String} (given : lookup key.name = some text)
      (none : ∀ value, Numeral text.toList value → 2 ^ key.bits ≤ value) :
      Refuses lookup key s!"{key.name} must be a positive integer, got '{text}'"
  | zero {text : String} (given : lookup key.name = some text)
      (numeral : Numeral text.toList 0) :
      Refuses lookup key s!"{key.name} must be greater than zero"

/-- The settings with the number that is said of a key, if one is. -/
def Key.put (key : Key) (said : Option Nat) (settings : Settings) : Settings :=
  match said with
  | none => settings
  | some value => key.override value settings

theorem positive_eq_ok {key : Key} {text : String} {value : Nat}
    (numeral : Numeral text.toList value) (positive : 0 < value) (fits : value < 2 ^ key.bits) :
    Settings.positive key text = .ok value := by
  have read := number?_trim_eq_some_iff.2 numeral
  have small : ¬Nat.pow 2 key.bits ≤ value := Nat.not_le.2 fits
  simp only [Settings.positive, read, small, Nat.ne_of_gt positive, ↓reduceIte]

theorem overrideWith_stated {key : Key} {said : Option Nat} (states : Says lookup key said)
    (keys : List Key) (settings : Settings) :
    overrideWith lookup (key :: keys) settings =
      overrideWith lookup keys (key.put said settings) := by
  cases states with
  | nothing absent => simp only [overrideWith, absent, Key.put]
  | number given numeral positive fits =>
    simp only [overrideWith, given, positive_eq_ok numeral positive fits, Key.put]

theorem overrideWith_refuses {key : Key} {message : String} (refuses : Refuses lookup key message)
    (keys : List Key) (settings : Settings) :
    ∃ fault, overrideWith lookup (key :: keys) settings = .error fault ∧
      fault.message = message := by
  cases refuses with
  | @unfit text given none =>
    refine ⟨.notPositiveInteger key text, ?_, rfl⟩
    have refused : Settings.positive key text = .error (.notPositiveInteger key text) := by
      unfold Settings.positive
      cases read : number? (Text.trim text.toList) with
      | none => rfl
      | some value =>
        have large : Nat.pow 2 key.bits ≤ value := none value (number?_trim_eq_some_iff.1 read)
        simp only [large, ↓reduceIte]
    simp only [overrideWith, given, refused]
  | @zero text given numeral =>
    refine ⟨.zero key, ?_, rfl⟩
    have read := number?_trim_eq_some_iff.2 numeral
    have small : ¬Nat.pow 2 key.bits ≤ 0 := Nat.not_le.2 (Nat.pow_pos (by decide))
    have refused : Settings.positive key text = .error (.zero key) := by
      simp only [Settings.positive, read, small, ↓reduceIte]
    simp only [overrideWith, given, refused]

/-- Of each key something is said that can be followed, or it is refused. -/
theorem stated_or_refused (lookup : String → Option String) (key : Key) :
    (∃ said, Says lookup key said) ∨ ∃ message, Refuses lookup key message := by
  cases given : lookup key.name with
  | none => exact .inl ⟨none, .nothing given⟩
  | some text =>
    by_cases fit : ∃ value, Numeral text.toList value ∧ value < 2 ^ key.bits
    · obtain ⟨value, numeral, fits⟩ := fit
      obtain rfl | positive := Nat.eq_zero_or_pos value
      · exact .inr ⟨_, .zero given numeral⟩
      · exact .inl ⟨some value, .number given numeral positive fits⟩
    · refine .inr ⟨_, .unfit given fun value numeral => ?_⟩
      exact Nat.not_lt.1 fun fits => fit ⟨value, numeral, fits⟩

/-! ### All keys -/

/-- Something is said of each key, or there is a first one that is refused. -/
theorem all_say_or_first_refuses (lookup : String → Option String) (keys : List Key) :
    (∀ key ∈ keys, ∃ said, Says lookup key said) ∨
      ∃ before key after message, keys = before ++ key :: after ∧
        (∀ earlier ∈ before, ∃ said, Says lookup earlier said) ∧ Refuses lookup key message := by
  induction keys with
  | nil => exact .inl nofun
  | cons key keys ih =>
    obtain ⟨said, states⟩ | ⟨message, refuses⟩ := stated_or_refused lookup key
    · obtain all | ⟨before, other, after, message, rfl, earlier, refuses⟩ := ih
      · exact .inl (List.forall_mem_cons.2 ⟨⟨said, states⟩, all⟩)
      · exact .inr ⟨key :: before, other, after, message, rfl,
          List.forall_mem_cons.2 ⟨⟨said, states⟩, earlier⟩, refuses⟩
    · exact .inr ⟨[], key, keys, message, rfl, nofun, refuses⟩

theorem overrideWith_of_stated {said : Key → Option Nat} {keys : List Key}
    (each : ∀ key ∈ keys, Says lookup key (said key)) (settings : Settings) :
    overrideWith lookup keys settings =
      .ok (keys.foldl (fun settings key => key.put (said key) settings) settings) := by
  induction keys generalizing settings with
  | nil => rfl
  | cons key keys ih =>
    obtain ⟨first, later⟩ := List.forall_mem_cons.1 each
    rw [overrideWith_stated first, ih later, List.foldl_cons]

theorem overrideWith_of_refuses {before after : List Key} {key : Key} {message : String}
    (earlier : ∀ other ∈ before, ∃ said, Says lookup other said)
    (refuses : Refuses lookup key message) (settings : Settings) :
    ∃ fault, overrideWith lookup (before ++ key :: after) settings = .error fault ∧
      fault.message = message := by
  induction before generalizing settings with
  | nil => exact overrideWith_refuses refuses after settings
  | cons other before ih =>
    obtain ⟨⟨said, states⟩, later⟩ := List.forall_mem_cons.1 earlier
    rw [List.cons_append, overrideWith_stated states]
    exact ih later _

theorem mem_keys (key : Key) : key ∈ keys := by
  cases key <;> decide

/-- Settings that hold a number for each key of which one is said, and the default for the other
keys and for everything that has no key. -/
structure Holds (settings : Settings) (said : Key → Option Nat) : Prop where
  telemetryInterval :
    settings.coordinator.telemetryIntervalMs = 1000 * (said .telemetryInterval).getD 30
  backgroundGrant :
    settings.coordinator.backgroundGrantSeconds.toNat = (said .backgroundGrant).getD 30
  maxCompressRequestBytes :
    settings.coordinator.maxCompressRequestBytes = (said .maxCompressRequestBytes).getD 50000
  pollAttempts : settings.poll.maxAttempts.toNat = (said .pollAttempts).getD 30
  pollInterval : settings.poll.intervalMs = (said .pollInterval).getD 1000
  commandQueueDepth : settings.coordinator.commandQueueDepth = 100
  publisherQueueDepth : settings.coordinator.publisherQueueDepth = 32
  backgroundTaskName : settings.coordinator.backgroundTaskName = "compression_background_task"

theorem Holds.unique {settings other : Settings} {said : Key → Option Nat}
    (holds : settings.Holds said) (alike : other.Holds said) : settings = other := by
  obtain ⟨interval, grant, bytes, attempts, poll, commands, pushes, task⟩ := holds
  obtain ⟨interval', grant', bytes', attempts', poll', commands', pushes', task'⟩ := alike
  obtain ⟨⟨_, _⟩, ⟨_, _, _, _, _, _⟩⟩ := settings
  obtain ⟨⟨_, _⟩, ⟨_, _, _, _, _, _⟩⟩ := other
  simp only [Settings.mk.injEq, PollSettings.mk.injEq, CoordinatorSettings.mk.injEq]
  exact ⟨⟨UInt32.toNat_inj.1 (attempts.trans attempts'.symm), poll.trans poll'.symm⟩,
    interval.trans interval'.symm, UInt32.toNat_inj.1 (grant.trans grant'.symm),
    bytes.trans bytes'.symm, commands.trans commands'.symm, pushes.trans pushes'.symm,
    task.trans task'.symm⟩

/-- The numbers that are said, put in one after the other. -/
theorem foldl_put_holds {said : Key → Option Nat} (each : ∀ key, Says lookup key (said key)) :
    (keys.foldl (fun settings key => key.put (said key) settings) default).Holds said := by
  have fits : ∀ key value, said key = some value → value < 2 ^ key.bits := by
    intro key value given
    have states := each key
    rw [given] at states
    cases states with
    | number _ _ _ fits => exact fits
  have interval (value : Option Nat) (settings : Settings) :
      Key.telemetryInterval.put value settings =
        { settings with
          coordinator.telemetryIntervalMs :=
            (value.map (· * 1000)).getD settings.coordinator.telemetryIntervalMs } := by
    cases value <;> rfl
  have grant (value : Option Nat) (settings : Settings) :
      Key.backgroundGrant.put value settings =
        { settings with
          coordinator.backgroundGrantSeconds :=
            (value.map UInt32.ofNat).getD settings.coordinator.backgroundGrantSeconds } := by
    cases value <;> rfl
  have bytes (value : Option Nat) (settings : Settings) :
      Key.maxCompressRequestBytes.put value settings =
        { settings with
          coordinator.maxCompressRequestBytes :=
            value.getD settings.coordinator.maxCompressRequestBytes } := by
    cases value <;> rfl
  have attempts (value : Option Nat) (settings : Settings) :
      Key.pollAttempts.put value settings =
        { settings with
          poll.maxAttempts := (value.map UInt32.ofNat).getD settings.poll.maxAttempts } := by
    cases value <;> rfl
  have poll (value : Option Nat) (settings : Settings) :
      Key.pollInterval.put value settings =
        { settings with poll.intervalMs := value.getD settings.poll.intervalMs } := by
    cases value <;> rfl
  simp only [keys, List.foldl_cons, List.foldl_nil, interval, grant, bytes, attempts, poll]
  refine ⟨?_, ?_, rfl, ?_, rfl, rfl, rfl, rfl⟩
  · cases said .telemetryInterval with
    | none => rfl
    | some value => exact Nat.mul_comm value 1000
  · cases given : said .backgroundGrant with
    | none => rfl
    | some value => exact UInt32.toNat_ofNat_of_lt' (fits .backgroundGrant value given)
  · cases given : said .pollAttempts with
    | none => rfl
    | some value => exact UInt32.toNat_ofNat_of_lt' (fits .pollAttempts value given)

theorem ofLookup_of_stated {said : Key → Option Nat} (each : ∀ key, Says lookup key (said key)) :
    ∃ settings, ofLookup lookup = .ok settings ∧ settings.Holds said := by
  refine ⟨_, ?_, foldl_put_holds each⟩
  rw [ofLookup, overrideWith_of_stated (fun key _ => each key)]
  rfl

theorem ofLookup_of_refuses {before after : List Key} {key : Key} {message : String}
    (split : keys = before ++ key :: after)
    (earlier : ∀ other ∈ before, ∃ said, Says lookup other said)
    (refuses : Refuses lookup key message) : ofLookup lookup = .error (.configuration message) := by
  have stopped : ∃ fault, overrideWith lookup (before ++ key :: after) default = .error fault ∧
      fault.message = message := overrideWith_of_refuses earlier refuses default
  obtain ⟨fault, refused, rfl⟩ := stopped
  rw [ofLookup, split, refused]
  rfl

theorem ofLookup_eq_ok_iff {settings : Settings} :
    ofLookup lookup = .ok settings ↔
      ∃ said : Key → Option Nat, (∀ key, Says lookup key (said key)) ∧ settings.Holds said := by
  constructor
  · intro found
    obtain all | ⟨before, key, after, message, split, earlier, refuses⟩ :=
      all_say_or_first_refuses lookup keys
    · choose said each using fun key => all key (mem_keys key)
      obtain ⟨other, same, holds⟩ := ofLookup_of_stated each
      rw [found] at same
      cases same
      exact ⟨said, each, holds⟩
    · rw [ofLookup_of_refuses split earlier refuses] at found
      cases found
  · rintro ⟨said, each, holds⟩
    obtain ⟨other, found, alike⟩ := ofLookup_of_stated each
    rw [found, holds.unique alike]

theorem ofLookup_eq_error_iff {error : ServiceError} :
    ofLookup lookup = .error error ↔
      ∃ before key after message, keys = before ++ key :: after ∧
        (∀ earlier ∈ before, ∃ said, Says lookup earlier said) ∧
        Refuses lookup key message ∧ error = .configuration message := by
  constructor
  · intro refused
    obtain all | ⟨before, key, after, message, split, earlier, refuses⟩ :=
      all_say_or_first_refuses lookup keys
    · choose said each using fun key => all key (mem_keys key)
      obtain ⟨settings, found, _⟩ := ofLookup_of_stated each
      rw [found] at refused
      cases refused
    · have same := ofLookup_of_refuses split earlier refuses
      rw [refused] at same
      cases same
      exact ⟨before, key, after, message, split, earlier, refuses, rfl⟩
  · rintro ⟨before, key, after, message, split, earlier, refuses, rfl⟩
    exact ofLookup_of_refuses split earlier refuses

/-- Settings can be looked up exactly if for every key nothing is given or a text of decimal
digits, perhaps with a plus sign and with blanks around, whose number is positive and fits the key.
They then hold these numbers, and the defaults of the other keys. Else the first key of the list
whose text is anything else is refused: because it is zero, or because it is no number that fits,
and then the text is quoted as it stands. -/
theorem lookup_follows_grammar (lookup : String → Option String) :
    ((∃ settings, ofLookup lookup = .ok settings) ↔ ∀ key, ∃ said, Says lookup key said) ∧
    (∀ settings, ofLookup lookup = .ok settings ↔
      ∃ said : Key → Option Nat, (∀ key, Says lookup key (said key)) ∧ settings.Holds said) ∧
    (∀ error, ofLookup lookup = .error error ↔
      ∃ before key after message,
        [.telemetryInterval, .backgroundGrant, .maxCompressRequestBytes, .pollAttempts,
          .pollInterval] = before ++ key :: after ∧
        (∀ earlier ∈ before, ∃ said, Says lookup earlier said) ∧
        Refuses lookup key message ∧ error = .configuration message) := by
  refine ⟨⟨?_, ?_⟩, fun settings => ofLookup_eq_ok_iff, fun error => ofLookup_eq_error_iff⟩
  · rintro ⟨settings, found⟩ key
    obtain ⟨said, each, _⟩ := ofLookup_eq_ok_iff.1 found
    exact ⟨said key, each key⟩
  · intro each
    choose said each using each
    obtain ⟨settings, found, _⟩ := ofLookup_of_stated each
    exact ⟨settings, found⟩

/-- The first of two bad texts is refused, with its blanks. -/
example : ofLookup (fun key =>
      if key = "ORCHESTRATOR_BACKGROUND_GRANT_SECS" then some " +4294967296"
      else if key = "ORCHESTRATOR_EXPORT_POLL_ATTEMPTS" then some "0" else none) =
    .error (.configuration
      "ORCHESTRATOR_BACKGROUND_GRANT_SECS must be a positive integer, got ' +4294967296'") := by
  decide +kernel

end Settings
end BackgroundWork
