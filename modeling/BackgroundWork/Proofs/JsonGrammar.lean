import BackgroundWork.Json.Value
import BackgroundWork.Proofs.NumberReading

set_option autoImplicit false

/-!
The grammar of JSON, and that a value which nobody asked for is passed over whole. The members of
an object are given with the blanks around their parts, so that one object has many texts. Passing
over a value looks at its extent only: a string may hold half of a surrogate pair, a number may be
of any size, and lists and objects may be nested to any depth.

Main statement: `Form.passes`.
-/

namespace BackgroundWork.Json

/-! ### The grammar -/

/-- What may stand between the quotes of a string. -/
inductive StringForm : List Char → Prop
  | nil : StringForm []
  | plain {c : Char} {rest : List Char} (shown : 0x20 ≤ c.toNat) (quote : c ≠ '"')
      (backslash : c ≠ '\\') (more : StringForm rest) : StringForm (c :: rest)
  | short {letter c : Char} {rest : List Char} (meant : (letter, c) ∈ shortEscapes)
      (more : StringForm rest) : StringForm ('\\' :: letter :: rest)
  | numbered {digits rest : List Char} {code : Nat} (number : HexCode digits code)
      (more : StringForm rest) : StringForm ('\\' :: 'u' :: (digits ++ rest))

/-- A point with digits behind it, or nothing. -/
inductive FractionForm : List Char → Prop
  | none : FractionForm []
  | point {digits : List Char} (run : Digits digits) : FractionForm ('.' :: digits)

/-- A letter with a sign or none and digits behind it, or nothing. -/
inductive ExponentForm : List Char → Prop
  | none : ExponentForm []
  | letter {c : Char} {sign digits : List Char} {down : Bool} (letter : c = 'e' ∨ c = 'E')
      (isSign : ExponentSign sign down) (run : Digits digits) :
      ExponentForm (c :: (sign ++ digits))

/-- A number without its minus sign. -/
inductive NumberForm : List Char → Prop
  | parts {whole fraction exponent : List Char} (isWhole : WholeDigits whole)
      (isFraction : FractionForm fraction) (isExponent : ExponentForm exponent) :
      NumberForm (whole ++ (fraction ++ exponent))

/-- An element of a list with the blanks around it. -/
structure Element where
  before : List Char
  value : List Char
  after : List Char

namespace Element

/-- An element as it stands in a list. -/
def text (element : Element) : List Char :=
  element.before ++ (element.value ++ element.after)

/-- Only blanks stand around the value. -/
structure IsSpaced (element : Element) : Prop where
  before : AllSpace element.before
  after : AllSpace element.after

end Element

/-- A member of an object with the blanks around its parts. -/
structure Entry where
  before : List Char
  /-- What stands between the quotes of the key. -/
  letters : List Char
  /-- What stands before the colon. -/
  behind : List Char
  /-- What stands behind the colon. -/
  between : List Char
  value : List Char
  after : List Char

namespace Entry

/-- A member from behind its key. -/
def tail (entry : Entry) : List Char :=
  entry.behind ++ ':' :: (entry.between ++ (entry.value ++ entry.after))

/-- A member as it stands in an object. -/
def text (entry : Entry) : List Char :=
  entry.before ++ '"' :: (entry.letters ++ '"' :: entry.tail)

/-- Only blanks stand around the key and the value. -/
structure IsSpaced (entry : Entry) : Prop where
  before : AllSpace entry.before
  behind : AllSpace entry.behind
  between : AllSpace entry.between
  after : AllSpace entry.after

end Entry

/-- A list with the given elements, and blanks before the closing bracket. -/
def listOf (elements : List Element) (gap : List Char) : List Char :=
  '[' :: (commaSeparated (elements.map Element.text) ++ (gap ++ [']']))

/-- An object with the given members, and blanks before the closing brace. -/
def objectOf (entries : List Entry) (gap : List Char) : List Char :=
  '\x7b' :: (commaSeparated (entries.map Entry.text) ++ (gap ++ ['\x7d']))

/-- The text of a JSON value, without blanks around it. -/
inductive Form : List Char → Prop
  | null : Form nullText
  | bool (value : Bool) : Form (boolText value)
  | number {text : List Char} (number : NumberForm text) : Form text
  | minus {text : List Char} (number : NumberForm text) : Form ('-' :: text)
  | string {letters : List Char} (spelled : StringForm letters) :
      Form ('"' :: (letters ++ ['"']))
  | list {elements : List Element} {gap : List Char} (blank : AllSpace gap)
      (spaced : ∀ element ∈ elements, element.IsSpaced)
      (each : ∀ element ∈ elements, Form element.value) : Form (listOf elements gap)
  | object {entries : List Entry} {gap : List Char} (blank : AllSpace gap)
      (spaced : ∀ entry ∈ entries, entry.IsSpaced)
      (keys : ∀ entry ∈ entries, StringForm entry.letters)
      (each : ∀ entry ∈ entries, Form entry.value) : Form (objectOf entries gap)

/-! ### Blanks -/

theorem allSpace_nil : AllSpace [] := nofun

theorem dropSpace_append {gap : List Char} (blank : AllSpace gap) (text : List Char) :
    dropSpace (gap ++ text) = dropSpace text :=
  List.dropWhile_append_of_pos blank

theorem endsNumber_space {c : Char} (space : isSpace c = true) (rest : List Char) :
    EndsNumber (c :: rest) := by
  have kinds : c = ' ' ∨ c = '\t' ∨ c = '\n' ∨ c = '\r' := by
    simpa [isSpace, or_assoc] using space
  rcases kinds with rfl | rfl | rfl | rfl
  all_goals exact ⟨rfl, by decide, by decide, by decide⟩

namespace Entry

theorem tail_append (entry : Entry) (more : List Char) :
    entry.tail ++ more =
      entry.behind ++ ':' :: (entry.between ++ (entry.value ++ (entry.after ++ more))) := by
  simp [tail]

variable {entry : Entry} (spaced : entry.IsSpaced)

include spaced

theorem dropSpace_text (more : List Char) :
    dropSpace (entry.text ++ more) = '"' :: (entry.letters ++ '"' :: (entry.tail ++ more)) := by
  rw [text, List.append_assoc, dropSpace_append spaced.before, List.cons_append,
    dropSpace_cons rfl, List.append_assoc, List.cons_append]

theorem dropSpace_tail (more : List Char) :
    dropSpace (entry.tail ++ more) =
      ':' :: (entry.between ++ (entry.value ++ (entry.after ++ more))) := by
  rw [tail_append, dropSpace_append spaced.behind, dropSpace_cons rfl]

end Entry

/-- No number goes on over blanks. -/
theorem endsNumber_append {gap rest : List Char} (blank : AllSpace gap) (ends : EndsNumber rest) :
    EndsNumber (gap ++ rest) := by
  cases gap with
  | nil => exact ends
  | cons c gap => exact endsNumber_space (blank c List.mem_cons_self) _

theorem endsNumber_cons {c : Char} (mark : c = ',' ∨ c = ']' ∨ c = '\x7d') (rest : List Char) :
    EndsNumber (c :: rest) := by
  rcases mark with rfl | rfl | rfl
  all_goals exact ⟨rfl, by decide, by decide, by decide⟩

/-! ### Strings and numbers that are passed over -/

theorem skipString_plain {c : Char} (shown : 0x20 ≤ c.toNat) (quote : c ≠ '"')
    (backslash : c ≠ '\\') (rest : List Char) : skipString (c :: rest) = skipString rest := by
  rw [skipString.eq_def]
  split
  · exact absurd ‹c :: rest = []› (List.cons_ne_nil _ _)
  · exact absurd (List.cons.inj ‹_›).1 quote
  · exact absurd (List.cons.inj ‹_›).1 backslash
  next other after _ _ same =>
    obtain ⟨rfl, rfl⟩ := List.cons.inj same
    rw [if_neg (Nat.not_lt.2 shown)]

theorem skipString_escape {letters rest : List Char}
    (passed : skipEscape letters = .ok rest) : skipString ('\\' :: letters) = skipString rest := by
  rw [skipString]
  split
  next fault refused => rw [passed] at refused; cases refused
  next after read =>
    rw [passed] at read
    cases read
    rfl

theorem skipEscape_short {letter c : Char} (meant : (letter, c) ∈ shortEscapes)
    (rest : List Char) : skipEscape (letter :: rest) = .ok rest := by
  have read := shortEscape?_eq_some_iff.2 meant
  have unlike : letter ≠ 'u' := by
    rintro rfl
    exact absurd read nofun
  unfold skipEscape
  split
  next same => cases same
  next same => exact absurd (List.cons.inj same).1 unlike
  next other after _ same =>
    obtain ⟨rfl, rfl⟩ := List.cons.inj same
    simp [read]

theorem skipEscape_numbered {digits : List Char} {code : Nat} (number : HexCode digits code)
    (rest : List Char) : skipEscape ('u' :: (digits ++ rest)) = .ok rest := by
  have read : codeUnit (digits ++ rest) = .ok (code, rest) :=
    codeUnit_eq_ok_iff.2 ⟨digits, rfl, number⟩
  simp only [skipEscape, read, Except.map]

theorem skipString_form {letters : List Char} (spelled : StringForm letters) (rest : List Char) :
    skipString (letters ++ '"' :: rest) = .ok rest := by
  induction spelled with
  | nil => rw [List.nil_append, skipString]
  | plain shown quote backslash more ih =>
    rw [List.cons_append, skipString_plain shown quote backslash, ih]
  | short meant more ih =>
    rw [List.cons_append, List.cons_append, skipString_escape (skipEscape_short meant _), ih]
  | numbered number more ih =>
    rw [List.cons_append, List.cons_append, List.append_assoc,
      skipString_escape (skipEscape_numbered number _), ih]

/-- What spells characters may stand in a string. -/
theorem SpellsAll.form {letters chars : List Char} (all : SpellsAll letters chars) :
    StringForm letters := by
  induction all with
  | nil => exact .nil
  | cons first later ih =>
    cases first with
    | plain shown quote backslash => exact .plain shown quote backslash ih
    | short meant => exact .short meant ih
    | numbered number => exact .numbered number ih
    | paired leading trailing _ _ _ =>
      rw [List.cons_append, List.cons_append, List.append_assoc]
      exact .numbered leading (.numbered trailing ih)

theorem skipExponent_form {exponent rest : List Char} (isExponent : ExponentForm exponent)
    (ends : EndsNumber rest) : skipExponent (exponent ++ rest) = .ok rest := by
  cases isExponent with
  | none =>
    cases rest with
    | nil => rfl
    | cons c rest =>
      obtain ⟨_, _, lower, upper⟩ := ends
      exact skipExponent_absent (by simpa using lower) (by simpa using upper)
  | letter letter isSign run =>
    rw [List.cons_append, List.append_assoc]
    exact skipExponent_letter letter isSign run ends.noDigit

theorem noDigit_exponent {exponent rest : List Char} (isExponent : ExponentForm exponent)
    (ends : EndsNumber rest) : NoDigit (exponent ++ rest) := by
  cases isExponent with
  | none => exact ends.noDigit
  | letter letter _ _ => rcases letter with rfl | rfl <;> rfl

theorem skipNumber_form {number rest : List Char} (isNumber : NumberForm number)
    (ends : EndsNumber rest) : skipNumber (number ++ rest) = .ok rest := by
  obtain ⟨isWhole, isFraction, isExponent⟩ := isNumber
  have stops := noDigit_exponent isExponent ends
  cases isFraction with
  | none =>
    have point : ∀ {exponent}, ExponentForm exponent → (exponent ++ rest).head? ≠ some '.' := by
      intro exponent isExponent
      cases isExponent with
      | none =>
        cases rest with
        | nil => simp
        | cons c rest => simpa using ends.2.1
      | letter letter _ _ => rcases letter with rfl | rfl <;> simp
    rw [List.nil_append, List.append_assoc, skipNumber_plain isWhole stops (point isExponent),
      skipExponent_form isExponent ends]
  | point run =>
    rw [List.append_assoc, List.cons_append, List.cons_append, List.append_assoc,
      skipNumber_point isWhole run stops, skipExponent_form isExponent ends]

/-! ### Values that are passed over -/

/-- The rest after a literal, a string or a number that is passed over, by its first character. -/
def skipScalar (c : Char) (rest : List Char) : Except Fault (List Char) :=
  if c = 'n' then literal ['u', 'l', 'l'] rest
  else if c = 't' then literal ['r', 'u', 'e'] rest
  else if c = 'f' then literal ['a', 'l', 's', 'e'] rest
  else if c = '"' then skipString rest
  else if c = '-' then skipNumber rest
  else if isDigit c then skipNumber (c :: rest)
  else .error .expectedValue

section

variable {opened : List Bracket} {text rest after : List Char} {c : Char}

/-- A value that is passed over, by its first character and by the one behind a bracket. -/
theorem skipFrom_value (shown : dropSpace text = c :: rest) :
    skipFrom .value opened text =
      if c = '[' then
        match dropSpace rest with
        | [] => .error .endInList
        | d :: after =>
          if d = ']' then skipFrom .continuation opened after
          else skipFrom .value (.list :: opened) rest
      else if c = '\x7b' then
        match dropSpace rest with
        | [] => .error .endInObject
        | d :: after =>
          if d = '\x7d' then skipFrom .continuation opened after
          else skipFrom .key (.object :: opened) rest
      else
        match skipScalar c rest with
        | .error fault => .error fault
        | .ok after => skipFrom .continuation opened after := by
  rw [skipFrom.eq_def]
  dsimp only
  split
  next ended => rw [shown] at ended; cases ended
  next d behind first =>
    rw [shown] at first
    obtain ⟨rfl, rfl⟩ := List.cons.inj first
    split
    · split
      next ended => simp only [ended]
      next d after next => simp only [next]
    · split
      · split
        next ended => simp only [ended]
        next d after next => simp only [next]
      · split
        next fault refused =>
          have refused : skipScalar c rest = .error fault := refused
          simp only [refused]
        next after read =>
          have read : skipScalar c rest = .ok after := read
          simp only [read]

theorem skipFrom_scalar (shown : dropSpace text = c :: rest) (list : c ≠ '[')
    (object : c ≠ '\x7b') (passed : skipScalar c rest = .ok after) :
    skipFrom .value opened text = skipFrom .continuation opened after := by
  rw [skipFrom_value shown, if_neg list, if_neg object, passed]

theorem skipFrom_emptyList (shown : dropSpace text = '[' :: rest)
    (closed : dropSpace rest = ']' :: after) :
    skipFrom .value opened text = skipFrom .continuation opened after := by
  rw [skipFrom_value shown, if_pos rfl, closed]
  rfl

theorem skipFrom_list (shown : dropSpace text = '[' :: rest)
    (filled : dropSpace rest = c :: after) (unclosed : c ≠ ']') :
    skipFrom .value opened text = skipFrom .value (.list :: opened) rest := by
  rw [skipFrom_value shown, if_pos rfl, filled]
  exact if_neg unclosed

theorem skipFrom_emptyObject (shown : dropSpace text = '\x7b' :: rest)
    (closed : dropSpace rest = '\x7d' :: after) :
    skipFrom .value opened text = skipFrom .continuation opened after := by
  rw [skipFrom_value shown, if_neg (by decide), if_pos rfl, closed]
  rfl

theorem skipFrom_object (shown : dropSpace text = '\x7b' :: rest)
    (filled : dropSpace rest = c :: after) (unclosed : c ≠ '\x7d') :
    skipFrom .value opened text = skipFrom .key (.object :: opened) rest := by
  rw [skipFrom_value shown, if_neg (by decide), if_pos rfl, filled]
  exact if_neg unclosed

theorem skipFrom_key (shown : dropSpace text = '"' :: rest) {colon behind : List Char}
    (named : skipString rest = .ok colon) (pointed : dropSpace colon = ':' :: behind) :
    skipFrom .key opened text = skipFrom .value opened behind := by
  rw [skipFrom.eq_def]
  dsimp only
  split
  next ended => rw [shown] at ended; cases ended
  next d after first =>
    rw [shown] at first
    obtain ⟨rfl, rfl⟩ := List.cons.inj first
    rw [if_pos rfl]
    split
    next fault refused => rw [named] at refused; cases refused
    next last read =>
      rw [named] at read
      cases read
      split
      next ended => rw [pointed] at ended; cases ended
      next d after next =>
        rw [pointed] at next
        obtain ⟨rfl, rfl⟩ := List.cons.inj next
        rw [if_pos rfl]

/-- What is due behind a comma. -/
def Bracket.due : Bracket → Due
  | .list => .value
  | .object => .key

/-- The character that closes a bracket. -/
def Bracket.closing : Bracket → Char
  | .list => ']'
  | .object => '\x7d'

variable {bracket : Bracket}

/-- What follows a value within a bracket. -/
theorem skipFrom_continuation :
    skipFrom .continuation (bracket :: opened) text =
      match dropSpace text with
      | [] => .error (match bracket with | .list => .endInList | .object => .endInObject)
      | c :: rest =>
        if c = ',' then skipFrom bracket.due (bracket :: opened) rest
        else if c = bracket.closing then skipFrom .continuation opened rest
        else .error (match bracket with
          | .list => .expectedListEnd
          | .object => .expectedObjectEnd) := by
  rw [skipFrom.eq_def]
  cases bracket
  all_goals
    dsimp only
    split
    next ended => simp only [ended]
    next c rest first =>
      simp only [first, Bracket.due, Bracket.closing]
      rfl

/-- Within a bracket blanks before the next comma do not count. -/
theorem skipFrom_blank {gap : List Char} (blank : AllSpace gap) :
    skipFrom .continuation (bracket :: opened) (gap ++ text) =
      skipFrom .continuation (bracket :: opened) text := by
  rw [skipFrom_continuation, dropSpace_append blank, ← skipFrom_continuation]

theorem skipFrom_comma (rest : List Char) :
    skipFrom .continuation (bracket :: opened) (',' :: rest) =
      skipFrom bracket.due (bracket :: opened) rest := by
  rw [skipFrom_continuation, dropSpace_cons rfl]
  exact if_pos rfl

theorem skipFrom_close (rest : List Char) :
    skipFrom .continuation (bracket :: opened) (bracket.closing :: rest) =
      skipFrom .continuation opened rest := by
  have visible : isSpace bracket.closing = false := by cases bracket <;> rfl
  have unlike : bracket.closing ≠ ',' := by cases bracket <;> decide
  rw [skipFrom_continuation, dropSpace_cons visible]
  exact (if_neg unlike).trans (if_pos rfl)

theorem skipFrom_done (text : List Char) : skipFrom .continuation [] text = .ok text := by
  rw [skipFrom]

/-- What passes over a value, within any brackets. -/
def Passes (text rest : List Char) : Prop :=
  ∀ opened, skipFrom .value opened text = skipFrom .continuation opened rest

theorem Passes.skipValue {text rest : List Char} (passes : Passes text rest) :
    skipValue text = .ok rest :=
  (passes []).trans (skipFrom_done rest)

theorem Passes.unique {text rest other : List Char} (passes : Passes text rest)
    (passes' : Passes text other) : rest = other :=
  Except.ok.inj (passes.skipValue.symm.trans passes'.skipValue)

theorem passes_scalar (shown : dropSpace text = c :: rest) (list : c ≠ '[')
    (object : c ≠ '\x7b') (passed : skipScalar c rest = .ok after) : Passes text after :=
  fun _ => skipFrom_scalar shown list object passed

/-- A value that starts with a digit is passed over as a number. -/
theorem passes_digit (digit : isDigit c = true) (shown : dropSpace text = c :: rest)
    (passed : skipNumber (c :: rest) = .ok after) : Passes text after := by
  have unlike {other : Char} (none : isDigit other = false) : c ≠ other := digit_ne digit none
  have scalar : skipScalar c rest = .ok after := by
    rw [skipScalar, if_neg (unlike rfl), if_neg (unlike rfl), if_neg (unlike rfl),
      if_neg (unlike rfl), if_neg (unlike rfl), if_pos digit, passed]
  exact passes_scalar shown (unlike rfl) (unlike rfl) scalar

/-- The parts between two brackets, each of which is passed over whole. -/
def PassesParts (bracket : Bracket) (parts : List (List Char)) : Prop :=
  ∀ part ∈ parts, ∀ opened rest, EndsNumber rest →
    skipFrom bracket.due (bracket :: opened) (part ++ rest) =
      skipFrom .continuation (bracket :: opened) rest

theorem endsNumber_closing (bracket : Bracket) (rest : List Char) :
    EndsNumber (bracket.closing :: rest) := by
  cases bracket <;> exact endsNumber_cons (by decide) rest

theorem endsNumber_furtherParts (parts : List (List Char)) {gap : List Char}
    (blank : AllSpace gap) (bracket : Bracket) (rest : List Char) :
    EndsNumber (parts.flatMap (fun part => ',' :: part) ++ (gap ++ bracket.closing :: rest)) := by
  cases parts with
  | nil =>
    rw [List.flatMap_nil, List.nil_append]
    exact endsNumber_append blank (endsNumber_closing bracket rest)
  | cons part parts => exact endsNumber_cons (by decide) _

/-- Behind a part another follows, or the bracket closes. -/
theorem skipFrom_furtherParts {parts : List (List Char)} (passes : PassesParts bracket parts)
    {gap : List Char} (blank : AllSpace gap) (rest : List Char) :
    skipFrom .continuation (bracket :: opened)
        (parts.flatMap (fun part => ',' :: part) ++ (gap ++ bracket.closing :: rest)) =
      skipFrom .continuation opened rest := by
  induction parts with
  | nil => rw [List.flatMap_nil, List.nil_append, skipFrom_blank blank, skipFrom_close]
  | cons part parts ih =>
    obtain ⟨first, later⟩ := List.forall_mem_cons.1 passes
    rw [List.flatMap_cons, List.append_assoc, List.cons_append, skipFrom_comma,
      first _ _ (endsNumber_furtherParts parts blank bracket rest)]
    exact ih later

/-- All parts between two brackets are passed over. -/
theorem skipFrom_parts {part : List Char} {parts : List (List Char)}
    (passes : PassesParts bracket (part :: parts)) {gap : List Char} (blank : AllSpace gap)
    (rest : List Char) :
    skipFrom bracket.due (bracket :: opened)
        (commaSeparated (part :: parts) ++ (gap ++ bracket.closing :: rest)) =
      skipFrom .continuation opened rest := by
  obtain ⟨first, later⟩ := List.forall_mem_cons.1 passes
  rw [commaSeparated_cons, List.append_assoc,
    first _ _ (endsNumber_furtherParts parts blank bracket rest)]
  exact skipFrom_furtherParts later blank rest

end

/-! ### Values of the grammar -/

/-- No value starts with a blank or with a closing bracket. -/
theorem Form.starts {text : List Char} (form : Form text) :
    ∃ c letters, text = c :: letters ∧ isSpace c = false ∧ c ≠ ']' := by
  have number : ∀ {text}, NumberForm text → ∃ c letters, text = c :: letters ∧
      isSpace c = false ∧ c ≠ ']' := by
    rintro _ ⟨isWhole, -, -⟩
    obtain ⟨c, others, rfl⟩ := List.exists_cons_of_ne_nil isWhole.nonempty
    have digit := isWhole.each c List.mem_cons_self
    exact ⟨c, _, rfl, isSpace_digit digit, digit_ne digit rfl⟩
  cases form with
  | null => exact ⟨_, _, rfl, rfl, by decide⟩
  | bool value => cases value <;> exact ⟨_, _, rfl, rfl, by decide⟩
  | number isNumber => exact number isNumber
  | minus isNumber => exact ⟨_, _, rfl, rfl, by decide⟩
  | string spelled => exact ⟨_, _, rfl, rfl, by decide⟩
  | list blank spaced each => exact ⟨_, _, rfl, rfl, by decide⟩
  | object blank spaced keys each => exact ⟨_, _, rfl, rfl, by decide⟩

theorem passes_number {number rest : List Char} (isNumber : NumberForm number)
    (ends : EndsNumber rest) {gap : List Char} (blank : AllSpace gap) :
    Passes (gap ++ (number ++ rest)) rest := by
  have skipped := skipNumber_form isNumber ends
  obtain ⟨isWhole, isFraction, isExponent⟩ := isNumber
  obtain ⟨c, others, rfl⟩ := List.exists_cons_of_ne_nil isWhole.nonempty
  have digit := isWhole.each c List.mem_cons_self
  have shown (behind : List Char) : dropSpace (gap ++ c :: behind) = c :: behind := by
    rw [dropSpace_append blank, dropSpace_cons (isSpace_digit digit)]
  exact passes_digit digit (shown _) skipped

theorem passes_null {gap : List Char} (blank : AllSpace gap) {rest : List Char} :
    Passes (gap ++ (nullText ++ rest)) rest :=
  passes_scalar (by rw [dropSpace_append blank]; rfl) (by decide) (by decide) rfl

theorem passes_string {letters rest : List Char} (spelled : StringForm letters) {gap : List Char}
    (blank : AllSpace gap) : Passes (gap ++ '"' :: (letters ++ '"' :: rest)) rest := by
  have passed : skipScalar '"' (letters ++ '"' :: rest) = .ok rest :=
    skipString_form spelled rest
  refine passes_scalar ?_ (by decide) (by decide) passed
  rw [dropSpace_append blank, dropSpace_cons rfl]

/-- A list is passed over if its elements are. -/
theorem passes_list {elements : List Element} {inner : List Char} (blank : AllSpace inner)
    (spaced : ∀ element ∈ elements, element.IsSpaced)
    (each : ∀ element ∈ elements, Form element.value)
    (passed : ∀ element ∈ elements, ∀ gap rest, AllSpace gap → EndsNumber rest →
      Passes (gap ++ (element.value ++ rest)) rest)
    {text rest : List Char} (shown : dropSpace text = listOf elements inner ++ rest) :
    Passes text rest := by
  intro opened
  have shape : listOf elements inner ++ rest =
      '[' :: (commaSeparated (elements.map Element.text) ++ (inner ++ ']' :: rest)) := by
    simp [listOf]
  rw [shape] at shown
  have parts : PassesParts .list (elements.map Element.text) := by
    intro part among opened rest ends
    obtain ⟨e, isElement, rfl⟩ := List.mem_map.1 among
    obtain ⟨before, after⟩ := spaced e isElement
    have passes := passed e isElement e.before (e.after ++ rest) before
      (endsNumber_append after ends)
    rw [Element.text, List.append_assoc, List.append_assoc]
    exact (passes _).trans (skipFrom_blank after)
  cases elements with
  | nil =>
    refine skipFrom_emptyList shown ?_
    rw [List.map_nil, commaSeparated, List.nil_append, dropSpace_append blank, dropSpace_cons rfl]
  | cons e elements =>
    obtain ⟨c, letters, first, visible, unclosed⟩ := (each e List.mem_cons_self).starts
    have filled : ∃ behind, dropSpace (commaSeparated ((e :: elements).map Element.text) ++
        (inner ++ ']' :: rest)) = c :: behind := by
      rw [List.map_cons, commaSeparated_cons, List.append_assoc, Element.text, List.append_assoc,
        dropSpace_append (spaced e List.mem_cons_self).before, first, List.cons_append,
        List.cons_append, dropSpace_cons visible]
      exact ⟨_, rfl⟩
    obtain ⟨behind, filled⟩ := filled
    rw [skipFrom_list shown filled unclosed]
    exact skipFrom_parts parts blank rest

/-- An object is passed over if the values of its members are. -/
theorem passes_object {entries : List Entry} {inner : List Char} (blank : AllSpace inner)
    (spaced : ∀ entry ∈ entries, entry.IsSpaced)
    (keys : ∀ entry ∈ entries, StringForm entry.letters)
    (passed : ∀ entry ∈ entries, ∀ gap rest, AllSpace gap → EndsNumber rest →
      Passes (gap ++ (entry.value ++ rest)) rest)
    {text rest : List Char} (shown : dropSpace text = objectOf entries inner ++ rest) :
    Passes text rest := by
  intro opened
  have shape : objectOf entries inner ++ rest =
      '\x7b' :: (commaSeparated (entries.map Entry.text) ++ (inner ++ '\x7d' :: rest)) := by
    simp [objectOf]
  rw [shape] at shown
  have parts : PassesParts .object (entries.map Entry.text) := by
    intro part among opened rest ends
    obtain ⟨e, isEntry, rfl⟩ := List.mem_map.1 among
    have blanks := spaced e isEntry
    have key := skipString_form (keys e isEntry) (e.tail ++ rest)
    have named : skipFrom .key (.object :: opened) (e.text ++ rest) =
        skipFrom .value (.object :: opened) (e.between ++ (e.value ++ (e.after ++ rest))) :=
      skipFrom_key (Entry.dropSpace_text blanks rest) key (Entry.dropSpace_tail blanks rest)
    have passes := passed e isEntry e.between (e.after ++ rest) blanks.between
      (endsNumber_append blanks.after ends)
    exact named.trans ((passes _).trans (skipFrom_blank blanks.after))
  cases entries with
  | nil =>
    refine skipFrom_emptyObject shown ?_
    rw [List.map_nil, commaSeparated, List.nil_append, dropSpace_append blank, dropSpace_cons rfl]
  | cons e entries =>
    have filled : ∃ behind, dropSpace (commaSeparated ((e :: entries).map Entry.text) ++
        (inner ++ '\x7d' :: rest)) = '"' :: behind := by
      rw [List.map_cons, commaSeparated_cons, List.append_assoc,
        Entry.dropSpace_text (spaced e List.mem_cons_self)]
      exact ⟨_, rfl⟩
    obtain ⟨behind, filled⟩ := filled
    rw [skipFrom_object shown filled (by decide)]
    exact skipFrom_parts parts blank rest

/-- A value of the grammar is passed over whole, within any brackets. -/
theorem Form.passes {text : List Char} (form : Form text) :
    ∀ gap rest, AllSpace gap → EndsNumber rest → Passes (gap ++ (text ++ rest)) rest := by
  induction form with
  | null =>
    intro gap rest blank ends
    exact passes_null blank
  | bool value =>
    intro gap rest blank ends
    cases value
    all_goals
      exact passes_scalar (by rw [dropSpace_append blank]; rfl) (by decide) (by decide) rfl
  | number isNumber =>
    intro gap rest blank ends
    exact passes_number isNumber ends blank
  | @minus text isNumber =>
    intro gap rest blank ends
    have passed : skipScalar '-' (text ++ rest) = .ok rest := skipNumber_form isNumber ends
    refine passes_scalar ?_ (by decide) (by decide) passed
    rw [dropSpace_append blank]
    rfl
  | @string letters spelled =>
    intro gap rest blank ends
    rw [List.cons_append, List.append_assoc, List.singleton_append]
    exact passes_string spelled blank
  | list blank' spaced each ih =>
    intro gap rest blank ends
    exact passes_list blank' spaced each ih (by rw [dropSpace_append blank]; rfl)
  | object blank' spaced keys each ih =>
    intro gap rest blank ends
    exact passes_object blank' spaced keys ih (by rw [dropSpace_append blank]; rfl)

/-- Behind a value of the grammar only one text can be left. -/
theorem Form.rest_eq {text rest other : List Char} (form : Form text) (ends : EndsNumber rest)
    {gap : List Char} (blank : AllSpace gap) (passes : Passes (gap ++ (text ++ rest)) other) :
    other = rest :=
  passes.unique (form.passes gap rest blank ends)

end BackgroundWork.Json
