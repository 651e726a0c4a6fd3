import BackgroundWork.Json.Scalar

set_option autoImplicit false

/-!
Reading lists and objects, and passing over values that nobody asked for. What an element or a
member means is left to the caller; here are the brackets, the commas and the order in which
faults are found.
-/

namespace BackgroundWork.Json

open Numeric

/-- Reads a value from the front of a text. -/
abbrev Reader (α : Type) := List Char → Reading α

theorem dropSpace_cons_length_lt {text rest : List Char} {c : Char}
    (h : dropSpace text = c :: rest) : rest.length < text.length := by
  have := dropSpace_length_le text
  rw [h] at this
  exact this

/-! ### Lists -/

/-- The elements after the first, up to the closing bracket. A reader that consumes nothing has
found no value. -/
def moreItems {α : Type} (item : Reader α) (text : List Char) : Reading (List α) :=
  match dropSpace text with
  | [] => .error .endInList
  | ']' :: rest => .ok ([], rest)
  | ',' :: rest =>
    match dropSpace rest with
    | [] => .error .endInValue
    | ']' :: _ => .error .trailingComma
    | next =>
      match item next with
      | .error fault => .error fault
      | .ok (first, rest) =>
        if rest.length < text.length then
          (moreItems item rest).map fun (items, rest) => (first :: items, rest)
        else .error .expectedValue
  | _ => .error .expectedListEnd
termination_by text.length

/-- The elements of a list, from behind its opening bracket. -/
def items {α : Type} (item : Reader α) (text : List Char) : Reading (List α) :=
  match dropSpace text with
  | [] => .error .endInList
  | ']' :: rest => .ok ([], rest)
  | next =>
    match item next with
    | .error fault => .error fault
    | .ok (first, rest) =>
      (moreItems item rest).map fun (items, rest) => (first :: items, rest)

/-- The rest of the text where the next element of a list stands, or none if the list ends here.
`first` says that no element was read yet. -/
def nextItem (first : Bool) (text : List Char) : Except Fault (Option (List Char)) :=
  match dropSpace text with
  | [] => .error .endInList
  | ']' :: _ => .ok none
  | c :: rest =>
    if first then .ok (some (c :: rest))
    else if c = ',' then
      match dropSpace rest with
      | [] => .error .endInValue
      | ']' :: _ => .error .trailingComma
      | next => .ok (some next)
    else .error .expectedListEnd

/-- The rest of the text after the bracket that closes a list whose elements are all read. -/
def endList (text : List Char) : Except Fault (List Char) :=
  match dropSpace text with
  | [] => .error .endInList
  | ']' :: rest => .ok rest
  | ',' :: rest =>
    match dropSpace rest with
    | ']' :: _ => .error .trailingComma
    | _ => .error .trailingCharacters
  | _ => .error .trailingCharacters

/-! ### Objects -/

/-- The rest of the text after the colon between a key and its value. -/
def colon (text : List Char) : Except Fault (List Char) :=
  match dropSpace text with
  | [] => .error .endInObject
  | ':' :: rest => .ok rest
  | _ => .error .expectedColon

/-- Takes the member with the given key, from behind the key, into a state. -/
abbrev Member (σ : Type) := σ → String → Reader σ

/-- A member, from its key on. -/
def keyed {σ : Type} (member : Member σ) (state : σ) : List Char → Reading σ
  | '"' :: text =>
    match string text with
    | .error fault => .error fault
    | .ok (key, rest) => member state key rest
  | _ => .error .keyNotString

/-- The members after the first, up to the closing brace. A member that consumes nothing has no
value. -/
def moreMembers {σ : Type} (member : Member σ) (state : σ) (text : List Char) : Reading σ :=
  match dropSpace text with
  | [] => .error .endInObject
  | '\x7d' :: rest => .ok (state, rest)
  | ',' :: rest =>
    match dropSpace rest with
    | [] => .error .endInValue
    | '\x7d' :: _ => .error .trailingComma
    | next =>
      match keyed member state next with
      | .error fault => .error fault
      | .ok (state, rest) =>
        if rest.length < text.length then moreMembers member state rest
        else .error .expectedValue
  | _ => .error .expectedObjectEnd
termination_by text.length

/-- The members of an object in their order, from behind its opening brace. -/
def members {σ : Type} (member : Member σ) (state : σ) (text : List Char) : Reading σ :=
  match dropSpace text with
  | [] => .error .endInObject
  | '\x7d' :: rest => .ok (state, rest)
  | next =>
    match keyed member state next with
    | .error fault => .error fault
    | .ok (state, rest) => moreMembers member state rest

/-! ### Values that are passed over -/

/-- A list or an object that is still open. -/
inductive Bracket where
  | list
  | object
  deriving DecidableEq, Repr

/-- What is due at a place of the text. -/
inductive Due where
  | value
  /-- A key and its colon. -/
  | key
  /-- A comma or a closing bracket. -/
  | continuation
  deriving DecidableEq, Repr

/-- The rest of the text after a value that is passed over, given the brackets still open around
the place. Nesting has no limit here. -/
def skipFrom (due : Due) (opened : List Bracket) (text : List Char) : Except Fault (List Char) :=
  match due with
  | .value =>
    match h : dropSpace text with
    | [] => .error .endInValue
    | c :: rest =>
      have : rest.length < text.length := dropSpace_cons_length_lt h
      if c = '[' then
        match hn : dropSpace rest with
        | [] => .error .endInList
        | d :: after =>
          have : after.length < rest.length := dropSpace_cons_length_lt hn
          if d = ']' then skipFrom .continuation opened after
          else skipFrom .value (.list :: opened) rest
      else if c = '\x7b' then
        match hn : dropSpace rest with
        | [] => .error .endInObject
        | d :: after =>
          have : after.length < rest.length := dropSpace_cons_length_lt hn
          if d = '\x7d' then skipFrom .continuation opened after
          else skipFrom .key (.object :: opened) rest
      else
        let passed :=
          if c = 'n' then literal ['u', 'l', 'l'] rest
          else if c = 't' then literal ['r', 'u', 'e'] rest
          else if c = 'f' then literal ['a', 'l', 's', 'e'] rest
          else if c = '"' then skipString rest
          else if c = '-' then skipNumber rest
          else if isDigit c then skipNumber (c :: rest)
          else .error .expectedValue
        match hp : passed with
        | .error fault => .error fault
        | .ok after =>
          have : after.length < text.length := by
            have hlen := dropSpace_length_le text
            rw [h] at hlen
            simp only [List.length_cons] at hlen
            simp only [passed] at hp
            split at hp
            · have := literal_length_le hp; omega
            split at hp
            · have := literal_length_le hp; omega
            split at hp
            · have := literal_length_le hp; omega
            split at hp
            · have := skipString_length_lt hp; omega
            split at hp
            · have := skipNumber_length_lt hp; omega
            split at hp
            · have := skipNumber_length_lt hp
              simp only [List.length_cons] at this
              omega
            · simp at hp
          skipFrom .continuation opened after
  | .key =>
    match h : dropSpace text with
    | [] => .error .endInObject
    | c :: rest =>
      have : rest.length < text.length := dropSpace_cons_length_lt h
      if c = '"' then
        match hs : skipString rest with
        | .error fault => .error fault
        | .ok after =>
          have : after.length < rest.length := skipString_length_lt hs
          match hc : dropSpace after with
          | [] => .error .endInObject
          | d :: behind =>
            have : behind.length < after.length := dropSpace_cons_length_lt hc
            if d = ':' then skipFrom .value opened behind else .error .expectedColon
      else .error .keyNotString
  | .continuation =>
    match opened with
    | [] => .ok text
    | bracket :: around =>
      match h : dropSpace text with
      | [] => .error (match bracket with | .list => .endInList | .object => .endInObject)
      | c :: rest =>
        have : rest.length < text.length := dropSpace_cons_length_lt h
        if c = ',' then
          skipFrom (match bracket with | .list => .value | .object => .key) (bracket :: around) rest
        else
          match bracket with
          | .list =>
            if c = ']' then skipFrom .continuation around rest else .error .expectedListEnd
          | .object =>
            if c = '\x7d' then skipFrom .continuation around rest else .error .expectedObjectEnd
termination_by text.length
decreasing_by all_goals omega

/-- The rest of the text after a value that nobody asked for. -/
def skipValue (text : List Char) : Except Fault (List Char) :=
  skipFrom .value [] text

/-! ### Values of another kind than wanted -/

/-- The fault for a value of another kind than `expected`. A literal, a string or a number is read
first, and its own fault comes before. -/
def mismatch (expected : String) (text : List Char) : Fault :=
  let refuse (found : Found) : Fault := .wrongKind found expected
  let ofLiteral (letters rest : List Char) (found : Found) : Fault :=
    match literal letters rest with
    | .error fault => fault
    | .ok _ => refuse found
  let ofNumber (negative : Bool) (rest : List Char) : Fault :=
    match number negative rest with
    | .error fault => fault
    | .ok (.integer value, _) => refuse (.integer value)
    | .ok (.float value, _) => refuse (.float value)
  match text with
  | 'n' :: rest => ofLiteral ['u', 'l', 'l'] rest .null
  | 't' :: rest => ofLiteral ['r', 'u', 'e'] rest (.bool true)
  | 'f' :: rest => ofLiteral ['a', 'l', 's', 'e'] rest (.bool false)
  | '"' :: rest =>
    match string rest with
    | .error fault => fault
    | .ok (value, _) => refuse (.string value)
  | '[' :: _ => refuse .sequence
  | '\x7b' :: _ => refuse .map
  | '-' :: rest => ofNumber true rest
  | c :: rest => if isDigit c then ofNumber false (c :: rest) else .expectedValue
  | [] => .endInValue

end BackgroundWork.Json
