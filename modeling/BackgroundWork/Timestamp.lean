import BackgroundWork.Json.Codec
import BackgroundWork.Text.Blank

set_option autoImplicit false

/-!
Moments in universal time, in calendar form. They are read from RFC 3339 text with any offset, in
which blanks around the parts and short numbers are tolerated, and are written with `Z` and the
fewest of 0, 3, 6 or 9 fraction digits.
-/

namespace BackgroundWork

/-- Whether a year of the proleptic Gregorian calendar has a leap day. -/
def isLeapYear (year : Int) : Bool :=
  year % 4 = 0 && (year % 100 ≠ 0 || year % 400 = 0)

/-- The number of days of a month. -/
def daysInMonth (year : Int) (month : Nat) : Nat :=
  if month = 2 then (if isLeapYear year then 29 else 28)
  else if month = 4 || month = 6 || month = 9 || month = 11 then 30
  else 31

/-- Whether year, month and day name a day of the calendar; years reach over half a million. -/
def isDate (year : Int) (month day : Nat) : Bool :=
  -262143 ≤ year && year ≤ 262142 && 1 ≤ month && month ≤ 12 && 1 ≤ day &&
    day ≤ daysInMonth year month

/-- A day of the proleptic Gregorian calendar. -/
structure Date where
  year : Int
  month : Nat
  day : Nat
  valid : isDate year month day
  deriving DecidableEq

namespace Date

/-- The day with the given year, month and day, if there is one. -/
def of? (year : Int) (month day : Nat) : Option Date :=
  if h : isDate year month day then some ⟨year, month, day, h⟩ else none

/-- The day after. -/
def next? (date : Date) : Option Date :=
  if date.day < daysInMonth date.year date.month then of? date.year date.month (date.day + 1)
  else if date.month < 12 then of? date.year (date.month + 1) 1
  else of? (date.year + 1) 1 1

/-- The day before. -/
def previous? (date : Date) : Option Date :=
  if 1 < date.day then of? date.year date.month (date.day - 1)
  else if 1 < date.month then
    of? date.year (date.month - 1) (daysInMonth date.year (date.month - 1))
  else of? (date.year - 1) 12 31

end Date

/-- A time of day. A leap second is the second before it with a nanosecond from 10^9 on. -/
structure TimeOfDay where
  hour : Fin 24
  minute : Fin 60
  second : Fin 60
  nanosecond : Fin 2000000000
  deriving DecidableEq

/-- A moment in universal time. -/
structure Timestamp where
  date : Date
  time : TimeOfDay
  deriving DecidableEq

namespace Timestamp

/-- Why a text is no moment. -/
inductive Fault where
  /-- The text ends too early. -/
  | tooShort
  | invalid
  | outOfRange
  /-- The moment lies beyond the calendar's ends once it is moved to universal time. -/
  | impossible
  /-- Something stands behind the offset. -/
  | tooLong
  deriving DecidableEq, Repr

/-- The wording of a fault. -/
def Fault.message : Fault → String
  | .tooShort => "premature end of input"
  | .invalid => "input contains invalid characters"
  | .outOfRange => "input is out of range"
  | .impossible => "no possible date and time matching input"
  | .tooLong => "trailing input"

/-- What a reader returns: what it read and the rest of the text. -/
abbrev Reading (α : Type) := Except Fault (α × List Char)

/-- The value of decimal digits. -/
def digitsValue (digits : List Char) : Nat :=
  digits.foldl (fun value c => value * 10 + Json.digitValue c) 0

/-- A number of at most `width` digits, from the front of a text. -/
def number (width : Nat) (text : List Char) : Reading Nat :=
  match text with
  | [] => .error .tooShort
  | _ =>
    let digits := (text.take width).takeWhile Json.isDigit
    if digits.isEmpty then .error .invalid else .ok (digitsValue digits, text.drop digits.length)

/-- A number of at most two digits from `least` to `greatest`, behind blanks. -/
def part (least greatest : Nat) (text : List Char) : Reading Nat :=
  match number 2 (Text.trimStart text) with
  | .error fault => .error fault
  | .ok (value, rest) =>
    if least ≤ value && value ≤ greatest then .ok (value, rest) else .error .outOfRange

/-- A separator, behind blanks. -/
def separator (expected : Char) (text : List Char) : Except Fault (List Char) :=
  match Text.trimStart text with
  | [] => .error .tooShort
  | c :: rest => if c = expected then .ok rest else .error .invalid

/-- A signed number of any length must fit 32 bits. -/
def signedYear (negative : Bool) (text : List Char) : Reading Int :=
  match number text.length text with
  | .error fault => .error fault
  | .ok (value, rest) =>
    let year : Int := if negative then -value else value
    if -2147483648 ≤ year && year < 2147483648 then .ok (year, rest) else .error .outOfRange

/-- A year: four digits at most, or any number of them behind a sign. -/
def year (text : List Char) : Reading Int :=
  match Text.trimStart text with
  | '-' :: rest => signedYear true rest
  | '+' :: rest => signedYear false rest
  | next => (number 4 next).map fun (value, rest) => ((value : Int), rest)

/-- The fraction of a second in nanoseconds, if there is one; digits behind the ninth are passed
over. -/
def fraction : List Char → Reading Nat
  | '.' :: text =>
    match number 9 text with
    | .error fault => .error fault
    | .ok (value, rest) =>
      .ok (value * Nat.pow 10 (9 - (text.length - rest.length)), rest.dropWhile Json.isDigit)
  | text => .ok (0, text)

/-- The minutes of an offset. A lone character of several bytes is taken for two. -/
def offsetMinutes : List Char → Reading Nat
  | a :: b :: rest =>
    if Json.isDigit a && Json.isDigit b then
      if Json.digitValue a < 6 then .ok (digitsValue [a, b], rest) else .error .outOfRange
    else .error .invalid
  | [a] => if a.utf8Size = 1 then .error .tooShort else .error .invalid
  | [] => .error .tooShort

/-- The hours and minutes of an offset, as minutes, from behind its sign. Colons and blanks may
stand between them. -/
def offsetSize : List Char → Reading Nat
  | a :: b :: rest =>
    if Json.isDigit a && Json.isDigit b then
      (offsetMinutes (rest.dropWhile fun c => c = ':' || Text.isBlank c)).map
        fun (minutes, rest) => (digitsValue [a, b] * 60 + minutes, rest)
    else .error .invalid
  | [a] => if a.utf8Size = 1 then .error .tooShort else .error .invalid
  | [] => .error .tooShort

/-- The offset from universal time in minutes: a `Z`, the name `UTC`, or a sign, hours and
minutes, in any case. -/
def offset (text : List Char) : Reading Int :=
  match Text.trimStart text with
  | 'Z' :: rest | 'z' :: rest => .ok (0, rest)
  | '+' :: rest => (offsetSize rest).map fun (minutes, rest) => ((minutes : Int), rest)
  | '-' :: rest | '\u2212' :: rest =>
    (offsetSize rest).map fun (minutes, rest) => (-(minutes : Int), rest)
  | a :: b :: c :: rest =>
    if a.toUpper = 'U' && b.toUpper = 'T' && c.toUpper = 'C' then .ok (0, rest)
    else .error .invalid
  | [] => .error .tooShort
  | _ => .error .invalid

/-- The moment at which clocks that are `offset` minutes ahead show the given day and time. -/
def ofLocal? (date : Date) (hour minute : Nat) (second : Fin 60) (nanosecond : Fin 2000000000)
    (offset : Int) : Option Timestamp :=
  let minutes := (hour * 60 + minute : Int) - offset
  let shifted? : Option Date :=
    if minutes < 0 then date.previous? else if minutes < 1440 then some date else date.next?
  let ofDay := (minutes % 1440).toNat
  shifted?.map fun shifted =>
    ⟨shifted, ⟨Fin.ofNat 24 (ofDay / 60), Fin.ofNat 60 (ofDay % 60), second, nanosecond⟩⟩

/-- Year, month and day of a text. -/
def dateParts (text : List Char) : Except Fault ((Int × Nat × Nat) × List Char) := do
  let (year, text) ← year text
  let text ← separator '-' text
  let (month, text) ← part 1 12 text
  let text ← separator '-' text
  let (day, text) ← part 1 31 text
  return ((year, month, day), text)

/-- Hour, minute, second and nanosecond of a text. -/
def timeParts (text : List Char) : Except Fault ((Nat × Nat × Nat × Nat) × List Char) := do
  let (hour, text) ← part 0 23 text
  let text ← separator ':' text
  let (minute, text) ← part 0 59 text
  let text ← separator ':' text
  let (second, text) ← part 0 60 text
  let (nanosecond, text) ← fraction text
  return ((hour, minute, second, nanosecond), text)

/-- The letter or blank between day and time. -/
def betweenParts : List Char → Except Fault (List Char)
  | [] => .error .tooShort
  | c :: rest => if c = 'T' || c = 't' || c = ' ' then .ok rest else .error .invalid

/-- Reads a moment. Faults of form come first, in the order of the text; then a day that the
calendar does not have and an offset of a day or more are out of range, and a moment that the
offset moves out of the calendar is impossible. -/
def ofText (text : String) : Except Fault Timestamp := do
  let ((year, month, day), rest) ← dateParts text.toList
  let rest ← betweenParts rest
  let ((hour, minute, second, nanosecond), rest) ← timeParts rest
  let (offset, rest) ← offset rest
  if !(Text.trimStart rest).isEmpty then throw .tooLong
  let (second, nanosecond) :=
    if second = 60 then (59, nanosecond + 1000000000) else (second, nanosecond)
  if offset.natAbs < 1440 then
    match Date.of? year month day with
    | none => throw .outOfRange
    | some date =>
      match ofLocal? date hour minute (Fin.ofNat 60 second) (Fin.ofNat 2000000000 nanosecond)
          offset with
      | none => throw .impossible
      | some moment => return moment
  else throw .outOfRange

/-- A number with leading zeros up to the given width. -/
def padded (width n : Nat) : List Char :=
  let digits := Numeric.natText n
  List.replicate (width - digits.length) '0' ++ digits

/-- A year of four digits, or with a sign where it needs more or is negative. -/
def yearText (year : Int) : List Char :=
  if 0 ≤ year && year ≤ 9999 then padded 4 year.toNat
  else (if year < 0 then '-' else '+') :: padded 4 year.natAbs

/-- The fraction of a second, in the fewest groups of three digits. -/
def fractionText (nanosecond : Nat) : List Char :=
  if nanosecond = 0 then []
  else if nanosecond % 1000000 = 0 then '.' :: padded 3 (nanosecond / 1000000)
  else if nanosecond % 1000 = 0 then '.' :: padded 6 (nanosecond / 1000)
  else '.' :: padded 9 nanosecond

/-- A moment as text. -/
def text (moment : Timestamp) : String :=
  let date := moment.date
  let time := moment.time
  let leap := 1000000000 ≤ time.nanosecond.val
  let second := if leap then time.second.val + 1 else time.second.val
  let nanosecond := if leap then time.nanosecond.val - 1000000000 else time.nanosecond.val
  String.ofList (yearText date.year ++ '-' :: padded 2 date.month ++ '-' :: padded 2 date.day ++
    'T' :: padded 2 time.hour.val ++ ':' :: padded 2 time.minute.val ++ ':' :: padded 2 second ++
    fractionText nanosecond ++ ['Z'])

/-- A moment as a JSON string. -/
def codec : Json.Codec Timestamp :=
  .content "an RFC 3339 formatted date and time string"
    (fun value => (ofText value).mapError Fault.message) text

end Timestamp
end BackgroundWork
