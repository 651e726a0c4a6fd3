import BackgroundWork.Settings
import BackgroundWork.Text.Letters

set_option autoImplicit false

/-!
Environment files: lines of the form `KEY=VALUE` whose values may be quoted, escaped, followed by
a comment, and may refer to entries that were read before. Reading stops at the first malformed
line, and keys that are already set keep their values.
-/

namespace BackgroundWork.Settings

/-- The environment of a process: texts of the form `KEY=VALUE`, the earlier ones first. -/
structure Environment where
  entries : List (List Char)

namespace Environment

/-- The text of an entry. -/
def entry (key value : String) : List Char :=
  key.toList ++ '=' :: value.toList

/-- The environment of the given keys and values. -/
def ofPairs (pairs : List (String × String)) : Environment :=
  ⟨pairs.map fun (key, value) => entry key value⟩

/-- What an entry holds behind a name and an equals sign. -/
def valueIn? (name : List Char) (entry : List Char) : Option (List Char) :=
  let start := name ++ ['=']
  if start.isPrefixOf entry then some (entry.drop start.length) else none

/-- The value of a name: what stands behind it in the first entry that starts with the name and
an equals sign. The name may reach over the first equals sign of an entry; the empty name has no
value. -/
def value? (environment : Environment) (name : String) : Option String :=
  if name.isEmpty then none
  else (environment.entries.findSome? (valueIn? name.toList)).map String.ofList

/-- Sets a key behind the other entries, unless it has a value. -/
def add (environment : Environment) (key value : String) : Environment :=
  if (environment.value? key).isSome then environment
  else ⟨environment.entries ++ [entry key value]⟩

end Environment

namespace EnvFile

/-- Where in a value the reading stands. -/
inductive Mode where
  | plain
  /-- In double quotes. -/
  | quoted
  /-- In single quotes. -/
  | literal
  /-- Behind a backslash, in or outside of double quotes. -/
  | escaped (inQuotes : Bool)
  /-- Behind the value, where only blanks and a comment may stand. -/
  | ended
  /-- In the key that the value refers to; its characters are kept in reverse. -/
  | name (braced inQuotes : Bool) (name : List Char)
  deriving DecidableEq, Repr

/-- The value of the key with the given reversed name; an unknown one is empty. -/
def substitute (environment : Environment) (name : List Char) : List Char :=
  ((environment.value? (String.ofList name.reverse)).getD "").toList

/-- The mode behind a reference or an escape. -/
def Mode.outside (inQuotes : Bool) : Mode :=
  if inQuotes then .quoted else .plain

/-- The characters of a value from a given mode on, or none if the value is malformed. -/
def valueChars (environment : Environment) : Mode → List Char → Option (List Char)
  | .plain, [] | .ended, [] | .escaped false, [] => some []
  | .name false false name, [] => some (substitute environment name)
  | .quoted, [] | .literal, [] | .escaped true, [] | .name .., [] => none
  | .ended, c :: rest =>
    if c = ' ' || c = '\t' then valueChars environment .ended rest
    else if c = '#' then some []
    else none
  | .escaped inQuotes, c :: rest =>
    let behind := valueChars environment (.outside inQuotes) rest
    if c = '\\' || c = '\'' || c = '"' || c = '$' || c = ' ' then behind.map (c :: ·)
    else if c = 'n' then behind.map ('\n' :: ·)
    else none
  | .literal, c :: rest =>
    if c = '\'' then valueChars environment .plain rest
    else (valueChars environment .literal rest).map (c :: ·)
  | .name true inQuotes name, c :: rest =>
    if c = '\x7d' then
      (valueChars environment (.outside inQuotes) rest).map (substitute environment name ++ ·)
    else valueChars environment (.name true inQuotes (c :: name)) rest
  | .name false inQuotes name, c :: rest =>
    if Text.isLetterOrDigit c then valueChars environment (.name false inQuotes (c :: name)) rest
    else if c = '\x7b' && name.isEmpty then valueChars environment (.name true inQuotes []) rest
    else if c = '$' then
      (valueChars environment (.name false inQuotes []) rest).map (substitute environment name ++ ·)
    else
      (valueChars environment (.outside inQuotes) rest).map
        fun behind => substitute environment name ++ c :: behind
  | .quoted, c :: rest =>
    if c = '$' then valueChars environment (.name false true []) rest
    else if c = '"' then valueChars environment .plain rest
    else if c = '\\' then valueChars environment (.escaped true) rest
    else (valueChars environment .quoted rest).map (c :: ·)
  | .plain, c :: rest =>
    if c = '$' then valueChars environment (.name false false []) rest
    else if c = '\'' then valueChars environment .literal rest
    else if c = '"' then valueChars environment .quoted rest
    else if c = '\\' then valueChars environment (.escaped false) rest
    else if c = ' ' || c = '\t' then valueChars environment .ended rest
    else (valueChars environment .plain rest).map (c :: ·)

/-- A letter or an underscore, which a key starts with. -/
def startsKey (c : Char) : Bool :=
  c.isAlpha || c == '_'

/-- A character of a key behind the first. -/
def continuesKey (c : Char) : Bool :=
  c.isAlphanum || c == '_' || c == '.'

/-- A key and the text behind it and its blanks. -/
def takeKey (text : List Char) : Option (String × List Char) :=
  match text with
  | c :: _ =>
    if startsKey c then
      some (String.ofList (text.takeWhile continuesKey),
        Text.trimStart (text.dropWhile continuesKey))
    else none
  | [] => none

/-- A key and the text behind its equals sign. The word `export` may stand before the key. -/
def assignment? (text : List Char) : Option (String × List Char) :=
  match takeKey text with
  | some (key, '=' :: rest) => some (key, Text.trimStart rest)
  | some ("export", rest) =>
    match takeKey rest with
    | some (key, '=' :: rest) => some (key, Text.trimStart rest)
    | _ => none
  | _ => none

/-- What a line says: nothing, a key with its value, or something malformed. -/
inductive Line where
  | empty
  | entry (key value : String)
  | malformed
  deriving DecidableEq, Repr

/-- Reads a line, given the environment before it. Blanks around the line do not count. -/
def Line.ofText (environment : Environment) (text : List Char) : Line :=
  match Text.trim text with
  | [] | '#' :: _ => .empty
  | line =>
    match assignment? line with
    | none => .malformed
    | some (key, []) | some (key, '#' :: _) => .entry key ""
    | some (key, value) =>
      match valueChars environment .plain value with
      | some chars => .entry key (String.ofList chars)
      | none => .malformed

/-- The lines of a text, without their ends. -/
def lines (text : String) : List (List Char) :=
  (text.splitOn "\n").map fun line =>
    let chars := line.toList
    if chars.getLast? = some '\r' then chars.dropLast else chars

/-- The environment after the given lines. -/
def loadLines : List (List Char) → Environment → Environment
  | [], environment => environment
  | line :: lines, environment =>
    match Line.ofText environment line with
    | .empty => loadLines lines environment
    | .entry key value => loadLines lines (environment.add key value)
    | .malformed => environment

/-- The environment of a process, together with the entries of a file. -/
def load (text : String) (process : Environment) : Environment :=
  loadLines (lines text) process

end EnvFile
end BackgroundWork.Settings
