import BackgroundWork.Export.Path
import BackgroundWork.Proofs.JsonReading

set_option autoImplicit false

/-!
Where exports end up. The path of an export is the documents directory, the directory of its domain
and a name that holds its second and the ending of its format, and each part can be told from the
next. Main statement: two exports have one path, letter by letter or name by name, exactly if they
are of one domain, of formats of one kind, and in one second.
-/

namespace BackgroundWork

/-! ### Numbers -/

namespace Numeric

theorem intText_injective : Function.Injective intText := by
  intro first second same
  have unsigned : ∀ n rest, natText n ≠ '-' :: rest := by
    intro n rest written
    have digit := Json.isDigit_natText (n := n) '-' (by rw [written]; exact List.mem_cons_self)
    cases digit
  have size : first.natAbs = second.natAbs ∧ (first < 0 ↔ second < 0) := by
    unfold intText at same
    by_cases below : first < 0
    · by_cases belowToo : second < 0
      · rw [if_pos below, if_pos belowToo] at same
        exact ⟨natText_injective (List.cons.inj same).2, iff_of_true below belowToo⟩
      · rw [if_pos below, if_neg belowToo] at same
        exact absurd same.symm (unsigned _ _)
    · by_cases belowToo : second < 0
      · rw [if_neg below, if_pos belowToo] at same
        exact absurd same (unsigned _ _)
      · rw [if_neg below, if_neg belowToo] at same
        exact ⟨natText_injective same, iff_of_false below belowToo⟩
  omega

theorem not_mem_intText {c : Char} (other : Json.isDigit c = false) (unlike : c ≠ '-') (i : Int) :
    c ∉ intText i := by
  have plain : c ∉ natText i.natAbs := fun among =>
    Json.digit_ne (Json.isDigit_natText c among) other rfl
  unfold intText
  split
  · exact List.not_mem_cons_of_ne_of_not_mem unlike plain
  · exact plain

end Numeric

namespace Export

/-! ### What a path is made of -/

/-- The kinds of formats, whatever their options. -/
inductive Format.Kind where
  | jsonLines
  | csv
  | parquet
  deriving DecidableEq, Repr

/-- The kind of a format. -/
def Format.kind : Format → Kind
  | jsonLines => .jsonLines
  | csv _ => .csv
  | parquet _ => .parquet

/-- The nanoseconds from the epoch to a moment, negative before it. -/
def UnixTime.sinceEpoch (time : UnixTime) : Int :=
  time.second * 1000000000 + time.nanosecond

theorem UnixTime.second_eq {time : UnixTime} (plain : time.nanosecond < 1000000000) :
    time.second = time.sinceEpoch / 1000000000 := by
  unfold sinceEpoch
  omega

theorem Domain.directoryName_injective : Function.Injective Domain.directoryName := by
  intro first second same
  cases first <;> cases second <;> first | rfl | exact absurd same (by decide)

theorem Format.fileExtension_eq_iff {first second : Format} :
    first.fileExtension = second.fileExtension ↔ first.kind = second.kind := by
  cases first <;> cases second <;> simp [fileExtension, kind]

theorem UnixTime.stamp_eq_iff {first second : UnixTime} :
    first.stamp = second.stamp ↔ first.second = second.second := by
  unfold stamp
  rw [String.ofList_inj, Numeric.intText_injective.eq_iff]

namespace Path

/-- A part of a path. -/
inductive Component where
  | root
  /-- The directory at hand, where a path says so at its beginning. -/
  | here
  | name (letters : List Char)
  deriving DecidableEq, Repr

/-- The names between the slashes of a path. Empty names and single dots lead nowhere. -/
def names (path : List Char) : List (List Char) :=
  (path.splitOn '/').filter fun name => name ≠ [] ∧ name ≠ ['.']

/-- The components of a path. Two paths are taken for the same if theirs are. -/
def components (path : String) : List Component :=
  (if path.toList.head? = some '/' then [.root]
    else if (path.toList.splitOn '/').head? = some ['.'] then [.here]
    else []) ++ (names path.toList).map .name

section

variable {documents : String} {domain : Domain} {format : Format} {stamp : String}

theorem names_slash (front back : List Char) :
    names (front ++ '/' :: back) = names front ++ names back := by
  rw [names, List.splitOn_append_cons_self, List.filter_append]
  rfl

theorem names_single {name : List Char} (whole : '/' ∉ name) (given : name ≠ [])
    (moves : name ≠ ['.']) : names name = [name] := by
  rw [names, List.splitOn_eq_singleton whole]
  simp [given, moves]

/-- What stands before a name in a joined path. -/
def above (directory : List Char) : List Char :=
  match directory.getLast? with
  | none => []
  | some '/' => directory
  | some _ => directory ++ ['/']

theorem join_toList {directory name : String} (relative : name.toList.head? ≠ some '/') :
    (join directory name).toList = above directory.toList ++ name.toList := by
  unfold join above
  rw [if_neg relative]
  cases last : directory.toList.getLast? with
  | none => rfl
  | some letter =>
    by_cases slash : letter = '/'
    · subst slash
      exact String.toList_append
    · simp only [String.toList_append]
      rfl

theorem above_of_name {name : List Char} (front : List Char) (whole : '/' ∉ name)
    (given : name ≠ []) : above (front ++ name) = front ++ name ++ ['/'] := by
  have last : (front ++ name).getLast? = some (name.getLast given) := by
    rw [List.getLast?_append, List.getLast?_eq_some_getLast given, Option.some_or]
  have letter : name.getLast given ≠ '/' := fun slash =>
    whole (slash ▸ List.getLast_mem given)
  simp only [above, last]

theorem names_above (directory rest : List Char) :
    names (above directory ++ rest) = names (above directory) ++ names rest := by
  have nothing : names [] = [] := rfl
  cases last : directory.getLast? with
  | none => simp [above, last, nothing]
  | some letter =>
    obtain ⟨front, ends⟩ : ∃ front, above directory = front ++ ['/'] := by
      unfold above
      rw [last]
      split
      next none => cases none
      next slash =>
        obtain rfl := Option.some.inj slash
        exact List.getLast?_eq_some_iff.1 last
      next => exact ⟨directory, rfl⟩
    rw [ends, List.append_assoc, List.singleton_append, names_slash, names_slash, nothing,
      List.append_nil]

/-! ### The path of an export -/

theorem fileName_toList (domain : Domain) (format : Format) (stamp : String) :
    (fileName domain format stamp).toList =
      domain.fileStem.toList ++ ("_selected_".toList ++
        (stamp.toList ++ '.' :: format.fileExtension.toList)) := by
  change (domain.fileStem ++ "_selected_" ++ stamp ++ "." ++ format.fileExtension).toList = _
  simp only [String.toList_append, List.append_assoc]
  rfl

theorem directoryName_plain (domain : Domain) :
    '/' ∉ domain.directoryName.toList ∧ domain.directoryName.toList ≠ [] ∧
      domain.directoryName.toList ≠ ['.'] := by
  cases domain <;> decide

theorem fileName_plain (domain : Domain) (format : Format) (time : UnixTime) :
    '/' ∉ (fileName domain format time.stamp).toList ∧
      (fileName domain format time.stamp).toList ≠ [] ∧
      (fileName domain format time.stamp).toList ≠ ['.'] := by
  have stem : '/' ∉ domain.fileStem.toList := by cases domain <;> decide
  have ending : '/' ∉ format.fileExtension.toList := by
    cases format <;> simp [Format.fileExtension]
  have stamp : '/' ∉ time.stamp.toList := by
    rw [UnixTime.stamp, String.toList_ofList]
    exact Numeric.not_mem_intText (by decide) (by decide) time.second
  have long : 1 < (fileName domain format time.stamp).toList.length := by
    rw [fileName_toList, List.length_append, List.length_append]
    have some : 1 < "_selected_".toList.length := by decide
    omega
  refine ⟨?_, ?_, ?_⟩
  · rw [fileName_toList]
    simp [stem, stamp, ending]
  · intro nothing
    rw [nothing] at long
    cases long
  · intro dot
    rw [dot] at long
    exact absurd long (by decide)

theorem fileAt_toList (documents : String) (domain : Domain) (format : Format) (time : UnixTime) :
    (fileAt documents domain format time).toList =
      above documents.toList ++
        (domain.directoryName.toList ++ '/' :: (fileName domain format time.stamp).toList) := by
  obtain ⟨whole, given, _⟩ := directoryName_plain domain
  obtain ⟨wholeFile, _⟩ := fileName_plain domain format time
  have relative : ∀ name : String, '/' ∉ name.toList → name.toList.head? ≠ some '/' :=
    fun name plain first => plain (List.mem_of_mem_head? first)
  rw [fileAt, file, join_toList (relative _ wholeFile), directory, join_toList (relative _ whole),
    above_of_name _ whole given]
  simp

/-- The last two components are the directory of the domain and the file in it. -/
theorem components_fileAt (documents : String) (domain : Domain) (format : Format)
    (time : UnixTime) :
    ∃ front, components (fileAt documents domain format time) =
      front ++ [.name domain.directoryName.toList,
        .name (fileName domain format time.stamp).toList] := by
  obtain ⟨whole, given, moves⟩ := directoryName_plain domain
  obtain ⟨wholeFile, givenFile, movesFile⟩ := fileName_plain domain format time
  have named : names (fileAt documents domain format time).toList =
      names (above documents.toList) ++ [domain.directoryName.toList,
        (fileName domain format time.stamp).toList] := by
    rw [fileAt_toList, names_above, names_slash, names_single whole given moves,
      names_single wholeFile givenFile movesFile]
    rfl
  rw [components, named, List.map_append, ← List.append_assoc]
  exact ⟨_, rfl⟩

/-- The number in a file's name ends at the point before the ending. -/
theorem kind_and_second_of_fileName {domain : Domain} {format other : Format}
    {time moment : UnixTime}
    (same : (fileName domain format time.stamp).toList =
      (fileName domain other moment.stamp).toList) :
    format.kind = other.kind ∧ time.second = moment.second := by
  have pointless : ∀ time : UnixTime, '.' ∉ time.stamp.toList := by
    intro time
    rw [UnixTime.stamp, String.toList_ofList]
    exact Numeric.not_mem_intText (by decide) (by decide) time.second
  rw [fileName_toList, fileName_toList] at same
  have rest := List.append_cancel_left (List.append_cancel_left same)
  have parts := congrArg (List.splitOn '.') rest
  rw [List.splitOn_append_cons_self_of_not_mem (pointless time),
    List.splitOn_append_cons_self_of_not_mem (pointless moment)] at parts
  have stamp := (List.cons.inj parts).1
  rw [stamp] at rest
  have ending := (List.cons.inj (List.append_cancel_left rest)).2
  exact ⟨Format.fileExtension_eq_iff.1 (String.toList_inj.1 ending),
    UnixTime.stamp_eq_iff.1 (String.toList_inj.1 stamp)⟩

theorem fileAt_congr {documents : String} {domain : Domain} {format other : Format}
    {time moment : UnixTime} (kind : format.kind = other.kind)
    (second : time.second = moment.second) :
    fileAt documents domain format time = fileAt documents domain other moment := by
  have ending := Format.fileExtension_eq_iff.2 kind
  have stamp := UnixTime.stamp_eq_iff.2 second
  rw [fileAt, fileAt, stamp, file, file, fileName, fileName, ending]

theorem parts_of_components {documents : String} {first second : Domain} {format other : Format}
    {time moment : UnixTime}
    (same : components (fileAt documents first format time) =
      components (fileAt documents second other moment)) :
    first = second ∧ format.kind = other.kind ∧ time.second = moment.second := by
  obtain ⟨front, path⟩ := components_fileAt documents first format time
  obtain ⟨frontToo, pathToo⟩ := components_fileAt documents second other moment
  rw [path, pathToo] at same
  have last := (List.append_inj' same rfl).2
  simp only [List.cons.injEq, Component.name.injEq, and_true] at last
  obtain ⟨directory, file⟩ := last
  obtain rfl := Domain.directoryName_injective (String.toList_inj.1 directory)
  exact ⟨rfl, kind_and_second_of_fileName file⟩

end

/-- The paths of two exports below one documents directory are the same, letter by letter or
component by component, exactly if the exports are of one domain, of formats of one kind and in one
second. Outside leap seconds that is the second that is left when their time since the epoch is
rounded down, before the epoch as after it. -/
theorem fileAt_eq_iff (documents : String) (first second : Domain) (format other : Format)
    (time moment : UnixTime) :
    let path := fileAt documents first format time
    let otherPath := fileAt documents second other moment
    let alike := first = second ∧ format.kind = other.kind ∧ time.second = moment.second
    (path = otherPath ↔ alike) ∧ (components path = components otherPath ↔ alike) ∧
      (time.nanosecond < 1000000000 → moment.nanosecond < 1000000000 →
        (time.second = moment.second ↔
          time.sinceEpoch / 1000000000 = moment.sinceEpoch / 1000000000)) := by
  intro path otherPath alike
  have apart : components path = components otherPath → alike := parts_of_components
  have together : alike → path = otherPath := by
    rintro ⟨rfl, kind, second⟩
    exact fileAt_congr kind second
  refine ⟨⟨fun same => apart (congrArg components same), together⟩,
    ⟨apart, fun same => congrArg components (together same)⟩, fun plain plainToo => ?_⟩
  rw [UnixTime.second_eq plain, UnixTime.second_eq plainToo]

/-- One nanosecond before the epoch and one second before it are in one second, and formats with
other options are of one kind. The epoch itself is in the next second. -/
theorem fileAt_eq_before_epoch :
    let plain : Format := .csv .default
    let packed : Format := .csv { CsvOptions.default with compress := true }
    let last : UnixTime := ⟨-1, 999999999⟩
    let first : UnixTime := ⟨-1, 0⟩
    fileAt "/docs" .projects plain last = fileAt "/docs" .projects packed first ∧
      fileAt "/docs" .projects plain last ≠ fileAt "/docs" .projects plain ⟨0, 0⟩ ∧
      last.sinceEpoch / 1000000000 = first.sinceEpoch / 1000000000 := by
  intro plain packed last first
  have before := fileAt_eq_iff "/docs" .projects .projects plain packed last first
  have after := fileAt_eq_iff "/docs" .projects .projects plain plain last ⟨0, 0⟩
  refine ⟨before.1.2 ⟨rfl, rfl, rfl⟩, fun same => ?_, ?_⟩
  · exact absurd (after.1.1 same).2.2 (by decide)
  · exact (before.2.2 (by decide) (by decide)).1 rfl

end Path
end Export
end BackgroundWork
