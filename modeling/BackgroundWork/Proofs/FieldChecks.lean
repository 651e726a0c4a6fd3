import BackgroundWork.Proofs.DocumentGate

set_option autoImplicit false

/-!
Checks on a field, one after the other. A check leaves the field and the faults before it as they
are, and adds at most the one fault that is its own. Main statement: the field passes exactly if it
satisfies every check, and the verdict on any other is the fault of the first check that it does
not satisfy.
-/

namespace BackgroundWork

/-! ### One check -/

namespace Check

/-- What a check demands of a field. -/
def Holds (value : Option String) : Check → Prop
  | .required => ∃ text, value = some text ∧ Text.trim text.toList ≠ []
  | .maxLength max => ∀ text, value = some text → text.toList.length ≤ max
  | .noControlCharacters =>
    ∀ text, value = some text → ∀ c ∈ text.toList, Text.isControl c = false

/-- The fault of a field that does not satisfy a check. -/
def fault (field : String) : Check → ValidationError
  | .required => .required field
  | .maxLength max => .maxLength field max
  | .noControlCharacters => .invalidValue field "must not contain control characters"

section

variable {field text : String} {value : Option String} {max : Nat}

theorem required_holds_iff : required.Holds (some text) ↔ Text.allBlank text = false := by
  have blank : Text.allBlank text = true ↔ Text.trim text.toList = [] :=
    (Text.trim_eq_nil_iff text.toList).symm
  simp [Holds, ← blank]

theorem maxLength_holds_iff : (maxLength max).Holds (some text) ↔ text.toList.length ≤ max := by
  simp [Holds]

theorem noControlCharacters_holds_iff :
    noControlCharacters.Holds (some text) ↔ text.toList.any Text.isControl = false := by
  simp [Holds]

/-- Only `required` minds a field that is not given. -/
theorem holds_none_iff {check : Check} : check.Holds none ↔ check ≠ .required := by
  cases check <;> simp [Holds]

theorem fault?_of_holds {check : Check} (holds : check.Holds value) :
    check.fault? field value = none := by
  cases value with
  | none => cases check <;> simp_all [holds_none_iff, fault?]
  | some text =>
    cases check with
    | required => rw [fault?, required_holds_iff.1 holds, if_neg Bool.false_ne_true]
    | maxLength max => rw [fault?, if_neg (Nat.not_lt.2 (maxLength_holds_iff.1 holds))]
    | noControlCharacters =>
      rw [fault?, noControlCharacters_holds_iff.1 holds, if_neg Bool.false_ne_true]

theorem fault?_of_not_holds {check : Check} (fails : ¬check.Holds value) :
    check.fault? field value = some (check.fault field) := by
  cases value with
  | none => cases check <;> simp_all [holds_none_iff, fault?, fault]
  | some text =>
    cases check with
    | required =>
      have blank : Text.allBlank text = true := by simpa [required_holds_iff] using fails
      rw [fault?, if_pos blank]
      rfl
    | maxLength max =>
      have exceeds : max < text.toList.length := by simpa [maxLength_holds_iff] using fails
      rw [fault?, if_pos exceeds]
      rfl
    | noControlCharacters =>
      have unseen : text.toList.any Text.isControl = true := by
        simpa only [noControlCharacters_holds_iff, Bool.not_eq_false] using fails
      rw [fault?, if_pos unseen]
      rfl

theorem fault?_eq_none_iff {check : Check} :
    check.fault? field value = none ↔ check.Holds value := by
  refine ⟨fun silent => ?_, fault?_of_holds⟩
  by_contra fails
  rw [fault?_of_not_holds fails] at silent
  cases silent

theorem fault?_eq_some_iff {check : Check} {error : ValidationError} :
    check.fault? field value = some error ↔ ¬check.Holds value ∧ error = check.fault field := by
  by_cases holds : check.Holds value
  · simp [fault?_of_holds holds, holds]
  · simp [fault?_of_not_holds holds, holds, eq_comm]

end

end Check

/-! ### Check after check -/

namespace Form

section

variable {form : Form} {error : ValidationError}

theorem apply_field (form : Form) (check : Check) : (form.apply check).field = form.field := rfl

theorem apply_value (form : Form) (check : Check) : (form.apply check).value = form.value := rfl

theorem apply_faults (form : Form) (check : Check) :
    (form.apply check).faults = form.faults ++ (check.fault? form.field form.value).toList := rfl

theorem applyAll_cons (form : Form) (check : Check) (checks : List Check) :
    form.applyAll (check :: checks) = (form.apply check).applyAll checks := rfl

/-- The faults of a form are those that it had and then those of the checks, in order. -/
theorem applyAll_faults (form : Form) (checks : List Check) :
    (form.applyAll checks).faults =
      form.faults ++ checks.filterMap fun check => check.fault? form.field form.value := by
  induction checks generalizing form with
  | nil => exact (List.append_nil _).symm
  | cons check checks ih =>
    have later := ih (form.apply check)
    rw [apply_field, apply_value, apply_faults] at later
    rw [applyAll_cons, later, List.append_assoc, List.filterMap_cons]
    cases check.fault? form.field form.value with
    | none => rfl
    | some fault => rfl

theorem validate_eq_ok_iff : form.validate = .ok () ↔ form.faults = [] := by
  unfold validate
  cases form.faults with
  | nil => simp
  | cons fault faults => simp

theorem validate_eq_error_iff : form.validate = .error error ↔ form.faults.head? = some error := by
  unfold validate
  cases form.faults with
  | nil => simp
  | cons fault faults => simp

end

/-- A field passes checks exactly if it satisfies them all. The verdict on one that does not is the
fault of the first check that it does not satisfy, whatever comes behind. -/
theorem validate_reports_first (field : String) (value : Option String) (checks : List Check) :
    let verdict := ((new field value).applyAll checks).validate
    (verdict = .ok () ↔ ∀ check ∈ checks, check.Holds value) ∧
      ∀ error, verdict = .error error ↔
        ∃ before check behind, checks = before ++ check :: behind ∧
          (∀ earlier ∈ before, earlier.Holds value) ∧ ¬check.Holds value ∧
          error = check.fault field := by
  intro verdict
  have faults : ((new field value).applyAll checks).faults =
      checks.filterMap fun check => check.fault? field value :=
    applyAll_faults (new field value) checks
  constructor
  · rw [validate_eq_ok_iff, faults, List.filterMap_eq_nil_iff]
    simp only [Check.fault?_eq_none_iff]
  · intro error
    rw [validate_eq_error_iff, faults, List.head?_filterMap, List.findSome?_eq_some_iff]
    simp only [Check.fault?_eq_none_iff, Check.fault?_eq_some_iff]
    constructor
    · rintro ⟨before, check, behind, split, ⟨fails, same⟩, held⟩
      exact ⟨before, check, behind, split, held, fails, same⟩
    · rintro ⟨before, check, behind, split, held, fails, same⟩
      exact ⟨before, check, behind, split, ⟨fails, same⟩, held⟩

end Form
end BackgroundWork
