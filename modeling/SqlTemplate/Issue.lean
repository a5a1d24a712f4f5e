import SqlTemplate.Argument

/-!
# Issues

Records that come from outside are checked field by field. A check does not stop at the first fault:
it collects an issue for each, with the place where it lies, so that all can be mended at once.
-/

namespace SqlTemplate

/-- What is wrong with a part of a record. -/
inductive IssueKind
  | notRecord
  /-- It holds a record, but is none. -/
  | notPlainRecord
  | tagMissing
  | tagUnknown
  | fieldMissing
  | fieldUnknown
  | keyNotText
  | notInt
  | notFloat
  | notBool
  | unreadableBool
  | notText
  | notTuple
  | tooLong
  /-- There are too many records around it. -/
  | tooDeep
  | notLiteral
  | frozen
  deriving DecidableEq, Repr

/-- The code by which a program tells kinds of issues apart. -/
def IssueKind.code : IssueKind → String
  | notRecord => "model_attributes_type"
  | notPlainRecord => "model_type"
  | tagMissing => "union_tag_not_found"
  | tagUnknown => "union_tag_invalid"
  | fieldMissing => "missing"
  | fieldUnknown => "extra_forbidden"
  | keyNotText => "invalid_key"
  | notInt => "int_type"
  | notFloat => "float_type"
  | notBool => "bool_type"
  | unreadableBool => "bool_parsing"
  | notText => "string_type"
  | notTuple => "tuple_type"
  | tooLong => "too_long"
  | tooDeep => "recursion_loop"
  | notLiteral => "literal_error"
  | frozen => "frozen_instance"

/-- Something wrong with a record, and the steps from the record to the part where it lies. -/
structure Issue where
  kind : IssueKind
  place : List Text
  deriving DecidableEq, Repr

/-- A result, or all that is wrong with the record it should come from. -/
abbrev Checked (α : Type) := Except (List Issue) α

namespace Checked

variable {α β : Type}

/-- A check that fails for one thing, at the place where it looks. -/
def issue (kind : IssueKind) : Checked α :=
  .error [⟨kind, []⟩]

/-- What is found wrong with a part of a record is wrong with the record, one step further away. -/
def under (step : Text) (part : Checked α) : Checked α :=
  part.mapError (List.map fun found => { found with place := step :: found.place })

def issues : Checked α → List Issue
  | .ok _ => []
  | .error issues => issues

/-- Both checks are made, and what they find is put together. -/
def both (first : Checked α) (second : Checked β) : Checked (α × β) :=
  match first, second with
  | .ok a, .ok b => .ok (a, b)
  | _, _ => .error (first.issues ++ second.issues)

/-- A check with something found beside it. -/
def adding (check : Checked α) (found : List Issue) : Checked α :=
  if found = [] then check else .error (check.issues ++ found)

theorem map_eq_ok_iff {f : α → β} {part : Checked α} {b : β} :
    f <$> part = .ok b ↔ ∃ a, part = .ok a ∧ f a = b := by
  cases part with
  | ok a =>
    exact ⟨fun h => ⟨a, rfl, Except.ok.inj h⟩, fun ⟨_, ha, hb⟩ => by cases ha; rw [← hb]; rfl⟩
  | error found => exact ⟨fun h => (nomatch h), fun ⟨_, ha, _⟩ => (nomatch ha)⟩

/-- The place of a part does not change what it is read as. -/
@[simp]
theorem under_eq_ok_iff {step : Text} {part : Checked α} {a : α} :
    part.under step = .ok a ↔ part = .ok a := by
  cases part with
  | ok b => exact ⟨fun h => h, fun h => h⟩
  | error found => exact ⟨fun h => (nomatch h), fun h => (nomatch h)⟩

@[simp]
theorem both_eq_ok_iff {first : Checked α} {second : Checked β} {p : α × β} :
    first.both second = .ok p ↔ first = .ok p.1 ∧ second = .ok p.2 := by
  cases first <;> cases second <;> simp [both, Prod.ext_iff]

@[simp]
theorem adding_eq_ok_iff {check : Checked α} {found : List Issue} {a : α} :
    check.adding found = .ok a ↔ check = .ok a ∧ found = [] := by
  unfold adding
  split <;> simp [*]

/-! The issues of a check are those of its parts, in their order. -/

@[simp]
theorem issues_map (f : α → β) (part : Checked α) : (f <$> part).issues = part.issues := by
  cases part <;> rfl

@[simp]
theorem issues_under (step : Text) (part : Checked α) :
    (part.under step).issues =
      part.issues.map fun found => { found with place := step :: found.place } := by
  cases part <;> rfl

@[simp]
theorem issues_both (first : Checked α) (second : Checked β) :
    (first.both second).issues = first.issues ++ second.issues := by
  cases first <;> cases second <;> rfl

@[simp]
theorem issues_adding (check : Checked α) (found : List Issue) :
    (check.adding found).issues = check.issues ++ found := by
  unfold adding
  split
  next h => rw [h, List.append_nil]
  next => rfl

/-- A check that fails finds something wrong. -/
def Explains (check : Checked α) : Prop :=
  check ≠ .error []

theorem explains_issue (kind : IssueKind) : (issue kind : Checked α).Explains := by
  simp [Explains, issue]

/-- A check that explains its failures and has none to explain succeeds. -/
theorem Explains.eq_ok {check : Checked α} (h : check.Explains) (hissues : check.issues = []) :
    ∃ a, check = .ok a := by
  cases check with
  | ok a => exact ⟨a, rfl⟩
  | error found => exact absurd (congrArg Except.error hissues) h

theorem Explains.under {step : Text} {part : Checked α} (h : part.Explains) :
    (part.under step).Explains := by
  cases part with
  | ok a => exact fun hnil => nomatch hnil
  | error found =>
    intro hnil
    exact h (congrArg Except.error (List.map_eq_nil_iff.mp (Except.error.inj hnil)))

end Checked

end SqlTemplate
