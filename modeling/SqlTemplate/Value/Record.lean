import SqlTemplate.Argument.Shown
import SqlTemplate.Issue

/-!
# Fields of records

A record is a mapping whose keys are the names of its fields. Where entries have the same name, the
first of them is the field. A record can be read closely: then an entry that is under none of the
expected names is an issue, and so is one whose key is no text.
-/

namespace SqlTemplate.Tagged

/-- The name of the field that holds the tag of a record. -/
def kindField : Text := "kind".toList

/-- The name of the field that holds the content of a scalar. -/
def valueField : Text := "value".toList

/-- The name of the field that holds the content of a list or mapping. -/
def itemsField : Text := "items".toList

theorem valueField_ne : valueField ≠ kindField := by
  decide

theorem itemsField_ne : itemsField ≠ kindField := by
  decide

/-- What a record has under a name. -/
def field? (name : Text) : List (Argument × Argument) → Option Argument
  | [] => none
  | (.text _ key, item) :: entries => if key = name then some item else field? name entries
  | _ :: entries => field? name entries

/-- An issue for each entry of a record that is not under one of the names. -/
def unknownFields (names : List Text) : List (Argument × Argument) → List Issue
  | [] => []
  | (.text _ key, _) :: entries =>
    if names.contains key then unknownFields names entries
    else ⟨.fieldUnknown, [key]⟩ :: unknownFields names entries
  | (key, _) :: entries => ⟨.keyNotText, [key.step]⟩ :: unknownFields names entries

/-! ## Fields as a relation -/

/-- The entry is under the name: its key is this text. -/
def IsNamed (name : Text) (entry : Argument × Argument) : Prop :=
  ∃ member, entry.1 = .text member name

/-- What a record has under a name: the item of its first entry that is under it. -/
inductive Field (name : Text) (item : Argument) : List (Argument × Argument) → Prop
  | here (member : Option Member) (entries : List (Argument × Argument)) :
    Field name item ((.text member name, item) :: entries)
  | there {entry : Argument × Argument} {entries : List (Argument × Argument)}
    (hentry : ¬IsNamed name entry) (h : Field name item entries) :
    Field name item (entry :: entries)

/-- There is no entry but under these names. -/
def OnlyNamed (names : List Text) (entries : List (Argument × Argument)) : Prop :=
  ∀ entry ∈ entries, ∃ name ∈ names, IsNamed name entry

section Fields

variable {name : Text} {item : Argument} {entries : List (Argument × Argument)}

/-- An entry is under one name at most. -/
theorem IsNamed.unique {other : Text} {entry : Argument × Argument} (h : IsNamed name entry)
    (hother : IsNamed other entry) : name = other := by
  obtain ⟨member, hkey⟩ := h
  obtain ⟨_, hkey'⟩ := hother
  rw [hkey] at hkey'
  cases hkey'
  rfl

theorem field?_cons_of_isNamed {key : Argument} (h : IsNamed name (key, item)) :
    field? name ((key, item) :: entries) = some item := by
  obtain ⟨member, rfl⟩ := h
  rw [field?, if_pos rfl]

theorem field?_cons_of_not_isNamed {entry : Argument × Argument} (h : ¬IsNamed name entry) :
    field? name (entry :: entries) = field? name entries := by
  obtain ⟨key, item⟩ := entry
  cases key with
  | text member key =>
    have hne : key ≠ name := fun heq => h ⟨member, by rw [heq]⟩
    rw [field?, if_neg hne]
  | _ => rfl

theorem field?_eq_some_iff : field? name entries = some item ↔ Field name item entries := by
  constructor
  · intro h
    induction entries with
    | nil => cases h
    | cons entry entries ih =>
      by_cases hentry : IsNamed name entry
      · rw [field?_cons_of_isNamed hentry] at h
        obtain ⟨key, other⟩ := entry
        obtain ⟨member, rfl⟩ := hentry
        cases h
        exact .here ..
      · rw [field?_cons_of_not_isNamed hentry] at h
        exact .there hentry (ih h)
  · intro h
    induction h with
    | here member entries => exact field?_cons_of_isNamed ⟨member, rfl⟩
    | there hentry _ ih => rw [field?_cons_of_not_isNamed hentry, ih]

/-- A record has one field of a name at most. -/
theorem Field.unique {other : Argument} (h : Field name item entries)
    (hother : Field name other entries) : item = other := by
  rw [← field?_eq_some_iff] at h hother
  exact Option.some.inj (h.symm.trans hother)

theorem field?_eq_none_iff :
    field? name entries = none ↔ ∀ entry ∈ entries, ¬IsNamed name entry := by
  induction entries with
  | nil => simp [field?]
  | cons entry entries ih =>
    rw [List.forall_mem_cons, ← ih]
    by_cases hentry : IsNamed name entry
    · rw [field?_cons_of_isNamed hentry]
      exact iff_of_false (nomatch ·) fun h => h.1 hentry
    · rw [field?_cons_of_not_isNamed hentry]
      exact (and_iff_right hentry).symm

/-- Nothing is found wrong with the names of a record exactly if they are all among the expected
ones. -/
theorem unknownFields_eq_nil_iff {names : List Text} :
    unknownFields names entries = [] ↔ OnlyNamed names entries := by
  unfold OnlyNamed
  induction entries with
  | nil => simp [unknownFields]
  | cons entry entries ih =>
    obtain ⟨key, item⟩ := entry
    rw [List.forall_mem_cons, ← ih]
    cases key with
    | text member key =>
      by_cases hknown : key ∈ names <;> simp [unknownFields, IsNamed, hknown]
    | _ => simp [unknownFields, IsNamed]

end Fields

end SqlTemplate.Tagged
