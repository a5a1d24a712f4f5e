import Mathlib.Data.List.Basic
import SqlTemplate.Argument.Shown

/-!
# What cannot be shown

An argument is shown to a person unless it holds a whole number with too many digits, however deep
inside it the number stands (`Argument.shown?_eq_none_iff`). Members of an enumeration are shown by
name, so the number of a member does not count.

Both theorems go down with the printing: into the items of a list or mapping, and into the keys of a
mapping that is no value yet.
-/

namespace SqlTemplate

namespace SqlValue

/-- The whole number is among what the value is made of. -/
inductive Holds (n : Int) : SqlValue → Prop
  | int : Holds n (.int n)
  | item {items : List SqlValue} {item : SqlValue} (hmem : item ∈ items) (h : Holds n item) :
    Holds n (.list items)
  | entry {entries : List (Text × SqlValue)} {entry : Text × SqlValue} (hmem : entry ∈ entries)
    (h : Holds n entry.2) : Holds n (.mapping entries)

/-- There is a whole number in the value that may not be written. -/
def HoldsUnwritable (value : SqlValue) : Prop :=
  ∃ n, value.Holds n ∧ isWritable n = false

end SqlValue

theorem Text.ofInt?_eq_none_iff {n : Int} : Text.ofInt? n = none ↔ isWritable n = false := by
  simp [Text.ofInt?]

namespace SqlValue

mutual

/-- A value cannot be shown exactly if it holds a number that cannot be written. -/
theorem shown?_eq_none_iff : ∀ value : SqlValue, value.shown? = none ↔ value.HoldsUnwritable
  | .null | .bool _ | .float _ | .text _ =>
    -- no whole number is written out in these
    iff_of_false (by simp [shown?]) (by rintro ⟨n, h, -⟩; cases h)
  | .int n => by
    rw [shown?, Option.map_eq_none_iff, Text.ofInt?_eq_none_iff]
    exact ⟨fun h => ⟨n, .int, h⟩, by rintro ⟨_, h, hn⟩; cases h; exact hn⟩
  | .list items => by
    rw [shown?, Option.map_eq_none_iff, shownItems?_eq_none_iff items]
    constructor
    · rintro ⟨item, hmem, n, h, hn⟩
      exact ⟨n, .item hmem h, hn⟩
    · rintro ⟨n, h, hn⟩
      cases h with
      | item hmem h => exact ⟨_, hmem, n, h, hn⟩
  | .mapping entries => by
    rw [shown?, Option.map_eq_none_iff, shownEntries?_eq_none_iff entries]
    constructor
    · rintro ⟨entry, hmem, n, h, hn⟩
      exact ⟨n, .entry hmem h, hn⟩
    · rintro ⟨n, h, hn⟩
      cases h with
      | entry hmem h => exact ⟨_, hmem, n, h, hn⟩

theorem shownItems?_eq_none_iff : ∀ items : List SqlValue,
    shownItems? items = none ↔ ∃ item ∈ items, item.HoldsUnwritable
  | [] => by simp [shownItems?]
  | item :: items => by
    rw [List.exists_mem_cons_iff, ← shown?_eq_none_iff item, ← shownItems?_eq_none_iff items]
    cases hitem : shown? item <;> simp [shownItems?, hitem]

theorem shownEntries?_eq_none_iff : ∀ entries : List (Text × SqlValue),
    shownEntries? entries = none ↔ ∃ entry ∈ entries, entry.2.HoldsUnwritable
  | [] => by simp [shownEntries?]
  | (key, item) :: entries => by
    rw [List.exists_mem_cons_iff, ← shown?_eq_none_iff item, ← shownEntries?_eq_none_iff entries]
    cases hitem : shown? item <;> simp [shownEntries?, hitem]

end

end SqlValue

namespace Argument

/-- The whole number is written out where the argument is shown. -/
inductive Holds (n : Int) : Argument → Prop
  | int : Holds n (.int none n)
  | numerator {q : Rat} (h : q.num = n) : Holds n (.fraction q)
  | denominator {q : Rat} (h : q.den = n) : Holds n (.fraction q)
  | classified {value : SqlValue} (h : value.Holds n) : Holds n (.classified value)
  | item {kind : String} {items : List Argument} {item : Argument} (hmem : item ∈ items)
    (h : Holds n item) : Holds n (.sequence kind items)
  | key {kind : String} {entries : List (Argument × Argument)} {entry : Argument × Argument}
    (hmem : entry ∈ entries) (h : Holds n entry.1) : Holds n (.mapping kind entries)
  | entry {kind : String} {entries : List (Argument × Argument)} {entry : Argument × Argument}
    (hmem : entry ∈ entries) (h : Holds n entry.2) : Holds n (.mapping kind entries)

/-- There is a whole number to be shown that may not be written. -/
def HoldsUnwritable (argument : Argument) : Prop :=
  ∃ n, argument.Holds n ∧ isWritable n = false

mutual

/-- **What cannot be shown.** -/
theorem shown?_eq_none_iff : ∀ argument : Argument,
    argument.shown? = none ↔ argument.HoldsUnwritable
  | .null | .skip | .bool _ | .int (some _) _ | .float (some _) _ | .float none _
  | .text (some _) _ | .text none _ | .decimal _ | .complex .. | .bytes .. | .other .. =>
    -- members of enumerations are shown by their names, and decimals digit by digit
    iff_of_false (by rw [shown?]; exact Option.some_ne_none _) (by rintro ⟨n, h, -⟩; cases h)
  | .int none n => by
    rw [shown?, Text.ofInt?_eq_none_iff]
    exact ⟨fun h => ⟨n, .int, h⟩, by rintro ⟨_, h, hn⟩; cases h; exact hn⟩
  | .fraction q => by
    -- a fraction writes out two numbers, and either may be too long
    have hshown : shown? (.fraction q) = none ↔
        isWritable q.num = false ∨ isWritable q.den = false := by
      rw [shown?]
      cases hnum : isWritable q.num <;> cases hden : isWritable q.den <;>
        simp [Text.ofInt?, hnum, hden]
    rw [hshown]
    constructor
    · rintro (h | h)
      · exact ⟨_, .numerator rfl, h⟩
      · exact ⟨_, .denominator rfl, h⟩
    · rintro ⟨n, h, hn⟩
      cases h with
      | numerator h => exact .inl (h ▸ hn)
      | denominator h => exact .inr (h ▸ hn)
  | .classified value => by
    rw [shown?, SqlValue.shown?_eq_none_iff]
    constructor
    · rintro ⟨n, h, hn⟩
      exact ⟨n, .classified h, hn⟩
    · rintro ⟨n, h, hn⟩
      cases h with
      | classified h => exact ⟨n, h, hn⟩
  | .sequence kind items => by
    rw [shown?, Option.map_eq_none_iff, shownItems?_eq_none_iff items]
    constructor
    · rintro ⟨item, hmem, n, h, hn⟩
      exact ⟨n, .item hmem h, hn⟩
    · rintro ⟨n, h, hn⟩
      cases h with
      | item hmem h => exact ⟨_, hmem, n, h, hn⟩
  | .mapping kind entries => by
    rw [shown?, Option.map_eq_none_iff, shownEntries?_eq_none_iff entries]
    constructor
    -- keys are shown too, so they may hold the number
    · rintro ⟨entry, hmem, ⟨n, h, hn⟩ | ⟨n, h, hn⟩⟩
      · exact ⟨n, .key hmem h, hn⟩
      · exact ⟨n, .entry hmem h, hn⟩
    · rintro ⟨n, h, hn⟩
      cases h with
      | key hmem h => exact ⟨_, hmem, .inl ⟨n, h, hn⟩⟩
      | entry hmem h => exact ⟨_, hmem, .inr ⟨n, h, hn⟩⟩

/-- The items of a sequence are shown unless one of them cannot be. -/
theorem shownItems?_eq_none_iff : ∀ items : List Argument,
    shownItems? items = none ↔ ∃ item ∈ items, item.HoldsUnwritable
  | [] => by simp [shownItems?]
  | item :: items => by
    rw [List.exists_mem_cons_iff, ← shown?_eq_none_iff item, ← shownItems?_eq_none_iff items]
    cases hitem : shown? item <;> simp [shownItems?, hitem]

theorem shownEntries?_eq_none_iff : ∀ entries : List (Argument × Argument),
    shownEntries? entries = none ↔
      ∃ entry ∈ entries, entry.1.HoldsUnwritable ∨ entry.2.HoldsUnwritable
  | [] => by simp [shownEntries?]
  | (key, item) :: entries => by
    rw [List.exists_mem_cons_iff, ← shown?_eq_none_iff key, ← shown?_eq_none_iff item,
      ← shownEntries?_eq_none_iff entries]
    cases hkey : shown? key <;> cases hitem : shown? item <;> simp [shownEntries?, hkey, hitem]

end

end Argument

end SqlTemplate
