import Mathlib.Data.List.TakeWhile
import SqlTemplate.Proofs.Walk

/-!
# Leaves of values

The leaves of a value are what it holds besides lists and mappings, in the order in which they are
written; keys are no leaves. Writing a value hands over and fails like a walk along its leaves
(`Escaper.forget_render`), where a text is handed over and any other leaf has a literal or not. With
a routine that never fails, what is handed over are the texts in front of the first leaf without a
literal (`Escaper.calls_render`), and that leaf is what the writing fails for
(`Escaper.fault?_render`).
-/

namespace SqlTemplate

namespace SqlValue

mutual

/-- The leaves of a value, from the left to the right. -/
def leaves : SqlValue → List SqlValue
  | list items => leavesOfItems items
  | mapping entries => leavesOfEntries entries
  | null => [null]
  | bool value => [bool value]
  | int value => [int value]
  | float value => [float value]
  | text value => [text value]

def leavesOfItems : List SqlValue → List SqlValue
  | [] => []
  | item :: items => leaves item ++ leavesOfItems items

/-- The leaves of the items of a mapping, without the keys. -/
def leavesOfEntries : List (Text × SqlValue) → List SqlValue
  | [] => []
  | (_, item) :: entries => leaves item ++ leavesOfEntries entries

end

def text? : SqlValue → Option Text
  | text s => some s
  | _ => none

/-- The texts among the leaves, in order. -/
def texts (value : SqlValue) : List Text :=
  value.leaves.filterMap text?

/-- Why there is no literal for a leaf. Texts are left to the text escaper. -/
def unwritable? : SqlValue → Option Fault
  | int n => if SqlTemplate.isWritable n then none else some .tooManyDigits
  | float x =>
    if x.isFinite then none
    else some (.query (.unsupportedValue "float"
      (some s!"{String.ofList x.toText} has no SQL literal")))
  | null | bool _ | text _ | list _ | mapping _ => none

/-- The texts among the leaves in front of the first leaf without a literal. -/
def textsBeforeFault (value : SqlValue) : List Text :=
  (value.leaves.takeWhile fun leaf => leaf.unwritable?.isNone).filterMap text?

end SqlValue

namespace Escaper

variable (escaper : Escaper)

/-- What is done at a leaf. -/
def leaf : SqlValue → Traced Unit
  | .text s => (escaper.text.call s).forget
  | other => ⟨[], other.unwritable?.elim (.ok ()) .error⟩

/-- At a leaf its text is handed over, if it is one. This does not depend on what the routine
answers. -/
@[simp]
theorem calls_leaf (value : SqlValue) : (escaper.leaf value).calls = value.text?.toList := by
  cases value <;> rfl

theorem leaf_of_text?_eq_none {value : SqlValue} (h : value.text? = none) :
    escaper.leaf value = ⟨[], value.unwritable?.elim (.ok ()) .error⟩ := by
  cases value with
  | text => cases h
  | null | bool | int | float | list | mapping => rfl

/-- A text stops the writing for what the routine fails with. -/
theorem fault?_leaf_text (s : Text) :
    fault? (escaper.leaf (.text s)).result = fault? (escaper.text.escape s) :=
  fault?_map ..

theorem fault?_leaf {value : SqlValue} (h : value.text? = none) :
    fault? (escaper.leaf value).result = value.unwritable? := by
  rw [escaper.leaf_of_text?_eq_none h]
  cases value.unwritable? <;> rfl

theorem forget_textLiteral (s : Text) :
    (escaper.textLiteral s).forget = escaper.leaf (.text s) := by
  have hquote : ∀ escaped : Text,
      (pure ('\'' :: (escaped ++ ['\''])) : Traced Text).forget = pure () := fun _ => rfl
  rw [textLiteral, Traced.forget_bind hquote]
  exact bind_pure_unit

theorem forget_intLiteral (n : Int) : (intLiteral n).forget = escaper.leaf (.int n) := by
  rw [intLiteral, escaper.leaf_of_text?_eq_none rfl, SqlValue.unwritable?]
  split <;> rfl

theorem forget_floatLiteral (x : Binary64) :
    (floatLiteral x).forget = escaper.leaf (.float x) := by
  rw [floatLiteral, escaper.leaf_of_text?_eq_none rfl, SqlValue.unwritable?]
  split <;> rfl

mutual

/-- A value is written like its leaves, one after another. -/
theorem forget_render : ∀ value : SqlValue,
    (escaper.render value).forget = forM value.leaves escaper.leaf
  | .list items => by
    rw [render, Traced.forget_map, forget_renderItems items, SqlValue.leaves]
  | .mapping entries => by
    rw [render, Traced.forget_map, forget_renderEntries entries, SqlValue.leaves]
  | .text s => by
    rw [render, forget_textLiteral, SqlValue.leaves, Traced.forM_singleton]
  | .int n => by
    rw [render, escaper.forget_intLiteral, SqlValue.leaves, Traced.forM_singleton]
  | .float x => by
    rw [render, escaper.forget_floatLiteral, SqlValue.leaves, Traced.forM_singleton]
  | .null | .bool _ => by
    rw [render, SqlValue.leaves, Traced.forM_singleton]
    rfl

theorem forget_renderItems : ∀ items : List SqlValue,
    (escaper.renderItems items).forget = forM (SqlValue.leavesOfItems items) escaper.leaf
  | [] => rfl
  | item :: items => by
    -- what the item was written as does not matter to what the others hand over
    have hrest : ∀ written : Text, ((written :: ·) <$> escaper.renderItems items).forget =
        forM (SqlValue.leavesOfItems items) escaper.leaf := by
      intro written
      rw [Traced.forget_map, forget_renderItems items]
    rw [renderItems, Traced.forget_bind hrest, forget_render item, SqlValue.leavesOfItems,
      List.forM_append]

/-- Keys are quoted without a routine, so they leave no trace. -/
theorem forget_renderEntries : ∀ entries : List (Text × SqlValue),
    (escaper.renderEntries entries).forget = forM (SqlValue.leavesOfEntries entries) escaper.leaf
  | [] => rfl
  | (key, item) :: entries => by
    have hrest : ∀ written : Text,
        (((escaper.dialect.quoteIdentifier key ++ [' ', '=', ' '] ++ written) :: ·) <$>
          escaper.renderEntries entries).forget =
        forM (SqlValue.leavesOfEntries entries) escaper.leaf := by
      intro written
      rw [Traced.forget_map, forget_renderEntries entries]
    rw [renderEntries, Traced.forget_bind hrest, forget_render item, SqlValue.leavesOfEntries,
      List.forM_append]

end

/-! ## Routines that do not fail -/

/-- Whatever text is handed over, the text escaper has an answer. -/
def Answers : Prop :=
  ∀ s, ∃ escaped, escaper.text.escape s = .ok escaped

variable {escaper}

/-- With a routine that answers, a text stops nothing. -/
theorem Answers.fault?_leaf (h : escaper.Answers) (value : SqlValue) :
    fault? (escaper.leaf value).result = value.unwritable? := by
  cases value with
  | text s => rw [fault?_leaf_text, fault?_eq_none_iff.mpr (h s), SqlValue.unwritable?]
  | null | bool | int | float | list | mapping => exact escaper.fault?_leaf rfl

/-- With a routine that answers, writing is stopped by the first leaf without a literal. -/
theorem Answers.fault?_render (h : escaper.Answers) (value : SqlValue) :
    fault? (escaper.render value).result = value.leaves.findSome? SqlValue.unwritable? := by
  rw [← Traced.fault?_forget, forget_render, Traced.fault?_forM]
  exact congrFun (congrArg List.findSome? (funext h.fault?_leaf)) _

theorem text?_of_unwritable {value : SqlValue} {fault : Fault}
    (h : value.unwritable? = some fault) : value.text? = none := by
  cases value with
  | text => cases h
  | null | bool | int | float | list | mapping => rfl

/-- What is handed over along leaves: their texts, up to the first leaf without a literal. -/
theorem Answers.calls_leaves (h : escaper.Answers) (leaves : List SqlValue) :
    (forM leaves escaper.leaf).calls =
      (leaves.takeWhile fun leaf => leaf.unwritable?.isNone).filterMap SqlValue.text? := by
  induction leaves with
  | nil => rfl
  | cons leaf leaves ih =>
    have hfault := h.fault?_leaf leaf
    rw [List.forM_cons]
    cases hleaf : leaf.unwritable? with
    -- the walk goes on, with the text of the leaf handed over
    | none =>
      obtain ⟨_, hok⟩ := fault?_eq_none_iff.mp (hfault.trans hleaf)
      rw [Traced.bind_of_ok hok, ih, calls_leaf, List.takeWhile_cons_of_pos (by simp [hleaf])]
      cases htext : leaf.text? <;> simp [htext]
    | some fault =>
      rw [Traced.bind_of_error (fault?_eq_some_iff.mp (hfault.trans hleaf)), calls_leaf,
        text?_of_unwritable hleaf, List.takeWhile_cons_of_neg (by simp [hleaf])]
      rfl

/-- With a routine that answers, the texts in front of the first leaf without a literal are handed
over. -/
theorem Answers.calls_render (h : escaper.Answers) (value : SqlValue) :
    (escaper.render value).calls = value.textsBeforeFault := by
  rw [← Traced.calls_forget, forget_render, h.calls_leaves, SqlValue.textsBeforeFault]

/-! ## Single leaves -/

/-- An argument that can be classified is written as its value is. -/
theorem escapeValue_eq {argument : Argument} {value : SqlValue}
    (h : argument.classify = .ok value) : escaper.escapeValue argument = escaper.render value := by
  have hvalue : (Traced.ofQuery argument.classify).result = .ok value := by
    rw [Traced.result_ofQuery, h]
    rfl
  exact Traced.bind_of_silent rfl hvalue _

/-- An argument that is a leaf hands over its text, if it is one. -/
theorem calls_escapeValue_of_leaf {argument : Argument} (value : SqlValue)
    (h : argument.classify = .ok value) (hleaf : value.leaves = [value]) :
    (escaper.escapeValue argument).calls = value.text?.toList := by
  rw [escapeValue_eq h, ← Traced.calls_forget, forget_render, hleaf, Traced.forM_singleton,
    calls_leaf]

theorem Answers.fault?_escapeValue_of_leaf (hanswers : escaper.Answers) {argument : Argument}
    (value : SqlValue) (h : argument.classify = .ok value) (hleaf : value.leaves = [value]) :
    fault? (escaper.escapeValue argument).result = value.unwritable? := by
  rw [escapeValue_eq h, hanswers.fault?_render, hleaf, List.findSome?_singleton]

end Escaper

/-- Where every leaf has a literal, all texts stand in front of the first one without. -/
theorem SqlValue.textsBeforeFault_eq {value : SqlValue}
    (h : value.leaves.findSome? unwritable? = none) : value.textsBeforeFault = value.texts := by
  have hall : ∀ leaf ∈ value.leaves, leaf.unwritable?.isNone = true := by
    intro leaf hleaf
    rw [List.findSome?_eq_none_iff.mp h leaf hleaf]
    rfl
  rw [textsBeforeFault, texts, List.takeWhile_eq_self_iff.mpr hall]

end SqlTemplate
