import Mathlib.Data.List.Basic
import SqlTemplate.Proofs.Outline
import SqlTemplate.Proofs.Refusal

/-!
# Slots

A placeholder with the argument that it takes is a slot. Filling in a template hands over and fails
like a walk along its slots (`Builder.forget_fillTokens`), so all there is to say of it is said of
one slot. The argument of a slot either gets to be written by its kind or as a collection
(`Builder.Admits`), and then the slot is its value; or it is coerced, quoted or refused before
anything is handed over.

* `Builder.fault?_fillTokens_slots`: a filling in is stopped by the first slot that cannot be
  filled, and `Builder.slotFault?_refusal` by what that can be.
* `Builder.calls_fillSlot` and its companions: what is handed over for a slot.
-/

namespace SqlTemplate

/-- A placeholder with its argument. -/
structure Slot where
  specifier : Option Specifier
  argument : Argument

/-- The slots of a template, in order. Arguments that no placeholder takes are in none. -/
def Token.slots (tokens : List Token) (arguments : List Argument) : List Slot :=
  List.zipWith Slot.mk (specifiers tokens) arguments

/-- The texts of the argument, where it is written by its kind or as a collection. What has no
value, such as a skip, has no texts. -/
def Slot.texts (slot : Slot) : List Text :=
  match slot.specifier with
  | none | some .array => slot.argument.classify.toOption.elim [] SqlValue.texts
  | some .integer | some .float | some .identifier => []

namespace Builder

variable {builder : Builder} {slot : Slot} {value : SqlValue}

/-- What is done for a slot. -/
def fillSlot (builder : Builder) (slot : Slot) : Traced Unit :=
  if slot.argument.isSkip then pure ()
  else (builder.literal slot.specifier slot.argument).forget

/-- Why a slot cannot be filled. A skipped argument always can. -/
def slotFault? (builder : Builder) (slot : Slot) : Option Fault :=
  if slot.argument.isSkip then none
  else fault? (builder.literal slot.specifier slot.argument).result

theorem fault?_fillSlot (slot : Slot) :
    fault? (builder.fillSlot slot).result = builder.slotFault? slot := by
  rw [fillSlot, slotFault?]
  split
  · rfl
  · exact Traced.fault?_forget _

theorem forget_fillPlaceholder (specifier : Option Specifier) (position : Int)
    (argument : Argument) :
    (builder.fillPlaceholder specifier position argument).forget =
      builder.fillSlot ⟨specifier, argument⟩ := by
  rw [fillPlaceholder, fillSlot]
  split
  · rfl
  · exact Traced.forget_map ..

/-- Filling in tokens is a walk along their slots, given that there are enough arguments. -/
theorem forget_fillTokens {tokens : List Token} {arguments : List Argument}
    (hcount : Token.placeholderCount tokens ≤ arguments.length) :
    (builder.fillTokens tokens arguments).forget =
      forM (Token.slots tokens arguments) builder.fillSlot := by
  -- text and braces are no slots, and a placeholder is the first of them
  induction tokens generalizing arguments with
  | nil => rfl
  | cons token tokens ih =>
    cases token with
    | text content position =>
      rw [fillTokens, Traced.forget_map]
      exact ih hcount
    | brace b position =>
      cases b with
      | opening | closing =>
        rw [fillTokens, Traced.forget_map]
        exact ih hcount
    | placeholder specifier position =>
      rw [Token.placeholderCount_placeholder] at hcount
      cases arguments with
      | nil => exact absurd hcount (Nat.not_succ_le_zero _)
      | cons argument arguments =>
        have hrest : ∀ fragment : Fragment,
            ((fragment :: ·) <$> builder.fillTokens tokens arguments).forget =
              forM (Token.slots tokens arguments) builder.fillSlot := by
          intro fragment
          rw [Traced.forget_map]
          exact ih (Nat.le_of_succ_le_succ hcount)
        rw [fillTokens, Traced.forget_bind hrest, forget_fillPlaceholder]
        exact (List.forM_cons ..).symm

/-! ## One slot -/

/-- The argument of the slot gets to be written, as this value: it has the value, and where a
collection is asked for it is one, and not an empty one that is refused. -/
inductive Admits (builder : Builder) : Slot → SqlValue → Prop
  | plain {argument : Argument} {value : SqlValue} (hvalue : argument.classify = .ok value) :
    Admits builder ⟨none, argument⟩ value
  | array {argument : Argument} {value : SqlValue}
    (hcheck : builder.checkNotEmpty .array argument = .ok ())
    (hvalue : argument.classify = .ok value)
    (hshape : value.shape = .list ∨ value.shape = .mapping) :
    Admits builder ⟨some .array, argument⟩ value

namespace Admits

theorem classify_eq (h : builder.Admits slot value) : slot.argument.classify = .ok value := by
  cases h <;> assumption

theorem isSkip_eq (h : builder.Admits slot value) : slot.argument.isSkip = false := by
  cases hskip : slot.argument.isSkip with
  | false => rfl
  | true =>
    have hclassify := h.classify_eq
    rw [Argument.isSkip_iff.mp hskip] at hclassify
    cases hclassify

theorem texts_eq (h : builder.Admits slot value) : slot.texts = value.texts := by
  have hclassify := h.classify_eq
  cases h <;> · rw [Slot.texts, hclassify]; rfl

/-- The literal of a slot whose argument gets to be written is its value as it is written. -/
theorem literal_eq (h : builder.Admits slot value) :
    builder.literal slot.specifier slot.argument = builder.escaper.render value := by
  cases h with
  | plain hvalue => exact Escaper.escapeValue_eq hvalue
  | @array argument value hcheck hvalue hshape =>
    rw [literal, hcheck, Traced.bind_of_silent rfl rfl, Escaper.escapeArray, hvalue,
      Traced.bind_of_silent rfl rfl]
    cases value with
    | list | mapping => rfl
    | null | bool | int | float | text => simp [SqlValue.shape] at hshape

end Admits

/-- Where an argument does not get to be written by its kind or as a collection, nothing of it is
handed over. -/
theorem calls_literal_of_not_admits (h : ∀ value, ¬ builder.Admits slot value) :
    (builder.literal slot.specifier slot.argument).calls = [] := by
  -- coerced numbers have no texts and names need no routine, so only two specifiers are left
  obtain ⟨specifier, argument⟩ := slot
  match specifier with
  | some .integer =>
    exact Traced.calls_bind_of_silent _ fun n => Escaper.calls_escapeValue_of_leaf (.int n) rfl rfl
  | some .float =>
    exact Traced.calls_bind_of_silent _ fun x =>
      Escaper.calls_escapeValue_of_leaf (.float x) rfl rfl
  | some .identifier => exact Traced.calls_bind_of_silent _ fun _ => rfl
  | none =>
    cases hvalue : argument.classify with
    | ok value => exact absurd (.plain hvalue) (h value)
    | error error =>
      rw [literal, Escaper.escapeValue, hvalue]
      rfl
  | some .array =>
    cases hcheck : builder.checkNotEmpty .array argument with
    | error error =>
      rw [literal, hcheck]
      rfl
    | ok =>
      rw [literal, hcheck, Traced.bind_of_silent rfl rfl, Escaper.escapeArray]
      cases hvalue : argument.classify with
      | error error => rfl
      | ok value =>
        have hshape : ¬ (value.shape = .list ∨ value.shape = .mapping) :=
          fun hshape => h value (.array hcheck hvalue hshape)
        rw [Traced.bind_of_silent rfl rfl]
        cases value with
        | list | mapping => simp [SqlValue.shape] at hshape
        | null | bool | int | float | text => rfl

/-- A slot whose argument gets to be written fails for the first leaf without a literal. -/
theorem Admits.slotFault?_eq (hanswers : builder.escaper.Answers)
    (h : builder.Admits slot value) :
    builder.slotFault? slot = value.leaves.findSome? SqlValue.unwritable? := by
  rw [slotFault?, h.isSkip_eq, if_neg Bool.false_ne_true, h.literal_eq, hanswers.fault?_render]

/-- A slot for a value or a collection that can be filled is either skipped, or its argument gets to
be written. -/
theorem exists_admits {specifier : Option Specifier} {argument : Argument}
    (hspecifier : specifier = none ∨ specifier = some .array) (hskip : argument.isSkip = false)
    (hfilled : builder.slotFault? ⟨specifier, argument⟩ = none) :
    ∃ value, builder.Admits ⟨specifier, argument⟩ value := by
  rw [slotFault?, hskip] at hfilled
  obtain ⟨written, hwritten⟩ := fault?_eq_none_iff.mp hfilled
  rcases hspecifier with rfl | rfl
  · rw [literal, Escaper.result_escapeValue] at hwritten
    obtain ⟨value, hvalue, -⟩ := exists_of_bind_eq_ok hwritten
    exact ⟨value, .plain (mapError_eq_ok _ hvalue)⟩
  · rw [literal, Traced.result_bind] at hwritten
    obtain ⟨⟨⟩, hcheck, hwritten⟩ := exists_of_bind_eq_ok hwritten
    rw [Escaper.escapeArray, Traced.result_bind] at hwritten
    obtain ⟨value, hvalue, hwritten⟩ := exists_of_bind_eq_ok hwritten
    refine ⟨value, .array (mapError_eq_ok _ hcheck) (mapError_eq_ok _ hvalue) ?_⟩
    cases value with
    | list => exact .inl rfl
    | mapping => exact .inr rfl
    | null | bool | int | float | text => cases hwritten

/-- A slot that can be filled without its argument's getting to be written has no texts. -/
theorem texts_of_not_admits (h : ∀ value, ¬ builder.Admits slot value)
    (hfilled : builder.slotFault? slot = none) : slot.texts = [] := by
  obtain ⟨specifier, argument⟩ := slot
  have hskipped : specifier = none ∨ specifier = some .array → argument = .skip := by
    intro hspecifier
    cases hskip : argument.isSkip with
    | true => exact Argument.isSkip_iff.mp hskip
    | false =>
      obtain ⟨value, hvalue⟩ := exists_admits hspecifier hskip hfilled
      exact absurd hvalue (h value)
  match specifier with
  | none => rw [hskipped (.inl rfl)]; rfl
  | some .array => rw [hskipped (.inr rfl)]; rfl
  | some .integer | some .float | some .identifier => rfl

theorem calls_fillSlot_of_admits (hanswers : builder.escaper.Answers)
    (h : builder.Admits slot value) : (builder.fillSlot slot).calls = value.textsBeforeFault := by
  rw [fillSlot, h.isSkip_eq, if_neg Bool.false_ne_true, Traced.calls_forget, h.literal_eq,
    hanswers.calls_render]

theorem calls_fillSlot_of_not_admits (h : ∀ value, ¬ builder.Admits slot value) :
    (builder.fillSlot slot).calls = [] := by
  rw [fillSlot]
  split
  · rfl
  · exact calls_literal_of_not_admits h

/-- For a slot that can be filled its texts are handed over. -/
theorem calls_fillSlot (hanswers : builder.escaper.Answers)
    (hfilled : builder.slotFault? slot = none) : (builder.fillSlot slot).calls = slot.texts := by
  by_cases h : ∃ value, builder.Admits slot value
  · obtain ⟨value, hvalue⟩ := h
    -- every leaf has a literal, so no text is behind one that stops the writing
    have hleaves : value.leaves.findSome? SqlValue.unwritable? = none :=
      (hvalue.slotFault?_eq hanswers).symm.trans hfilled
    rw [calls_fillSlot_of_admits hanswers hvalue, SqlValue.textsBeforeFault_eq hleaves,
      hvalue.texts_eq]
  · rw [not_exists] at h
    rw [calls_fillSlot_of_not_admits h, texts_of_not_admits h hfilled]

/-! ## Slots in a row -/

section Rows

variable {slots front rest : List Slot} {fault : Fault} {tokens : List Token}
  {arguments : List Argument}

/-- The first slot that cannot be filled. -/
def firstUnfilled? (builder : Builder) (slots : List Slot) : Option Slot :=
  slots.find? fun slot => (builder.slotFault? slot).isSome

theorem findSome?_slotFault? (slots : List Slot) :
    slots.findSome? builder.slotFault? =
      (builder.firstUnfilled? slots).bind builder.slotFault? := by
  induction slots with
  | nil => rfl
  | cons slot slots ih =>
    rw [firstUnfilled?, List.findSome?_cons, List.find?_cons]
    cases hslot : builder.slotFault? slot with
    | none => exact ih
    | some fault => exact hslot.symm

theorem firstUnfilled?_append (hfront : ∀ slot ∈ front, builder.slotFault? slot = none)
    (hslot : builder.slotFault? slot = some fault) :
    builder.firstUnfilled? (front ++ slot :: rest) = some slot := by
  rw [firstUnfilled?, List.find?_eq_some_iff_append]
  refine ⟨by rw [hslot]; rfl, front, rest, rfl, fun earlier hearlier => ?_⟩
  rw [hfront earlier hearlier]
  rfl

/-- What stops the walk along slots is the first of them that cannot be filled. -/
theorem fault?_fillSlots (slots : List Slot) :
    fault? (forM slots builder.fillSlot).result = slots.findSome? builder.slotFault? := by
  rw [Traced.fault?_forM]
  exact congrFun (congrArg List.findSome? (funext fault?_fillSlot)) slots

theorem fault?_fillTokens_slots (hcount : Token.placeholderCount tokens ≤ arguments.length) :
    fault? (builder.fillTokens tokens arguments).result =
      (Token.slots tokens arguments).findSome? builder.slotFault? := by
  rw [← Traced.fault?_forget, forget_fillTokens hcount, fault?_fillSlots]

/-- Tokens that are filled in have no slot that cannot be filled. -/
theorem slotFault?_of_fillTokens {fragments : List Fragment}
    (hcount : Token.placeholderCount tokens ≤ arguments.length)
    (hfill : (builder.fillTokens tokens arguments).result = .ok fragments) :
    ∀ slot ∈ Token.slots tokens arguments, builder.slotFault? slot = none := by
  rw [← List.findSome?_eq_none_iff, ← fault?_fillTokens_slots hcount, hfill]
  rfl

theorem slotFault?_refusal (h : builder.slotFault? slot = some fault) :
    builder.escaper.Refusal fault := by
  rw [slotFault?] at h
  split at h
  · cases h
  · exact builder.literal_failsWith _ _ fault h

/-- For slots that can be filled all their texts are handed over. -/
theorem calls_fillSlots (hanswers : builder.escaper.Answers)
    (hfilled : ∀ slot ∈ slots, builder.slotFault? slot = none) :
    (forM slots builder.fillSlot).calls = slots.flatMap Slot.texts := by
  have hsteps : ∀ slot ∈ slots, fault? (builder.fillSlot slot).result = none := by
    intro slot hslot
    rw [fault?_fillSlot, hfilled slot hslot]
  rw [Traced.calls_forM hsteps]
  exact List.flatMap_congr fun slot hslot => calls_fillSlot hanswers (hfilled slot hslot)

/-- At the first slot that cannot be filled the walk ends. -/
theorem calls_fillSlots_of_fault (hanswers : builder.escaper.Answers)
    (hfront : ∀ slot ∈ front, builder.slotFault? slot = none)
    (hslot : builder.slotFault? slot = some fault) :
    (forM (front ++ slot :: rest) builder.fillSlot).calls =
      front.flatMap Slot.texts ++ (builder.fillSlot slot).calls := by
  have hsteps : ∀ slot ∈ front, fault? (builder.fillSlot slot).result = none := by
    intro slot hmem
    rw [fault?_fillSlot, hfront slot hmem]
  rw [Traced.calls_forM_of_fault hsteps ((fault?_fillSlot slot).trans hslot),
    ← Traced.calls_forM hsteps, calls_fillSlots hanswers hfront]

end Rows

end Builder

end SqlTemplate
