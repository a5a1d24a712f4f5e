import Mathlib.Data.List.Forall2
import SqlTemplate.Proofs.Refusal
import SqlTemplate.Proofs.SameOutcome

/-!
# Nested collections are written flat

The parts of a list are separated by commas, and where a part is a list itself, so are its parts.
Nesting therefore leaves no trace: what is written are the *atoms* of a value, with one comma
between neighbours. A scalar is its own atom; the atoms of a collection are those of what it holds,
in order, and a key stands in front of the first atom of its entry.

A collection without items has no atoms, and still there is a comma on either side of it. So all of
this is about values in which no collection is empty (`SqlValue.hasEmpty`).

* `Joins.flatten`: texts that are each joined from parts, joined, are joined from all of the parts.
* `SqlValue.flatten`: a value with its lists opened, which decides how it is written.
* `Argument.places`: the names that an argument nests, for which the same is true.
-/

namespace SqlTemplate

/-! ## Joining what is joined -/

namespace Text

theorem commaSeparated_singleton (part : Text) : commaSeparated [part] = part :=
  List.intercalate_singleton

theorem commaSeparated_cons {part : Text} {parts : List Text} (h : parts ≠ []) :
    commaSeparated (part :: parts) = part ++ [',', ' '] ++ commaSeparated parts :=
  List.intercalate_cons_of_ne_nil h

theorem commaSeparated_append {parts rest : List Text} (hparts : parts ≠ []) (hrest : rest ≠ []) :
    commaSeparated (parts ++ rest) = commaSeparated parts ++ [',', ' '] ++ commaSeparated rest := by
  induction parts with
  | nil => exact absurd rfl hparts
  | cons part parts ih =>
    cases parts with
    | nil =>
      rw [List.singleton_append, commaSeparated_cons hrest, commaSeparated_singleton]
    | cons next parts =>
      have hnext : next :: parts ≠ [] := List.cons_ne_nil _ _
      have happend : next :: parts ++ rest ≠ [] := List.cons_ne_nil _ _
      rw [List.cons_append, commaSeparated_cons happend, ih hnext, commaSeparated_cons hnext]
      simp only [List.append_assoc]

/-- What stands in front of the first part stands in front of all of them. -/
theorem commaSeparated_append_cons (front part : Text) (parts : List Text) :
    commaSeparated ((front ++ part) :: parts) = front ++ commaSeparated (part :: parts) := by
  cases parts with
  | nil => rw [commaSeparated_singleton, commaSeparated_singleton]
  | cons next parts =>
    have hnext : next :: parts ≠ [] := List.cons_ne_nil _ _
    rw [commaSeparated_cons hnext, commaSeparated_cons hnext]
    simp only [List.append_assoc]

end Text

/-- The text is joined from the parts, and there are parts. -/
structure Joins (s : Text) (parts : List Text) : Prop where
  ne_nil : parts ≠ []
  eq : s = Text.commaSeparated parts

namespace Joins

theorem single (s : Text) : Joins s [s] :=
  ⟨List.cons_ne_nil _ _, (Text.commaSeparated_singleton s).symm⟩

/-- Texts that are each joined from parts, joined, are joined from all of the parts. -/
theorem flatten {texts : List Text} {lists : List (List Text)} (hne : lists ≠ [])
    (h : List.Forall₂ Joins texts lists) : Joins (Text.commaSeparated texts) lists.flatten := by
  induction h with
  | nil => exact absurd rfl hne
  | @cons s parts texts lists hhead htail ih =>
    rw [List.flatten_cons]
    cases htail with
    | nil =>
      rw [List.flatten_nil, List.append_nil]
      exact ⟨hhead.ne_nil, (Text.commaSeparated_singleton s).trans hhead.eq⟩
    | cons hnext hmore =>
      obtain ⟨hrest, heq⟩ := ih (List.cons_ne_nil _ _)
      refine ⟨List.append_ne_nil_of_left_ne_nil hhead.ne_nil _, ?_⟩
      rw [Text.commaSeparated_cons (List.cons_ne_nil _ _), heq, hhead.eq,
        Text.commaSeparated_append hhead.ne_nil hrest]

end Joins

/-! ## Atoms -/

namespace SqlValue

mutual

/-- Whether the value is a collection without items, or holds one at some depth. -/
def hasEmpty : SqlValue → Bool
  | list items => items.isEmpty || anyHasEmpty items
  | mapping entries => entries.isEmpty || anyEntryHasEmpty entries
  | null | bool _ | int _ | float _ | text _ => false

/-- Whether an item of the list holds a list or mapping without items. -/
def anyHasEmpty : List SqlValue → Bool
  | [] => false
  | item :: items => hasEmpty item || anyHasEmpty items

def anyEntryHasEmpty : List (Text × SqlValue) → Bool
  | [] => false
  | (_, item) :: entries => hasEmpty item || anyEntryHasEmpty entries

end

mutual

/-- The value with its lists opened, also those in lists. What a mapping holds stays in it. -/
def flatten : SqlValue → List SqlValue
  | list items => flattenItems items
  | null => [null]
  | bool value => [bool value]
  | int value => [int value]
  | float value => [float value]
  | text value => [text value]
  | mapping entries => [mapping entries]

def flattenItems : List SqlValue → List SqlValue
  | [] => []
  | item :: items => flatten item ++ flattenItems items

end

end SqlValue

namespace Escaper

/-- The atoms of an entry, from those of its item: the key stands in front of the first. -/
def atomsUnder (escaper : Escaper) (key : Text) : List Text → List Text
  | [] => []
  | atom :: atoms => (escaper.dialect.quoteIdentifier key ++ [' ', '=', ' '] ++ atom) :: atoms

mutual

/-- The atoms of a value, unless a scalar in it has no literal. -/
def atoms (escaper : Escaper) : SqlValue → Except Fault (List Text)
  | .list items => (atomsOfItems escaper items).map List.flatten
  | .mapping entries => (atomsOfEntries escaper entries).map List.flatten
  | .null => (escaper.render .null).result.map ([·])
  | .bool value => (escaper.render (.bool value)).result.map ([·])
  | .int value => (escaper.render (.int value)).result.map ([·])
  | .float value => (escaper.render (.float value)).result.map ([·])
  | .text value => (escaper.render (.text value)).result.map ([·])

/-- The atoms of each item. -/
def atomsOfItems (escaper : Escaper) : List SqlValue → Except Fault (List (List Text))
  | [] => .ok []
  | item :: items => do
    let first ← atoms escaper item
    (first :: ·) <$> atomsOfItems escaper items

/-- The atoms of each entry. -/
def atomsOfEntries (escaper : Escaper) : List (Text × SqlValue) → Except Fault (List (List Text))
  | [] => .ok []
  | (key, item) :: entries => do
    let first ← atoms escaper item
    (escaper.atomsUnder key first :: ·) <$> atomsOfEntries escaper entries

end

variable {escaper : Escaper}

/-- A key goes with the first atom under it, since it stands in front of all of them. -/
theorem joins_atomsUnder {s : Text} {atoms : List Text} (key : Text) (h : Joins s atoms) :
    Joins (escaper.dialect.quoteIdentifier key ++ [' ', '=', ' '] ++ s)
      (escaper.atomsUnder key atoms) := by
  cases atoms with
  | nil => exact absurd rfl h.ne_nil
  | cons atom atoms =>
    refine ⟨List.cons_ne_nil _ _, ?_⟩
    rw [h.eq, atomsUnder, Text.commaSeparated_append_cons]

theorem sameOutcome_single (x : Except Fault Text) : SameOutcome Joins x (x.map ([·])) := by
  cases x with
  | ok s => exact .ok (.single s)
  | error fault => exact .error fault

/-- Joins of as many lists as there are items, of which there are some. -/
theorem joins_of_items {α : Type} {items : List α} {texts : List Text} {lists : List (List Text)}
    (hitems : items.isEmpty = false)
    (h : List.Forall₂ Joins texts lists ∧ lists.length = items.length) :
    Joins (Text.commaSeparated texts) lists.flatten := by
  obtain ⟨hjoins, hlength⟩ := h
  refine .flatten ?_ hjoins
  rintro rfl
  rw [List.eq_nil_of_length_eq_zero hlength.symm] at hitems
  cases hitems

-- In step with how values are written. That no collection is empty is what makes there be parts to
-- join on every level.
mutual

/-- A value without empty collections is written as its atoms, and fails if one of them does. -/
theorem render_sameOutcome_atoms : ∀ value : SqlValue, value.hasEmpty = false →
    SameOutcome Joins (escaper.render value).result (escaper.atoms value)
  | .list items, h => by
    rw [SqlValue.hasEmpty, Bool.or_eq_false_iff] at h
    rw [result_render_list, atoms]
    exact (renderItems_sameOutcome_atoms items h.2).map fun _ _ => joins_of_items h.1
  | .mapping entries, h => by
    rw [SqlValue.hasEmpty, Bool.or_eq_false_iff] at h
    rw [result_render_mapping, atoms]
    exact (renderEntries_sameOutcome_atoms entries h.2).map fun _ _ => joins_of_items h.1
  | .null, _ | .bool _, _ | .int _, _ | .float _, _ | .text _, _ => by
    rw [atoms]
    exact sameOutcome_single _

/-- The items of a list are written as what joins to them one by one, or fail as they do. -/
theorem renderItems_sameOutcome_atoms : ∀ items : List SqlValue,
    SqlValue.anyHasEmpty items = false →
    SameOutcome (fun texts lists => List.Forall₂ Joins texts lists ∧ lists.length = items.length)
      (escaper.renderItems items).result (escaper.atomsOfItems items)
  | [], _ => .ok ⟨.nil, rfl⟩
  | item :: items, h => by
    rw [SqlValue.anyHasEmpty, Bool.or_eq_false_iff] at h
    rw [result_renderItems_cons, atomsOfItems]
    refine (render_sameOutcome_atoms item h.1).bind fun _ _ hfirst => ?_
    exact (renderItems_sameOutcome_atoms items h.2).map fun _ _ hrest =>
      ⟨.cons hfirst hrest.1, congrArg Nat.succ hrest.2⟩

theorem renderEntries_sameOutcome_atoms : ∀ entries : List (Text × SqlValue),
    SqlValue.anyEntryHasEmpty entries = false →
    SameOutcome (fun texts lists => List.Forall₂ Joins texts lists ∧ lists.length = entries.length)
      (escaper.renderEntries entries).result (escaper.atomsOfEntries entries)
  | [], _ => .ok ⟨.nil, rfl⟩
  | (key, item) :: entries, h => by
    rw [SqlValue.anyEntryHasEmpty, Bool.or_eq_false_iff] at h
    rw [result_renderEntries_cons, atomsOfEntries]
    refine (render_sameOutcome_atoms item h.1).bind fun _ _ hfirst => ?_
    exact (renderEntries_sameOutcome_atoms entries h.2).map fun _ _ hrest =>
      ⟨.cons (joins_atomsUnder key hfirst) hrest.1, congrArg Nat.succ hrest.2⟩

end

end Escaper

/-! ## Opened lists -/

theorem SqlValue.leavesOfItems_append (front rest : List SqlValue) :
    leavesOfItems (front ++ rest) = leavesOfItems front ++ leavesOfItems rest := by
  induction front with
  | nil => rfl
  | cons item front ih =>
    rw [List.cons_append, leavesOfItems, leavesOfItems, ih, List.append_assoc]

mutual

/-- To open lists does not change the leaves. -/
theorem SqlValue.leavesOfItems_flatten : ∀ value : SqlValue,
    leavesOfItems value.flatten = value.leaves
  | .list items => by
    rw [flatten, leaves]
    exact leavesOfItems_flattenItems items
  | .null | .bool _ | .int _ | .float _ | .text _ | .mapping _ => List.append_nil _

/-- Flattening leaves the leaves, in order. -/
theorem SqlValue.leavesOfItems_flattenItems : ∀ items : List SqlValue,
    leavesOfItems (flattenItems items) = leavesOfItems items
  | [] => rfl
  | item :: items => by
    rw [flattenItems, leavesOfItems_append, leavesOfItems_flatten item,
      leavesOfItems_flattenItems items, leavesOfItems]

end

namespace Escaper

variable {escaper : Escaper} {value other : SqlValue}

theorem atomsOfItems_append (front rest : List SqlValue) :
    escaper.atomsOfItems (front ++ rest) =
      escaper.atomsOfItems front >>= fun first =>
        (escaper.atomsOfItems rest).map (first ++ ·) := by
  induction front with
  | nil =>
    show escaper.atomsOfItems rest = (escaper.atomsOfItems rest).map id
    rw [Except.map_id]
    rfl
  | cons item front ih =>
    rw [List.cons_append, atomsOfItems, atomsOfItems, ih]
    cases escaper.atoms item with
    | error fault => rfl
    | ok first =>
      cases escaper.atomsOfItems front with
      | error fault => rfl
      | ok more => cases escaper.atomsOfItems rest <;> rfl

theorem map_flatten_append (front : List (List Text)) (x : Except Fault (List (List Text))) :
    (x.map (front ++ ·)).map List.flatten = (x.map List.flatten).map (front.flatten ++ ·) := by
  cases x with
  | error fault => rfl
  | ok lists => exact congrArg Except.ok List.flatten_append

mutual

/-- To open lists does not change the atoms. -/
theorem atomsOfItems_flatten : ∀ value : SqlValue,
    (escaper.atomsOfItems value.flatten).map List.flatten = escaper.atoms value
  | .list items => by
    rw [SqlValue.flatten, atoms]
    exact atomsOfItems_flattenItems items
  | .null | .bool _ | .int _ | .float _ | .text _ | .mapping _ => by
    rw [SqlValue.flatten, atomsOfItems, atomsOfItems]
    cases escaper.atoms _ with
    | error fault => rfl
    | ok first => exact congrArg Except.ok (List.append_nil first)

/-- Flattening leaves the atoms, in order. -/
theorem atomsOfItems_flattenItems : ∀ items : List SqlValue,
    (escaper.atomsOfItems (SqlValue.flattenItems items)).map List.flatten =
      (escaper.atomsOfItems items).map List.flatten
  | [] => rfl
  | item :: items => by
    have hrest := atomsOfItems_flattenItems items
    rw [SqlValue.flattenItems, atomsOfItems_append, atomsOfItems, ← atomsOfItems_flatten item]
    cases escaper.atomsOfItems item.flatten with
    | error fault => rfl
    | ok first =>
      -- the atoms of the first item are put in front of those of the others, before or after they
      -- are joined
      calc ((escaper.atomsOfItems (SqlValue.flattenItems items)).map (first ++ ·)).map List.flatten
          = ((escaper.atomsOfItems (SqlValue.flattenItems items)).map List.flatten).map
              (first.flatten ++ ·) := map_flatten_append first _
        _ = ((escaper.atomsOfItems items).map List.flatten).map (first.flatten ++ ·) := by
            rw [hrest]
        _ = ((escaper.atomsOfItems items).map (first.flatten :: ·)).map List.flatten := by
            cases escaper.atomsOfItems items <;> rfl

end

/-- Of a value that is written, each text is handed over once. -/
theorem calls_render_of_ok {s : Text} (h : (escaper.render value).result = .ok s) :
    (escaper.render value).calls = value.texts := by
  have hnone : fault? (escaper.render value).result = none := fault?_eq_none_iff.mpr ⟨s, h⟩
  rw [← Traced.fault?_forget, forget_render, Traced.fault?_forM, List.findSome?_eq_none_iff] at hnone
  rw [← Traced.calls_forget, forget_render, Traced.calls_forM hnone, SqlValue.texts]
  simp only [calls_leaf]
  exact List.filterMap_eq_flatMap_toList .. |>.symm

/-- A value without empty collections is its atoms with a comma between neighbours. -/
theorem result_render_eq_atoms (h : value.hasEmpty = false) :
    (escaper.render value).result = (escaper.atoms value).map Text.commaSeparated :=
  ((render_sameOutcome_atoms value h).imp fun _ _ => Joins.eq).eq_map

/-- Opened lists decide how a value is written. -/
theorem render_congr (hvalue : value.hasEmpty = false) (hother : other.hasEmpty = false)
    (hflatten : other.flatten = value.flatten) : escaper.render other = escaper.render value := by
  have hatoms : escaper.atoms other = escaper.atoms value := by
    rw [← atomsOfItems_flatten, ← atomsOfItems_flatten, hflatten]
  have hforget : (escaper.render other).forget = (escaper.render value).forget := by
    rw [forget_render, forget_render, ← SqlValue.leavesOfItems_flatten,
      ← SqlValue.leavesOfItems_flatten, hflatten]
  -- what is handed over goes by the leaves, and what is written by the atoms
  ext1
  · rw [← Traced.calls_forget, hforget, Traced.calls_forget]
  · rw [result_render_eq_atoms hother, result_render_eq_atoms hvalue, hatoms]

end Escaper

/-! ## Names -/

namespace Argument

mutual

/-- The places for names in an argument, in order: one for each name, and an empty one for each list
without items. Whatever is neither a name nor a list has no place. -/
def places : Argument → Except QueryError (List (Option Text))
  | text _ name => .ok [some name]
  | sequence _ items => if items.isEmpty then .ok [none] else (placesOfItems items).map List.flatten
  | argument => .error (.unsupportedValue argument.kind (some "identifiers must be strings"))

/-- The places in each item. -/
def placesOfItems : List Argument → Except QueryError (List (List (Option Text)))
  | [] => .ok []
  | item :: items => do
    let first ← places item
    (first :: ·) <$> placesOfItems items

end

end Argument

/-- What stands in a place for a name. -/
def Dialect.writePlace (dialect : Dialect) : Option Text → Text
  | some name => dialect.quoteIdentifier name
  | none => []

namespace Escaper

variable {escaper : Escaper}

mutual

/-- Identifiers are written place by place, and refused where there is none. -/
theorem identifier_sameOutcome_places : ∀ argument : Argument,
    SameOutcome (fun s places => Joins s (places.map escaper.dialect.writePlace))
      (escaper.identifier argument) argument.places
  | .text _ name => .ok (.single _)
  | .sequence _ items => by
    rw [identifier, Argument.places]
    -- an empty list leaves one empty place, which is written as nothing
    cases hitems : items.isEmpty with
    | true =>
      obtain rfl := List.isEmpty_iff.mp hitems
      exact .ok (.single [])
    | false =>
      refine (identifiers_sameOutcome_places items).map fun texts lists h => ?_
      rw [List.map_flatten]
      refine joins_of_items hitems ⟨h.1, ?_⟩
      rw [List.length_map, h.2]
  | .null | .skip | .bool _ | .int .. | .float .. | .decimal _ | .fraction _ | .complex ..
  | .mapping .. | .classified _ | .bytes .. | .other .. => .error _

theorem identifiers_sameOutcome_places : ∀ items : List Argument,
    SameOutcome (fun texts lists =>
        List.Forall₂ Joins texts (lists.map (List.map escaper.dialect.writePlace)) ∧
          lists.length = items.length)
      (escaper.identifiers items) (Argument.placesOfItems items)
  | [] => .ok ⟨.nil, rfl⟩
  | item :: items => by
    rw [identifiers, Argument.placesOfItems]
    refine (identifier_sameOutcome_places item).bind fun _ _ hfirst => ?_
    exact (identifiers_sameOutcome_places items).map fun _ _ hrest =>
      ⟨.cons hfirst hrest.1, congrArg Nat.succ hrest.2⟩

end

/-- Names are written with commas between all of them, at whatever depth they stand. -/
theorem identifier_eq_places (argument : Argument) :
    escaper.identifier argument = argument.places.map fun places =>
      Text.commaSeparated (places.map escaper.dialect.writePlace) :=
  ((identifier_sameOutcome_places argument).imp fun _ _ => Joins.eq).eq_map

/-- Without empty places there are only names. -/
theorem identifier_of_names {argument : Argument} {names : List Text}
    (h : argument.places = .ok (names.map some)) : escaper.identifier argument =
      .ok (Text.commaSeparated (names.map escaper.dialect.quoteIdentifier)) := by
  rw [identifier_eq_places, h]
  show Except.ok (Text.commaSeparated ((names.map some).map escaper.dialect.writePlace)) = _
  rw [List.map_map]
  rfl

end Escaper

/-- **Nested collections are written flat.** A value in which no collection is empty is written as
its atoms, with a comma between neighbours, and each of its texts is handed over to be escaped once;
it fails exactly if one of its scalars does. So two such values are written alike if they are the
same once their lists are opened. The same holds of names: where no list is empty, they are
written as the quoted names, with a comma between neighbours. -/
theorem render_flat (escaper : Escaper) :
    (∀ value : SqlValue, value.hasEmpty = false →
      (escaper.render value).result = (escaper.atoms value).map Text.commaSeparated ∧
      (∀ s, (escaper.render value).result = .ok s →
        (escaper.render value).calls = value.texts) ∧
      ∀ other : SqlValue, other.hasEmpty = false → other.flatten = value.flatten →
        escaper.render other = escaper.render value) ∧
    ∀ (argument : Argument) (names : List Text), argument.places = .ok (names.map some) →
      (escaper.escapeIdentifier argument).result =
        .ok (Text.commaSeparated (names.map escaper.dialect.quoteIdentifier)) := by
  refine ⟨fun value hvalue => ⟨Escaper.result_render_eq_atoms hvalue, ?_, ?_⟩, ?_⟩
  · exact fun s h => Escaper.calls_render_of_ok h
  · exact fun other hother hflatten => Escaper.render_congr hvalue hother hflatten
  · intro argument names h
    rw [Escaper.escapeIdentifier, Traced.result_ofQuery, Escaper.identifier_of_names h]
    rfl

/-- A key stands in front of the first of two texts, however deep they are nested, and is not
written again in front of the other. -/
theorem render_flat_of_entry :
    let escaper : Escaper := .ofDialect .mysql none
    let entry : SqlValue := .mapping [("k".toList,
      .list [.list [.text "o'k".toList], .text ['x']])]
    let value : SqlValue := .list [entry, .null]
    let other : SqlValue := .list [.list [.list [entry]], .list [.null]]
    let names : Argument := .ofList [.ofText ['a'], .ofTuple [.ofText ['b'], .ofText ['`']]]
    value.hasEmpty = false ∧ other.hasEmpty = false ∧
      (escaper.render other).result = .ok "`k` = 'o\\'k', 'x', NULL".toList ∧
      (escaper.render other).calls = ["o'k".toList, ['x']] ∧
      (escaper.escapeIdentifier names).result = .ok "`a`, `b`, ````".toList := by
  intro escaper entry value other names
  obtain ⟨hvalues, hnames⟩ := render_flat escaper
  have hvalue : value.hasEmpty = false := rfl
  have hother : other.hasEmpty = false := rfl
  obtain ⟨hatoms, hcalls, hsame⟩ := hvalues value hvalue
  have hrender : (escaper.render value).result = .ok "`k` = 'o\\'k', 'x', NULL".toList :=
    hatoms.trans rfl
  rw [hsame other hother rfl]
  exact ⟨hvalue, hother, hrender, hcalls _ hrender, hnames names [['a'], ['b'], ['`']] rfl⟩

end SqlTemplate
