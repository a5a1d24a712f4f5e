import SqlTemplate.Escaper
import SqlTemplate.Proofs.FirstFault

/-!
# Classification is compositional

An argument can be given in many forms that are classified alike (`Argument.Recast`): a part of it
that can be classified may be given as its value, a sequence as another kind of sequence, and a
mapping as another kind of mapping. None of this can be told from what classification makes of the
argument (`classify_recast`). If it fails, it is the first offending part that makes it fail. The
parts are gone through in depth-first order, and in a mapping each key before its item
(`Argument.visits`).
-/

namespace SqlTemplate

/-- A part of an argument that classification looks at without looking into it. -/
inductive Visit
  | key (key : Argument)
  | value (argument : Argument)

/-- Why a part cannot be classified. -/
def Visit.fault? : Visit → Option QueryError
  | key (.text ..) => none
  | key other => some (.unsupportedValue other.kind (some "mapping keys must be strings"))
  | value argument =>
    match argument with
    | .null | .bool _ | .int .. | .float .. | .text .. | .sequence .. | .mapping ..
    | .classified _ => none
    | .skip | .decimal _ | .fraction _ | .complex .. | .bytes .. | .other .. =>
      some (.unsupportedValue argument.kind none)

namespace Argument

mutual

/-- What classification looks at, in depth-first order. -/
def visits : Argument → List Visit
  | sequence _ items => visitsOfItems items
  | mapping _ entries => visitsOfEntries entries
  | argument => [.value argument]

def visitsOfItems : List Argument → List Visit
  | [] => []
  | item :: items => visits item ++ visitsOfItems items

/-- The visits along the entries of a mapping: at each the key, and then the item. -/
def visitsOfEntries : List (Argument × Argument) → List Visit
  | [] => []
  | (key, item) :: entries => .key key :: (visits item ++ visitsOfEntries entries)

end

mutual

/-- The second argument is the first one, up to the form in which its parts are given. -/
inductive Recast : Argument → Argument → Prop
  | same (argument : Argument) : Recast argument argument
  | classified {argument : Argument} {value : SqlValue} (h : argument.classify = .ok value) :
    Recast argument (classified value)
  | sequence (kind kind' : String) {items items' : List Argument} (h : RecastItems items items') :
    Recast (sequence kind items) (sequence kind' items')
  | mapping (kind kind' : String) {entries entries' : List (Argument × Argument)}
    (h : RecastEntries entries entries') : Recast (mapping kind entries) (mapping kind' entries')

inductive RecastItems : List Argument → List Argument → Prop
  | nil : RecastItems [] []
  | cons {item item' : Argument} {items items' : List Argument} (h : Recast item item')
    (hs : RecastItems items items') : RecastItems (item :: items) (item' :: items')

/-- Keys stay as they are. -/
inductive RecastEntries : List (Argument × Argument) → List (Argument × Argument) → Prop
  | nil : RecastEntries [] []
  | cons (key : Argument) {item item' : Argument} {entries entries' : List (Argument × Argument)}
    (h : Recast item item') (hs : RecastEntries entries entries') :
    RecastEntries ((key, item) :: entries) ((key, item') :: entries')

end

mutual

/-- Recast arguments are classified to one value, or refused for one cause. -/
theorem Recast.classify_eq : ∀ {a b : Argument}, Recast a b → b.classify = a.classify
  | _, _, .same _ => rfl
  | _, _, .classified h => by rw [classify, h]
  | _, _, .sequence _ _ h => by rw [classify, classify, h.classifyItems_eq]
  | _, _, .mapping _ _ h => by rw [classify, classify, h.classifyEntries_eq]

theorem RecastItems.classifyItems_eq : ∀ {as bs : List Argument}, RecastItems as bs →
    classifyItems bs = classifyItems as
  | _, _, .nil => rfl
  | _, _, .cons h hs => by
    rw [classifyItems, classifyItems, h.classify_eq, hs.classifyItems_eq]

theorem RecastEntries.classifyEntries_eq : ∀ {as bs : List (Argument × Argument)},
    RecastEntries as bs → classifyEntries bs = classifyEntries as
  | _, _, .nil => rfl
  | _, _, .cons key h hs => by
    cases key with
    | text => rw [classifyEntries, classifyEntries, h.classify_eq, hs.classifyEntries_eq]
    | _ => rfl

end

mutual

/-- Classification fails for the first part that cannot be classified. -/
theorem fault?_classify : ∀ argument : Argument,
    fault? argument.classify = argument.visits.findSome? Visit.fault?
  | sequence _ items => by
    rw [classify, visits, ← fault?_classifyItems items]
    exact fault?_map ..
  | mapping _ entries => by
    rw [classify, visits, ← fault?_classifyEntries entries]
    exact fault?_map ..
  | null | bool _ | int .. | float .. | text .. | classified _ | skip | decimal _ | fraction _
  | complex .. | bytes .. | other .. => rfl

/-- The items of a sequence are refused for the first visit that is. -/
theorem fault?_classifyItems : ∀ items : List Argument,
    fault? (classifyItems items) = (visitsOfItems items).findSome? Visit.fault?
  | [] => rfl
  | item :: items => by
    have hrest : ∀ value, fault? ((value :: ·) <$> classifyItems items) =
        (visitsOfItems items).findSome? Visit.fault? :=
      fun value => (fault?_map ..).trans (fault?_classifyItems items)
    rw [classifyItems, fault?_bind _ fun value _ => hrest value, visitsOfItems,
      List.findSome?_append, fault?_classify item]
    cases item.visits.findSome? Visit.fault? <;> rfl

/-- So are the entries of a mapping. Behind a key that is refused nothing is looked at. -/
theorem fault?_classifyEntries : ∀ entries : List (Argument × Argument),
    fault? (classifyEntries entries) = (visitsOfEntries entries).findSome? Visit.fault?
  | [] => rfl
  | (key, item) :: entries => by
    cases key with
    | text member key =>
      have hrest : ∀ value, fault? (((key, value) :: ·) <$> classifyEntries entries) =
          (visitsOfEntries entries).findSome? Visit.fault? :=
        fun value => (fault?_map ..).trans (fault?_classifyEntries entries)
      rw [classifyEntries, fault?_bind _ fun value _ => hrest value, visitsOfEntries,
        List.findSome?_cons, List.findSome?_append, fault?_classify item]
      cases item.visits.findSome? Visit.fault? <;> rfl
    | _ => rfl

end

end Argument

/-- **Classification is compositional.** Two arguments that differ only in the form of their parts
are classified as one value, or fail for one cause, which is that of the first part that cannot be
classified. So every escaper writes them alike, or fails for both. -/
theorem classify_recast {a b : Argument} (h : a.Recast b) :
    a.classify = b.classify ∧
      (∀ error, a.classify = .error error ↔ a.visits.findSome? Visit.fault? = some error) ∧
      ∀ escaper : Escaper, escaper.escapeValue a = escaper.escapeValue b := by
  have hclassify := h.classify_eq
  refine ⟨hclassify.symm, fun error => ?_, fun escaper => ?_⟩
  · rw [← Argument.fault?_classify]
    cases a.classify with
    | ok value => simp [fault?]
    | error cause => simp [fault?]
  · rw [Escaper.escapeValue, Escaper.escapeValue, hclassify]

/-- A mapping with a part that cannot be classified, behind one that can and is given as its
value. -/
theorem classify_recast_of_skip :
    let a : Argument := .mapping "dict"
      [(.ofText ['k'], .ofList [.ofInt 1, .ofTuple []]), (.ofText ['l'], .ofList [.skip, .null])]
    let b : Argument := .mapping "mappingproxy"
      [(.ofText ['k'], .classified (.list [.int 1, .list []])),
        (.ofText ['l'], .ofTuple [.skip, .classified .null])]
    a.Recast b ∧ b.classify = .error (.unsupportedValue "Skip" none) := by
  intro a b
  have hfirst : Argument.Recast (.ofList [.ofInt 1, .ofTuple []])
      (.classified (.list [.int 1, .list []])) := .classified rfl
  have hsecond : Argument.Recast (.ofList [.skip, .null]) (.ofTuple [.skip, .classified .null]) :=
    .sequence _ _ (.cons (.same _) (.cons (.classified rfl) .nil))
  have h : a.Recast b := .mapping _ _ (.cons _ hfirst (.cons _ hsecond .nil))
  obtain ⟨hclassify, herror, -⟩ := classify_recast h
  exact ⟨h, hclassify.symm.trans ((herror _).mpr rfl)⟩

end SqlTemplate
