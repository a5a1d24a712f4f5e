import Mathlib.Data.List.Induction
import SqlTemplate.Proofs.OwnName

/-!
# The last registration decides

A registry has two maps, which registrations write over. What it answers for a name can be read off
the registrations themselves, without going through them one by one: in each map, the last
registration that wrote to a key decides what stands there (`FromLast`).

* `aliases_fromLast` and `dialects_fromLast` say so of the two maps, by `fromLast_of_writes`.
* `StandsFor` is what a name stands for, said of the registrations only. An alias goes before a
  target, whichever of the two was registered later.
* `standsFor_iff` is that the registry answers as the registrations say.
-/

namespace SqlTemplate

/-- The order of texts is that of the first code points in which they differ. -/
theorem Text.compare_eq_lt_iff {s t : Text} : compare s t = .lt ↔ s < t := by
  rw [List.compare_eq_compareLex]
  induction s generalizing t with
  | nil => cases t <;> simp [List.compareLex]
  | cons c s ih =>
    cases t with
    | nil => simp [List.compareLex]
    | cons d t =>
      have hchar : compare c d = .lt ↔ c < d := compareOfLessAndEq_eq_lt
      rw [List.compareLex_cons_cons, Ordering.then_eq_lt, ih, List.cons_lt_cons_iff, hchar,
        Std.compare_eq_iff_eq]

/-! ## The last with a property -/

section Last

variable {α β : Type} {p : α → Prop} {v : α → β} {history : List α} {r r' : α}

/-- The last element of a list with `p`. -/
def IsLast (p : α → Prop) (history : List α) (r : α) : Prop :=
  ∃ front rest, history = front ++ r :: rest ∧ p r ∧ ∀ later ∈ rest, ¬ p later

theorem IsLast.mem (h : IsLast p history r) : r ∈ history := by
  obtain ⟨front, rest, rfl, -, -⟩ := h
  exact List.mem_append_right front List.mem_cons_self

theorem IsLast.of_mem (h : IsLast p history r) : p r := by
  obtain ⟨front, rest, -, hp, -⟩ := h
  exact hp

theorem IsLast.eq (h : IsLast p history r) (h' : IsLast p history r') : r = r' := by
  obtain ⟨front, rest, rfl, hp, hrest⟩ := h
  obtain ⟨front', rest', heq, hp', hrest'⟩ := h'
  -- the one that stands further in front is followed by the other
  rcases List.append_eq_append_iff.mp heq with ⟨gap, -, hgap⟩ | ⟨gap, -, hgap⟩
  · cases gap with
    | nil => exact (List.cons.inj hgap).1
    | cons x gap =>
      obtain ⟨-, rfl⟩ := List.cons.inj hgap
      exact absurd hp' (hrest r' (List.mem_append_right gap List.mem_cons_self))
  · cases gap with
    | nil => exact (List.cons.inj hgap).1.symm
    | cons x gap =>
      obtain ⟨-, rfl⟩ := List.cons.inj hgap
      exact absurd hp (hrest' r (List.mem_append_right gap List.mem_cons_self))

/-- What is added with the property is the last one. -/
theorem IsLast.concat (hp : p r) : IsLast p (history ++ [r]) r :=
  ⟨history, [], rfl, hp, nofun⟩

theorem IsLast.concat_of_not (h : IsLast p history r) (hp : ¬ p r') :
    IsLast p (history ++ [r']) r := by
  obtain ⟨front, rest, rfl, hr, hrest⟩ := h
  refine ⟨front, rest ++ [r'], List.append_assoc .., hr, fun later hlater => ?_⟩
  rcases List.mem_append.mp hlater with hlater | hlater
  · exact hrest later hlater
  · rwa [List.mem_singleton.mp hlater]

/-- What was written by the last element with `p`, if there is one. -/
inductive FromLast (p : α → Prop) (v : α → β) (history : List α) : Option β → Prop
  | found {r : α} (hlast : IsLast p history r) : FromLast p v history (some (v r))
  | absent (hnone : ∀ r ∈ history, ¬ p r) : FromLast p v history none

/-- A place that is empty at first, and written to by each element with `p`, holds what the last of
them wrote. -/
theorem fromLast_of_writes (place : List α → Option β) (hnil : place [] = none)
    (hwrite : ∀ history r, p r → place (history ++ [r]) = some (v r))
    (hkeep : ∀ history r, ¬ p r → place (history ++ [r]) = place history) (history : List α) :
    FromLast p v history (place history) := by
  induction history using List.reverseRecOn with
  | nil =>
    rw [hnil]
    exact .absent nofun
  | append_singleton history r ih =>
    -- an element without `p` leaves the place, and the last one with `p` too
    by_cases hp : p r
    · rw [hwrite history r hp]
      exact .found (.concat hp)
    · rw [hkeep history r hp]
      generalize place history = held at ih
      cases ih with
      | found hlast => exact .found (hlast.concat_of_not hp)
      | absent hnone =>
        refine .absent fun r' hr' => ?_
        rcases List.mem_append.mp hr' with hr' | hr'
        · exact hnone r' hr'
        · rwa [List.mem_singleton.mp hr']

end Last

/-! ## Names -/

namespace Registration

/-- Whether the registration is for the target, as names are compared. -/
def HasTarget (r : Registration) (target : Text) : Prop :=
  r.target.lowercase = target

/-- Whether the registration gives the target this other name. -/
def HasAlias (r : Registration) (name : Text) : Prop :=
  name.lowercase ∈ r.aliases.map Text.lowercase

instance (r : Registration) (target : Text) : Decidable (r.HasTarget target) :=
  inferInstanceAs (Decidable (_ = _))

instance (r : Registration) (name : Text) : Decidable (r.HasAlias name) :=
  inferInstanceAs (Decidable (_ ∈ _))

/-- What a name stands for after the registrations, if it stands for a target: the target of the
last registration that has the name as an alias, or else the name itself, where it is a target. -/
inductive StandsFor (history : List Registration) (name : Text) : Option Text → Prop
  | byAlias {r : Registration} (hlast : IsLast (·.HasAlias name) history r) :
    StandsFor history name (some r.target.lowercase)
  | byTarget {r : Registration} (hnone : ∀ r ∈ history, ¬ r.HasAlias name) (hmem : r ∈ history)
    (htarget : r.HasTarget name.lowercase) : StandsFor history name (some name.lowercase)
  | unknown (hnone : ∀ r ∈ history, ¬ r.HasAlias name ∧ ¬ r.HasTarget name.lowercase) :
    StandsFor history name none

/-- A name stands for one thing only. -/
theorem StandsFor.eq {history : List Registration} {name : Text} {target? target?' : Option Text}
    (h : StandsFor history name target?) (h' : StandsFor history name target?') :
    target? = target?' := by
  cases h with
  | byAlias hlast =>
    cases h' with
    | byAlias hlast' => rw [hlast.eq hlast']
    | byTarget hnone' => exact absurd hlast.of_mem (hnone' _ hlast.mem)
    | unknown hnone' => exact absurd hlast.of_mem (hnone' _ hlast.mem).1
  | byTarget hnone hmem htarget =>
    cases h' with
    | byAlias hlast' => exact absurd hlast'.of_mem (hnone _ hlast'.mem)
    | byTarget => rfl
    | unknown hnone' => exact absurd htarget (hnone' _ hmem).2
  | unknown hnone =>
    cases h' with
    | byAlias hlast' => exact absurd hlast'.of_mem (hnone _ hlast'.mem).1
    | byTarget _ hmem' htarget' => exact absurd htarget' (hnone _ hmem').2
    | unknown => rfl

end Registration

namespace Registry

open Registration

variable {history : List Registration} {name target : Text}

theorem after_concat (registry : Registry) (history : List Registration) (r : Registration) :
    registry.after (history ++ [r]) =
      (registry.after history).register r.target r.dialect r.aliases :=
  List.foldl_append

/-- What an alias stands for is the target of the last registration that has it. -/
theorem aliases_fromLast (history : List Registration) (name : Text) :
    FromLast (·.HasAlias name) (·.target.lowercase) history
      (empty.after history).aliases[name.lowercase]? := by
  refine fromLast_of_writes (fun history => (empty.after history).aliases[name.lowercase]?)
    Std.TreeMap.getElem?_emptyc (fun history r halias => ?_) (fun history r halias => ?_) history
  · rw [after_concat, aliases_register]
    exact if_pos halias
  · rw [after_concat, aliases_register]
    exact if_neg halias

/-- The dialect of a target is that of the last registration of the target. -/
theorem dialects_fromLast (history : List Registration) (target : Text) :
    FromLast (·.HasTarget target) (·.dialect) history (empty.after history).dialects[target]? := by
  refine fromLast_of_writes (fun history => (empty.after history).dialects[target]?)
    Std.TreeMap.getElem?_emptyc (fun history r htarget => ?_) (fun history r htarget => ?_) history
  · rw [after_concat, dialects_register, if_pos htarget.symm]
  · rw [after_concat, dialects_register, if_neg fun h => htarget h.symm]

/-- A target has a dialect exactly if it was registered. -/
theorem mem_dialects_after :
    target ∈ (empty.after history).dialects ↔ ∃ r ∈ history, r.HasTarget target := by
  rw [Std.TreeMap.mem_iff_isSome_getElem?]
  have hlast := dialects_fromLast history target
  generalize (empty.after history).dialects[target]? = dialect? at hlast
  cases hlast with
  | found hlast => exact iff_of_true rfl ⟨_, hlast.mem, hlast.of_mem⟩
  | absent hnone => exact iff_of_false nofun fun ⟨r, hmem, htarget⟩ => hnone r hmem htarget

/-- What a registry makes of a name after a history is what the name stands for in the history. -/
theorem standsFor_resolve? (history : List Registration) (name : Text) :
    StandsFor history name ((empty.after history).resolve? name) := by
  have htarget : (empty.after history).targetOf name =
      (empty.after history).aliases[name.lowercase]?.getD name.lowercase := by
    rw [targetOf, Std.TreeMap.getD_eq_getD_getElem?]
  have hresolve : ∀ target, (empty.after history).targetOf name = target →
      target ∈ (empty.after history).dialects →
      (empty.after history).resolve? name = some target :=
    fun target heq hmem => resolve?_eq_some_iff.mpr ⟨heq, hmem⟩
  have hlast := aliases_fromLast history name
  generalize (empty.after history).aliases[name.lowercase]? = alias? at htarget hlast
  cases hlast with
  | @found r hlast =>
    -- the registration has registered its own target as well
    rw [hresolve _ htarget (mem_dialects_after.mpr ⟨r, hlast.mem, rfl⟩)]
    exact .byAlias hlast
  | absent hnone =>
    by_cases hmem : name.lowercase ∈ (empty.after history).dialects
    · obtain ⟨r, hr, hown⟩ := mem_dialects_after.mp hmem
      rw [hresolve _ htarget hmem]
      exact .byTarget hnone hr hown
    · have hunknown : (empty.after history).resolve? name = none := by
        refine Option.eq_none_iff_forall_ne_some.mpr fun target hsome => hmem ?_
        obtain ⟨heq, hmem⟩ := resolve?_eq_some_iff.mp hsome
        rwa [← htarget.symm.trans heq] at hmem
      rw [hunknown]
      refine .unknown fun r hr => ⟨hnone r hr, fun hown => hmem ?_⟩
      exact mem_dialects_after.mpr ⟨r, hr, hown⟩

/-- An escaper is created for a name that stands for a target, with the dialect that was registered
for it last. -/
theorem create_eq_ok_iff {text : Option TextEscaper} {escaper : Escaper} :
    (empty.after history).create name text = .ok escaper ↔
      ∃ target r, (empty.after history).resolve? name = some target ∧
        IsLast (·.HasTarget target) history r ∧ escaper = .ofDialect r.dialect text := by
  constructor
  · intro h
    -- the dialect that is found was put there by the last registration of the target
    have hlast := dialects_fromLast history ((empty.after history).targetOf name)
    rw [create] at h
    generalize hdialect : (empty.after history).dialects[(empty.after history).targetOf name]? =
      dialect? at h hlast
    cases hlast with
    | @found r hlast =>
      cases h
      have hmem : (empty.after history).targetOf name ∈ (empty.after history).dialects :=
        Std.TreeMap.mem_iff_isSome_getElem?.mpr (by rw [hdialect]; rfl)
      exact ⟨_, r, resolve?_eq_some_iff.mpr ⟨rfl, hmem⟩, hlast, rfl⟩
    | absent => cases h
  · rintro ⟨target, r, hresolve, hr, rfl⟩
    obtain ⟨rfl, -⟩ := resolve?_eq_some_iff.mp hresolve
    refine create_eq ?_ text
    have hlast := dialects_fromLast history ((empty.after history).targetOf name)
    generalize (empty.after history).dialects[(empty.after history).targetOf name]? = dialect?
      at hlast
    cases hlast with
    | found hlast => rw [hlast.eq hr]
    | absent hnone => exact absurd hr.of_mem (hnone r hr.mem)

/-- The one failure is a name that stands for nothing. -/
theorem create_eq_error_iff {registry : Registry} {text : Option TextEscaper}
    {error : QueryError} :
    registry.create name text = .error error ↔
      registry.resolve? name = none ∧ error = registry.unknown name := by
  rw [create, resolve?]
  cases hdialect : registry.dialects[registry.targetOf name]? with
  | some dialect =>
    have hmem : registry.dialects.contains (registry.targetOf name) = true := by
      rw [Std.TreeMap.contains_eq_isSome_getElem?, hdialect]
      rfl
    simp [hmem]
  | none =>
    have hmem : registry.dialects.contains (registry.targetOf name) = false := by
      rw [Std.TreeMap.contains_eq_isSome_getElem?, hdialect]
      rfl
    simp [hmem, eq_comm]

/-! ## The listed targets -/

theorem pairwise_targets (registry : Registry) : registry.targets.Pairwise (· < ·) :=
  Std.TreeMap.ordered_keys.imp Text.compare_eq_lt_iff.mp

/-- A name that is an alias goes on standing for a target, whatever is registered later. -/
theorem resolve?_ne_none_of_hasAlias {r : Registration} (hmem : r ∈ history)
    (halias : r.HasAlias name) (later : List Registration) :
    (empty.after (history ++ later)).resolve? name ≠ none := by
  intro hnone
  have hstands := standsFor_resolve? (history ++ later) name
  rw [hnone] at hstands
  cases hstands with
  | unknown hnone => exact (hnone r (List.mem_append_left later hmem)).1 halias

end Registry

/-- **What a registry answers, from its registrations alone.** Names are compared in lower case. A
name resolves to what it stands for after the registrations. The escaper that is made for it has the
dialect of the last registration of the target that it resolves to. None is made exactly if the name
does not resolve; the error then has the name, and the targets of all registrations, each once and
in ascending order. A name that has been made an alias resolves ever after. -/
theorem standsFor_iff (history : List Registration) (name : Text) (text : Option TextEscaper) :
    let registry := Registry.empty.after history
    (∀ target?, registry.resolve? name = target? ↔
      Registration.StandsFor history name target?) ∧
    (∀ escaper, registry.create name text = .ok escaper ↔
      ∃ target r, registry.resolve? name = some target ∧
        IsLast (·.HasTarget target) history r ∧ escaper = .ofDialect r.dialect text) ∧
    (∀ error, registry.create name text = .error error ↔
      registry.resolve? name = none ∧ error = .unknownTarget name registry.targets) ∧
    registry.targets.Pairwise (· < ·) ∧
    (∀ target, target ∈ registry.targets ↔ ∃ r ∈ history, r.HasTarget target) ∧
    ∀ later, (∃ r ∈ history, r.HasAlias name) →
      (Registry.empty.after (history ++ later)).resolve? name ≠ none := by
  intro registry
  have hstands : Registration.StandsFor history name (registry.resolve? name) :=
    Registry.standsFor_resolve? history name
  refine ⟨fun target? => ⟨fun h => h ▸ hstands, hstands.eq⟩, fun escaper =>
    Registry.create_eq_ok_iff, fun error => Registry.create_eq_error_iff,
    registry.pairwise_targets, fun target => ?_, fun later => ?_⟩
  · exact Std.TreeMap.mem_keys.trans Registry.mem_dialects_after
  · rintro ⟨r, hmem, halias⟩
    exact Registry.resolve?_ne_none_of_hasAlias hmem halias later

/-- A name that is an alias of two targets, and a target itself. -/
theorem standsFor_iff_of_shadowed :
    let history : List Registration := [⟨"A".toList, .mysql, ["N".toList]⟩,
      ⟨"b".toList, .postgres, ["n".toList, "m".toList]⟩, ⟨"n".toList, .sqlite, []⟩,
      ⟨"B".toList, .sqlite, []⟩]
    let registry := Registry.empty.after history
    registry.resolve? "N".toList = some "b".toList ∧
      registry.create "N".toList none = .ok (.ofDialect .sqlite none) ∧
      (∃ r ∈ history, r.HasAlias "N".toList) ∧
      (Registry.empty.after (history ++ [⟨"N".toList, .mysql, []⟩])).resolve? "N".toList ≠ none := by
  intro history registry
  obtain ⟨hresolve, hcreate, -, -, -, hlater⟩ := standsFor_iff history "N".toList none
  let second : Registration := ⟨"b".toList, .postgres, ["n".toList, "m".toList]⟩
  let later : List Registration := [⟨"n".toList, .sqlite, []⟩, ⟨"B".toList, .sqlite, []⟩]
  have hsecond : second.HasAlias "N".toList := by decide +kernel
  have hnone : ∀ r ∈ later, ¬ r.HasAlias "N".toList := by decide +kernel
  have hlast : IsLast (·.HasAlias "N".toList) history second :=
    ⟨[_], later, rfl, hsecond, hnone⟩
  have hdialect : IsLast (·.HasTarget "b".toList) history ⟨"B".toList, .sqlite, []⟩ :=
    ⟨[_, _, _], [], rfl, by rfl, nofun⟩
  have hb : registry.resolve? "N".toList = some "b".toList :=
    (hresolve _).mpr (.byAlias hlast)
  have halias : ∃ r ∈ history, r.HasAlias "N".toList := ⟨_, hlast.mem, hlast.of_mem⟩
  exact ⟨hb, (hcreate _).mpr ⟨_, _, hb, hdialect, rfl⟩, halias, hlater _ halias⟩

end SqlTemplate
