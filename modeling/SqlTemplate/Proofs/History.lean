import SqlTemplate.Proofs.Lowercase
import SqlTemplate.Registry

/-!
# Histories of a registry

A registry only changes by registrations. `Registry.after` is what a list of them makes of a
registry, and `Registry.Sound` is what holds after every list (`sound_after`): targets are in lower
case, and each alias stands for a registered target. So a name that stands for a target can be
followed once more, and stands for a target again (`Sound.targetOf_mem`).
-/

namespace SqlTemplate

/-- A dialect with the names that it is registered under. -/
structure Registration where
  target : Text
  dialect : Dialect
  aliases : List Text

namespace Registration

/-- The registrations that the dialects of the library come from. -/
def builtIn : List Registration := [
  ⟨"mysql".toList, .mysql, ["mariadb".toList]⟩,
  ⟨"postgres".toList, .postgres, ["postgresql".toList]⟩,
  ⟨"sqlite".toList, .sqlite, []⟩]

/-- The target that a name in lower case was last made an alias of. -/
def aliasTarget? (history : List Registration) (name : Text) : Option Text :=
  history.reverse.findSome? fun r =>
    if name ∈ r.aliases.map Text.lowercase then some r.target.lowercase else none

end Registration

namespace Registry

/-- The registry after registrations, the first of them first. -/
def after (registry : Registry) (registrations : List Registration) : Registry :=
  registrations.foldl (fun registry r => registry.register r.target r.dialect r.aliases) registry

/-- What holds of every registry that is made by registrations. -/
structure Sound (registry : Registry) : Prop where
  lowercase_target : ∀ target ∈ registry.dialects, target.lowercase = target
  alias_registered : ∀ (name target : Text), registry.aliases[name]? = some target →
    target ∈ registry.dialects

variable {registry : Registry} {name target : Text}

/-! ## One registration -/

theorem mem_dialects_register {dialect : Dialect} {aliases : List Text} :
    name ∈ (registry.register target dialect aliases).dialects ↔
      name = target.lowercase ∨ name ∈ registry.dialects := by
  rw [register, Std.TreeMap.mem_insert, Std.compare_eq_iff_eq, eq_comm]

/-- Names that are inserted one by one lead to the target, and all others to where they have led. -/
theorem getElem?_foldl_insert (names : List Text) (known : Std.TreeMap Text Text) :
    (names.foldl (fun known name => known.insert name.lowercase target) known)[name]? =
      if name ∈ names.map Text.lowercase then some target else known[name]? := by
  induction names generalizing known with
  | nil => rfl
  | cons a names ih =>
    -- all names are inserted for one target, so it does not matter which came last
    rw [List.foldl_cons, ih, Std.TreeMap.getElem?_insert, List.map_cons]
    by_cases hmem : name ∈ names.map Text.lowercase
    · rw [if_pos hmem, if_pos (List.mem_cons_of_mem _ hmem)]
    · rw [if_neg hmem]
      by_cases ha : a.lowercase = name
      · rw [if_pos (Std.compare_eq_iff_eq.mpr ha), if_pos (ha ▸ List.mem_cons_self)]
      · rw [if_neg fun h => ha (Std.compare_eq_iff_eq.mp h), if_neg]
        exact fun h => (List.mem_cons.mp h).elim (fun h => ha h.symm) hmem

/-- A registration leads its aliases to its target, and leaves all others. -/
theorem aliases_register {dialect : Dialect} {aliases : List Text} :
    (registry.register target dialect aliases).aliases[name]? =
      if name ∈ aliases.map Text.lowercase then some target.lowercase
      else registry.aliases[name]? :=
  getElem?_foldl_insert aliases registry.aliases

/-- A registration keeps a registry sound. -/
theorem Sound.register (h : registry.Sound) (target : Text) (dialect : Dialect)
    (aliases : List Text) : (registry.register target dialect aliases).Sound where
  lowercase_target := by
    intro name hname
    rcases mem_dialects_register.mp hname with rfl | hname
    · exact Text.lowercase_lowercase target
    · exact h.lowercase_target name hname
  alias_registered := by
    intro name target' halias
    rw [aliases_register] at halias
    rw [mem_dialects_register]
    split at halias
    · cases halias
      exact .inl rfl
    · exact .inr (h.alias_registered name target' halias)

/-! ## Histories -/

theorem Sound.after (h : registry.Sound) (registrations : List Registration) :
    (registry.after registrations).Sound := by
  induction registrations generalizing registry with
  | nil => exact h
  | cons r registrations ih => exact ih (h.register r.target r.dialect r.aliases)

theorem sound_empty : empty.Sound where
  lowercase_target := by
    intro target htarget
    exact absurd htarget Std.TreeMap.not_mem_emptyc
  alias_registered := by
    intro name target halias
    exact absurd halias (by simp [empty])

/-- Every registry that is reached from the one with the dialects of the library is sound. -/
theorem sound_after (registrations : List Registration) : (standard.after registrations).Sound :=
  (((sound_empty.register _ _ _).register _ _ _).register _ _ _).after registrations

/-- What the library starts with are registrations like any others, made before. -/
theorem standard_after (registrations : List Registration) :
    standard.after registrations = empty.after (Registration.builtIn ++ registrations) := by
  rw [after, after, List.foldl_append]
  rfl

/-- Of the registrations with a name as an alias, the last decides what the name stands for. -/
theorem aliases_after (history : List Registration) (name : Text) :
    (registry.after history).aliases[name]? =
      (Registration.aliasTarget? history name).or registry.aliases[name]? := by
  induction history generalizing registry with
  | nil => rfl
  | cons r history ih =>
    have hrest : ((registry.register r.target r.dialect r.aliases).after history).aliases[name]? =
        _ := ih
    rw [aliases_register] at hrest
    show (Registry.after _ history).aliases[name]? = _
    rw [hrest, Registration.aliasTarget?, Registration.aliasTarget?, List.reverse_cons,
      List.findSome?_append, Option.or_assoc]
    by_cases hmem : name ∈ r.aliases.map Text.lowercase
    · simp only [List.findSome?_cons, if_pos hmem, Option.some_or]
    · simp only [List.findSome?_cons, List.findSome?_nil, if_neg hmem, Option.none_or]

/-! ## Names -/

/-- A name is resolved to the target that it leads to, if that has a dialect. -/
theorem resolve?_eq_some_iff :
    registry.resolve? name = some target ↔
      registry.targetOf name = target ∧ target ∈ registry.dialects := by
  unfold resolve?
  simp only
  split
  · rename_i h
    rw [Option.some_inj]
    exact ⟨fun heq => ⟨heq, heq ▸ Std.TreeMap.mem_iff_contains.mpr h⟩, And.left⟩
  · rename_i h
    refine ⟨nofun, ?_⟩
    rintro ⟨rfl, hmem⟩
    exact absurd (Std.TreeMap.mem_iff_contains.mp hmem) h

theorem create_eq {dialect : Dialect}
    (h : registry.dialects[registry.targetOf name]? = some dialect) (text : Option TextEscaper) :
    registry.create name text = .ok (.ofDialect dialect text) := by
  rw [create, h]

/-- A target that is taken for a name stands for a target, be it itself or another. -/
theorem Sound.targetOf_mem (h : registry.Sound) (hmem : target ∈ registry.dialects) :
    registry.targetOf target ∈ registry.dialects := by
  rw [targetOf, h.lowercase_target target hmem, Std.TreeMap.getD_eq_getD_getElem?]
  cases halias : registry.aliases[target]? with
  | none => exact hmem
  | some other => exact h.alias_registered target other halias

end Registry

end SqlTemplate
