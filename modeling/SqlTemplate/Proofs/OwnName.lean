import SqlTemplate.Proofs.History

/-!
# Targets under their own names

A dialect that is registered under a target should be found under it. The registry looks a name up
as an alias first, and a registration leaves the aliases of earlier ones as they are. So a target
that an earlier registration made an alias of another one is listed, but its name still leads to the
other. `IsOwnName` is the condition on the history under which it does not: then, and only then, a
new registration takes effect under its own name and a target resolves to itself (`own_name_iff`).
-/

namespace SqlTemplate

/-- Whether a name in lower case never stands for another: if it has been made an alias, then the
last time of itself. -/
def Registration.IsOwnName (history : List Registration) (name : Text) : Prop :=
  ∀ other, aliasTarget? history name = some other → other = name

namespace Registry

variable {registry : Registry} {history : List Registration} {name target : Text}

theorem targetOf_after (history : List Registration) (name : Text) :
    (empty.after history).targetOf name =
      (Registration.aliasTarget? history name.lowercase).getD name.lowercase := by
  have hempty : empty.aliases[name.lowercase]? = none := Std.TreeMap.getElem?_emptyc
  rw [targetOf, Std.TreeMap.getD_eq_getD_getElem?, aliases_after, hempty, Option.or_none]

theorem targetOf_eq_self_iff (hname : name.lowercase = name) :
    (empty.after history).targetOf name = name ↔ Registration.IsOwnName history name := by
  rw [targetOf_after, hname, Registration.IsOwnName]
  cases Registration.aliasTarget? history name with
  | none => simp
  | some other => simp

/-- A registered target resolves to itself exactly if its name is its own. -/
theorem resolve?_target_iff (hname : name.lowercase = name)
    (hmem : name ∈ (empty.after history).dialects) :
    (empty.after history).resolve? name = some name ↔ Registration.IsOwnName history name := by
  rw [resolve?_eq_some_iff, targetOf_eq_self_iff hname]
  exact ⟨And.left, fun hown => ⟨hown, hmem⟩⟩

/-- A registration whose aliases leave its target out does not change what the target stands for. -/
theorem targetOf_register (registry : Registry) (dialect : Dialect) {aliases : List Text}
    (haliases : target.lowercase ∉ aliases.map Text.lowercase)
    (hname : name.lowercase = target.lowercase) :
    (registry.register target dialect aliases).targetOf name = registry.targetOf name := by
  rw [targetOf, targetOf, Std.TreeMap.getD_eq_getD_getElem?, Std.TreeMap.getD_eq_getD_getElem?,
    hname, aliases_register, if_neg haliases]

theorem dialects_register {dialect : Dialect} {aliases : List Text} :
    (registry.register target dialect aliases).dialects[name]? =
      if name = target.lowercase then some dialect else registry.dialects[name]? := by
  rw [register, Std.TreeMap.getElem?_insert]
  by_cases hname : name = target.lowercase
  · rw [if_pos hname, if_pos (Std.compare_eq_iff_eq.mpr hname.symm)]
  · rw [if_neg hname, if_neg fun h => hname (Std.compare_eq_iff_eq.mp h).symm]

/-- What the target of a new registration leads to: another target that it has been made an alias
of, or else the dialect that is registered. -/
theorem create_register (h : registry.Sound) (dialect : Dialect) {aliases : List Text}
    (haliases : target.lowercase ∉ aliases.map Text.lowercase)
    (hname : name.lowercase = target.lowercase) (text : Option TextEscaper) :
    ∃ dialect', (registry.register target dialect aliases).create name text =
        .ok (.ofDialect dialect' text) ∧
      (dialect' = dialect ↔ registry.targetOf name = target.lowercase ∨
        registry.dialects[registry.targetOf name]? = some dialect) := by
  have htarget := targetOf_register registry dialect haliases hname
  by_cases hown : registry.targetOf name = target.lowercase
  · refine ⟨dialect, create_eq ?_ text, ?_⟩
    · rw [htarget, dialects_register, if_pos hown]
    · exact ⟨fun _ => .inl hown, fun _ => rfl⟩
  · -- the name is an alias, and an alias stands for a target that is registered already
    have halias : registry.aliases[name.lowercase]? = some (registry.targetOf name) := by
      rw [targetOf, Std.TreeMap.getD_eq_getD_getElem?] at hown ⊢
      cases hget : registry.aliases[name.lowercase]? with
      | none => rw [hget, Option.getD_none, hname] at hown; exact absurd rfl hown
      | some other => rfl
    have hmem : registry.targetOf name ∈ registry.dialects := h.alias_registered _ _ halias
    obtain ⟨dialect', hdialect'⟩ :
        ∃ dialect', registry.dialects[registry.targetOf name]? = some dialect' :=
      Option.isSome_iff_exists.mp (Std.TreeMap.mem_iff_isSome_getElem?.mp hmem)
    refine ⟨dialect', create_eq ?_ text, ?_⟩
    · rw [htarget, dialects_register, if_neg hown, hdialect']
    · rw [hdialect', Option.some_inj]
      exact ⟨.inr, fun heq => heq.resolve_left hown⟩

end Registry

/-- **When a registration takes effect under its own name.** After any registrations, a further one
whose aliases leave its target out: looking its target up, in any case of ASCII letters, always
gives an escaper, and gives one for its dialect exactly if the name is the target's own, or the
other target that it stands for has the dialect too. A target that is listed resolves to itself
exactly if its name is its own, and so a name that resolves, resolved twice, gives the same target
exactly if the name of that target is its own. -/
theorem own_name_iff (registrations : List Registration) :
    let history := Registration.builtIn ++ registrations
    let registry := Registry.standard.after registrations
    (∀ (r : Registration) (name : Text) (text : Option TextEscaper),
      r.target.lowercase ∉ r.aliases.map Text.lowercase →
      name.map Char.toLower = r.target.map Char.toLower →
      ∃ dialect, (Registry.standard.after (registrations ++ [r])).create name text =
          .ok (.ofDialect dialect text) ∧
        (dialect = r.dialect ↔ Registration.IsOwnName history r.target.lowercase ∨
          ∃ other, Registration.aliasTarget? history r.target.lowercase = some other ∧
            registry.dialects[other]? = some r.dialect)) ∧
    (∀ name ∈ registry.targets,
      (registry.resolve? name = some name ↔ Registration.IsOwnName history name)) ∧
    ∀ name target, registry.resolve? name = some target →
      ((registry.resolve? name).bind registry.resolve? = registry.resolve? name ↔
        Registration.IsOwnName history target) := by
  intro history registry
  have hsound : registry.Sound := Registry.sound_after registrations
  have hregistry : registry = Registry.empty.after history :=
    Registry.standard_after registrations
  -- the last two parts are this one fact, for listed names and for the targets of others
  have hself : ∀ name ∈ registry.dialects,
      (registry.resolve? name = some name ↔ Registration.IsOwnName history name) := by
    intro name hmem
    have hname : name.lowercase = name := hsound.lowercase_target name hmem
    rw [hregistry] at hmem ⊢
    exact Registry.resolve?_target_iff hname hmem
  refine ⟨?_, ?_, ?_⟩
  · intro r name text haliases hname
    -- the new registration is looked up as the registry was before it, since it has no alias for
    -- itself
    have hlower : name.lowercase = r.target.lowercase := Text.lowercase_eq_of_toLower hname
    obtain ⟨dialect, hcreate, hdialect⟩ :=
      Registry.create_register hsound r.dialect haliases hlower text
    have hafter : Registry.standard.after (registrations ++ [r]) =
        registry.register r.target r.dialect r.aliases := List.foldl_append
    refine ⟨dialect, hafter ▸ hcreate, hdialect.trans ?_⟩
    have htarget : registry.targetOf name =
        (Registration.aliasTarget? history r.target.lowercase).getD r.target.lowercase := by
      rw [hregistry, Registry.targetOf_after, hlower]
    rw [htarget, Registration.IsOwnName]
    cases Registration.aliasTarget? history r.target.lowercase with
    | none => simp
    | some other => simp
  · intro name hname
    exact hself name (Std.TreeMap.mem_keys.mp hname)
  · intro name target hresolve
    rw [hresolve, Option.bind_some]
    exact hself target (Registry.resolve?_eq_some_iff.mp hresolve).2

/-- A target that was made an alias of another one, and then of itself, has its own name back. -/
theorem own_name_iff_of_alias :
    let registrations : List Registration := [⟨"a".toList, .sqlite, ["b".toList]⟩,
      ⟨"b".toList, .sqlite, ["B".toList]⟩]
    let registry := Registry.standard.after registrations
    let r : Registration := ⟨"b".toList, .postgres, ["c".toList]⟩
    r.target.lowercase ∉ r.aliases.map Text.lowercase ∧
      "B".toList.map Char.toLower = r.target.map Char.toLower ∧
      (Registry.standard.after (registrations ++ [r])).create "B".toList none =
        .ok (.ofDialect .postgres none) ∧
      "b".toList ∈ registry.targets ∧ registry.resolve? "b".toList = some "b".toList ∧
      registry.resolve? "MariaDB".toList = some "mysql".toList ∧
      (registry.resolve? "MariaDB".toList).bind registry.resolve? =
        registry.resolve? "MariaDB".toList := by
  intro registrations registry r
  obtain ⟨hregister, hlisted, htwice⟩ := own_name_iff registrations
  have haliases : r.target.lowercase ∉ r.aliases.map Text.lowercase := by decide +kernel
  have hname : "B".toList.map Char.toLower = r.target.map Char.toLower := by rfl
  have hown : Registration.IsOwnName (Registration.builtIn ++ registrations) "b".toList := by
    intro other hother
    exact (Option.some_inj.mp hother).symm
  have hmysql : Registration.IsOwnName (Registration.builtIn ++ registrations) "mysql".toList :=
    nofun
  have hmem : "b".toList ∈ registry.targets := by decide +kernel
  have hresolve : registry.resolve? "MariaDB".toList = some "mysql".toList := by decide +kernel
  obtain ⟨dialect, hcreate, hdialect⟩ := hregister r "B".toList none haliases hname
  refine ⟨haliases, hname, ?_, hmem, (hlisted _ hmem).mpr hown, hresolve,
    (htwice _ _ hresolve).mpr hmysql⟩
  rw [hcreate, hdialect.mpr (.inl hown)]

/-- A dialect that is registered as `mariadb` is listed, but the name still leads to `mysql`. -/
theorem own_name_ne_of_mariadb :
    let name := "mariadb".toList
    let registry := Registry.standard.after [⟨name, .sqlite, []⟩]
    registry.create name none = .ok (.ofDialect .mysql none) ∧
      Escaper.ofDialect .mysql none ≠ .ofDialect .sqlite none ∧
      name ∈ registry.targets ∧ registry.resolve? name = some "mysql".toList :=
  ⟨by rfl, fun h => absurd (congrArg (·.dialect.escaperName) h) (by decide), by decide +kernel,
    by decide +kernel⟩

end SqlTemplate
