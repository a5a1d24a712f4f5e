import SqlTemplate.Engine
import SqlTemplate.Proofs.History

/-!
# Escapers without a connection

There are three ways to an escaper for a dialect when there is no connection: from the registry
directly, through a builder without a connection, and for an engine whose text literals know
backslashes. The first takes the text escaper that the dialect's own name calls for. The other two
take the one that the target calls for, and look the target up as a name once more. So they always
agree with each other, and with the first exactly if the target is the name of the dialect, as far
as `mysql` is concerned, and is not an alias that leads elsewhere (`offline_eq_iff`).
-/

namespace SqlTemplate

namespace Registry

variable {registry : Registry} {name target : Text} {dialect : Dialect}

/-- Without a connection the text escaper goes by the name of the target. -/
theorem builderFor_absent (options : Options) (hresolve : registry.resolve? name = some target)
    (h : registry.dialects[registry.targetOf target]? = some dialect) :
    registry.builderFor .absent { options with target := name } =
      .ok ⟨⟨dialect, .ofTarget target⟩, { options with target := name }⟩ := by
  unfold builderFor
  simp only [hresolve, Connection.textEscaper]
  show ((registry.create target (some (.ofTarget target))).bind fun escaper => _) = _
  rw [create_eq h]
  rfl

theorem escaperFor_backslashEscapes (quoteIdentifier : Text → Text)
    (hresolve : registry.resolve? name = some target)
    (h : registry.dialects[registry.targetOf target]? = some dialect) :
    registry.escaperFor ⟨name, quoteIdentifier, true⟩ none =
      .ok ⟨dialect, .ofTarget target⟩ := by
  unfold escaperFor
  simp only [hresolve, Bool.not_true, Bool.and_false, Bool.false_eq_true, if_false]
  exact create_eq h _

end Registry

theorem TextEscaper.ofTarget_eq_iff (target target' : Text) :
    TextEscaper.ofTarget target = .ofTarget target' ↔
      (target = "mysql".toList ↔ target' = "mysql".toList) := by
  unfold TextEscaper.ofTarget
  split <;> split <;> simp_all

/-- A quote alone shows which of the two text escapers there is. -/
theorem result_render_quote (dialect : Dialect) (target : Text) :
    (Escaper.render ⟨dialect, .ofTarget target⟩ (.text ['\''])).result =
      .ok (if target = "mysql".toList then ['\'', '\\', '\'', '\'']
        else ['\'', '\'', '\'', '\'']) := by
  rw [Escaper.render, Escaper.result_textLiteral, TextEscaper.ofTarget]
  split <;> rfl

/-- Two text escapers that differ write a quote in two ways. -/
theorem render_quote_ne {dialect : Dialect} {target target' : Text}
    (h : TextEscaper.ofTarget target ≠ .ofTarget target') :
    (Escaper.render ⟨dialect, .ofTarget target⟩ (.text ['\''])).result ≠
      (Escaper.render ⟨dialect, .ofTarget target'⟩ (.text ['\''])).result := by
  rw [result_render_quote, result_render_quote]
  rw [Ne, TextEscaper.ofTarget_eq_iff] at h
  intro heq
  split at heq <;> split at heq <;> simp_all

/-- **When the ways to an escaper without a connection agree.** After any registrations, take a name
that stands for a target, and so for the dialect of the target. All three ways give an escaper. The
builder and the engine always give the same one. It is the one from the registry exactly if the
target, taken for a name, still leads to the dialect, and is `mysql` exactly if the dialect's own
name is. Escapers of one dialect that differ also write a single quote differently. -/
theorem offline_eq_iff (registrations : List Registration) (name target : Text)
    (options : Options) (quoteIdentifier : Text → Text)
    (hresolve : (Registry.standard.after registrations).resolve? name = some target) :
    let registry := Registry.standard.after registrations
    ∃ dialect direct offline, registry.dialects[target]? = some dialect ∧
      registry.create name none = .ok direct ∧ direct.dialect = dialect ∧
      (registry.builderFor .absent { options with target := name }).map (·.escaper) =
        .ok offline ∧
      registry.escaperFor ⟨name, quoteIdentifier, true⟩ none = .ok offline ∧
      (direct = offline ↔ registry.dialects[registry.targetOf target]? = some dialect ∧
        (dialect.name = "mysql".toList ↔ target = "mysql".toList)) ∧
      (direct ≠ offline → offline.dialect = dialect →
        (direct.render (.text ['\''])).result ≠ (offline.render (.text ['\''])).result) := by
  intro registry
  have hsound : registry.Sound := Registry.sound_after registrations
  obtain ⟨htarget, hmem⟩ := Registry.resolve?_eq_some_iff.mp hresolve
  obtain ⟨dialect, hdialect⟩ : ∃ dialect, registry.dialects[target]? = some dialect :=
    Option.isSome_iff_exists.mp (Std.TreeMap.mem_iff_isSome_getElem?.mp hmem)
  -- the second look-up cannot fail, but it may find another dialect
  obtain ⟨dialect', hdialect'⟩ :
      ∃ dialect', registry.dialects[registry.targetOf target]? = some dialect' :=
    Option.isSome_iff_exists.mp (Std.TreeMap.mem_iff_isSome_getElem?.mp (hsound.targetOf_mem hmem))
  have hdirect : registry.dialects[registry.targetOf name]? = some dialect := htarget ▸ hdialect
  refine ⟨dialect, ⟨dialect, .ofTarget dialect.name⟩, ⟨dialect', .ofTarget target⟩, hdialect,
    Registry.create_eq hdirect none, rfl, ?_,
    Registry.escaperFor_backslashEscapes quoteIdentifier hresolve hdialect', ?_, ?_⟩
  · rw [Registry.builderFor_absent options hresolve hdialect']
    rfl
  · rw [Escaper.mk.injEq, hdialect', Option.some_inj, TextEscaper.ofTarget_eq_iff,
      eq_comm (a := dialect)]
  · rintro hne rfl
    refine render_quote_ne fun htext => hne ?_
    rw [htext]

/-- Another name of `mysql`, in capitals. -/
theorem offline_eq_iff_of_mariadb :
    let registry := Registry.standard.after []
    let options : Options := {}
    registry.resolve? "MariaDB".toList = some "mysql".toList ∧
      ∃ direct offline, registry.create "MariaDB".toList none = .ok direct ∧
        (registry.builderFor .absent { options with target := "MariaDB".toList }).map (·.escaper) =
          .ok offline ∧
        registry.escaperFor ⟨"MariaDB".toList, id, true⟩ none = .ok offline ∧ direct = offline := by
  intro registry options
  have hresolve : registry.resolve? "MariaDB".toList = some "mysql".toList := by rfl
  obtain ⟨dialect, direct, offline, hdialect, hdirect, -, hoffline, hengine, hiff, -⟩ :=
    offline_eq_iff [] "MariaDB".toList "mysql".toList options id hresolve
  refine ⟨hresolve, direct, offline, hdirect, hoffline, hengine, hiff.mpr ⟨hdialect, ?_⟩⟩
  obtain rfl : Dialect.mysql = dialect := Option.some_inj.mp hdialect
  exact ⟨fun _ => rfl, fun _ => rfl⟩

/-- Under a target of another name, `mysql` escapes with backslashes only if it comes from the
registry directly. -/
theorem offline_ne_of_mssql :
    let name := "mssql".toList
    let registry := Registry.standard.after [⟨name, .mysql, []⟩]
    let options : Options := {}
    registry.resolve? name = some name ∧
      registry.create name none = .ok ⟨.mysql, .backslash⟩ ∧
      (registry.builderFor .absent { options with target := name }).map (·.escaper) =
        .ok ⟨.mysql, .standard⟩ ∧
      registry.escaperFor ⟨name, id, true⟩ none = .ok ⟨.mysql, .standard⟩ ∧
      (Escaper.render ⟨.mysql, .backslash⟩ (.text ['\''])).result ≠
        (Escaper.render ⟨.mysql, .standard⟩ (.text ['\''])).result :=
  ⟨by rfl, by rfl, by rfl, by rfl, by simp [Escaper.render, TextEscaper.escape,
    TextEscaper.backslashChar, Text.double, Except.map]⟩

/-- An alias that is a target as well leads the target to another dialect. -/
example :
    let registry := Registry.standard.after
      [⟨"a".toList, .sqlite, ["b".toList]⟩, ⟨"c".toList, .postgres, ["a".toList]⟩]
    let options : Options := {}
    registry.create "b".toList none = .ok ⟨.sqlite, .standard⟩ ∧
      (registry.builderFor .absent { options with target := "b".toList }).map (·.escaper) =
        .ok ⟨.postgres, .standard⟩ :=
  ⟨by rfl, by rfl⟩

end SqlTemplate
