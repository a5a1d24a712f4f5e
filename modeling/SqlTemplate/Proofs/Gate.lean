import SqlTemplate.Proofs.OneToken
import SqlTemplate.Proofs.Outcome

/-!
# Options are gates

Options never change what a build gives. They decide whether a build may go on: past arguments that
no placeholder takes, and past a collection without items. `GatedBy` says that one computation does
what another one does, unless it is stopped at a gate; it is kept by every way of putting
computations together, so each stage of a build is gated because the one or two checks in it are.

* `Options.Gate` lists the gates, with what is known where a build is stopped at one.
* `Builder.fillTokens_append` says that arguments which no placeholder takes are never looked at.
* `options_gate` puts the two together.
-/

namespace SqlTemplate

/-- The first computation does what the second one does, unless it is stopped for a cause
with `P`. -/
inductive GatedBy {ε α : Type} (P : ε → Prop) : Except ε α → Except ε α → Prop
  | same (x : Except ε α) : GatedBy P x x
  | stopped {cause : ε} (hcause : P cause) (y : Except ε α) : GatedBy P (.error cause) y

namespace GatedBy

variable {ε α β : Type} {P : ε → Prop} {x y : Except ε α} {f g : α → Except ε β}

theorem bind (h : GatedBy P x y) (hfg : ∀ a, GatedBy P (f a) (g a)) :
    GatedBy P (x >>= f) (y >>= g) := by
  cases h with
  | same => cases x with
    | ok a => exact hfg a
    | error cause => exact .same _
  | stopped hcause => exact .stopped hcause _

/-- Behind a computation that is not gated, the gates may depend on its value. -/
theorem bind_same (x : Except ε α) (hfg : ∀ a, x = .ok a → GatedBy P (f a) (g a)) :
    GatedBy P (x >>= f) (x >>= g) := by
  cases x with
  | ok a => exact hfg a rfl
  | error cause => exact .same _

theorem map (h : GatedBy P x y) (f : α → β) : GatedBy P (x.map f) (y.map f) := by
  cases h with
  | same => exact .same _
  | stopped hcause => exact .stopped hcause _

/-- A computation that got past all gates did what the other one does. -/
theorem eq_of_ok {a : α} (h : GatedBy P (.ok a) y) : y = .ok a := by
  cases h
  rfl

/-- A computation that fails was stopped at a gate, or fails as the other one does. -/
theorem error_or {cause : ε} (h : GatedBy P (.error cause) y) : y = .error cause ∨ P cause := by
  cases h with
  | same => exact .inl rfl
  | stopped hcause => exact .inr hcause

end GatedBy

namespace Options

/-- The options are for the same target as the strict ones, and allow whatever those allow. -/
structure AsLooseAs (loose strict : Options) : Prop where
  target : loose.target = strict.target
  extra : strict.allowExtraArgs = true → loose.allowExtraArgs = true
  empty : strict.allowEmptyArrays = true → loose.allowEmptyArrays = true

/-- What stops a build with the strict options where one with the loose options goes on: more
arguments than placeholders, or an empty collection for `?a` or `?#`. -/
inductive Gate (strict loose : Options) (template : Text) (arguments : Argument) : Fault → Prop
  | surplus {tokens : List Token} {items : List Argument}
    (hstrict : strict.allowExtraArgs = false) (hloose : loose.allowExtraArgs = true)
    (hscan : Token.scan template = .ok tokens) (hitems : arguments.elements = .ok items)
    (hmore : Token.placeholderCount tokens < items.length) :
    Gate strict loose template arguments
      (.query (.argumentCount (Token.placeholderCount tokens) items.length))
  | empty {specifier : Text} (hstrict : strict.allowEmptyArrays = false)
    (hloose : loose.allowEmptyArrays = true) (hspecifier : specifier = ['a'] ∨ specifier = ['#']) :
    Gate strict loose template arguments (.query (.emptyArray specifier))

end Options

/-! ## From check to build -/

namespace Builder

variable {escaper : Escaper} {strict loose : Options} {template : Text} {arguments : Argument}

/-- The check for emptiness is the gate for collections without items. -/
theorem checkNotEmpty_gated (hloose : loose.AsLooseAs strict) {specifier : Specifier}
    (hspecifier : [specifier.char] = ['a'] ∨ [specifier.char] = ['#']) (argument : Argument) :
    GatedBy (strict.Gate loose template arguments)
      ((checkNotEmpty ⟨escaper, strict⟩ specifier argument).mapError Fault.query)
      ((checkNotEmpty ⟨escaper, loose⟩ specifier argument).mapError Fault.query) := by
  rw [checkNotEmpty, checkNotEmpty]
  dsimp only
  cases hstrict : strict.allowEmptyArrays with
  | true =>
    rw [hloose.empty hstrict]
    exact .same _
  | false =>
    cases hallowed : loose.allowEmptyArrays with
    | false => exact .same _
    | true =>
      -- only here does it matter whether there is anything in the collection
      cases argument.isEmptyCollection with
      | true => exact .stopped (.empty hstrict hallowed hspecifier) _
      | false => exact .same _

/-- An argument is written the same behind the gate, and only names and arrays have one. -/
theorem literal_gated (hloose : loose.AsLooseAs strict) (specifier : Option Specifier)
    (argument : Argument) :
    GatedBy (strict.Gate loose template arguments)
      (literal ⟨escaper, strict⟩ specifier argument).result
      (literal ⟨escaper, loose⟩ specifier argument).result := by
  match specifier with
  | none | some .integer | some .float => exact .same _
  | some .identifier =>
    rw [literal, literal, Traced.result_bind, Traced.result_bind]
    exact (checkNotEmpty_gated hloose (.inr rfl) argument).bind fun _ => .same _
  | some .array =>
    rw [literal, literal, Traced.result_bind, Traced.result_bind]
    exact (checkNotEmpty_gated hloose (.inl rfl) argument).bind fun _ => .same _

/-- A skip passes without being looked at. -/
theorem fillPlaceholder_gated (hloose : loose.AsLooseAs strict) (specifier : Option Specifier)
    (position : Int) (argument : Argument) :
    GatedBy (strict.Gate loose template arguments)
      (fillPlaceholder ⟨escaper, strict⟩ specifier position argument).result
      (fillPlaceholder ⟨escaper, loose⟩ specifier position argument).result := by
  rw [fillPlaceholder, fillPlaceholder]
  split
  · exact .same _
  · exact (literal_gated hloose specifier argument).map _

theorem fillToken_gated (hloose : loose.AsLooseAs strict) (argument? : Option Argument)
    (token : Token) :
    GatedBy (strict.Gate loose template arguments)
      (fillToken ⟨escaper, strict⟩ argument? token).result
      (fillToken ⟨escaper, loose⟩ argument? token).result := by
  match token, argument? with
  | .text .., _ | .brace .opening _, _ | .brace .closing _, _ | .placeholder .., none =>
    exact .same _
  | .placeholder specifier position, some argument =>
    exact fillPlaceholder_gated hloose specifier position argument

theorem fillTokens_gated (hloose : loose.AsLooseAs strict) (tokens : List Token)
    (items : List Argument) :
    GatedBy (strict.Gate loose template arguments)
      (fillTokens ⟨escaper, strict⟩ tokens items).result
      (fillTokens ⟨escaper, loose⟩ tokens items).result := by
  induction tokens generalizing items with
  | nil => exact .same _
  | cons token tokens ih =>
    rw [result_fillTokens_cons, result_fillTokens_cons]
    exact (fillToken_gated hloose items[0]? token).bind fun _ => (ih _).map _

/-- The count is the gate for arguments left over. -/
theorem checkCount_gated (hloose : loose.AsLooseAs strict) {tokens : List Token}
    {items : List Argument} (hscan : Token.scan template = .ok tokens)
    (hitems : arguments.elements = .ok items) :
    GatedBy (strict.Gate loose template arguments)
      ((checkCount ⟨escaper, strict⟩ (Token.placeholderCount tokens) items.length).mapError
        Fault.query)
      ((checkCount ⟨escaper, loose⟩ (Token.placeholderCount tokens) items.length).mapError
        Fault.query) := by
  rw [checkCount, checkCount]
  dsimp only
  cases hstrict : strict.allowExtraArgs with
  | true =>
    rw [hloose.extra hstrict]
    exact .same _
  | false =>
    cases hallowed : loose.allowExtraArgs with
    | false => exact .same _
    | true =>
      by_cases hmore : Token.placeholderCount tokens < items.length
      · rw [if_pos (by simp [hmore])]
        exact .stopped (.surplus hstrict hallowed hscan hitems hmore) _
      · -- with too few arguments, or just enough, the option is not asked
        simp only [hmore, decide_false, Bool.false_and]
        exact .same _

/-- A substitution has the gate of the count and those of its placeholders. -/
theorem substitute_gated (hloose : loose.AsLooseAs strict) (template : Text)
    (arguments : Argument) :
    GatedBy (strict.Gate loose template arguments)
      (substitute ⟨escaper, strict⟩ template arguments).result
      (substitute ⟨escaper, loose⟩ template arguments).result := by
  rw [result_substitute, result_substitute]
  refine .bind_same _ fun tokens hscan => .bind_same _ fun items hitems => ?_
  exact (checkCount_gated hloose (mapError_eq_ok _ hscan) hitems).bind fun _ =>
    (fillTokens_gated hloose tokens items).bind fun _ => .same _

/-- A build has no gates but those of its substitution: the resolution of blocks has no options. -/
theorem build_gated (hloose : loose.AsLooseAs strict) (template : Text) (arguments : Argument) :
    GatedBy (strict.Gate loose template arguments)
      (build ⟨escaper, strict⟩ template arguments).result
      (build ⟨escaper, loose⟩ template arguments).result := by
  rw [result_build, result_build, result_run, result_run]
  exact ((substitute_gated hloose template arguments).bind fun _ => .same _).map _

/-! ## Arguments left over -/

variable {builder : Builder}

/-- Arguments behind those that the placeholders take are never looked at. -/
theorem fillTokens_append {tokens : List Token} {items : List Argument}
    (hcount : Token.placeholderCount tokens ≤ items.length) (surplus : List Argument) :
    builder.fillTokens tokens (items ++ surplus) = builder.fillTokens tokens items := by
  induction tokens generalizing items with
  | nil => rfl
  | cons token tokens ih =>
    match token, items with
    | .text content position, items => rw [fillTokens, fillTokens, ih hcount]
    | .brace .opening position, items => rw [fillTokens, fillTokens, ih hcount]
    | .brace .closing position, items => rw [fillTokens, fillTokens, ih hcount]
    | .placeholder specifier position, items =>
      rw [Token.placeholderCount_placeholder] at hcount
      cases items with
      | nil => exact absurd hcount (Nat.not_succ_le_zero _)
      | cons argument items =>
        rw [List.cons_append, fillTokens, fillTokens, ih (Nat.le_of_succ_le_succ hcount)]

/-- Where arguments may be left over, the count only asks whether there are enough. -/
theorem checkCount_of_le (hextra : builder.options.allowExtraArgs = true) {expected supplied : Nat}
    (hle : expected ≤ supplied) : builder.checkCount expected supplied = .ok () := by
  simp [checkCount, hextra, Nat.not_lt.mpr hle]

/-- Where arguments may be left over, a substitution does not see them. -/
theorem substitute_append {others : Argument} {items surplus : List Argument}
    (hextra : builder.options.allowExtraArgs = true) (hitems : arguments.elements = .ok items)
    (hothers : others.elements = .ok (items ++ surplus))
    (hcount : ∀ tokens, Token.scan template = .ok tokens →
      Token.placeholderCount tokens ≤ items.length) :
    builder.substitute template others = builder.substitute template arguments := by
  cases hscan : Token.scan template with
  | error error =>
    rw [substitute, substitute, hscan]
    rfl
  | ok tokens =>
    have hle := hcount tokens hscan
    have hle' : Token.placeholderCount tokens ≤ (items ++ surplus).length := by
      rw [List.length_append]
      omega
    have hcounted : builder.Counted template items tokens := ⟨hscan, checkCount_of_le hextra hle⟩
    have hcounted' : builder.Counted template (items ++ surplus) tokens :=
      ⟨hscan, checkCount_of_le hextra hle'⟩
    rw [hcounted.substitute_eq hitems, hcounted'.substitute_eq hothers, fillTokens_append hle]

end Builder

/-- **Options only stop builds.** Take two options for the same target, where the loose ones allow
whatever the strict ones do. A build that succeeds with the strict options succeeds with the loose
ones, and gives the same SQL. A build that fails with the strict options fails with the loose ones
for the same cause, unless it was stopped at a gate. Where arguments may be left over, whatever
stands behind those that the placeholders take makes no difference: neither to the result, nor to
the texts that are handed over. -/
theorem options_gate (escaper : Escaper) (template : Text) (arguments : Argument)
    {strict loose : Options} (hloose : loose.AsLooseAs strict) :
    let first := Builder.build ⟨escaper, strict⟩ template arguments
    let second := Builder.build ⟨escaper, loose⟩ template arguments
    (∀ sql, first.result = .ok sql → second.result = .ok sql) ∧
    (∀ fault, first.result = .error fault →
      second.result = .error fault ∨ strict.Gate loose template arguments fault) ∧
    (loose.allowExtraArgs = true → ∀ items surplus others, arguments.elements = .ok items →
      others.elements = .ok (items ++ surplus) →
      (∀ tokens, Token.scan template = .ok tokens →
        Token.placeholderCount tokens ≤ items.length) →
      Builder.build ⟨escaper, loose⟩ template others = second) := by
  intro first second
  have hgated : GatedBy (strict.Gate loose template arguments) first.result second.result :=
    Builder.build_gated hloose template arguments
  refine ⟨fun sql h => ?_, fun fault h => ?_, fun hextra items surplus others hitems hothers
    hcount => ?_⟩
  · rw [h] at hgated
    exact hgated.eq_of_ok
  · rw [h] at hgated
    exact hgated.error_or
  · show Builder.build _ _ _ = Builder.build _ _ _
    rw [Builder.build, Builder.build, Builder.run, Builder.run,
      Builder.substitute_append hextra hitems hothers hcount]

/-- A surplus argument that has no SQL form, and an empty list. -/
theorem options_gate_of_surplus :
    let escaper : Escaper := .ofDialect .mysql none
    let strict : Options := { allowEmptyArrays := false }
    let loose : Options := { allowExtraArgs := true }
    let template : Text := "? \x7b?a\x7d".toList
    let items : List Argument := [.ofText ['x'], .skip]
    let whole : List Argument := items ++ [.complex (.zero false) (.zero false)]
    loose.AsLooseAs strict ∧
      (Builder.build ⟨escaper, loose⟩ template (.ofList items)).result = .ok "'x' ".toList ∧
      (Builder.build ⟨escaper, loose⟩ template (.ofList whole)).result = .ok "'x' ".toList ∧
      strict.Gate loose template (.ofList whole) (.query (.argumentCount 2 3)) ∧
      strict.Gate loose "?a".toList (.ofList [.ofList []]) (.query (.emptyArray ['a'])) := by
  intro escaper strict loose template items whole
  have hloose : loose.AsLooseAs strict := ⟨rfl, nofun, nofun⟩
  obtain ⟨hsame, -, hsurplus⟩ := options_gate escaper template (.ofList items) hloose
  have hitems : (Builder.build ⟨escaper, loose⟩ template (.ofList items)).result =
      .ok "'x' ".toList := hsame _ (by rfl)
  have hcount : ∀ tokens, Token.scan template = .ok tokens →
      Token.placeholderCount tokens ≤ items.length := by
    rintro _ ⟨⟩
    decide
  have hwhole := hsurplus rfl items [.complex (.zero false) (.zero false)] (.ofList whole) rfl rfl
    hcount
  -- with the loose options there is nothing wrong, so the strict ones have stopped at a gate
  have hcountGate := (options_gate escaper template (.ofList whole) hloose).2.1 _ (by rfl)
  have hemptyGate := (options_gate escaper "?a".toList (.ofList [.ofList []]) hloose).2.1 _ (by rfl)
  refine ⟨hloose, hitems, by rw [hwhole, hitems], hcountGate.resolve_left ?_,
    hemptyGate.resolve_left ?_⟩
  · rw [hwhole, hitems]
    exact nofun
  · exact nofun

end SqlTemplate
