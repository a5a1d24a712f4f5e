import SqlTemplate.Proofs.Slots

/-!
# How a build can end

A build goes through four stages, and ends in the first that fails. `Builder.Outcome` lists the ways
in which it can end, each with what is known then of the stages that were passed
(`Builder.Counted`, `Builder.Filled`). `Builder.build_outcome` says that there are no others, and
`Builder.Outcome.result_eq` that a build ends in no other way than its stages say. What a build can
fail for, and what it can give, is read off this list.
-/

namespace SqlTemplate

namespace Builder

/-- The template can be scanned, and there are as many arguments as there have to be. -/
structure Counted (builder : Builder) (template : Text) (items : List Argument)
    (tokens : List Token) : Prop where
  scan : Token.scan template = .ok tokens
  count : builder.checkCount (Token.placeholderCount tokens) items.length = .ok ()

/-- The template can be filled in as well. -/
structure Filled (builder : Builder) (template : Text) (items : List Argument)
    (tokens : List Token) (fragments : List Fragment) : Prop
    extends Counted builder template items tokens where
  fill : (builder.fillTokens tokens items).result = .ok fragments

/-- How a build can end. -/
inductive Outcome (builder : Builder) (template : Text) (items : List Argument) :
    Except Fault Text → Prop
  | scan {error : QueryError} (hscan : Token.scan template = .error error) :
    Outcome builder template items (.error (.query error))
  | count {tokens : List Token} {error : QueryError} (hscan : Token.scan template = .ok tokens)
    (hcount : builder.checkCount (Token.placeholderCount tokens) items.length = .error error) :
    Outcome builder template items (.error (.query error))
  | slot {tokens : List Token} {slot : Slot} {fault : Fault}
    (hcounted : builder.Counted template items tokens)
    (hfirst : builder.firstUnfilled? (Token.slots tokens items) = some slot)
    (hslot : builder.slotFault? slot = some fault) :
    Outcome builder template items (.error fault)
  | blocks {tokens : List Token} {fragments : List Fragment} {error : QueryError}
    (hfilled : builder.Filled template items tokens fragments)
    (hresolve : Resolution.ofFragments fragments = .error error) :
    Outcome builder template items (.error (.query error))
  | sql {tokens : List Token} {fragments : List Fragment} {resolution : Resolution}
    (hfilled : builder.Filled template items tokens fragments)
    (hresolve : Resolution.ofFragments fragments = .ok resolution) :
    Outcome builder template items (.ok resolution.sql)

variable {builder : Builder} {template : Text} {arguments : Argument} {items : List Argument}
  {tokens : List Token} {fragments : List Fragment} {fault : Fault} {error : QueryError}

theorem checkCount_eq_error {expected supplied : Nat}
    (h : builder.checkCount expected supplied = .error error) :
    error = .argumentCount expected supplied := by
  rw [checkCount] at h
  split at h <;> cases h
  rfl

/-- With a wrong count there is nothing but the error. -/
theorem substitute_eq_fail (hitems : arguments.elements = .ok items)
    (hscan : Token.scan template = .ok tokens)
    (hcount : builder.checkCount (Token.placeholderCount tokens) items.length = .error error) :
    builder.substitute template arguments = .fail error := by
  rw [substitute, hscan, Traced.bind_of_silent rfl rfl, Traced.bind_of_silent rfl hitems]
  dsimp only
  rw [hcount]
  rfl

theorem Counted.le (h : builder.Counted template items tokens) :
    Token.placeholderCount tokens ≤ items.length :=
  le_of_checkCount h.count

/-- Behind the scan and the count there is only the filling in. -/
theorem Counted.substitute_eq (h : builder.Counted template items tokens)
    (hitems : arguments.elements = .ok items) :
    builder.substitute template arguments =
      (⟨·, Token.placeholderCount tokens⟩) <$> builder.fillTokens tokens items := by
  rw [substitute, h.scan, Traced.bind_of_silent rfl rfl, Traced.bind_of_silent rfl hitems]
  dsimp only
  rw [h.count, Traced.bind_of_silent rfl rfl]
  exact bind_pure_comp ..

/-- A template that can be filled in has no slot that cannot. -/
theorem Filled.slotFault?_eq_none (h : builder.Filled template items tokens fragments) :
    ∀ slot ∈ Token.slots tokens items, builder.slotFault? slot = none :=
  slotFault?_of_fillTokens h.le h.fill

/-- The stages of a build, for arguments that are a list. -/
theorem result_build_of_elements (hitems : arguments.elements = .ok items) :
    (builder.build template arguments).result = do
      let tokens ← (Token.scan template).mapError Fault.query
      (builder.checkCount (Token.placeholderCount tokens) items.length).mapError Fault.query
      let fragments ← (builder.fillTokens tokens items).result
      let resolution ← (Resolution.ofFragments fragments).mapError Fault.query
      return resolution.sql := by
  rw [result_build, result_run, result_substitute_of_elements hitems]
  show Functor.map (f := Except Fault) _
    (_ >>= fun query => Functor.map (f := Except Fault) _ _) = _
  simp only [bind_assoc, map_eq_pure_bind, pure_bind]

/-- Behind the scan and the count, a build fills the slots and resolves the blocks. -/
theorem Counted.result_build (h : builder.Counted template items tokens)
    (hitems : arguments.elements = .ok items) :
    (builder.build template arguments).result = do
      let fragments ← (builder.fillTokens tokens items).result
      let resolution ← (Resolution.ofFragments fragments).mapError Fault.query
      return resolution.sql := by
  rw [result_build_of_elements hitems, h.scan]
  show ((builder.checkCount _ _).mapError Fault.query >>= _) = _
  rw [h.count]
  rfl

theorem Filled.result_build (h : builder.Filled template items tokens fragments)
    (hitems : arguments.elements = .ok items) :
    (builder.build template arguments).result =
      ((Resolution.ofFragments fragments).mapError .query).map (·.sql) := by
  rw [h.toCounted.result_build hitems, h.fill]
  rfl

theorem build_outcome (builder : Builder) (template : Text)
    (hitems : arguments.elements = .ok items) :
    builder.Outcome template items (builder.build template arguments).result := by
  -- stage by stage; what a stage fails with is the outcome, and otherwise the next one decides
  cases hscan : Token.scan template with
  | error error =>
    rw [result_build_of_elements hitems, hscan]
    exact .scan hscan
  | ok tokens =>
    cases hcount : builder.checkCount (Token.placeholderCount tokens) items.length with
    | error error =>
      rw [result_build_of_elements hitems, hscan]
      show Outcome _ _ _ ((builder.checkCount _ _).mapError Fault.query >>= _)
      rw [hcount]
      exact .count hscan hcount
    | ok =>
      have hcounted : builder.Counted template items tokens := ⟨hscan, hcount⟩
      cases hfill : (builder.fillTokens tokens items).result with
      | error fault =>
        -- a filling in that fails, fails for the first slot that cannot be filled
        have hfault := fault?_eq_some_iff.mpr hfill
        rw [fault?_fillTokens_slots hcounted.le, findSome?_slotFault?] at hfault
        obtain ⟨slot, hfirst, hslot⟩ := Option.bind_eq_some_iff.mp hfault
        rw [hcounted.result_build hitems, hfill]
        exact .slot hcounted hfirst hslot
      | ok fragments =>
        have hfilled : builder.Filled template items tokens fragments := ⟨hcounted, hfill⟩
        rw [hfilled.result_build hitems]
        cases hresolve : Resolution.ofFragments fragments with
        | error error => exact .blocks hfilled hresolve
        | ok resolution => exact .sql hfilled hresolve

theorem Outcome.result_eq {result : Except Fault Text} (h : builder.Outcome template items result)
    (hitems : arguments.elements = .ok items) :
    (builder.build template arguments).result = result := by
  cases h with
  | scan hscan =>
    rw [result_build_of_elements hitems, hscan]
    rfl
  | count hscan hcount =>
    rw [result_build_of_elements hitems, hscan]
    show ((builder.checkCount _ _).mapError Fault.query >>= _) = _
    rw [hcount]
    rfl
  | @slot tokens slot fault hcounted hfirst hslot =>
    have hfill : fault? (builder.fillTokens tokens items).result = some fault := by
      rw [fault?_fillTokens_slots hcounted.le, findSome?_slotFault?, hfirst]
      exact hslot
    rw [hcounted.result_build hitems, fault?_eq_some_iff.mp hfill]
    rfl
  | blocks hfilled hresolve | sql hfilled hresolve =>
    rw [hfilled.result_build hitems, hresolve]
    rfl

/-! ## What is read off -/

theorem position?_of_checkCount {expected supplied : Nat}
    (h : builder.checkCount expected supplied = .error error) : error.position? = none := by
  rw [checkCount_eq_error h]
  rfl

/-- A build that succeeds has passed all stages. -/
theorem filled_of_build {sql : Text} (hitems : arguments.elements = .ok items)
    (h : (builder.build template arguments).result = .ok sql) :
    ∃ tokens fragments resolution, builder.Filled template items tokens fragments ∧
      Resolution.ofFragments fragments = .ok resolution ∧ resolution.sql = sql := by
  have houtcome := builder.build_outcome template hitems
  rw [h] at houtcome
  cases houtcome with
  | sql hfilled hresolve => exact ⟨_, _, _, hfilled, hresolve, rfl⟩

/-- An error with an offset comes from the scan or from the blocks, unless the escaping routine has
raised it. -/
theorem scan_or_filled_of_build {position : Int} (hitems : arguments.elements = .ok items)
    (h : (builder.build template arguments).result = .error (.query error))
    (hposition : error.position? = some position)
    (hroutine : builder.escaper.text.NeverRaises error) :
    Token.scan template = .error error ∨
    ∃ tokens fragments, builder.Filled template items tokens fragments ∧
      Resolution.ofFragments fragments = .error error := by
  have houtcome := builder.build_outcome template hitems
  rw [h] at houtcome
  cases houtcome with
  | scan hscan => exact .inl hscan
  | count _ hcount =>
    rw [position?_of_checkCount hcount] at hposition
    cases hposition
  | slot _ _ hslot =>
    -- where an argument stands is no part of why it is refused
    rw [(slotFault?_refusal hslot).position?_eq_none hroutine] at hposition
    cases hposition
  | blocks hfilled hresolve => exact .inr ⟨_, _, hfilled, hresolve⟩

end Builder

end SqlTemplate
