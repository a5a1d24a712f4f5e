import SqlTemplate.Registry
import SqlTemplate.Proofs.Outcome

/-!
# Errors that are not the library's

Nearly everything that can be wrong with a template and its arguments has an error of the library.
Without a connection there are two exceptions, both numbers: a whole number with too many digits has
no literal, and a signalling NaN is no float, and for neither is there such an error. A slot
*strays* if such a number would have to be written for it (`Builder.Strays`), and a build fails for
something else than an error of the library exactly if the first slot that cannot be filled strays
(`buildQuery_isLibrary_iff`).
-/

namespace SqlTemplate

/-- The library has an error for this. -/
def Fault.IsLibrary (fault : Fault) : Prop :=
  ∃ error, fault = .query error

/-- A number would have to be written for the slot that has neither a literal nor an error. The
first leaf without a literal of a value is a whole number with too many digits; or the argument, as
a whole number, has too many; or a signalling NaN is asked to be a float. -/
inductive Builder.Strays (builder : Builder) : Slot → Prop
  | value {slot : Slot} {value : SqlValue} (hadmits : builder.Admits slot value)
    (hleaf : value.leaves.findSome? SqlValue.unwritable? = some .tooManyDigits) :
    Strays builder slot
  | integer {argument : Argument} {n : Int} (hint : argument.toInt = .ok n)
    (hdigits : isWritable n = false) : Strays builder ⟨some .integer, argument⟩
  | float (negative : Bool) : Strays builder ⟨some .float, .decimal (.nan negative true)⟩

theorem SqlValue.isLibrary_of_unwritable? {value : SqlValue} {fault : Fault}
    (h : value.unwritable? = some fault) : fault.IsLibrary ∨ fault = .tooManyDigits := by
  cases value with
  | int n =>
    rw [unwritable?] at h
    split at h <;> cases h
    exact .inr rfl
  | float x =>
    rw [unwritable?] at h
    split at h <;> cases h
    exact .inl ⟨_, rfl⟩
  | null | bool | text | list | mapping => cases h

namespace Builder

variable {builder : Builder} {slot : Slot} {fault : Fault}

/-! ## One slot -/

/-- A slot that strays fails for what the library has no error for. -/
theorem Strays.slotFault?_eq (hanswers : builder.escaper.Answers) (h : builder.Strays slot) :
    builder.slotFault? slot = some .tooManyDigits ∨
      builder.slotFault? slot = some .signalingNaN := by
  cases h with
  | value hadmits hleaf => exact .inl ((hadmits.slotFault?_eq hanswers).trans hleaf)
  | float negative => exact .inr rfl
  | @integer argument n hint hdigits =>
    refine .inl ?_
    have hskip : argument.isSkip = false := by
      cases hskip : argument.isSkip with
      | false => rfl
      | true =>
        rw [Argument.isSkip_iff.mp hskip] at hint
        cases hint
    -- the argument is a number; only its literal is refused
    have hcoerced : (Traced.ofQuery argument.toInt).result = .ok n := by
      rw [Traced.result_ofQuery, hint]
      rfl
    rw [slotFault?, hskip, if_neg Bool.false_ne_true, literal, Traced.bind_of_silent rfl hcoerced,
      hanswers.fault?_escapeValue_of_leaf (.int n) rfl rfl, SqlValue.unwritable?, hdigits,
      if_neg Bool.false_ne_true]

/-- Where an argument does not get to be written by its kind or as a collection, it is refused by
the library. -/
theorem isLibrary_of_not_admits {specifier : Option Specifier} {argument : Argument}
    (hspecifier : specifier = none ∨ specifier = some .array)
    (h : ∀ value, ¬ builder.Admits ⟨specifier, argument⟩ value) :
    FailsWith Fault.IsLibrary (builder.literal specifier argument).result := by
  rcases hspecifier with rfl | rfl
  · cases hvalue : argument.classify with
    | ok value => exact absurd (.plain hvalue) (h value)
    | error error =>
      rw [literal, Escaper.result_escapeValue, hvalue]
      exact .error ⟨error, rfl⟩
  · cases hcheck : builder.checkNotEmpty .array argument with
    | error error =>
      rw [literal, Traced.result_bind, hcheck]
      exact .error ⟨error, rfl⟩
    | ok =>
      have hpassed : (Traced.ofQuery (builder.checkNotEmpty .array argument)).result = .ok () := by
        rw [Traced.result_ofQuery, hcheck]
        rfl
      rw [literal, Traced.bind_of_silent rfl hpassed, Escaper.escapeArray, Traced.result_bind]
      cases hvalue : argument.classify with
      | error error => exact .error ⟨error, rfl⟩
      | ok value =>
        have hshape : ¬ (value.shape = .list ∨ value.shape = .mapping) :=
          fun hshape => h value (.array hcheck hvalue hshape)
        cases value with
        | list | mapping => simp [SqlValue.shape] at hshape
        | null | bool | int | float | text => exact .error ⟨_, rfl⟩

theorem isLibrary_of_integer (hanswers : builder.escaper.Answers) (argument : Argument) :
    FailsWith (fun fault => fault.IsLibrary ∨ builder.Strays ⟨some .integer, argument⟩)
      (builder.literal (some .integer) argument).result := by
  intro fault hfault
  rw [literal, Traced.result_bind, fault?_eq_some_iff] at hfault
  rcases error_of_bind hfault with hint | ⟨n, hint, hliteral⟩
  · obtain ⟨error, -, rfl⟩ := error_of_mapError hint
    exact .inl ⟨error, rfl⟩
  · rw [← fault?_eq_some_iff, hanswers.fault?_escapeValue_of_leaf (.int n) rfl rfl,
      SqlValue.unwritable?] at hliteral
    split at hliteral
    · cases hliteral
    · rename_i hdigits
      exact .inr (.integer (mapError_eq_ok _ hint) (Bool.eq_false_iff.mpr hdigits))

theorem isLibrary_of_float (hanswers : builder.escaper.Answers) (argument : Argument) :
    FailsWith (fun fault => fault.IsLibrary ∨ builder.Strays ⟨some .float, argument⟩)
      (builder.literal (some .float) argument).result := by
  rw [literal, Traced.result_bind]
  have hcoerce : FailsWith (fun fault => fault.IsLibrary ∨ builder.Strays ⟨some .float, argument⟩)
      argument.toFloat := by
    intro fault hfault
    rcases argument.toFloat_failsWith fault hfault with ⟨error, rfl, -⟩ | ⟨-, negative, rfl⟩
    · exact .inl ⟨error, rfl⟩
    · exact .inr (.float negative)
  refine hcoerce.bind fun x fault hfault => .inl ?_
  rw [hanswers.fault?_escapeValue_of_leaf (.float x) rfl rfl, SqlValue.unwritable?] at hfault
  split at hfault <;> cases hfault
  exact ⟨_, rfl⟩

theorem isLibrary_of_identifier (argument : Argument) :
    FailsWith Fault.IsLibrary (builder.literal (some .identifier) argument).result := by
  have hquery : ∀ {α : Type} (result : Except QueryError α),
      FailsWith Fault.IsLibrary (result.mapError .query) := by
    intro α result
    cases result with
    | ok a => exact .ok a
    | error error => exact .error ⟨error, rfl⟩
  rw [literal, Traced.result_bind]
  exact (hquery _).bind fun _ => hquery _

/-- A slot that cannot be filled fails for an error of the library, unless it strays. -/
theorem isLibrary_of_slotFault? (hanswers : builder.escaper.Answers)
    (hfault : builder.slotFault? slot = some fault) : fault.IsLibrary ∨ builder.Strays slot := by
  -- an argument that gets to be written fails for a leaf, and any other before that
  by_cases h : ∃ value, builder.Admits slot value
  · obtain ⟨value, hadmits⟩ := h
    have hleaf : value.leaves.findSome? SqlValue.unwritable? = some fault :=
      (hadmits.slotFault?_eq hanswers).symm.trans hfault
    obtain ⟨leaf, -, hunwritable⟩ := List.exists_of_findSome?_eq_some hleaf
    rcases SqlValue.isLibrary_of_unwritable? hunwritable with hlibrary | rfl
    · exact .inl hlibrary
    · exact .inr (.value hadmits hleaf)
  · rw [not_exists] at h
    obtain ⟨specifier, argument⟩ := slot
    rw [slotFault?] at hfault
    split at hfault
    · cases hfault
    · cases specifier with
      | none => exact .inl (isLibrary_of_not_admits (.inl rfl) h fault hfault)
      | some specifier =>
        cases specifier with
        | array => exact .inl (isLibrary_of_not_admits (.inr rfl) h fault hfault)
        | integer => exact isLibrary_of_integer hanswers argument fault hfault
        | float => exact isLibrary_of_float hanswers argument fault hfault
        | identifier => exact .inl (isLibrary_of_identifier argument fault hfault)

/-! ## Builds -/

section Builds

variable {template : Text} {arguments : Argument} {items : List Argument} {tokens : List Token}

/-- Only a slot can stop a build for something else than an error of the library. -/
theorem Outcome.isLibrary_or_slot {result : Except Fault Text}
    (h : builder.Outcome template items result) (hresult : result = .error fault) :
    fault.IsLibrary ∨ ∃ tokens slot, builder.Counted template items tokens ∧
      builder.firstUnfilled? (Token.slots tokens items) = some slot ∧
      builder.slotFault? slot = some fault := by
  cases h with
  | slot hcounted hfirst hslot =>
    cases hresult
    exact .inr ⟨_, _, hcounted, hfirst, hslot⟩
  | scan | count | blocks =>
    cases hresult
    exact .inl ⟨_, rfl⟩
  | sql => cases hresult

theorem build_failsWith (hanswers : builder.escaper.Answers)
    (hitems : arguments.elements = .ok items) :
    FailsWith (fun fault => fault.IsLibrary ∨ fault = .tooManyDigits ∨ fault = .signalingNaN)
      (builder.build template arguments).result := by
  intro fault hfault
  have houtcome := builder.build_outcome template hitems
  rcases houtcome.isLibrary_or_slot (fault?_eq_some_iff.mp hfault) with
    hlibrary | ⟨tokens, slot, -, -, hslot⟩
  · exact .inl hlibrary
  · rcases isLibrary_of_slotFault? hanswers hslot with hlibrary | hstrays
    · exact .inl hlibrary
    · have hsome := hstrays.slotFault?_eq hanswers
      rw [hslot, Option.some_inj, Option.some_inj] at hsome
      exact .inr hsome

/-- A build fails for something else than an error of the library exactly if the first slot that
cannot be filled strays. -/
theorem build_isLibrary_iff (hanswers : builder.escaper.Answers)
    (hitems : arguments.elements = .ok items) :
    FailsWith Fault.IsLibrary (builder.build template arguments).result ↔
      ∀ tokens slot, Token.scan template = .ok tokens →
        builder.checkCount (Token.placeholderCount tokens) items.length = .ok () →
        builder.firstUnfilled? (Token.slots tokens items) = some slot → ¬ builder.Strays slot := by
  constructor
  · intro h tokens slot hscan hcount hfirst hstrays
    have hfails : ∀ fault, builder.slotFault? slot = some fault → fault.IsLibrary := by
      intro fault hslot
      have hstopped : builder.Outcome template items (.error fault) :=
        .slot ⟨hscan, hcount⟩ hfirst hslot
      exact h fault (fault?_eq_some_iff.mpr (hstopped.result_eq hitems))
    -- neither of the two faults of such a slot is an error of the library
    rcases hstrays.slotFault?_eq hanswers with hslot | hslot
    · obtain ⟨error, herror⟩ := hfails _ hslot
      cases herror
    · obtain ⟨error, herror⟩ := hfails _ hslot
      cases herror
  · intro h fault hfault
    have houtcome := builder.build_outcome template hitems
    rcases houtcome.isLibrary_or_slot (fault?_eq_some_iff.mp hfault) with
      hlibrary | ⟨tokens, slot, hcounted, hfirst, hslot⟩
    · exact hlibrary
    · exact (isLibrary_of_slotFault? hanswers hslot).resolve_right
        (h tokens slot hcounted.scan hcounted.count hfirst)

end Builds

end Builder

/-! ## Without a connection -/

theorem TextEscaper.escape_ofTarget (target s : Text) :
    ∃ escaped, (ofTarget target).escape s = .ok escaped := by
  unfold ofTarget
  split <;> exact ⟨_, rfl⟩

/-- Without a connection, escaping text never fails. -/
theorem Registry.answers_of_builderFor {registry : Registry} {options : Options} {builder : Builder}
    (h : registry.builderFor .absent options = .ok builder) : builder.escaper.Answers := by
  unfold builderFor at h
  split at h
  · cases h
  · rename_i target hresolve
    obtain ⟨text, htext, hrest⟩ := exists_of_bind_eq_ok h
    obtain ⟨escaper, hescaper, hbuilder⟩ := exists_of_bind_eq_ok hrest
    cases htext
    cases hbuilder
    rw [create] at hescaper
    split at hescaper <;> cases hescaper
    exact TextEscaper.escape_ofTarget target

/-- **What a build can fail for, without a connection.** Apart from errors of the library there are
two things, a whole number with too many digits and a signalling NaN. A build fails for one of them
exactly if the template can be scanned, there are as many arguments as there have to be, and the
first argument that cannot be written is such a number. -/
theorem buildQuery_isLibrary_iff (registry : Registry) (template : Text) (kind : String)
    (items : List Argument) (dialect : Option Text) (options : Options) :
    let result :=
      (registry.buildQuery template (.sequence kind items) .absent dialect options).result
    let chosen := dialect.elim options fun target => { options with target }
    FailsWith (fun fault => fault.IsLibrary ∨ fault = .tooManyDigits ∨ fault = .signalingNaN)
      result ∧
    (FailsWith Fault.IsLibrary result ↔
      ∀ builder tokens slot, registry.builderFor .absent chosen = .ok builder →
        Token.scan template = .ok tokens →
        builder.checkCount (Token.placeholderCount tokens) items.length = .ok () →
        builder.firstUnfilled? (Token.slots tokens items) = some slot → ¬ builder.Strays slot) := by
  intro result chosen
  -- without a connection the builder's own routine answers every text
  have hresult : result = (registry.builderFor .absent chosen).mapError Fault.query >>=
      fun builder => (builder.build template (.sequence kind items)).result := by
    cases dialect <;> exact Traced.result_bind ..
  rw [hresult]
  cases hbuilder : registry.builderFor .absent chosen with
  | error error =>
    have hlibrary : (Fault.query error).IsLibrary := ⟨error, rfl⟩
    refine ⟨.error (.inl hlibrary), fun _ => ?_, fun _ => .error hlibrary⟩
    rintro _ _ _ ⟨⟩
  | ok builder =>
    have hanswers : builder.escaper.Answers := Registry.answers_of_builderFor hbuilder
    refine ⟨Builder.build_failsWith hanswers rfl,
      (Builder.build_isLibrary_iff hanswers rfl).trans ?_⟩
    constructor
    · rintro h _ tokens slot ⟨⟩
      exact h tokens slot
    · exact fun h tokens slot => h builder tokens slot rfl

/-- The documentation has an error for a `?f` whose argument is no number. A signalling NaN is
none. -/
theorem buildQuery_signalingNaN :
    let result := (Registry.standard.buildQuery "?f".toList
      (.ofList [.decimal (.nan false true)]) .absent none {}).result
    result = .error .signalingNaN ∧ ¬ FailsWith Fault.IsLibrary result := by
  intro result
  have hresult : result = .error .signalingNaN := by rfl
  refine ⟨hresult, fun h => ?_⟩
  obtain ⟨error, herror⟩ := h .signalingNaN (fault?_eq_some_iff.mpr hresult)
  cases herror

end SqlTemplate
