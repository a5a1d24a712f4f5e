import SqlTemplate.Proofs.Leaves

/-!
# What keeps an argument from being written

An argument can be refused at many places: while it is classified or coerced, while its emptiness is
checked, and while it is written. `Escaper.Refusal` lists what it can be refused for, and
`Builder.literal_failsWith` says that the list is complete: two faults do not come from the library
and its text escaper, and the errors of the library among them are of three kinds, none of which
has anything to do with places in a template (`Escaper.Refusal.position?_eq_none`).
-/

namespace SqlTemplate

section Results

variable {ε ε' α β : Type} {x : Except ε α}

/-- A computation of two steps fails with what its first step fails with, or with what its second
does. -/
theorem error_of_bind {f : α → Except ε β} {cause : ε} (h : x >>= f = .error cause) :
    x = .error cause ∨ ∃ a, x = .ok a ∧ f a = .error cause := by
  cases x with
  | ok a => exact .inr ⟨a, rfl, h⟩
  | error _ => exact .inl (by cases h; rfl)

theorem error_of_mapError {f : ε → ε'} {cause' : ε'} (h : x.mapError f = .error cause') :
    ∃ cause, x = .error cause ∧ f cause = cause' := by
  cases x with
  | ok _ => cases h
  | error cause => exact ⟨cause, rfl, Except.error.inj h⟩

end Results

/-- `P` holds of whatever the computation fails with. -/
def FailsWith {ε α : Type} (P : ε → Prop) (x : Except ε α) : Prop :=
  ∀ cause, fault? x = some cause → P cause

namespace FailsWith

variable {ε ε' α β : Type} {P : ε → Prop} {Q : ε' → Prop} {x : Except ε α}

theorem ok (a : α) : FailsWith P (.ok a : Except ε α) :=
  nofun

theorem error {cause : ε} (h : P cause) : FailsWith P (.error cause : Except ε α) := by
  rintro _ ⟨⟩
  exact h

theorem map (h : FailsWith P x) (f : α → β) : FailsWith P (x.map f) := by
  intro cause hcause
  exact h cause (by rwa [fault?_map] at hcause)

theorem bind {f : α → Except ε β} (h : FailsWith P x) (hf : ∀ a, FailsWith P (f a)) :
    FailsWith P (x >>= f) := by
  cases x with
  | ok a => exact hf a
  | error cause => exact .error (h cause rfl)

theorem mapError {f : ε → ε'} (h : FailsWith P x) (hf : ∀ cause, P cause → Q (f cause)) :
    FailsWith Q (x.mapError f) := by
  cases x with
  | ok a => exact .ok a
  | error cause => exact .error (hf cause (h cause rfl))

end FailsWith

/-- A value of some kind has no SQL form. -/
def QueryError.IsUnsupported (error : QueryError) : Prop :=
  ∃ kind reason, error = .unsupportedValue kind reason

/-- An argument is no number. -/
def QueryError.IsCoercion (error : QueryError) : Prop :=
  ∃ specifier kind, error = .coercion specifier kind

/-- The offset in a template that an error reports. -/
def QueryError.position? : QueryError → Option Int
  | invalidSpecifier _ position => position
  | error => error.blockPosition?

/-- An error without an offset in the template has none of a block either. -/
theorem QueryError.blockPosition?_eq_none {error : QueryError} (h : error.position? = none) :
    error.blockPosition? = none := by
  cases error with
  | invalidSpecifier => rfl
  | _ => exact h

/-- What can keep an argument from being written. -/
inductive Escaper.Refusal (escaper : Escaper) : Fault → Prop
  | unsupported {error : QueryError} (h : error.IsUnsupported) : Refusal escaper (.query error)
  | coercion {error : QueryError} (h : error.IsCoercion) : Refusal escaper (.query error)
  | emptyArray (specifier : Text) : Refusal escaper (.query (.emptyArray specifier))
  | tooManyDigits : Refusal escaper .tooManyDigits
  | signalingNaN : Refusal escaper .signalingNaN
  | routine {s : Text} {fault : Fault} (h : escaper.text.escape s = .error fault) :
    Refusal escaper fault

/-- What the library itself refuses an argument for has nothing to do with places. -/
theorem Escaper.Refusal.position?_eq_none {escaper : Escaper} {error : QueryError}
    (h : escaper.Refusal (.query error))
    (hroutine : escaper.text.NeverRaises error) : error.position? = none := by
  cases h with
  | unsupported h =>
    obtain ⟨kind, reason, rfl⟩ := h
    rfl
  | coercion h =>
    obtain ⟨specifier, kind, rfl⟩ := h
    rfl
  | emptyArray => rfl
  -- only the routine may raise anything, and of it the error is excluded
  | @routine s fault h => exact absurd h (hroutine s)

/-! ## Classification and coercion -/

namespace Argument

mutual

/-- Classification refuses an argument for one reason only: some part of it has no SQL form. -/
theorem classify_failsWith : ∀ argument : Argument,
    FailsWith QueryError.IsUnsupported argument.classify
  | sequence _ items => by
    rw [classify]
    exact (classifyItems_failsWith items).map _
  | mapping _ entries => by
    rw [classify]
    exact (classifyEntries_failsWith entries).map _
  | null | classified _ | bool _ | int .. | float .. | text .. => .ok _
  | skip | decimal _ | fraction _ | complex .. | bytes .. | other .. => .error ⟨_, _, rfl⟩

theorem classifyItems_failsWith : ∀ items : List Argument,
    FailsWith QueryError.IsUnsupported (classifyItems items)
  | [] => .ok _
  | item :: items =>
    (classify_failsWith item).bind fun _ => (classifyItems_failsWith items).map _

/-- The entries of a mapping are refused for this reason too: a key that is no text has no SQL
form. -/
theorem classifyEntries_failsWith : ∀ entries : List (Argument × Argument),
    FailsWith QueryError.IsUnsupported (classifyEntries entries)
  | [] => .ok _
  | (text _ _, item) :: entries =>
    (classify_failsWith item).bind fun _ => (classifyEntries_failsWith entries).map _
  | (null, _) :: _ | (skip, _) :: _ | (bool .., _) :: _ | (int .., _) :: _ | (float .., _) :: _
  | (decimal .., _) :: _ | (fraction .., _) :: _ | (complex .., _) :: _ | (sequence .., _) :: _
  | (mapping .., _) :: _ | (classified .., _) :: _ | (bytes .., _) :: _ | (other .., _) :: _ =>
    .error ⟨_, _, rfl⟩

end

/-- A text is refused as a whole number only because it is none. -/
theorem textToInt_failsWith (s : Text) : FailsWith QueryError.IsCoercion (textToInt s) := by
  unfold textToInt
  dsimp only
  split
  · exact .ok _
  · split
    · exact .error ⟨_, _, rfl⟩
    · split
      · exact .ok _
      · exact .error ⟨_, _, rfl⟩

/-- An argument is refused as a whole number only because it is none. -/
theorem toInt_failsWith (argument : Argument) : FailsWith QueryError.IsCoercion argument.toInt := by
  cases argument with
  | null | bool | int | fraction => exact .ok _
  | text member s => exact textToInt_failsWith s
  -- what is not finite has no whole part
  | float member x =>
    rw [toInt]
    cases x.truncate? with
    | some n => exact .ok n
    | none => exact .error ⟨_, _, rfl⟩
  | decimal x =>
    rw [toInt]
    cases x.truncate? with
    | some n => exact .ok n
    | none => exact .error ⟨_, _, rfl⟩
  | skip | complex | sequence | mapping | classified | bytes | other =>
    exact .error ⟨_, _, rfl⟩

/-- Besides what is no number at all there is a number that is none: a signalling NaN. -/
theorem toFloat_failsWith (argument : Argument) :
    FailsWith (fun fault => (∃ error, fault = .query error ∧ error.IsCoercion) ∨
      fault = .signalingNaN ∧ ∃ negative, argument = .decimal (.nan negative true))
      argument.toFloat := by
  unfold toFloat
  split
  · exact .ok _
  · split
    · exact .ok _
    · exact .error (.inl ⟨_, rfl, _, _, rfl⟩)
  · exact .error (.inr ⟨rfl, _, rfl⟩)
  · split
    · exact .ok _
    · exact .error (.inl ⟨_, rfl, _, _, rfl⟩)

end Argument

/-! ## Writing -/

namespace Escaper

variable (escaper : Escaper)

/-- A value without parts is refused for its text, its digits or for being no finite number. -/
theorem leaf_failsWith (value : SqlValue) :
    FailsWith escaper.Refusal (escaper.leaf value).result := by
  intro fault h
  cases value with
  | text s =>
    rw [fault?_leaf_text, fault?_eq_some_iff] at h
    exact .routine h
  | int n =>
    rw [fault?_leaf escaper rfl, SqlValue.unwritable?] at h
    split at h <;> cases h
    exact .tooManyDigits
  | float x =>
    rw [fault?_leaf escaper rfl, SqlValue.unwritable?] at h
    split at h <;> cases h
    exact .unsupported ⟨_, _, rfl⟩
  | null | bool | list | mapping => cases h

/-- A value is refused for the first of its leaves that is. -/
theorem render_failsWith (value : SqlValue) :
    FailsWith escaper.Refusal (escaper.render value).result := by
  intro fault h
  rw [← Traced.fault?_forget, forget_render, Traced.fault?_forM] at h
  obtain ⟨leaf, -, hleaf⟩ := List.exists_of_findSome?_eq_some h
  exact escaper.leaf_failsWith leaf fault hleaf

mutual

/-- A name is refused for one reason only: some part of it is neither text nor a sequence. -/
theorem identifier_failsWith : ∀ argument : Argument,
    FailsWith QueryError.IsUnsupported (escaper.identifier argument)
  | .text .. => .ok _
  | .sequence _ items => by
    rw [identifier]
    exact (identifiers_failsWith items).map _
  | .null | .skip | .bool _ | .int .. | .float .. | .decimal _ | .fraction _ | .complex ..
  | .mapping .. | .classified _ | .bytes .. | .other .. => .error ⟨_, _, rfl⟩

theorem identifiers_failsWith : ∀ items : List Argument,
    FailsWith QueryError.IsUnsupported (escaper.identifiers items)
  | [] => .ok _
  | item :: items =>
    (identifier_failsWith item).bind fun _ => (identifiers_failsWith items).map _

end

theorem classify_failsWith (argument : Argument) :
    FailsWith escaper.Refusal (argument.classify.mapError Fault.query) :=
  argument.classify_failsWith.mapError fun _ => .unsupported

theorem escapeValue_failsWith (argument : Argument) :
    FailsWith escaper.Refusal (escaper.escapeValue argument).result := by
  rw [result_escapeValue]
  exact (escaper.classify_failsWith argument).bind escaper.render_failsWith

/-- An argument that has to be a list or a mapping is refused while it is classified, for being
neither, or while it is written. -/
theorem escapeArray_failsWith (argument : Argument) :
    FailsWith escaper.Refusal (escaper.escapeArray argument).result := by
  rw [escapeArray, Traced.result_bind]
  refine (escaper.classify_failsWith argument).bind fun value => ?_
  cases value with
  | list | mapping => exact escaper.render_failsWith _
  | null | bool | int | float | text => exact .error (.unsupported ⟨_, _, rfl⟩)

end Escaper

namespace Builder

variable (builder : Builder)

/-- The check for emptiness refuses what is empty, and for nothing else. -/
theorem checkNotEmpty_failsWith (specifier : Specifier) (argument : Argument) :
    FailsWith builder.escaper.Refusal
      ((builder.checkNotEmpty specifier argument).mapError Fault.query) := by
  unfold checkNotEmpty
  split
  · exact .error (.emptyArray _)
  · exact .ok ()

/-- Whatever keeps an argument from being written is in the list. -/
theorem literal_failsWith (specifier : Option Specifier) (argument : Argument) :
    FailsWith builder.escaper.Refusal (builder.literal specifier argument).result := by
  -- each specifier has its own steps before the argument is written
  match specifier with
  | none => exact builder.escaper.escapeValue_failsWith argument
  | some .integer =>
    rw [literal, Traced.result_bind]
    have hcoerce : FailsWith builder.escaper.Refusal (argument.toInt.mapError Fault.query) :=
      argument.toInt_failsWith.mapError fun _ => .coercion
    exact hcoerce.bind fun n => builder.escaper.escapeValue_failsWith _
  | some .float =>
    rw [literal, Traced.result_bind]
    refine FailsWith.bind (fun fault h => ?_) fun x => builder.escaper.escapeValue_failsWith _
    rcases argument.toFloat_failsWith fault h with ⟨error, rfl, herror⟩ | ⟨rfl, -⟩
    · exact .coercion herror
    · exact .signalingNaN
  | some .identifier =>
    rw [literal, Traced.result_bind]
    refine (builder.checkNotEmpty_failsWith .identifier argument).bind fun _ => ?_
    exact (builder.escaper.identifier_failsWith argument).mapError fun _ => .unsupported
  | some .array =>
    rw [literal, Traced.result_bind]
    refine (builder.checkNotEmpty_failsWith .array argument).bind fun _ => ?_
    exact builder.escaper.escapeArray_failsWith argument

end Builder

end SqlTemplate
