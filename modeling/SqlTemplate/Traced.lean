import SqlTemplate.Error

/-!
# Traced computations

Building a query can fail, and on its way it hands texts to an escaping routine that lies outside
the library. A traced computation keeps the texts handed over, in order, beside its result, also
when the result is a failure: what was handed over before the failure stays handed over.
-/

namespace SqlTemplate

/-- What stops a computation. -/
inductive Fault
  /-- An error of the library. -/
  | query (error : QueryError)
  /-- A whole number has more digits than may be written. -/
  | tooManyDigits
  /-- A signalling NaN cannot be made a float. -/
  | signalingNaN
  /-- A value of this kind is not a sequence of arguments. -/
  | notIterable (kind : String)
  /-- A placeholder is left over when the arguments are used up. -/
  | missingArgument
  /-- A connection's encoding cannot write a text. -/
  | encoding
  /-- A routine's answer is not in the encoding that it should be in. -/
  | decoding
  /-- A value of this kind is no text, which a name has to be. -/
  | notText (kind : String)
  /-- Something of this kind stands for a text escaper and has no routine that escapes text. -/
  | noRoutine (kind : String)
  /-- A value of this kind cannot be a key of a mapping, because it can change. -/
  | noKey (kind : String)
  deriving DecidableEq, Repr

section Results

variable {ε α β : Type} {x : Except ε α} {b : β}

theorem exists_of_bind_eq_ok {f : α → Except ε β} (h : x >>= f = .ok b) :
    ∃ a, x = .ok a ∧ f a = .ok b := by
  cases x with
  | ok a => exact ⟨a, rfl, h⟩
  | error cause => cases h

theorem exists_of_map_eq_ok {f : α → β} (h : x.map f = .ok b) : ∃ a, x = .ok a ∧ f a = b := by
  cases x with
  | ok a => exact ⟨a, rfl, Except.ok.inj h⟩
  | error cause => cases h

end Results

/-- A result together with the texts handed to the escaping routine on the way to it. -/
@[ext]
structure Traced (α : Type) where
  calls : List Text
  result : Except Fault α

namespace Traced

/-- A result that nothing was handed over for. -/
protected def pure {α : Type} (a : α) : Traced α :=
  ⟨[], .ok a⟩

/-- What is made of the result hands nothing over. -/
protected def map {α β : Type} (f : α → β) (x : Traced α) : Traced β :=
  ⟨x.calls, x.result.map f⟩

/-- The second step runs only if the first succeeds, and hands over after it. -/
protected def bind {α β : Type} (x : Traced α) (f : α → Traced β) : Traced β :=
  match x.result with
  | .ok a =>
    let next := f a
    ⟨x.calls ++ next.calls, next.result⟩
  | .error fault => ⟨x.calls, .error fault⟩

instance : Monad Traced where
  map := Traced.map
  pure := Traced.pure
  bind := Traced.bind

@[simp]
theorem calls_pure {α : Type} (a : α) : (pure a : Traced α).calls = [] := rfl

@[simp]
theorem result_pure {α : Type} (a : α) : (pure a : Traced α).result = .ok a := rfl

theorem bind_of_ok {α β : Type} {x : Traced α} {a : α} (h : x.result = .ok a)
    (f : α → Traced β) : x >>= f = ⟨x.calls ++ (f a).calls, (f a).result⟩ := by
  show Traced.bind x f = _
  rw [Traced.bind, h]

/-- Behind a failure nothing more is handed over. -/
theorem bind_of_error {α β : Type} {x : Traced α} {fault : Fault} (h : x.result = .error fault)
    (f : α → Traced β) : x >>= f = ⟨x.calls, .error fault⟩ := by
  show Traced.bind x f = _
  rw [Traced.bind, h]

@[simp]
theorem calls_map {α β : Type} (f : α → β) (x : Traced α) : (f <$> x).calls = x.calls := rfl

@[simp]
theorem result_map {α β : Type} (f : α → β) (x : Traced α) :
    (f <$> x).result = x.result.map f := rfl

/-- Results alone make up a computation that can fail: what was handed over never decides them. -/
theorem result_bind {α β : Type} (x : Traced α) (f : α → Traced β) :
    (x >>= f).result = x.result >>= fun a => (f a).result := by
  cases h : x.result with
  | ok a => rw [bind_of_ok h]; rfl
  | error fault => rw [bind_of_error h]; rfl

/-- Texts are handed over in the order of the steps, however the steps are grouped. -/
instance : LawfulMonad Traced :=
  LawfulMonad.mk' Traced
    (fun x => by ext1 <;> simp [Except.map_id])
    (fun a f => bind_of_ok (result_pure a) f)
    (fun x f g => by
      cases h : x.result with
      | error fault =>
        have hx : (x >>= f).result = .error fault := by rw [bind_of_error h]
        rw [bind_of_error hx, bind_of_error h, bind_of_error h]
      | ok a =>
        cases hf : (f a).result with
        | error fault =>
          have hx : (x >>= f).result = .error fault := by rw [bind_of_ok h, hf]
          rw [bind_of_error hx, bind_of_ok h, bind_of_ok h, bind_of_error hf]
        | ok b =>
          have hx : (x >>= f).result = .ok b := by rw [bind_of_ok h, hf]
          rw [bind_of_ok hx, bind_of_ok h, bind_of_ok h, bind_of_ok hf, List.append_assoc])
    (fun _ _ => rfl) (fun _ _ => rfl) (fun _ _ => rfl)
    (fun f x => by
      cases h : x.result with
      | ok a => rw [bind_of_ok h]; ext1 <;> simp [h, Except.map]
      | error fault => rw [bind_of_error h]; ext1 <;> simp [h, Except.map])
    (fun _ _ => rfl)

/-- A result that is there already, for whatever cause it fails. -/
def ofExcept {α : Type} (result : Except Fault α) : Traced α :=
  ⟨[], result⟩

/-- An error of the library, with nothing handed over. -/
def fail {α : Type} (error : QueryError) : Traced α :=
  ⟨[], .error (.query error)⟩

/-- Nothing is handed over, and an error of the library is a failure. -/
def ofQuery {α : Type} (result : Except QueryError α) : Traced α :=
  ⟨[], result.mapError .query⟩

@[simp]
theorem calls_ofQuery {α : Type} (result : Except QueryError α) : (ofQuery result).calls = [] := rfl

@[simp]
theorem result_ofQuery {α : Type} (result : Except QueryError α) :
    (ofQuery result).result = result.mapError .query := rfl

@[simp]
theorem result_ofExcept {α : Type} (result : Except Fault α) : (ofExcept result).result = result :=
  rfl

@[simp]
theorem result_fail {α : Type} (error : QueryError) :
    (fail error : Traced α).result = .error (.query error) := rfl

end Traced

end SqlTemplate
