import SqlTemplate.Traced

/-!
# Two runs with one outcome

Laws about two runs of the library say that the runs fail for one and the same cause, or that both
succeed with results that are related. `SameOutcome` is that relation. It is kept by every way of
putting computations together, so that a law about two runs is proved step by step:

* `SameOutcome.bind`, `SameOutcome.map`: related results are gone on with in related ways.
* `SameOutcome.trans_symm`: two runs that are each related to a third one are related.
-/

namespace SqlTemplate

variable {ε α α' β β' : Type}

/-- Both computations fail for one cause, or both succeed with results related by `R`. -/
inductive SameOutcome (R : α → β → Prop) : Except ε α → Except ε β → Prop
  | ok {a : α} {b : β} (related : R a b) : SameOutcome R (.ok a) (.ok b)
  | error (cause : ε) : SameOutcome R (.error cause) (.error cause)

namespace SameOutcome

/-- Steps with one outcome each have one outcome together. -/
theorem bind {R : α → β → Prop} {S : α' → β' → Prop} {x : Except ε α} {y : Except ε β}
    {f : α → Except ε α'} {g : β → Except ε β'} (h : SameOutcome R x y)
    (hfg : ∀ a b, R a b → SameOutcome S (f a) (g b)) : SameOutcome S (x >>= f) (y >>= g) := by
  cases h with
  | ok related => exact hfg _ _ related
  | error cause => exact .error cause

/-- The first step may be the same on both sides. -/
theorem bind_same {S : α' → β' → Prop} (x : Except ε α) {f : α → Except ε α'}
    {g : α → Except ε β'} (hfg : ∀ a, SameOutcome S (f a) (g a)) :
    SameOutcome S (x >>= f) (x >>= g) := by
  cases x with
  | ok a => exact hfg a
  | error cause => exact .error cause

theorem map {R : α → β → Prop} {S : α' → β' → Prop} {x : Except ε α} {y : Except ε β}
    {f : α → α'} {g : β → β'} (h : SameOutcome R x y) (hfg : ∀ a b, R a b → S (f a) (g b)) :
    SameOutcome S (x.map f) (y.map g) := by
  cases h with
  | ok related => exact .ok (hfg _ _ related)
  | error cause => exact .error cause

theorem mapError {ε' : Type} {R : α → β → Prop} {x : Except ε α} {y : Except ε β}
    (h : SameOutcome R x y) (f : ε → ε') : SameOutcome R (x.mapError f) (y.mapError f) := by
  cases h with
  | ok related => exact .ok related
  | error cause => exact .error (f cause)

/-- Two runs that are each related to a third one are related. -/
theorem trans_symm {R : α → β → Prop} {S : α → α → Prop} {x y : Except ε α} {z : Except ε β}
    (hx : SameOutcome R x z) (hy : SameOutcome R y z) (hS : ∀ a b c, R a c → R b c → S a b) :
    SameOutcome S x y := by
  cases hx with
  | ok ha => cases hy with
    | ok hb => exact .ok (hS _ _ _ ha hb)
  | error cause => cases hy with
    | error => exact .error cause

/-- A result that is fixed by the other one is that of the other run, gone on with. -/
theorem eq_map {f : β → α} {x : Except ε α} {y : Except ε β}
    (h : SameOutcome (fun a b => a = f b) x y) : x = y.map f := by
  cases h with
  | ok related => exact congrArg Except.ok related
  | error cause => rfl

/-- If one of the runs succeeds, the other one does, with a related result. -/
theorem exists_of_ok {R : α → β → Prop} {x : Except ε α} {b : β} (h : SameOutcome R x (.ok b)) :
    ∃ a, x = .ok a ∧ R a b := by
  cases h with
  | ok related => exact ⟨_, rfl, related⟩

theorem imp {R S : α → β → Prop} {x : Except ε α} {y : Except ε β} (h : SameOutcome R x y)
    (himp : ∀ a b, R a b → S a b) : SameOutcome S x y := by
  cases h with
  | ok related => exact .ok (himp _ _ related)
  | error cause => exact .error cause

end SameOutcome

end SqlTemplate
