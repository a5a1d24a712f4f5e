import SqlTemplate.Proofs.FirstFault

/-!
# Walks along lists

What matters of a traced computation besides its value is what it hands over and what stops it. Two
computations that agree in this are the same once their values are forgotten (`Traced.forget`), and
many computations are the same in this sense as a walk along a list, one step at an item:

* `fault?_forM`: a walk is stopped by the first step that fails.
* `calls_forM` and `calls_forM_of_fault`: it hands over what its steps hand over, up to that step.
-/

namespace SqlTemplate

@[simp]
theorem fault?_eq_some_iff {ε α : Type} {x : Except ε α} {cause : ε} :
    fault? x = some cause ↔ x = .error cause := by
  cases x <;> simp [fault?]

@[simp]
theorem fault?_eq_none_iff {ε α : Type} {x : Except ε α} :
    fault? x = none ↔ ∃ a, x = .ok a := by
  cases x <;> simp [fault?]

namespace Traced

variable {α β σ : Type}

/-- The computation without its value: what it hands over, and what stops it. -/
def forget (x : Traced α) : Traced Unit :=
  (fun _ => ()) <$> x

@[simp]
theorem calls_forget (x : Traced α) : x.forget.calls = x.calls := rfl

@[simp]
theorem fault?_forget (x : Traced α) : fault? x.forget.result = fault? x.result :=
  fault?_map ..

@[simp]
theorem forget_map (f : α → β) (x : Traced α) : (f <$> x).forget = x.forget := by
  rw [forget, ← comp_map]
  rfl

/-- If the second step is the same for every value, it is the second step once values are
forgotten. -/
theorem forget_bind {x : Traced α} {f : α → Traced β} {y : Traced Unit}
    (h : ∀ a, (f a).forget = y) : (x >>= f).forget = x.forget >>= fun _ => y := by
  have hf : (fun a => (fun _ => ()) <$> f a) = fun _ => y := funext h
  rw [forget, map_bind, hf, forget, bind_map_left]

/-- What hands nothing over adds nothing to what was handed over before it. -/
theorem calls_bind_of_silent (x : Traced α) {f : α → Traced β} (h : ∀ a, (f a).calls = []) :
    (x >>= f).calls = x.calls := by
  cases hx : x.result with
  | ok a => rw [bind_of_ok hx, h, List.append_nil]
  | error fault => rw [bind_of_error hx]

/-- Behind a computation that hands nothing over and succeeds, the next one is all there is. -/
theorem bind_of_silent {x : Traced α} {a : α} (hcalls : x.calls = []) (hok : x.result = .ok a)
    (f : α → Traced β) : x >>= f = f a := by
  rw [bind_of_ok hok, hcalls, List.nil_append]

/-! ## Walks -/

theorem forM_singleton (f : σ → Traced Unit) (step : σ) : forM [step] f = f step := by
  rw [List.forM_cons, List.forM_nil]
  exact bind_pure_unit

/-- A walk is stopped by the first step that fails. -/
theorem fault?_forM (f : σ → Traced Unit) (steps : List σ) :
    fault? (forM steps f).result = steps.findSome? fun step => fault? (f step).result := by
  induction steps with
  | nil => rfl
  | cons step steps ih =>
    rw [List.forM_cons, result_bind, fault?_bind _ fun _ _ => ih, List.findSome?_cons]
    cases fault? (f step).result <;> rfl

variable {f : σ → Traced Unit} {front rest : List σ}

/-- Behind steps that do not fail the walk goes on. -/
theorem calls_forM_append (hfront : ∀ step ∈ front, fault? (f step).result = none) :
    (forM (front ++ rest) f).calls =
      front.flatMap (fun step => (f step).calls) ++ (forM rest f).calls := by
  induction front with
  | nil => rfl
  | cons step front ih =>
    obtain ⟨hstep, hfront⟩ := List.forall_mem_cons.mp hfront
    obtain ⟨_, hok⟩ := fault?_eq_none_iff.mp hstep
    rw [List.cons_append, List.forM_cons, bind_of_ok hok, ih hfront, List.flatMap_cons,
      List.append_assoc]

theorem calls_forM (hfront : ∀ step ∈ front, fault? (f step).result = none) :
    (forM front f).calls = front.flatMap fun step => (f step).calls := by
  have h : (forM (front ++ []) f).calls = _ := calls_forM_append hfront
  rwa [List.append_nil, List.forM_nil, calls_pure, List.append_nil] at h

/-- At the first step that fails the walk ends. What that step itself hands over is handed over. -/
theorem calls_forM_of_fault {step : σ} {fault : Fault}
    (hfront : ∀ step ∈ front, fault? (f step).result = none)
    (hstep : fault? (f step).result = some fault) :
    (forM (front ++ step :: rest) f).calls =
      front.flatMap (fun step => (f step).calls) ++ (f step).calls := by
  rw [calls_forM_append hfront, List.forM_cons, bind_of_error (fault?_eq_some_iff.mp hstep)]

end Traced

end SqlTemplate
