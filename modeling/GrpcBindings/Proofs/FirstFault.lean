import Mathlib.Data.List.Forall2

/-!
Computations that stop at a fault. Each of them is known by the faults it would meet one after
another and by the value it has if it meets none. One computation after another meets the faults of
both, so the list of a traversal is made of the lists of its steps.
-/

namespace GrpcBindings

variable {ε α β γ : Type}

/-- The value, unless there is a fault. Then the first fault. -/
def firstFault : List ε → α → Except ε α
  | [], a => .ok a
  | fault :: _, _ => .error fault

theorem firstFault_eq_ok {faults : List ε} {a b : α} :
    firstFault faults a = .ok b ↔ faults = [] ∧ a = b := by
  cases faults <;> simp [firstFault]

theorem firstFault_eq_error {faults : List ε} {a : α} {fault : ε} :
    firstFault faults a = .error fault ↔ faults.head? = some fault := by
  cases faults <;> simp [firstFault]

theorem firstFault_bind {f : α → Except ε β} {later : List ε} {b : β} (faults : List ε) (a : α)
    (next : f a = firstFault later b) :
    (firstFault faults a >>= f) = firstFault (faults ++ later) b := by
  cases faults with
  | nil => exact next
  | cons _ _ => rfl

theorem firstFault_bind_pure (g : α → β) (faults : List ε) (a : α) :
    (firstFault faults a >>= fun a => pure (g a)) = firstFault faults (g a) := by
  cases faults <;> rfl

theorem mapM_eq_firstFault {f : α → Except ε β} {faults : α → List ε} {value : α → β}
    (xs : List α) (step : ∀ x ∈ xs, f x = firstFault (faults x) (value x)) :
    xs.mapM f = firstFault (xs.flatMap faults) (xs.map value) := by
  induction xs with
  | nil => rfl
  | cons x xs ih =>
      have rest : xs.mapM f = firstFault (xs.flatMap faults) (xs.map value) :=
        ih fun y member => step y (List.mem_cons_of_mem x member)
      rw [List.mapM_cons, step x List.mem_cons_self, List.flatMap_cons, List.map_cons]
      apply firstFault_bind
      rw [rest]
      exact firstFault_bind_pure _ _ _

theorem forall₂_of_mapM {f : α → Except ε β} {xs : List α} {ys : List β}
    (found : xs.mapM f = .ok ys) : List.Forall₂ (fun x y => f x = .ok y) xs ys := by
  induction xs generalizing ys with
  | nil =>
      cases found
      exact .nil
  | cons x xs ih =>
      rw [List.mapM_cons] at found
      cases first : f x with
      | error _ => rw [first] at found; cases found
      | ok y =>
          cases rest : xs.mapM f with
          | error _ => rw [first, rest] at found; cases found
          | ok others =>
              rw [first, rest] at found
              cases found
              exact .cons first (ih rest)

/-- Each result belongs to the element at its place. -/
theorem forall₂_mem_of_mapM {f : α → Except ε β} {xs : List α} {ys : List β}
    (found : xs.mapM f = .ok ys) : List.Forall₂ (fun x y => x ∈ xs ∧ f x = .ok y) xs ys :=
  (List.forall₂_and_left xs ys).mpr ⟨fun _ member => member, forall₂_of_mapM found⟩

/-- The results are those of the elements. -/
theorem mem_of_mapM {f : α → Except ε β} {xs : List α} {ys : List β} (found : xs.mapM f = .ok ys)
    {y : β} : y ∈ ys ↔ ∃ x ∈ xs, f x = .ok y := by
  have related := forall₂_of_mapM found
  clear found
  induction related with
  | nil => simp
  | cons first _ ih =>
      simp only [List.mem_cons, ih, exists_eq_or_imp, first, Except.ok.injEq]
      rw [eq_comm]

/-- Every element has a result. -/
theorem exists_of_mapM {f : α → Except ε β} {xs : List α} {ys : List β} (found : xs.mapM f = .ok ys)
    {x : α} (member : x ∈ xs) : ∃ y ∈ ys, f x = .ok y := by
  have related := forall₂_of_mapM found
  clear found
  induction related with
  | nil => cases member
  | cons first _ ih =>
      rcases List.mem_cons.mp member with rfl | later
      · exact ⟨_, List.mem_cons_self, first⟩
      · obtain ⟨y, result, same⟩ := ih later
        exact ⟨y, List.mem_cons_of_mem _ result, same⟩

theorem bind_pure_eq_ok {result : Except ε α} {g : α → β} {b : β} :
    (result >>= fun a => pure (g a)) = .ok b ↔ ∃ a, result = .ok a ∧ b = g a := by
  cases result <;> simp [bind, Except.bind, pure, Except.pure, eq_comm]

/-- Results can be changed one by one or all at the end. -/
theorem map_mapM (g : β → γ) (f : α → Except ε β) (xs : List α) :
    (xs.mapM f).map (List.map g) = xs.mapM fun x => (f x).map g := by
  induction xs with
  | nil => rfl
  | cons x xs ih =>
      rw [List.mapM_cons, List.mapM_cons, ← ih]
      cases f x with
      | error _ => rfl
      | ok y => cases xs.mapM f <;> rfl

theorem exists_mapM_ok {f : α → Except ε β} (xs : List α)
    (each : ∀ x ∈ xs, ∃ y, f x = .ok y) : ∃ ys, xs.mapM f = .ok ys := by
  induction xs with
  | nil => exact ⟨[], rfl⟩
  | cons x xs ih =>
      obtain ⟨y, first⟩ := each x List.mem_cons_self
      obtain ⟨ys, rest⟩ := ih fun z member => each z (List.mem_cons_of_mem x member)
      refine ⟨y :: ys, ?_⟩
      rw [List.mapM_cons, first, rest]
      rfl

end GrpcBindings
