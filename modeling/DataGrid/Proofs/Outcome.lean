-- SUMMARY: Inverting successful steps, and runs whose collaborators answer as functions.
import Mathlib.Data.List.Forall2
import DataGrid.Error

/-!
# Outcomes

A step that may fail and succeeds has succeeded in each of its parts. A run whose
stores and remotes answer as functions has one outcome, and it is inverted in the
same way.
-/

namespace DataGrid

/-! ## Steps that may fail -/

namespace Outcome

variable {ε ε' α β : Type}

theorem bind_eq_ok {x : Except ε α} {f : α → Except ε β} {b : β} :
    x >>= f = .ok b ↔ ∃ a, x = .ok a ∧ f a = .ok b := by
  cases x <;> simp [bind, Except.bind]

/-- A step fails on its way or at its end. -/
theorem bind_eq_error {x : Except ε α} {f : α → Except ε β} {e : ε} :
    x >>= f = .error e ↔ x = .error e ∨ ∃ a, x = .ok a ∧ f a = .error e := by
  cases x <;> simp [bind, Except.bind]

theorem map_eq_ok {x : Except ε α} {f : α → β} {b : β} : x.map f = .ok b ↔ ∃ a, x = .ok a ∧ f a = b := by
  cases x <;> simp [Except.map]

theorem mapError_eq_ok {x : Except ε α} {f : ε → ε'} {a : α} : x.mapError f = .ok a ↔ x = .ok a := by
  cases x <;> simp [Except.mapError]

theorem toOption_eq_some {x : Except ε α} {a : α} : x.toOption = some a ↔ x = .ok a := by
  cases x <;> simp [Except.toOption]

@[simp] theorem pure_eq_ok {a b : α} : (pure a : Except ε α) = .ok b ↔ a = b := by
  simp [pure, Except.pure]

/-- A step past a guard succeeds exactly when the guard lets it pass. -/
theorem guard_eq_ok {c : Prop} [Decidable c] {e : ε} {k : PUnit → Except ε β} {b : β} :
    (if c then throw e >>= k else k ⟨⟩) = .ok b ↔ ¬c ∧ k ⟨⟩ = .ok b := by
  by_cases h : c
  · simp [h, bind, Except.bind, throw, throwThe, MonadExceptOf.throw]
  · simp [h]

/-- Working through a list succeeds exactly when each step does, and it yields what the steps yield. -/
theorem mapM_eq_ok {f : α → Except ε β} {list : List α} {results : List β} :
    list.mapM f = .ok results ↔ List.Forall₂ (fun a b => f a = .ok b) list results := by
  induction list generalizing results with
  | nil => cases results <;> simp [pure, Except.pure]
  | cons a rest ih =>
    simp only [List.mapM_cons, bind_eq_ok, pure_eq_ok, ih]
    constructor
    · rintro ⟨b, hb, others, hothers, rfl⟩
      exact .cons hb hothers
    · rintro (_ | ⟨hb, hothers⟩)
      exact ⟨_, hb, _, hothers, rfl⟩

/-- Working through a list fails only where a step does. -/
theorem exists_of_mapM_eq_error {f : α → Except ε β} {list : List α} {e : ε} (h : list.mapM f = .error e) :
    ∃ a ∈ list, f a = .error e := by
  induction list with
  | nil => cases h
  | cons a rest ih =>
    rw [List.mapM_cons, bind_eq_error] at h
    rcases h with here | ⟨_, -, h⟩
    · exact ⟨a, List.mem_cons_self, here⟩
    · rcases bind_eq_error.mp h with later | ⟨_, -, h⟩
      · obtain ⟨b, hb, hfail⟩ := ih later
        exact ⟨b, List.mem_cons_of_mem _ hb, hfail⟩
      · cases h

/-- Every step of a list succeeds exactly when all do. -/
theorem forM_eq_ok {f : α → Except ε Unit} {list : List α} : list.forM f = .ok () ↔ ∀ a ∈ list, f a = .ok () := by
  induction list with
  | nil => simp [pure, Except.pure]
  | cons a rest ih =>
    change (f a >>= fun _ => rest.forM f) = .ok () ↔ _
    rw [bind_eq_ok, List.forall_mem_cons, ← ih]
    constructor
    · rintro ⟨_, here, later⟩
      exact ⟨here, later⟩
    · rintro ⟨here, later⟩
      exact ⟨(), here, later⟩

/-- In related lists, an element on the left has its partner on the right. -/
theorem exists_right_of_mem {R : α → β → Prop} {left : List α} {right : List β} (h : List.Forall₂ R left right)
    {a : α} (ha : a ∈ left) : ∃ b ∈ right, R a b := by
  induction h with
  | nil => simp at ha
  | cons hab _ ih =>
    rcases List.mem_cons.mp ha with rfl | ha
    · exact ⟨_, List.mem_cons_self, hab⟩
    · obtain ⟨b, hb, hrel⟩ := ih ha
      exact ⟨b, List.mem_cons_of_mem _ hb, hrel⟩

/-- Lists with the same images are related element by element. -/
theorem forall₂_of_map_eq {f : α → β} {left right : List α} (h : left.map f = right.map f) :
    List.Forall₂ (fun a b => a ∈ left ∧ b ∈ right ∧ f a = f b) left right := by
  induction left generalizing right with
  | nil =>
    obtain rfl := List.map_eq_nil_iff.mp h.symm
    exact .nil
  | cons a rest ih =>
    obtain ⟨b, others, rfl, same, h⟩ := List.map_eq_cons_iff.mp h.symm
    refine .cons ⟨List.mem_cons_self, List.mem_cons_self, same.symm⟩ ((ih h.symm).imp ?_)
    rintro x y ⟨hx, hy, hxy⟩
    exact ⟨List.mem_cons_of_mem _ hx, List.mem_cons_of_mem _ hy, hxy⟩

theorem exists_left_of_mem {R : α → β → Prop} {left : List α} {right : List β} (h : List.Forall₂ R left right)
    {b : β} (hb : b ∈ right) : ∃ a ∈ left, R a b :=
  exists_right_of_mem h.flip hb

end Outcome


/-! ## Runs without effects -/

/-- The outcome of a run whose collaborators answer as functions. -/
def outcome {α : Type} (x : ExceptT GridError Id α) : Result α :=
  x.run.run

section

variable {α β : Type}

@[simp] theorem outcome_pure (a : α) : outcome (pure a) = .ok a := rfl

@[simp] theorem outcome_throw (e : GridError) : outcome (throw e : ExceptT GridError Id α) = .error e := rfl

@[simp] theorem outcome_mk (x : Result α) : outcome (.mk (pure x)) = x := rfl

@[simp] theorem outcome_lift (x : Id α) : outcome (ExceptT.lift x) = .ok x.run := rfl

theorem outcome_bind (x : ExceptT GridError Id α) (f : α → ExceptT GridError Id β) :
    outcome (x >>= f) = outcome x >>= fun a => outcome (f a) := by
  unfold outcome
  rw [ExceptT.run_bind, Id.run_bind]
  cases x.run.run <;> rfl

theorem outcome_bind_eq_ok {x : ExceptT GridError Id α} {f : α → ExceptT GridError Id β} {b : β} :
    outcome (x >>= f) = .ok b ↔ ∃ a, outcome x = .ok a ∧ outcome (f a) = .ok b := by
  rw [outcome_bind, Outcome.bind_eq_ok]

/-- A run that fails on its way fails. -/
theorem outcome_bind_of_eq_error {x : ExceptT GridError Id α} {f : α → ExceptT GridError Id β} {e : GridError}
    (h : outcome x = .error e) : outcome (x >>= f) = .error e := by
  rw [outcome_bind, h]
  rfl

theorem outcome_adapt {x : ExceptT GridError Id α} {f : GridError → GridError} :
    outcome (x.adapt f) = (outcome x).mapError f := by
  unfold outcome
  rw [ExceptT.run_adapt]
  rfl

end

end DataGrid
