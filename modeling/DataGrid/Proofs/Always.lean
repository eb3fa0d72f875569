-- SUMMARY: What holds of every result of a run with effects.
import DataGrid.Proofs.Outcome

/-!
# Runs with effects

A run in some monad may have many results, one for each state it is started in. A
property holds of all of them where the run can be told to yield results together
with the property. Each step of a run passes this on to the next.
-/

namespace DataGrid

variable {m : Type → Type} [Monad m] {α β : Type}

/-- Every result of a run has a property: the run is one that yields results with the property. -/
def Always (p : α → Prop) (x : m α) : Prop :=
  ∃ y : m {a // p a}, Subtype.val <$> y = x

/-- A value with a property, or an error that is no fault of a description. -/
def IsFair (q : α → Prop) : Result α → Prop
  | .ok a => q a
  | .error e => ∀ fault, e ≠ .config fault

/-- A run ends with a value that has a property, or with an error that is no fault of a description. -/
def Yields (q : α → Prop) (x : ExceptT GridError m α) : Prop :=
  Always (IsFair q) x.run

/-- A run never ends with a fault of a description. -/
abbrev ConfigFree (x : ExceptT GridError m α) : Prop :=
  Yields (fun _ => True) x

theorem isFair_iff {r : Result α} : IsFair (fun _ => True) r ↔ ∀ fault, r ≠ .error (.config fault) := by
  cases r <;> simp [IsFair]

/-- A run without effects has one result. -/
theorem always_id {p : α → Prop} {x : Id α} : Always p x ↔ p x.run := by
  constructor
  · rintro ⟨y, rfl⟩
    exact y.run.property
  · intro h
    exact ⟨pure ⟨x.run, h⟩, rfl⟩

section

variable [LawfulMonad m] {p : α → Prop} {q : β → Prop}

theorem Always.pure {a : α} (h : p a) : Always p (Pure.pure a : m α) :=
  ⟨Pure.pure ⟨a, h⟩, map_pure _ _⟩

theorem Always.bind {x : m α} {f : α → m β} (hx : Always p x) (hf : ∀ a, p a → Always q (f a)) :
    Always q (x >>= f) := by
  obtain ⟨y, rfl⟩ := hx
  refine ⟨y >>= fun a => (hf a.1 a.2).choose, ?_⟩
  rw [map_bind, bind_map_left]
  refine congrArg _ (funext fun a => ?_)
  exact (hf a.1 a.2).choose_spec

theorem Always.trivial (x : m α) : Always (fun _ => True) x :=
  ⟨(⟨·, True.intro⟩) <$> x, by simp⟩

theorem Always.map {x : m α} {f : α → β} (hx : Always p x) (hf : ∀ a, p a → q (f a)) : Always q (f <$> x) := by
  rw [map_eq_pure_bind]
  exact hx.bind fun a ha => .pure (hf a ha)

theorem Always.mono {x : m α} {p' : α → Prop} (hx : Always p x) (h : ∀ a, p a → p' a) : Always p' x := by
  rw [← id_map x]
  exact hx.map h

theorem Always.mapM {f : α → m β} {list : List α} (hf : ∀ a ∈ list, Always q (f a)) :
    Always (fun results => ∀ b ∈ results, q b) (list.mapM f) := by
  induction list with
  | nil => exact Always.pure (by simp)
  | cons a rest ih =>
    rw [List.mapM_cons]
    refine (hf a List.mem_cons_self).bind fun b hb => ?_
    refine (ih fun a ha => hf a (List.mem_cons_of_mem _ ha)).bind fun others hothers => ?_
    exact Always.pure (List.forall_mem_cons.mpr ⟨hb, hothers⟩)

namespace Yields

theorem pure {a : α} (h : p a) : Yields p (Pure.pure a : ExceptT GridError m α) :=
  Always.pure h

theorem throw {e : GridError} (h : ∀ fault, e ≠ .config fault) :
    Yields p (MonadExcept.throw e : ExceptT GridError m α) :=
  Always.pure h

theorem mk {r : Result α} (h : IsFair p r) : Yields p (.mk (Pure.pure r) : ExceptT GridError m α) :=
  Always.pure h

theorem bind {x : ExceptT GridError m α} {f : α → ExceptT GridError m β} (hx : Yields p x)
    (hf : ∀ a, p a → Yields q (f a)) : Yields q (x >>= f) := by
  rw [Yields, ExceptT.run_bind]
  refine Always.bind hx fun r hr => ?_
  cases r with
  | ok a => exact hf a hr
  | error e => exact Always.pure hr

/-- What follows a lifted run may rely on what holds of all its results. -/
theorem lift_bind {x : m α} {f : α → ExceptT GridError m β} (hx : Always p x) (hf : ∀ a, p a → Yields q (f a)) :
    Yields q (ExceptT.lift x >>= f) := by
  rw [Yields, ExceptT.run_bind_lift]
  exact hx.bind hf

/-- An error that is turned into another kind is no fault of a description. -/
theorem adapt {x : ExceptT GridError m α} {f : GridError → GridError} (h : ∀ e fault, f e ≠ .config fault) :
    ConfigFree (x.adapt f) := by
  rw [ConfigFree, Yields, ExceptT.run_adapt]
  refine (Always.trivial x.run).map fun r _ => ?_
  cases r with
  | ok a => exact True.intro
  | error e => exact h e

end Yields

end

end DataGrid
