-- SUMMARY: What a run asks stores and callers, in order, and what holds of every such record.
import DataGrid.Proofs.Always
import DataGrid.Remote.Call
import DataGrid.Store.Basic

/-!
# Recorded runs

An effect is a question to a store or a caller together with its answer. A recorded
run is the same run that notes its effects. What holds of the result and of the
effects of every recorded run is passed on from step to step: the effects of a step
stand before those of what follows.
-/

namespace DataGrid

/-- A question to a store or a caller, and its answer. -/
inductive Effect where
  | count (collection : String) (predicate : Predicate) (answer : Result Nat)
  | find (collection : String) (selection : Selection) (answer : Result (List Row))
  | call (call : Call) (answer : Result Reply)

/-- Whether a store has been asked. -/
def Effect.isAccess : Effect → Bool
  | .count .. | .find .. => true
  | .call .. => false

/-- Runs that note their effects. -/
abbrev Recorded (m : Type → Type) := StateT (List Effect) m

variable {m : Type → Type} [Monad m] {α β : Type}

/-- Do something and note its effect. -/
def Recorded.noted (x : ExceptT GridError m α) (effect : Result α → Effect) : ExceptT GridError (Recorded m) α :=
  .mk fun past => do
    let answer ← x.run
    return (answer, past ++ [effect answer])

/-- A store whose answers are noted. -/
def Store.recorded (store : Store m) : Store (Recorded m) where
  count collection predicate := .noted (store.count collection predicate) (.count collection predicate)
  find collection selection := .noted (store.find collection selection) (.find collection selection)

/-- A caller whose answers are noted. -/
def Caller.recorded (caller : Caller m) : Caller (Recorded m) :=
  fun call => .noted (caller call) (.call call)

/-- A recorded run is some run: it yields the same results, each with effects that are noted behind the past ones and
that are related to it. -/
def Records (R : α → List Effect → Prop) (recorded : Recorded m α) (plain : m α) : Prop :=
  ∃ y : m {r : α × List Effect // R r.1 r.2},
    (∀ past, (fun r => (r.1.1, past ++ r.1.2)) <$> y = recorded.run past) ∧ (fun r => r.1.1) <$> y = plain

namespace Records

variable [LawfulMonad m] {R : α → List Effect → Prop} {S : β → List Effect → Prop}

theorem pure {a : α} (h : R a []) : Records R (Pure.pure a : Recorded m α) (Pure.pure a) := by
  refine ⟨Pure.pure ⟨(a, []), h⟩, fun past => ?_, map_pure _ _⟩
  rw [map_pure, List.append_nil]
  rfl

/-- A run that ends here adds nothing to the effects so far. -/
theorem stop {a : α} {effects : List Effect} (h : R a effects) :
    Records (fun b more => R b (effects ++ more)) (Pure.pure a : Recorded m α) (Pure.pure a) := by
  apply pure
  rw [List.append_nil]
  exact h

theorem mono {recorded : Recorded m α} {plain : m α} {R' : α → List Effect → Prop} (hx : Records R recorded plain)
    (h : ∀ a effects, R a effects → R' a effects) : Records R' recorded plain := by
  obtain ⟨y, hrecorded, rfl⟩ := hx
  refine ⟨(fun r => ⟨r.1, h _ _ r.2⟩) <$> y, fun past => ?_, ?_⟩
  · rw [← hrecorded past, Functor.map_map]
  · rw [Functor.map_map]

theorem bind {recorded : Recorded m α} {plain : m α} {f : α → Recorded m β} {g : α → m β}
    (hx : Records R recorded plain)
    (hf : ∀ a effects, R a effects → Records (fun b more => S b (effects ++ more)) (f a) (g a)) :
    Records S (recorded >>= f) (plain >>= g) := by
  obtain ⟨y, hrecorded, rfl⟩ := hx
  -- what follows each result of the first step
  let next (r : {r : α × List Effect // R r.1 r.2}) := (hf r.1.1 r.1.2 r.2).choose
  refine ⟨y >>= fun r => (fun s => ⟨(s.1.1, r.1.2 ++ s.1.2), s.2⟩) <$> next r, fun past => ?_, ?_⟩
  · rw [StateT.run_bind, ← hrecorded past, bind_map_left, map_bind]
    refine congrArg _ (funext fun r => ?_)
    rw [← (hf r.1.1 r.1.2 r.2).choose_spec.1 (past ++ r.1.2), Functor.map_map]
    simp only [List.append_assoc]
    rfl
  · rw [bind_map_left, map_bind]
    refine congrArg _ (funext fun r => ?_)
    rw [Functor.map_map]
    exact (hf r.1.1 r.1.2 r.2).choose_spec.2

theorem map {recorded : Recorded m α} {plain : m α} {f : α → β} (hx : Records R recorded plain)
    (h : ∀ a effects, R a effects → S (f a) effects) : Records S (f <$> recorded) (f <$> plain) := by
  rw [map_eq_pure_bind, map_eq_pure_bind]
  apply hx.bind
  intro a effects ha
  exact stop (h a effects ha)

/-- What has been noted is the answer. -/
theorem noted (x : ExceptT GridError m α) (effect : Result α → Effect) :
    Records (fun answer effects => effects = [effect answer]) (Recorded.noted x effect).run x.run := by
  refine ⟨(fun answer => ⟨(answer, [effect answer]), rfl⟩) <$> x.run, fun past => ?_, ?_⟩
  · rw [Functor.map_map, map_eq_pure_bind]
    rfl
  · rw [Functor.map_map, id_map']

/-- Steps that may fail: what follows runs only on a value. -/
theorem bindExcept {recorded : ExceptT GridError (Recorded m) α} {plain : ExceptT GridError m α}
    {f : α → ExceptT GridError (Recorded m) β} {g : α → ExceptT GridError m β}
    {R : Result α → List Effect → Prop} {S : Result β → List Effect → Prop}
    (hx : Records R recorded.run plain.run)
    (hf : ∀ a effects, R (.ok a) effects → Records (fun b more => S b (effects ++ more)) (f a).run (g a).run)
    (he : ∀ error effects, R (.error error) effects → S (.error error) effects) :
    Records S (recorded >>= f).run (plain >>= g).run := by
  rw [ExceptT.run_bind, ExceptT.run_bind]
  apply hx.bind
  intro result effects h
  cases result with
  | ok a => exact hf a effects h
  | error error => exact stop (he error effects h)

/-- The effects of a list of runs are those of its members, one after the other. -/
theorem mapM {f : α → Recorded m β} {g : α → m β} {R : α → β → List Effect → Prop}
    (hf : ∀ a, Records (R a) (f a) (g a)) (list : List α) :
    Records (fun results effects => ∃ parts : List (β × List Effect),
      List.Forall₂ (fun a part => R a part.1 part.2) list parts ∧ results = parts.map (·.1) ∧
        effects = parts.flatMap (·.2)) (list.mapM f) (list.mapM g) := by
  induction list with
  | nil => exact pure ⟨[], .nil, rfl, rfl⟩
  | cons a rest ih =>
    rw [List.mapM_cons, List.mapM_cons]
    refine (hf a).bind fun b effects hb => ih.bind fun others more hothers => ?_
    obtain ⟨parts, hparts, rfl, rfl⟩ := hothers
    exact pure ⟨(b, effects) :: parts, .cons hb hparts, rfl, by rw [List.append_nil, List.flatMap_cons]⟩

/-- Without its effects, a recorded run is the run. -/
theorem forget {recorded : Recorded m α} {plain : m α} (h : Records R recorded plain) (past : List Effect) :
    (·.1) <$> recorded.run past = plain := by
  obtain ⟨y, hrecorded, rfl⟩ := h
  rw [← hrecorded past, Functor.map_map]

theorem always {recorded : Recorded m α} {plain : m α} (h : Records R recorded plain) (past : List Effect) :
    Always (fun r => ∃ effects, r.2 = past ++ effects ∧ R r.1 effects) (recorded.run past) := by
  obtain ⟨y, hrecorded, -⟩ := h
  refine ⟨(fun r => ⟨(r.1.1, past ++ r.1.2), r.1.2, rfl, r.2⟩) <$> y, ?_⟩
  rw [Functor.map_map, ← hrecorded past]

end Records

end DataGrid
