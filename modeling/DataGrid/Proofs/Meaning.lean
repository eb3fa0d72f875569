-- SUMMARY: Which rows a plan lets through once it is constrained, whatever the order of the constraints.
import DataGrid.Proofs.Gating
import DataGrid.Proofs.Sql.PlanTests

/-!
# What a plan means

A plan is constrained by pairs of a filter and one more place for the free text. It
lets a row through where the row holds the free text, in some place or by some of the
added keys, and meets everything else. Neither the order of the constraints matters
nor how the predicate has been simplified, and the predicate is that of all rows only
where the plan restricts nothing.
-/

namespace DataGrid

namespace Criteria

/-- There are places for a free text only if there is a free text. -/
def PlacesText (c : Criteria) : Prop :=
  c.freeText = false → c.query = []

/-- No part of a conjunction of criteria is superfluous. -/
theorem ne_all_of_mem_parts {c : Criteria} {p : Predicate} (h : p ∈ c.parts) : p ≠ .all := by
  intro everything
  simp only [parts, List.mem_append, List.mem_map] at h
  rcases h with ((h | ⟨f, -, rfl⟩) | ⟨f, -, rfl⟩) | ⟨f, -, rfl⟩
  · split at h
    · obtain rfl := List.mem_singleton.mp h
      simp [alternatives, Predicate.disjunction_eq_all_iff] at everything
    · cases h
  · obtain ⟨column, value⟩ := f
    cases value <;> cases everything
  · cases everything
  · cases everything

/-- The predicate lets every row through as it stands exactly if there are no criteria. -/
theorem predicate_eq_all_iff {c : Criteria} (placed : c.PlacesText) : c.predicate = .all ↔ c.isEmpty = true := by
  have none : c.predicate = .all ↔ c.parts = [] := by
    rw [predicate, Predicate.conjunction_eq_all_iff, List.eq_nil_iff_forall_not_mem]
    exact forall_congr' fun p => ⟨fun all hp => ne_all_of_mem_parts hp (all hp), fun out hp => absurd hp out⟩
  have unasked {p : Predicate} : (if c.freeText || !c.queryKeys.isEmpty then [p] else []) = [] ↔
      c.freeText = false ∧ c.queryKeys = [] := by
    cases c.freeText <;> cases c.queryKeys <;> simp
  rw [none]
  simp only [parts, isEmpty, List.append_eq_nil_iff, List.map_eq_nil_iff, unasked, Bool.and_eq_true, List.isEmpty_iff,
    Bool.not_eq_true']
  constructor
  · rintro ⟨⟨⟨⟨text, keys⟩, search⟩, filters⟩, range⟩
    exact ⟨⟨⟨⟨⟨search, text⟩, placed text⟩, keys⟩, filters⟩, range⟩
  · rintro ⟨⟨⟨⟨⟨search, text⟩, -⟩, keys⟩, filters⟩, range⟩
    exact ⟨⟨⟨⟨text, keys⟩, search⟩, filters⟩, range⟩

/-- A checked clause adds places for a free text only together with a free text. -/
theorem PlacesText.absorb {c : Criteria} (placed : c.PlacesText) {table : FieldTable} {kind : Capability} {entries : Row}
    {clause : Clause} (checked : Clause.check table kind entries = .ok clause) : (c.absorb clause).PlacesText := by
  cases clause with
  | search terms query freeText =>
    have covers := Clause.covers_of_check checked
    obtain ⟨_, same⟩ := covers.texts covers.kind_eq.symm
    obtain ⟨-, rfl, rfl⟩ := Clause.search.inj same
    intro textless
    obtain ⟨before, none⟩ := Bool.or_eq_false_iff.mp textless
    have texts : Clause.freeTexts entries = [] := List.isEmpty_iff.mp (by simpa using none)
    change c.query ++ _ = []
    rw [placed before, texts]
    rfl
  | _ => exact placed

end Criteria

namespace QueryPlan

/-- What holds of no criteria, and stays when a checked clause is taken in, holds of the criteria of every plan. -/
theorem criteria_induction {p : Criteria → Prop} (empty : p .empty)
    (absorb : ∀ {c table kind entries clause}, p c → Clause.check table kind entries = .ok clause → p (c.absorb clause))
    (table : FieldTable) (request : Request) : p (ofRequest table request).criteria := by
  have taken {plan next : QueryPlan} {kind : Capability} {entries : Row} (h : p plan.criteria)
      (step : plan.Takes kind entries next) : p next.criteria := by
    cases step with
    | checked ok => exact absorb h ok
    | refused => exact h
  have all (clauses : List (Capability × Row)) : ∀ plan : QueryPlan, p plan.criteria →
      p (plan.takeAll clauses).criteria := by
    induction clauses with
    | nil => exact fun _ h => h
    | cons c rest ih => exact fun plan h => ih _ (taken h (plan.takes_takeClause c.1 c.2))
  exact all _ _ empty

/-- Whatever becomes of its clauses, a plan has places for a free text only if it has a free text. -/
theorem placesText_ofRequest (table : FieldTable) (request : Request) : (ofRequest table request).criteria.PlacesText :=
  criteria_induction (fun _ => rfl) (fun placed checked => placed.absorb checked) table request

/-- A request brings in no keys for the free text. -/
theorem queryKeys_ofRequest (table : FieldTable) (request : Request) : (ofRequest table request).criteria.queryKeys = [] := by
  refine criteria_induction (p := fun c => c.queryKeys = []) rfl ?_ table request
  intro c _ _ _ clause unkeyed _
  cases clause <;> exact unkeyed

/-- Constraints add filters and places for the free text, in their order, and change nothing else. -/
theorem criteria_constrainAll (plan : QueryPlan) (updates : List (Option Constraint × Option Constraint)) :
    (plan.constrainAll updates).criteria = { plan.criteria with
      filters := plan.criteria.filters ++ updates.filterMap fun u => u.1.map fun k => (k.column, k.keys)
      queryKeys := plan.criteria.queryKeys ++ updates.filterMap fun u => u.2.map fun k => (k.column, k.keys) } := by
  induction updates generalizing plan with
  | nil => simp [constrainAll]
  | cons u rest ih =>
    obtain ⟨filter, query⟩ := u
    change ((plan.constrain filter query).constrainAll rest).criteria = _
    rw [ih]
    cases filter <;> cases query <;> simp [constrain]

/-- What lets a row through a plan that some updates have constrained: the row holds the free text, if there is one or keys
have been added for it, in some place or by one of the added lists of keys; and every search term, filter and range of the
plan holds of the row, and every added filter. -/
structure Admits (plan : QueryPlan) (updates : List (Option Constraint × Option Constraint)) (row : Row) : Prop where
  text : (plan.criteria.freeText = false ∧ ∀ u ∈ updates, u.2 = none) ∨
    (∃ place ∈ plan.criteria.query, (Predicate.contains place.1 place.2).holds row = true) ∨
      ∃ u ∈ updates, ∃ k, u.2 = some k ∧ (Predicate.oneOf k.column k.keys).holds row = true
  search : ∀ f ∈ plan.criteria.search, ((Fragment.term f.2).predicate f.1).holds row = true
  filters : ∀ f ∈ plan.criteria.filters, (Predicate.oneOf f.1 f.2).holds row = true
  added : ∀ u ∈ updates, ∀ k, u.1 = some k → (Predicate.oneOf k.column k.keys).holds row = true
  range : ∀ f ∈ plan.criteria.range, (Predicate.between f.1 f.2.least f.2.greatest).holds row = true

variable {plan : QueryPlan} {updates updates' : List (Option Constraint × Option Constraint)} {row : Row}

/-- It does not matter in which order the constraints are added. -/
theorem Admits.of_perm (same : updates.Perm updates') (h : plan.Admits updates row) : plan.Admits updates' row where
  text := by
    refine h.text.imp (And.imp_right fun none u hu => none u (same.mem_iff.mpr hu)) (Or.imp_right ?_)
    rintro ⟨u, hu, found⟩
    exact ⟨u, same.mem_iff.mp hu, found⟩
  search := h.search
  filters := h.filters
  added u hu := h.added u (same.mem_iff.mpr hu)
  range := h.range

section

variable {part : Option Constraint × Option Constraint → Option Constraint}

/-- What is added for one part of the updates is the constraints that are given there. -/
private theorem mem_added {f : String × List Json} :
    (f ∈ updates.filterMap fun u => (part u).map fun k => (k.column, k.keys)) ↔
      ∃ u ∈ updates, ∃ k, part u = some k ∧ (k.column, k.keys) = f := by
  simp only [List.mem_filterMap, Option.map_eq_some_iff]

private theorem added_eq_nil :
    (updates.filterMap fun u => (part u).map fun k => (k.column, k.keys)) = [] ↔ ∀ u ∈ updates, part u = none := by
  simp only [List.filterMap_eq_nil_iff, Option.map_eq_none_iff]

private theorem exists_added_iff :
    (∃ f ∈ updates.filterMap fun u => (part u).map fun k => (k.column, k.keys),
      (Predicate.oneOf f.1 f.2).holds row = true) ↔
      ∃ u ∈ updates, ∃ k, part u = some k ∧ (Predicate.oneOf k.column k.keys).holds row = true := by
  constructor
  · rintro ⟨f, hf, holds⟩
    obtain ⟨u, hu, k, hk, rfl⟩ := mem_added.mp hf
    exact ⟨u, hu, k, hk, holds⟩
  · rintro ⟨u, hu, k, hk, holds⟩
    exact ⟨_, mem_added.mpr ⟨u, hu, k, hk, rfl⟩, holds⟩

private theorem forall_added_iff :
    (∀ f ∈ updates.filterMap fun u => (part u).map fun k => (k.column, k.keys),
      (Predicate.oneOf f.1 f.2).holds row = true) ↔
      ∀ u ∈ updates, ∀ k, part u = some k → (Predicate.oneOf k.column k.keys).holds row = true := by
  constructor
  · intro holds u hu k hk
    exact holds _ (mem_added.mpr ⟨u, hu, k, hk, rfl⟩)
  · intro holds f hf
    obtain ⟨u, hu, k, hk, rfl⟩ := mem_added.mp hf
    exact holds u hu k hk

end

/-- The predicate of a constrained plan means what its parts mean. -/
theorem holds_constrainAll (unkeyed : plan.criteria.queryKeys = []) :
    (plan.constrainAll updates).predicate.holds row = true ↔ plan.Admits updates row := by
  rw [predicate, Criteria.holds_predicate, Criteria.forall_fragments_iff, Criteria.FoundIn, criteria_constrainAll]
  dsimp only
  rw [unkeyed, List.nil_append]
  constructor
  · rintro ⟨text, search, filters, range⟩
    obtain ⟨own, added⟩ := List.forall_mem_append.mp filters
    refine {
      text := ?_
      search := search
      filters := own
      added := forall_added_iff.mp added
      range := range }
    by_cases asked : plan.criteria.freeText = true ∨
        (updates.filterMap fun u => u.2.map fun k => (k.column, k.keys)) ≠ []
    · exact .inr ((text asked).imp_right exists_added_iff.mp)
    · obtain ⟨textless, keyless⟩ := not_or.mp asked
      exact .inl ⟨Bool.eq_false_iff.mpr textless, added_eq_nil.mp (not_not.mp keyless)⟩
  · intro admits
    refine ⟨fun asked => ?_, admits.search, ?_, admits.range⟩
    · rcases admits.text with ⟨textless, none⟩ | found
      · rcases asked with text | some
        · exact absurd text (Bool.eq_false_iff.mp textless)
        · exact absurd (added_eq_nil.mpr none) some
      · exact found.imp_right exists_added_iff.mpr
    · exact List.forall_mem_append.mpr ⟨admits.filters, forall_added_iff.mpr admits.added⟩

/-- Constraints add no places for a free text. -/
theorem placesText_constrainAll (placed : plan.criteria.PlacesText) :
    (plan.constrainAll updates).criteria.PlacesText := by
  rw [criteria_constrainAll]
  exact placed

/-- A plan that has been made of any request and constrained by any updates lets exactly the rows through that it admits,
whatever the order of the updates; and its predicate is that of all rows exactly if its criteria are empty. -/
theorem predicate_admits (table : FieldTable) (request : Request)
    (updates : List (Option Constraint × Option Constraint)) :
    (∀ row, ((ofRequest table request).constrainAll updates).predicate.holds row = true ↔
      (ofRequest table request).Admits updates row) ∧
    (∀ updates', updates.Perm updates' → ∀ row,
      ((ofRequest table request).constrainAll updates').predicate.holds row =
        ((ofRequest table request).constrainAll updates).predicate.holds row) ∧
    (((ofRequest table request).constrainAll updates).predicate = .all ↔
      ((ofRequest table request).constrainAll updates).criteria.isEmpty = true) := by
  have holds {updates : List (Option Constraint × Option Constraint)} {row : Row} :=
    @holds_constrainAll _ updates row (queryKeys_ofRequest table request)
  refine ⟨fun row => holds, fun updates' same row => ?_, ?_⟩
  · rw [Bool.eq_iff_iff, holds, holds]
    exact ⟨Admits.of_perm same.symm, Admits.of_perm same⟩
  · exact Criteria.predicate_eq_all_iff (placesText_constrainAll (placesText_ofRequest table request))

namespace People

/-- Only guests. -/
def guests : Option Constraint × Option Constraint :=
  (some ⟨"status", [.str "guest"]⟩, none)

/-- The free text is also found in whoever lives in a certain town. -/
def townsfolk : Option Constraint × Option Constraint :=
  (none, some ⟨"town", [.ofNat 301]⟩)

/-- Anna, whose name does not tell where she lives. -/
def anna : Row :=
  [("name", .str "Anna"), ("status", .str "guest"), ("town", .ofNat 301), ("years", .ofNat 7)]

end People

/-- Anna is found by the town that was added for the free text, in whatever order. -/
theorem predicate_admits_anna :
    [People.guests, People.townsfolk].Perm [People.townsfolk, People.guests] ∧
      ((ofRequest People.table (People.request [("age", .ofNat 7)])).constrainAll
        [People.townsfolk, People.guests]).predicate.holds People.anna = true ∧
      (ofRequest People.table (People.request [("age", .ofNat 7)])).Admits [People.guests, People.townsfolk]
        People.anna := by
  have same : [People.guests, People.townsfolk].Perm [People.townsfolk, People.guests] := .swap ..
  obtain ⟨admits, order, -⟩ :=
    predicate_admits People.table (People.request [("age", .ofNat 7)]) [People.guests, People.townsfolk]
  have found : ((ofRequest People.table (People.request [("age", .ofNat 7)])).constrainAll
      [People.guests, People.townsfolk]).predicate.holds People.anna = true := by decide +kernel
  exact ⟨same, (order _ same People.anna).trans found, (admits People.anna).mp found⟩

end QueryPlan

end DataGrid
