-- SUMMARY: The criteria of a plan without complaints, and the rows they let through.
import DataGrid.Proofs.Clause
import DataGrid.Proofs.PageChoice
import DataGrid.Proofs.Predicate
import DataGrid.Proofs.Request

/-!
# Query plans

A plan without complaints holds one fragment for every named entry of the request,
and nothing else. A row is let through where it satisfies every fragment and, if
there is a free text, one of the places it may be found in. Whatever becomes of the
clauses, a plan keeps its table, and the page that the request names.
-/

namespace DataGrid

/-! ## Criteria -/

namespace Criteria

/-- The fragments of a kind with their columns. -/
def fragments (c : Criteria) : Capability → List (String × Fragment)
  | .search => c.search.map fun (column, value) => (column, .term value)
  | .filter => c.filters.map fun (column, values) => (column, .among values)
  | .range => c.range.map fun (column, bounds) => (column, .within bounds)
  | .sort => c.sort.map fun (column, direction) => (column, .sorted direction)
  | .display => []

/-- Whether a row holds the free text in one of the places it may be found in. -/
def FoundIn (c : Criteria) (row : Row) : Prop :=
  (∃ place ∈ c.query, (Predicate.contains place.1 place.2).holds row = true) ∨
    ∃ place ∈ c.queryKeys, (Predicate.oneOf place.1 place.2).holds row = true

@[simp] theorem fragments_empty (kind : Capability) : empty.fragments kind = [] := by
  cases kind <;> rfl

theorem fragments_absorb (c : Criteria) (clause : Clause) (kind : Capability) :
    (c.absorb clause).fragments kind = c.fragments kind ++ if clause.kind = kind then clause.named else [] := by
  cases clause <;> cases kind <;> simp [absorb, fragments, Clause.kind, Clause.named]

private theorem holds_alternatives (c : Criteria) (row : Row) :
    (∃ p ∈ c.alternatives, p.holds row = true) ↔ c.FoundIn row := by
  simp only [alternatives, FoundIn, List.mem_append, List.mem_map]
  constructor
  · rintro ⟨p, ⟨place, hplace, rfl⟩ | ⟨place, hplace, rfl⟩, hp⟩
    · exact .inl ⟨place, hplace, hp⟩
    · exact .inr ⟨place, hplace, hp⟩
  · rintro (⟨place, hplace, hp⟩ | ⟨place, hplace, hp⟩)
    · exact ⟨_, .inl ⟨place, hplace, rfl⟩, hp⟩
    · exact ⟨_, .inr ⟨place, hplace, rfl⟩, hp⟩

/-- The demands of all fragments are those of the search terms, filters and ranges. -/
theorem forall_fragments_iff (c : Criteria) (row : Row) :
    (∀ kind, ∀ f ∈ c.fragments kind, (f.2.predicate f.1).holds row = true) ↔
      (∀ f ∈ c.search, ((Fragment.term f.2).predicate f.1).holds row = true) ∧
        (∀ f ∈ c.filters, (Predicate.oneOf f.1 f.2).holds row = true) ∧
          ∀ f ∈ c.range, (Predicate.between f.1 f.2.least f.2.greatest).holds row = true := by
  constructor
  · intro h
    exact ⟨fun f hf => h .search (f.1, .term f.2) (List.mem_map.mpr ⟨f, hf, rfl⟩),
      fun f hf => h .filter (f.1, .among f.2) (List.mem_map.mpr ⟨f, hf, rfl⟩),
      fun f hf => h .range (f.1, .within f.2) (List.mem_map.mpr ⟨f, hf, rfl⟩)⟩
  · rintro ⟨hsearch, hfilters, hrange⟩ kind f hf
    cases kind with
    | display => cases hf
    | search => obtain ⟨g, hg, rfl⟩ := List.mem_map.mp hf; exact hsearch g hg
    | filter => obtain ⟨g, hg, rfl⟩ := List.mem_map.mp hf; exact hfilters g hg
    | range => obtain ⟨g, hg, rfl⟩ := List.mem_map.mp hf; exact hrange g hg
    | sort => obtain ⟨g, hg, rfl⟩ := List.mem_map.mp hf; exact Predicate.holds_all row

/-- A row is let through where it satisfies every fragment and, if there is a free text, holds it. -/
theorem holds_predicate (c : Criteria) (row : Row) :
    c.predicate.holds row = true ↔
      (c.freeText = true ∨ c.queryKeys ≠ [] → c.FoundIn row) ∧
        ∀ kind, ∀ f ∈ c.fragments kind, (f.2.predicate f.1).holds row = true := by
  rw [forall_fragments_iff, predicate, Predicate.holds_conjunction]
  simp only [Fragment.predicate_term, parts, List.all_append, List.all_map, Bool.and_eq_true, List.all_eq_true, and_assoc]
  refine and_congr ?_ Iff.rfl
  by_cases text : c.freeText = true ∨ c.queryKeys ≠ []
  · have asked : (c.freeText || !c.queryKeys.isEmpty) = true := by simpa using text
    simp [asked, text, Predicate.holds_disjunction, holds_alternatives]
  · have unasked : (c.freeText || !c.queryKeys.isEmpty) = false := by simpa using text
    simp [unasked, text]

end Criteria


/-! ## Plans -/

/-- A count that fits is taken as it is. -/
theorem Pagination.positive?_ofNat {n : Nat} (positive : 0 < n) (fits : n ≤ Number.greatestInt) :
    positive? (.ofNat n) = some n :=
  positive?_eq_some_iff.mpr (.integer positive fits)

namespace QueryPlan

/-- Check some clauses one after the other. -/
def takeAll (plan : QueryPlan) (clauses : List (Capability × Row)) : QueryPlan :=
  clauses.foldl (fun plan c => plan.takeClause c.1 c.2) plan

/-- One clause of a request: either it is checked and taken into the criteria, or its complaints are kept. -/
inductive Takes (plan : QueryPlan) (kind : Capability) (entries : Row) : QueryPlan → Prop
  | checked {clause} (ok : Clause.check plan.table kind entries = .ok clause) :
    Takes plan kind entries { plan with criteria := plan.criteria.absorb clause }
  | refused {complaints} (error : Clause.check plan.table kind entries = .error complaints) :
    Takes plan kind entries { plan with complaints := plan.complaints.merge complaints }

theorem takes_takeClause (plan : QueryPlan) (kind : Capability) (entries : Row) :
    plan.Takes kind entries (plan.takeClause kind entries) := by
  unfold takeClause
  split
  · next clause ok => exact .checked ok
  · next complaints error => exact .refused error

/-- A clause changes neither the table of a plan nor its page. -/
theorem Takes.keeps {plan next : QueryPlan} {kind : Capability} {entries : Row} (h : plan.Takes kind entries next) :
    next.table = plan.table ∧ next.pagination = plan.pagination := by
  cases h with
  | checked => exact ⟨rfl, rfl⟩
  | refused => exact ⟨rfl, rfl⟩

theorem takeAll_keeps (plan : QueryPlan) (clauses : List (Capability × Row)) :
    (plan.takeAll clauses).table = plan.table ∧ (plan.takeAll clauses).pagination = plan.pagination := by
  induction clauses generalizing plan with
  | nil => exact ⟨rfl, rfl⟩
  | cons c rest ih =>
    obtain ⟨table, pagination⟩ := (plan.takes_takeClause c.1 c.2).keeps
    exact (ih (plan.takeClause c.1 c.2)).imp (·.trans table) (·.trans pagination)

theorem table_ofRequest (table : FieldTable) (request : Request) : (ofRequest table request).table = table :=
  (takeAll_keeps ..).1

/-- The page of a plan is the one that the request names, whatever becomes of its clauses. -/
theorem pagination_ofRequest {table : FieldTable} {request : Request} {limit page : Nat}
    (hlimit : request.limit.bind Pagination.positive? = some limit)
    (hpage : request.page.bind Pagination.positive? = some page) :
    (ofRequest table request).pagination = .window limit page := by
  have chosen : (PageChoice.initial.takeLimit request.limit).takePage request.page = ⟨limit, page⟩ := by
    simp [PageChoice.takeLimit, PageChoice.takePage, hlimit, hpage]
  refine (takeAll_keeps ..).2.trans ?_
  rw [chosen]

/-- The usable free texts among some clauses. -/
def textsIn (clauses : List (Capability × Row)) : List String :=
  clauses.flatMap fun c => if c.1 = .search then Clause.freeTexts c.2 else []

/-- The accepted entries of one kind among some clauses. -/
def acceptedIn (table : FieldTable) (kind : Capability) (clauses : List (Capability × Row)) : List (String × Fragment) :=
  clauses.flatMap fun c => if c.1 = kind then c.2.filterMap (Clause.accepted? table kind) else []

/-- How checking some clauses without a complaint changes a plan. -/
structure Taken (plan : QueryPlan) (clauses : List (Capability × Row)) (next : QueryPlan) : Prop where
  quiet : plan.complaints = []
  accepts : ∀ c ∈ clauses, ∀ e ∈ c.2, Clause.isNamed c.1 e.1 = true →
    (Clause.accepted? plan.table c.1 e).isSome = true
  fragments_eq : ∀ kind,
    next.criteria.fragments kind = plan.criteria.fragments kind ++ acceptedIn plan.table kind clauses
  query_eq : next.criteria.query = plan.criteria.query ++
    (textsIn clauses).flatMap fun text => (Clause.searchableColumns plan.table).map (·, text)
  freeText_eq : next.criteria.freeText = (plan.criteria.freeText || !(textsIn clauses).isEmpty)
  queryKeys_eq : next.criteria.queryKeys = plan.criteria.queryKeys

/-- A clause that is taken in without a complaint adds its accepted entries, and its texts where they are looked for. -/
theorem Takes.taken {plan next : QueryPlan} {kind : Capability} {entries : Row} (h : plan.Takes kind entries next)
    (quiet : next.complaints = []) : Taken plan [(kind, entries)] next := by
  cases h with
  | refused error =>
    exact absurd (Complaints.merge_eq_nil.mp quiet).2 (Clause.complaints_ne_nil_of_check error)
  | @checked clause ok =>
    obtain ⟨hkind, named, accepts, texts⟩ := Clause.covers_of_check ok
    have fragments (k : Capability) : (plan.criteria.absorb clause).fragments k =
        plan.criteria.fragments k ++ acceptedIn plan.table k [(kind, entries)] := by
      rw [Criteria.fragments_absorb, hkind, named]
      by_cases same : kind = k
      · subst same
        simp [acceptedIn]
      · simp [acceptedIn, same]
    by_cases search : kind = .search
    · obtain ⟨terms, rfl⟩ := texts search
      refine ⟨quiet, by simpa using accepts, fragments, ?_, ?_, rfl⟩ <;>
        simp [Criteria.absorb, textsIn, search]
    · have kept : (plan.criteria.absorb clause).query = plan.criteria.query ∧
          (plan.criteria.absorb clause).freeText = plan.criteria.freeText ∧
          (plan.criteria.absorb clause).queryKeys = plan.criteria.queryKeys := by
        cases clause with
        | search => exact absurd hkind.symm search
        | _ => exact ⟨rfl, rfl, rfl⟩
      exact ⟨quiet, by simpa using accepts, fragments, by simp [textsIn, search, kept],
        by simp [textsIn, search, kept], kept.2.2⟩

theorem taken_takeAll {clauses : List (Capability × Row)} {plan : QueryPlan}
    (h : (plan.takeAll clauses).complaints = []) : Taken plan clauses (plan.takeAll clauses) := by
  induction clauses generalizing plan with
  | nil => exact ⟨h, by simp, by simp [takeAll, acceptedIn], by simp [takeAll, textsIn],
      by simp [takeAll, textsIn], rfl⟩
  | cons c rest ih =>
    have later : Taken (plan.takeClause c.1 c.2) rest (plan.takeAll (c :: rest)) := ih h
    have step := plan.takes_takeClause c.1 c.2
    have first := step.taken later.quiet
    have table := step.keeps.1
    refine ⟨first.quiet, fun d hd => ?_, fun k => ?_, ?_, ?_, later.queryKeys_eq.trans first.queryKeys_eq⟩
    · rcases List.mem_cons.mp hd with rfl | hd
      · exact first.accepts d List.mem_cons_self
      · exact table ▸ later.accepts d hd
    · rw [later.fragments_eq, first.fragments_eq, table]
      simp [acceptedIn]
    · rw [later.query_eq, first.query_eq, table]
      simp [textsIn]
    · have split : textsIn (c :: rest) = textsIn [(c.1, c.2)] ++ textsIn rest := by simp [textsIn]
      rw [later.freeText_eq, first.freeText_eq, split, Bool.or_assoc]
      cases textsIn [(c.1, c.2)] <;> rfl

/-- What a plan without complaints has made of a request: the fragments of a kind are those of its named entries,
each of them accepted, and the free text is looked for in every searchable column. -/
structure Covers (table : FieldTable) (request : Request) (plan : QueryPlan) : Prop where
  table_eq : plan.table = table
  accepts : ∀ kind, ∀ e ∈ request.entries kind, Clause.isNamed kind e.1 = true →
    (Clause.accepted? table kind e).isSome = true
  fragments_eq : ∀ kind, kind ≠ .display →
    plan.criteria.fragments kind = (request.entries kind).filterMap (Clause.accepted? table kind)
  query_eq : plan.criteria.query =
    (Clause.freeTexts (request.entries .search)).flatMap fun text => (Clause.searchableColumns table).map (·, text)
  freeText_eq : plan.criteria.freeText = !(Clause.freeTexts (request.entries .search)).isEmpty
  queryKeys_eq : plan.criteria.queryKeys = []

theorem covers_of_complaints_eq_nil {table : FieldTable} {request : Request}
    (h : (ofRequest table request).complaints = []) : Covers table request (ofRequest table request) := by
  have taken := @taken_takeAll request.clauses _ h
  have texts : textsIn request.clauses = Clause.freeTexts (request.entries .search) :=
    request.flatMap_clauses (by nofun) Clause.freeTexts rfl
  refine ⟨table_ofRequest .., fun kind e he => ?_, fun kind hkind => ?_, ?_, ?_, taken.queryKeys_eq⟩
  · obtain ⟨entries, hclause, he⟩ := Request.exists_of_mem_entries he
    exact taken.accepts (kind, entries) (Request.mem_clauses.mpr hclause) e he
  · rw [← request.flatMap_clauses hkind (·.filterMap (Clause.accepted? table kind)) rfl]
    exact (taken.fragments_eq kind).trans (by simp [acceptedIn])
  · rw [← texts]
    exact taken.query_eq
  · rw [← texts]
    exact taken.freeText_eq.trans (Bool.false_or _)

end QueryPlan

end DataGrid
