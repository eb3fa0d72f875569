-- SUMMARY: Which entries of a request are complained of, and what becomes of the others.
import DataGrid.Proofs.QueryPlan

/-!
# Gating

A plan complains of the entries that do not stand up to its table, each under its name,
and of nothing else. Where it complains of none, no entry is lost: the fragments of each
kind are those of the named entries one by one, and the free text is looked for in every
searchable column.
-/

namespace DataGrid

open Clause (Stands isNamed)

namespace QueryPlan

/-! ## Complaints -/

/-- A clause adds complaints about the entries that do not stand up to the table. -/
theorem Takes.mem_keys {plan next : QueryPlan} {kind : Capability} {entries : Row} (h : plan.Takes kind entries next)
    (hkind : kind ≠ .display) {name : String} :
    name ∈ Keyed.keys next.complaints ↔
      name ∈ Keyed.keys plan.complaints ∨ ∃ e ∈ entries, e.1 = name ∧ ¬Stands plan.table kind e := by
  cases h with
  | @checked clause ok =>
    have stand := (Clause.check_isOk_iff hkind).mp ⟨clause, ok⟩
    refine (or_iff_left ?_).symm
    rintro ⟨e, he, -, falls⟩
    exact falls (stand e he)
  | refused error => rw [Complaints.mem_keys_merge, Clause.mem_keys_of_check hkind error]

theorem mem_keys_takeAll {plan : QueryPlan} {clauses : List (Capability × Row)} (kinds : ∀ c ∈ clauses, c.1 ≠ .display)
    {name : String} :
    name ∈ Keyed.keys (plan.takeAll clauses).complaints ↔
      name ∈ Keyed.keys plan.complaints ∨ ∃ c ∈ clauses, ∃ e ∈ c.2, e.1 = name ∧ ¬Stands plan.table c.1 e := by
  induction clauses generalizing plan with
  | nil => simp [takeAll]
  | cons c rest ih =>
    obtain ⟨here, later⟩ := List.forall_mem_cons.mp kinds
    have step := plan.takes_takeClause c.1 c.2
    refine (ih later).trans ?_
    rw [step.mem_keys here, step.keeps.1, List.exists_mem_cons_iff, or_assoc]

section

variable {table : FieldTable} {request : Request}

/-- The names that a plan complains under are those of the entries that do not stand up to its table. -/
theorem mem_keys_complaints {name : String} :
    name ∈ Keyed.keys (ofRequest table request).complaints ↔
      ∃ c ∈ request.clauses, ∃ e ∈ c.2, e.1 = name ∧ ¬Stands table c.1 e :=
  (mem_keys_takeAll fun _ => Request.ne_display_of_mem_clauses).trans (or_iff_right List.not_mem_nil)

/-- A plan has no complaints exactly when every entry of the request stands up to its table. -/
theorem complaints_eq_nil_iff :
    (ofRequest table request).complaints = [] ↔ ∀ c ∈ request.clauses, ∀ e ∈ c.2, Stands table c.1 e := by
  have named : (ofRequest table request).complaints = [] ↔
      ∀ name, name ∉ Keyed.keys (ofRequest table request).complaints := by
    rw [← List.eq_nil_iff_forall_not_mem, Keyed.keys, List.map_eq_nil_iff]
  rw [named]
  constructor
  · intro silent c hc e he
    by_contra falls
    exact silent e.1 (mem_keys_complaints.mpr ⟨c, hc, e, he, rfl, falls⟩)
  · intro stand name complained
    obtain ⟨c, hc, e, he, -, falls⟩ := mem_keys_complaints.mp complained
    exact falls (stand c hc e he)


/-! ## Fragments -/

/-- Where all named entries are accepted, they are accepted one by one as the fragments. -/
private theorem forall₂_accepted {kind : Capability} {entries : Row}
    (accepts : ∀ e ∈ entries, isNamed kind e.1 = true → (Clause.accepted? table kind e).isSome = true) :
    List.Forall₂ (fun e fragment => Clause.accepted? table kind e = some fragment)
      (entries.filter fun e => isNamed kind e.1) (entries.filterMap (Clause.accepted? table kind)) := by
  induction entries with
  | nil => exact .nil
  | cons e rest ih =>
    obtain ⟨here, later⟩ := List.forall_mem_cons.mp accepts
    by_cases named : isNamed kind e.1 = true
    · obtain ⟨fragment, accepted⟩ := Option.isSome_iff_exists.mp (here named)
      rw [List.filter_cons, if_pos named, List.filterMap_cons_some accepted]
      exact .cons accepted (ih later)
    · have unaccepted : Clause.accepted? table kind e = none := if_neg named
      rw [List.filter_cons, if_neg named, List.filterMap_cons_none unaccepted]
      exact ih later

/-- Where no name occurs twice, there is no free text but the one that is found under its name. -/
private theorem freeTexts_eq {entries : Row} (ordered : entries.Ascending) :
    Clause.freeTexts entries =
      ((Keyed.get? entries Request.freeTextKey).bind fun value => (Clause.checkFreeText value).toOption).toList := by
  induction entries with
  | nil => rfl
  | cons e rest ih =>
    obtain ⟨name, value⟩ := e
    obtain ⟨above, tail⟩ := List.pairwise_cons.mp ordered
    have others := ih tail
    simp only [Clause.freeTexts] at others ⊢
    rw [List.filterMap_cons, others, Keyed.get?_cons]
    by_cases same : name = Request.freeTextKey
    · have absent : Keyed.get? rest Request.freeTextKey = none := by
        refine Keyed.get?_eq_none_iff.mpr fun again => ?_
        obtain ⟨e, he, heq⟩ := List.mem_map.mp again
        exact String.lt_irrefl _ (same ▸ heq ▸ above e he)
      rw [absent, if_pos same]
      cases checked : (Clause.checkFreeText value).toOption <;> simp [same, checked]
    · simp [same]

/-- What becomes of a request whose entries all stand up: each named entry names a field that grants its kind, and is one
fragment on the column of this field, in the order of the entries; and a free text is looked for, trimmed, in every
searchable column. -/
structure Lossless (table : FieldTable) (request : Request) (criteria : Criteria) : Prop where
  granted : ∀ kind, ∀ e ∈ request.entries kind, isNamed kind e.1 = true →
    ∃ field, table.get? e.1 = some field ∧ field.grants kind = true
  fragments : ∀ kind, kind ≠ .display →
    List.Forall₂ (fun e fragment => ∃ field, table.get? e.1 = some field ∧ field.grants kind = true ∧
        fragment.1 = field.column ∧ Fragment.ofValue? kind e.2 = some fragment.2)
      ((request.entries kind).filter fun e => isNamed kind e.1) (criteria.fragments kind)
  text : match request.freeText? with
    | none => criteria.freeText = false ∧ criteria.query = []
    | some value => ∃ s, value = .str s ∧ Text.isBlank s = false ∧ criteria.freeText = true ∧
        criteria.query = (table.toList.filter (·.searchable)).map fun field => (field.column, Text.trim s)

/-- A free text that stands up is looked for, trimmed, in every searchable column, and none where none is given. -/
private theorem Covers.text (covers : Covers table request (ofRequest table request))
    (ordered : (request.entries .search).Ascending) (stand : ∀ e ∈ request.entries .search, Stands table .search e) :
    match request.freeText? with
    | none => (ofRequest table request).criteria.freeText = false ∧ (ofRequest table request).criteria.query = []
    | some value => ∃ s, value = .str s ∧ Text.isBlank s = false ∧ (ofRequest table request).criteria.freeText = true ∧
        (ofRequest table request).criteria.query =
          (table.toList.filter (·.searchable)).map fun field => (field.column, Text.trim s) := by
  have found := request.get?_entries_search
  have query := covers.query_eq
  have asked := covers.freeText_eq
  rw [freeTexts_eq ordered, found] at query asked
  cases given : request.freeText? with
  | none =>
    rw [given] at query asked
    exact ⟨asked, query⟩
  | some value =>
    rw [given] at query asked found
    obtain ⟨s, rfl, some⟩ := Clause.stands_freeText_iff.mp (stand _ (Keyed.mem_of_get?_eq_some found))
    have checked : Clause.checkFreeText (.str s) = .ok (Text.trim s) :=
      Clause.checkFreeText_eq_ok.mpr ⟨s, rfl, some, rfl⟩
    rw [Option.bind_some, checked] at query asked
    refine ⟨s, rfl, some, asked, query.trans ((List.flatMap_singleton _ _).trans ?_)⟩
    rw [Clause.searchableColumns, List.map_map]
    rfl

theorem lossless_of_complaints_eq_nil (ordered : (request.entries .search).Ascending)
    (quiet : (ofRequest table request).complaints = []) : Lossless table request (ofRequest table request).criteria := by
  have covers := covers_of_complaints_eq_nil quiet
  have stand (kind : Capability) (e : String × Json) (he : e ∈ request.entries kind) : Stands table kind e := by
    obtain ⟨entries, clause, he⟩ := Request.exists_of_mem_entries he
    exact complaints_eq_nil_iff.mp quiet (kind, entries) (Request.mem_clauses.mpr clause) e he
  refine ⟨fun kind e he named => ?_, fun kind hkind => ?_, covers.text ordered (stand .search)⟩
  · exact ((Clause.stands_named named).mp (stand kind e he)).1
  · rw [covers.fragments_eq kind hkind]
    refine (forall₂_accepted (covers.accepts kind)).imp ?_
    rintro e ⟨column, fragment⟩ accepted
    obtain ⟨-, field, hfield, grants, hcolumn, suits⟩ := Clause.accepted?_eq_some.mp accepted
    exact ⟨field, hfield, grants, hcolumn.symm, suits⟩

/-- No entry of a request is dropped unnoticed. A plan complains under the name of every entry that names no field, or one
that does not grant its kind; it complains under no name but that of an entry which does not stand up to the table; and if
it does not complain at all, every entry has become its fragment. -/
theorem complains_or_lossless (ordered : ∀ kind, (request.entries kind).Ascending) :
    (∀ kind, ∀ e ∈ request.entries kind, isNamed kind e.1 = true →
      (¬∃ field, table.get? e.1 = some field ∧ field.grants kind = true) →
        e.1 ∈ Keyed.keys (ofRequest table request).complaints) ∧
    (∀ name, name ∈ Keyed.keys (ofRequest table request).complaints ↔
      ∃ kind, ∃ e ∈ request.entries kind, e.1 = name ∧ ¬Stands table kind e) ∧
    ((ofRequest table request).complaints = [] → Lossless table request (ofRequest table request).criteria) := by
  have complained (name : String) : name ∈ Keyed.keys (ofRequest table request).complaints ↔
      ∃ kind, ∃ e ∈ request.entries kind, e.1 = name ∧ ¬Stands table kind e :=
    mem_keys_complaints.trans (Request.exists_mem_clauses_iff (p := fun kind e => e.1 = name ∧ ¬Stands table kind e))
  refine ⟨fun kind e he named ungranted => ?_, complained, lossless_of_complaints_eq_nil (ordered .search)⟩
  refine (complained e.1).mpr ⟨kind, e, he, rfl, fun stands => ungranted ?_⟩
  exact ((Clause.stands_named named).mp stands).1

end

namespace People

/-- People, who can be searched and sorted by name and filtered by age. -/
def table : FieldTable :=
  ⟨[("age", {
    name := "age"
    column := "years"
    displayName := "age"
    shown := true
    searchable := false
    filterable := true
    rangeable := false
    sortable := false
    join := none }), ("name", {
    name := "name"
    column := "name"
    displayName := "name"
    shown := true
    searchable := true
    filterable := false
    rangeable := false
    sortable := true
    join := none })]⟩

/-- A request for people by a name and a free text, with some filters. -/
def request (filters : Row) : Request :=
  { Request.empty with
    search := some [("name", .str "An"), (Request.freeTextKey, .str " Oslo ")]
    filter := some filters }

theorem ordered {filters : Row} (h : filters.Ascending) (kind : Capability) :
    ((request filters).entries kind).Ascending := by
  cases kind with
  | search => exact (by decide : Keyed.Ascending [("name", Json.str "An"), (Request.freeTextKey, .str " Oslo ")])
  | filter => exact h
  | _ => exact Keyed.ascending_nil

/-- People in a register, who can also be looked for by a range of ages. -/
def register : FieldTable :=
  ⟨[("age", {
    name := "age"
    column := "years"
    displayName := "age"
    shown := true
    searchable := false
    filterable := true
    rangeable := true
    sortable := false
    join := none }), ("name", {
    name := "name"
    column := "person.name"
    displayName := "name"
    shown := true
    searchable := true
    filterable := false
    rangeable := false
    sortable := true
    join := none })]⟩

/-- A request with some filters that has entries in all other clauses too. -/
def wide (filters : Row) : Request :=
  { request filters with
    range := some [("age", .obj [("max", .ofNat 9), ("min", .ofNat 3)])]
    sort := some [("name", .str "descending")] }

theorem ordered_wide {filters : Row} (h : filters.Ascending) (kind : Capability) :
    ((wide filters).entries kind).Ascending := by
  cases kind with
  | search => exact ordered h .search
  | filter => exact h
  | display => exact Keyed.ascending_nil
  | _ => exact List.pairwise_singleton _ _

/-- The criteria of the request for people of one of two ages. -/
def sevenOrEight : Criteria where
  search := [("person.name", .str "An")]
  freeText := true
  query := [("person.name", "Oslo")]
  queryKeys := []
  filters := [("years", [.ofNat 7, .ofNat 8])]
  range := [("years", ⟨.ofNat 3, .ofNat 9⟩)]
  sort := [("person.name", .descending)]

end People

/-- Where ages are filtered by, every entry becomes its fragment and the free text a place. Filters by a name, which does
not grant it, and by a place, which is no field, are complained of. -/
theorem complains_or_lossless_people :
    (∀ kind, ((People.wide [("age", .arr [.ofNat 7, .ofNat 8])]).entries kind).Ascending) ∧
      (ofRequest People.register (People.wide [("age", .arr [.ofNat 7, .ofNat 8])])).complaints = [] ∧
      (ofRequest People.register (People.wide [("age", .arr [.ofNat 7, .ofNat 8])])).criteria = People.sevenOrEight ∧
      Lossless People.register (People.wide [("age", .arr [.ofNat 7, .ofNat 8])]) People.sevenOrEight ∧
      (∀ kind, ((People.wide [("name", .str "Ann"), ("place", .str "Oslo")]).entries kind).Ascending) ∧
      (ofRequest People.register (People.wide [("name", .str "Ann"), ("place", .str "Oslo")])).complaints =
        [("name", [.notAllowed .filter]), ("place", [.unknownField])] ∧
      ∀ name ∈ ["name", "place"], name ∈ Keyed.keys
        (ofRequest People.register (People.wide [("name", .str "Ann"), ("place", .str "Oslo")])).complaints := by
  have byAge := @People.ordered_wide [("age", .arr [.ofNat 7, .ofNat 8])] (by decide)
  have byName := @People.ordered_wide [("name", .str "Ann"), ("place", .str "Oslo")] (by decide)
  have quiet : (ofRequest People.register (People.wide [("age", .arr [.ofNat 7, .ofNat 8])])).complaints = [] := by
    decide +kernel
  have criteria : (ofRequest People.register (People.wide [("age", .arr [.ofNat 7, .ofNat 8])])).criteria =
      People.sevenOrEight := by
    decide +kernel
  obtain ⟨-, -, lossless⟩ := @complains_or_lossless People.register _ byAge
  obtain ⟨complains, -, -⟩ := @complains_or_lossless People.register _ byName
  refine ⟨byAge, quiet, criteria, criteria ▸ lossless quiet, byName, by decide +kernel, ?_⟩
  have ungranted (e : String × Json) (he : e ∈ [("name", Json.str "Ann"), ("place", .str "Oslo")])
      (none : ¬∃ field, People.register.get? e.1 = some field ∧ field.grants .filter = true) :=
    complains .filter e he rfl none
  refine List.forall_mem_cons.mpr ⟨ungranted ("name", .str "Ann") (by simp) ?_,
    List.forall_mem_singleton.mpr (ungranted ("place", .str "Oslo") (by simp) ?_)⟩
  · rintro ⟨field, found, grants⟩
    obtain rfl := Option.some.inj found
    cases grants
  · rintro ⟨field, found, -⟩
    cases found

end QueryPlan

end DataGrid
