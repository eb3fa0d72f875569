-- SUMMARY: A request has the members of the body that it is read from.
import DataGrid.Proofs.Json
import DataGrid.Proofs.Keyed
import DataGrid.Proofs.Outcome
import DataGrid.Request.Basic

/-!
# Reading requests

A request that is read has every member of the body that is not null, and no other; and
so its clauses have the entries of the body. What is gathered from its clauses in the
order of their kinds can be taken kind by kind.
-/

namespace DataGrid.Request

/-! ## Clauses by kind -/

/-- The entries of the clause of a kind; none if the clause is left out. -/
def entries (request : Request) (kind : Capability) : Row :=
  (request.clause? kind).getD []

/-- The free text of a request stands among its search entries. -/
theorem get?_entries_search (request : Request) : Keyed.get? (request.entries .search) freeTextKey = request.freeText? := by
  unfold entries freeText? clause?
  cases request.search <;> rfl

/-- Whatever is gathered clause by clause from one kind comes from the entries of that kind. -/
theorem flatMap_clauses {α : Type} (request : Request) {kind : Capability} (hkind : kind ≠ .display) (f : Row → List α)
    (hf : f [] = []) :
    (request.clauses.flatMap fun c => if c.1 = kind then f c.2 else []) = f (request.entries kind) := by
  obtain ⟨search, filter, range, sort, page, limit⟩ := request
  cases kind with
  | display => exact absurd rfl hkind
  | _ =>
    cases search <;> cases filter <;> cases range <;> cases sort <;>
      simp [clauses, Capability.clauseKinds, clause?, entries, hf]

theorem mem_clauses {request : Request} {kind : Capability} {entries : Row} :
    (kind, entries) ∈ request.clauses ↔ request.clause? kind = some entries := by
  unfold clauses
  rw [List.mem_filterMap]
  constructor
  · rintro ⟨k, -, h⟩
    obtain ⟨row, hrow, heq⟩ := Option.map_eq_some_iff.mp h
    obtain ⟨rfl, rfl⟩ := Prod.mk.inj heq
    exact hrow
  · intro h
    refine ⟨kind, ?_, by rw [h]; rfl⟩
    cases kind with
    | display => cases h
    | _ => decide

/-- Every clause of a request is one of the four kinds. -/
theorem ne_display_of_mem_clauses {request : Request} {c : Capability × Row} (h : c ∈ request.clauses) :
    c.1 ≠ .display := by
  intro display
  have clause := mem_clauses.mp (show (c.1, c.2) ∈ request.clauses from h)
  rw [display] at clause
  cases clause

theorem exists_of_mem_entries {request : Request} {kind : Capability} {e : String × Json}
    (h : e ∈ request.entries kind) : ∃ entries, request.clause? kind = some entries ∧ e ∈ entries := by
  unfold entries at h
  cases hclause : request.clause? kind with
  | none => simp [hclause] at h
  | some entries => exact ⟨entries, rfl, by simpa [hclause] using h⟩

/-- The entries of the clauses, with the kinds of their clauses, are the entries of the kinds. -/
theorem exists_mem_clauses_iff {request : Request} {p : Capability → String × Json → Prop} :
    (∃ c ∈ request.clauses, ∃ e ∈ c.2, p c.1 e) ↔ ∃ kind, ∃ e ∈ request.entries kind, p kind e := by
  constructor
  · rintro ⟨⟨kind, entries⟩, hc, e, he, h⟩
    refine ⟨kind, e, ?_, h⟩
    rw [Request.entries, mem_clauses.mp hc]
    exact he
  · rintro ⟨kind, e, he, h⟩
    obtain ⟨entries, hclause, he⟩ := exists_of_mem_entries he
    exact ⟨(kind, entries), mem_clauses.mpr hclause, e, he, h⟩


/-! ## Bodies -/

/-- The entries of a kind in the body of a request; none if the clause is left out or null. -/
def entriesOf (body : Json) (kind : Capability) : Row :=
  match body.member? kind.key with
  | some (.obj entries) => entries
  | _ => []

/-- The entries of a clause as it stands in a body. -/
def entries? : Json → Option Row
  | .obj entries => some entries
  | _ => none

/-- What a request keeps of a member; null is left out. -/
def present? : Json → Option Json
  | .null => none
  | value => some value

/-- What a request has under a key of a body. -/
def member? (request : Request) : String → Option Json
  | "searchKeyword" => request.search.map .obj
  | "filter" => request.filter.map .obj
  | "range" => request.range.map .obj
  | "sort" => request.sort.map .obj
  | "page" => request.page
  | "limit" => request.limit
  | _ => none

theorem clauseOf_eq_ok {key : String} {value : Json} {clause : Option Row} (h : clauseOf key value = .ok clause) :
    clause.map .obj = present? value := by
  cases value with
  | null => exact Except.ok.inj h ▸ rfl
  | obj entries => exact Except.ok.inj h ▸ rfl
  | _ => cases h

theorem pageValueOf_eq_ok {key : String} {value : Json} {part : Option Json} (h : pageValueOf key value = .ok part) :
    part = present? value := by
  cases value with
  | null => exact (Except.ok.inj h).symm
  | num n => exact (Except.ok.inj h).symm
  | str s => exact (Except.ok.inj h).symm
  | _ => cases h

/-- Reading a member replaces what the request has under its key, and keeps the rest. -/
theorem member?_read {request next : Request} {key : String} {value : Json} (h : read request key value = .ok next)
    (other : String) : next.member? other = if key = other then present? value else request.member? other := by
  unfold read at h
  split at h
  case h_7 => cases h
  all_goals
    obtain ⟨part, hpart, rfl⟩ := Outcome.map_eq_ok.mp h
    split
    · next same =>
      subst same
      first
        | exact clauseOf_eq_ok hpart
        | exact pageValueOf_eq_ok hpart
    · next differ =>
      unfold member?
      split <;> first
        | rfl
        | exact absurd rfl differ

/-- Reading members with distinct keys replaces what the request has under these, and keeps the rest. -/
theorem member?_readAll {members : Row} (distinct : (Keyed.keys members).Nodup) {request next : Request}
    (h : readAll request members = .ok next) (key : String) :
    next.member? key = (Keyed.get? members key).elim (request.member? key) present? := by
  induction members generalizing request with
  | nil =>
    obtain rfl := Except.ok.inj h
    rfl
  | cons m rest ih =>
    obtain ⟨name, value⟩ := m
    obtain ⟨fresh, distinct⟩ := List.nodup_cons.mp distinct
    obtain ⟨middle, hread, h⟩ := Outcome.bind_eq_ok.mp h
    rw [ih distinct h, member?_read hread, Keyed.get?_cons]
    by_cases same : name = key
    · subst same
      have absent : Keyed.get? rest name = none := Keyed.get?_eq_none_iff.mpr fresh
      simp [absent]
    · simp [same]

theorem member?_empty (key : String) : empty.member? key = none := by
  unfold member?
  split <;> rfl

/-- A request that is read has the members of the body that are not null. -/
theorem member?_ofJson {body : Json} (hbody : body.isOrdered = true) {request : Request} (h : ofJson body = .ok request)
    (key : String) : request.member? key = (body.member? key).bind present? := by
  unfold ofJson at h
  split at h
  · obtain rfl := Except.ok.inj h
    exact member?_empty key
  · next members =>
    rw [member?_readAll (Json.ascending_of_isOrdered hbody).nodup_keys h, member?_empty]
    change _ = (Keyed.get? members key).bind present?
    cases Keyed.get? members key <;> rfl
  · cases h

theorem entries_eq {kind : Capability} (hkind : kind ≠ .display) (request : Request) :
    request.entries kind = ((request.member? kind.key).bind entries?).getD [] := by
  obtain ⟨search, filter, range, sort, page, limit⟩ := request
  cases kind with
  | search => cases search <;> rfl
  | filter => cases filter <;> rfl
  | range => cases range <;> rfl
  | sort => cases sort <;> rfl
  | display => exact absurd rfl hkind

/-- The clauses of a request that is read are those of the body. -/
theorem entries_of_ofJson {body : Json} (hbody : body.isOrdered = true) {request : Request}
    (h : ofJson body = .ok request) {kind : Capability} (hkind : kind ≠ .display) :
    request.entries kind = entriesOf body kind := by
  rw [entries_eq hkind, member?_ofJson hbody h, entriesOf]
  cases body.member? kind.key with
  | none => rfl
  | some value => cases value <;> rfl

/-- No name occurs twice among the entries of a clause. -/
theorem ascending_entriesOf {body : Json} (hbody : body.isOrdered = true) (kind : Capability) :
    (entriesOf body kind).Ascending := by
  unfold entriesOf
  split
  · next entries found =>
    cases body with
    | obj members =>
      have inside := Json.isOrdered_of_mem hbody (Keyed.mem_of_get?_eq_some found)
      exact Json.ascending_of_isOrdered inside
    | _ => cases found
  · exact Keyed.ascending_nil

end DataGrid.Request
