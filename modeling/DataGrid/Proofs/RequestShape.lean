-- SUMMARY: Bodies that have the shape of a request, and requests that are read back as they were written.
import DataGrid.Proofs.Rendering

/-!
# The shape of requests

A body is read exactly if it is null or an object of known members, each of its kind or
null. What is written of the request is the body without its null members. The requests
that are read have numbers and texts for page and limit; all such requests are read back
from what is written of them, and the bodies that remotes are sent are among them.
-/

namespace DataGrid

/-! ## Members -/

namespace Keyed

variable {α : Type}

theorem get?_append (first second : Keyed α) (key : String) :
    get? (first ++ second) key = (get? first key).or (get? second key) := by
  induction first with
  | nil => rfl
  | cons e rest ih =>
    obtain ⟨k, v⟩ := e
    rw [List.cons_append, get?_cons, get?_cons, ih]
    split <;> rfl

end Keyed

namespace Json

theorem get?_given (name : String) (value : Option Json) (key : String) :
    Keyed.get? (given name value) key = if name = key then value else none := by
  cases value with
  | none => split <;> rfl
  | some value => rfl

theorem keys_given (name : String) (value : Option Json) : (Keyed.keys (given name value)).Sublist [name] := by
  cases value with
  | none => exact List.nil_sublist _
  | some value => exact List.Sublist.refl _

end Json

namespace Request

/-! ## Shapes -/

/-- The keys of clauses. -/
def clauseKeys : List String := ["searchKeyword", "filter", "range", "sort"]

/-- The keys of the page and the limit. -/
def pageKeys : List String := ["page", "limit"]

/-- A member fits its key: a clause is an object, a page or a limit is a number or a text, and each of them may be null. -/
def Fits (key : String) : Json → Prop
  | .null => key ∈ clauseKeys ∨ key ∈ pageKeys
  | .obj _ => key ∈ clauseKeys
  | .num _ | .str _ => key ∈ pageKeys
  | .bool _ | .arr _ => False

/-- A body has the shape of a request: it is null, or an object whose members fit their keys. -/
def IsShaped : Json → Prop
  | .null => True
  | .obj members => ∀ e ∈ members, Fits e.1 e.2
  | .bool _ | .num _ | .str _ | .arr _ => False

/-- A body without its null members; the empty object for null. -/
def withoutNulls : Json → Json
  | .obj members => .obj (members.filter fun e => e.2 ≠ .null)
  | _ => .obj []

/-- A member is read exactly if it fits its key. -/
theorem exists_read_iff {request : Request} {key : String} {value : Json} :
    (∃ next, read request key value = .ok next) ↔ Fits key value := by
  unfold read
  split
  case h_7 =>
    cases value <;> simp_all [Fits, clauseKeys, pageKeys]
  all_goals
    cases value <;> simp [clauseOf, pageValueOf, Except.map, Fits, clauseKeys, pageKeys]

theorem exists_readAll_iff {request : Request} {members : Row} :
    (∃ next, readAll request members = .ok next) ↔ ∀ e ∈ members, Fits e.1 e.2 := by
  induction members generalizing request with
  | nil => simp [readAll]
  | cons m rest ih =>
    obtain ⟨key, value⟩ := m
    rw [List.forall_mem_cons]
    constructor
    · rintro ⟨next, h⟩
      obtain ⟨middle, hread, h⟩ := Outcome.bind_eq_ok.mp h
      exact ⟨exists_read_iff.mp ⟨middle, hread⟩, ih.mp ⟨next, h⟩⟩
    · rintro ⟨first, others⟩
      obtain ⟨middle, hread⟩ := exists_read_iff.mpr first
      obtain ⟨next, h⟩ : ∃ next, readAll middle rest = .ok next := ih.mpr others
      exact ⟨next, Outcome.bind_eq_ok.mpr ⟨middle, hread, h⟩⟩

/-- A body is read exactly if it has the shape of a request. -/
theorem exists_ofJson_iff {body : Json} : (∃ request, ofJson body = .ok request) ↔ IsShaped body := by
  cases body with
  | null => simp [ofJson, IsShaped]
  | obj members => exact exists_readAll_iff
  | _ => simp [ofJson, IsShaped]


/-! ## Requests that are read -/

/-- The page and the limit of a request, where it has them, are numbers or texts. -/
def IsReadable (request : Request) : Prop :=
  ∀ key ∈ pageKeys, ∀ value, request.member? key = some value → (∃ n, value = .num n) ∨ ∃ s, value = .str s

theorem IsReadable.read {request next : Request} (readable : request.IsReadable) {key : String} {value : Json}
    (h : read request key value = .ok next) : next.IsReadable := by
  intro other page found hfound
  rw [member?_read h] at hfound
  split at hfound
  · next same =>
    subst same
    have fits : Fits key value := exists_read_iff.mp ⟨next, h⟩
    cases value with
    | null => cases hfound
    | num n => exact .inl ⟨n, (Option.some.inj hfound).symm⟩
    | str s => exact .inr ⟨s, (Option.some.inj hfound).symm⟩
    | obj members =>
      have disjoint : ∀ key ∈ pageKeys, key ∉ clauseKeys := by decide
      exact absurd fits (disjoint key page)
    | _ => exact absurd fits id
  · exact readable other page found hfound

theorem IsReadable.readAll {members : Row} {request next : Request} (readable : request.IsReadable)
    (h : readAll request members = .ok next) : next.IsReadable := by
  induction members generalizing request with
  | nil => exact Except.ok.inj h ▸ readable
  | cons m rest ih =>
    obtain ⟨middle, hread, h⟩ := Outcome.bind_eq_ok.mp h
    exact ih (readable.read hread) h

theorem isReadable_of_ofJson {body : Json} {request : Request} (h : ofJson body = .ok request) : request.IsReadable := by
  have start : empty.IsReadable := by
    intro key page value found
    rw [member?_empty] at found
    cases found
  unfold ofJson at h
  split at h
  · exact Except.ok.inj h ▸ start
  · exact start.readAll h
  · cases h

/-- What a readable request has under a key fits the key and is not null. -/
theorem IsReadable.fits {request : Request} (readable : request.IsReadable) {key : String} {value : Json}
    (found : request.member? key = some value) : Fits key value ∧ present? value = some value := by
  have clause {entries : Option Row} (hkey : key ∈ clauseKeys) (found : entries.map Json.obj = some value) :
      Fits key value ∧ present? value = some value := by
    obtain ⟨members, -, rfl⟩ := Option.map_eq_some_iff.mp found
    exact ⟨hkey, rfl⟩
  have page (hkey : key ∈ pageKeys) : Fits key value ∧ present? value = some value := by
    rcases readable key hkey value found with ⟨n, rfl⟩ | ⟨s, rfl⟩ <;> exact ⟨hkey, rfl⟩
  unfold member? at found
  split at found
  case h_7 => cases found
  case h_5 => exact page (by decide)
  case h_6 => exact page (by decide)
  all_goals exact clause (by decide) found


/-! ## Writing -/

/-- The members that are written of a request. -/
def written (request : Request) : Row :=
  Json.given "filter" (request.filter.map .obj)
    ++ Json.given "limit" request.limit
    ++ Json.given "page" request.page
    ++ Json.given "range" (request.range.map .obj)
    ++ Json.given "searchKeyword" (request.search.map .obj)
    ++ Json.given "sort" (request.sort.map .obj)

/-- What is written under a key is what the request has there. -/
theorem get?_written (request : Request) (key : String) : Keyed.get? request.written key = request.member? key := by
  symm
  simp only [written, Keyed.get?_append, Json.get?_given]
  unfold member?
  split <;> simp_all [eq_comm]

theorem ascending_written (request : Request) : request.written.Ascending := by
  have keys : (Keyed.keys request.written).Sublist ["filter", "limit", "page", "range", "searchKeyword", "sort"] := by
    simp only [written, Keyed.keys, List.map_append]
    exact (((((Json.keys_given ..).append (Json.keys_given ..)).append (Json.keys_given ..)).append
      (Json.keys_given ..)).append (Json.keys_given ..)).append (Json.keys_given ..)
  have sorted : ["filter", "limit", "page", "range", "searchKeyword", "sort"].Pairwise (· < ·) := by decide
  exact List.pairwise_map.mp (sorted.sublist keys)

theorem ext_member? {a b : Request} (same : ∀ key, a.member? key = b.member? key) : a = b := by
  have clause {entries entries' : Option Row} (h : entries.map Json.obj = entries'.map Json.obj) : entries = entries' :=
    Option.map_injective (fun _ _ => Json.obj.inj) h
  obtain ⟨search, filter, range, sort, page, limit⟩ := a
  obtain ⟨search', filter', range', sort', page', limit'⟩ := b
  obtain rfl : search = search' := clause (same "searchKeyword")
  obtain rfl : filter = filter' := clause (same "filter")
  obtain rfl : range = range' := clause (same "range")
  obtain rfl : sort = sort' := clause (same "sort")
  obtain rfl : page = page' := same "page"
  obtain rfl : limit = limit' := same "limit"
  rfl

/-- A readable request is read back from what is written of it. -/
theorem IsReadable.ofJson_toJson {request : Request} (readable : request.IsReadable) :
    ofJson request.toJson = .ok request := by
  have distinct := (ascending_written request).nodup_keys
  have shaped : IsShaped request.toJson := by
    intro e he
    have found := (Keyed.get?_eq_some_iff distinct).mpr he
    rw [get?_written] at found
    exact (readable.fits found).1
  obtain ⟨again, read⟩ := exists_ofJson_iff.mpr shaped
  have same : again = request := by
    apply ext_member?
    intro key
    rw [member?_readAll distinct read, get?_written, member?_empty]
    cases found : request.member? key with
    | none => rfl
    | some value => exact (readable.fits found).2
  rwa [same] at read

theorem present?_of_ne_null {value : Json} (h : value ≠ .null) : present? value = some value := by
  cases value with
  | null => exact absurd rfl h
  | _ => rfl

/-- Where no key occurs twice, leaving out null members leaves what is present under each key. -/
theorem get?_filter_ne_null {members : Row} (distinct : (Keyed.keys members).Nodup) (key : String) :
    Keyed.get? (members.filter fun e => e.2 ≠ .null) key = (Keyed.get? members key).bind present? := by
  induction members with
  | nil => rfl
  | cons m rest ih =>
    obtain ⟨name, value⟩ := m
    obtain ⟨fresh, distinct⟩ := List.nodup_cons.mp distinct
    rw [Keyed.get?_cons]
    by_cases null : value = .null
    · rw [List.filter_cons_of_neg (by simp [null]), ih distinct]
      split
      · next same =>
        have absent : Keyed.get? rest key = none := Keyed.get?_eq_none_iff.mpr (same ▸ fresh)
        rw [absent, null]
        rfl
      · rfl
    · rw [List.filter_cons_of_pos (by simp [null]), Keyed.get?_cons, ih distinct]
      split
      · exact (present?_of_ne_null null).symm
      · rfl

/-- What is written of a request that is read is the body without its null members. -/
theorem toJson_of_ofJson {body : Json} (hbody : body.isOrdered = true) {request : Request}
    (h : ofJson body = .ok request) : request.toJson = withoutNulls body := by
  have has := member?_ofJson hbody h
  cases body with
  | null =>
    obtain rfl := Except.ok.inj h
    rfl
  | obj members =>
    have ascending := Json.ascending_of_isOrdered hbody
    refine congrArg Json.obj ((ascending_written request).ext (ascending.sublist List.filter_sublist) fun key => ?_)
    rw [get?_written, has, get?_filter_ne_null ascending.nodup_keys]
    rfl
  | _ => cases h


/-! ## Bodies of calls -/

theorem isReadable_of_numbers {request : Request} {page limit : Number} (hpage : request.page = some (.num page))
    (hlimit : request.limit = some (.num limit)) : request.IsReadable := by
  intro key hkey value found
  simp only [pageKeys, List.mem_cons, List.not_mem_nil, or_false] at hkey
  rcases hkey with rfl | rfl
  · exact .inl ⟨page, Option.some.inj (found.symm.trans hpage)⟩
  · exact .inl ⟨limit, Option.some.inj (found.symm.trans hlimit)⟩

/-- A body is read exactly if it has the shape of a request. What is written of the request is read back as the request, and
is the body without its null members. Every body that a remote is sent is read back as it was made. -/
theorem ofJson_roundTrips :
    (∀ body, (∃ request, ofJson body = .ok request) ↔ IsShaped body) ∧
      (∀ body request, ofJson body = .ok request →
        ofJson request.toJson = .ok request ∧ (body.isOrdered = true → request.toJson = withoutNulls body)) ∧
      ∀ table maxKeys request shape sent, (shape, sent) ∈ (Rendering.render table maxKeys request).calls →
        ofJson sent.toJson = .ok sent := by
  refine ⟨?_, ?_, ?_⟩
  · intro body
    exact exists_ofJson_iff
  · intro body request h
    exact ⟨(isReadable_of_ofJson h).ofJson_toJson, fun hbody => toJson_of_ofJson hbody h⟩
  · intro table maxKeys request shape sent h
    obtain ⟨body, rfl⟩ := Rendering.exists_paged_of_mem_calls h
    exact (isReadable_of_numbers rfl rfl).ofJson_toJson

/-- A body with two null members, and a null inside a clause. -/
def visit : Json :=
  .obj [
    ("filter", .obj [("note", .null), ("town", .arr [.str "Oslo"])]),
    ("limit", .str "20"),
    ("page", .null),
    ("searchKeyword", .obj [("query", .str "an")]),
    ("sort", .null)]

def visitRequest : Request :=
  { empty with
    search := some [("query", .str "an")]
    filter := some [("note", .null), ("town", .arr [.str "Oslo"])]
    limit := some (.str "20") }

/-- A remote that knows the town as an area, and can search and filter it. -/
def areas : FieldTable :=
  ⟨[("town", {
    name := "town"
    column := "area"
    displayName := "town"
    shown := true
    searchable := true
    filterable := true
    rangeable := false
    sortable := false
    join := none })]⟩

/-- What the remote is sent for the filter. -/
def areasRequest : Request :=
  Rendering.paged 25 { empty with filter := some [("area", .arr [.str "Oslo"])] }

theorem ofJson_roundTrips_visit :
    ofJson visit = .ok visitRequest ∧ visit.isOrdered = true ∧ IsShaped visit ∧
      ofJson visitRequest.toJson = .ok visitRequest ∧ visitRequest.toJson = withoutNulls visit ∧
      withoutNulls visit =
        .obj [
          ("filter", .obj [("note", .null), ("town", .arr [.str "Oslo"])]),
          ("limit", .str "20"),
          ("searchKeyword", .obj [("query", .str "an")])] ∧
      (.exact, areasRequest) ∈ (Rendering.render areas 25 visitRequest).calls ∧
      ofJson areasRequest.toJson = .ok areasRequest := by
  obtain ⟨shaped, back, sent⟩ := ofJson_roundTrips
  have read : ofJson visit = .ok visitRequest := rfl
  have ordered : visit.isOrdered = true := by decide +kernel
  have asked : (.exact, areasRequest) ∈ (Rendering.render areas 25 visitRequest).calls := by decide +kernel
  obtain ⟨again, nulls⟩ := back visit visitRequest read
  exact ⟨read, ordered, (shaped visit).mp ⟨_, read⟩, again, nulls ordered, by decide +kernel, asked,
    sent _ _ _ _ _ asked⟩

end Request

end DataGrid
