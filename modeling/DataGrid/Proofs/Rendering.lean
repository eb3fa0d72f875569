-- SUMMARY: The bodies that a remote is sent hold its entries, all of them and nothing else.
import DataGrid.Proofs.FieldTable
import DataGrid.Proofs.QueryPlan

/-!
# Rendering

When a remote has nothing to complain about, the clauses of its exact body hold one
member for every named entry that it answers for, under its own name. Its columns
being distinct, no member is written over another.
-/

namespace DataGrid

theorem Rendered.mem_calls {r : Rendered} {shape : CallShape} {body : Request} :
    (shape, body) ∈ r.calls ↔ (shape = .exact ∧ r.exact = some body) ∨ (shape = .freeText ∧ r.freeText = some body) := by
  obtain ⟨exact, freeText, complaints⟩ := r
  cases exact <;> cases freeText <;> cases shape <;> simp [calls, eq_comm]

theorem Rendered.mem_calls_exact {r : Rendered} {body : Request} : (.exact, body) ∈ r.calls ↔ r.exact = some body := by
  simp [mem_calls]

theorem Rendered.mem_calls_freeText {r : Rendered} {body : Request} :
    (.freeText, body) ∈ r.calls ↔ r.freeText = some body := by
  simp [mem_calls]

namespace Rendering

/-- The members that the entries of a clause become in the body that a remote is sent. -/
def share (table : FieldTable) (kind : Capability) (entries : Row) : List (String × Json) :=
  ((owned table kind entries).filterMap (Clause.accepted? table kind)).map fun f => (f.1, f.2.toJson)

/-- The usable free texts among the entries that a remote answers for. -/
def ownedTexts (table : FieldTable) (entries : Row) : List String :=
  Clause.freeTexts (owned table .search entries)

theorem mem_owned {table : FieldTable} {kind : Capability} {entries : Row} {e : String × Json} :
    e ∈ owned table kind entries ↔ e ∈ entries ∧ owns table kind e.1 = true := by
  simp [owned, List.mem_filter]

/-- A remote answers for a named entry exactly when it has a field of that name. -/
theorem owns_named {table : FieldTable} {kind : Capability} {name : String} (h : Clause.isNamed kind name = true) :
    owns table kind name = table.contains name := by
  have other := Clause.isNamed_iff.mp h
  simp only [owns, Bool.or_eq_left_iff_imp, Bool.and_eq_true, decide_eq_true_eq]
  exact fun both => absurd both.1 other

/-- An accepted entry names a field, so a remote answers for it. -/
theorem owns_of_accepted {table : FieldTable} {kind : Capability} {e : String × Json} {f : String × Fragment}
    (h : Clause.accepted? table kind e = some f) : owns table kind e.1 = true := by
  obtain ⟨hnamed, field, hfield, -⟩ := Clause.accepted?_eq_some.mp h
  rw [owns_named hnamed, FieldTable.contains, Keyed.contains]
  exact Option.isSome_iff_exists.mpr ⟨field, hfield⟩

theorem mem_share {table : FieldTable} {kind : Capability} {entries : Row} {column : String} {json : Json} :
    (column, json) ∈ share table kind entries ↔
      ∃ e ∈ entries, ∃ fragment, Clause.accepted? table kind e = some (column, fragment) ∧ fragment.toJson = json := by
  simp only [share, List.mem_map, List.mem_filterMap, mem_owned]
  constructor
  · rintro ⟨⟨_, fragment⟩, ⟨e, ⟨he, -⟩, accepted⟩, heq⟩
    obtain ⟨rfl, rfl⟩ := Prod.mk.inj heq
    exact ⟨e, he, fragment, accepted, rfl⟩
  · rintro ⟨e, he, fragment, accepted, rfl⟩
    exact ⟨(column, fragment), ⟨e, ⟨he, owns_of_accepted accepted⟩, accepted⟩, rfl⟩

/-- The members of a share have distinct names, because the columns of a remote are distinct. -/
theorem nodup_share {remote : RemoteDefinition} {table : FieldTable} (htable : remote.table = .ok table)
    {entries : Row} (hentries : (Keyed.keys entries).Nodup) (kind : Capability) :
    (Keyed.keys (share table kind entries)).Nodup := by
  have names : (owned table kind entries).Pairwise fun a b => a.1 ≠ b.1 :=
    (List.pairwise_map.mp hentries).filter _
  unfold Keyed.keys share
  rw [List.map_map, List.Nodup, List.pairwise_map]
  refine names.filterMap _ fun a a' differ f hf f' hf' same => ?_
  obtain ⟨-, field, hfield, -, hcolumn, -⟩ := Clause.accepted?_eq_some.mp hf
  obtain ⟨-, field', hfield', -, hcolumn', -⟩ := Clause.accepted?_eq_some.mp hf'
  have columns : field.column = field'.column := hcolumn.trans (same.trans hcolumn'.symm)
  have fields := (RemoteDefinition.checked_of_table htable).name_inj (Keyed.mem_of_get?_eq_some hfield)
    (Keyed.mem_of_get?_eq_some hfield') columns
  exact differ (Prod.mk.inj fields).1


/-! ## Drafts -/

namespace Draft

/-- The clause gathered so far for a kind. -/
def clause? (draft : Draft) : Capability → Option Row
  | .search => draft.search
  | .filter => draft.filter
  | .range => draft.range
  | .sort | .display => none

@[simp] theorem clause?_empty (kind : Capability) : empty.clause? kind = none := by
  cases kind <;> rfl

theorem write_write (clause : Option Row) (first second : List (String × Json)) :
    write (write clause first) second = write clause (first ++ second) := by
  cases first with
  | nil => simp [write]
  | cons a first => cases second <;> simp [write]

@[simp] theorem write_nil (clause : Option Row) : write clause [] = clause := rfl

/-- The members written into an absent clause are those that stand in it, if no two have one name. -/
theorem mem_write {members : List (String × Json)} (h : (Keyed.keys members).Nodup) {e : String × Json} :
    (∃ row, write none members = some row ∧ e ∈ row) ↔ e ∈ members := by
  have written : e ∈ Keyed.ofList members ↔ e ∈ members := by
    rw [← Keyed.get?_eq_some_iff (Keyed.ascending_ofList members).nodup_keys, Keyed.ofList, Keyed.get?_foldl_insert h]
    simp [Keyed.get?_eq_some_iff h]
  cases members with
  | nil => simp
  | cons first rest =>
    rw [← written]
    constructor
    · rintro ⟨row, hrow, he⟩
      obtain rfl := Option.some.inj hrow
      exact he
    · exact fun he => ⟨_, rfl, he⟩

/-- One clause of a request: a remote that answers for none of its entries leaves it alone, one that is asked to sort
complains, and otherwise the entries are checked and taken into the bodies, or their complaints are kept. -/
inductive Takes (draft : Draft) (table : FieldTable) (text : Option Json) (kind : Capability) (entries : Row) :
    Draft → Prop
  | unowned (none : owned table kind entries = []) : Takes draft table text kind entries draft
  | sorted (sort : kind = .sort) (some : owned table kind entries ≠ []) :
    Takes draft table text kind entries
      { draft with
        complaints := (owned table kind entries).foldl (fun all (name, _) => all.add name .remoteSort) draft.complaints }
  | checked {clause} (unsorted : kind ≠ .sort) (ok : Clause.check table kind (owned table kind entries) = .ok clause) :
    Takes draft table text kind entries (draft.absorb text clause)
  | refused {complaints} (unsorted : kind ≠ .sort)
    (error : Clause.check table kind (owned table kind entries) = .error complaints) :
    Takes draft table text kind entries { draft with complaints := draft.complaints.merge complaints }

theorem takes_takeClause (draft : Draft) (table : FieldTable) (text : Option Json) (kind : Capability) (entries : Row) :
    draft.Takes table text kind entries (draft.takeClause table text kind entries) := by
  unfold takeClause
  split
  · next none => exact .unowned none
  · next some =>
    split
    · next sort => exact .sorted sort some
    · next unsorted =>
      split
      · next clause ok => exact .checked unsorted ok
      · next complaints error => exact .refused unsorted error

/-- How taking in some clauses of a request without a complaint changes a draft. -/
structure Taken (table : FieldTable) (text : Option Json) (draft : Draft) (clauses : List (Capability × Row))
    (next : Draft) : Prop where
  quiet : draft.complaints = []
  accepts : ∀ c ∈ clauses, ∀ e ∈ owned table c.1 c.2, Clause.isNamed c.1 e.1 = true →
    (Clause.accepted? table c.1 e).isSome = true
  unsorted : ∀ c ∈ clauses, c.1 = .sort → owned table .sort c.2 = []
  clause_eq : ∀ kind, kind ≠ .sort → kind ≠ .display →
    next.clause? kind = write (draft.clause? kind) (clauses.flatMap fun c => if c.1 = kind then share table kind c.2 else [])
  freeText_eq : next.freeText =
    if (clauses.flatMap fun c => if c.1 = .search then ownedTexts table c.2 else []).isEmpty then draft.freeText else text

theorem clause?_absorb (draft : Draft) (text : Option Json) (clause : Clause) {kind : Capability} (hsort : kind ≠ .sort) :
    (draft.absorb text clause).clause? kind = write (draft.clause? kind)
      (if clause.kind = kind then clause.named.map fun f => (f.1, f.2.toJson) else []) := by
  cases clause <;> cases kind <;>
    simp [absorb, boundsJson, clause?, Clause.kind, Clause.named, Fragment.toJson, Function.comp_def] at hsort ⊢

@[simp] theorem complaints_absorb (draft : Draft) (text : Option Json) (clause : Clause) :
    (draft.absorb text clause).complaints = draft.complaints := by
  cases clause <;> rfl

theorem freeText_absorb_of_ne {clause : Clause} (h : clause.kind ≠ .search) (draft : Draft) (text : Option Json) :
    (draft.absorb text clause).freeText = draft.freeText := by
  cases clause with
  | search => exact absurd rfl h
  | _ => rfl

/-- A clause of which a remote answers for nothing leaves a draft as it is. -/
theorem taken_of_owned_eq_nil {table : FieldTable} {draft : Draft} {kind : Capability} {entries : Row}
    (none : owned table kind entries = []) (quiet : draft.complaints = []) (text : Option Json) :
    Taken table text draft [(kind, entries)] draft where
  quiet := quiet
  accepts := by simp [none]
  unsorted := by
    simp only [List.mem_singleton, forall_eq]
    rintro rfl
    exact none
  clause_eq k _ _ := by
    by_cases same : kind = k
    · subst same
      simp [share, none]
    · simp [same]
  freeText_eq := by
    by_cases search : kind = .search
    · subst search
      simp [ownedTexts, none, Clause.freeTexts]
    · simp [search]

/-- A clause that is checked without a complaint adds its share of the entries, and the free text if it has one. -/
theorem taken_absorb {table : FieldTable} {draft : Draft} {kind : Capability} {entries : Row} {clause : Clause}
    (checked : Clause.check table kind (owned table kind entries) = .ok clause) (unsorted : kind ≠ .sort)
    (quiet : draft.complaints = []) (text : Option Json) :
    Taken table text draft [(kind, entries)] (draft.absorb text clause) := by
  obtain ⟨hkind, named, accepts, texts⟩ := Clause.covers_of_check checked
  refine ⟨quiet, by simpa using accepts, by simp [unsorted], fun k hsort _ => ?_, ?_⟩
  · rw [clause?_absorb _ _ _ hsort, hkind, named]
    by_cases same : kind = k
    · subst same
      simp [share]
    · simp [same]
  · by_cases search : kind = .search
    · subst search
      obtain ⟨terms, rfl⟩ := texts rfl
      simp [absorb, ownedTexts]
    · rw [freeText_absorb_of_ne (hkind.trans_ne search)]
      simp [search]

/-- A clause that is taken in without a complaint adds its share of the entries, and the free text if it has one. -/
theorem Takes.taken {table : FieldTable} {text : Option Json} {draft next : Draft} {kind : Capability} {entries : Row}
    (h : draft.Takes table text kind entries next) (quiet : next.complaints = []) :
    Taken table text draft [(kind, entries)] next := by
  cases h with
  | unowned none => exact taken_of_owned_eq_nil none quiet text
  | sorted sort some =>
    have none := (Complaints.foldl_eq_nil (fun _ => False) (fun all b => by simp [Complaints.add_ne_nil]) _ _).mp quiet
    obtain ⟨e, he⟩ := List.exists_mem_of_ne_nil _ some
    exact (none.2 e he).elim
  | checked unsorted ok => exact taken_absorb ok unsorted (by simpa using quiet) text
  | refused unsorted error =>
    exact absurd (Complaints.merge_eq_nil.mp quiet).2 (Clause.complaints_ne_nil_of_check error)

/-- Take in some clauses one after the other. -/
def takeAll (draft : Draft) (table : FieldTable) (text : Option Json) (clauses : List (Capability × Row)) : Draft :=
  clauses.foldl (fun draft c => draft.takeClause table text c.1 c.2) draft

theorem taken_takeAll {table : FieldTable} {text : Option Json} {clauses : List (Capability × Row)} {draft : Draft}
    (h : (draft.takeAll table text clauses).complaints = []) :
    Taken table text draft clauses (draft.takeAll table text clauses) := by
  induction clauses generalizing draft with
  | nil => exact ⟨h, by simp, by simp, by simp [takeAll], by simp [takeAll]⟩
  | cons c rest ih =>
    have later : Taken table text (draft.takeClause table text c.1 c.2) rest (draft.takeAll table text (c :: rest)) := ih h
    have first := (draft.takes_takeClause table text c.1 c.2).taken later.quiet
    refine ⟨first.quiet, fun d hd => ?_, fun d hd => ?_, fun k hsort hdisplay => ?_, ?_⟩
    · rcases List.mem_cons.mp hd with rfl | hd
      · exact first.accepts d List.mem_cons_self
      · exact later.accepts d hd
    · rcases List.mem_cons.mp hd with rfl | hd
      · exact first.unsorted d List.mem_cons_self
      · exact later.unsorted d hd
    · rw [later.clause_eq k hsort hdisplay, first.clause_eq k hsort hdisplay, write_write]
      simp
    · rw [later.freeText_eq, first.freeText_eq]
      simp only [List.flatMap_cons, List.flatMap_nil, List.append_nil]
      generalize (if c.1 = Capability.search then ownedTexts table c.2 else []) = here
      cases here with
      | nil => rfl
      | cons => simp

end Draft


/-! ## Bodies -/

/-- What rendering without a complaint has made of a request. -/
structure Covers (table : FieldTable) (maxKeys : Nat) (request : Request) (rendered : Rendered) : Prop where
  accepts : ∀ kind, ∀ e ∈ request.entries kind, Clause.isNamed kind e.1 = true → table.contains e.1 = true →
    (Clause.accepted? table kind e).isSome = true
  unsorted : ∀ e ∈ request.entries .sort, table.contains e.1 = false
  clause_eq : ∀ kind, kind ≠ .sort → kind ≠ .display →
    (rendered.exact.bind (·.clause? kind)) = Draft.write none (share table kind (request.entries kind))
  exact_eq : ∀ exact, rendered.exact = some exact →
    exact.sort = none ∧ exact.page = some (.ofNat 1) ∧ exact.limit = some (.ofNat maxKeys)
  freeText_eq : rendered.freeText =
    if (ownedTexts table (request.entries .search)).isEmpty then none
    else request.freeText?.map fun text => paged maxKeys (freeTextRequest text)

/-- The clauses of the exact body are those of the draft. -/
theorem clause?_finish (maxKeys : Nat) (draft : Draft) (kind : Capability) :
    ((finish maxKeys draft).exact.bind (·.clause? kind)) = draft.clause? kind := by
  obtain ⟨search, filter, range, freeText, complaints⟩ := draft
  cases kind <;> cases search <;> cases filter <;> cases range <;> rfl

theorem covers_of_complaints_eq_nil {table : FieldTable} {maxKeys : Nat} {request : Request}
    (h : (render table maxKeys request).complaints = []) :
    Covers table maxKeys request (render table maxKeys request) := by
  have taken := @Draft.taken_takeAll table request.freeText? request.clauses .empty h
  refine ⟨fun kind e he hnamed known => ?_, fun e he => ?_, fun kind hsort hdisplay => ?_, fun exact hexact => ?_, ?_⟩
  · obtain ⟨entries, hclause, he⟩ := Request.exists_of_mem_entries he
    refine taken.accepts (kind, entries) (Request.mem_clauses.mpr hclause) e (mem_owned.mpr ⟨he, ?_⟩) hnamed
    rw [owns_named hnamed]
    exact known
  · obtain ⟨entries, hclause, he⟩ := Request.exists_of_mem_entries he
    have none := taken.unsorted (.sort, entries) (Request.mem_clauses.mpr hclause) rfl
    have hnamed : Clause.isNamed .sort e.1 = true := rfl
    rw [← Bool.not_eq_true, ← owns_named hnamed]
    exact fun owned => by simpa [none] using mem_owned.mpr ⟨he, owned⟩
  · rw [← request.flatMap_clauses hdisplay (share table kind) rfl]
    refine (clause?_finish ..).trans ((taken.clause_eq kind hsort hdisplay).trans ?_)
    rw [Draft.clause?_empty]
  · simp only [render, finish] at hexact
    split at hexact
    · obtain rfl := Option.some.inj hexact
      exact ⟨rfl, rfl, rfl⟩
    · cases hexact
  · rw [← request.flatMap_clauses (by nofun) (ownedTexts table) rfl]
    have text := taken.freeText_eq
    change Option.map _ (Draft.takeAll _ _ _ _).freeText = _
    rw [text]
    split <;> rfl

/-- Every body that a remote is sent asks for the first page with the whole key budget. -/
theorem exists_paged_of_mem_calls {table : FieldTable} {maxKeys : Nat} {request : Request} {shape : CallShape}
    {sent : Request} (h : (shape, sent) ∈ (render table maxKeys request).calls) : ∃ body, sent = paged maxKeys body := by
  rcases Rendered.mem_calls.mp h with ⟨-, exact⟩ | ⟨-, text⟩
  · simp only [render, finish] at exact
    split at exact
    · exact ⟨_, (Option.some.inj exact).symm⟩
    · cases exact
  · obtain ⟨_, -, rfl⟩ := Option.map_eq_some_iff.mp text
    exact ⟨_, rfl⟩

end Rendering

end DataGrid
