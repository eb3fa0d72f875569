-- SUMMARY: When the bodies that a remote is sent mix free text with named entries, and when they are there at all.
import DataGrid.Proofs.Configuration

/-!
# Bodies of calls

A remote is sent its named entries in one body and the free text in another one. The
members of the exact body have the names under which the remote knows the fields, and
one of these may be the key of free text. Whoever receives such a body takes a named
entry for free text. The free text is sent to every remote that answers for its key,
which those do that can search, and those that have a parameter of this name.
-/

namespace DataGrid

open Request (freeTextKey)

/-! ## Free text in plans -/

namespace QueryPlan

/-- A plan has a free text only from a search clause that has its key. -/
theorem Takes.freeText {plan next : QueryPlan} {kind : Capability} {entries : Row} (step : plan.Takes kind entries next)
    (h : next.criteria.freeText = true) :
    plan.criteria.freeText = true ∨ kind = .search ∧ freeTextKey ∈ Keyed.keys entries := by
  cases step with
  | refused => exact .inl h
  | @checked clause ok =>
    obtain ⟨hkind, -, -, texts⟩ := Clause.covers_of_check ok
    cases clause with
    | search terms query freeText =>
      obtain rfl : Capability.search = kind := hkind
      obtain ⟨_, same⟩ := texts rfl
      injection same with _ _ flag
      rcases Bool.or_eq_true_iff.mp h with before | here
      · exact .inl before
      · obtain ⟨text, htext⟩ : ∃ text, text ∈ Clause.freeTexts entries :=
          List.exists_mem_of_ne_nil _ (by simpa [here] using flag)
        obtain ⟨s, hs, -, -⟩ := Clause.mem_freeTexts.mp htext
        exact .inr ⟨rfl, Keyed.mem_keys_of_mem hs⟩
    | _ => exact .inl h

theorem freeText_takeAll {clauses : List (Capability × Row)} {plan : QueryPlan}
    (h : (plan.takeAll clauses).criteria.freeText = true) :
    plan.criteria.freeText = true ∨ ∃ entries, (.search, entries) ∈ clauses ∧ freeTextKey ∈ Keyed.keys entries := by
  induction clauses generalizing plan with
  | nil => exact .inl h
  | cons c rest ih =>
    rcases ih h with before | ⟨entries, hentries, key⟩
    · rcases (plan.takes_takeClause c.1 c.2).freeText before with before | ⟨search, key⟩
      · exact .inl before
      · exact .inr ⟨c.2, search ▸ List.mem_cons_self, key⟩
    · exact .inr ⟨entries, List.mem_cons_of_mem _ hentries, key⟩

theorem freeText_ofRequest {table : FieldTable} {request : Request}
    (h : (ofRequest table request).criteria.freeText = true) :
    ∃ entries, request.search = some entries ∧ freeTextKey ∈ Keyed.keys entries := by
  rcases freeText_takeAll h with before | ⟨entries, hentries, key⟩
  · cases before
  · exact ⟨entries, Request.mem_clauses.mp hentries, key⟩

end QueryPlan

namespace Rendering

/-! ## Names in bodies -/

/-- A remote may be sent a named search entry under a name of its own. -/
def SearchesUnder (table : FieldTable) (column : String) : Prop :=
  ∃ name field, name ≠ freeTextKey ∧ table.get? name = some field ∧ field.searchable = true ∧ field.column = column

namespace Draft

theorem mem_of_write {clause : Option Row} {members : List (String × Json)} {row : Row}
    (h : write clause members = some row) {e : String × Json} (he : e ∈ row) :
    e ∈ members ∨ ∃ before, clause = some before ∧ e ∈ before := by
  unfold write at h
  split at h
  · exact .inr ⟨row, h, he⟩
  · obtain rfl := Option.some.inj h
    refine List.foldlRecOn
      (motive := fun written : Row => e ∈ written → e ∈ members ∨ ∃ before, clause = some before ∧ e ∈ before) members _
      (fun held => ?_) (fun written kept member hmember held => ?_) he
    · cases clause with
      | none => cases held
      | some before => exact .inr ⟨before, rfl, held⟩
    · rcases Keyed.eq_or_mem_of_mem_insert held with rfl | held
      · exact .inl hmember
      · exact kept held

/-- Of a request a draft has named search entries under names of the remote, and no other free text. -/
structure Keeps (table : FieldTable) (text : Option Json) (draft : Draft) : Prop where
  search : ∀ row, draft.search = some row → ∀ e ∈ row, SearchesUnder table e.1
  freeText : ∀ given, draft.freeText = some given → text = some given

theorem keeps_empty (table : FieldTable) (text : Option Json) : Keeps table text empty :=
  ⟨nofun, nofun⟩

/-- A checked clause has named search entries under names of the remote. -/
theorem Keeps.absorb {table : FieldTable} {text : Option Json} {draft : Draft} (keeps : Keeps table text draft)
    {kind : Capability} {entries : Row} {clause : Clause} (ok : Clause.check table kind entries = .ok clause) :
    Keeps table text (draft.absorb text clause) := by
  obtain ⟨hkind, named, -, -⟩ := Clause.covers_of_check ok
  cases clause with
  | search terms query freeText =>
    obtain rfl : Capability.search = kind := hkind
    refine ⟨fun row hrow e he => ?_, fun given hgiven => ?_⟩
    · rcases mem_of_write hrow he with here | ⟨before, hbefore, he⟩
      · have term : (e.1, Fragment.term e.2) ∈ Clause.named (.search terms query freeText) :=
          List.mem_map.mpr ⟨e, here, rfl⟩
        rw [named] at term
        obtain ⟨entry, -, accepted⟩ := List.mem_filterMap.mp term
        obtain ⟨hnamed, field, hfield, grants, column, -⟩ := Clause.accepted?_eq_some.mp accepted
        exact ⟨entry.1, field, fun same => Clause.isNamed_iff.mp hnamed ⟨rfl, same⟩, hfield, grants, column⟩
      · exact keeps.search before hbefore e he
    · dsimp only [Draft.absorb] at hgiven
      split at hgiven
      · exact hgiven
      · exact keeps.freeText given hgiven
  | _ => exact ⟨keeps.search, keeps.freeText⟩

theorem Takes.keeps {table : FieldTable} {text : Option Json} {draft next : Draft} {kind : Capability} {entries : Row}
    (step : draft.Takes table text kind entries next) (keeps : Keeps table text draft) : Keeps table text next := by
  cases step with
  | unowned => exact keeps
  | sorted => exact ⟨keeps.search, keeps.freeText⟩
  | checked _ ok => exact keeps.absorb ok
  | refused => exact ⟨keeps.search, keeps.freeText⟩

theorem Keeps.takeAll {table : FieldTable} {text : Option Json} {draft : Draft} (keeps : Keeps table text draft)
    (clauses : List (Capability × Row)) : Keeps table text (draft.takeAll table text clauses) :=
  List.foldlRecOn clauses _ keeps fun draft keeps c _ => (draft.takes_takeClause table text c.1 c.2).keeps keeps

end Draft

variable {table : FieldTable} {maxKeys : Nat} {request : Request}

/-- What is rendered is made of a draft that keeps to the request. -/
theorem exists_draft (table : FieldTable) (maxKeys : Nat) (request : Request) :
    ∃ draft : Draft, draft.Keeps table request.freeText? ∧ render table maxKeys request = finish maxKeys draft :=
  ⟨_, (Draft.keeps_empty table _).takeAll request.clauses, rfl⟩

/-- The named search entries of the exact body stand under names of the remote. -/
theorem searchesUnder_of_mem {exact : Request} (h : (render table maxKeys request).exact = some exact) {row : Row}
    (hrow : exact.search = some row) {e : String × Json} (he : e ∈ row) : SearchesUnder table e.1 := by
  obtain ⟨draft, keeps, rendered⟩ := exists_draft table maxKeys request
  rw [rendered] at h
  unfold finish at h
  dsimp only at h
  split at h
  · obtain rfl := Option.some.inj h
    exact keeps.search row hrow e he
  · cases h

/-- The free-text body holds the free text of the request and nothing else. -/
theorem freeText_eq_some {body : Request} (h : (render table maxKeys request).freeText = some body) :
    ∃ text, request.freeText? = some text ∧ body = paged maxKeys (freeTextRequest text) := by
  obtain ⟨draft, keeps, rendered⟩ := exists_draft table maxKeys request
  rw [rendered] at h
  obtain ⟨text, given, rfl⟩ := Option.map_eq_some_iff.mp h
  exact ⟨text, keeps.freeText text given, rfl⟩

/-- A request with one search entry. -/
def searching (name : String) (value : Json) : Request :=
  { Request.empty with search := some [(name, value)] }

/-- A named search entry is sent under the remote's name. -/
theorem exact_searching {name : String} (hname : name ≠ freeTextKey) {field : Field} (hfield : table.get? name = some field)
    (searchable : field.searchable = true) :
    (render table maxKeys (searching name (.str "x"))).exact =
      some (paged maxKeys (searching field.column (.str "x"))) := by
  have known : table.contains name = true := Option.isSome_iff_exists.mpr ⟨field, hfield⟩
  have owned_eq : owned table .search [(name, .str "x")] = [(name, .str "x")] := by
    simp [owned, owns, known]
  have visible : Text.isBlank "x" = false := by decide +kernel
  have suits : Fragment.ofValue? .search (.str "x") = some (.term (.str "x")) := by
    simp [Fragment.ofValue?, visible]
  have passes : Clause.checkSearch table name (.str "x") = .ok (.term field.column (.str "x")) := by
    refine Clause.checkSearch_eq_term.mpr (Clause.accepted?_eq_some.mpr ?_)
    exact ⟨Clause.isNamed_iff.mpr fun h => hname h.2, field, hfield, searchable, rfl, suits⟩
  have checked : Clause.check table .search [(name, .str "x")] = .ok (.search [(field.column, .str "x")] [] false) := by
    simp [Clause.check, Clause.gather, Clause.complaints, Clause.fragments, passes, Except.toOption, Except.map,
      Clause.ofSearchEntries]
  have taken : Draft.empty.takeClause table (searching name (.str "x")).freeText? .search [(name, .str "x")] =
      { Draft.empty with search := some [(field.column, .str "x")] } := by
    rw [Draft.takeClause, owned_eq]
    dsimp only
    rw [if_neg (by decide), checked]
    rfl
  change (finish maxKeys (Draft.empty.takeClause table _ .search [(name, .str "x")])).exact = _
  rw [taken]
  rfl

theorem stands_freeText (table : FieldTable) : Clause.Stands table .search (freeTextKey, .str "x") :=
  Clause.stands_freeText_iff.mpr ⟨"x", rfl, by decide +kernel⟩

/-- A text under the key of free text is taken for free text. -/
theorem freeText_searching (other : FieldTable) (maxKeys : Nat) :
    (QueryPlan.ofRequest other (paged maxKeys (searching freeTextKey (.str "x")))).criteria.freeText = true := by
  have quiet : (QueryPlan.ofRequest other (paged maxKeys (searching freeTextKey (.str "x")))).complaints = [] := by
    rw [QueryPlan.complaints_eq_nil_iff]
    change ∀ c ∈ [(Capability.search, [(freeTextKey, Json.str "x")])], _
    simp only [List.mem_singleton, forall_eq]
    exact stands_freeText other
  rw [(QueryPlan.covers_of_complaints_eq_nil quiet).freeText_eq]
  change (!(Clause.freeTexts [(freeTextKey, .str "x")]).isEmpty) = true
  decide +kernel


/-! ## Bodies that are there -/

theorem exact_finish_isSome_iff {draft : Draft} :
    (finish maxKeys draft).exact.isSome = true ↔
      ∃ kind ∈ [Capability.search, .filter, .range], (draft.clause? kind).isSome = true := by
  obtain ⟨search, filter, range, freeText, complaints⟩ := draft
  cases search <;> cases filter <;> cases range <;> simp [finish, Draft.isNamed, Draft.clause?]

theorem isSome_write_none {members : List (String × Json)} : (Draft.write none members).isSome = true ↔ members ≠ [] := by
  cases members <;> simp [Draft.write]

/-- Without complaints there is an exact body where the remote answers for a named entry. -/
theorem exact_isSome_iff (quiet : (render table maxKeys request).complaints = []) :
    (render table maxKeys request).exact.isSome = true ↔
      ∃ kind ∈ [Capability.search, .filter, .range], ∃ e ∈ request.entries kind,
        Clause.isNamed kind e.1 = true ∧ table.contains e.1 = true := by
  have covers := covers_of_complaints_eq_nil quiet
  obtain ⟨draft, -, rendered⟩ := exists_draft table maxKeys request
  have clause_eq {kind : Capability} (hkind : kind ∈ [Capability.search, .filter, .range]) :
      draft.clause? kind = Draft.write none (share table kind (request.entries kind)) := by
    rw [← clause?_finish maxKeys, ← rendered]
    exact covers.clause_eq kind (by rintro rfl; simp at hkind) (by rintro rfl; simp at hkind)
  rw [rendered, exact_finish_isSome_iff]
  refine exists_congr fun kind => and_congr_right fun hkind => ?_
  rw [clause_eq hkind, isSome_write_none]
  constructor
  · intro shared
    obtain ⟨⟨column, json⟩, hmem⟩ := List.exists_mem_of_ne_nil _ shared
    obtain ⟨e, he, fragment, accepted, -⟩ := mem_share.mp hmem
    obtain ⟨named, field, hfield, -⟩ := Clause.accepted?_eq_some.mp accepted
    exact ⟨e, he, named, Option.isSome_iff_exists.mpr ⟨field, hfield⟩⟩
  · rintro ⟨e, he, named, known⟩
    obtain ⟨⟨column, fragment⟩, accepted⟩ := Option.isSome_iff_exists.mp (covers.accepts kind e he named known)
    exact List.ne_nil_of_mem (mem_share.mpr ⟨e, he, fragment, accepted, rfl⟩)

/-- Without complaints there is a free-text body where the remote answers for the free text of the request. -/
theorem freeText_isSome_iff (quiet : (render table maxKeys request).complaints = []) :
    (render table maxKeys request).freeText.isSome = true ↔
      request.freeText?.isSome = true ∧ owns table .search freeTextKey = true := by
  have texts : (render table maxKeys request).freeText.isSome = true ↔
      ownedTexts table (request.entries .search) ≠ [] ∧ request.freeText?.isSome = true := by
    rw [(covers_of_complaints_eq_nil quiet).freeText_eq]
    cases ownedTexts table (request.entries .search) <;> simp
  rw [texts, and_comm]
  refine and_congr_right fun given => ?_
  constructor
  · intro usable
    obtain ⟨text, htext⟩ := List.exists_mem_of_ne_nil _ usable
    obtain ⟨s, hs, -⟩ := Clause.mem_freeTexts.mp htext
    exact (mem_owned.mp hs).2
  · intro owned
    obtain ⟨value, hvalue⟩ := Option.isSome_iff_exists.mp given
    have held := Keyed.mem_of_get?_eq_some (request.get?_entries_search.trans hvalue)
    obtain ⟨entries, hclause, hmem⟩ := Request.exists_of_mem_entries held
    have stands := (complaints_eq_nil_iff.mp quiet (.search, entries) (Request.mem_clauses.mpr hclause)
      (freeTextKey, value) (mem_owned.mpr ⟨hmem, owned⟩)).2
    obtain ⟨s, rfl, visible⟩ := Clause.stands_freeText_iff.mp stands
    exact List.ne_nil_of_mem (Clause.mem_freeTexts.mpr ⟨s, mem_owned.mpr ⟨held, owned⟩, visible, rfl⟩)

/-- The exact body has no member under the key of free text, and nobody who receives it reads free text from it, exactly
where the remote searches no field of another name under that key. The free-text body holds the free text and nothing
else. Without complaints the one is there where the remote answers for a named entry, and the other where it answers for
the free text; that is where it can search, for every request exactly if it can or has no parameter called like the key. -/
theorem bodies_apart (table : FieldTable) (maxKeys : Nat) :
    ((∀ request exact, (render table maxKeys request).exact = some exact →
        ∀ row, exact.search = some row → freeTextKey ∉ Keyed.keys row) ↔ ¬ SearchesUnder table freeTextKey) ∧
    ((∀ request exact, (render table maxKeys request).exact = some exact →
        ∀ other, (QueryPlan.ofRequest other exact).criteria.freeText = false) ↔ ¬ SearchesUnder table freeTextKey) ∧
    (∀ request body, (render table maxKeys request).freeText = some body →
      ∃ text, request.freeText? = some text ∧ body = paged maxKeys (freeTextRequest text)) ∧
    (∀ request, (render table maxKeys request).complaints = [] →
      ((render table maxKeys request).exact.isSome = true ↔
        ∃ kind ∈ [Capability.search, .filter, .range], ∃ e ∈ request.entries kind,
          Clause.isNamed kind e.1 = true ∧ table.contains e.1 = true) ∧
      ((render table maxKeys request).freeText.isSome = true ↔
        request.freeText?.isSome = true ∧ owns table .search freeTextKey = true)) ∧
    ((∀ request, (render table maxKeys request).complaints = [] →
        ((render table maxKeys request).freeText.isSome = true ↔
          request.freeText?.isSome = true ∧ isSearchable table = true)) ↔
      (table.contains freeTextKey = true → isSearchable table = true)) := by
  have sent (under : SearchesUnder table freeTextKey) :
      ∃ request, (render table maxKeys request).exact = some (paged maxKeys (searching freeTextKey (.str "x"))) := by
    obtain ⟨name, field, hname, hfield, searchable, column⟩ := under
    exact ⟨_, column ▸ exact_searching hname hfield searchable⟩
  have kept {request exact : Request} (h : (render table maxKeys request).exact = some exact) {row : Row}
      (hrow : exact.search = some row) (key : freeTextKey ∈ Keyed.keys row) : SearchesUnder table freeTextKey := by
    obtain ⟨value, found⟩ := Keyed.mem_keys_iff.mp key
    exact searchesUnder_of_mem h hrow (Keyed.mem_of_get?_eq_some found)
  refine ⟨⟨fun apart under => ?_, fun free request exact h row hrow key => free (kept h hrow key)⟩,
    ⟨fun unread under => ?_, fun free request exact h other => ?_⟩, fun request body => freeText_eq_some,
    fun request quiet => ⟨exact_isSome_iff quiet, freeText_isSome_iff quiet⟩,
    ⟨fun agrees known => ?_, fun searches request quiet => ?_⟩⟩
  · obtain ⟨request, h⟩ := sent under
    exact apart request _ h _ rfl List.mem_cons_self
  · obtain ⟨request, h⟩ := sent under
    exact Bool.noConfusion ((unread request _ h table).symm.trans (freeText_searching table maxKeys))
  · rw [← Bool.not_eq_true]
    intro read
    obtain ⟨row, hrow, key⟩ := QueryPlan.freeText_ofRequest read
    exact free (kept h hrow key)
  · have quiet : (render table maxKeys (searching freeTextKey (.str "x"))).complaints = [] := by
      rw [complaints_eq_nil_iff]
      change ∀ c ∈ [(Capability.search, [(freeTextKey, Json.str "x")])], _
      simp only [List.mem_singleton, forall_eq, mem_owned]
      rintro e ⟨rfl, -⟩
      exact ⟨by decide, stands_freeText table⟩
    have owned : owns table .search freeTextKey = true := by simp [owns, known]
    exact ((agrees _ quiet).mp ((freeText_isSome_iff quiet).mpr ⟨rfl, owned⟩)).2
  · rw [freeText_isSome_iff quiet]
    refine and_congr_right fun _ => ?_
    simp only [owns, decide_true, Bool.true_and, Bool.or_eq_true]
    exact ⟨fun owned => owned.elim searches id, .inr⟩

/-- The customers of a shop, whom a remote knows by some parameters. -/
def customers (parameters : Keyed String) (fields : Keyed FieldDescriptor) : RemoteDefinition where
  address := ⟨"crm", "customers"⟩
  primaryKey := "customer"
  foreignKey := "id"
  parameters
  fields
  maxKeys := RemoteDefinition.defaultMaxKeys

/-- What the remote is sent for a search, if its description is accepted. -/
def sentFor (remote : RemoteDefinition) (name : String) (value : Json) : Option (FieldTable × Rendered) :=
  remote.table.toOption.map fun table => (table, render table remote.maxKeys (searching name value))

/-- A remote that knows the city as `query` is sent the city in the exact body, and reads it as free text. One that may only
be filtered by a parameter `query` is sent the free text, although it has no field to search. Nothing is complained of. -/
theorem city_read_as_text :
    (sentFor (customers [("city", "query")] []) "city" (.str "Oslo")).any (fun (table, rendered) =>
      rendered.complaints.isEmpty && decide (rendered.exact.bind (·.search) = some [("query", .str "Oslo")]) &&
        rendered.exact.any fun exact => (QueryPlan.ofRequest table exact).criteria.freeText) = true ∧
    (sentFor (customers [("query", "q")] [("query", { FieldDescriptor.empty with filterable := some true })]) "query"
      (.str "x")).any (fun (table, rendered) =>
        rendered.complaints.isEmpty && !isSearchable table && rendered.freeText.isSome) = true := by
  decide +kernel

end Rendering

end DataGrid
