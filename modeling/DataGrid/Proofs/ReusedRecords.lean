-- SUMMARY: That the records a remote has brought in serve for merging as well as those it would be asked for.
import DataGrid.Proofs.RemoteFields
import Mathlib.Data.List.Pairwise

/-!
# Reused records

Resolving a remote's share brings in records. Where these cover the values by which a page
joins, they are merged without asking the remote again. If the remote answers from a table
whose key texts are distinct, the two ways provide the same merge data, drawn from the table.
-/

namespace DataGrid.RemoteGrid

/-! ## Records from a table -/

/-- Every record at hand stands in a table. -/
def Holds (remote : RemoteGrid) (table : List Row) : Prop :=
  ∀ records, remote.resolved = some records → records ⊆ table

/-- The calls of the resolution bring in records of a table only. -/
def ResolvesFrom (remote : RemoteGrid) (caller : Caller Id) (table : List Row) : Prop :=
  ∀ call ∈ remote.rendered.calls, ∀ records, remote.Brings caller call.2 records → records ⊆ table

/-- The call for some keys, if there are any, brings in those records of a table that join one of them. -/
def AnswersFrom (remote : RemoteGrid) (caller : Caller Id) (table : List Row) (keys : List Json) : Prop :=
  keys ≠ [] → ∃ records, remote.Brings caller (remote.mergeRequest keys) records ∧
    ∀ record, record ∈ records ↔ record ∈ table ∧ ∃ key ∈ keys, remote.keyOf? record = some key.keyText

theorem holds_of_ofRequest {definition : RemoteDefinition} {header : Json} {request : Request} {remote : RemoteGrid}
    (h : ofRequest definition header request = .ok remote) (table : List Row) : remote.Holds table := by
  unfold ofRequest at h
  split at h
  · obtain rfl := Except.ok.inj h
    exact nofun
  · cases h

section

variable {remote : RemoteGrid} {caller : Caller Id} {table : List Row}

/-- A resolution by calls that bring in records of a table leaves only such records at hand. -/
theorem Holds.fetch {next : RemoteGrid} {parts : List (CallShape × Contribution)} (holds : remote.Holds table)
    (resolving : remote.ResolvesFrom caller table) (h : outcome (remote.fetch caller) = .ok (parts, next)) :
    next.Holds table := by
  obtain ⟨replies, answers, -, rfl | rfl⟩ := fetch_eq_ok h
  · exact holds
  · intro records taken record hrecord
    obtain rfl : replies.flatMap (·.2) = records := Option.some.inj taken
    obtain ⟨reply, hreply, hrecord⟩ := List.mem_flatMap.mp hrecord
    obtain ⟨call, hcall, -, brings⟩ := Outcome.exists_left_of_mem answers hreply
    exact resolving call hcall reply.2 brings hrecord


/-! ## Merge data from a table -/

/-- Merge data that is drawn from a table: its keys are the wanted key texts that occur in the table, and under each of
them stands the record of that key text, renamed. -/
structure DrawnFrom (remote : RemoteGrid) (table : List Row) (wanted : List String) (data : MergeData) : Prop where
  ascending : data.Ascending
  keys : ∀ key, key ∈ Keyed.keys data ↔ key ∈ wanted ∧ key ∈ remote.heldKeys table
  renamed : ∀ record ∈ table, ∀ key ∈ wanted, remote.keyOf? record = some key →
    Keyed.get? data key = some (remote.rename record)

theorem keyOf?_of_find? {records : List Row} {record : Row} {key : String}
    (h : (records.reverse.find? fun record => remote.keyOf? record = some key) = some record) :
    record ∈ records ∧ remote.keyOf? record = some key :=
  ⟨List.mem_reverse.mp (List.mem_of_find?_eq_some h), by simpa using List.find?_some h⟩

theorem mem_heldKeys {records : List Row} {key : String} :
    key ∈ remote.heldKeys records ↔ ∃ record ∈ records, remote.keyOf? record = some key := by
  rw [heldKeys_eq, List.mem_filterMap]

/-- A table leaves only one way to draw from it. -/
theorem DrawnFrom.unique {wanted : List String} {data data' : MergeData} (h : remote.DrawnFrom table wanted data)
    (h' : remote.DrawnFrom table wanted data') : data = data' := by
  refine h.ascending.ext h'.ascending fun key => ?_
  by_cases drawn : key ∈ wanted ∧ key ∈ remote.heldKeys table
  · obtain ⟨hwanted, hkey⟩ := drawn
    obtain ⟨record, hrecord, hkey⟩ := mem_heldKeys.mp hkey
    rw [h.renamed record hrecord key hwanted hkey, h'.renamed record hrecord key hwanted hkey]
  · have absent : Keyed.get? data key = none := Keyed.get?_eq_none_iff.mpr (mt (h.keys key).mp drawn)
    have absent' : Keyed.get? data' key = none := Keyed.get?_eq_none_iff.mpr (mt (h'.keys key).mp drawn)
    rw [absent, absent']

/-- Two records have a key text in common only if they are one. -/
def KeyedApart (remote : RemoteGrid) (a b : Row) : Prop :=
  ∀ key, remote.keyOf? a = some key → remote.keyOf? b = some key → a = b

instance : Std.Symm remote.KeyedApart :=
  ⟨fun _ _ apart key ha hb => (apart key hb ha).symm⟩

/-- In a table of distinct key texts, a key text belongs to one record. -/
theorem keyedApart_of_nodup (distinct : (remote.heldKeys table).Nodup) {a b : Row} (ha : a ∈ table) (hb : b ∈ table) :
    remote.KeyedApart a b := by
  have pairs : table.Pairwise remote.KeyedApart := by
    rw [heldKeys_eq] at distinct
    refine (List.pairwise_filterMap.mp distinct).imp ?_
    intro a b unequal key ha hb
    exact absurd rfl (unequal key ha key hb)
  have itself : ∀ a ∈ table, remote.KeyedApart a a := fun _ _ _ _ _ => rfl
  exact pairs.forall_of_forall itself ha hb

/-- Records of a table among which are all those that are wanted yield merge data drawn from the table. -/
theorem drawnFrom_mergeDataOf (distinct : (remote.heldKeys table).Nodup) {wanted : List String} {records : List Row}
    (within : records ⊆ table)
    (complete : ∀ record ∈ table, ∀ key ∈ wanted, remote.keyOf? record = some key → record ∈ records) :
    remote.DrawnFrom table wanted (remote.mergeDataOf wanted records) := by
  have renamed : ∀ record ∈ table, ∀ key ∈ wanted, remote.keyOf? record = some key →
      Keyed.get? (remote.mergeDataOf wanted records) key = some (remote.rename record) := by
    intro record hrecord key hwanted hkey
    have present : (records.reverse.find? fun record => remote.keyOf? record = some key).isSome = true :=
      List.find?_isSome.mpr
        ⟨record, List.mem_reverse.mpr (complete record hrecord key hwanted hkey), decide_eq_true hkey⟩
    obtain ⟨found, hfound⟩ := Option.isSome_iff_exists.mp present
    obtain ⟨brought, own⟩ := keyOf?_of_find? hfound
    rw [get?_mergeDataOf, if_pos hwanted, hfound, keyedApart_of_nodup distinct (within brought) hrecord key own hkey]
    rfl
  refine ⟨remote.ascending_mergeDataOf wanted records, fun key => ⟨fun hkey => ?_, ?_⟩, renamed⟩
  · obtain ⟨value, found⟩ := Keyed.mem_keys_iff.mp hkey
    rw [get?_mergeDataOf] at found
    split at found
    · next hwanted =>
      obtain ⟨record, hrecord, -⟩ := Option.map_eq_some_iff.mp found
      obtain ⟨brought, own⟩ := keyOf?_of_find? hrecord
      exact ⟨hwanted, mem_heldKeys.mpr ⟨record, within brought, own⟩⟩
    · cases found
  · rintro ⟨hwanted, hkey⟩
    obtain ⟨record, hrecord, hkey⟩ := mem_heldKeys.mp hkey
    exact Keyed.mem_keys_iff.mpr ⟨_, renamed record hrecord key hwanted hkey⟩

theorem covering?_eq_some {wanted : List String} {records : List Row} :
    remote.covering? wanted = some records ↔
      remote.resolved = some records ∧ ∀ key ∈ wanted, key ∈ remote.heldKeys records := by
  rw [covering?, Option.filter_eq_some_iff]
  simp

/-- The key texts of the values by which some rows join. -/
def wantedBy (remote : RemoteGrid) (rows : List Row) : List String :=
  (Join.keys rows remote.definition.primaryKey).map Json.keyText

/-- A remote with records of a table at hand, which it asks for the others, merges from records of the table, among which
are all those that are wanted. -/
theorem exists_serves (distinct : (remote.heldKeys table).Nodup) (holds : remote.Holds table) {rows : List Row}
    (answers : remote.covering? (remote.wantedBy rows) = none →
      remote.AnswersFrom caller table (Join.keys rows remote.definition.primaryKey))
    (joined : Join.keys rows remote.definition.primaryKey ≠ []) :
    ∃ records, remote.Serves caller rows records ∧ records ⊆ table ∧
      ∀ record ∈ table, ∀ key ∈ remote.wantedBy rows, remote.keyOf? record = some key → record ∈ records := by
  unfold Serves
  rw [← wantedBy]
  cases covering : remote.covering? (remote.wantedBy rows) with
  | some records =>
    obtain ⟨held, covered⟩ := covering?_eq_some.mp covering
    have within := holds records held
    -- The covering record has the key text of the table's record, and so is that record.
    refine ⟨records, rfl, within, fun record hrecord key hwanted hkey => ?_⟩
    obtain ⟨other, hother, same⟩ := mem_heldKeys.mp (covered key hwanted)
    rwa [keyedApart_of_nodup distinct hrecord (within hother) key hkey same]
  | none =>
    obtain ⟨records, brings, exact⟩ := answers covering joined
    refine ⟨records, brings, fun record hrecord => ((exact record).mp hrecord).1, fun record hrecord key hwanted hkey => ?_⟩
    obtain ⟨value, hvalue, rfl⟩ := List.mem_map.mp hwanted
    exact (exact record).mpr ⟨hrecord, value, hvalue, hkey⟩

/-- A remote with records of a table at hand, which it asks for the others, draws its merge data from the table. -/
theorem exists_mergeData_drawnFrom (distinct : (remote.heldKeys table).Nodup) (holds : remote.Holds table) {rows : List Row}
    (answers : remote.covering? (remote.wantedBy rows) = none →
      remote.AnswersFrom caller table (Join.keys rows remote.definition.primaryKey)) :
    ∃ data, outcome (remote.mergeData caller rows) = .ok data ∧ remote.DrawnFrom table (remote.wantedBy rows) data := by
  by_cases unjoined : Join.keys rows remote.definition.primaryKey = []
  · refine ⟨[], mergeData_eq_ok.mpr (.inl ⟨unjoined, rfl⟩), ?_⟩
    have unwanted : remote.wantedBy rows = [] := List.map_eq_nil_iff.mpr unjoined
    rw [unwanted]
    exact ⟨Keyed.ascending_nil, by simp [Keyed.keys], by simp⟩
  · obtain ⟨records, serves, within, complete⟩ := exists_serves distinct holds answers unjoined
    exact ⟨_, mergeData_eq_ok.mpr (.inr ⟨unjoined, records, serves, rfl⟩), drawnFrom_mergeDataOf distinct within complete⟩

end

/-- The grid with no records at hand, so that it has to ask for those to merge. -/
def forgetful (remote : RemoteGrid) : RemoteGrid :=
  { remote with resolved := none }

/-- After a resolution that leaves only records of a table at hand, a remote that answers from the table provides the same
merge data whether the records at hand are reused or it is asked again: in both cases it is drawn from the table, and where
the records at hand cover what is wanted, no remote is asked. -/
theorem mergeData_reuses {remote next : RemoteGrid} {caller later : Caller Id} {parts : List (CallShape × Contribution)}
    {table rows : List Row} (fetched : outcome (remote.fetch caller) = .ok (parts, next))
    (distinct : (remote.heldKeys table).Nodup) (holds : next.Holds table)
    (answers : remote.AnswersFrom later table (Join.keys rows remote.definition.primaryKey)) :
    ∃ data, outcome (next.mergeData later rows) = .ok data ∧ outcome (next.forgetful.mergeData later rows) = .ok data ∧
      (next.covering? (next.wantedBy rows) ≠ none → ∀ other, outcome (next.mergeData other rows) = .ok data) ∧
      next.DrawnFrom table (next.wantedBy rows) data := by
  have kept : (next.heldKeys table).Nodup ∧ next.AnswersFrom later table (Join.keys rows next.definition.primaryKey) := by
    obtain ⟨replies, -, -, rfl | rfl⟩ := fetch_eq_ok fetched
    · exact ⟨distinct, answers⟩
    · exact ⟨distinct, answers⟩
  obtain ⟨distinct, answers⟩ := kept
  obtain ⟨data, hdata, drawn⟩ := exists_mergeData_drawnFrom distinct holds fun _ => answers
  refine ⟨data, hdata, ?_, fun covered other => ?_, drawn⟩
  · have unheld : next.forgetful.Holds table := nofun
    have distinct : (next.forgetful.heldKeys table).Nodup := distinct
    have asks : next.forgetful.AnswersFrom later table (Join.keys rows next.forgetful.definition.primaryKey) := answers
    obtain ⟨asked, hasked, fresh⟩ := exists_mergeData_drawnFrom distinct unheld fun _ => asks
    have fresh : next.DrawnFrom table (next.wantedBy rows) asked := ⟨fresh.ascending, fresh.keys, fresh.renamed⟩
    rwa [drawn.unique fresh]
  · have unasked : next.covering? (next.wantedBy rows) = none →
        next.AnswersFrom other table (Join.keys rows next.definition.primaryKey) := fun none => absurd none covered
    obtain ⟨reused, hreused, same⟩ := exists_mergeData_drawnFrom distinct holds unasked
    rwa [drawn.unique same]

namespace Registry

/-- Customers, whose towns may be asked for as cities. -/
def definition : RemoteDefinition where
  address := ⟨"crm", "customers"⟩
  primaryKey := "customer"
  foreignKey := "id"
  parameters := [("city", "town")]
  fields := []
  maxKeys := RemoteDefinition.defaultMaxKeys

/-- Two customers in Oslo and one in Bergen. -/
def table : List Row :=
  [[("id", .str "c1"), ("name", .str "Ann"), ("town", .str "Oslo")],
   [("id", .str "c2"), ("name", .str "Bo"), ("town", .str "Oslo")],
   [("id", .str "c3"), ("name", .str "Cid"), ("town", .str "Bergen")]]

/-- The customers of some ids, or else those in Oslo. -/
def found (body : Json) : List Row :=
  match Row.lookup (Row.membersOf (some body)) "filter.id" with
  | some (.arr ids) => table.filter fun record => ids.any fun id => record.lookup "id" = some id
  | _ => table.filter fun record => record.lookup "town" = some (.str "Oslo")

def caller : Caller Id :=
  fun call => pure (.ofRows (found call.body))

theorem brings_found (remote : RemoteGrid) (body : Request) : remote.Brings caller body (found body.toJson) :=
  ⟨_, rfl, Reply.records_ofRows _⟩

theorem found_subset_table (body : Json) : found body ⊆ table := by
  unfold found
  split
  · exact List.filter_subset_self table
  · exact List.filter_subset_self table

def request : Request :=
  { Request.empty with search := some [("city", .str "Oslo")] }

/-- Rows that join by one customer, by a list with a repetition, by null, and by nothing. -/
def rows : List Row :=
  [[("customer", .str "c1")],
   [("customer", .arr [.str "c2", .str "c1", .str "c2"])],
   [("customer", .null)],
   [("title", .str "alpha")]]

end Registry

/-- The customers in Oslo cover the rows, so they are reused, and asking again provides the same. -/
theorem mergeData_reuses_customers : ∃ remote next parts data,
    ofRequest Registry.definition .null Registry.request = .ok remote ∧
    outcome (remote.fetch Registry.caller) = .ok (parts, next) ∧
    (remote.heldKeys Registry.table).Nodup ∧ next.Holds Registry.table ∧
    remote.AnswersFrom Registry.caller Registry.table (Join.keys Registry.rows remote.definition.primaryKey) ∧
    next.covering? (next.wantedBy Registry.rows) ≠ none ∧
    outcome (next.mergeData Registry.caller Registry.rows) = .ok data ∧
    outcome (next.forgetful.mergeData Registry.caller Registry.rows) = .ok data ∧
    data = [("c1", [("city", .str "Oslo")]), ("c2", [("city", .str "Oslo")])] := by
  have conditions : ((ofRequest Registry.definition .null Registry.request).toOption.any fun remote =>
      (outcome (remote.fetch Registry.caller)).toOption.any fun fetched =>
        decide ((remote.heldKeys Registry.table).Nodup) &&
        decide (Registry.found (remote.mergeRequest (Join.keys Registry.rows remote.definition.primaryKey)).toJson =
          Registry.table.filter fun record => (Join.keys Registry.rows remote.definition.primaryKey).any fun key =>
            remote.keyOf? record = some key.keyText) &&
        (fetched.2.covering? (fetched.2.wantedBy Registry.rows)).isSome &&
        decide ((outcome (fetched.2.mergeData Registry.caller Registry.rows)).toOption =
          some [("c1", [("city", .str "Oslo")]), ("c2", [("city", .str "Oslo")])])) = true := by
    decide +kernel
  obtain ⟨remote, made, conditions⟩ := (Option.any_eq_true _ _).mp conditions
  obtain ⟨⟨parts, next⟩, fetched, conditions⟩ := (Option.any_eq_true _ _).mp conditions
  simp only [Bool.and_eq_true, decide_eq_true_eq] at conditions
  obtain ⟨⟨⟨distinct, exact⟩, covered⟩, provided⟩ := conditions
  have made := Outcome.toOption_eq_some.mp made
  have fetched := Outcome.toOption_eq_some.mp fetched
  have provided := Outcome.toOption_eq_some.mp provided
  have resolving : remote.ResolvesFrom Registry.caller Registry.table := by
    intro call _ records brings
    rw [brings.unique (Registry.brings_found remote call.2)]
    exact Registry.found_subset_table _
  have holds := (holds_of_ofRequest made Registry.table).fetch resolving fetched
  have answers : remote.AnswersFrom Registry.caller Registry.table
      (Join.keys Registry.rows remote.definition.primaryKey) := by
    refine fun _ => ⟨_, Registry.brings_found remote _, fun record => ?_⟩
    rw [exact, List.mem_filter, List.any_eq_true]
    simp
  obtain ⟨data, hdata, hasked, -, -⟩ := mergeData_reuses fetched distinct holds answers
  have same := Except.ok.inj (hdata.symm.trans provided)
  refine ⟨remote, next, parts, data, made, fetched, distinct, holds, answers, ?_, hdata, hasked, same⟩
  exact Option.isSome_iff_ne_none.mp covered

end DataGrid.RemoteGrid
