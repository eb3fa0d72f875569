-- SUMMARY: Columns of fields that are hidden and grant nothing have no part in what is shown.
import DataGrid.Proofs.Exclusion
import DataGrid.Proofs.Independence
import DataGrid.Proofs.Solitary
import DataGrid.Proofs.StoredKeys
import DataGrid.Proofs.Views

/-!
# Hidden columns

A hidden field that grants nothing keeps its column to itself: two stores whose
documents differ in such columns only are shown alike. Tests and sorting do not look
into objects, so they may stand above a hidden column. Shown columns and joined
records are copied as a whole. They have to be apart from it, unless a join excludes
it from its records, and no other field is shown in their place.
-/

namespace DataGrid

/-! ## Joined records -/

namespace Join

/-- Records that are looked up by the same values are found alike under each. -/
theorem get?_index_congr {α : Type} {view : Row → α} {column : String} {records records' : List Row}
    (alike : List.Forall₂ (fun a b => a.lookup column = b.lookup column ∧ view a = view b) records records')
    (key : String) :
    (Keyed.get? (index records column) key).map view = (Keyed.get? (index records' column) key).map view := by
  suffices ∀ start start' : Keyed Row, (∀ key, (Keyed.get? start key).map view = (Keyed.get? start' key).map view) →
      ∀ key, (Keyed.get? (records.foldl (fileUnder column) start) key).map view =
        (Keyed.get? (records'.foldl (fileUnder column) start') key).map view by
    rw [index_eq, index_eq]
    exact this [] [] (fun _ => rfl) key
  induction alike with
  | nil => exact fun _ _ same => same
  | @cons a b _ _ head _ ih =>
    intro start start' same
    refine ih _ _ fun key => ?_
    rw [fileUnder, fileUnder, head.1]
    split
    · next value _ =>
      by_cases here : value.keyText = key
      · rw [here, Keyed.get?_insert_self, Keyed.get?_insert_self, Option.map_some, Option.map_some, head.2]
      · rw [Keyed.get?_insert_of_ne here, Keyed.get?_insert_of_ne here, same]
    · exact same key

/-- Two tables of records tell no difference but in columns that a join excludes. -/
def TellsSame (join : JoinDescriptor) (byKey byKey' : Keyed Row) : Prop :=
  ∀ key, (Keyed.get? byKey key).map (Row.eraseAll join.exclude) = (Keyed.get? byKey' key).map (Row.eraseAll join.exclude)

/-- Of the record that a value joins the same is shown. -/
theorem TellsSame.strip_resolve {join : JoinDescriptor} {byKey byKey' : Keyed Row} (same : TellsSame join byKey byKey')
    (value : Json) :
    (resolve byKey value).map (Json.strip join.exclude) = (resolve byKey' value).map (Json.strip join.exclude) := by
  have strips (found : Option Row) : (found.map Json.obj).map (Json.strip join.exclude) =
      (found.map (Row.eraseAll join.exclude)).map Json.obj := by
    rw [Option.map_map, Option.map_map]
    exact congrArg (Option.map · found) (funext (Json.strip_obj join.exclude))
  rw [resolve, resolve, strips, strips, same]

/-- What is read of an expansion leaves out the columns that the join excludes. -/
theorem reading_expansion {field : Field} {join : JoinDescriptor} (joins : field.join = some join)
    {byKey byKey' : Keyed Row} (same : TellsSame join byKey byKey') (held : Option Json) :
    (expansion? byKey held).map field.reading = (expansion? byKey' held).map field.reading := by
  have reads : field.reading = Json.strip join.exclude := by
    funext value
    rw [Field.reading, joins]
  have single (value : Json) : ((resolve byKey value).getD .null).strip join.exclude =
      ((resolve byKey' value).getD .null).strip join.exclude := by
    have strips (found : Option Json) : (found.getD .null).strip join.exclude =
        (found.map (Json.strip join.exclude)).getD .null := by
      cases found with
      | none => rfl
      | some value => rfl
    rw [strips, strips, same.strip_resolve]
  rw [reads]
  cases held with
  | none => rfl
  | some value =>
    cases value with
    | null => rfl
    | arr items =>
      simp only [expansion?, Option.map_some, Json.strip, Json.stripItems_eq, List.map_filterMap, same.strip_resolve]
    | _ =>
      simp only [expansion?, Option.map_some]
      rw [single]


/-! ## Expanded rows -/

/-- Two rows are the same but for the records of some fields, and what is read of these fields is the same. -/
structure AlikeBeside (spent : List Field) (a b : Row) : Prop where
  elsewhere : ∀ path, (∀ f ∈ spent, Row.Apart (Text.segments f.source) path) → Row.at? a path = Row.at? b path
  there : ∀ f ∈ spent, (a.lookup f.source).map f.reading = (b.lookup f.source).map f.reading

theorem AlikeBeside.refl (row : Row) : AlikeBeside [] row row :=
  ⟨fun _ _ => rfl, List.forall_mem_nil _⟩

/-- Some fields are neither read nor expanded where others are. -/
structure Clears (spent : List Field) (field : Field) : Prop where
  column : ∀ f ∈ spent, Row.Apart (Text.segments f.source) (Text.segments field.column)
  source : ∀ f ∈ spent, Row.Apart (Text.segments f.source) (Text.segments field.source)

section

variable {spent : List Field} {a b : Row} {field : Field}

theorem AlikeBeside.lookup_column (h : AlikeBeside spent a b) (clear : Clears spent field) :
    a.lookup field.column = b.lookup field.column :=
  h.elsewhere _ clear.column

/-- One more field may have expanded records. -/
theorem AlikeBeside.spend (h : AlikeBeside spent a b) (clear : Clears spent field) :
    AlikeBeside (field :: spent) a b where
  elsewhere path apart := h.elsewhere path fun f hf => apart f (List.mem_cons_of_mem _ hf)
  there := List.forall_mem_cons.mpr ⟨congrArg _ (h.elsewhere _ clear.source), h.there⟩

/-- Expanding a field by the same records keeps rows alike. -/
theorem AlikeBeside.expandRow (h : AlikeBeside spent a b) (clear : Clears spent field) (byKey : Keyed Row) :
    AlikeBeside spent (expandRow field byKey a) (expandRow field byKey b) := by
  have source := Text.segments_ne_nil field.source
  constructor
  · intro path apart
    unfold Join.expandRow
    rw [h.lookup_column clear]
    split
    · exact Row.at?_insertAt_congr source (h.elsewhere path apart) _
    · exact h.elsewhere path apart
  · intro f hf
    have kept (row : Row) : (Join.expandRow field byKey row).lookup f.source = row.lookup f.source :=
      at?_expandRow (clear.source f hf).symm byKey row
    rw [kept, kept]
    exact h.there f hf

/-- Expanding a field by records of which the same is read leaves rows alike beside its place. -/
theorem AlikeBeside.expandRow_spent (h : AlikeBeside spent a b) (clear : Clears spent field) {join : JoinDescriptor}
    (joins : field.join = some join) {byKey byKey' : Keyed Row} (same : TellsSame join byKey byKey') :
    AlikeBeside (field :: spent) (Join.expandRow field byKey a) (Join.expandRow field byKey' b) := by
  have source := Text.segments_ne_nil field.source
  constructor
  · intro path apart
    obtain ⟨here, others⟩ := List.forall_mem_cons.mp apart
    rw [at?_expandRow here, at?_expandRow here]
    exact h.elsewhere path others
  · refine List.forall_mem_cons.mpr ⟨?_, fun f hf => ?_⟩
    · have reads := reading_expansion joins same (b.lookup field.column)
      unfold Join.expandRow
      rw [h.lookup_column clear]
      cases left : expansion? byKey (b.lookup field.column) <;>
        cases right : expansion? byKey' (b.lookup field.column)
      · exact congrArg _ (h.elsewhere _ clear.source)
      · simp [left, right] at reads
      · simp [left, right] at reads
      · rw [left, right] at reads
        dsimp only
        rw [Row.insert, Row.insert, Row.lookup, Row.lookup, Row.at?_insertAt_self a source, Row.at?_insertAt_self b source]
        exact reads
    · have kept (byKey : Keyed Row) (row : Row) : (Join.expandRow field byKey row).lookup f.source = row.lookup f.source :=
        at?_expandRow (clear.source f hf).symm byKey row
      rw [kept, kept]
      exact h.there f hf

end

end Join


/-! ## Concealed columns -/

namespace Field

/-- Whether rows may be tested or sorted by a field. -/
def isTested (field : Field) : Bool :=
  field.searchable || field.filterable || field.rangeable || field.sortable

/-- A field that is not shown and grants nothing. -/
def isHidden (field : Field) : Bool :=
  !field.shown && !field.isTested

theorem isTested_of_grants {field : Field} {kind : Capability} (display : kind ≠ .display)
    (grants : field.grants kind = true) : field.isTested = true := by
  cases kind <;> simp_all [isTested, Field.grants]

end Field

namespace JoinDescriptor

/-- A join fetches nothing of a column. -/
def Omits (join : JoinDescriptor) (column : String) : Prop :=
  join.fields ≠ [] ∧ ∀ c ∈ join.fields ++ join.exclude, Row.Apart (Text.segments c) (Text.segments column)

/-- A join excludes a column from its records. Of a record that is cut to some columns only a whole member can be excluded
without a trace. -/
def Excludes (join : JoinDescriptor) (column : String) : Prop :=
  ∃ c ∈ join.exclude, Text.segments c <+: Text.segments column ∧ (join.fields = [] ∨ '.' ∉ c.toList)

end JoinDescriptor

namespace FieldTable

/-- The columns of the fields that are hidden and grant nothing. -/
def hiddenColumns (table : FieldTable) : List String :=
  (table.toList.filter (·.isHidden)).map (·.column)

/-- No other shown field is read or expanded where this one is shown. -/
def Alone (table : FieldTable) (field : Field) : Prop :=
  ∀ other ∈ table.shown, other ≠ field → Row.Apart (Text.segments field.source) (Text.segments other.column) ∧
    Row.Apart (Text.segments field.source) (Text.segments other.source)

/-- What keeps a column of a collection out of all answers of its table. Shown columns are apart from it. No field that
grants something has its column at or below it. A shown join into the collection looks records up by another column, and
does not fetch the column, or else excludes it and is alone in its place. -/
structure Conceals (table : FieldTable) (collection column : String) : Prop where
  shown : ∀ field ∈ table.shown, Row.Apart (Text.segments field.column) (Text.segments column)
  tested : ∀ field ∈ table.toList, field.isTested = true → ¬Text.segments column <+: Text.segments field.column
  keyed : ∀ field ∈ table.shown, ∀ join ∈ field.join, join.model = collection →
    Row.Apart (Text.segments join.keyColumn) (Text.segments column)
  joined : ∀ field ∈ table.shown, ∀ join ∈ field.join, join.model = collection →
    join.Omits column ∨ join.Excludes column ∧ table.Alone field

instance (join : JoinDescriptor) (column : String) : Decidable (join.Omits column) :=
  inferInstanceAs (Decidable (_ ∧ _))

instance (join : JoinDescriptor) (column : String) : Decidable (join.Excludes column) :=
  inferInstanceAs (Decidable (∃ c ∈ join.exclude, _))

instance (table : FieldTable) (field : Field) : Decidable (table.Alone field) :=
  inferInstanceAs (Decidable (∀ other ∈ table.shown, _))

instance (table : FieldTable) (collection column : String) : Decidable (table.Conceals collection column) :=
  decidable_of_iff (_ ∧ _ ∧ _ ∧ _) ⟨fun ⟨shown, tested, keyed, joined⟩ => ⟨shown, tested, keyed, joined⟩,
    fun h => ⟨h.shown, h.tested, h.keyed, h.joined⟩⟩

end FieldTable

namespace Join

variable {store store' : MemoryStore} {collection : String} {columns : List String} {join : JoinDescriptor}
  (agree : store.AgreeBut collection columns store') (keyed : ∀ column ∈ columns,
    Row.Apart (Text.segments join.keyColumn) (Text.segments column))

include keyed in
/-- Records are looked up by what is seen of them. -/
theorem seesBy_oneOf (keys : List Json) : MemoryStore.SeesBy (Row.eraseAll columns) (.oneOf join.keyColumn keys) := by
  intro doc
  rw [Predicate.holds, Predicate.holds, Row.lookup_eraseAll fun c hc => (keyed c hc).symm]

/-- The columns that a join with listed columns fetches. -/
theorem projection_selection (listed : join.fields ≠ []) (keys : List Json) :
    (selection join keys).projection = some (join.fields ++ join.exclude ++ [join.keyColumn]).eraseDups :=
  if_neg (by simpa using listed)

theorem mem_fetched {c : String} : c ∈ (join.fields ++ join.exclude ++ [join.keyColumn]).eraseDups ↔
    c ∈ join.fields ++ join.exclude ∨ c = join.keyColumn := by
  rw [List.mem_eraseDups, List.mem_append, List.mem_singleton]

section

include agree keyed

/-- Where a join fetches nothing of some columns, it finds the same records whatever these hold. -/
theorem find_of_omits (omits : ∀ column ∈ columns, join.Omits column) (keys : List Json) :
    store.find collection (selection join keys) = store'.find collection (selection join keys) := by
  refine MemoryStore.find_congr agree.alike (seesBy_oneOf keyed keys) (fun _ _ => rfl) fun doc => ?_
  cases columns with
  | nil => rfl
  | cons first rest =>
    rw [Selection.shape, Selection.shape, projection_selection (omits first List.mem_cons_self).1]
    refine Row.project_congr fun c hc => Row.lookup_eraseAll (fun column hcolumn => ?_) doc
    rcases mem_fetched.mp hc with own | rfl
    · exact ((omits column hcolumn).2 c own).symm
    · exact (keyed column hcolumn).symm

omit agree keyed in
/-- Where a join fetches whole documents, each of some columns is excluded or below an excluded one. -/
theorem exclude_covers (whole : join.fields = [])
    (leaves : ∀ column ∈ columns, join.Omits column ∨ join.Excludes column) :
    ∀ column ∈ columns, ∃ c ∈ join.exclude, Text.segments c <+: Text.segments column := by
  intro column hcolumn
  obtain ⟨c, hc, above, -⟩ := (leaves column hcolumn).resolve_left fun omits => omits.1 whole
  exact ⟨c, hc, above⟩

omit agree in
/-- Documents that agree but for some columns are cut to records that agree but for what is excluded. -/
theorem eraseAll_project_congr (listed : join.fields ≠ [])
    (leaves : ∀ column ∈ columns, join.Omits column ∨ join.Excludes column) {a b : Row}
    (ha : (Json.obj a).isOrdered = true) (hb : (Json.obj b).isOrdered = true)
    (alike : Row.eraseAll columns a = Row.eraseAll columns b) :
    Row.eraseAll join.exclude (a.project (join.fields ++ join.exclude ++ [join.keyColumn]).eraseDups) =
      Row.eraseAll join.exclude (b.project (join.fields ++ join.exclude ++ [join.keyColumn]).eraseDups) := by
  have seen {c : String} (apart : ∀ column ∈ columns, Row.Apart (Text.segments c) (Text.segments column)) :
      a.lookup c = b.lookup c := Row.lookup_congr_of_eraseAll alike fun column h => (apart column h).symm
  refine Row.ext_get? (Row.isOrdered_eraseAll (Row.isOrdered_project ha _) _)
    (Row.isOrdered_eraseAll (Row.isOrdered_project hb _) _) fun key => Row.get?_eraseAll_congr ?_
  refine or_iff_not_imp_right.mpr fun kept => Row.get?_project_congr fun c hc => ?_
  refine or_iff_not_imp_right.mpr fun begins => seen fun column hcolumn => ?_
  rcases mem_fetched.mp hc with own | rfl
  · rcases leaves column hcolumn with omits | ⟨e, he, above, undotted⟩
    · exact omits.2 c own
    · -- The column begins with the member that is excluded, and the fetched one with another.
      have single : Text.segments e = [e] := Text.segments_of_undotted (undotted.resolve_left listed)
      obtain ⟨rest, hcolumn⟩ := single ▸ above
      obtain ⟨tail, htail⟩ := List.head?_eq_some_iff.mp (Classical.not_not.mp begins)
      rw [htail, ← hcolumn]
      exact Row.apart_cons_iff.mpr (.inl fun same => kept ⟨e, he, same ▸ single⟩)
  · exact keyed column hcolumn

omit agree in
/-- Two documents that agree but for some columns are fetched as records of which the same is shown, if each of the columns
is omitted or excluded. -/
theorem shape_congr (leaves : ∀ column ∈ columns, join.Omits column ∨ join.Excludes column) (keys : List Json) {a b : Row}
    (ha : (Json.obj a).isOrdered = true) (hb : (Json.obj b).isOrdered = true)
    (alike : Row.eraseAll columns a = Row.eraseAll columns b) :
    ((selection join keys).shape a).lookup join.keyColumn = ((selection join keys).shape b).lookup join.keyColumn ∧
      Row.eraseAll join.exclude ((selection join keys).shape a) =
        Row.eraseAll join.exclude ((selection join keys).shape b) := by
  have seen : a.lookup join.keyColumn = b.lookup join.keyColumn :=
    Row.lookup_congr_of_eraseAll alike fun column h => (keyed column h).symm
  by_cases whole : join.fields = []
  · have shape (row : Row) : (selection join keys).shape row = row := by
      rw [Selection.shape, show (selection join keys).projection = none from if_pos (by simp [whole])]
    have covered := exclude_covers whole leaves
    rw [shape, shape]
    exact ⟨seen, by rw [← Row.eraseAll_eraseAll covered ha, alike, Row.eraseAll_eraseAll covered hb]⟩
  · have shape (row : Row) : (selection join keys).shape row =
        row.project (join.fields ++ join.exclude ++ [join.keyColumn]).eraseDups := by
      rw [Selection.shape, projection_selection whole]
    have fetched : join.keyColumn ∈ (join.fields ++ join.exclude ++ [join.keyColumn]).eraseDups := mem_fetched.mpr (.inr rfl)
    rw [shape, shape]
    exact ⟨by rw [Row.lookup_project ha fetched, Row.lookup_project hb fetched, seen],
      eraseAll_project_congr keyed whole leaves ha hb alike⟩

/-- Where each of some columns is omitted or excluded, the records that are found tell no difference. -/
theorem tellsSame_find (ordered : ∀ doc ∈ store.rows collection, (Json.obj doc).isOrdered = true)
    (ordered' : ∀ doc ∈ store'.rows collection, (Json.obj doc).isOrdered = true)
    (leaves : ∀ column ∈ columns, join.Omits column ∨ join.Excludes column) (keys : List Json) :
    TellsSame join (index (store.find collection (selection join keys)) join.keyColumn)
      (index (store'.find collection (selection join keys)) join.keyColumn) := by
  have selected : (store.selected collection (selection join keys)).map (Row.eraseAll columns) =
      (store'.selected collection (selection join keys)).map (Row.eraseAll columns) :=
    MemoryStore.map_selected_congr agree.alike (seesBy_oneOf keyed keys) fun _ _ => rfl
  refine get?_index_congr ?_
  rw [MemoryStore.find_eq, MemoryStore.find_eq, List.forall₂_map_left_iff, List.forall₂_map_right_iff]
  refine (Outcome.forall₂_of_map_eq selected).imp fun a b ⟨ha, hb, same⟩ => ?_
  exact shape_congr keyed leaves keys (ordered a (MemoryStore.mem_of_mem_selected ha).1)
    (ordered' b (MemoryStore.mem_of_mem_selected hb).1) same

end


/-! ## Expanded pages -/

section

variable {field : Field} {spent spent' : List Field} {rows rows' : List Row}

variable (store store' join) in
/-- A field of two lists of rows is expanded without fail, and leaves them alike if each row does. -/
theorem expand_alike (alike : List.Forall₂ (AlikeBeside spent) rows rows') (clear : Clears spent field)
    (unjoined : ∀ a b, AlikeBeside spent a b → AlikeBeside spent' a b)
    (joined : ∀ keys a b, AlikeBeside spent a b →
      AlikeBeside spent' (expandRow field (recordsFor store join keys) a) (expandRow field (recordsFor store' join keys) b)) :
    ∃ expanded expanded', outcome (expand store.toStore field join rows) = .ok expanded ∧
      outcome (expand store'.toStore field join rows') = .ok expanded' ∧
      List.Forall₂ (AlikeBeside spent') expanded expanded' := by
  have ids : rows.map (·.lookup field.column) = rows'.map (·.lookup field.column) := by
    refine List.forall₂_eq_eq_eq ▸ List.forall₂_map_left_iff.mpr (List.forall₂_map_right_iff.mpr ?_)
    exact alike.imp fun a b h => h.lookup_column clear
  refine ⟨_, _, outcome_expand .., outcome_expand .., ?_⟩
  rw [keys_congr ids]
  refine List.forall₂_map_left_iff.mpr (List.forall₂_map_right_iff.mpr (alike.imp fun a b h => ?_))
  unfold expandBy
  split
  · exact unjoined a b h
  · exact joined _ a b h

variable {table : FieldTable} {fields : List Field}

include agree

/-- A shown field finds the same records unless it fetches something of a concealed column. -/
theorem recordsFor_of_omits (conceals : ∀ column ∈ columns, table.Conceals collection column)
    (hfield : field ∈ table.shown) (joins : field.join = some join)
    (omits : join.model = collection → ∀ column ∈ columns, join.Omits column) (keys : List Json) :
    recordsFor store join keys = recordsFor store' join keys := by
  rw [recordsFor, recordsFor]
  by_cases own : join.model = collection
  · have keyed : ∀ column ∈ columns, Row.Apart (Text.segments join.keyColumn) (Text.segments column) :=
      fun column h => (conceals column h).keyed field hfield join joins own
    rw [own, find_of_omits agree keyed (omits own)]
  · have found : store.find join.model (selection join keys) = store'.find join.model (selection join keys) :=
      MemoryStore.find_congr (congrArg (List.map id) (agree.others join.model own))
        (fun _ => rfl) (fun _ _ => rfl) fun doc => rfl
    rw [found]

/-- A shown field leaves rows alike. If its records may differ, it is alone in its place, and alike is what is read of
it. -/
theorem exists_expand_alike (conceals : ∀ column ∈ columns, table.Conceals collection column)
    (ordered : ∀ doc ∈ store.rows collection, (Json.obj doc).isOrdered = true)
    (ordered' : ∀ doc ∈ store'.rows collection, (Json.obj doc).isOrdered = true) (hfield : field ∈ table.shown)
    (joins : field.join = some join) (clear : Clears spent field) (alike : List.Forall₂ (AlikeBeside spent) rows rows') :
    ∃ spent' expanded expanded', (∀ f ∈ spent', f ∈ spent ∨ f = field ∧ table.Alone field) ∧
      outcome (expand store.toStore field join rows) = .ok expanded ∧
      outcome (expand store'.toStore field join rows') = .ok expanded' ∧
      List.Forall₂ (AlikeBeside spent') expanded expanded' := by
  by_cases fetches : join.model = collection ∧ ∃ column ∈ columns, ¬join.Omits column
  · obtain ⟨own, column, hcolumn, fetches⟩ := fetches
    have keyed : ∀ column ∈ columns, Row.Apart (Text.segments join.keyColumn) (Text.segments column) :=
      fun column h => (conceals column h).keyed field hfield join joins own
    have leaves : ∀ column ∈ columns, join.Omits column ∨ join.Excludes column ∧ table.Alone field :=
      fun column h => (conceals column h).joined field hfield join joins own
    have alone := ((leaves column hcolumn).resolve_left fetches).2
    have tells (keys : List Json) : TellsSame join (recordsFor store join keys) (recordsFor store' join keys) := by
      rw [recordsFor, recordsFor, own]
      exact tellsSame_find agree keyed ordered ordered' (fun c hc => (leaves c hc).imp_right And.left) keys
    refine ⟨field :: spent, ?_⟩
    obtain ⟨expanded, expanded', left, right, h⟩ := expand_alike store store' join alike clear
      (fun _ _ h => h.spend clear) fun keys a b h => h.expandRow_spent clear joins (tells keys)
    exact ⟨expanded, expanded', List.forall_mem_cons.mpr ⟨.inr ⟨rfl, alone⟩, fun f hf => .inl hf⟩, left, right, h⟩
  · have omits : join.model = collection → ∀ column ∈ columns, join.Omits column := by
      simpa only [not_and, not_exists, Classical.not_not] using fetches
    have records := recordsFor_of_omits agree conceals hfield joins omits
    refine ⟨spent, ?_⟩
    obtain ⟨expanded, expanded', left, right, h⟩ := expand_alike store store' join alike clear
      (fun _ _ h => h) fun keys a b h => records keys ▸ h.expandRow clear _
    exact ⟨expanded, expanded', fun f hf => .inl hf, left, right, h⟩

/-- Expanding shown fields of two lists of rows leaves them alike, beside fields that are alone in their places. -/
theorem expandAll_alike (conceals : ∀ column ∈ columns, table.Conceals collection column)
    (ordered : ∀ doc ∈ store.rows collection, (Json.obj doc).isOrdered = true)
    (ordered' : ∀ doc ∈ store'.rows collection, (Json.obj doc).isOrdered = true) (distinct : fields.Nodup)
    (shown : ∀ f ∈ fields, f ∈ table.shown) (alone : ∀ f ∈ spent, table.Alone f ∧ f ∉ fields)
    (alike : List.Forall₂ (AlikeBeside spent) rows rows') :
    ∃ spent' expanded expanded', (∀ f ∈ spent', table.Alone f) ∧
      outcome (expandAll store.toStore fields rows) = .ok expanded ∧
      outcome (expandAll store'.toStore fields rows') = .ok expanded' ∧
      List.Forall₂ (AlikeBeside spent') expanded expanded' := by
  induction fields generalizing spent rows rows' with
  | nil => exact ⟨spent, rows, rows', fun f hf => (alone f hf).1, rfl, rfl, alike⟩
  | cons field rest ih =>
    obtain ⟨fresh, distinct⟩ := List.nodup_cons.mp distinct
    obtain ⟨hfield, shown⟩ := List.forall_mem_cons.mp shown
    have before : ∀ f ∈ spent, table.Alone f ∧ f ≠ field ∧ f ∉ rest := by
      intro f hf
      obtain ⟨here, later⟩ := not_or.mp (mt List.mem_cons.mpr (alone f hf).2)
      exact ⟨(alone f hf).1, here, later⟩
    have clear : Clears spent field := by
      have apart : ∀ f ∈ spent, _ := fun f hf => (before f hf).1 field hfield (before f hf).2.1.symm
      exact ⟨fun f hf => (apart f hf).1, fun f hf => (apart f hf).2⟩
    unfold expandAll
    split
    · next join joins =>
      obtain ⟨middle, left, right, from_, hleft, hright, alike⟩ :=
        exists_expand_alike agree conceals ordered ordered' hfield joins clear alike
      have alone : ∀ f ∈ middle, table.Alone f ∧ f ∉ rest := by
        intro f hf
        rcases from_ f hf with hf | ⟨rfl, alone⟩
        · exact ⟨(before f hf).1, (before f hf).2.2⟩
        · exact ⟨alone, fresh⟩
      obtain ⟨spent', expanded, expanded', alone, hexpanded, hexpanded', alike⟩ := ih distinct shown alone alike
      exact ⟨spent', expanded, expanded', alone, outcome_bind_eq_ok.mpr ⟨left, hleft, hexpanded⟩,
        outcome_bind_eq_ok.mpr ⟨right, hright, hexpanded'⟩, alike⟩
    · exact ih distinct shown (fun f hf => ⟨(before f hf).1, (before f hf).2.2⟩) alike

end

end Join


/-! ## What is shown -/

namespace FieldTable

variable {table : FieldTable} {spent : List Field} {a b : Row}

/-- Of rows that are alike beside fields that are alone in their places, the same is shown. -/
theorem IsRead.renameRow_congr (read : table.IsRead) (alone : ∀ f ∈ spent, table.Alone f)
    (alike : Join.AlikeBeside spent a b) :
    table.projection.renameRow (some table) a = table.projection.renameRow (some table) b := by
  have shows : ∀ field ∈ table.shown, (a.lookup field.source).map field.reading = (b.lookup field.source).map field.reading := by
    intro field hfield
    by_cases own : field ∈ spent
    · exact alike.there field own
    · refine congrArg _ (alike.elsewhere _ fun f hf => ?_)
      exact (alone f hf field hfield fun same => own (same ▸ hf)).2
  rw [Projection.renameRow_eq, Projection.renameRow_eq]
  refine List.foldl_ext _ _ _ fun renamed pair hpair => ?_
  have found := (Keyed.get?_eq_some_iff (Keyed.Ascending.nodup_keys isKeyed_projection)).mpr hpair
  obtain ⟨field, hfield, named, -⟩ := read.column?_projection.mp found
  have known : table.get? pair.1 = some field := read.get?_eq_some_iff.mpr ⟨(mem_shown.mp hfield).1, named⟩
  have value (row : Row) : Projection.value? (some table) row pair.1 pair.2 = (row.lookup field.source).map field.reading := by
    rw [Projection.value?, Option.bind_some, known]
    rfl
  rw [Projection.put, Projection.put, value, value, shows field hfield]

end FieldTable

namespace CollectionGrid

variable {store store' : MemoryStore} {collection : String} {columns : List String} {table : FieldTable} {request : Request}

/-- Rows are told apart by nothing that a table grants if they differ in concealed columns only. -/
theorem sameGranted_eraseAll (conceals : ∀ column ∈ columns, table.Conceals collection column) (doc : Row) :
    QueryPlan.SameGranted table (Row.eraseAll columns doc) doc := fun f hf _ display grants =>
  Row.surface_lookup_eraseAll
    (fun column h => (conceals column h).tested f.2 (List.mem_map_of_mem hf) (Field.isTested_of_grants display grants)) doc

/-- The pages of a request without complaints from two stores that differ in concealed columns only: they have the same
pagination, and the same is shown of their rows. -/
theorem exists_pages_alike (read : table.IsRead) (quiet : (ofRequest collection table request).complaints = [])
    (agree : store.AgreeBut collection columns store') (conceals : ∀ column ∈ columns, table.Conceals collection column)
    (ordered : ∀ doc ∈ store.rows collection, (Json.obj doc).isOrdered = true)
    (ordered' : ∀ doc ∈ store'.rows collection, (Json.obj doc).isOrdered = true) :
    ∃ page page' : Page, outcome ((ofRequest collection table request).fetch store.toStore) = .ok page ∧
      outcome ((ofRequest collection table request).fetch store'.toStore) = .ok page' ∧
      page.rows.map (table.projection.renameRow (some table)) = page'.rows.map (table.projection.renameRow (some table)) ∧
      page.pagination = page'.pagination := by
  let grid := ofRequest collection table request
  have tableEq : grid.plan.table = table := QueryPlan.table_ofRequest table request
  have covers := QueryPlan.covers_of_complaints_eq_nil quiet
  have same := sameGranted_eraseAll conceals
  have sees : MemoryStore.SeesBy (Row.eraseAll columns) grid.plan.predicate := fun doc => covers.holds_congr (same doc)
  have sorts : MemoryStore.SortsBy (Row.eraseAll columns) grid.plan.sortKeys := fun a b =>
    covers.order_congr (same a) (same b)
  have counted : store.count grid.collection grid.plan.predicate = store'.count grid.collection grid.plan.predicate :=
    MemoryStore.count_congr agree.alike sees
  have found : store.find grid.collection grid.selection = store'.find grid.collection grid.selection := by
    refine MemoryStore.find_congr agree.alike sees sorts fun doc => Row.project_congr fun c hc => ?_
    have projected : c ∈ table.projection.columns := by
      simpa only [tableEq, QueryPlan.projection] using (mem_columns.mp hc).resolve_right List.not_mem_nil
    obtain ⟨name, hname⟩ := FieldTable.isKeyed_projection.mem_columns.mp projected
    obtain ⟨field, hfield, -, rfl⟩ := read.column?_projection.mp hname
    exact Row.lookup_eraseAll (fun column h => ((conceals column h).shown field hfield).symm) doc
  obtain ⟨rows, hrows⟩ : ∃ rows, (store.find grid.collection grid.selection).take grid.plan.pagination.limit = rows :=
    ⟨_, rfl⟩
  have hrows' : (store'.find grid.collection grid.selection).take grid.plan.pagination.limit = rows := found ▸ hrows
  have refl : List.Forall₂ (Join.AlikeBeside []) rows rows :=
    List.forall₂_same.mpr fun row _ => Join.AlikeBeside.refl row
  obtain ⟨spent, expanded, expanded', alone, left, right, alike⟩ :=
    Join.expandAll_alike agree conceals ordered ordered' (read.nodup_shown.1.of_map _) (fun _ h => h)
      (List.forall_mem_nil _) refl
  have fetched : outcome (grid.fetch store.toStore) = _ := outcome_fetch rfl quiet (by rw [tableEq, hrows]; exact left)
  have fetched' : outcome (grid.fetch store'.toStore) = _ := outcome_fetch rfl quiet (by rw [tableEq, hrows']; exact right)
  refine ⟨_, _, fetched, fetched', ?_, by rw [counted, found]⟩
  refine List.forall₂_eq_eq_eq ▸ List.forall₂_map_left_iff.mpr (List.forall₂_map_right_iff.mpr ?_)
  exact alike.imp fun a b h => read.renameRow_congr alone h

end CollectionGrid

namespace CompositeGrid

variable {definition : GridDefinition} {header body : Json} {grid : CompositeGrid}

/-- A grid without remotes is made of its collection alone. -/
theorem ofJson_of_alone (alone : definition.remotes = []) (hgrid : ofJson definition header body = .ok grid) :
    grid.phase = .init ∧ grid.remotes = [] ∧ ∃ request,
      grid.primary = CollectionGrid.ofRequest definition.collection definition.fields request := by
  rw [ofJson_eq_solitary alone, Outcome.map_eq_ok] at hgrid
  obtain ⟨request, -, rfl⟩ := hgrid
  exact ⟨rfl, rfl, request, rfl⟩

/-- A request with complaints is refused, whatever the store holds. -/
theorem outcome_fetch_of_complaints (fresh : grid.phase = .init) (bad : grid.complaints ≠ []) (store : Store Id)
    (caller : Caller Id) (version : String) :
    outcome (grid.fetch store caller version) = .error (.rejected grid.complaints) :=
  congrArg Id.run (run_fetch_of_complaints fresh bad store caller version)

/-- A grid without remotes runs by its collection alone. -/
theorem outcome_fetch_of_alone (fresh : grid.phase = .init) (alone : grid.remotes = []) (quiet : grid.complaints = [])
    (store : Store Id) (caller : Caller Id) (version : String) :
    outcome (grid.fetch store caller version) =
      (outcome (grid.primary.fetch store)).map fun page => grid.envelope version page.rows page.pagination :=
  congrArg Id.run (run_fetch_of_alone fresh alone quiet store caller version)

namespace People

/-- A description of people with some fields. -/
def description (fields : Row) : Json :=
  .obj [("collection", .str "people"), ("fields", .obj fields)]

/-- A field of which nothing is shown. -/
def unseen (column : String) : Json :=
  .obj [("databaseName", .str column), ("show", .bool false)]

/-- A field that holds ids of people, with some more of its join. -/
def person (entries : Row) : Json :=
  .obj [("join", .obj (entries ++ [("model", .str "people")]))]

/-- Ann, who is her own boss and deputy, with a salary and a number. -/
def store (salary number : String) : MemoryStore :=
  ⟨[("people", [[("boss", .str "p1"), ("deputy", .str "p1"), ("id", .str "p1"), ("name", .str "Ann"),
    ("profile", .obj [("number", .str number), ("town", .str "Oslo")]), ("salary", .str salary)]])]⟩

theorem agreeBut {columns : List String} {salary salary' number number' : String}
    (alike : ((store salary number).rows "people").map (Row.eraseAll columns) =
      ((store salary' number').rows "people").map (Row.eraseAll columns)) :
    (store salary number).AgreeBut "people" columns (store salary' number') where
  alike := alike
  others other distinct := by simp [MemoryStore.rows, store, Keyed.get?_cons, distinct.symm]

/-- Fields that conceal the salaries: one join excludes them, and another fetches names only. -/
def careful : Row :=
  [("boss", person [("exclude", Json.ofStrings ["salary"])]), ("deputy", person [("fields", Json.ofStrings ["name"])]),
    ("name", .obj [("search", .bool true), ("sort", .bool true)]), ("salary", unseen "salary")]

/-- Fields of which one shows whole records, and another an object with a hidden member. -/
def careless : Row :=
  [("boss", person []), ("number", unseen "profile.number"), ("profile", .obj []), ("salary", unseen "salary")]

/-- What a grid shows of a store. -/
def shown (grid : CompositeGrid) (store : MemoryStore) : Option (List Row) :=
  (outcome (grid.fetch store.toStore Orders.caller "1")).toOption.map (·.content)

end People

end CompositeGrid

end DataGrid
