-- SUMMARY: What merging the records of a remote does to one path of a row.
import DataGrid.Proofs.CollectionGrid
import DataGrid.Proofs.Path
import DataGrid.Proofs.RemoteGrid

/-!
# Merging records

A record that is merged is written under the names of shown parameters, so it
leaves alone every path apart from these names. A list of records is gathered into
lists under the first keys of the names, which stand in the way of all paths below.
-/

namespace DataGrid

namespace Row

theorem apart_of_head?_ne {a b : List String} (ha : a ≠ []) (hb : b ≠ []) (h : a.head? ≠ b.head?) : Apart a b := by
  obtain ⟨key, a, rfl⟩ := List.exists_cons_of_ne_nil ha
  obtain ⟨key', b, rfl⟩ := List.exists_cons_of_ne_nil hb
  exact apart_cons_iff.mpr (.inl fun same => h (congrArg some same))

/-- A path is clear of a name in rows that join at a column: its first key is another one; or neither path leads
through the other, and the path stands below the column, where a row that joins by a list holds nothing. -/
def Clear (join path name : List String) : Prop :=
  path.head? ≠ name.head? ∨ Apart name path ∧ join <+: path ∧ join ≠ path

instance (join path name : List String) : Decidable (Clear join path name) :=
  inferInstanceAs (Decidable (_ ∨ _))

theorem Clear.apart {join path name : List String} (h : Clear join path name) (hpath : path ≠ []) (hname : name ≠ []) :
    Apart name path := by
  rcases h with other | ⟨apart, -⟩
  · exact apart_of_head?_ne hname hpath (Ne.symm other)
  · exact apart

end Row


/-! ## Gathered lists -/

namespace MergeData

theorem get?_push (gathered : Row) (name : String) (value : Json) (key : String) :
    (∃ items, Keyed.get? (push gathered name value) key = some (.arr items) ∧ key = name) ∨
      Keyed.get? (push gathered name value) key = Keyed.get? gathered key := by
  have inserted (items : List Json) :
      (∃ items', Keyed.get? (Keyed.insert gathered name (.arr items)) key = some (.arr items') ∧ key = name) ∨
        Keyed.get? (Keyed.insert gathered name (.arr items)) key = Keyed.get? gathered key := by
    by_cases same : name = key
    · subst same
      exact .inl ⟨items, Keyed.get?_insert_self .., rfl⟩
    · exact .inr (Keyed.get?_insert_of_ne same ..)
  unfold push
  split
  · exact inserted _
  · exact inserted _

theorem ascending_push {gathered : Row} (h : gathered.Ascending) (name : String) (value : Json) :
    (push gathered name value).Ascending := by
  unfold push
  split <;> exact h.insert ..

/-- What some records are gathered into: lists under their keys. -/
structure IsGathered (records : List Row) (gathered : Row) : Prop where
  ascending : gathered.Ascending
  lists : ∀ key value, Keyed.get? gathered key = some value → ∃ items, value = .arr items
  keys : ∀ key value, Keyed.get? gathered key = some value → ∃ record ∈ records, key ∈ Keyed.keys record

theorem isGathered_gather (records : List Row) : IsGathered records (gather records) := by
  have empty : IsGathered records [] := ⟨Keyed.ascending_nil, nofun, nofun⟩
  refine List.foldlRecOn records _ empty fun gathered hgathered record hrecord => ?_
  refine List.foldlRecOn record _ hgathered fun gathered hgathered (name, value) hmember => ?_
  refine ⟨ascending_push hgathered.ascending name value, fun key found hfound => ?_, fun key found hfound => ?_⟩
  · rcases get?_push gathered name value key with ⟨items, pushed, -⟩ | kept
    · exact ⟨items, Option.some.inj (hfound.symm.trans pushed)⟩
    · exact hgathered.lists key found (kept ▸ hfound)
  · rcases get?_push gathered name value key with ⟨-, -, rfl⟩ | kept
    · exact ⟨record, hrecord, Keyed.mem_keys_of_mem hmember⟩
    · exact hgathered.keys key found (kept ▸ hfound)

/-! ## Merged rows -/

theorem mem_values_of_find? {data : MergeData} {value : Json} {record : Row} (h : data.find? value = some record) :
    record ∈ Keyed.values data :=
  List.mem_map_of_mem (Keyed.mem_of_get?_eq_some h)

/-- What a row is merged with that holds something at the column by which it joins. -/
def brought (data : MergeData) : Option Json → Row
  | some (.arr items) => gather (items.filterMap data.find?)
  | some .null | none => []
  | some value => (data.find? value).getD []

theorem brought_of_single {data : MergeData} {value : Json} (single : ∀ items, value ≠ .arr items) (real : value ≠ .null) :
    data.brought (some value) = (data.find? value).getD [] := by
  rw [brought]
  · exact single
  · exact real

theorem mergeRow_eq (data : MergeData) (join : String) (row : Row) :
    mergeRow data join row = Row.mergeInto (data.brought (row.lookup join)) row := by
  unfold mergeRow
  split
  · next items joins => rw [joins]; rfl
  · next joins => rw [joins]; rfl
  · next joins => rw [joins]; rfl
  · next value single real joins =>
    rw [joins, brought_of_single single real]
    cases data.find? value <;> rfl

/-- A row is merged with keys of records only. -/
theorem exists_record_of_mem_brought {data : MergeData} {held : Option Json} {key : String}
    (h : key ∈ Keyed.keys (data.brought held)) : ∃ record ∈ Keyed.values data, key ∈ Keyed.keys record := by
  unfold brought at h
  split at h
  · next items =>
    obtain ⟨value, found⟩ := Keyed.mem_keys_iff.mp h
    obtain ⟨record, hrecord, hkey⟩ := (isGathered_gather _).keys key value found
    obtain ⟨item, -, hrecord⟩ := List.mem_filterMap.mp hrecord
    exact ⟨record, mem_values_of_find? hrecord, hkey⟩
  · cases h
  · cases h
  · next value _ _ =>
    cases found : data.find? value with
    | none =>
      rw [found] at h
      cases h
    | some record =>
      rw [found] at h
      exact ⟨record, mem_values_of_find? found, h⟩

/-- What a row is merged with leaves alone a path that all records leave alone. If the row joins by a list, they must
leave alone its first key too. -/
theorem spares_brought {data : MergeData} {held : Option Json} {key : String} {rest : List String}
    (alone : ∀ record ∈ Keyed.values data, Row.Spares record (key :: rest))
    (first : (∃ items, held = some (.arr items)) → ∀ record ∈ Keyed.values data, Row.Spares record [key]) :
    Row.Spares (data.brought held) (key :: rest) := by
  have nothing : Row.Spares [] (key :: rest) := Row.spares_empty (by simp)
  unfold brought
  split
  · next items =>
    refine ⟨(isGathered_gather _).ascending, fun value found => ?_⟩
    have brings : key ∈ Keyed.keys (data.brought (some (.arr items))) := Keyed.mem_keys_iff.mpr ⟨value, found⟩
    obtain ⟨record, hrecord, hkey⟩ := exists_record_of_mem_brought brings
    have absent : Keyed.get? record key = none := (first ⟨items, rfl⟩ record hrecord).at?_eq_none
    exact absurd hkey (Keyed.get?_eq_none_iff.mp absent)
  · exact nothing
  · exact nothing
  · next value _ _ =>
    cases found : data.find? value with
    | none => exact nothing
    | some record => exact alone record (mem_values_of_find? found)

/-- A row that joins by a list holds nothing below the column, and the lists that it is merged with bring in nothing there. -/
theorem at?_mergeRow_below {data : MergeData} {join : String} {row : Row} {items : List Json}
    (joins : row.lookup join = some (.arr items)) {path : List String} (below : Text.segments join <+: path)
    (proper : Text.segments join ≠ path) : Row.at? (mergeRow data join row) path = Row.at? row path := by
  have hjoin := Text.segments_ne_nil join
  obtain ⟨under, rfl⟩ := below
  have hunder : under ≠ [] := fun none => proper (by rw [none, List.append_nil])
  have before : Row.at? row (Text.segments join ++ under) = none := by
    rw [Row.at?_append row hjoin hunder, show Row.at? row (Text.segments join) = _ from joins]
    exact Row.at?_empty under
  obtain ⟨key, rest, hpath⟩ := List.exists_cons_of_ne_nil (List.append_ne_nil_of_left_ne_nil hjoin under)
  have hrest : rest ≠ [] := by
    rintro rfl
    rcases List.append_eq_singleton_iff.mp hpath with ⟨none, -⟩ | ⟨-, none⟩
    · exact hjoin none
    · exact hunder none
  have gathered := isGathered_gather (items.filterMap data.find?)
  rw [hpath] at before ⊢
  rw [before, mergeRow_eq, joins, brought, Row.at?_cons _ key hrest, Row.get?_mergeInto gathered.ascending.nodup_keys]
  rw [Row.at?_cons row key hrest] at before
  cases found : Keyed.get? (gather (items.filterMap data.find?)) key with
  | none => exact before
  | some value =>
    obtain ⟨list, rfl⟩ := gathered.lists key value found
    exact Row.at?_empty rest

/-- Merging keeps a path that all records leave alone. Where a row joins by a list, they must leave alone its first
key too, unless the path stands below the column that joins. -/
theorem at?_mergeRow {data : MergeData} {join : String} {key : String} {rest : List String}
    (alone : ∀ record ∈ Keyed.values data, Row.Spares record (key :: rest))
    (listed : (Text.segments join <+: key :: rest ∧ Text.segments join ≠ key :: rest) ∨
      ∀ record ∈ Keyed.values data, Row.Spares record [key]) (row : Row) :
    Row.at? (mergeRow data join row) (key :: rest) = Row.at? row (key :: rest) := by
  by_cases list : ∃ items, row.lookup join = some (.arr items)
  · rcases listed with ⟨below, proper⟩ | first
    · obtain ⟨items, joins⟩ := list
      exact at?_mergeRow_below joins below proper
    · rw [mergeRow_eq]
      exact (spares_brought alone fun _ => first).at?_mergeInto row
  · rw [mergeRow_eq]
    exact (spares_brought alone fun joins => absurd joins list).at?_mergeInto row

/-! ### Sharpness -/

/-- The data of one record, which joins by the empty text and has one value. -/
def single (name : String) (value : Json) : MergeData :=
  [("", Row.insert [] name value)]

/-- A row that joins by a value receives the record. -/
theorem mergeRow_single_of_str {join : String} {row : Row} (h : row.lookup join = some (.str "")) (name : String)
    (value : Json) : mergeRow (single name value) join row = Row.mergeInto (Row.insert [] name value) row := by
  rw [mergeRow_eq, h]
  rfl

/-- A record of one value has one key, the first one of its name. -/
theorem exists_insert_eq {name key : String} (first : (Text.segments name).head? = some key) (value : Json) :
    ∃ member, Row.insert [] name value = [(key, member)] := by
  obtain ⟨rest, hname⟩ := List.head?_eq_some_iff.mp first
  rw [Row.insert, hname, Row.insertAt_eq]
  exact ⟨_, rfl⟩

/-- A row that joins by a list receives a list under the first key of the name. -/
theorem get?_mergeRow_single_of_arr {join : String} {row : Row} (h : row.lookup join = some (.arr [.str ""]))
    {name key : String} (first : (Text.segments name).head? = some key) (value : Json) :
    ∃ items, Keyed.get? (mergeRow (single name value) join row) key = some (.arr items) := by
  obtain ⟨member, hmember⟩ := exists_insert_eq first value
  have merged : mergeRow (single name value) join row = Row.mergeInto [(key, .arr [member])] row := by
    rw [mergeRow_eq, h, single, hmember]
    rfl
  exact ⟨[member], by rw [merged]; exact Keyed.get?_insert_self ..⟩

/-- Some truth value is not what a path of a row holds. -/
private theorem exists_bool_ne (held : Option Json) : ∃ b, held ≠ some (.bool b) := by
  by_cases yes : held = some (.bool true)
  · exact ⟨false, by rw [yes]; simp⟩
  · exact ⟨true, yes⟩

/-- A record of one value can hold a truth value at any path that leads on from its name. -/
private theorem exists_reaching {name source : String} (above : Text.segments name <+: Text.segments source) (b : Bool) :
    ∃ value : Json, value.isOrdered = true ∧ (Row.insert [] name value).lookup source = some (.bool b) := by
  have hname := Text.segments_ne_nil name
  obtain ⟨rest, hpath⟩ := above
  unfold Row.lookup
  rw [← hpath]
  by_cases last : rest = []
  · refine ⟨.bool b, rfl, ?_⟩
    rw [last, List.append_nil]
    exact Row.at?_insertAt_self [] hname _
  · refine ⟨.obj (Row.insertAt [] rest (.bool b)), Row.isOrdered_insertAt rfl rfl rest, ?_⟩
    rw [Row.at?_append _ hname last, Row.insert, Row.at?_insertAt_self [] hname]
    exact Row.at?_insertAt_self [] last _

/-- Where one path leads on from the other, merging one value over the other path is seen. -/
private theorem exists_changed_of_not_apart (join : String) {source name : String}
    (h : ¬Row.Apart (Text.segments name) (Text.segments source)) :
    ∃ value row, (mergeRow (single name value) join row).lookup source ≠ row.lookup source := by
  have joins : (Row.insert [] join (.str "")).lookup join = some (.str "") := Row.lookup_insert_self [] join _
  -- A truth value that is new at the longer of the two paths arrives there.
  have arrives {column : String} {value : Json} {b : Bool} (hvalue : value.isOrdered = true)
      (written : (Row.insert [] name value).lookup column = some (.bool b)) :
      (mergeRow (single name value) join (Row.insert [] join (.str ""))).lookup column = some (.bool b) := by
    rw [mergeRow_single_of_str joins]
    exact Row.at?_mergeInto (Row.isOrdered_insertAt rfl hvalue _) written _
  rcases Row.not_apart_iff.mp h with above | ⟨rest, hpath⟩
  · obtain ⟨b, fresh⟩ := exists_bool_ne ((Row.insert [] join (.str "")).lookup source)
    obtain ⟨value, hvalue, written⟩ := exists_reaching above b
    exact ⟨value, _, fun same => fresh (same.symm.trans (arrives hvalue written))⟩
  · obtain ⟨b, fresh⟩ := exists_bool_ne ((Row.insert [] join (.str "")).lookup name)
    refine ⟨.bool b, Row.insert [] join (.str ""), fun same => fresh ?_⟩
    have arrived := arrives rfl (Row.lookup_insert_self [] name (.bool b))
    rw [← arrived, Row.lookup, Row.lookup, ← hpath]
    exact Row.at?_append_congr (Text.segments_ne_nil source) same.symm rest

/-- Some row joins by a list and holds something at a path that does not stand below the column. -/
private theorem exists_row_joining_list {join source : String}
    (h : ¬(Text.segments join <+: Text.segments source ∧ Text.segments join ≠ Text.segments source)) :
    ∃ row : Row, row.lookup join = some (.arr [.str ""]) ∧ row.lookup source ≠ none := by
  have hjoin := Text.segments_ne_nil join
  have hsource := Text.segments_ne_nil source
  by_cases same : Text.segments source = Text.segments join
  · have held := Row.at?_insertAt_self [] hjoin (.arr [.str ""])
    exact ⟨_, held, by rw [Row.lookup, same, held]; nofun⟩
  by_cases above : Text.segments source <+: Text.segments join
  · obtain ⟨rest, hpath⟩ := above
    have below : rest ≠ [] := by
      rintro rfl
      exact same (by rw [← hpath, List.append_nil])
    refine ⟨_, Row.at?_insertAt_self [] hjoin (.arr [.str ""]), ?_⟩
    rw [Row.lookup, ← hpath, Row.at?_insertAt_append [] hsource below]
    nofun
  · have apart : Row.Apart (Text.segments source) (Text.segments join) :=
      ⟨above, fun below => h ⟨below, Ne.symm same⟩⟩
    refine ⟨Row.insertAt (Row.insertAt [] (Text.segments join) (.arr [.str ""])) (Text.segments source) .null, ?_, ?_⟩
    · rw [Row.lookup, Row.at?_insertAt_of_apart _ apart]
      exact Row.at?_insertAt_self [] hjoin _
    · rw [Row.lookup, Row.at?_insertAt_self _ hsource]
      nofun

/-- A path is clear of a name exactly if no record of that name changes what any row holds at the path. -/
theorem clear_iff {join source name : String} :
    Row.Clear (Text.segments join) (Text.segments source) (Text.segments name) ↔
      ∀ value row, (mergeRow (single name value) join row).lookup source = row.lookup source := by
  obtain ⟨key, rest, hsource⟩ := List.exists_cons_of_ne_nil (Text.segments_ne_nil source)
  have hname := Text.segments_ne_nil name
  constructor
  · intro clear value row
    have spares {path : List String} (apart : Row.Apart (Text.segments name) path) :
        ∀ record ∈ Keyed.values (single name value), Row.Spares record path := by
      intro record hrecord
      obtain rfl := List.mem_singleton.mp hrecord
      exact (Row.spares_empty apart.symm.ne_nil).insertAt apart value
    rw [Row.lookup, Row.lookup, hsource]
    rw [hsource] at clear
    refine at?_mergeRow (spares (clear.apart (by simp) hname)) ?_ row
    rcases clear with other | ⟨-, below⟩
    · exact .inr (spares (Row.apart_of_head?_ne hname (by simp) (Ne.symm other)))
    · exact .inl below
  · intro unchanged
    by_contra clouded
    obtain ⟨sameKey, reached⟩ := not_or.mp clouded
    by_cases apart : Row.Apart (Text.segments name) (Text.segments source)
    · obtain ⟨row, joins, held⟩ := exists_row_joining_list fun below => reached ⟨apart, below⟩
      have first : (Text.segments name).head? = some key := by
        rw [← Classical.not_not.mp sameKey, hsource, List.head?_cons]
      obtain ⟨items, hlist⟩ := get?_mergeRow_single_of_arr joins first .null
      refine held ((unchanged .null row).symm.trans ?_)
      have below : rest ≠ [] := by
        rintro rfl
        obtain ⟨tail, hname⟩ := List.head?_eq_some_iff.mp first
        exact apart.2 (by rw [hsource, hname]; exact ⟨tail, rfl⟩)
      rw [Row.lookup, hsource, Row.at?_cons _ key below, hlist]
      exact Row.at?_empty rest
    · obtain ⟨value, row, changed⟩ := exists_changed_of_not_apart join apart
      exact changed (unchanged value row)

end MergeData


/-! ## Records of a remote -/

namespace RemoteGrid

variable {remote : RemoteGrid}

/-- Write a field of a record under its public name, if it is there. -/
def publish (record renamed : Row) (field : Field) : Row :=
  match record.lookup field.column with
  | some value => Row.insert renamed field.name value
  | none => renamed

theorem rename_eq (remote : RemoteGrid) (record : Row) : remote.rename record = remote.table.shown.foldl (publish record) [] :=
  rfl

/-- What holds of a row, and stays when a field that a record has is written under its name, holds after the record has been
published. -/
theorem publish_induction {p : Row → Prop} {record start : Row} {fields : List Field} (empty : p start)
    (step : ∀ field ∈ fields, ∀ value, record.lookup field.column = some value →
      ∀ renamed, p renamed → p (Row.insert renamed field.name value)) :
    p (fields.foldl (publish record) start) := by
  refine List.foldlRecOn fields _ empty fun renamed holds field hfield => ?_
  unfold publish
  split
  · next value found => exact step field hfield value found renamed holds
  · exact holds

/-- A renamed record leaves alone what is apart from the names of all shown fields. -/
theorem spares_rename {path : List String} (hpath : path ≠ [])
    (apart : ∀ field ∈ remote.table.shown, Row.Apart (Text.segments field.name) path) (record : Row) :
    Row.Spares (remote.rename record) path := by
  rw [rename_eq]
  exact publish_induction (p := fun renamed => Row.Spares renamed path) (Row.spares_empty hpath)
    fun field hfield _ _ _ spares => spares.insertAt (apart field hfield) _

/-- The records that some rows are merged from: those at hand if they cover the values by which the rows join, or else
those fetched for these values. -/
def Serves (caller : Caller Id) (remote : RemoteGrid) (rows records : List Row) : Prop :=
  match remote.covering? ((Join.keys rows remote.definition.primaryKey).map Json.keyText) with
  | some held => records = held
  | none => remote.Brings caller (remote.mergeRequest (Join.keys rows remote.definition.primaryKey)) records

/-- What a remote provides to merge: nothing for rows that join by no value, or else the renamed records that serve. -/
theorem mergeData_eq_ok {caller : Caller Id} {rows : List Row} {data : MergeData} :
    outcome (remote.mergeData caller rows) = .ok data ↔
      (Join.keys rows remote.definition.primaryKey = [] ∧ data = []) ∨
        (Join.keys rows remote.definition.primaryKey ≠ [] ∧ ∃ records, remote.Serves caller rows records ∧
          data = remote.mergeDataOf ((Join.keys rows remote.definition.primaryKey).map Json.keyText) records) := by
  unfold mergeData Serves
  split
  · next none =>
    rw [outcome_pure, Except.ok.injEq]
    exact ⟨fun same => .inl ⟨none, same.symm⟩, fun h => (h.resolve_right fun some => some.1 none).2.symm⟩
  · next some =>
    dsimp only
    cases remote.covering? ((Join.keys rows remote.definition.primaryKey).map Json.keyText) with
    | some held =>
      dsimp only
      rw [outcome_pure, Except.ok.injEq]
      constructor
      · rintro rfl
        exact .inr ⟨some, _, rfl, rfl⟩
      · intro h
        obtain ⟨-, _, rfl, rfl⟩ := h.resolve_left fun none => some none.1
        rfl
    | none =>
      simp only [outcome_bind_eq_ok, call_eq_ok, outcome_pure, Except.ok.injEq]
      constructor
      · rintro ⟨records, hrecords, rfl⟩
        exact .inr ⟨some, records, hrecords, rfl⟩
      · intro h
        obtain ⟨-, records, hrecords, rfl⟩ := h.resolve_left fun none => some none.1
        exact ⟨records, hrecords, rfl⟩

/-- Take a record into merge data, if it is wanted. -/
def takeIn (remote : RemoteGrid) (wanted : List String) (data : MergeData) (record : Row) : MergeData :=
  match record.lookup remote.definition.foreignKey with
  | some value =>
    if wanted.contains value.keyText then Keyed.insert data value.keyText (remote.rename record) else data
  | none => data

theorem mergeDataOf_eq (remote : RemoteGrid) (wanted : List String) (records : List Row) :
    remote.mergeDataOf wanted records = records.foldl (remote.takeIn wanted) [] := rfl

/-- The key text by which a record joins. -/
def keyOf? (remote : RemoteGrid) (record : Row) : Option String :=
  (record.lookup remote.definition.foreignKey).map Json.keyText

theorem heldKeys_eq (remote : RemoteGrid) (records : List Row) :
    remote.heldKeys records = records.filterMap remote.keyOf? := rfl

theorem takeIn_eq (remote : RemoteGrid) (wanted : List String) (data : MergeData) (record : Row) :
    remote.takeIn wanted data record =
      match remote.keyOf? record with
      | some key => if key ∈ wanted then Keyed.insert data key (remote.rename record) else data
      | none => data := by
  unfold takeIn keyOf?
  cases record.lookup remote.definition.foreignKey <;> simp

theorem get?_takeIn (wanted : List String) (data : MergeData) (record : Row) (key : String) :
    Keyed.get? (remote.takeIn wanted data record) key =
      if key ∈ wanted ∧ remote.keyOf? record = some key then some (remote.rename record) else Keyed.get? data key := by
  rw [takeIn_eq]
  cases remote.keyOf? record with
  | none => simp
  | some own =>
    dsimp only
    by_cases same : own = key
    · subst same
      by_cases hwanted : own ∈ wanted <;> simp [hwanted]
    · have other : ¬(key ∈ wanted ∧ some own = some key) := fun h => same (Option.some.inj h.2)
      rw [if_neg other]
      split
      · exact Keyed.get?_insert_of_ne same ..
      · rfl

theorem ascending_mergeDataOf (remote : RemoteGrid) (wanted : List String) (records : List Row) :
    (remote.mergeDataOf wanted records).Ascending := by
  rw [mergeDataOf_eq]
  refine List.foldlRecOn records _ Keyed.ascending_nil fun data ascending record _ => ?_
  rw [takeIn_eq]
  split
  · split
    · exact ascending.insert ..
    · exact ascending
  · exact ascending

/-- Under a wanted key text the last record of that key text is found, under its public names. -/
theorem get?_mergeDataOf (wanted : List String) (records : List Row) (key : String) :
    Keyed.get? (remote.mergeDataOf wanted records) key =
      if key ∈ wanted then (records.reverse.find? fun record => remote.keyOf? record = some key).map remote.rename
      else none := by
  rw [mergeDataOf_eq]
  induction records using List.reverseRecOn with
  | nil => simp
  | append_singleton records record ih =>
    rw [List.foldl_append, List.foldl_cons, List.foldl_nil, get?_takeIn, ih, List.reverse_append,
      List.reverse_singleton, List.singleton_append, List.find?_cons]
    by_cases hwanted : key ∈ wanted <;> by_cases own : remote.keyOf? record = some key <;> simp [hwanted, own]

/-- Merge data holds renamed records. -/
theorem exists_record_of_mergeData {caller : Caller Id} {rows : List Row} {data : MergeData}
    (h : outcome (remote.mergeData caller rows) = .ok data) {renamed : Row} (hrenamed : renamed ∈ Keyed.values data) :
    ∃ record, renamed = remote.rename record := by
  obtain ⟨entry, hentry, rfl⟩ := List.mem_map.mp hrenamed
  rcases mergeData_eq_ok.mp h with ⟨-, rfl⟩ | ⟨-, records, -, rfl⟩
  · cases hentry
  have held := (Keyed.get?_eq_some_iff (remote.ascending_mergeDataOf _ records).nodup_keys).mpr hentry
  rw [get?_mergeDataOf] at held
  split at held
  · obtain ⟨record, -, renamed⟩ := Option.map_eq_some_iff.mp held
    exact ⟨record, renamed.symm⟩
  · cases held

/-- Merging the records of a remote keeps every path that is clear of the names of its shown fields. -/
theorem at?_mergeRow {caller : Caller Id} {rows : List Row} {data : MergeData} {path : List String} (hpath : path ≠ [])
    (h : outcome (remote.mergeData caller rows) = .ok data)
    (clear : ∀ field ∈ remote.table.shown,
      Row.Clear (Text.segments remote.definition.primaryKey) path (Text.segments field.name)) (row : Row) :
    Row.at? (data.mergeRow remote.definition.primaryKey row) path = Row.at? row path := by
  obtain ⟨key, rest, rfl⟩ := List.exists_cons_of_ne_nil hpath
  refine MergeData.at?_mergeRow (fun renamed hrenamed => ?_) ?_ row
  · obtain ⟨record, rfl⟩ := exists_record_of_mergeData h hrenamed
    exact spares_rename hpath (fun field hfield => (clear field hfield).apart hpath (Text.segments_ne_nil _)) record
  · by_cases below : Text.segments remote.definition.primaryKey <+: key :: rest ∧
        Text.segments remote.definition.primaryKey ≠ key :: rest
    · exact .inl below
    · refine .inr fun renamed hrenamed => ?_
      obtain ⟨record, rfl⟩ := exists_record_of_mergeData h hrenamed
      refine spares_rename (by simp) (fun field hfield => ?_) record
      have other := (clear field hfield).resolve_right fun clear => below clear.2
      exact Row.apart_of_head?_ne (Text.segments_ne_nil _) (by simp) (Ne.symm other)

end RemoteGrid

end DataGrid
