-- SUMMARY: Descriptions of remotes are read back as they were written.
import DataGrid.Proofs.GridDefinition

/-!
# Reading what is written

A written record has each of its members once, and leaves out what is not given. Reading it
goes from state to state, one entry at a time, and ends with the record that was written:
an entry that is left out is not given in the state to begin with.
-/

namespace DataGrid

/-! ## Maps and lists -/

namespace Keyed

/-- A keyed list is what putting its entries one after the other makes. -/
theorem Ascending.ofList_eq {α : Type} {entries : Keyed α} (h : entries.Ascending) : ofList entries = entries := by
  refine Ascending.ext (ascending_ofList entries) h fun key => ?_
  rw [ofList, get?_foldl_insert h.nodup_keys, get?_nil, Option.or_none]

end Keyed

namespace Decode

/-- What is written of a value is read back as the value. -/
def ReadsBack {β : Type} (decode : Json → Decoded β) (encode : β → Json) : Prop :=
  ∀ b, decode (encode b) = .ok b

theorem readsBack_string : ReadsBack string .str := fun _ => rfl

theorem readsBack_bool : ReadsBack bool .bool := fun _ => rfl

theorem readsBack_strings : ReadsBack (list string) Json.ofStrings := by
  intro texts
  refine Outcome.mapM_eq_ok.mpr ?_
  rw [List.forall₂_map_left_iff]
  exact List.forall₂_same.mpr fun _ _ => rfl

theorem count_ofNat {n : Nat} (h : n ≤ Number.greatestInt) : count (.ofNat n) = .ok n := by
  have range : (0 : Int) ≤ (n : Int) ∧ (n : Int) ≤ Number.greatestInt := by omega
  exact if_pos range

theorem map_mapValues {β : Type} {decode : Json → Decoded β} {encode : β → Json} (law : ReadsBack decode encode)
    {entries : Keyed β} (keyed : entries.Ascending) : map decode (.obj (Keyed.mapValues encode entries)) = .ok entries := by
  suffices ∀ start : Keyed β,
      (Keyed.mapValues encode entries).foldlM (fun decoded (e : String × Json) =>
        (decode e.2).map (Keyed.insert decoded e.1)) start =
      .ok (entries.foldl (fun decoded e => Keyed.insert decoded e.1 e.2) start) by
    exact (this []).trans (congrArg _ keyed.ofList_eq)
  clear keyed
  induction entries with
  | nil => exact fun _ => rfl
  | cons e rest ih =>
    intro start
    rw [Keyed.mapValues, List.map_cons, List.foldlM_cons, law]
    exact ih _


/-! ## Records -/

section

variable {α : Type} (names : List String) (read : α → String → Json → Decoded α)

/-- Read one member, if it has one of the names. -/
def readEntry (state : α) (entry : String × Json) : Decoded α :=
  if entry.1 ∈ names then read state entry.1 entry.2 else .ok state

/-- Reading some members one after the other goes from one state to another, and the members have some of the names
in `written`, in that order. -/
structure Leads (written : List String) (entries : Row) (state next : α) : Prop where
  keys : (Keyed.keys entries).Sublist written
  reads : entries.foldlM (readEntry names read) state = .ok next

variable {names : List String} {read : α → String → Json → Decoded α} {state next final : α}

variable (names read) in
theorem leads_nil (state : α) : Leads names read [] [] state state :=
  ⟨List.Sublist.refl _, rfl⟩

/-- One more entry is read into its place. -/
theorem Leads.member {written : List String} {entries : Row} (h : Leads names read written entries state next)
    (name : String) {β : Type} {decode : Json → Decoded β} {found : Json} {b : β} (law : decode found = .ok b)
    (named : name ∈ names) (put : α → β → α) (reads : ∀ found, read next name found = (decode found).map (put next)) :
    Leads names read (written ++ [name]) (entries ++ [(name, found)]) state (put next b) where
  keys := by
    rw [Keyed.keys, List.map_append]
    exact h.keys.append (List.Sublist.refl _)
  reads := by
    rw [List.foldlM_append, h.reads]
    change [(name, found)].foldlM (readEntry names read) next = .ok (put next b)
    rw [List.foldlM_cons, readEntry, if_pos named, reads, law]
    rfl

/-- An entry that is left out leaves the state. -/
theorem Leads.skip {written : List String} {entries : Row} (h : Leads names read written entries state next)
    (name : String) : Leads names read (written ++ [name]) (entries ++ Json.given name none) state next where
  keys := by
    rw [Json.given, List.append_nil]
    exact h.keys.trans (List.sublist_append_left _ _)
  reads := by
    rw [Json.given, List.append_nil]
    exact h.reads

/-- An optional entry is read into its place, where nothing is to begin with. -/
theorem Leads.optional {written : List String} {entries : Row} (h : Leads names read written entries state next)
    (name : String) {β : Type} {decode : Json → Decoded β} {encode : β → Json} (law : ReadsBack decode encode)
    (real : ∀ b, encode b ≠ .null) (named : name ∈ names) (put : α → Option β → α)
    (reads : ∀ found, read next name found = (Decode.optional decode found).map (put next)) (start : put next none = next)
    (value : Option β) :
    Leads names read (written ++ [name]) (entries ++ Json.given name (value.map encode)) state (put next value) := by
  cases value with
  | none =>
    rw [start]
    exact h.skip name
  | some b =>
    have given : Decode.optional decode (encode b) = .ok (some b) := by
      unfold Decode.optional
      split
      · next null => exact absurd null (real b)
      · rw [law]
        rfl
    exact h.member name given named put reads

/-- A list of texts is left out when it is empty, and its place has no text to begin with. -/
theorem Leads.texts {written : List String} {entries : Row} (h : Leads names read written entries state next)
    (name : String) (named : name ∈ names) (put : α → List String → α)
    (reads : ∀ found, read next name found = (list string found).map (put next)) (start : put next [] = next)
    (texts : List String) :
    Leads names read (written ++ [name])
      (entries ++ Json.given name (if texts.isEmpty then none else some (Json.ofStrings texts))) state (put next texts) := by
  cases texts with
  | nil =>
    rw [start]
    exact h.skip name
  | cons first rest => exact h.member name (readsBack_strings (first :: rest)) named put reads

/-- Members with distinct names are read one after the other: none of them is refused as a repeated one. -/
theorem members_eq_ok {entries : Row} (distinct : (Keyed.keys entries).Nodup)
    (h : entries.foldlM (readEntry names read) state = .ok final) {seen : List String}
    (fresh : ∀ name ∈ Keyed.keys entries, name ∉ seen) : members names read seen state entries = .ok final := by
  induction entries generalizing state seen with
  | nil => exact h
  | cons e rest ih =>
    obtain ⟨name, found⟩ := e
    obtain ⟨new, distinct⟩ := List.nodup_cons.mp distinct
    obtain ⟨unseen, fresh⟩ := List.forall_mem_cons.mp fresh
    rw [List.foldlM_cons, Outcome.bind_eq_ok] at h
    obtain ⟨next, first, h⟩ := h
    unfold members
    unfold readEntry at first
    split
    · next named =>
      rw [if_pos named] at first
      rw [first]
      refine ih distinct h fun other hother => ?_
      exact List.not_mem_cons_of_ne_of_not_mem (fun same => new (same ▸ hother)) (fresh other hother)
    · next unnamed =>
      rw [if_neg unnamed] at first
      obtain rfl := Except.ok.inj first
      exact ih distinct h fresh

theorem Leads.record_eq_ok {written : List String} {entries : Row} (h : Leads names read written entries state final)
    (distinct : written.Nodup) (kind : RecordKind) (required : Nat) :
    record kind names required read state (.obj entries) = .ok final :=
  members_eq_ok (distinct.sublist h.keys) h.reads (by simp)

end


/-! ## Records as lists -/

/-- Items are read as the members that have them under the names in their order. -/
theorem items_eq_members {α : Type} {names rest : List String} {read : α → String → Json → Decoded α}
    (known : ∀ name ∈ rest, name ∈ names) (distinct : rest.Nodup) {seen : List String}
    (fresh : ∀ name ∈ rest, name ∉ seen) (state : α) (found : List Json) :
    items read state rest found = members names read seen state (rest.zip found) := by
  induction rest generalizing seen state found with
  | nil => cases found <;> rfl
  | cons name rest ih =>
    cases found with
    | nil => rfl
    | cons first found =>
      obtain ⟨named, known⟩ := List.forall_mem_cons.mp known
      obtain ⟨new, distinct⟩ := List.nodup_cons.mp distinct
      obtain ⟨unseen, fresh⟩ := List.forall_mem_cons.mp fresh
      rw [List.zip_cons_cons, items, members, if_pos named, if_neg unseen]
      refine congrArg _ (funext fun next => ih known distinct (fun other hother => ?_) next found)
      exact List.not_mem_cons_of_ne_of_not_mem (fun same => new (same ▸ hother)) (fresh other hother)

/-- A list of the right length is read as the object that has its items under the names. -/
theorem record_arr {α : Type} {names : List String} {read : α → String → Json → Decoded α} (distinct : names.Nodup)
    {required : Nat} {found : List Json} (enough : required ≤ found.length) (few : found.length ≤ names.length)
    (kind : RecordKind) (start : α) :
    record kind names required read start (.arr found) =
      record kind names required read start (.obj (names.zip found)) := by
  have same : items read start names found = members names read [] start (names.zip found) :=
    items_eq_members (fun _ h => h) distinct (fun _ _ => List.not_mem_nil) start found
  simp only [record, same, Nat.not_lt.mpr enough, Nat.not_lt.mpr few, if_false, bind_pure]

end Decode

/-! ## Descriptors -/

open Decode

namespace JoinDescriptor

theorem readsBack : ReadsBack decode toJson := by
  intro join
  have column := (leads_nil entries Draft.read ⟨none, none, [], [], none⟩).optional "as" readsBack_string nofun
    (by decide) (fun d column => { d with destination := column }) (fun _ => rfl) rfl join.destination
  have exclude := column.texts "exclude" (by decide)
    (fun d exclude => { d with exclude }) (fun _ => rfl) rfl join.exclude
  have fields := exclude.member "fields" (readsBack_strings join.fields) (by decide)
    (fun d fields => { d with fields }) fun _ => rfl
  have key := fields.optional "key" readsBack_string nofun (by decide)
    (fun d key => { d with key }) (fun _ => rfl) rfl join.key
  have model := key.member "model" (readsBack_string join.model) (by decide)
    (fun d model => { d with model := some model }) fun _ => rfl
  -- Only now is the draft asked for its model.
  exact Outcome.bind_eq_ok.mpr ⟨_, model.record_eq_ok (by decide) _ _, rfl⟩

end JoinDescriptor

namespace FieldDescriptor

theorem readsBack : ReadsBack decode toJson := by
  intro descriptor
  have column := (leads_nil entries read empty).optional "databaseName" readsBack_string nofun (by decide)
    (fun d text => { d with databaseName := text }) (fun _ => rfl) rfl descriptor.databaseName
  have display := column.optional "displayName" readsBack_string nofun (by decide)
    (fun d text => { d with displayName := text }) (fun _ => rfl) rfl descriptor.displayName
  have filter := display.optional "filter" readsBack_bool nofun (by decide)
    (fun d flag => { d with filterable := flag }) (fun _ => rfl) rfl descriptor.filterable
  have join := filter.optional "join" JoinDescriptor.readsBack nofun (by decide)
    (fun d join => { d with join }) (fun _ => rfl) rfl descriptor.join
  have range := join.optional "range" readsBack_bool nofun (by decide)
    (fun d flag => { d with rangeable := flag }) (fun _ => rfl) rfl descriptor.rangeable
  have search := range.optional "search" readsBack_bool nofun (by decide)
    (fun d flag => { d with searchable := flag }) (fun _ => rfl) rfl descriptor.searchable
  have shown := search.optional "show" readsBack_bool nofun (by decide)
    (fun d flag => { d with shown := flag }) (fun _ => rfl) rfl descriptor.shown
  have sort := shown.optional "sort" readsBack_bool nofun (by decide)
    (fun d flag => { d with sortable := flag }) (fun _ => rfl) rfl descriptor.sortable
  exact sort.record_eq_ok (by decide) _ _

end FieldDescriptor

/-! ## Remotes -/

namespace RemoteDefinition

theorem decodeAddress_eq_ok (address : Address) :
    decodeAddress (.obj [("cmd", .str address.cmd), ("role", .str address.role)]) = .ok address := by
  have cmd := (leads_nil ["role", "cmd"] AddressDraft.read ⟨none, none⟩).member "cmd" (readsBack_string address.cmd)
    (by decide) (fun d cmd => { d with cmd := some cmd }) fun _ => rfl
  have role := cmd.member "role" (readsBack_string address.role) (by decide)
    (fun d role => { d with role := some role }) fun _ => rfl
  exact Outcome.bind_eq_ok.mpr ⟨_, role.record_eq_ok (by decide) _ _, rfl⟩

theorem IsAuthored.decode_toJson {remote : RemoteDefinition} (authored : remote.IsAuthored) :
    decode remote.toJson = .ok remote := by
  have address := (leads_nil entries Draft.read ⟨none, none, none, none, [], defaultMaxKeys⟩).member "apiCall"
    (decodeAddress_eq_ok remote.address) (by decide) (fun d address => { d with address := some address }) fun _ => rfl
  have fields := address.member "fields" (map_mapValues FieldDescriptor.readsBack authored.fields) (by decide)
    (fun d fields => { d with fields }) fun _ => rfl
  have foreign := fields.member "foreignKey" (readsBack_string remote.foreignKey) (by decide)
    (fun d column => { d with foreignKey := some column }) fun _ => rfl
  have parameters := foreign.member "inputParameters" (map_mapValues readsBack_string authored.parameters) (by decide)
    (fun d names => { d with parameters := some names }) fun _ => rfl
  have budget := parameters.member "maxKeys" (count_ofNat authored.budget) (by decide)
    (fun d maxKeys => { d with maxKeys }) fun _ => rfl
  have primary := budget.member "primaryKey" (readsBack_string remote.primaryKey) (by decide)
    (fun d column => { d with primaryKey := some column }) fun _ => rfl
  exact Outcome.bind_eq_ok.mpr ⟨_, primary.record_eq_ok (by decide) _ _, rfl⟩

/-- The authored remotes are the ones that some value describes. -/
theorem isAuthored_iff_exists_decode {remote : RemoteDefinition} : remote.IsAuthored ↔ ∃ json, decode json = .ok remote :=
  ⟨fun authored => ⟨_, authored.decode_toJson⟩, fun ⟨_, h⟩ => isAuthored_of_decode h⟩

/-- Writing a remote and reading it gives the remote back; and what is written of a remote that was read is, once read,
written the same again. -/
theorem toJson_roundTrips :
    (∀ remote : RemoteDefinition, remote.IsAuthored → decode remote.toJson = .ok remote) ∧
      ∀ json remote, decode json = .ok remote →
        ∃ again, decode remote.toJson = .ok again ∧ again.toJson = remote.toJson := by
  refine ⟨fun remote authored => authored.decode_toJson, fun json remote h => ?_⟩
  exact ⟨remote, (isAuthored_of_decode h).decode_toJson, rfl⟩

/-- A remote with a joined field and a field that leaves everything out. -/
def towns : RemoteDefinition where
  address := ⟨"geo", "towns"⟩
  primaryKey := "town"
  foreignKey := "id"
  parameters := [("mayor", "head"), ("region", "area")]
  fields := [
    ("mayor", { FieldDescriptor.empty with
      displayName := some "Mayor", join := some ⟨"people", none, [], ["salary"], some "_id"⟩ }),
    ("region", .empty)]
  maxKeys := 25

/-- The same remote, in another order, with a member of no meaning and with nulls for what is left out. -/
def townsJson : Json :=
  .obj [
    ("primaryKey", .str "town"),
    ("foreignKey", .str "id"),
    ("note", .num (.int 7)),
    ("apiCall", .obj [("role", .str "geo"), ("cmd", .str "towns")]),
    ("inputParameters", .obj [("region", .str "area"), ("mayor", .str "head")]),
    ("fields", .obj [
      ("region", .obj [("show", .null), ("join", .null)]),
      ("mayor", .obj [
        ("displayName", .str "Mayor"),
        ("join", .obj [
          ("model", .str "people"),
          ("as", .null),
          ("key", .str "_id"),
          ("exclude", .arr [.str "salary"])])])]),
    ("maxKeys", .num (.int 25))]

/-- The same remote with its records as lists: one field breaks off where nothing more is given. -/
def townsList : Json :=
  .arr [
    .arr [.str "geo", .str "towns"],
    .str "town",
    .str "id",
    .obj [("mayor", .str "head"), ("region", .str "area")],
    .obj [
      ("mayor", .arr [
        .null, .str "Mayor", .null, .null, .null, .null, .null,
        .arr [.str "people", .null, .arr [], .arr [.str "salary"], .str "_id"]]),
      ("region", .arr [])],
    .num (.int 25)]

theorem toJson_roundTrips_towns :
    towns.IsAuthored ∧ decode towns.toJson = .ok towns ∧
      ∀ json, json = townsJson ∨ json = townsList → decode json = .ok towns ∧
        ∃ again, decode towns.toJson = .ok again ∧ again.toJson = towns.toJson := by
  have authored : towns.IsAuthored := ⟨⟨by decide, by decide⟩, by decide⟩
  refine ⟨authored, toJson_roundTrips.1 towns authored, ?_⟩
  rintro json (rfl | rfl)
  · have read : decode townsJson = .ok towns := by rfl
    exact ⟨read, toJson_roundTrips.2 townsJson towns read⟩
  · have read : decode townsList = .ok towns := by rfl
    exact ⟨read, toJson_roundTrips.2 townsList towns read⟩

end RemoteDefinition

end DataGrid
