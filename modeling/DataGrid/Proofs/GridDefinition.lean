-- SUMMARY: What a definition has once it is read and checked.
import DataGrid.Grid.Definition
import DataGrid.Proofs.FieldTable

/-!
# Checked definitions

A definition that is read has a checked field table, remotes whose parameters are
keyed, and budgets that fit a count. One without faults keeps the names of its
fields and the parameters of its remotes apart.
-/

namespace DataGrid

/-! ## Reading -/

namespace Decode

/-- What every read member keeps holds of the record. -/
theorem members_induction {α : Type} {inv : α → Prop} {names : List String} {read : α → String → Json → Decoded α}
    (step : ∀ state name found next, inv state → read state name found = .ok next → inv next) {entries : Row} :
    ∀ {seen : List String} {start state : α}, inv start → members names read seen start entries = .ok state →
      inv state := by
  induction entries with
  | nil =>
    intro seen start state hstart h
    obtain rfl := Except.ok.inj h
    exact hstart
  | cons e rest ih =>
    obtain ⟨name, found⟩ := e
    intro seen start state hstart h
    unfold members at h
    split at h
    · split at h
      · cases h
      · obtain ⟨next, hread, h⟩ := Outcome.bind_eq_ok.mp h
        exact ih (step _ _ _ _ hstart hread) h
    · exact ih hstart h

/-- What every read item keeps holds of the record. -/
theorem items_induction {α : Type} {inv : α → Prop} {read : α → String → Json → Decoded α}
    (step : ∀ state name found next, inv state → read state name found = .ok next → inv next) {names : List String}
    {found : List Json} {start state : α} (hstart : inv start) (h : items read start names found = .ok state) :
    inv state := by
  fun_induction items read start names found with
  | case1 start name names found rest ih =>
    obtain ⟨next, hread, h⟩ := Outcome.bind_eq_ok.mp h
    exact ih next (step _ _ _ _ hstart hread) h
  | case2 =>
    obtain rfl := Except.ok.inj h
    exact hstart

/-- A list is read as a record if its items are, if it has those that are required, and if it has no more. -/
theorem record_arr_eq_ok {α : Type} {kind : RecordKind} {names : List String} {required : Nat}
    {read : α → String → Json → Decoded α} {start state : α} {found : List Json} :
    record kind names required read start (.arr found) = .ok state ↔
      items read start names found = .ok state ∧ required ≤ found.length ∧ found.length ≤ names.length := by
  simp only [record, Outcome.bind_eq_ok, Outcome.guard_eq_ok, Outcome.pure_eq_ok, Nat.not_lt]
  constructor
  · rintro ⟨_, hitems, enough, few, rfl⟩
    exact ⟨hitems, enough, few⟩
  · rintro ⟨hitems, enough, few⟩
    exact ⟨state, hitems, enough, few, rfl⟩

theorem record_induction {α : Type} {motive : α → Prop} {kind : RecordKind} {names : List String} {required : Nat}
    {read : α → String → Json → Decoded α} {start state : α} {json : Json} (hstart : motive start)
    (step : ∀ state name found next, motive state → read state name found = .ok next → motive next)
    (h : record kind names required read start json = .ok state) : motive state := by
  cases json with
  | obj entries => exact members_induction step hstart h
  | arr found => exact items_induction step hstart (record_arr_eq_ok.mp h).1
  | _ => cases h

/-- The keys of a map that is read ascend. -/
theorem ascending_of_map {α : Type} {decode : Json → Decoded α} {json : Json} {entries : Keyed α}
    (h : map decode json = .ok entries) : entries.Ascending := by
  cases json with
  | obj members =>
    suffices ∀ start : Keyed α, start.Ascending →
        members.foldlM (fun decoded (e : String × Json) => (decode e.2).map (Keyed.insert decoded e.1)) start = .ok entries →
        entries.Ascending from this [] Keyed.ascending_nil h
    clear h
    induction members with
    | nil =>
      intro start hstart h
      obtain rfl := Outcome.pure_eq_ok.mp h
      exact hstart
    | cons e rest ih =>
      intro start hstart h
      rw [List.foldlM_cons, Outcome.bind_eq_ok] at h
      obtain ⟨next, hnext, h⟩ := h
      obtain ⟨value, -, rfl⟩ := Outcome.map_eq_ok.mp hnext
      exact ih _ (hstart.insert _ _) h
  | _ => cases h

theorem count_le {json : Json} {n : Nat} (h : count json = .ok n) : n ≤ Number.greatestInt := by
  unfold count at h
  split at h
  · split at h
    · next range =>
      obtain rfl := Except.ok.inj h
      omega
    · cases h
  · cases h

theorem require_eq_ok {α : Type} {name : String} {value : Option α} {found : α} :
    require name value = .ok found ↔ value = some found := by
  cases value <;> simp [require]

theorem list_eq_ok {α : Type} {decode : Json → Decoded α} {json : Json} {values : List α}
    (h : list decode json = .ok values) : ∀ value ∈ values, ∃ found, decode found = .ok value := by
  cases json with
  | arr items =>
    intro value hvalue
    obtain ⟨found, -, hfound⟩ := Outcome.exists_left_of_mem (Outcome.mapM_eq_ok.mp h) hvalue
    exact ⟨found, hfound⟩
  | _ => cases h

end Decode

namespace RemoteDefinition

/-- What a remote that is read has: keyed parameters, and a budget that fits a count. -/
structure IsRead (remote : RemoteDefinition) : Prop where
  parameters : remote.parameters.Ascending
  budget : remote.maxKeys ≤ Number.greatestInt

/-- What a remote that is read has, its own fields included: they are keyed too. -/
structure IsAuthored (remote : RemoteDefinition) : Prop extends remote.IsRead where
  fields : remote.fields.Ascending

/-- What is read of a remote so far is keyed, and its budget fits a count. -/
structure Draft.IsAuthored (draft : Draft) : Prop where
  parameters : ∀ parameters, draft.parameters = some parameters → parameters.Ascending
  fields : draft.fields.Ascending
  budget : draft.maxKeys ≤ Number.greatestInt

theorem Draft.IsAuthored.read {draft next : Draft} {name : String} {found : Json} (h : draft.IsAuthored)
    (hread : draft.read name found = .ok next) : next.IsAuthored := by
  unfold Draft.read at hread
  split at hread
  case h_4 =>
    obtain ⟨names, hnames, rfl⟩ := Outcome.map_eq_ok.mp hread
    refine ⟨?_, h.fields, h.budget⟩
    rintro _ ⟨⟩
    exact Decode.ascending_of_map hnames
  case h_5 =>
    obtain ⟨fields, hfields, rfl⟩ := Outcome.map_eq_ok.mp hread
    exact ⟨h.parameters, Decode.ascending_of_map hfields, h.budget⟩
  case h_6 =>
    obtain ⟨count, hcount, rfl⟩ := Outcome.map_eq_ok.mp hread
    exact ⟨h.parameters, h.fields, Decode.count_le hcount⟩
  case h_7 =>
    obtain rfl := Except.ok.inj hread
    exact h
  all_goals
    obtain ⟨_, -, rfl⟩ := Outcome.map_eq_ok.mp hread
    exact ⟨h.parameters, h.fields, h.budget⟩

theorem isAuthored_of_decode {json : Json} {remote : RemoteDefinition} (h : decode json = .ok remote) :
    remote.IsAuthored := by
  unfold decode at h
  simp only [Outcome.bind_eq_ok, Decode.require_eq_ok, Outcome.pure_eq_ok] at h
  obtain ⟨draft, hdraft, address, -, primaryKey, -, foreignKey, -, parameters, hparameters, rfl⟩ := h
  have drafted : draft.IsAuthored :=
    Decode.record_induction ⟨by simp, Keyed.ascending_nil, by decide⟩ (fun _ _ _ _ h => h.read) hdraft
  exact ⟨⟨drafted.parameters _ hparameters, drafted.budget⟩, drafted.fields⟩

theorem isRead_of_decode {json : Json} {remote : RemoteDefinition} (h : decode json = .ok remote) : remote.IsRead :=
  (isAuthored_of_decode h).toIsRead

/-- A remote without faults can be called, joins columns, and has parameters and a budget. -/
theorem spec_of_check {remote : RemoteDefinition} (h : remote.check = .ok ()) :
    Text.isColumnPath remote.primaryKey = true ∧ Text.isColumnPath remote.foreignKey = true ∧
      remote.parameters ≠ [] ∧ 0 < remote.maxKeys := by
  unfold check at h
  dsimp only at h
  split at h
  · cases h
  split at h
  · cases h
  next columns =>
  split at h
  · cases h
  next parameters =>
  split at h
  · cases h
  split at h
  · cases h
  next budget =>
  simp only [Bool.not_eq_true', Bool.not_eq_false, Bool.and_eq_true] at columns
  exact ⟨columns.1, columns.2, by simpa using parameters, Nat.pos_of_ne_zero budget⟩

end RemoteDefinition

namespace FieldTable

/-- What a field table that is read has: it is checked, and its fields are keyed. -/
structure IsRead (table : FieldTable) : Prop where
  checked : ∃ descriptors, Checked [] descriptors table.fields
  names : (Keyed.keys table.fields).Nodup

theorem isRead_of_decode {json : Json} {table : FieldTable} (h : decode json = .ok table) : table.IsRead := by
  obtain ⟨descriptors, hdescriptors, h⟩ := Outcome.bind_eq_ok.mp h
  split at h
  · next htable =>
    obtain rfl := Outcome.pure_eq_ok.mp h
    have checked := checked_of_ofDescriptors htable
    refine ⟨⟨descriptors, checked⟩, ?_⟩
    rw [checked.keys_eq]
    exact (Decode.ascending_of_map hdescriptors).nodup_keys
  · cases h

end FieldTable

namespace GridDefinition

/-- What a definition has that is read and has no fault: a field table and remotes that are read, remotes without a
fault, and no name that is both a field and a parameter. -/
structure Checked (definition : GridDefinition) : Prop where
  fields : definition.fields.IsRead
  remotes : ∀ remote ∈ definition.remotes, remote.IsRead ∧ remote.check = .ok ()
  disjoint : ∀ name ∈ definition.remoteFields, definition.fields.contains name = false

theorem isRead_of_decode {json : Json} {definition : GridDefinition} (h : decode json = .ok definition) :
    definition.fields.IsRead ∧ ∀ remote ∈ definition.remotes, remote.IsRead := by
  unfold decode at h
  simp only [Outcome.bind_eq_ok, Decode.require_eq_ok, Outcome.pure_eq_ok] at h
  obtain ⟨draft, hdraft, collection, -, fields, hfields, rfl⟩ := h
  have inv : (∀ fields, draft.fields = some fields → fields.IsRead) ∧ ∀ remote ∈ draft.remotes, remote.IsRead := by
    refine Decode.record_induction (motive := fun draft : Draft =>
      (∀ fields, draft.fields = some fields → fields.IsRead) ∧ ∀ remote ∈ draft.remotes, remote.IsRead)
      ⟨by simp, by simp⟩ (fun state name found next hstate hread => ?_) hdraft
    unfold Draft.read at hread
    split at hread
    case h_1 =>
      obtain ⟨_, -, rfl⟩ := Outcome.map_eq_ok.mp hread
      exact hstate
    case h_2 =>
      obtain ⟨table, htable, rfl⟩ := Outcome.map_eq_ok.mp hread
      refine ⟨?_, hstate.2⟩
      rintro _ ⟨⟩
      exact FieldTable.isRead_of_decode htable
    case h_3 =>
      obtain ⟨remotes, hremotes, rfl⟩ := Outcome.map_eq_ok.mp hread
      refine ⟨hstate.1, fun remote hremote => ?_⟩
      obtain ⟨found, hfound⟩ := Decode.list_eq_ok hremotes remote hremote
      exact RemoteDefinition.isRead_of_decode hfound
    case h_4 =>
      obtain rfl := Except.ok.inj hread
      exact hstate
  exact ⟨inv.1 _ hfields, inv.2⟩

/-- A grid without faults: its remotes have none, and no parameter is a field of the collection. -/
theorem spec_of_check {name : String} {definition : GridDefinition} (h : definition.check name = .ok ()) :
    ∀ remote ∈ definition.remotes, remote.check = .ok () ∧
      ∀ field ∈ Keyed.keys remote.parameters, definition.fields.contains field = false := by
  simp only [check, Outcome.guard_eq_ok, Outcome.forM_eq_ok] at h
  intro remote hremote
  obtain ⟨_, own, apart⟩ := Outcome.bind_eq_ok.mp (h.2 remote hremote)
  refine ⟨own, fun field hfield => ?_⟩
  split at apart
  · cases apart
  · next none =>
    simpa using List.find?_eq_none.mp none field hfield

/-- A grid without faults reads a collection that has a name. -/
theorem isIdentifier_of_check {name : String} {definition : GridDefinition} (h : definition.check name = .ok ()) :
    Text.isIdentifier definition.collection = true := by
  simp only [check, Outcome.guard_eq_ok] at h
  simpa using h.1

theorem checked_of_decode {json : Json} {name : String} {definition : GridDefinition}
    (decoded : decode json = .ok definition) (checked : definition.check name = .ok ()) : definition.Checked := by
  obtain ⟨fields, remotes⟩ := isRead_of_decode decoded
  have spec := spec_of_check checked
  refine ⟨fields, fun remote hremote => ⟨remotes remote hremote, (spec remote hremote).1⟩, fun field hfield => ?_⟩
  obtain ⟨remote, hremote, hfield⟩ := List.mem_flatMap.mp hfield
  exact (spec remote hremote).2 field hfield

end GridDefinition

end DataGrid
