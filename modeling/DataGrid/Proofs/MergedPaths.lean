-- SUMMARY: What each path of a row holds after a record is merged into it.
import DataGrid.Proofs.Path

/-!
# Merged paths

Walking a path through a record ends at a value that is no object, at an object, or where
a key is missing. A value of the record takes the place of whatever the row has there, an
object is merged into the object that the row has, and where the path breaks off the row
is left as it is. Merging the same record again changes nothing.
-/

namespace DataGrid.Row

variable {source target : Row} {path : List String}


/-! ## Paths that break off -/

/-- A path breaks off in a row: it leads to nothing, and on the way through objects only. -/
def BreaksOff (row : Row) (path : List String) : Prop :=
  at? row path = none ∧ ∀ above value, above <+: path → at? row above = some value → ∃ members, value = .obj members

/-- A record leaves alone the paths that break off in it. -/
theorem BreaksOff.spares (h : BreaksOff source path) (hsource : (Json.obj source).isOrdered = true) (hpath : path ≠ []) :
    Spares source path := by
  induction path generalizing source with
  | nil => exact absurd rfl hpath
  | cons key rest ih =>
    obtain ⟨missing, objects⟩ := h
    refine ⟨Json.ascending_of_isOrdered hsource, fun value found => ?_⟩
    obtain ⟨child, rfl⟩ := objects [key] value (List.prefix_append [key] rest) found
    have below : rest ≠ [] := by
      rintro rfl
      cases found.symm.trans missing
    have inside (above : List String) (hne : above ≠ []) : at? source (key :: above) = at? child above := by
      rw [at?_cons source key hne, found, membersOf]
    refine ⟨child, rfl, ih ⟨(inside rest below).symm.trans missing, fun above value hprefix hvalue => ?_⟩
      (isOrdered_of_get? hsource found) below⟩
    have hne : above ≠ [] := by
      rintro rfl
      cases hvalue
    exact objects (key :: above) value (List.cons_prefix_cons.mpr ⟨rfl, hprefix⟩) ((inside above hne).trans hvalue)

/-- Merging changes no path that breaks off in the record. -/
theorem BreaksOff.at?_merge (h : BreaksOff source path) (hsource : (Json.obj source).isOrdered = true) (target : Row) :
    at? (target.merge source) path = at? target path := by
  by_cases root : path = []
  · rw [root]
    rfl
  · exact (h.spares hsource root).at?_mergeInto target


/-! ## Values that are no objects -/

theorem membersOf_of_not_obj {value : Json} (single : ∀ members, value ≠ .obj members) : membersOf (some value) = [] := by
  cases value with
  | obj members => exact absurd rfl (single members)
  | _ => rfl

/-- A value that is no object takes the place of what is held. -/
theorem mergeValue_of_not_obj {value : Json} (single : ∀ members, value ≠ .obj members) (held : Option Json) :
    mergeValue value held = value := by
  cases value with
  | obj members => exact absurd rfl (single members)
  | _ => rfl

/-- An object takes the place of what is held, unless that is an object. -/
theorem mergeValue_obj_of_not_obj {held : Option Json} (other : ∀ members, held ≠ some (.obj members)) (incoming : Row) :
    mergeValue (.obj incoming) held = .obj incoming := by
  unfold mergeValue
  split
  · next members => exact absurd rfl (other members)
  · rfl


/-! ## Merging again -/

theorem ascending_mergeInto (h : target.Ascending) (source : Row) : (mergeInto source target).Ascending := by
  induction source generalizing target with
  | nil => exact h
  | cons e rest ih =>
    rw [mergeInto]
    exact ih (h.insert ..)

/-- Merging a record into nothing makes the record. -/
theorem mergeInto_empty (h : source.Ascending) : mergeInto source [] = source := by
  refine Keyed.Ascending.ext (ascending_mergeInto Keyed.ascending_nil source) h fun key => ?_
  rw [get?_mergeInto h.nodup_keys]
  cases Keyed.get? source key with
  | none => rfl
  | some value => exact congrArg some (mergeValue_none value)

/-- Merging a record again leaves a row as it is if merging each of its values again does. -/
theorem mergeInto_mergeInto_of_values (hsource : source.Ascending) (htarget : target.Ascending)
    (again : ∀ key value, Keyed.get? source key = some value →
      mergeValue value (some (mergeValue value (Keyed.get? target key))) = mergeValue value (Keyed.get? target key)) :
    mergeInto source (mergeInto source target) = mergeInto source target := by
  have merged := ascending_mergeInto htarget source
  refine Keyed.Ascending.ext (ascending_mergeInto merged source) merged fun key => ?_
  rw [get?_mergeInto hsource.nodup_keys, get?_mergeInto hsource.nodup_keys]
  cases found : Keyed.get? source key with
  | none => rfl
  | some value => exact congrArg some (again key value found)

mutual

/-- A value that is merged again leaves what it has left. -/
theorem mergeValue_mergeValue (value : Json) (hvalue : value.isOrdered = true) (held : Option Json)
    (hheld : ∀ found, held = some found → found.isOrdered = true) :
    mergeValue value (some (mergeValue value held)) = mergeValue value held := by
  match value with
  | .obj source =>
    have ascending := Json.ascending_of_isOrdered hvalue
    have again {target : Row} (htarget : (Json.obj target).isOrdered = true) :
        mergeInto source (mergeInto source target) = mergeInto source target := by
      refine mergeInto_mergeInto_of_values ascending (Json.ascending_of_isOrdered htarget) fun key value found => ?_
      exact mergeValue_mergeValue_of_mem source (fun _ he => Json.isOrdered_of_mem hvalue he) _
        (Keyed.mem_of_get?_eq_some found) _ fun _ => isOrdered_of_get? htarget
    -- Where no object is held the record is left, which is merged into nothing first and again into itself.
    have alone : mergeInto source source = source := by
      have twice : mergeInto source (mergeInto source []) = mergeInto source [] := again rfl
      rwa [mergeInto_empty ascending] at twice
    by_cases object : ∃ target, held = some (.obj target)
    · obtain ⟨target, rfl⟩ := object
      exact congrArg Json.obj (again (hheld _ rfl))
    · rw [mergeValue_obj_of_not_obj (fun target stands => object ⟨target, stands⟩)]
      exact congrArg Json.obj alone
  | .null | .bool _ | .num _ | .str _ | .arr _ => rfl

private theorem mergeValue_mergeValue_of_mem (members : List (String × Json))
    (ordered : ∀ e ∈ members, e.2.isOrdered = true) (e : String × Json) (he : e ∈ members) (held : Option Json)
    (hheld : ∀ found, held = some found → found.isOrdered = true) :
    mergeValue e.2 (some (mergeValue e.2 held)) = mergeValue e.2 held := by
  match members with
  | [] => cases he
  | (key, value) :: rest =>
    obtain ⟨first, others⟩ := List.forall_mem_cons.mp ordered
    rcases List.mem_cons.mp he with rfl | he
    · exact mergeValue_mergeValue value first held hheld
    · exact mergeValue_mergeValue_of_mem rest others e he held hheld

end

/-- Merging a record again changes nothing. -/
theorem merge_merge (hsource : (Json.obj source).isOrdered = true) (htarget : (Json.obj target).isOrdered = true) :
    (target.merge source).merge source = target.merge source := by
  have again := mergeValue_mergeValue (.obj source) hsource (some (.obj target)) fun _ held => Option.some.inj held ▸ htarget
  exact Json.obj.inj again


/-! ## Paths of merged rows -/

/-- A row is what merging a record into a target makes. A value of the record that is no object stands where the record has
it, with nothing below it. Where a path breaks off in the record the row has what the target has. An object of the record is
merged into the object that the target has there, or stands alone. Merging the record again changes nothing. -/
structure IsMerge (target source merged : Row) : Prop where
  value : ∀ path value, at? source path = some value → (∀ members, value ≠ .obj members) →
    at? merged path = some value
  below : ∀ path value other, at? source path = some value → (∀ members, value ≠ .obj members) → path <+: other →
    path ≠ other → at? merged other = none
  untouched : ∀ path, BreaksOff source path → at? merged path = at? target path
  joined : ∀ path incoming held, at? source path = some (.obj incoming) → at? target path = some (.obj held) →
    at? merged path = some (.obj (merge held incoming))
  brought : ∀ path incoming, at? source path = some (.obj incoming) → (∀ held, at? target path ≠ some (.obj held)) →
    at? merged path = some (.obj incoming)
  again : merged.merge source = merged

theorem isMerge_merge (hsource : (Json.obj source).isOrdered = true) (htarget : (Json.obj target).isOrdered = true) :
    IsMerge target source (target.merge source) := by
  have stands (path : List String) (value : Json) (found : at? source path = some value)
      (single : ∀ members, value ≠ .obj members) : at? (target.merge source) path = some value := by
    rw [merge, at?_mergeInto hsource found, mergeValue_of_not_obj single]
  constructor
  case value => exact stands
  case below =>
    rintro path value other found single ⟨rest, rfl⟩ proper
    have hpath : path ≠ [] := by
      rintro rfl
      cases found
    have hrest : rest ≠ [] := by
      rintro rfl
      exact proper (List.append_nil path).symm
    rw [at?_append _ hpath hrest, stands path value found single, membersOf_of_not_obj single, at?_empty]
  case untouched =>
    intro path breaks
    exact breaks.at?_merge hsource target
  case joined =>
    intro path incoming held found object
    rw [merge, at?_mergeInto hsource found, object]
    rfl
  case brought =>
    intro path incoming found other
    rw [merge, at?_mergeInto hsource found, mergeValue_obj_of_not_obj other]
  case again => exact merge_merge hsource htarget

/-- A profile with an object inside another one, a text and a list. -/
def profile : Row :=
  [("address", .obj [("place", .obj [("lat", .ofNat 59)]), ("street", .str "Main")]), ("name", .str "Ann"),
   ("tags", .arr [.str "a"])]

/-- A number in place of an object, an object that is new, one in place of a text, and null. -/
def changes : Row :=
  [("address", .obj [("place", .ofNat 7), ("town", .obj [("id", .ofNat 1)])]), ("name", .obj [("first", .str "A")]),
   ("tags", .null)]

theorem isMerge_merge_profile :
    (Json.obj changes).isOrdered = true ∧ (Json.obj profile).isOrdered = true ∧
      IsMerge profile changes (profile.merge changes) ∧
      profile.merge changes =
        [("address", .obj [("place", .ofNat 7), ("street", .str "Main"), ("town", .obj [("id", .ofNat 1)])]),
         ("name", .obj [("first", .str "A")]), ("tags", .null)] := by
  have source : (Json.obj changes).isOrdered = true := by decide +kernel
  have target : (Json.obj profile).isOrdered = true := by decide +kernel
  exact ⟨source, target, isMerge_merge source target, by decide +kernel⟩

end DataGrid.Row
