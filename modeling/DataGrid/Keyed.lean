-- SUMMARY: Key-sorted association lists, the shape of JSON objects, field tables and messages.

/-!
# Keyed lists

A keyed list holds values under text keys. The operations keep the keys
ascending and distinct, so that walking a keyed list walks its keys in the
order of their code points.
-/

namespace DataGrid

/-- Values under text keys. -/
abbrev Keyed (α : Type) := List (String × α)

namespace Keyed

variable {α : Type}

/-- The value under `key`, if any. -/
def get? : Keyed α → String → Option α
  | [], _ => none
  | (k, v) :: rest, key => if k = key then some v else get? rest key

/-- Put `value` under `key`, replacing what is there. -/
def insert : Keyed α → String → α → Keyed α
  | [], key, value => [(key, value)]
  | (k, v) :: rest, key, value =>
    if key = k then (key, value) :: rest
    else if key < k then (key, value) :: (k, v) :: rest
    else (k, v) :: insert rest key value

/-- Take `key` out. -/
def erase (entries : Keyed α) (key : String) : Keyed α :=
  entries.filter (·.1 ≠ key)

def contains (entries : Keyed α) (key : String) : Bool :=
  (get? entries key).isSome

/-- The keys, in ascending order. -/
def keys (entries : Keyed α) : List String :=
  entries.map (·.1)

def values (entries : Keyed α) : List α :=
  entries.map (·.2)

/-- The keyed list of some entries in any order; of entries under one key the last stays. -/
def ofList (entries : List (String × α)) : Keyed α :=
  entries.foldl (fun keyed (k, v) => insert keyed k v) []

/-- The same keys, each with a new value. -/
def mapValues {β : Type} (f : α → β) (entries : Keyed α) : Keyed β :=
  entries.map fun (k, v) => (k, f v)


-- ---------------------------------------------------------------------------
-- Reading after writing
-- ---------------------------------------------------------------------------

@[simp] theorem get?_nil (key : String) : get? ([] : Keyed α) key = none := rfl

theorem get?_cons (k : String) (v : α) (rest : Keyed α) (key : String) :
    get? ((k, v) :: rest) key = if k = key then some v else get? rest key := rfl

@[simp] theorem get?_insert_self (entries : Keyed α) (key : String) (value : α) :
    (insert entries key value).get? key = some value := by
  induction entries with
  | nil => simp [insert, get?]
  | cons e rest ih =>
    obtain ⟨k, v⟩ := e
    unfold insert
    split
    · simp [get?]
    · split
      · simp [get?]
      · next h _ => simp [get?, Ne.symm h, ih]

theorem get?_insert_of_ne {key other : String} (h : key ≠ other) (entries : Keyed α) (value : α) :
    (insert entries key value).get? other = get? entries other := by
  induction entries with
  | nil => simp [insert, get?, h]
  | cons e rest ih =>
    obtain ⟨k, v⟩ := e
    unfold insert
    split
    · next hk => subst hk; simp [get?, h]
    · split
      · simp [get?, h]
      · simp [get?, ih]



-- ---------------------------------------------------------------------------
-- Ascending keys
-- ---------------------------------------------------------------------------

/-- The keys ascend, and so no key occurs twice. -/
def Ascending (entries : Keyed α) : Prop :=
  entries.Pairwise fun a b => a.1 < b.1

instance (entries : Keyed α) : Decidable (Ascending entries) :=
  inferInstanceAs (Decidable (entries.Pairwise fun a b => a.1 < b.1))

theorem ascending_nil : Ascending ([] : Keyed α) := List.Pairwise.nil

/-- An entry of a list that is written to is the one that is written, or was there. -/
theorem eq_or_mem_of_mem_insert {entries : Keyed α} {key : String} {value : α} {e : String × α}
    (h : e ∈ insert entries key value) : e = (key, value) ∨ e ∈ entries := by
  induction entries with
  | nil => exact .inl (List.mem_singleton.mp h)
  | cons first rest ih =>
    obtain ⟨k, v⟩ := first
    unfold insert at h
    split at h
    · rcases List.mem_cons.mp h with same | h
      · exact .inl same
      · exact .inr (List.mem_cons_of_mem _ h)
    · split at h
      · exact List.mem_cons.mp h
      · rcases List.mem_cons.mp h with rfl | h
        · exact .inr List.mem_cons_self
        · exact (ih h).imp_right (List.mem_cons_of_mem _)

theorem Ascending.insert {entries : Keyed α} (h : entries.Ascending) (key : String) (value : α) :
    (Keyed.insert entries key value).Ascending := by
  induction entries with
  | nil => simp [Keyed.insert, Ascending]
  | cons first rest ih =>
    obtain ⟨k, v⟩ := first
    obtain ⟨above, tail⟩ := List.pairwise_cons.mp h
    unfold Keyed.insert
    split
    · next same => subst same; exact List.pairwise_cons.mpr ⟨above, tail⟩
    · next other =>
      split
      · next below =>
        refine List.pairwise_cons.mpr ⟨fun e he => ?_, h⟩
        rcases List.mem_cons.mp he with rfl | he
        · exact below
        · exact String.lt_trans below (above e he)
      · next notBelow =>
        refine List.pairwise_cons.mpr ⟨fun e he => ?_, ih tail⟩
        rcases eq_or_mem_of_mem_insert he with rfl | he
        · exact Std.lt_of_le_of_ne (String.not_lt.mp notBelow) (Ne.symm other)
        · exact above e he

theorem ascending_ofList (entries : List (String × α)) : (ofList entries).Ascending := by
  suffices ∀ start : Keyed α, start.Ascending →
      Ascending (entries.foldl (fun keyed (k, v) => Keyed.insert keyed k v) start) from this [] ascending_nil
  induction entries with
  | nil => exact fun _ h => h
  | cons e rest ih => exact fun start h => ih _ (h.insert e.1 e.2)

end Keyed

end DataGrid
