-- SUMMARY: Projections after any history of offers and extensions: one-to-one, and what each of these adds.
import DataGrid.Proofs.Projection

/-!
# One-to-one projections

A projection begins empty, and pairs are offered to it, one by one or as another
projection that it is extended by. Whatever has come before, no field and no column is
paired twice, so that it is read in both directions. A pair is added exactly where
neither of its sides is taken by then, and what is there stays.
-/

namespace DataGrid.Projection

/-! ## Pairs beside one another -/

/-- Two pairs that have no side in common. -/
def Apart (a b : String × String) : Prop :=
  a.1 ≠ b.1 ∧ a.2 ≠ b.2

/-- Some pairs take neither side of another one. -/
def LeavesFree (taken : List (String × String)) (pair : String × String) : Prop :=
  ∀ held ∈ taken, Apart held pair

theorem leavesFree_cons {held pair : String × String} {taken : List (String × String)} :
    LeavesFree (held :: taken) pair ↔ Apart held pair ∧ LeavesFree taken pair :=
  List.forall_mem_cons

theorem leavesFree_congr {taken taken' : List (String × String)} (same : ∀ held, held ∈ taken ↔ held ∈ taken')
    {pair : String × String} : LeavesFree taken pair ↔ LeavesFree taken' pair :=
  forall_congr' fun held => imp_congr (same held) Iff.rfl

theorem isFree_iff_leavesFree {p : Projection} {field column : String} :
    p.isFree field column = true ↔ LeavesFree p.pairs (field, column) := by
  rw [isFree_iff, column?, Keyed.get?_eq_none_iff]
  simp only [Keyed.keys, columns, Keyed.values, List.mem_map, not_exists, not_and, LeavesFree, Apart, ne_eq]
  exact ⟨fun free held taken => ⟨free.1 held taken, free.2 held taken⟩,
    fun free => ⟨fun held taken => (free held taken).1, fun held taken => (free held taken).2⟩⟩

/-- Walking some pairs beside those that are taken: a pair is added where neither of its sides is taken by then, be it
from the start or by a pair that was added on the way. -/
inductive Adds : List (String × String) → List (String × String) → List (String × String) → Prop where
  | done {taken} : Adds taken [] []
  | add {taken pair rest added} (free : LeavesFree taken pair) (later : Adds (pair :: taken) rest added) :
    Adds taken (pair :: rest) (pair :: added)
  | skip {taken pair rest added} (blocked : ¬LeavesFree taken pair) (later : Adds taken rest added) :
    Adds taken (pair :: rest) added

/-- Pairs that are apart from one another do not block one another, so those are added that are free from the start. -/
theorem Adds.mem_iff {taken pairs added : List (String × String)} (h : Adds taken pairs added)
    (apart : pairs.Pairwise Apart) {pair : String × String} :
    pair ∈ added ↔ pair ∈ pairs ∧ LeavesFree taken pair := by
  induction h with
  | done => simp
  | @add taken first rest added free later ih =>
    obtain ⟨ahead, apart⟩ := List.pairwise_cons.mp apart
    rw [List.mem_cons, ih apart, leavesFree_cons, List.mem_cons]
    constructor
    · rintro (rfl | ⟨listed, -, left⟩)
      · exact ⟨.inl rfl, free⟩
      · exact ⟨.inr listed, left⟩
    · rintro ⟨rfl | listed, left⟩
      · exact .inl rfl
      · exact .inr ⟨listed, ahead pair listed, left⟩
  | @skip taken first rest added blocked later ih =>
    obtain ⟨-, apart⟩ := List.pairwise_cons.mp apart
    rw [ih apart, List.mem_cons]
    constructor
    · rintro ⟨listed, left⟩
      exact ⟨.inr listed, left⟩
    · rintro ⟨rfl | listed, left⟩
      · exact absurd left blocked
      · exact ⟨listed, left⟩


/-! ## One more pair, and some more -/

/-- The pairs ascend by field, and no column is paired twice. -/
structure IsOneToOne (p : Projection) : Prop where
  fields : p.IsKeyed
  columns : p.columns.Nodup

theorem isOneToOne_empty : empty.IsOneToOne where
  fields := isKeyed_empty
  columns := List.nodup_nil

theorem IsOneToOne.insert {p : Projection} (h : p.IsOneToOne) (field column : String) :
    (p.insert field column).IsOneToOne where
  fields := h.fields.insert field column
  columns := nodup_columns_insert h.columns field column

theorem IsOneToOne.extend {p : Projection} (h : p.IsOneToOne) (other : Projection) : (p.extend other).IsOneToOne where
  fields := h.fields.insertAll other.pairs
  columns := nodup_columns_insertAll h.columns other.pairs

theorem IsOneToOne.apart {p : Projection} (h : p.IsOneToOne) : p.pairs.Pairwise Apart :=
  (List.pairwise_map.mp h.fields.nodup_keys).and (List.pairwise_map.mp h.columns)

/-- What an offer answers, and what it makes of a projection: the pair is added exactly where neither of its sides is
taken. Otherwise nothing changes. -/
structure IsOffered (p : Projection) (pair : String × String) (answer : Bool) (after : Projection) : Prop where
  told : answer = true ↔ LeavesFree p.pairs pair
  added : answer = true → after.pairs.Perm (pair :: p.pairs)
  refused : answer = false → after = p

theorem isOffered_offer (p : Projection) (field column : String) :
    IsOffered p (field, column) (p.offer field column).1 (p.offer field column).2 where
  told := isFree_iff_leavesFree
  added := by
    intro (free : p.isFree field column = true)
    change (p.insert field column).pairs.Perm _
    rw [insert, if_pos free]
    exact pairs_insert_perm free
  refused := by
    intro (blocked : p.isFree field column = false)
    exact if_neg (ne_true_of_eq_false blocked)

/-- Some pairs that are offered one after the other are walked beside those that are there. -/
theorem exists_adds_insertAll (pairs : List (String × String)) {p : Projection} {taken : List (String × String)}
    (same : ∀ held, held ∈ taken ↔ held ∈ p.pairs) :
    ∃ added, Adds taken pairs added ∧ (p.insertAll pairs).pairs.Perm (added ++ p.pairs) := by
  induction pairs generalizing p taken with
  | nil => exact ⟨[], .done, .refl _⟩
  | cons pair rest ih =>
    obtain ⟨field, column⟩ := pair
    have offered := isOffered_offer p field column
    by_cases free : LeavesFree taken (field, column)
    · have now := offered.added (offered.told.mpr ((leavesFree_congr same).mp free))
      have same' (held : String × String) :
          held ∈ (field, column) :: taken ↔ held ∈ (p.offer field column).2.pairs := by
        rw [now.mem_iff, List.mem_cons, List.mem_cons, same]
      obtain ⟨added, walked, after⟩ := ih same'
      exact ⟨_, .add free walked, (after.trans (now.append_left added)).trans List.perm_middle⟩
    · have blocked : (p.offer field column).1 = false :=
        Bool.eq_false_iff.mpr fun told => free ((leavesFree_congr same).mpr (offered.told.mp told))
      have untouched : p.insert field column = p := offered.refused blocked
      obtain ⟨added, walked, after⟩ := ih same
      refine ⟨added, .skip free walked, ?_⟩
      change ((p.insert field column).insertAll rest).pairs.Perm _
      rwa [untouched]

/-- What an extension makes of a projection: all that was there stays, and of the pairs of the other projection those are
added whose sides are free when the walk in the order of their fields comes to them. They are those that were free before. -/
structure IsExtended (p other after : Projection) : Prop where
  kept : ∀ pair ∈ p.pairs, pair ∈ after.pairs
  walked : ∃ added, Adds p.pairs other.pairs added ∧ after.pairs.Perm (added ++ p.pairs)
  members : ∀ pair, pair ∈ after.pairs ↔ pair ∈ p.pairs ∨ pair ∈ other.pairs ∧ LeavesFree p.pairs pair

theorem IsOneToOne.isExtended {other : Projection} (h : other.IsOneToOne) (p : Projection) :
    IsExtended p other (p.extend other) := by
  obtain ⟨added, walked, after⟩ := exists_adds_insertAll other.pairs (p := p) fun _ => Iff.rfl
  have members (pair : String × String) :
      pair ∈ (p.extend other).pairs ↔ pair ∈ p.pairs ∨ pair ∈ other.pairs ∧ LeavesFree p.pairs pair := by
    rw [extend_eq, after.mem_iff, List.mem_append, walked.mem_iff h.apart, or_comm]
  exact ⟨fun pair held => (members pair).mpr (.inl held), ⟨added, walked, after⟩, members⟩


/-! ## Histories -/

/-- How a projection comes about. It is extended by one that has come about likewise. -/
inductive History where
  | start
  | offer (before : History) (field column : String)
  | extend (before other : History)

/-- The projection that a history leaves. -/
def History.projection : History → Projection
  | start => empty
  | offer before field column => (before.projection.offer field column).2
  | extend before other => before.projection.extend other.projection

theorem History.isOneToOne (history : History) : history.projection.IsOneToOne := by
  induction history with
  | start => exact isOneToOne_empty
  | offer before field column ih => exact ih.insert field column
  | extend before other ih _ => exact ih.extend other.projection

/-- A projection pairs fields and columns one-to-one: either side of a pair leads to the other one, the pairs ascend by
field and their columns are distinct, and it counts them. -/
structure IsBijection (p : Projection) : Prop where
  column : ∀ field column, p.column? field = some column ↔ (field, column) ∈ p.pairs
  field : ∀ field column, p.field? column = some field ↔ (field, column) ∈ p.pairs
  ascending : p.pairs.Pairwise fun a b => a.1 < b.1
  columns : (p.pairs.map (·.2)).Nodup
  size : p.size = p.pairs.length

theorem IsOneToOne.isBijection {p : Projection} (h : p.IsOneToOne) : p.IsBijection where
  column _ _ := Keyed.get?_eq_some_iff h.fields.nodup_keys
  field _ _ := field?_eq_some_iff h.columns
  ascending := h.fields
  columns := h.columns
  size := rfl

/-- Whatever has been offered to a projection and whatever it has been extended by, it is one-to-one. A further offer adds
its pair exactly where neither side is taken, and a further extension exactly the pairs that are free. -/
theorem History.stays_bijective (history : History) :
    history.projection.IsBijection ∧
      (∀ field column, IsOffered history.projection (field, column) (history.projection.offer field column).1
        (history.offer field column).projection) ∧
      ∀ other : History, IsExtended history.projection other.projection (history.extend other).projection := by
  refine ⟨history.isOneToOne.isBijection, fun field column => ?_, fun other => ?_⟩
  · exact isOffered_offer history.projection field column
  · exact other.isOneToOne.isExtended history.projection

/-- Of three pairs the first is refused for its column and the last for its field. -/
example :
    let taken := History.start.offer "town" "city"
    let other := ((History.start.offer "place" "city").offer "street" "road").offer "town" "village"
    (taken.extend other).projection.pairs = [("street", "road"), ("town", "city")] := by
  decide

end DataGrid.Projection
