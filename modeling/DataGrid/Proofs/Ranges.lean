-- SUMMARY: A range is accepted for two numbers or two texts in strict order, and also from false to true.
import Mathlib.Data.String.Basic
import DataGrid.Proofs.Clause
import DataGrid.Proofs.Double

/-!
# Ranges

Numbers are in order by their values as doubles, and texts by their bytes. A range is
accepted where its two bounds are in strict order, and its fragment carries the bounds
as they were given. Truth values are in order as well, so that there is one more range
than the complaint about bounds of two kinds admits.
-/

namespace DataGrid

/-! ## Texts by their bytes -/

namespace Text

/-- The bytes of a text in UTF-8. -/
def bytes (s : String) : List UInt8 :=
  s.toList.flatMap String.utf8EncodeChar

theorem toByteArray_bytes (s : String) : (bytes s).toByteArray = s.toByteArray :=
  String.utf8Encode_toList

/-- The bytes of a lesser character come before those of a greater one, whatever follows on either side. -/
theorem utf8EncodeChar_append_lt {c d : Char} (less : c < d) (s t : List UInt8) :
    String.utf8EncodeChar c ++ s < String.utf8EncodeChar d ++ t := by
  have numbers : c.val.toNat < d.val.toNat := UInt32.lt_iff_toNat_lt.mp less
  have last : d.val.toNat < 0x110000 := d.valid.elim (fun h => by omega) (fun h => by omega)
  -- six bits a byte, so that the digits of the two numbers stand in the same units
  have digits (n : Nat) : n / 262144 = n / 64 / 64 / 64 ∧ n / 4096 = n / 64 / 64 := by omega
  unfold String.utf8EncodeChar
  dsimp only
  generalize c.val.toNat = v at *
  generalize d.val.toNat = w at *
  simp only [digits]
  split_ifs <;>
    simp only [List.cons_append, List.nil_append, List.cons_lt_cons_iff, UInt8.lt_iff_toNat_lt, ← UInt8.toNat_inj,
      UInt8.toNat_ofNat'] <;>
    omega

theorem bytes_lt {a b : String} (less : a < b) : bytes a < bytes b := by
  rw [String.lt_iff] at less
  unfold bytes
  generalize a.toList = cs at less
  generalize b.toList = ds at less
  induction less with
  | @nil d rest =>
    obtain ⟨first, others, encoded⟩ := List.exists_cons_of_ne_nil (String.utf8EncodeChar_ne_nil (c := d))
    rw [List.flatMap_nil, List.flatMap_cons, encoded]
    exact List.nil_lt_cons _ _
  | cons _ ih =>
    rw [List.flatMap_cons, List.flatMap_cons]
    exact List.append_left_lt ih
  | rel less =>
    rw [List.flatMap_cons, List.flatMap_cons]
    exact utf8EncodeChar_append_lt less _ _

/-- The order of texts is the order of their bytes. -/
theorem lt_iff_bytes_lt {a b : String} : a < b ↔ bytes a < bytes b := by
  refine ⟨bytes_lt, fun less => ?_⟩
  rcases lt_trichotomy a b with before | rfl | after
  · exact before
  · exact absurd less (List.lt_irrefl _)
  · exact absurd (bytes_lt after) (List.lt_asymm less)

end Text


/-! ## Bounds -/

namespace Bounds

/-- What a range is for: two numbers or two texts, the least strictly before the greatest. -/
inductive Proper : Bounds → Prop where
  | numbers {a b : Number} : a.toDouble.signedUnits < b.toDouble.signedUnits → Proper ⟨.num a, .num b⟩
  | texts {a b : String} : Text.bytes a < Text.bytes b → Proper ⟨.str a, .str b⟩

/-- The truth values in their order. -/
def falseToTrue : Bounds :=
  ⟨.bool false, .bool true⟩

/-- A value gives bounds if it is an object that has both of them. -/
def GivenBy (bounds : Bounds) (value : Json) : Prop :=
  ∃ members, value = .obj members ∧
    Keyed.get? members "min" = some bounds.least ∧ Keyed.get? members "max" = some bounds.greatest

theorem givenBy_iff {bounds : Bounds} {value : Json} :
    bounds.GivenBy value ↔ value.member? "min" = some bounds.least ∧ value.member? "max" = some bounds.greatest := by
  unfold GivenBy
  cases value with
  | obj members => simp [Json.member?]
  | _ => simp [Json.member?]

/-- A value gives at most one pair of bounds. -/
theorem GivenBy.unique {bounds bounds' : Bounds} {value : Json} (h : bounds.GivenBy value) (h' : bounds'.GivenBy value) :
    bounds = bounds' := by
  obtain ⟨least, greatest⟩ := givenBy_iff.mp h
  obtain ⟨least', greatest'⟩ := givenBy_iff.mp h'
  obtain ⟨a, b⟩ := bounds
  obtain rfl := Option.some.inj (least.symm.trans least')
  obtain rfl := Option.some.inj (greatest.symm.trans greatest')
  rfl

theorem not_proper_falseToTrue : ¬ falseToTrue.Proper :=
  nofun

/-- Of all bounds that are in strict order, only those of truth values are no numbers and no texts. -/
theorem order?_eq_lt {bounds : Bounds} :
    bounds.least.order? bounds.greatest = some .lt ↔ bounds.Proper ∨ bounds = falseToTrue := by
  obtain ⟨a, b⟩ := bounds
  constructor
  · intro less
    cases a <;> cases b <;> try cases less
    case bool.bool a b =>
      right
      cases a <;> cases b <;> first | rfl | cases less
    case num.num a b =>
      left
      apply Proper.numbers
      rw [← compare_lt_iff_lt, ← Double.order_eq]
      exact Option.some.inj less
    case str.str a b =>
      left
      apply Proper.texts
      rw [← Text.lt_iff_bytes_lt, ← compare_lt_iff_lt]
      exact Option.some.inj less
  · rintro (proper | truths)
    · cases proper with
      | numbers less =>
        apply congrArg some
        rw [Number.order, Double.order_eq, compare_lt_iff_lt]
        exact less
      | texts less =>
        apply congrArg some
        rw [compare_lt_iff_lt, Text.lt_iff_bytes_lt]
        exact less
    · rw [truths]
      rfl

end Bounds


/-! ## Clauses of one range -/

namespace Clause

theorem checkBounds_eq_ok {value : Json} {bounds : Bounds} :
    checkBounds value = .ok bounds ↔ bounds.GivenBy value ∧ (bounds.Proper ∨ bounds = .falseToTrue) := by
  rw [Bounds.givenBy_iff, ← Bounds.order?_eq_lt]
  unfold checkBounds
  split
  · next least greatest hleast hgreatest =>
    rw [hleast, hgreatest, Option.some.injEq, Option.some.injEq]
    constructor
    · intro accepted
      split at accepted
      · next less =>
        obtain rfl := Except.ok.inj accepted
        exact ⟨⟨rfl, rfl⟩, less⟩
      · cases accepted
      · cases accepted
    · rintro ⟨⟨rfl, rfl⟩, less⟩
      rw [less]
  · next missing =>
    refine ⟨nofun, ?_⟩
    rintro ⟨⟨hleast, hgreatest⟩, -⟩
    exact absurd hgreatest (missing _ _ hleast)

/-- A clause of one range on a field that grants ranges is accepted where the bounds are, as a fragment on the column of
the field. -/
theorem check_range_eq_ok {table : FieldTable} {name : String} {field : Field} (known : table.get? name = some field)
    (granted : field.grants .range = true) {value : Json} {clause : Clause} :
    check table .range [(name, value)] = .ok clause ↔
      ∃ bounds, checkBounds value = .ok bounds ∧ clause = .range [(field.column, bounds)] := by
  have entry : checkRange table name value = (checkBounds value).map fun bounds => (field.column, bounds) := by
    have found := grantedField_eq_ok.mpr ⟨known, granted⟩
    rw [checkRange, found]
    cases checkBounds value <;> rfl
  rw [check, Outcome.map_eq_ok]
  simp only [gather_eq_ok, List.forall₂_cons_left_iff, List.forall₂_nil_left_iff, entry, Outcome.map_eq_ok]
  constructor
  · rintro ⟨_, ⟨_, _, ⟨bounds, accepted, rfl⟩, rfl, rfl⟩, rfl⟩
    exact ⟨bounds, accepted, rfl⟩
  · rintro ⟨bounds, accepted, rfl⟩
    exact ⟨_, ⟨_, _, ⟨bounds, accepted, rfl⟩, rfl, rfl⟩, rfl⟩

/-- A clause of one range is accepted exactly where its value gives bounds that are two numbers or two texts in strict order,
or false and true, and its fragment has just these bounds. So to accept just the numbers and the texts fails for the bounds
false and true, and for no others. -/
theorem check_range_iff {table : FieldTable} {name : String} {field : Field} (known : table.get? name = some field)
    (granted : field.grants .range = true) (value : Json) :
    (∀ clause, check table .range [(name, value)] = .ok clause ↔
      ∃ bounds : Bounds, bounds.GivenBy value ∧ (bounds.Proper ∨ bounds = .falseToTrue) ∧
        clause = .range [(field.column, bounds)]) ∧
    ((∀ clause, check table .range [(name, value)] = .ok clause ↔
      ∃ bounds : Bounds, bounds.GivenBy value ∧ bounds.Proper ∧ clause = .range [(field.column, bounds)]) ↔
      ¬ Bounds.falseToTrue.GivenBy value) := by
  have accepted (clause : Clause) : check table .range [(name, value)] = .ok clause ↔
      ∃ bounds : Bounds, bounds.GivenBy value ∧ (bounds.Proper ∨ bounds = .falseToTrue) ∧
        clause = .range [(field.column, bounds)] := by
    simp only [check_range_eq_ok known granted, checkBounds_eq_ok, and_assoc]
  refine ⟨accepted, ?_⟩
  constructor
  · intro rule given
    have truths := (accepted _).mpr ⟨.falseToTrue, given, .inr rfl, rfl⟩
    obtain ⟨bounds, given', proper, -⟩ := (rule _).mp truths
    rw [given'.unique given] at proper
    exact Bounds.not_proper_falseToTrue proper
  · intro other clause
    rw [accepted]
    refine exists_congr fun bounds => and_congr_right fun given => and_congr_left fun _ => or_iff_left ?_
    rintro rfl
    exact other given

namespace Flag

/-- A field that can be asked for by ranges alone, and shown. -/
def descriptor : FieldDescriptor :=
  { FieldDescriptor.empty with rangeable := some true }

/-- The field that its descriptor is checked to be. -/
def field : Field where
  name := "flag"
  column := "flag"
  displayName := "flag"
  shown := true
  searchable := false
  filterable := false
  rangeable := true
  sortable := false
  join := none

def table : FieldTable :=
  ⟨[("flag", field)]⟩

theorem ofDescriptors_eq : FieldTable.ofDescriptors [("flag", descriptor)] = .ok table :=
  rfl

/-- The range from false to true, as it is asked for. -/
def truths : Json :=
  .obj [("max", .bool true), ("min", .bool false)]

theorem givenBy_truths : Bounds.falseToTrue.GivenBy truths :=
  ⟨_, rfl, rfl, rfl⟩

end Flag

/-- The range from 1 to 2 is accepted on a field that grants ranges. -/
theorem check_range_iff_flag :
    Flag.table.get? "flag" = some Flag.field ∧ Flag.field.grants .range = true ∧
      check Flag.table .range [("flag", .obj [("max", .ofNat 2), ("min", .ofNat 1)])] =
        .ok (.range [("flag", ⟨.ofNat 1, .ofNat 2⟩)]) := by
  refine ⟨rfl, rfl, ?_⟩
  refine ((check_range_iff rfl rfl _).1 _).mpr ⟨⟨.ofNat 1, .ofNat 2⟩, ⟨_, rfl, rfl, rfl⟩, .inl (.numbers ?_), rfl⟩
  decide +kernel

/-- The range from false to true is accepted on a checked field that grants ranges, though it is one of neither numbers nor
texts. -/
theorem truths_accepted :
    FieldTable.ofDescriptors [("flag", Flag.descriptor)] = .ok Flag.table ∧
      Flag.table.get? "flag" = some Flag.field ∧ Flag.field.grants .range = true ∧
      check Flag.table .range [("flag", Flag.truths)] = .ok (.range [("flag", .falseToTrue)]) ∧
      ¬ ∃ bounds : Bounds, bounds.GivenBy Flag.truths ∧ bounds.Proper := by
  refine ⟨Flag.ofDescriptors_eq, rfl, rfl, rfl, ?_⟩
  rintro ⟨bounds, given, proper⟩
  rw [given.unique Flag.givenBy_truths] at proper
  exact Bounds.not_proper_falseToTrue proper

end Clause

end DataGrid
