-- SUMMARY: Plain data, texts in ASCII and integers exact as doubles, on which every plain test agrees.
import DataGrid.Proofs.Double
import DataGrid.Proofs.Lowercase
import DataGrid.Proofs.Sql.Tests

/-!
# Plain data

Texts in ASCII without NUL, integers of at most 53 bits, and null leave the two
stores nothing to differ about, whatever such value they are compared with and
whatever text is looked for in them.
-/

namespace DataGrid

/-! ## Plain values -/

/-- The characters that both stores read alike. -/
def Text.isPlain (c : Char) : Bool :=
  isAscii c && c != '\x00'

/-- Texts of plain characters, and integers that are exact as doubles. -/
def Json.isPlain : Json → Bool
  | .str s => s.toList.all Text.isPlain
  | .num (.int i) => i.natAbs ≤ 2 ^ 53
  | _ => false

theorem Text.isPlain_iff {c : Char} : isPlain c = true ↔ isAscii c = true ∧ c ≠ '\x00' := by
  simp [isPlain]

theorem Json.isPlain_iff {value : Json} :
    value.isPlain = true ↔
      (∃ s, value = .str s ∧ ∀ c ∈ s.toList, Text.isPlain c = true) ∨
        ∃ i, value = .num (.int i) ∧ i.natAbs ≤ 2 ^ 53 := by
  cases value with
  | num n => cases n <;> simp [isPlain]
  | _ => simp [isPlain]

namespace Sql.Value

theorem ofElement_small {i : Int} (h : i.natAbs ≤ 2 ^ 53) : ofElement (.num (.int i)) = .int i := by
  have signed : i ≤ Number.greatestSigned := by
    unfold Number.greatestSigned
    omega
  exact if_pos signed

theorem ofParameter_small {i : Int} (h : i.natAbs ≤ 2 ^ 53) : ofParameter (.num (.int i)) = .int i := by
  have signed : i ≤ Number.greatestSigned := by
    unfold Number.greatestSigned
    omega
  exact if_pos signed

end Sql.Value

/-- Small integers are equal as doubles where they are equal. -/
theorem Number.sameValue_small {i j : Int} (hi : i.natAbs ≤ 2 ^ 53) (hj : j.natAbs ≤ 2 ^ 53) :
    (Number.int i).sameValue (.int j) = (i == j) := by
  have same : (Double.ofInt i).order (Double.ofInt j) = .eq ↔ i = j := by
    rw [Double.order_ofInt hi hj]
    exact Std.compare_eq_iff_eq
  rw [Bool.eq_iff_iff, beq_iff_eq, ← same, sameValue, Double.sameValue, beq_iff_eq, Double.order]
  exact Std.compare_eq_iff_eq.symm


/-! ## Texts -/

namespace Sql.Like

/-- Only characters beyond ASCII are read as another one, which is beyond ASCII as well. -/
theorem readAs_cases (c : Char) : readAs c = c ∨ Text.isAscii c = false ∧ readAs c = '\ufffd' := by
  unfold readAs
  split
  · next swapped =>
    refine .inr ⟨?_, rfl⟩
    rcases swapped with rfl | rfl <;> decide
  · exact .inl rfl

/-- A lower-case character that is in ASCII, or is read as one, is read as it is. -/
theorem toLower_readAs {c : Char} (small : c.toLower = c)
    (h : Text.isAscii c = true ∨ Text.isAscii (readAs c).toLower = true) : (readAs c).toLower = c := by
  rcases readAs_cases c with same | ⟨beyond, other⟩
  · rw [same, small]
  · rw [other, beyond] at h
    exact absurd h (by decide)

/-- Small characters without NUL that are read as themselves are read to their end, and stay as they are. -/
theorem map_toLower_upToNul {chars : List Char} (nul : '\x00' ∉ chars) (small : ∀ c ∈ chars, (readAs c).toLower = c) :
    (upToNul chars).map Char.toLower = chars := by
  rw [upToNul_of_not_mem nul, List.map_map]
  exact (List.map_congr_left small).trans (List.map_id _)

/-- The characters of a plain text are in ASCII, without NUL, and so are their lower cases, which are read as they are. -/
theorem ascii_of_isPlain {c : Char} (plain : Text.isPlain c = true) :
    Text.isAscii c.toLower = true ∧ c.toLower ≠ '\x00' ∧ (readAs c.toLower).toLower = c.toLower := by
  obtain ⟨ascii, real⟩ := Text.isPlain_iff.mp plain
  obtain ⟨-, idempotent, small, nul⟩ := Text.ascii_toLower ascii
  exact ⟨small, fun h => real (nul h), toLower_readAs idempotent (.inl small)⟩

/-- A needle without NUL is found in a plain text where it occurs there. -/
theorem finds_plain {needle text : List Char} (hneedle : '\x00' ∉ needle)
    (plain : ∀ c ∈ text, Text.isPlain c = true) :
    finds (Text.lowerChars needle) (text.map Char.toLower) =
      Text.occurs (Text.lowerChars needle) (Text.lowerChars text) := by
  have ascii : ∀ c ∈ text, Text.isAscii c = true := fun c hc => (Text.isPlain_iff.mp (plain c hc)).1
  have lowered : ∀ c ∈ text.map Char.toLower,
      Text.isAscii c = true ∧ c ≠ '\x00' ∧ (readAs c).toLower = c :=
    List.forall_mem_map.mpr fun c hc => ascii_of_isPlain (plain c hc)
  -- The text is read to its end, and it is in lower case already.
  have searched : (upToNul (text.map Char.toLower)).map Char.toLower = text.map Char.toLower :=
    map_toLower_upToNul (fun h => (lowered _ h).2.1 rfl) fun c hc => (lowered c hc).2.2
  have nul : '\x00' ∉ Text.lowerChars needle := fun h => hneedle ((Text.of_mem_lowerChars h).2 rfl)
  -- A needle that occurs in the text, as it is or as it is read, is in ASCII and so is read as it is.
  have read (h : ∀ c ∈ Text.lowerChars needle, Text.isAscii c = true ∨ Text.isAscii (readAs c).toLower = true) :
      (upToNul (Text.lowerChars needle)).map Char.toLower = Text.lowerChars needle :=
    map_toLower_upToNul nul fun c hc => toLower_readAs (Text.of_mem_lowerChars hc).1 (h c hc)
  rw [Text.lowerChars_ascii ascii, Bool.eq_iff_iff, Text.occurs_iff]
  simp only [finds, if_neg nul, searched, Text.occurs_iff]
  constructor
  · intro occurs
    have whole := read fun c hc => .inr (lowered _ (occurs.subset ?_)).1
    · rwa [whole] at occurs
    · rw [upToNul_of_not_mem nul, List.map_map]
      exact List.mem_map_of_mem hc
  · intro occurs
    rw [read fun c hc => .inl (lowered c (occurs.subset hc)).1]
    exact occurs

end Sql.Like


/-! ## Tests -/

/-- The text of an integer is plain. -/
theorem isPlain_of_mem_toString {i : Int} {c : Char} (h : c ∈ (toString i).toList) : Text.isPlain c = true := by
  have digit {n : Nat} (h : c ∈ n.repr.toList) : Text.isPlain c = true := by
    rw [Nat.toList_repr] at h
    have bounds : 48 ≤ c.toNat ∧ c.toNat ≤ 57 := by
      simpa [Char.isDigit, UInt32.le_iff_toNat_le] using Nat.isDigit_of_mem_toDigits (by decide) (by decide) h
    have ascii : Text.isAscii c = true := decide_eq_true (by omega)
    have other : c ≠ '\x00' := by
      rintro rfl
      exact absurd bounds (by decide)
    exact Text.isPlain_iff.mpr ⟨ascii, other⟩
  rw [Int.toString_eq_repr, Int.repr_eq_if] at h
  split at h
  · exact digit h
  · rw [String.toList_append, List.mem_append] at h
    rcases h with sign | h
    · have dash : c = '-' := by simpa using sign
      subst dash
      decide
    · exact digit h

namespace Test

/-- Tests against plain values, and for texts without NUL. The bounds of a range are to be comparable. -/
def isPlain : Test → Bool
  | .equal value => value.isPlain
  | .oneOf values => values.all Json.isPlain
  | .contains text => !text.toList.contains '\x00'
  | .between least greatest => least.isPlain && greatest.isPlain && (least.order? greatest).isSome

/-- An element that is plain, or null. -/
def isPlainElement (element : Json) : Bool :=
  element.isPlain || element == .null

variable {element : Json}

theorem isPlainElement_iff :
    isPlainElement element = true ↔
      (∃ s, element = .str s ∧ ∀ c ∈ s.toList, Text.isPlain c = true) ∨
        (∃ i, element = .num (.int i) ∧ i.natAbs ≤ 2 ^ 53) ∨ element = .null := by
  rw [isPlainElement, Bool.or_eq_true, Json.isPlain_iff, beq_iff_eq, or_assoc]

theorem agreesEqual_of_plain {value : Json} (hvalue : value.isPlain = true) (h : isPlainElement element = true) :
    agreesEqual value element = true := by
  rcases Json.isPlain_iff.mp hvalue with ⟨s, rfl, -⟩ | ⟨i, rfl, hi⟩
  · rcases isPlainElement_iff.mp h with ⟨t, rfl, -⟩ | ⟨j, rfl, -⟩ | rfl <;> rfl
  · rcases isPlainElement_iff.mp h with ⟨t, rfl, -⟩ | ⟨j, rfl, hj⟩ | rfl
    · rfl
    · simp [agreesEqual, Number.sameValue_small hj hi, Sql.Value.ofElement_small hj, Sql.Value.ofParameter_small hi]
    · rfl

theorem agreesContains_of_plain {needle : String} (hneedle : '\x00' ∉ needle.toList)
    (h : isPlainElement element = true) : agreesContains needle element = true := by
  have found {text : String} (plain : ∀ c ∈ text.toList, Text.isPlain c = true) :
      Text.occurs (Text.lowerChars needle.toList) (Text.lowerChars text.toList) =
        Sql.Like.finds (Text.lowerChars needle.toList) (Text.asciiLower text).toList := by
    rw [Text.asciiLower, String.toList_ofList, Sql.Like.finds_plain hneedle plain]
  rcases isPlainElement_iff.mp h with ⟨s, rfl, plain⟩ | ⟨i, rfl, hi⟩ | rfl
  · exact beq_iff_eq.mpr (found plain)
  · have text : (Sql.Value.ofElement (.num (.int i))).castText? = some (toString i) := by
      rw [Sql.Value.ofElement_small hi]
      rfl
    simp only [agreesContains, text]
    exact beq_iff_eq.mpr (found fun c hc => isPlain_of_mem_toString hc)
  · rfl

theorem agreesBetween_of_plain {least greatest : Json} (hbounds : (Test.between least greatest).isPlain = true)
    (h : isPlainElement element = true) : agreesBetween least greatest element = true := by
  obtain ⟨⟨hleast, hgreatest⟩, comparable⟩ : (least.isPlain = true ∧ greatest.isPlain = true) ∧
      (least.order? greatest).isSome = true := by
    simpa [isPlain] using hbounds
  rcases Json.isPlain_iff.mp hleast with ⟨l, rfl, -⟩ | ⟨l, rfl, hl⟩
  · rcases Json.isPlain_iff.mp hgreatest with ⟨g, rfl, -⟩ | ⟨g, rfl, -⟩
    · rcases isPlainElement_iff.mp h with ⟨s, rfl, -⟩ | ⟨i, rfl, hi⟩ | rfl
      · rfl
      · simp [agreesBetween, Sql.Value.ofElement_small hi, Sql.isBetween, Sql.Value.order?]
      · rfl
    · cases comparable
  · rcases Json.isPlain_iff.mp hgreatest with ⟨g, rfl, -⟩ | ⟨g, rfl, hg⟩
    · cases comparable
    · rcases isPlainElement_iff.mp h with ⟨s, rfl, -⟩ | ⟨i, rfl, hi⟩ | rfl
      · simp [agreesBetween, Sql.Value.ofParameter_small hl, Sql.Value.ofParameter_small hg, Sql.isBetween,
          Sql.Value.order?]
      · have least : (Number.int i).order (.int l) = compare i l := Double.order_ofInt hi hl
        have greatest : (Number.int i).order (.int g) = compare i g := Double.order_ofInt hi hg
        simp [agreesBetween, Sql.Value.ofElement_small hi, Sql.Value.ofParameter_small hl,
          Sql.Value.ofParameter_small hg, Sql.isBetween, Sql.Value.order?, least, greatest]
      · rfl

/-- A plain test passes plain elements alike. -/
theorem agreesOn_of_plain {test : Test} (htest : test.isPlain = true) (h : isPlainElement element = true) :
    test.agreesOn element = true := by
  cases test with
  | equal value => exact agreesEqual_of_plain htest h
  | oneOf values =>
    rw [isPlain, List.all_eq_true] at htest
    exact List.all_eq_true.mpr fun value hvalue => agreesEqual_of_plain (htest value hvalue) h
  | contains text => exact agreesContains_of_plain (by simpa [isPlain] using htest) h
  | between least greatest => exact agreesBetween_of_plain htest h

/-- A column that holds plain elements only, or is missing. -/
def isPlainColumn : Option Json → Bool
  | none => true
  | some (.arr items) => items.all isPlainElement
  | some value => isPlainElement value

/-- A plain test agrees on a plain column. -/
theorem agrees_of_plain {test : Test} {found : Option Json} (htest : test.isPlain = true)
    (h : isPlainColumn found = true) : test.agrees found = true := by
  cases found with
  | none => rfl
  | some value =>
    cases value with
    | arr items =>
      rw [isPlainColumn, List.all_eq_true] at h
      exact List.all_eq_true.mpr fun element helement => agreesOn_of_plain htest (h element helement)
    | obj members => simp [isPlainColumn, isPlainElement, Json.isPlain] at h
    | _ => exact agreesOn_of_plain htest h

end Test

end DataGrid
