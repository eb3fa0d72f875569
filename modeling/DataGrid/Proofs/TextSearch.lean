-- SUMMARY: A text search misses a literal part of a text only for a capital sigma at an end of what is searched.
import DataGrid.Proofs.Lowercase
import DataGrid.Proofs.Path
import DataGrid.Proofs.Sql.Tests

/-!
# Text search

A text search looks for a needle in a text, both in lower case. The lower case of a part
of a text depends on what stands around it, though only where a capital sigma is near
its ends: beside a cased character it may be the end of a word, or not. A needle that
has no such sigma is found wherever it is a part of a text, and any other one is missed
in some text.
-/

namespace DataGrid

namespace Text

/-! ## Neighbours -/

/-- Whether a cased character is seen past a character, given whether one is seen beyond it. -/
def look (c : Char) (beyond : Bool) : Bool :=
  if isCaseIgnorable c then beyond else isCased c

/-- Whether a cased character is seen from the start of a text, given whether one is seen after the text. -/
def seenFromStart (cs : List Char) (after : Bool) : Bool :=
  cs.foldr look after

/-- Whether a cased character is seen from the end of a text, given whether one is seen before the text. -/
def seenFromEnd (before : Bool) (cs : List Char) : Bool :=
  cs.foldl (fun seen c => look c seen) before

theorem startsCased_eq (cs : List Char) : startsCased cs = seenFromStart cs false := by
  induction cs with
  | nil => rfl
  | cons c rest ih =>
    rw [seenFromStart, List.foldr_cons, look]
    by_cases mark : isCaseIgnorable c = true
    · rw [if_pos mark, startsCased, List.dropWhile_cons, if_pos mark]
      exact ih
    · rw [if_neg mark, startsCased, List.dropWhile_cons, if_neg mark]

/-- Looking into a text from its end is looking into the turned text from its start. -/
theorem seenFromEnd_eq (before : Bool) (cs : List Char) : seenFromEnd before cs = seenFromStart cs.reverse before :=
  List.foldl_eq_foldr_reverse

/-- A cased character that is seen in a text is seen whatever comes after the text. -/
theorem seenFromStart_of_seen {cs : List Char} (seen : seenFromStart cs false = true) (after : Bool) :
    seenFromStart cs after = true := by
  induction cs with
  | nil => cases seen
  | cons c rest ih =>
    simp only [seenFromStart, List.foldr_cons, look] at seen ⊢
    split at seen
    · next mark =>
      rw [if_pos mark]
      exact ih seen
    · next mark =>
      rw [if_neg mark]
      exact seen

/-- A character in lower case, given whether a cased character is seen before it and after it. -/
def lowerBeside (before : Bool) (c : Char) (after : Bool) : List Char :=
  if c = 'Σ' then [if before && !after then 'ς' else 'σ'] else lowerChar c

/-- The characters in lower case, given whether a cased character is seen before them and after them. -/
def lowerBetween : (before : Bool) → List Char → (after : Bool) → List Char
  | _, [], _ => []
  | before, c :: rest, after =>
    lowerBeside before c (seenFromStart rest after) ++ lowerBetween (look c before) rest after

theorem lowerAfter_eq (before : Bool) (cs : List Char) : lowerAfter before cs = lowerBetween before cs false := by
  induction cs generalizing before with
  | nil => rfl
  | cons c rest ih =>
    rw [lowerAfter, lowerBetween, startsCased_eq, ih]
    rfl

theorem lowerBetween_append (before : Bool) (cs ds : List Char) (after : Bool) :
    lowerBetween before (cs ++ ds) after =
      lowerBetween before cs (seenFromStart ds after) ++ lowerBetween (seenFromEnd before cs) ds after := by
  induction cs generalizing before with
  | nil => rfl
  | cons c rest ih =>
    rw [List.cons_append, lowerBetween, lowerBetween, ih, List.append_assoc, seenFromStart, List.foldr_append]
    rfl

/-- A part of a text is lower-cased between its neighbours. -/
theorem lowerChars_infix (cs part ds : List Char) :
    lowerBetween (seenFromEnd false cs) part (startsCased ds) <:+: lowerChars (cs ++ part ++ ds) := by
  rw [lowerChars, lowerAfter_eq, List.append_assoc, lowerBetween_append, lowerBetween_append, startsCased_eq,
    ← List.append_assoc]
  exact ⟨_, _, rfl⟩


/-! ## Sigmas at the ends -/

theorem isCaseIgnorable_sigma : isCaseIgnorable 'Σ' = false := by
  decide +kernel

theorem ne_sigma_of_isCaseIgnorable {c : Char} (mark : isCaseIgnorable c = true) : c ≠ 'Σ' := by
  rintro rfl
  rw [isCaseIgnorable_sigma] at mark
  cases mark

theorem lowerBeside_of_ne {c : Char} (other : c ≠ 'Σ') (before after : Bool) : lowerBeside before c after = lowerChar c :=
  if_neg other

/-- The letter `a` is cased, and in lower case. -/
theorem look_letter (beyond : Bool) : look 'a' beyond = true := by
  cases beyond <;> decide +kernel

theorem lowerBeside_letter (before after : Bool) : lowerBeside before 'a' after = ['a'] := by
  rw [lowerBeside_of_ne (by decide)]
  decide +kernel

/-- What follows a capital sigma that a text starts with, past the characters that are passed over. -/
def afterSigma? (cs : List Char) : Option (List Char) :=
  match cs.dropWhile isCaseIgnorable with
  | c :: rest => if c = 'Σ' then some rest else none
  | [] => none

/-- Whether a text starts with a sigma that ends a word if it stands after a cased character. -/
def opensLoose (cs : List Char) (after : Bool) : Bool :=
  (afterSigma? cs).any fun rest => !seenFromStart rest after

/-- Whether a text ends with a sigma that ends a word, unless it stands before a cased character. -/
def closesLoose (cs : List Char) : Bool :=
  (afterSigma? cs.reverse).any startsCased

theorem afterSigma?_cons (c : Char) (rest : List Char) :
    afterSigma? (c :: rest) =
      if isCaseIgnorable c then afterSigma? rest else if c = 'Σ' then some rest else none := by
  unfold afterSigma?
  rw [List.dropWhile_cons]
  by_cases mark : isCaseIgnorable c = true
  · rw [if_pos mark, if_pos mark]
  · rw [if_neg mark, if_neg mark]

/-- A list has the letter `x` once less than another one where the two differ, and is the same list where they do not. -/
def OneLess (x : Char) (differ : Bool) (fewer list : List Char) : Prop :=
  if differ then fewer.count x + 1 = list.count x else fewer = list

namespace OneLess

variable {x : Char} {differ : Bool} {fewer list : List Char}

theorem append_left (h : OneLess x differ fewer list) (front : List Char) :
    OneLess x differ (front ++ fewer) (front ++ list) := by
  cases differ with
  | false => exact congrArg (front ++ ·) h
  | true =>
    simp only [OneLess, if_true, List.count_append, Nat.add_assoc, Nat.add_left_cancel_iff] at h ⊢
    exact h

theorem append_right (h : OneLess x differ fewer list) (back : List Char) :
    OneLess x differ (fewer ++ back) (list ++ back) := by
  cases differ with
  | false => exact congrArg (· ++ back) h
  | true =>
    simp only [OneLess, if_true, List.count_append, Nat.add_right_comm _ _ 1, Nat.add_right_cancel_iff] at h ⊢
    exact h

theorem differ_eq_false (h : OneLess x differ fewer list) (le : list.count x ≤ fewer.count x) : differ = false := by
  cases differ with
  | false => rfl
  | true => exact absurd ((Nat.le_of_eq h).trans le) (Nat.not_succ_le_self _)

end OneLess

/-- What stands before a text counts for a sigma that it opens with, and for nothing else. -/
theorem lowerBetween_before (cs : List Char) (after : Bool) :
    OneLess 'σ' (opensLoose cs after) (lowerBetween true cs after) (lowerBetween false cs after) := by
  induction cs with
  | nil => rfl
  | cons c rest ih =>
    rw [lowerBetween, lowerBetween, look, look, opensLoose, afterSigma?_cons]
    by_cases mark : isCaseIgnorable c = true
    · have other := ne_sigma_of_isCaseIgnorable mark
      rw [if_pos mark, if_pos mark, if_pos mark, lowerBeside_of_ne other, lowerBeside_of_ne other]
      exact ih.append_left _
    · rw [if_neg mark, if_neg mark, if_neg mark]
      apply OneLess.append_right
      by_cases sigma : c = 'Σ'
      · rw [if_pos sigma, Option.any_some, sigma]
        cases seenFromStart rest after <;> simp [OneLess, lowerBeside]
      · rw [if_neg sigma, lowerBeside_of_ne sigma, lowerBeside_of_ne sigma]
        rfl

/-- What stands after a text that begins a word counts for a sigma that it closes with, and for nothing else. -/
theorem lowerBetween_after (cs : List Char) :
    OneLess 'ς' (closesLoose cs) (lowerBetween false cs true) (lowerBetween false cs false) := by
  -- from the end, where what stands after the text is seen first
  induction cs using List.reverseRecOn with
  | nil => rfl
  | append_singleton rest c ih =>
    have last (after : Bool) : lowerBetween false (rest ++ [c]) after =
        lowerBetween false rest (look c after) ++ lowerBeside (startsCased rest.reverse) c after := by
      rw [lowerBetween_append, seenFromEnd_eq, ← startsCased_eq, lowerBetween, lowerBetween, List.append_nil]
      rfl
    rw [last, last, look, look, closesLoose, List.reverse_append, List.reverse_singleton, List.singleton_append,
      afterSigma?_cons]
    by_cases mark : isCaseIgnorable c = true
    · have other := ne_sigma_of_isCaseIgnorable mark
      rw [if_pos mark, if_pos mark, if_pos mark, lowerBeside_of_ne other, lowerBeside_of_ne other]
      exact ih.append_right _
    · rw [if_neg mark, if_neg mark, if_neg mark]
      apply OneLess.append_left
      by_cases sigma : c = 'Σ'
      · rw [if_pos sigma, Option.any_some, sigma]
        cases startsCased rest.reverse <;> simp [OneLess, lowerBeside]
      · rw [if_neg sigma, lowerBeside_of_ne sigma, lowerBeside_of_ne sigma]
        rfl

/-- Whether no sigma at an end of a text depends on what stands around the text. -/
def isSettled (cs : List Char) : Bool :=
  !opensLoose cs false && !closesLoose cs

theorem isSettled_iff {cs : List Char} : isSettled cs = true ↔ opensLoose cs false = false ∧ closesLoose cs = false := by
  rw [isSettled, Bool.and_eq_true, Bool.not_eq_true', Bool.not_eq_true']

theorem opensLoose_eq_false {cs : List Char} (h : opensLoose cs false = false) (after : Bool) :
    opensLoose cs after = false := by
  rw [opensLoose, Option.any_eq_false] at h ⊢
  intro rest follows
  have seen := h rest follows
  rw [Bool.not_eq_false'] at seen ⊢
  exact seenFromStart_of_seen seen after

/-- The lower case of a settled text is the same in every place. -/
theorem lowerBetween_of_isSettled {cs : List Char} (settled : isSettled cs = true) (before after : Bool) :
    lowerBetween before cs after = lowerChars cs := by
  obtain ⟨opens, closes⟩ := isSettled_iff.mp settled
  have start : lowerBetween before cs after = lowerBetween false cs after := by
    have same := lowerBetween_before cs after
    rw [opensLoose_eq_false opens after] at same
    cases before with
    | false => rfl
    | true => exact same
  have finish : lowerBetween false cs after = lowerBetween false cs false := by
    have same := lowerBetween_after cs
    rw [closes] at same
    cases after with
    | false => rfl
    | true => exact same
  rw [start, finish, lowerChars, lowerAfter_eq]

/-- A text in lower case is a part of the lower case of every text that it is a part of, exactly if it is settled. -/
theorem infix_lowerChars_iff (part : List Char) :
    (∀ text, part <:+: text → lowerChars part <:+: lowerChars text) ↔ isSettled part = true := by
  constructor
  · intro found
    apply isSettled_iff.mpr
    constructor
    · -- a text that starts with a loose sigma has one small sigma fewer after a letter
      have after := (found ('a' :: part) (List.suffix_cons 'a' part).isInfix).sublist.count_le 'σ'
      have letter : lowerChars ('a' :: part) = 'a' :: lowerBetween true part false := by
        rw [lowerChars, lowerAfter_eq, lowerBetween, lowerBeside_letter, look_letter, List.singleton_append]
      rw [letter, lowerChars, lowerAfter_eq, List.count_cons_of_ne (by decide)] at after
      exact (lowerBetween_before part false).differ_eq_false after
    · -- a text that ends with a loose sigma has one final sigma fewer before a letter
      have before := (found (part ++ ['a']) (List.prefix_append part ['a']).isInfix).sublist.count_le 'ς'
      have letter : lowerChars (part ++ ['a']) = lowerBetween false part true ++ ['a'] := by
        rw [lowerChars, lowerAfter_eq, lowerBetween_append, seenFromStart, List.foldr_cons, look_letter, lowerBetween,
          lowerBeside_letter, lowerBetween, List.append_nil]
      rw [letter, lowerChars, lowerAfter_eq, List.count_append, List.count_singleton, if_neg (by decide),
        Nat.add_zero] at before
      exact (lowerBetween_after part).differ_eq_false before
  · rintro settled _ ⟨cs, ds, rfl⟩
    rw [← lowerBetween_of_isSettled settled]
    exact lowerChars_infix cs part ds

example : isSettled "ΟΔΥΣ".toList = false ∧ isSettled "ΟΔΥΣΣΕΑ".toList = true := by
  decide +kernel

/-- A text is found in lower case wherever no cased character is seen on either side of it. -/
theorem infix_lowerChars_of_alone {cs ds : List Char} (before : startsCased cs.reverse = false) (after : startsCased ds = false)
    (part : List Char) : lowerChars part <:+: lowerChars (cs ++ part ++ ds) := by
  have within := lowerChars_infix cs part ds
  rw [seenFromEnd_eq, ← startsCased_eq, before, after, ← lowerAfter_eq] at within
  exact within

end Text


/-! ## Searching -/

namespace Predicate

theorem contains_holds {column needle : String} {row : Row} :
    (contains column needle).holds row = true ↔
      ∃ value ∈ Test.items (row.lookup column), containsText needle value = true := by
  have elements := Test.holds_on (.contains needle) column row
  rw [← List.any_eq_true]
  exact Bool.eq_iff_iff.mp elements

theorem containsText_str {needle text : String} :
    containsText needle (.str text) = true ↔ Text.lowerChars needle.toList <:+: Text.lowerChars text.toList := by
  rw [← Text.occurs_iff]
  rfl

/-- A search for a settled text finds it in every row that has it as a part of a text, and a search for any other text misses
it in some row. Even that is found wherever no cased character is seen on either side of it. And one may as well search for
the text in lower case. -/
theorem contains_literal (column needle : String) :
    ((∀ (row : Row) (text : String), .str text ∈ Test.items (row.lookup column) → needle.toList <:+: text.toList →
        (contains column needle).holds row = true) ↔
      Text.isSettled needle.toList = true) ∧
    (∀ (row : Row) (text : String) (before after : List Char), .str text ∈ Test.items (row.lookup column) →
      text.toList = before ++ needle.toList ++ after →
      Text.startsCased before.reverse = false → Text.startsCased after = false →
        (contains column needle).holds row = true) ∧
    ∀ row : Row, (contains column (Text.lower needle)).holds row = (contains column needle).holds row := by
  refine ⟨?_, ?_, ?_⟩
  · rw [← Text.infix_lowerChars_iff]
    constructor
    · intro found text part
      -- a row with the text, and nothing else, at the column
      have shown : Test.items ((Row.insert [] column (.str (String.ofList text))).lookup column) =
          [.str (String.ofList text)] := by
        rw [Row.lookup_insert_self]
        rfl
      have matched := found (Row.insert [] column (.str (String.ofList text))) (String.ofList text)
      rw [contains_holds, shown, String.toList_ofList] at matched
      obtain ⟨value, member, contained⟩ := matched (List.mem_singleton_self _) part
      obtain rfl := List.mem_singleton.mp member
      rw [containsText_str, String.toList_ofList] at contained
      exact contained
    · intro found row text member part
      exact contains_holds.mpr ⟨_, member, containsText_str.mpr (found _ part)⟩
  · intro row text before after member split startsAlone endsAlone
    apply contains_holds.mpr
    refine ⟨_, member, containsText_str.mpr ?_⟩
    rw [split]
    exact Text.infix_lowerChars_of_alone startsAlone endsAlone _
  · intro row
    have same : containsText (Text.lower needle) = containsText needle := by
      funext value
      unfold containsText
      rw [Text.lower, String.toList_ofList, Text.lowerChars_lowerChars]
    rw [holds, holds, same]

/-- A word that ends with a sigma is missed at the start of a longer word. -/
theorem contains_missed :
    .str "ΟΔΥΣΣΕΑΣ" ∈ Test.items (Row.lookup [("name", .str "ΟΔΥΣΣΕΑΣ")] "name") ∧
      "ΟΔΥΣ".toList <:+: "ΟΔΥΣΣΕΑΣ".toList ∧
      (contains "name" "ΟΔΥΣ").holds [("name", .str "ΟΔΥΣΣΕΑΣ")] = false := by
  refine ⟨?_, ⟨[], "ΣΕΑΣ".toList, by decide⟩, by decide +kernel⟩
  have name : Row.lookup [("name", .str "ΟΔΥΣΣΕΑΣ")] "name" = some (.str "ΟΔΥΣΣΕΑΣ") := rfl
  rw [name]
  exact List.mem_singleton_self _

end Predicate

end DataGrid
