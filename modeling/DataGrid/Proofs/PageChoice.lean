-- SUMMARY: Which values name a page or its size, and what is resolved after any history of them.
import Mathlib.Data.List.Basic
import Mathlib.Data.List.Induction
import Mathlib.Data.List.TakeWhile
import Mathlib.Data.Nat.Digits.Defs
import DataGrid.Request.Pagination

/-!
# Resolved pages

A page and its size are named by positive integers of 64 bits, or by texts that hold
one in decimal digits. Values for the two are taken in any order. Each of the two is
then the last of its own values that was usable, or the default if none was, and the
rows that are skipped are those on the pages before.
-/

namespace DataGrid

/-! ## Trimmed texts -/

namespace Text

/-- What is left of some characters when the white space around it is taken away. -/
structure IsTrimmed (cs core : List Char) : Prop where
  around : ∃ before after, cs = before ++ core ++ after ∧ (∀ c ∈ before, isBlankChar c = true) ∧
    ∀ c ∈ after, isBlankChar c = true
  first : ∀ c, core.head? = some c → isBlankChar c = false
  last : ∀ c, core.getLast? = some c → isBlankChar c = false

theorem dropWhile_eq_self {cs : List Char} (first : ∀ c, cs.head? = some c → isBlankChar c = false) :
    cs.dropWhile isBlankChar = cs := by
  cases cs with
  | nil => rfl
  | cons c rest => exact List.dropWhile_cons_of_neg (by simp [first c rfl])

/-- What is left after white space at the beginning does not begin with any. -/
theorem head?_dropWhile {cs : List Char} {c : Char} (h : (cs.dropWhile isBlankChar).head? = some c) :
    isBlankChar c = false := by
  have first := List.head?_dropWhile_not isBlankChar cs
  rwa [h] at first

theorem IsTrimmed.trimChars_eq {cs core : List Char} (h : IsTrimmed cs core) : trimChars cs = core := by
  obtain ⟨before, after, rfl, blankBefore, blankAfter⟩ := h.around
  have begun : (before ++ core ++ after).dropWhile isBlankChar = (core ++ after).dropWhile isBlankChar := by
    rw [List.append_assoc, List.dropWhile_append_of_pos blankBefore]
  cases core with
  | nil =>
    have nothing : after.dropWhile isBlankChar = [] := List.dropWhile_eq_nil_iff.mpr blankAfter
    rw [trimChars, begun, List.nil_append, nothing]
    rfl
  | cons c rest =>
    have kept : ((c :: rest) ++ after).dropWhile isBlankChar = (c :: rest) ++ after :=
      dropWhile_eq_self fun d hd => h.first d hd
    have ended : ((c :: rest) ++ after).reverse.dropWhile isBlankChar = (c :: rest).reverse := by
      rw [List.reverse_append, List.dropWhile_append_of_pos (by simpa using blankAfter)]
      refine dropWhile_eq_self fun d hd => h.last d ?_
      rwa [List.head?_reverse] at hd
    rw [trimChars, begun, kept, ended, List.reverse_reverse]

theorem isTrimmed_trimChars (cs : List Char) : IsTrimmed cs (trimChars cs) := by
  -- The white space at the end is the one at the beginning of what is left, read backwards.
  obtain ⟨after, left, blankAfter⟩ : ∃ after, cs.dropWhile isBlankChar = trimChars cs ++ after ∧
      ∀ c ∈ after, isBlankChar c = true := by
    refine ⟨((cs.dropWhile isBlankChar).reverse.takeWhile isBlankChar).reverse, ?_, fun c hc => ?_⟩
    · rw [trimChars, ← List.reverse_append, List.takeWhile_append_dropWhile, List.reverse_reverse]
    · exact List.mem_takeWhile_imp (List.mem_reverse.mp hc)
  constructor
  case around =>
    refine ⟨cs.takeWhile isBlankChar, after, ?_, fun c => List.mem_takeWhile_imp, blankAfter⟩
    rw [List.append_assoc, ← left, List.takeWhile_append_dropWhile]
  case first =>
    intro c hc
    have begins : (cs.dropWhile isBlankChar).head? = some c := by
      rw [left, List.head?_append, hc, Option.some_or]
    exact head?_dropWhile begins
  case last =>
    intro c hc
    rw [trimChars, List.getLast?_reverse] at hc
    exact head?_dropWhile hc

end Text


/-! ## Usable values -/

namespace Pagination

/-- A number is written in decimal digits, the most significant one first. There may be a plus sign before them. -/
def IsWritten (cs : List Char) (n : Nat) : Prop :=
  ∃ digits : List Nat, digits ≠ [] ∧ (∀ d ∈ digits, d < 10) ∧
    (cs = digits.map Nat.digitChar ∨ cs = '+' :: digits.map Nat.digitChar) ∧ n = Nat.ofDigits 10 digits.reverse

/-- A value stands for a number of 64 bits that is not zero: it is the integer itself, or a text that is written so, with or
without white space around it. -/
inductive Names : Json → Nat → Prop where
  | integer {n : Nat} (positive : 1 ≤ n) (fits : n ≤ 2 ^ 64 - 1) : Names (.num (.int n)) n
  | text {s : String} {core : List Char} {n : Nat} (trimmed : Text.IsTrimmed s.toList core) (written : IsWritten core n)
    (positive : 1 ≤ n) (fits : n ≤ 2 ^ 64 - 1) : Names (.str s) n

theorem Names.positive {value : Json} {n : Nat} (h : Names value n) : 1 ≤ n := by
  cases h <;> assumption

theorem digitChar_of_isDigit {c : Char} (h : c.isDigit = true) :
    c.toNat - '0'.toNat < 10 ∧ Nat.digitChar (c.toNat - '0'.toNat) = c := by
  obtain ⟨least, greatest⟩ := Char.isDigit_iff_toNat.mp h
  have zero : '0'.toNat = 48 := rfl
  have nine : '9'.toNat = 57 := rfl
  have small : c.toNat - '0'.toNat < 10 := by omega
  refine ⟨small, Char.toNat_inj.mp ?_⟩
  rw [Nat.toNat_digitChar_of_lt_ten small]
  omega

/-- The characters that are digits are those of the numbers below ten. -/
theorem all_isDigit_iff {cs : List Char} :
    cs.all Char.isDigit = true ↔ ∃ digits : List Nat, (∀ d ∈ digits, d < 10) ∧ cs = digits.map Nat.digitChar := by
  constructor
  · intro h
    have digit (c : Char) (hc : c ∈ cs) := digitChar_of_isDigit (List.all_eq_true.mp h c hc)
    refine ⟨cs.map fun c => c.toNat - '0'.toNat, ?_, ?_⟩
    · intro d hd
      obtain ⟨c, hc, rfl⟩ := List.mem_map.mp hd
      exact (digit c hc).1
    · rw [List.map_map]
      exact (List.map_id'' (fun _ => rfl) cs).symm.trans (List.map_congr_left fun c hc => (digit c hc).2.symm)
  · rintro ⟨digits, small, rfl⟩
    refine List.all_eq_true.mpr fun c hc => ?_
    obtain ⟨d, hd, rfl⟩ := List.mem_map.mp hc
    simp [Nat.isDigit_digitChar, small d hd]

/-- Reading digits from the first to the last gives the number that they are the digits of. -/
theorem foldl_digitChar {digits : List Nat} (small : ∀ d ∈ digits, d < 10) :
    (digits.map Nat.digitChar).foldl (fun n c => 10 * n + (c.toNat - '0'.toNat)) 0 = Nat.ofDigits 10 digits.reverse := by
  rw [List.foldl_map, Nat.ofDigits_eq_foldr, List.foldr_reverse]
  refine List.foldl_ext _ _ 0 fun n d hd => ?_
  have zero : '0'.toNat = 48 := rfl
  rw [Nat.toNat_digitChar_of_lt_ten (small d hd)]
  simp only [Nat.cast_id]
  omega

/-- Characters are read as digits if there are some and nothing else. -/
theorem digits_eq_some_iff {cs : List Char} {n : Nat} :
    (if cs.isEmpty || !cs.all Char.isDigit then none
      else some (cs.foldl (fun n c => 10 * n + (c.toNat - '0'.toNat)) 0)) = some n ↔
    ∃ digits : List Nat, digits ≠ [] ∧ (∀ d ∈ digits, d < 10) ∧ cs = digits.map Nat.digitChar ∧
      n = Nat.ofDigits 10 digits.reverse := by
  simp only [Bool.or_eq_true, List.isEmpty_iff, Bool.not_eq_true', Option.ite_none_left_eq_some, not_or,
    Bool.not_eq_false, all_isDigit_iff, Option.some.injEq]
  constructor
  · rintro ⟨⟨some, digits, small, rfl⟩, rfl⟩
    exact ⟨digits, mt (congrArg (List.map Nat.digitChar)) some, small, rfl, foldl_digitChar small⟩
  · rintro ⟨digits, some, small, rfl, rfl⟩
    exact ⟨⟨mt List.map_eq_nil_iff.mp some, digits, small, rfl⟩, foldl_digitChar small⟩

theorem plus_ne_digitChar {digits : List Nat} (small : ∀ d ∈ digits, d < 10) (rest : List Char) :
    '+' :: rest ≠ digits.map Nat.digitChar := by
  intro same
  have digit : ('+' :: rest).all Char.isDigit = true := all_isDigit_iff.mpr ⟨digits, small, same⟩
  exact absurd (List.all_eq_true.mp digit '+' List.mem_cons_self) (by decide)

/-- Characters are read as the number that is written. -/
theorem numeral?_eq_some_iff {cs : List Char} {n : Nat} : numeral? cs = some n ↔ IsWritten cs n := by
  unfold numeral?
  split
  · next rest =>
    refine digits_eq_some_iff.trans (exists_congr fun digits => ?_)
    refine and_congr_right fun _ => and_congr_right fun small => and_congr ?_ Iff.rfl
    rw [or_iff_right (plus_ne_digitChar small rest), List.cons.injEq, and_iff_right rfl]
  · next unsigned =>
    refine digits_eq_some_iff.trans (exists_congr fun digits => ?_)
    refine and_congr_right fun _ => and_congr_right fun small => and_congr ?_ Iff.rfl
    exact (or_iff_left (unsigned _)).symm

theorem toCount?_eq_some_iff {number : Number} {n : Nat} :
    number.toCount? = some n ↔ number = .int n ∧ n ≤ Number.greatestInt := by
  cases number with
  | double d => simp [Number.toCount?]
  | int i =>
    simp only [Number.toCount?, Option.ite_none_right_eq_some, Option.some.injEq, Number.int.injEq]
    omega

/-- A value is read as the number that it stands for. -/
theorem positive?_eq_some_iff {value : Json} {n : Nat} : positive? value = some n ↔ Names value n := by
  unfold positive?
  rw [Option.filter_eq_some_iff, Bool.and_eq_true, decide_eq_true_eq, decide_eq_true_eq]
  constructor
  · rintro ⟨read, positive, fits⟩
    cases value with
    | num number =>
      obtain ⟨rfl, -⟩ := toCount?_eq_some_iff.mp read
      exact .integer positive fits
    | str s => exact .text (Text.isTrimmed_trimChars s.toList) (numeral?_eq_some_iff.mp read) positive fits
    | _ => cases read
  · rintro (⟨positive, fits⟩ | ⟨trimmed, written, positive, fits⟩)
    · exact ⟨toCount?_eq_some_iff.mpr ⟨rfl, fits⟩, positive, fits⟩
    · rw [← trimmed.trimChars_eq] at written
      exact ⟨numeral?_eq_some_iff.mpr written, positive, fits⟩

end Pagination


/-! ## Histories -/

namespace PageChoice

open Pagination (Names)

/-- What values can be taken for. -/
inductive Part where
  | limit
  | page
  deriving DecidableEq

/-- What is resolved as long as no usable value has been taken. -/
def Part.initially : Part → Nat
  | .limit => 10
  | .page => 1

def get (choice : PageChoice) : Part → Nat
  | .limit => choice.limit
  | .page => choice.page

/-- Take a value, which may be missing. -/
def take (choice : PageChoice) : Part → Option Json → PageChoice
  | .limit, value => choice.takeLimit value
  | .page, value => choice.takePage value

/-- What is answered to a value that is taken: what is resolved by then. -/
def answer (choice : PageChoice) (part : Part) (value : Option Json) : Nat :=
  (choice.take part value).get part

/-- Take some values one after the other. -/
def takeAll (choice : PageChoice) (values : List (Part × Option Json)) : PageChoice :=
  values.foldl (fun choice value => choice.take value.1 value.2) choice

/-- The values that are taken for one part, in order. -/
def valuesFor (part : Part) (values : List (Part × Option Json)) : List (Option Json) :=
  (values.filter (·.1 = part)).map (·.2)

/-- None of some values is usable. -/
def NoneUsable (values : List (Option Json)) : Prop :=
  ∀ value ∈ values, ∀ given, value = some given → ∀ n, ¬Names given n

theorem noneUsable_nil : NoneUsable [] :=
  List.forall_mem_nil _

theorem noneUsable_append {values values' : List (Option Json)} :
    NoneUsable (values ++ values') ↔ NoneUsable values ∧ NoneUsable values' :=
  List.forall_mem_append

theorem noneUsable_singleton {value : Option Json} (unread : value.bind Pagination.positive? = none) :
    NoneUsable [value] := by
  intro _ listed given here n usable
  rw [← List.mem_singleton.mp listed, here, Option.bind_some, Pagination.positive?_eq_some_iff.mpr usable] at unread
  cases unread

/-- The number that the last usable one of some values names, or where none is usable the one to start from. -/
inductive LastNamed (start : Nat) : List (Option Json) → Nat → Prop where
  | none {values : List (Option Json)} (unusable : NoneUsable values) : LastNamed start values start
  | last {earlier later : List (Option Json)} {value : Json} {n : Nat} (named : Names value n)
    (unusable : NoneUsable later) : LastNamed start (earlier ++ some value :: later) n

/-- One more value replaces the number if it is usable, and leaves it otherwise. -/
theorem LastNamed.append {start n : Nat} {values : List (Option Json)} (h : LastNamed start values n)
    (value : Option Json) : LastNamed start (values ++ [value]) ((value.bind Pagination.positive?).getD n) := by
  cases read : value.bind Pagination.positive? with
  | some m =>
    obtain ⟨given, rfl, read⟩ := Option.bind_eq_some_iff.mp read
    exact .last (Pagination.positive?_eq_some_iff.mp read) noneUsable_nil
  | none =>
    have unusable := noneUsable_singleton read
    cases h with
    | none before => exact .none (noneUsable_append.mpr ⟨before, unusable⟩)
    | last named after =>
      rw [List.append_assoc, List.cons_append]
      exact .last named (noneUsable_append.mpr ⟨after, unusable⟩)

theorem LastNamed.positive {start n : Nat} {values : List (Option Json)} (h : LastNamed start values n)
    (hstart : 1 ≤ start) : 1 ≤ n := by
  cases h with
  | none => exact hstart
  | last named => exact named.positive

theorem get_take (choice : PageChoice) (part taken : Part) (value : Option Json) :
    (choice.take taken value).get part =
      if taken = part then (value.bind Pagination.positive?).getD (choice.get part) else choice.get part := by
  cases part <;> cases taken <;> rfl

theorem takeAll_append (choice : PageChoice) (values : List (Part × Option Json)) (part : Part) (value : Option Json) :
    choice.takeAll (values ++ [(part, value)]) = (choice.takeAll values).take part value :=
  List.foldl_append

theorem valuesFor_append (part taken : Part) (values : List (Part × Option Json)) (value : Option Json) :
    valuesFor part (values ++ [(taken, value)]) =
      if taken = part then valuesFor part values ++ [value] else valuesFor part values := by
  unfold valuesFor
  rw [List.filter_append, List.map_append]
  by_cases same : taken = part <;> simp [same]

/-- After any values, each part is what the last usable one of its own values names. -/
theorem lastNamed_takeAll (values : List (Part × Option Json)) (part : Part) :
    LastNamed part.initially (valuesFor part values) ((initial.takeAll values).get part) := by
  induction values using List.reverseRecOn with
  | nil =>
    have start : initial.get part = part.initially := by cases part <;> rfl
    change LastNamed part.initially [] (initial.get part)
    rw [start]
    exact .none noneUsable_nil
  | append_singleton values value ih =>
    obtain ⟨taken, value⟩ := value
    rw [takeAll_append, valuesFor_append, get_take]
    split
    · exact ih.append value
    · exact ih

/-- Values for a page and for its size are taken in any order. What is answered is the number that the last usable value of
the same kind names, or the default if there has been none, and it is never zero. The rows of the pages before are skipped,
up to the greatest count. -/
theorem answer_lastNamed (values : List (Part × Option Json)) :
    (∀ part value, LastNamed part.initially (valuesFor part values ++ [value])
      ((initial.takeAll values).answer part value)) ∧
    (∀ part, LastNamed part.initially (valuesFor part values) ((initial.takeAll values).get part) ∧
      1 ≤ (initial.takeAll values).get part) ∧
    ∀ limit page, (Pagination.window limit page).skip = min ((page - 1) * limit) (2 ^ 64 - 1) := by
  refine ⟨fun part value => ?_, fun part => ?_, fun limit page => rfl⟩
  · have after := lastNamed_takeAll (values ++ [(part, value)]) part
    rwa [takeAll_append, valuesFor_append, if_pos rfl] at after
  · have resolved := lastNamed_takeAll values part
    exact ⟨resolved, resolved.positive (by cases part <;> decide)⟩

/-- A text with a sign and a blank is usable; a text with a minus sign, a double and a missing value are not. -/
example :
    initial.takeAll [(.limit, some (.str "+25 ")), (.page, some (.ofNat 3)), (.limit, some (.str "-4")),
      (.limit, some (.num (.double (.ofInt 7)))), (.page, none)] = ⟨25, 3⟩ := by
  decide +kernel

end PageChoice

end DataGrid
