-- SUMMARY: What it is to match a pattern, and that a literal text's pattern is matched by the texts that contain it.
import DataGrid.Proofs.Lowercase
import DataGrid.Proofs.Sql.Like

/-!
# Escaped patterns

Matching is a relation between patterns and texts, with one rule for each kind of
character in a pattern. Reading a pattern into parts and matching these comes to the
same. In the pattern of a literal text each character stands for itself, between two
runs of any characters: a text in lower case matches exactly if it contains the literal
text in lower case.
-/

namespace DataGrid.Sql.Like

/-! ## Matching -/

/-- A text matches a pattern: `%` takes any run of characters and `_` any one. The character after an escape character
takes itself, and so does every other character, up to the case of ASCII letters. -/
inductive Matches : List Char → List Char → Prop where
  | nil : Matches [] []
  | anyRun (run : List Char) {pattern text : List Char} :
      Matches pattern text → Matches ('%' :: pattern) (run ++ text)
  | anyOne (c : Char) {pattern text : List Char} :
      Matches pattern text → Matches ('_' :: pattern) (c :: text)
  | escaped {c d : Char} {pattern text : List Char} :
      c.toLower = d.toLower → Matches pattern text → Matches (escape :: c :: pattern) (d :: text)
  | literal {c d : Char} {pattern text : List Char} :
      ¬(c = '%' ∨ c = '_' ∨ c = escape) → c.toLower = d.toLower → Matches pattern text →
        Matches (c :: pattern) (d :: text)

/-- A pattern is empty, or begins with a special character or a plain one. -/
theorem pattern_induction {motive : List Char → Prop} (nil : motive [])
    (anyRun : ∀ rest, motive rest → motive ('%' :: rest)) (anyOne : ∀ rest, motive rest → motive ('_' :: rest))
    (unfinished : motive [escape]) (escaped : ∀ c rest, motive rest → motive (escape :: c :: rest))
    (literal : ∀ c rest, ¬(c = '%' ∨ c = '_' ∨ c = escape) → motive rest → motive (c :: rest)) (pattern : List Char) :
    motive pattern := by
  suffices motive pattern ∧ ∀ c, motive (c :: pattern) from this.1
  induction pattern with
  | nil =>
    refine ⟨nil, fun c => ?_⟩
    by_cases special : c = '%' ∨ c = '_' ∨ c = escape
    · rcases special with rfl | rfl | rfl
      · exact anyRun [] nil
      · exact anyOne [] nil
      · exact unfinished
    · exact literal c [] special nil
  | cons d rest ih =>
    refine ⟨ih.2 d, fun c => ?_⟩
    by_cases special : c = '%' ∨ c = '_' ∨ c = escape
    · rcases special with rfl | rfl | rfl
      · exact anyRun _ (ih.2 d)
      · exact anyOne _ (ih.2 d)
      · exact escaped d rest ih.1
    · exact literal c _ special (ih.2 d)

theorem someEnd_iff {test : List Char → Bool} {text : List Char} :
    someEnd test text = true ↔ ∃ rest, rest <:+ text ∧ test rest = true := by
  induction text with
  | nil => simp [someEnd]
  | cons c text ih => simp [someEnd, ih, List.suffix_cons_iff, or_and_right, exists_or]

/-- A literal takes the first character of a text. -/
theorem matchParts_literal_iff {c : Char} {parts : List Part} {text : List Char} :
    matchParts (.literal c :: parts) text = true ↔
      ∃ d rest, text = d :: rest ∧ c.toLower = d.toLower ∧ matchParts parts rest = true := by
  cases text with
  | nil => simp [matchParts]
  | cons d rest =>
    rw [matchParts, Bool.and_eq_true, beq_iff_eq]
    constructor
    · exact fun h => ⟨d, rest, rfl, h⟩
    · rintro ⟨d, rest, ⟨⟩, h⟩
      exact h

theorem exists_parts_of_matches {pattern text : List Char} (h : Matches pattern text) :
    ∃ parts, parts? pattern = some parts ∧ matchParts parts text = true := by
  induction h with
  | nil => exact ⟨[], rfl, rfl⟩
  | @anyRun run pattern text _ ih =>
    obtain ⟨parts, read, h⟩ := ih
    refine ⟨.anyRun :: parts, by rw [parts?_anyRun, read, Option.map_some], ?_⟩
    rw [matchParts, someEnd_iff]
    exact ⟨text, List.suffix_append run text, h⟩
  | anyOne c _ ih =>
    obtain ⟨parts, read, h⟩ := ih
    exact ⟨.anyOne :: parts, by rw [parts?_anyOne, read, Option.map_some], h⟩
  | @escaped c d _ _ same _ ih =>
    obtain ⟨parts, read, h⟩ := ih
    exact ⟨.literal c :: parts, by rw [parts?_escaped, read, Option.map_some],
      matchParts_literal_iff.mpr ⟨d, _, rfl, same, h⟩⟩
  | @literal c d _ _ plain same _ ih =>
    obtain ⟨parts, read, h⟩ := ih
    exact ⟨.literal c :: parts, by rw [parts?_literal plain, read, Option.map_some],
      matchParts_literal_iff.mpr ⟨d, _, rfl, same, h⟩⟩

theorem matches_of_matchParts {pattern text : List Char} {parts : List Part} (read : parts? pattern = some parts)
    (h : matchParts parts text = true) : Matches pattern text := by
  induction pattern using pattern_induction generalizing parts text with
  | nil =>
    obtain rfl := Option.some.inj read
    obtain rfl := List.isEmpty_iff.mp h
    exact .nil
  | anyRun pattern ih =>
    rw [parts?_anyRun, Option.map_eq_some_iff] at read
    obtain ⟨parts, read, rfl⟩ := read
    rw [matchParts, someEnd_iff] at h
    obtain ⟨rest, ⟨run, rfl⟩, h⟩ := h
    exact .anyRun run (ih read h)
  | anyOne pattern ih =>
    rw [parts?_anyOne, Option.map_eq_some_iff] at read
    obtain ⟨parts, read, rfl⟩ := read
    cases text with
    | nil => cases h
    | cons c rest => exact .anyOne c (ih read h)
  | unfinished => cases read
  | escaped c pattern ih =>
    rw [parts?_escaped, Option.map_eq_some_iff] at read
    obtain ⟨parts, read, rfl⟩ := read
    obtain ⟨d, rest, rfl, same, h⟩ := matchParts_literal_iff.mp h
    exact .escaped same (ih read h)
  | literal c pattern plain ih =>
    rw [parts?_literal plain, Option.map_eq_some_iff] at read
    obtain ⟨parts, read, rfl⟩ := read
    obtain ⟨d, rest, rfl, same, h⟩ := matchParts_literal_iff.mp h
    exact .literal plain same (ih read h)

/-- Matching a pattern is matching what is read of it. -/
theorem isMatch_iff {pattern text : List Char} :
    isMatch pattern text = true ↔ Matches (upToNul pattern) (upToNul text) := by
  unfold isMatch
  constructor
  · intro h
    split at h
    · next parts read => exact matches_of_matchParts read h
    · cases h
  · intro h
    obtain ⟨parts, read, h⟩ := exists_parts_of_matches h
    simp only [read, h]


/-! ## Literal texts -/

/-- In the pattern of a literal text every character stands for itself. -/
theorem parts?_containing (needle : String) :
    parts? (containing needle) =
      some (.anyRun :: ((Text.lowerChars needle.toList).map .literal ++ [.anyRun])) := by
  rw [containing, List.cons_append, parts?_anyRun, parts?_literals]
  rfl

/-- A text matches the pattern of a literal text exactly if it contains this text in lower case, up to the case of ASCII
letters. -/
theorem matches_containing {needle : String} {text : List Char} :
    Matches (containing needle) text ↔ Text.lowerChars needle.toList <:+: text.map Char.toLower := by
  have lowered : (Text.lowerChars needle.toList).map Char.toLower = Text.lowerChars needle.toList :=
    (List.map_congr_left fun c hc => (Text.of_mem_lowerChars hc).1).trans (List.map_id _)
  have found : matchParts (.anyRun :: ((Text.lowerChars needle.toList).map .literal ++ [.anyRun])) text = true ↔
      Text.lowerChars needle.toList <:+: text.map Char.toLower := by
    rw [matchParts_literals_between, lowered, Text.occurs_iff]
  rw [← found]
  constructor
  · intro h
    obtain ⟨parts, read, h⟩ := exists_parts_of_matches h
    rw [parts?_containing] at read
    obtain rfl := Option.some.inj read
    exact h
  · exact matches_of_matchParts (parts?_containing needle)

/-- The texts in ASCII lower case that match the pattern of a literal text are those that contain it in lower case, for no
character of it is read as a special one. These are also the texts that are found, as long as the pattern and the text
are read as they are, which is without NUL and without the last two characters of the first plane. -/
theorem containing_exact (needle text : String) :
    (Matches (containing needle) (Text.asciiLower text).toList ↔
      Text.lowerChars needle.toList <:+: (Text.asciiLower text).toList) ∧
    parts? (containing needle) =
      some (.anyRun :: ((Text.lowerChars needle.toList).map .literal ++ [.anyRun])) ∧
    (upToNul (containing needle) = containing needle →
      upToNul (Text.asciiLower text).toList = (Text.asciiLower text).toList →
      (isMatch (containing needle) (Text.asciiLower text).toList = true ↔
        Text.lowerChars needle.toList <:+: (Text.asciiLower text).toList)) := by
  have lowered : (Text.asciiLower text).toList.map Char.toLower = (Text.asciiLower text).toList := by
    rw [Text.asciiLower, String.toList_ofList, List.map_map]
    exact List.map_congr_left fun c _ => Text.toLower_toLower c
  have matches_iff : Matches (containing needle) (Text.asciiLower text).toList ↔
      Text.lowerChars needle.toList <:+: (Text.asciiLower text).toList := by
    rw [matches_containing, lowered]
  refine ⟨matches_iff, parts?_containing needle, fun pattern searched => ?_⟩
  rw [isMatch_iff, pattern, searched, matches_iff]

theorem containing_exact_discount :
    upToNul (containing "5%_\\") = containing "5%_\\" ∧
      upToNul (Text.asciiLower "SAVE 5%_\\").toList = (Text.asciiLower "SAVE 5%_\\").toList ∧
      (isMatch (containing "5%_\\") (Text.asciiLower "SAVE 5%_\\").toList = true ↔
        Text.lowerChars "5%_\\".toList <:+: (Text.asciiLower "SAVE 5%_\\").toList) ∧
      isMatch (containing "5%_\\") (Text.asciiLower "SAVE 5%_\\").toList = true ∧
      isMatch (containing "5%_\\") (Text.asciiLower "SAVE 50 \\").toList = false := by
  have pattern : upToNul (containing "5%_\\") = containing "5%_\\" := by decide +kernel
  have searched : upToNul (Text.asciiLower "SAVE 5%_\\").toList = (Text.asciiLower "SAVE 5%_\\").toList := by
    decide +kernel
  exact ⟨pattern, searched, (containing_exact "5%_\\" "SAVE 5%_\\").2.2 pattern searched, by decide +kernel,
    by decide +kernel⟩

end DataGrid.Sql.Like
