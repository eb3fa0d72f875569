-- SUMMARY: The pattern of a literal text finds that text and nothing else.
import DataGrid.Store.Sql.Like
import DataGrid.Text.Infix

/-!
# Literal patterns

In the pattern of a literal text every character stands for itself, between two
runs of any characters. So it matches the texts in which its characters stand in
one piece, as far as a NUL lets the pattern and the text be read.
-/

namespace DataGrid.Sql.Like

/-! ## Reading a pattern -/

theorem parts?_anyRun (rest : List Char) : parts? ('%' :: rest) = (parts? rest).map (.anyRun :: ·) := by
  cases rest with
  | nil => rfl
  | cons d rest => exact (if_neg (by decide)).trans (if_pos rfl)

theorem parts?_anyOne (rest : List Char) : parts? ('_' :: rest) = (parts? rest).map (.anyOne :: ·) := by
  cases rest with
  | nil => rfl
  | cons d rest => exact (if_neg (by decide)).trans ((if_neg (by decide)).trans (if_pos rfl))

theorem parts?_escaped (c : Char) (rest : List Char) :
    parts? (escape :: c :: rest) = (parts? rest).map (.literal c :: ·) :=
  if_pos rfl

theorem parts?_literal {c : Char} (plain : ¬(c = '%' ∨ c = '_' ∨ c = escape)) (rest : List Char) :
    parts? (c :: rest) = (parts? rest).map (.literal c :: ·) := by
  obtain ⟨percent, underscore, escaped⟩ : c ≠ '%' ∧ c ≠ '_' ∧ c ≠ escape := by
    simpa only [not_or] using plain
  cases rest with
  | nil => simp [parts?, percent, underscore, escaped]
  | cons d rest => simp [parts?, percent, underscore, escaped]

theorem parts?_literally (c : Char) (rest : List Char) :
    parts? (literally c ++ rest) = (parts? rest).map (.literal c :: ·) := by
  unfold literally
  split
  · exact parts?_escaped c rest
  · next plain => exact parts?_literal plain rest

/-- A literal text is read as its characters. -/
theorem parts?_literals (cs rest : List Char) :
    parts? (cs.flatMap literally ++ rest) = (parts? rest).map (cs.map .literal ++ ·) := by
  induction cs with
  | nil => simp
  | cons c cs ih =>
    rw [List.flatMap_cons, List.append_assoc, parts?_literally, ih, Option.map_map]
    rfl


/-! ## Matching -/

/-- Some end begins with a text where the text occurs. -/
theorem someEnd_isPrefixOf (sought text : List Char) :
    someEnd (fun rest => sought.isPrefixOf (rest.map Char.toLower)) text =
      Text.occurs sought (text.map Char.toLower) := by
  induction text with
  | nil => cases sought <;> rfl
  | cons c text ih => rw [someEnd, ih, List.map_cons, Text.occurs]

/-- Some end is a text where the text is an end. -/
theorem someEnd_beq (sought text : List Char) :
    someEnd (fun rest => sought == rest.map Char.toLower) text = sought.isSuffixOf (text.map Char.toLower) := by
  induction text with
  | nil =>
    rw [Bool.eq_iff_iff, someEnd, beq_iff_eq, List.isSuffixOf_iff_suffix]
    exact List.suffix_nil.symm
  | cons c text ih =>
    rw [Bool.eq_iff_iff, someEnd, ih, Bool.or_eq_true, beq_iff_eq, List.isSuffixOf_iff_suffix, List.isSuffixOf_iff_suffix,
      List.map_cons, List.suffix_cons_iff]

/-- Any text matches a run of any characters. -/
theorem matchParts_anyRun (text : List Char) : matchParts [.anyRun] text = true := by
  rw [matchParts]
  induction text with
  | nil => rfl
  | cons c text ih => rw [someEnd, ih, Bool.or_true]

/-- Literals before an open end match the texts that begin with them. -/
theorem matchParts_literals_anyRun (cs text : List Char) :
    matchParts (cs.map .literal ++ [.anyRun]) text = (cs.map Char.toLower).isPrefixOf (text.map Char.toLower) := by
  induction cs generalizing text with
  | nil => exact matchParts_anyRun text
  | cons c cs ih =>
    cases text with
    | nil => rfl
    | cons d text =>
      rw [List.map_cons, List.cons_append, matchParts, ih]
      rfl

/-- Literals by themselves match the texts that are the same up to case. -/
theorem matchParts_literals (cs text : List Char) :
    matchParts (cs.map .literal) text = (cs.map Char.toLower == text.map Char.toLower) := by
  induction cs generalizing text with
  | nil => cases text <;> rfl
  | cons c cs ih =>
    cases text with
    | nil => rfl
    | cons d text =>
      rw [List.map_cons, matchParts, ih]
      rfl

/-- Literals between two runs of any characters match the texts in which they occur. -/
theorem matchParts_literals_between (cs text : List Char) :
    matchParts (.anyRun :: (cs.map .literal ++ [.anyRun])) text =
      Text.occurs (cs.map Char.toLower) (text.map Char.toLower) := by
  rw [matchParts, funext (matchParts_literals_anyRun _), someEnd_isPrefixOf]


/-! ## Finding a text -/

/-- Whether a text contains a needle as a pattern sees it, up to the case of ASCII letters. The end of a needle with a NUL
is not seen, so that its beginning must be the end of the text. -/
def finds (needle text : List Char) : Bool :=
  let sought := (upToNul needle).map Char.toLower
  let searched := (upToNul text).map Char.toLower
  if '\x00' ∈ needle then sought.isSuffixOf searched else Text.occurs sought searched

theorem upToNul_cons {c : Char} (h : c ≠ '\x00') (cs : List Char) : upToNul (c :: cs) = readAs c :: upToNul cs := by
  simp [upToNul, h]

theorem upToNul_append {start : List Char} (h : '\x00' ∉ start) (rest : List Char) :
    upToNul (start ++ rest) = start.map readAs ++ upToNul rest := by
  have kept : ∀ c ∈ start, decide (c ≠ '\x00') = true := fun c hc => decide_eq_true fun same => h (same ▸ hc)
  rw [upToNul, List.takeWhile_append_of_pos kept, List.map_append, upToNul]

theorem upToNul_of_not_mem {cs : List Char} (h : '\x00' ∉ cs) : upToNul cs = cs.map readAs := by
  rw [← List.append_nil cs, upToNul_append h, List.append_nil]
  exact List.append_nil _

/-- The characters that are read as another one have no meaning in a pattern, nor has that one. -/
theorem map_readAs_literally (c : Char) : (literally c).map readAs = literally (readAs c) := by
  by_cases special : c = '%' ∨ c = '_' ∨ c = escape
  · rcases special with rfl | rfl | rfl <;> decide
  · by_cases swapped : c = '\ufffe' ∨ c = '\uffff'
    · rcases swapped with rfl | rfl <;> decide
    · have same : readAs c = c := if_neg swapped
      rw [same, literally, if_neg special, List.map_singleton, same]

theorem upToNul_literally {c : Char} (h : c ≠ '\x00') (rest : List Char) :
    upToNul (literally c ++ rest) = literally (readAs c) ++ upToNul rest := by
  rw [upToNul_append, map_readAs_literally]
  unfold literally
  split
  · simp [h.symm, escape]
  · simp [h.symm]

/-- Of a literal text a pattern sees the characters before the first NUL. -/
theorem upToNul_literals (cs rest : List Char) :
    upToNul (cs.flatMap literally ++ rest) =
      (upToNul cs).flatMap literally ++ if '\x00' ∈ cs then [] else upToNul rest := by
  induction cs with
  | nil => rfl
  | cons c cs ih =>
    by_cases nul : c = '\x00'
    · subst nul
      rfl
    · rw [List.flatMap_cons, List.append_assoc, upToNul_literally nul, ih, upToNul_cons nul, List.flatMap_cons,
        List.append_assoc]
      simp only [List.mem_cons, Ne.symm nul, false_or]

/-- A text matches the pattern of a needle exactly where the needle, in lower case, is found in it. -/
theorem isMatch_containing (needle : String) (text : List Char) :
    isMatch (containing needle) text = finds (Text.lowerChars needle.toList) text := by
  unfold isMatch containing finds
  generalize Text.lowerChars needle.toList = cs
  rw [List.cons_append, upToNul_cons (by decide), upToNul_literals]
  have start : readAs '%' = '%' := rfl
  have closing : upToNul ['%'] = ['%'] := rfl
  rw [start, closing, parts?_anyRun, parts?_literals]
  by_cases nul : '\x00' ∈ cs
  · simp only [if_pos nul, parts?, Option.map_some, List.append_nil]
    rw [matchParts, funext (matchParts_literals _), someEnd_beq]
  · have open_ : parts? ['%'] = some [.anyRun] := rfl
    simp only [if_neg nul, open_, Option.map_some, matchParts_literals_between]

end DataGrid.Sql.Like
