-- SUMMARY: Texts in ASCII are lower-cased letter by letter, and lower-casing keeps every text in lower case.
import DataGrid.Text.Lowercase

/-!
# Lower case, ASCII, and letters that are kept

Within ASCII the lower case of a text and its ASCII lower case are the same. The
lower-case letters of any character are beyond the ASCII capitals, and only NUL has
NUL for a lower-case letter. No capital is a lower-case letter, so that lower-casing a
text once more keeps it.
-/

namespace DataGrid.Text

/-- Whether a character is in ASCII. -/
def isAscii (c : Char) : Bool :=
  c.toNat < 128

/-! ## ASCII lower case -/

theorem toLower_eq_self {c : Char} (h : c.toNat < 65 ∨ 90 < c.toNat) : c.toLower = c := by
  unfold Char.toLower
  split
  · next capital =>
    exfalso
    have bounds : 65 ≤ c.toNat ∧ c.toNat ≤ 90 := by
      simpa [UInt32.le_iff_toNat_le] using capital
    omega
  · rfl

private theorem ascii_cases : ∀ n : Fin 128,
    lowerChar (Char.ofNat n) = [(Char.ofNat n).toLower] ∧ (Char.ofNat n).toLower.toLower = (Char.ofNat n).toLower ∧
      isAscii (Char.ofNat n).toLower = true ∧ ((Char.ofNat n).toLower = '\x00' → Char.ofNat n = '\x00') := by
  decide +kernel

/-- The lower case of a character in ASCII. -/
theorem ascii_toLower {c : Char} (h : isAscii c = true) :
    lowerChar c = [c.toLower] ∧ c.toLower.toLower = c.toLower ∧ isAscii c.toLower = true ∧
      (c.toLower = '\x00' → c = '\x00') := by
  have small : c.toNat < 128 := of_decide_eq_true h
  have cases := ascii_cases ⟨c.toNat, small⟩
  rwa [Char.ofNat_toNat] at cases

/-- A letter in ASCII lower case is kept by it. -/
theorem toLower_toLower (c : Char) : c.toLower.toLower = c.toLower := by
  by_cases ascii : isAscii c = true
  · exact (ascii_toLower ascii).2.1
  · have beyond : 90 < c.toNat := by
      have large : ¬c.toNat < 128 := fun small => ascii (decide_eq_true small)
      omega
    rw [toLower_eq_self (.inr beyond), toLower_eq_self (.inr beyond)]

/-- A text in ASCII is lower-cased letter by letter. -/
theorem lowerChars_ascii {cs : List Char} (h : ∀ c ∈ cs, isAscii c = true) : lowerChars cs = cs.map Char.toLower := by
  have after (afterCased : Bool) : lowerAfter afterCased cs = cs.map Char.toLower := by
    induction cs generalizing afterCased with
    | nil => rfl
    | cons c rest ih =>
      have ascii := h c List.mem_cons_self
      have other : c ≠ 'Σ' := by
        rintro rfl
        exact absurd ascii (by decide)
      rw [lowerAfter, ih fun d hd => h d (List.mem_cons_of_mem _ hd)]
      simp [other, (ascii_toLower ascii).1]
  exact after false


/-! ## The letters of a text in lower case -/

theorem CaseRun.covers_iff {run : CaseRun} {n : Nat} :
    run.covers n = true ↔ (run.first ≤ n ∧ n ≤ run.last) ∧ (n - run.first) % run.step = 0 := by
  simp [covers]

/-- The place of a character in the run that is found for it. -/
theorem CaseRun.covers_of_find? {n : Nat} {run : CaseRun} (found : lowerRuns.find? (·.covers n) = some run) :
    (run.first ≤ n ∧ n ≤ run.last) ∧ (n - run.first) % run.step = 0 := by
  have covers := List.find?_some found
  exact covers_iff.mp covers

/-- The lower-case letters of each run are characters beyond the ASCII capitals. -/
private theorem lowerRuns_targets :
    lowerRuns.all (fun run => 90 < run.target ∧ (run.target + (run.last - run.first) < 0xD800 ∨
      0xDFFF < run.target ∧ run.target + (run.last - run.first) < 0x110000)) = true := by
  decide +kernel

/-- The number of a letter that a run gives. -/
theorem toNat_simpleLower {c : Char} {run : CaseRun} (found : lowerRuns.find? (·.covers c.toNat) = some run) :
    (simpleLower c).toNat = run.target + (c.toNat - run.first) := by
  obtain ⟨-, room⟩ := of_decide_eq_true (List.all_eq_true.mp lowerRuns_targets run (List.mem_of_find?_eq_some found))
  have covers := CaseRun.covers_of_find? found
  have valid : (run.target + (c.toNat - run.first)).isValidChar := by
    rcases room with low | high
    · exact .inl (by omega)
    · exact .inr (by omega)
  rw [simpleLower, found]
  dsimp only
  rw [Char.ofNat, dif_pos valid]
  rfl

/-- A character is its own lower-case letter, or that letter is beyond the ASCII capitals. -/
theorem simpleLower_cases (c : Char) : simpleLower c = c ∨ 90 < (simpleLower c).toNat := by
  cases found : lowerRuns.find? (·.covers c.toNat) with
  | none =>
    left
    rw [simpleLower, found]
  | some run =>
    right
    obtain ⟨beyond, -⟩ := of_decide_eq_true (List.all_eq_true.mp lowerRuns_targets run (List.mem_of_find?_eq_some found))
    rw [toNat_simpleLower found]
    exact Nat.lt_add_right _ beyond

/-- A lower-case letter of a character is no ASCII capital, and NUL only for NUL. -/
theorem of_mem_lowerChar {c x : Char} (h : x ∈ lowerChar c) : x.toLower = x ∧ (x = '\x00' → c = '\x00') := by
  by_cases ascii : isAscii c = true
  · obtain ⟨single, idempotent, -, nul⟩ := ascii_toLower ascii
    rw [single, List.mem_singleton] at h
    subst h
    exact ⟨idempotent, nul⟩
  · unfold lowerChar at h
    split at h
    · have letters : ∀ y ∈ ['i', '\u0307'], y.toLower = y ∧ y ≠ '\x00' := by simp
      obtain ⟨small, other⟩ := letters x h
      exact ⟨small, fun nul => absurd nul other⟩
    · obtain rfl := List.mem_singleton.mp h
      have beyond : 90 < (simpleLower c).toNat := by
        rcases simpleLower_cases c with same | beyond
        · have large : ¬c.toNat < 128 := fun small => ascii (decide_eq_true small)
          rw [same]
          omega
        · exact beyond
      refine ⟨toLower_eq_self (.inr beyond), fun nul => ?_⟩
      rw [nul] at beyond
      exact absurd beyond (by decide)

/-- The letters of a text in lower case are small sigmas and the lower-case letters of its characters. -/
theorem mem_lowerAfter {afterCased : Bool} {cs : List Char} {x : Char} (h : x ∈ lowerAfter afterCased cs) :
    x ∈ ['ς', 'σ'] ∨ ∃ c ∈ cs, x ∈ lowerChar c := by
  induction cs generalizing afterCased with
  | nil => cases h
  | cons c rest ih =>
    rw [lowerAfter, List.mem_append] at h
    rcases h with first | later
    · split at first
      · left
        split at first <;> simp_all
      · exact .inr ⟨c, List.mem_cons_self, first⟩
    · refine (ih later).imp_right ?_
      rintro ⟨d, hd, letter⟩
      exact ⟨d, List.mem_cons_of_mem _ hd, letter⟩

/-- A text in lower case holds no ASCII capital, and NUL only where the text does. -/
theorem of_mem_lowerChars {cs : List Char} {x : Char} (h : x ∈ lowerChars cs) :
    x.toLower = x ∧ (x = '\x00' → '\x00' ∈ cs) := by
  rcases mem_lowerAfter h with sigma | ⟨c, hc, letter⟩
  · have letters : ∀ y ∈ ['ς', 'σ'], y.toLower = y ∧ y ≠ '\x00' := by simp
    obtain ⟨small, other⟩ := letters x sigma
    exact ⟨small, fun nul => absurd nul other⟩
  · obtain ⟨small, nul⟩ := of_mem_lowerChar letter
    exact ⟨small, fun h => nul h ▸ hc⟩


/-! ## Texts in lower case -/

/-- Whether a run misses the numbers from `least` to `greatest`, or just every second one of them. -/
def CaseRun.misses (run : CaseRun) (least greatest : Nat) (everySecond : Bool) : Bool :=
  Nat.blt greatest run.first || Nat.blt run.last least ||
    (everySecond && Nat.beq run.step 2 && Nat.beq ((least + run.first) % 2) 1)

theorem CaseRun.not_covers_of_misses {run : CaseRun} {least greatest : Nat} {everySecond : Bool}
    (h : run.misses least greatest everySecond = true) {n : Nat} (range : least ≤ n ∧ n ≤ greatest)
    (second : everySecond = true → n % 2 = least % 2) : ¬ run.covers n = true := by
  intro covers
  have covers := covers_iff.mp covers
  simp only [misses, Bool.or_eq_true, Bool.and_eq_true, Nat.blt_eq, Nat.beq_eq] at h
  rcases h with (above | below) | ⟨⟨second', step⟩, odd⟩
  · omega
  · omega
  · have even := second second'
    rw [step] at covers
    omega

/-- The runs of all characters that have other letters for their lower case. -/
def capitalRuns : List CaseRun :=
  ⟨0x0130, 0x0130, 1, 0x0069⟩ :: lowerRuns

/-- The lower-case letters of each run are no capitals. -/
private theorem capitalRuns_miss :
    lowerRuns.all (fun run => capitalRuns.all (·.misses run.target (run.target + (run.last - run.first))
      (Nat.beq run.first run.last || Nat.beq run.step 2))) = true := by
  decide +kernel

/-- A lower-case letter is no capital. -/
theorem not_covers_simpleLower {c : Char} (plain : c ≠ '\u0130') {run : CaseRun} (capital : run ∈ capitalRuns) :
    ¬ run.covers (simpleLower c).toNat = true := by
  cases found : lowerRuns.find? (·.covers c.toNat) with
  | none =>
    rw [simpleLower, found]
    rcases List.mem_cons.mp capital with rfl | capital
    · intro covers
      obtain ⟨least, greatest⟩ := (CaseRun.covers_iff.mp covers).1
      have number : c.toNat = 0x0130 := Nat.le_antisymm greatest least
      exact plain (Char.toNat_inj.mp number)
    · exact List.find?_eq_none.mp found run capital
  | some given =>
    have apart := List.all_eq_true.mp capitalRuns_miss given (List.mem_of_find?_eq_some found)
    have misses := List.all_eq_true.mp apart run capital
    have covers := CaseRun.covers_of_find? found
    rw [toNat_simpleLower found]
    refine CaseRun.not_covers_of_misses misses (by omega) fun second => ?_
    rw [Bool.or_eq_true, Nat.beq_eq, Nat.beq_eq] at second
    rcases second with single | step
    · omega
    · rw [step] at covers
      omega

/-- A character that lower-casing keeps wherever it stands. -/
def IsLower (c : Char) : Prop :=
  c ≠ 'Σ' ∧ lowerChar c = [c]

theorem isLower_of_not_covers {c : Char} (h : ∀ run ∈ capitalRuns, ¬ run.covers c.toNat = true) : IsLower c := by
  constructor
  · rintro rfl
    have covered : capitalRuns.any (·.covers 'Σ'.toNat) = true := by decide +kernel
    obtain ⟨run, capital, covers⟩ := List.any_eq_true.mp covered
    exact h run capital covers
  · have dotless : c ≠ '\u0130' := by
      rintro rfl
      exact h _ List.mem_cons_self (by decide)
    have last : lowerRuns.find? (·.covers c.toNat) = none :=
      List.find?_eq_none.mpr fun run hrun => h run (List.mem_cons_of_mem _ hrun)
    rw [lowerChar, if_neg dotless, simpleLower, last]

/-- The letters that are set apart from the table are no capitals either. -/
private theorem isLower_of_mem_letters {x : Char} (h : x ∈ ['i', '\u0307', 'ς', 'σ']) : IsLower x := by
  have uncovered : ['i', '\u0307', 'ς', 'σ'].all (fun c => capitalRuns.all fun run => !run.covers c.toNat) = true := by
    decide +kernel
  refine isLower_of_not_covers fun run capital => ?_
  rw [Bool.not_eq_true, ← Bool.not_eq_true']
  exact List.all_eq_true.mp (List.all_eq_true.mp uncovered x h) run capital

theorem isLower_of_mem_lowerChar {c x : Char} (h : x ∈ lowerChar c) : IsLower x := by
  unfold lowerChar at h
  split at h
  · exact isLower_of_mem_letters (List.mem_append_left ['ς', 'σ'] h)
  · next plain =>
    obtain rfl := List.mem_singleton.mp h
    exact isLower_of_not_covers fun run capital => not_covers_simpleLower plain capital

theorem isLower_of_mem_lowerChars {cs : List Char} {x : Char} (h : x ∈ lowerChars cs) : IsLower x := by
  rcases mem_lowerAfter h with sigma | ⟨c, -, letter⟩
  · exact isLower_of_mem_letters (List.mem_append_right ['i', '\u0307'] sigma)
  · exact isLower_of_mem_lowerChar letter

theorem lowerAfter_eq_self {cs : List Char} (h : ∀ c ∈ cs, IsLower c) (afterCased : Bool) : lowerAfter afterCased cs = cs := by
  induction cs generalizing afterCased with
  | nil => rfl
  | cons c rest ih =>
    obtain ⟨plain, kept⟩ := h c List.mem_cons_self
    have rest := ih fun d hd => h d (List.mem_cons_of_mem _ hd)
    simp only [lowerAfter, if_neg plain, kept, rest, List.cons_append, List.nil_append]

/-- A text in lower case is kept by lower-casing. -/
theorem lowerChars_lowerChars (cs : List Char) : lowerChars (lowerChars cs) = lowerChars cs :=
  lowerAfter_eq_self (fun _ => isLower_of_mem_lowerChars) false

end DataGrid.Text
