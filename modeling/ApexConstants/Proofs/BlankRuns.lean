import ApexConstants.Proofs.KeptLayouts

namespace ApexConstants.Apex
open Text

def codeLines (code : String) : List (List Char) := code.toList.splitOn '\n'

def isBlankLine (line : List Char) : Bool := line.all isBlank

/-- Lines of which none ends with a blank, and no more than two empty ones follow one another. -/
structure IsTidy (lines : List (List Char)) : Prop where
  inked : ∀ line ∈ lines, ∀ c ∈ line.getLast?, isBlank c = false
  spaced : ¬ [[], [], []] <:+: lines

/-- A line that says something, with the blank lines right in front of it. -/
structure Passage where
  gap : List (List Char)
  line : List Char
  blank : ∀ l ∈ gap, isBlankLine l = true
  inked : isBlankLine line = false

/-- Lines as the runs of blank lines in front of the others and the run behind them, all of which
may be empty. No run can go on, for what stands around it is not blank. -/
structure Spacing where
  passages : List Passage
  behind : List (List Char)
  blank : ∀ l ∈ behind, isBlankLine l = true

namespace Spacing

def lines (s : Spacing) : List (List Char) :=
  s.passages.flatMap (fun p => p.gap ++ [p.line]) ++ s.behind

/-- The same with at most two lines, empty ones, of every run, and without the blanks at the ends of
the others. -/
def tidied (s : Spacing) : List (List Char) :=
  s.passages.flatMap (fun p => List.replicate (min 2 p.gap.length) [] ++ [trimEnd p.line]) ++
    List.replicate (min 2 s.behind.length) []

/-- All lines are spaced in some way. -/
theorem exists_of_lines (ls : List (List Char)) : ∃ s : Spacing, s.lines = ls := by
  induction ls with
  | nil => exact ⟨⟨[], [], by simp⟩, rfl⟩
  | cons l ls ih =>
    obtain ⟨⟨passages, behind, hblank⟩, rfl⟩ := ih
    cases hl : isBlankLine l with
    | false => exact ⟨⟨⟨[], l, by simp, hl⟩ :: passages, behind, hblank⟩, by simp [lines]⟩
    | true =>
      cases passages with
      | nil =>
        exact ⟨⟨[], l :: behind, List.forall_mem_cons.mpr ⟨hl, hblank⟩⟩, by simp [lines]⟩
      | cons p passages =>
        refine ⟨⟨⟨l :: p.gap, p.line, ?_, p.inked⟩ :: passages, behind, hblank⟩, by simp [lines]⟩
        exact List.forall_mem_cons.mpr ⟨hl, p.blank⟩

end Spacing

theorem isEmpty_trimEnd (line : List Char) : (trimEnd line).isEmpty = isBlankLine line := by
  rw [Bool.eq_iff_iff, List.isEmpty_iff, isBlankLine, List.all_eq_true]
  exact List.rdropWhile_eq_nil_iff

theorem trimEnd_eq_iff {line : List Char} :
    trimEnd line = line ↔ ∀ c ∈ line.getLast?, isBlank c = false := by
  refine List.rdropWhile_eq_self_iff.trans ?_
  constructor
  · intro h c hc
    have hne : line ≠ [] := List.ne_nil_of_mem (List.mem_of_getLast? hc)
    have hlast := h hne
    rwa [List.getLast_of_getLast?_eq_some hc, Bool.not_eq_true] at hlast
  · intro h hne
    rw [Bool.not_eq_true]
    exact h _ (List.getLast?_eq_some_getLast hne)

theorem trimEnd_ne_nil {line : List Char} (h : isBlankLine line = false) : trimEnd line ≠ [] := by
  intro hnil
  have hempty := isEmpty_trimEnd line
  rw [hnil, h] at hempty
  cases hempty

/-- Beyond the limit it does not matter how many blank lines there were. -/
theorem tidyLines_of_full {blanks : Nat} (h : blankLineLimit ≤ blanks) (lines : List (List Char)) :
    tidyLines blanks lines = tidyLines blankLineLimit lines := by
  induction lines generalizing blanks with
  | nil => rfl
  | cons line rest ih =>
    rw [tidyLines, tidyLines, if_neg (Nat.not_lt.mpr h), if_neg (Nat.lt_irrefl _),
      ih (Nat.le_succ_of_le h), ih (Nat.le_succ blankLineLimit)]

/-- Of a run as many lines are kept, empty, as the limit leaves room for. -/
theorem tidyLines_run {run : List (List Char)} (h : ∀ l ∈ run, isBlankLine l = true) (blanks : Nat)
    (rest : List (List Char)) : tidyLines blanks (run ++ rest) =
      List.replicate (min (blankLineLimit - blanks) run.length) [] ++
        tidyLines (blanks + run.length) rest := by
  induction run generalizing blanks with
  | nil => simp
  | cons l run ih =>
    obtain ⟨hl, hrun⟩ := List.forall_mem_cons.mp h
    have hcount : blanks + 1 + run.length = blanks + (l :: run).length := by
      rw [List.length_cons]
      omega
    rw [List.cons_append, tidyLines, isEmpty_trimEnd, hl, if_pos rfl, ih hrun, hcount]
    split
    · rename_i hroom
      have hkept : min (blankLineLimit - blanks) (l :: run).length =
          min (blankLineLimit - (blanks + 1)) run.length + 1 := by
        rw [List.length_cons]
        omega
      rw [hkept, List.replicate_succ, List.cons_append]
    · rename_i hfull
      have hnone : ∀ count, blankLineLimit ≤ blanks + count →
          blankLineLimit - (blanks + count) = 0 := fun _ => Nat.sub_eq_zero_of_le
      rw [hnone 1 (by omega), Nat.sub_eq_zero_of_le (by omega), Nat.zero_min, Nat.zero_min]

theorem tidyLines_spacing (s : Spacing) : tidyLines 0 s.lines = s.tidied := by
  obtain ⟨passages, behind, hblank⟩ := s
  unfold Spacing.lines Spacing.tidied
  induction passages with
  | nil =>
    have hend : tidyLines (0 + behind.length) [] = [] := rfl
    have hrun := tidyLines_run hblank 0 []
    rwa [hend, List.append_nil, List.append_nil] at hrun
  | cons p passages ih =>
    simp only [List.flatMap_cons, List.append_assoc, List.cons_append, List.nil_append] at ih ⊢
    rw [tidyLines_run p.blank, tidyLines_inked (trimEnd_ne_nil p.inked), ih]
    rfl

theorem filter_tidyLines (blanks : Nat) (lines : List (List Char)) :
    (tidyLines blanks lines).filter (!·.isEmpty) =
      (lines.filter (!isBlankLine ·)).map trimEnd := by
  induction lines generalizing blanks with
  | nil => rfl
  | cons line rest ih =>
    cases hline : isBlankLine line with
    | true =>
      rw [tidyLines, isEmpty_trimEnd, hline, if_pos rfl]
      split <;> simp [hline, ih]
    | false =>
      have hkept : (trimEnd line).isEmpty = false := (isEmpty_trimEnd line).trans hline
      rw [tidyLines_inked (trimEnd_ne_nil hline)]
      simp only [List.filter_cons, hkept, hline, Bool.not_false, if_true, List.map_cons, ih]

theorem trimEnd_of_mem_tidyLines {lines : List (List Char)} {blanks : Nat} {kept : List Char}
    (h : kept ∈ tidyLines blanks lines) : trimEnd kept = kept := by
  obtain ⟨line, _, rfl⟩ := mem_tidyLines h
  exact List.rdropWhile_idempotent isBlank line

/-- Behind some empty lines no run grows beyond the limit. -/
theorem not_infix_tidyLines {blanks : Nat} (hblanks : blanks ≤ blankLineLimit)
    (lines : List (List Char)) :
    ¬ [[], [], []] <:+: List.replicate blanks [] ++ tidyLines blanks lines := by
  induction lines generalizing blanks with
  | nil => exact not_infix_replicate hblanks
  | cons line rest ih =>
    cases hline : isBlankLine line with
    | true =>
      rw [tidyLines, isEmpty_trimEnd, hline, if_pos rfl]
      split
      · rename_i hroom
        rw [List.append_cons, ← List.replicate_succ']
        exact ih hroom
      · rename_i hfull
        have hlimit : blanks = blankLineLimit := Nat.le_antisymm hblanks (Nat.le_of_not_lt hfull)
        rw [hlimit, tidyLines_of_full (Nat.le_succ blankLineLimit)]
        exact ih (Nat.le_refl _)
    | false =>
      have hkept := trimEnd_ne_nil hline
      rw [tidyLines_inked hkept, infix_replicate_cons hkept _ hblanks]
      simpa using ih (Nat.zero_le _)

theorem isTidy_iff {lines : List (List Char)} : IsTidy lines ↔ tidyLines 0 lines = lines := by
  rw [tidyLines_eq_iff (Nat.zero_le blankLineLimit)]
  constructor
  · rintro ⟨hinked, hspaced⟩
    exact ⟨fun line hline => trimEnd_eq_iff.mpr (hinked line hline), hspaced⟩
  · rintro ⟨htrimmed, hspaced⟩
    exact ⟨fun line hline => trimEnd_eq_iff.mp (htrimmed line hline), hspaced⟩

theorem isTidy_tidyLines (lines : List (List Char)) : IsTidy (tidyLines 0 lines) where
  inked _ hkept := trimEnd_eq_iff.mp (trimEnd_of_mem_tidyLines hkept)
  spaced := not_infix_tidyLines (Nat.zero_le _) lines

theorem tidyLines_ne_nil {lines : List (List Char)} (h : lines ≠ []) : tidyLines 0 lines ≠ [] := by
  obtain ⟨line, rest, rfl⟩ := List.exists_cons_of_ne_nil h
  rw [tidyLines]
  split <;> simp [blankLineLimit]

/-- The lines of a tidied code are those it was put together from. -/
theorem codeLines_tidy (code : String) : codeLines (tidy code) = tidyLines 0 (codeLines code) := by
  rw [codeLines, tidy, String.toList_ofList]
  refine List.splitOn_intercalate '\n' (fun kept hkept => ?_)
    (tidyLines_ne_nil (List.splitOn_ne_nil _ _))
  obtain ⟨line, hline, hpart⟩ := prefix_of_mem_tidyLines hkept
  exact fun hm => not_mem_of_mem_splitOn hline (hpart.subset hm)

theorem codeLines_inj {code other : String} : codeLines code = codeLines other ↔ code = other := by
  constructor
  · intro h
    have hjoined := congrArg (['\n'].intercalate ·) h
    simp only [codeLines, List.intercalate_splitOn] at hjoined
    exact String.toList_inj.mp hjoined
  · rintro rfl
    rfl

theorem tidy_eq_iff {code : String} : tidy code = code ↔ IsTidy (codeLines code) := by
  rw [← codeLines_inj, codeLines_tidy, isTidy_iff]

/-- What tidying makes of a code, told of its lines. -/
structure NormalizesBlanks (code : String) : Prop where
  /-- No line ends with a blank, and no three in a row are empty. -/
  tidied : IsTidy (codeLines (tidy code))
  /-- The lines with more than blanks stay, in their order and up to the blanks at their ends. -/
  content : (codeLines (tidy code)).filter (!·.isEmpty) =
    ((codeLines code).filter (!isBlankLine ·)).map trimEnd
  /-- Of every run of blank lines at most two are left, in its place. -/
  runs : ∀ s : Spacing, s.lines = codeLines code → codeLines (tidy code) = s.tidied
  /-- There is such a spacing to tell the runs by. -/
  spaced : ∃ s : Spacing, s.lines = codeLines code
  /-- Tidying twice is tidying once. -/
  again : tidy (tidy code) = tidy code
  /-- A code stays as it is exactly when it is tidy. -/
  unchanged : tidy code = code ↔ IsTidy (codeLines code)

/-- Tidying normalizes blanks and nothing else. -/
theorem tidy_normalizes (code : String) : NormalizesBlanks code := by
  have htidied : IsTidy (codeLines (tidy code)) := by
    rw [codeLines_tidy]
    exact isTidy_tidyLines _
  refine ⟨htidied, ?_, ?_, Spacing.exists_of_lines _, tidy_eq_iff.mpr htidied, tidy_eq_iff⟩
  · rw [codeLines_tidy]
    exact filter_tidyLines 0 _
  · intro s hs
    rw [codeLines_tidy, ← hs]
    exact tidyLines_spacing s

end ApexConstants.Apex
