import ApexConstants.Proofs.TidiedText

namespace ApexConstants.Apex
open Text

/-- No line but the last ends with blanks, and between the first and the last no three in a row are
empty. -/
def KeepsLayout (cs : List Char) : Prop :=
  (∀ line ∈ (cs.splitOn '\n').dropLast, trimEnd line = line) ∧
    ¬ [[], [], []] <:+: (cs.splitOn '\n').tail.dropLast

instance (cs : List Char) : Decidable (KeepsLayout cs) := inferInstanceAs (Decidable (_ ∧ _))

theorem length_tidyLines_le (blanks : Nat) (lines : List (List Char)) :
    (tidyLines blanks lines).length ≤ lines.length := by
  induction lines generalizing blanks with
  | nil => exact Nat.le_refl _
  | cons line rest ih =>
    rw [tidyLines]
    split
    · split
      · exact Nat.succ_le_succ (ih _)
      · exact Nat.le_succ_of_le (ih _)
    · exact Nat.succ_le_succ (ih _)

theorem not_prefix_replicate_cons {line : List Char} (h : line ≠ []) (more : List (List Char))
    (blanks run : Nat) (hrun : blanks < run) :
    ¬ List.replicate run [] <+: List.replicate blanks [] ++ line :: more := by
  induction blanks generalizing run with
  | zero =>
    obtain ⟨run, rfl⟩ := Nat.exists_eq_succ_of_ne_zero (Nat.ne_of_gt hrun)
    exact fun hpart => h (List.cons_prefix_cons.mp hpart).1.symm
  | succ blanks ih =>
    obtain ⟨run, rfl⟩ := Nat.exists_eq_succ_of_ne_zero (Nat.ne_of_gt (Nat.zero_lt_of_lt hrun))
    exact fun hpart => ih run (Nat.lt_of_succ_lt_succ hrun) (List.cons_prefix_cons.mp hpart).2

/-- A run of empty lines does not go on behind a line that is not empty. -/
theorem infix_replicate_cons {line : List Char} (h : line ≠ []) (more : List (List Char))
    {blanks : Nat} (hblanks : blanks ≤ blankLineLimit) :
    [[], [], []] <:+: List.replicate blanks [] ++ line :: more ↔ [[], [], []] <:+: more := by
  induction blanks with
  | zero =>
    have hpart : ¬ [[], [], []] <+: line :: more :=
      not_prefix_replicate_cons h more 0 3 (by decide)
    rw [List.replicate_zero, List.nil_append, List.infix_cons_iff]
    exact or_iff_right hpart
  | succ blanks ih =>
    rw [← ih (Nat.le_of_succ_le hblanks), List.replicate_succ, List.cons_append,
      List.infix_cons_iff]
    exact or_iff_right
      (not_prefix_replicate_cons h more (blanks + 1) 3 (Nat.lt_succ_of_le hblanks))

theorem not_infix_replicate {blanks : Nat} (hblanks : blanks ≤ blankLineLimit) :
    ¬ [[], [], []] <:+: List.replicate blanks ([] : List Char) ++ [] := by
  intro hrun
  have hlength := hrun.length_le
  simp only [List.append_nil, List.length_replicate, List.length_cons, List.length_nil] at hlength
  exact absurd (Nat.le_trans hlength hblanks) (by decide)

/-- Behind some empty lines, lines stay as they are when none has blanks to lose and the run of
empty ones does not grow too long. -/
theorem tidyLines_eq_iff {lines : List (List Char)} {blanks : Nat}
    (hblanks : blanks ≤ blankLineLimit) :
    tidyLines blanks lines = lines ↔
      (∀ line ∈ lines, trimEnd line = line) ∧
        ¬ [[], [], []] <:+: List.replicate blanks [] ++ lines := by
  induction lines generalizing blanks with
  | nil => exact ⟨fun _ => ⟨by simp, not_infix_replicate hblanks⟩, fun _ => rfl⟩
  | cons line rest ih =>
    rw [List.forall_mem_cons, tidyLines]
    split
    · rename_i hblank
      rw [List.isEmpty_iff.mp hblank]
      split
      · rename_i hroom
        have hmore : List.replicate blanks [] ++ [] :: rest =
            List.replicate (blanks + 1) [] ++ rest := by
          rw [List.replicate_succ', List.append_assoc, List.singleton_append]
        rw [List.cons.injEq, ih hroom]
        constructor
        · rintro ⟨rfl, htrimmed, hrun⟩
          exact ⟨⟨rfl, htrimmed⟩, hmore ▸ hrun⟩
        · rintro ⟨⟨rfl, htrimmed⟩, hrun⟩
          exact ⟨rfl, htrimmed, hmore ▸ hrun⟩
      · rename_i hroom
        -- The line is one more than are kept, so that it is lost.
        have hlimit : blanks = 2 := Nat.le_antisymm hblanks (Nat.le_of_not_lt hroom)
        subst hlimit
        constructor
        · intro heq
          have hlength := length_tidyLines_le (2 + 1) rest
          rw [heq] at hlength
          exact absurd hlength (Nat.not_succ_le_self _)
        · rintro ⟨⟨rfl, _⟩, hrun⟩
          exact absurd ⟨[], rest, rfl⟩ hrun
    · rename_i hink
      rw [List.cons.injEq, ih (Nat.zero_le _)]
      constructor
      · rintro ⟨hkept, htrimmed, hrun⟩
        have hline : line ≠ [] := by
          rw [← hkept]
          simpa using hink
        exact ⟨⟨hkept, htrimmed⟩, (infix_replicate_cons hline _ hblanks).not.mpr hrun⟩
      · rintro ⟨⟨hkept, htrimmed⟩, hrun⟩
        have hline : line ≠ [] := by
          rw [← hkept]
          simpa using hink
        exact ⟨hkept, htrimmed, (infix_replicate_cons hline _ hblanks).not.mp hrun⟩

/-- In front of a mark that holds of all lines but the last. -/
theorem tidyBetween_eq_iff {lines : List (List Char)} {blanks : Nat}
    (hblanks : blanks ≤ blankLineLimit) :
    tidyBetween blanks lines = lines ↔
      (∀ line ∈ lines.dropLast, trimEnd line = line) ∧
        ¬ [[], [], []] <:+: List.replicate blanks [] ++ lines.dropLast := by
  obtain rfl | ⟨front, last, rfl⟩ := List.eq_nil_or_concat' lines
  · exact ⟨fun _ => ⟨by simp, not_infix_replicate hblanks⟩, fun _ => rfl⟩
  · rw [tidyBetween_concat, List.append_left_inj, List.dropLast_concat, tidyLines_eq_iff hblanks]

theorem markedLines_eq_iff {lines : List (List Char)} :
    markedLines lines = lines ↔ (∀ line ∈ lines.dropLast, trimEnd line = line) ∧
      ¬ [[], [], []] <:+: lines.tail.dropLast := by
  cases lines with
  | nil => exact ⟨fun _ => ⟨by simp, by simp⟩, fun _ => rfl⟩
  | cons line rest =>
    cases rest with
    | nil => exact ⟨fun _ => ⟨by simp, by simp⟩, fun _ => rfl⟩
    | cons next rest =>
      rw [markedLines, List.cons.injEq, tidyBetween_eq_iff (Nat.zero_le _),
        List.dropLast_cons_cons, List.forall_mem_cons, List.tail_cons, List.replicate_zero,
        List.nil_append, and_assoc]

theorem mem_tidyLines {lines : List (List Char)} {blanks : Nat} {kept : List Char}
    (h : kept ∈ tidyLines blanks lines) : ∃ line ∈ lines, trimEnd line = kept := by
  induction lines generalizing blanks with
  | nil => exact absurd h List.not_mem_nil
  | cons line rest ih =>
    have hrest : ∀ {blanks}, kept ∈ tidyLines blanks rest →
        ∃ l ∈ line :: rest, trimEnd l = kept := by
      intro blanks hkept
      obtain ⟨l, hl, htrimmed⟩ := ih hkept
      exact ⟨l, List.mem_cons_of_mem line hl, htrimmed⟩
    rw [tidyLines] at h
    split at h
    · rename_i hblank
      split at h
      · rcases List.mem_cons.mp h with rfl | h
        · exact ⟨line, List.mem_cons_self, List.isEmpty_iff.mp hblank⟩
        · exact hrest h
      · exact hrest h
    · rcases List.mem_cons.mp h with rfl | h
      · exact ⟨line, List.mem_cons_self, rfl⟩
      · exact hrest h

theorem prefix_of_mem_tidyLines {lines : List (List Char)} {blanks : Nat} {kept : List Char}
    (h : kept ∈ tidyLines blanks lines) : ∃ line ∈ lines, kept <+: line := by
  obtain ⟨line, hline, rfl⟩ := mem_tidyLines h
  exact ⟨line, hline, List.rdropWhile_prefix isBlank line⟩

theorem prefix_of_mem_tidyBetween {lines : List (List Char)} {blanks : Nat} {kept : List Char}
    (h : kept ∈ tidyBetween blanks lines) : ∃ line ∈ lines, kept <+: line := by
  obtain rfl | ⟨front, last, rfl⟩ := List.eq_nil_or_concat' lines
  · exact absurd h List.not_mem_nil
  · rw [tidyBetween_concat, List.mem_append, List.mem_singleton] at h
    obtain h | rfl := h
    · obtain ⟨line, hline, hpart⟩ := prefix_of_mem_tidyLines h
      exact ⟨line, List.mem_append_left _ hline, hpart⟩
    · exact ⟨kept, List.mem_concat_self, List.prefix_refl _⟩

theorem mem_markedLines {lines : List (List Char)} {kept : List Char}
    (h : kept ∈ markedLines lines) : ∃ line ∈ lines, kept <+: line := by
  cases lines with
  | nil => exact absurd h List.not_mem_nil
  | cons line rest =>
    cases rest with
    | nil => exact ⟨kept, h, List.prefix_refl _⟩
    | cons next rest =>
      rcases List.mem_cons.mp h with rfl | h
      · exact ⟨line, List.mem_cons_self, List.rdropWhile_prefix isBlank line⟩
      · obtain ⟨l, hl, hpart⟩ := prefix_of_mem_tidyBetween h
        exact ⟨l, List.mem_cons_of_mem line hl, hpart⟩

/-- The lines of a text that came out between two marks are those it was put together from. -/
theorem splitOn_markedText (cs : List Char) :
    (markedText cs).splitOn '\n' = markedLines (cs.splitOn '\n') := by
  refine List.splitOn_intercalate '\n' (fun kept hkept => ?_)
    (markedLines_ne_nil (List.splitOn_ne_nil _ _))
  obtain ⟨line, hline, hpart⟩ := mem_markedLines hkept
  exact fun hm => not_mem_of_mem_splitOn hline (hpart.subset hm)

/-- A text comes out as it went in exactly when it keeps its layout. -/
theorem markedText_eq_iff {cs : List Char} : markedText cs = cs ↔ KeepsLayout cs := by
  rw [KeepsLayout, ← markedLines_eq_iff, ← splitOn_markedText]
  constructor
  · intro heq
    rw [heq]
  · intro heq
    have hjoined : ['\n'].intercalate ((markedText cs).splitOn '\n') = markedText cs :=
      List.intercalate_splitOn _
    rw [heq, List.intercalate_splitOn] at hjoined
    exact hjoined.symm

theorem keepsLayout_of_line {cs : List Char} (h : '\n' ∉ cs) : KeepsLayout cs :=
  markedText_eq_iff.mp (markedText_of_line h)

/-- Line feeds may be lost, but never all of them. -/
theorem newline_mem_markedText {cs : List Char} : '\n' ∈ markedText cs ↔ '\n' ∈ cs := by
  constructor
  · intro hmarked
    by_contra hnone
    rw [markedText_of_line hnone] at hmarked
    exact hnone hmarked
  · intro hm
    by_contra hnone
    have hone := List.splitOn_eq_singleton hnone
    rw [splitOn_markedText] at hone
    cases hlines : cs.splitOn '\n' with
    | nil => exact absurd hlines (List.splitOn_ne_nil _ _)
    | cons line rest =>
      cases rest with
      | nil =>
        have hjoined : ['\n'].intercalate (cs.splitOn '\n') = cs := List.intercalate_splitOn _
        rw [hlines, List.intercalate_singleton] at hjoined
        have hline : line ∈ cs.splitOn '\n' := hlines ▸ List.mem_cons_self
        exact not_mem_of_mem_splitOn hline (hjoined ▸ hm)
      | cons next rest =>
        rw [hlines, markedLines] at hone
        exact tidyBetween_ne_nil (by simp) 0 (List.cons.inj hone).2

theorem mem_linesBehind {lines : List (List Char)} {kept : List Char}
    (h : kept ∈ linesBehind lines) : ∃ line ∈ lines, kept <+: line := by
  cases lines with
  | nil => exact absurd h List.not_mem_nil
  | cons line rest =>
    rcases List.mem_cons.mp h with rfl | h
    · exact ⟨line, List.mem_cons_self, List.rdropWhile_prefix isBlank line⟩
    · obtain ⟨l, hl, hpart⟩ := prefix_of_mem_tidyLines h
      exact ⟨l, List.mem_cons_of_mem line hl, hpart⟩

/-- Lines that are parts of those of a text bring no character in. -/
theorem mem_of_kept_lines {c : Char} {cs : List Char} {kept : List (List Char)}
    (hkept : ∀ part ∈ kept, ∃ line ∈ cs.splitOn '\n', part <+: line) (hc : c ≠ '\n')
    (h : c ∈ ['\n'].intercalate kept) : c ∈ cs := by
  obtain hline | ⟨part, hpart, hmem⟩ := mem_intercalate h
  · exact absurd hline hc
  · obtain ⟨line, hline, hstart⟩ := hkept part hpart
    exact mem_of_mem_splitOn hline (hstart.subset hmem)

theorem mem_of_mem_markedText {c : Char} {cs : List Char} (hc : c ≠ '\n')
    (h : c ∈ markedText cs) : c ∈ cs := mem_of_kept_lines (fun _ => mem_markedLines) hc h

theorem mem_of_mem_textBehind {c : Char} {cs : List Char} (hc : c ≠ '\n')
    (h : c ∈ textBehind cs) : c ∈ cs := mem_of_kept_lines (fun _ => mem_linesBehind) hc h

end ApexConstants.Apex
