import ApexConstants.Apex.Source
import ApexConstants.Proofs.TidiedText

namespace ApexConstants.Apex
open Text

/-- The text of a literal up to the apostrophe that ends it, and what stands behind. A backslash
takes the next character as it is. -/
def readLiteral : List Char → Option (List Char × List Char)
  | [] => none
  | '\'' :: rest => some ([], rest)
  | '\\' :: [] => none
  | '\\' :: c :: rest => (readLiteral rest).map fun (text, after) => (c :: text, after)
  | c :: rest => (readLiteral rest).map fun (text, after) => (c :: text, after)

theorem readLiteral_shorter {cs text after : List Char} (h : readLiteral cs = some (text, after)) :
    after.length < cs.length := by
  fun_induction readLiteral cs generalizing text with
  | case1 => cases h
  | case2 rest =>
    cases h
    simp
  | case3 => cases h
  | case4 c rest ih =>
    obtain ⟨⟨text', after'⟩, hread, heq⟩ := Option.map_eq_some_iff.mp h
    cases heq
    have := ih hread
    simp only [List.length_cons]
    omega
  | case5 c rest _ _ _ ih =>
    obtain ⟨⟨text', after'⟩, hread, heq⟩ := Option.map_eq_some_iff.mp h
    cases heq
    have := ih hread
    simp only [List.length_cons]
    omega

def escapeChar (c : Char) : List Char := if c == '\\' || c == '\'' then ['\\', c] else [c]

theorem escapeChars_cons (c : Char) (cs : List Char) :
    escapeChars (c :: cs) = escapeChar c ++ escapeChars cs := by
  simp only [escapeChars, escapeChar]
  cases (c == '\\' || c == '\'') <;> rfl

theorem escapeChars_append (cs ds : List Char) :
    escapeChars (cs ++ ds) = escapeChars cs ++ escapeChars ds := by
  induction cs with
  | nil => rfl
  | cons c cs ih => rw [List.cons_append, escapeChars_cons, escapeChars_cons, ih, List.append_assoc]

theorem readLiteral_escapeChar (c : Char) (cs : List Char) :
    readLiteral (escapeChar c ++ cs) =
      (readLiteral cs).map fun (text, after) => (c :: text, after) := by
  cases hc : (c == '\\' || c == '\'') with
  | true => simp [escapeChar, hc, readLiteral]
  | false =>
    simp only [escapeChar, hc, Bool.false_eq_true, if_false, List.singleton_append]
    simp only [Bool.or_eq_false_iff, beq_eq_false_iff_ne] at hc
    simp [readLiteral, hc.1, hc.2]

/-- Reading a literal undoes the escaping and stops at the apostrophe behind it. -/
theorem readLiteral_escapeChars (text after : List Char) :
    readLiteral (escapeChars text ++ '\'' :: after) = some (text, after) := by
  induction text with
  | nil => simp [escapeChars, readLiteral]
  | cons c text ih =>
    rw [escapeChars_cons, List.append_assoc, readLiteral_escapeChar, ih]
    rfl

theorem escapeChar_blank {c : Char} (h : isBlank c = true) : escapeChar c = [c] := by
  have hc : (c == '\\' || c == '\'') = false := by
    cases hc : (c == '\\' || c == '\'') with
    | false => rfl
    | true =>
      simp only [Bool.or_eq_true, beq_iff_eq] at hc
      rcases hc with rfl | rfl <;> exact absurd h (by decide)
  simp [escapeChar, hc]

theorem escapeChar_endsInk {c : Char} (h : isBlank c = false) : EndsInk (escapeChar c) := by
  unfold escapeChar
  split
  · exact ⟨['\\'], c, rfl, h⟩
  · exact ⟨[], c, rfl, h⟩

theorem newline_not_mem_escapeChar {c : Char} (h : c ≠ '\n') : '\n' ∉ escapeChar c := by
  unfold escapeChar
  split <;> simp [Ne.symm h]

theorem escapeChars_singleton (c : Char) : escapeChars [c] = escapeChar c := by
  rw [escapeChars_cons, escapeChars, List.append_nil]

theorem trimEnd_escapeChars (cs : List Char) :
    trimEnd (escapeChars cs) = escapeChars (trimEnd cs) := by
  induction cs using List.reverseRecOn with
  | nil => rfl
  | append_singleton cs c ih =>
    rw [escapeChars_append, escapeChars_singleton]
    cases hb : isBlank c with
    | true => rw [escapeChar_blank hb, trimEnd_concat_blank hb, trimEnd_concat_blank hb, ih]
    | false =>
      have hink : EndsInk (cs ++ [c]) := ⟨cs, c, rfl, hb⟩
      rw [hink.trimEnd_eq, ((escapeChar_endsInk hb).append _).trimEnd_eq, escapeChars_append,
        escapeChars_singleton]

theorem splitOn_escapeChars (cs : List Char) :
    (escapeChars cs).splitOn '\n' = (cs.splitOn '\n').map escapeChars := by
  induction cs with
  | nil => rfl
  | cons c cs ih =>
    by_cases hc : c = '\n'
    · subst hc
      have hplain : escapeChars ('\n' :: cs) = [] ++ '\n' :: escapeChars cs := rfl
      rw [hplain, List.splitOn_append_cons_self, ih]
      exact (congrArg (List.map escapeChars) (List.splitOn_append_cons_self [] cs)).symm
    · have hsingle : '\n' ∉ [c] := by simpa using Ne.symm hc
      have hcons : c :: cs = [c] ++ cs := rfl
      rw [escapeChars_cons, splitOn_append_left (newline_not_mem_escapeChar hc), ih, hcons,
        splitOn_append_left hsingle]
      cases hcs : cs.splitOn '\n' with
      | nil => rfl
      | cons line rest => simp [escapeChars_cons]

theorem escapeChars_eq_nil {cs : List Char} : escapeChars cs = [] ↔ cs = [] := by
  cases cs with
  | nil => simp [escapeChars]
  | cons c cs =>
    rw [escapeChars_cons, escapeChar]
    split <;> simp

theorem tidyBetween_escapeChars (blanks : Nat) (lines : List (List Char)) :
    tidyBetween blanks (lines.map escapeChars) = (tidyBetween blanks lines).map escapeChars := by
  induction lines generalizing blanks with
  | nil => rfl
  | cons line rest ih =>
    cases rest with
    | nil => rfl
    | cons next rest =>
      simp only [List.map_cons] at ih ⊢
      simp only [tidyBetween, trimEnd_escapeChars, List.isEmpty_iff, escapeChars_eq_nil, ih]
      split
      · split <;> rfl
      · rfl

theorem intercalate_escapeChars (lines : List (List Char)) :
    ['\n'].intercalate (lines.map escapeChars) = escapeChars (['\n'].intercalate lines) := by
  induction lines with
  | nil => rfl
  | cons line rest ih =>
    cases rest with
    | nil => simp
    | cons next rest =>
      simp only [List.map_cons] at ih ⊢
      rw [List.intercalate_cons_cons, List.intercalate_cons_cons, ih, escapeChars_append,
        escapeChars_append]
      rfl

/-- Tidying what stands in a literal is the same before the escaping and after it. -/
theorem markedText_escapeChars (cs : List Char) :
    markedText (escapeChars cs) = escapeChars (markedText cs) := by
  rw [markedText, splitOn_escapeChars, markedText, ← intercalate_escapeChars]
  congr 1
  cases cs.splitOn '\n' with
  | nil => rfl
  | cons line rest =>
    cases rest with
    | nil => rfl
    | cons next rest =>
      have hrest := tidyBetween_escapeChars 0 (next :: rest)
      simp only [List.map_cons] at hrest ⊢
      simp only [markedLines, trimEnd_escapeChars, hrest, List.map_cons]

end ApexConstants.Apex
