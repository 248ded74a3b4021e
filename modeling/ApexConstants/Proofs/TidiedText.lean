import ApexConstants.Apex.Source
import ApexConstants.Proofs.JoinedLines
import Mathlib.Data.List.DropRight
import Mathlib.Data.List.Induction

namespace ApexConstants.Apex
open Text

/-- Ends with a character that trimming leaves where it is. -/
def EndsInk (cs : List Char) : Prop := ∃ front last, cs = front ++ [last] ∧ isBlank last = false

theorem endsInk_iff (cs : List Char) :
    EndsInk cs ↔ (cs.getLast?.any fun c => !isBlank c) = true := by
  constructor
  · rintro ⟨front, last, rfl, hlast⟩
    simp [hlast]
  · intro h
    cases hlast : cs.getLast? with
    | none => simp [hlast] at h
    | some c =>
      obtain ⟨front, rfl⟩ := List.getLast?_eq_some_iff.mp hlast
      exact ⟨front, c, rfl, by simpa using h⟩

instance (cs : List Char) : Decidable (EndsInk cs) := decidable_of_iff' _ (endsInk_iff cs)

theorem EndsInk.ne_nil {cs : List Char} (h : EndsInk cs) : cs ≠ [] := by
  obtain ⟨front, last, rfl, _⟩ := h
  simp

theorem EndsInk.append {cs : List Char} (h : EndsInk cs) (ds : List Char) : EndsInk (ds ++ cs) := by
  obtain ⟨front, last, rfl, hlast⟩ := h
  exact ⟨ds ++ front, last, by simp, hlast⟩

theorem trimEnd_concat_blank {c : Char} (h : isBlank c = true) (cs : List Char) :
    trimEnd (cs ++ [c]) = trimEnd cs :=
  List.rdropWhile_concat_pos isBlank cs c h

theorem EndsInk.trimEnd_eq {cs : List Char} (h : EndsInk cs) : trimEnd cs = cs := by
  obtain ⟨front, last, rfl, hlast⟩ := h
  exact List.rdropWhile_concat_neg isBlank front last (by simp [hlast])

theorem EndsInk.trimEnd_append {cs : List Char} (h : EndsInk cs) (ds : List Char) :
    trimEnd (cs ++ ds) = cs ++ trimEnd ds := by
  induction ds using List.reverseRecOn with
  | nil => simpa [trimEnd, Text.dropTrailing] using h.trimEnd_eq
  | append_singleton ds c ih =>
    rw [← List.append_assoc]
    cases hc : isBlank c with
    | true => rw [trimEnd_concat_blank hc, trimEnd_concat_blank hc, ih]
    | false =>
      have hd : EndsInk (ds ++ [c]) := ⟨ds, c, rfl, hc⟩
      rw [hd.trimEnd_eq, List.append_assoc, (hd.append cs).trimEnd_eq]

theorem EndsInk.trimEnd_append_ne_nil {cs : List Char} (h : EndsInk cs) (ds : List Char) :
    trimEnd (cs ++ ds) ≠ [] := by
  rw [h.trimEnd_append]
  exact List.append_ne_nil_of_left_ne_nil h.ne_nil _

/-- Such a line stays, without the blanks at its end, and the blank lines in front of it no longer
count. -/
theorem tidyLines_inked {line : List Char} (h : trimEnd line ≠ []) (blanks : Nat)
    (rest : List (List Char)) :
    tidyLines blanks (line :: rest) = trimEnd line :: tidyLines 0 rest := by
  simp [tidyLines, h]

/-- Such a line parts those in front of it from those behind it. -/
theorem tidyLines_append_inked {line : List Char} (h : trimEnd line ≠ []) (blanks : Nat)
    (front rest : List (List Char)) : tidyLines blanks (front ++ line :: rest) =
      tidyLines blanks front ++ trimEnd line :: tidyLines 0 rest := by
  induction front generalizing blanks with
  | nil => exact tidyLines_inked h blanks rest
  | cons first front ih =>
    simp only [List.cons_append, tidyLines, ih]
    split
    · split <;> rfl
    · rfl

theorem EndsInk.tidyLines_cons {line : List Char} (h : EndsInk line) (blanks : Nat)
    (rest : List (List Char)) : tidyLines blanks (line :: rest) = line :: tidyLines 0 rest := by
  have hkept := h.trimEnd_eq
  rw [tidyLines_inked (hkept.symm ▸ h.ne_nil), hkept]

/-- Tidying the lines of `before` gives those of `after`, whatever stands around them. -/
def Tidies (before after : List Char) : Prop :=
  ∃ lines, lines ≠ [] ∧ ['\n'].intercalate lines = after ∧
    ∀ blanks more, tidyLines blanks (before.splitOn '\n' ++ more) = lines ++ tidyLines 0 more

theorem Tidies.line {cs : List Char} (h : '\n' ∉ cs) (hne : trimEnd cs ≠ []) :
    Tidies cs (trimEnd cs) := by
  refine ⟨[trimEnd cs], by simp, by simp, ?_⟩
  intro blanks more
  rw [List.splitOn_eq_singleton h]
  exact tidyLines_inked hne blanks more

/-- A text in which every line ends with no blank, and none is empty, stays as it is. -/
theorem Tidies.lines_kept {cs : List Char} (h : ∀ line ∈ cs.splitOn '\n', EndsInk line) :
    Tidies cs cs := by
  refine ⟨cs.splitOn '\n', List.splitOn_ne_nil _ _, List.intercalate_splitOn _, ?_⟩
  intro blanks more
  generalize hlines : cs.splitOn '\n' = lines at h
  have hne : lines ≠ [] := hlines ▸ List.splitOn_ne_nil _ _
  clear hlines
  induction lines generalizing blanks with
  | nil => exact absurd rfl hne
  | cons line rest ih =>
    rw [List.cons_append, (h line List.mem_cons_self).tidyLines_cons]
    cases rest with
    | nil => rfl
    | cons next rest =>
      rw [ih 0 (fun l hl => h l (List.mem_cons_of_mem line hl)) (by simp)]
      rfl

theorem Tidies.line_kept {cs : List Char} (h : '\n' ∉ cs) (hink : EndsInk cs) : Tidies cs cs := by
  apply Tidies.lines_kept
  rw [List.splitOn_eq_singleton h]
  simpa using hink

theorem Tidies.next {as as' bs bs' : List Char} (ha : Tidies as as') (hb : Tidies bs bs') :
    Tidies (as ++ '\n' :: bs) (as' ++ '\n' :: bs') := by
  obtain ⟨xs, hx, rfl, hxs⟩ := ha
  obtain ⟨ys, hy, rfl, hys⟩ := hb
  refine ⟨xs ++ ys, by simp [hx], intercalate_append hx hy, ?_⟩
  intro blanks more
  rw [List.splitOn_append_cons_self, List.append_assoc, hxs, hys, List.append_assoc]

/-- An empty line between two parts stays, for none stands right before it. -/
theorem Tidies.gap {as as' bs bs' : List Char} (ha : Tidies as as') (hb : Tidies bs bs') :
    Tidies (as ++ '\n' :: '\n' :: bs) (as' ++ '\n' :: '\n' :: bs') := by
  obtain ⟨xs, hx, rfl, hxs⟩ := ha
  obtain ⟨ys, hy, rfl, hys⟩ := hb
  refine ⟨xs ++ ([] :: ys), by simp [hx], ?_, ?_⟩
  · exact intercalate_gap hx hy
  · intro blanks more
    have hsplit : ('\n' :: bs).splitOn '\n' = [] :: bs.splitOn '\n' :=
      List.splitOn_append_cons_self [] bs
    rw [List.splitOn_append_cons_self, hsplit, List.append_assoc, hxs]
    have hempty : tidyLines 0 ([] :: bs.splitOn '\n' ++ more) =
        [] :: tidyLines 1 (bs.splitOn '\n' ++ more) := rfl
    rw [hempty, hys, List.append_assoc, List.cons_append]

theorem Tidies.joined {parts parts' : List (List Char)} (h : List.Forall₂ Tidies parts parts')
    (hne : parts ≠ []) : Tidies (['\n'].intercalate parts) (['\n'].intercalate parts') := by
  induction h with
  | nil => exact absurd rfl hne
  | cons hhead htail ih =>
    cases htail with
    | nil => simpa using hhead
    | cons hnext hrest =>
      rw [List.intercalate_cons_cons, List.intercalate_cons_cons]
      simpa using hhead.next (ih (by simp))

/-- The line feed at the end of a text stays. -/
theorem Tidies.tidy_ended {as as' : List Char} (h : Tidies as as') {code : String}
    (hcode : code.toList = as ++ ['\n']) : tidy code = String.ofList (as' ++ ['\n']) := by
  obtain ⟨xs, hx, rfl, hxs⟩ := h
  have hsplit : (as ++ ['\n']).splitOn '\n' = as.splitOn '\n' ++ [[]] :=
    List.splitOn_append_cons_self as []
  rw [tidy, hcode, hsplit, hxs]
  have hend : tidyLines 0 [[]] = [[]] := rfl
  rw [hend, intercalate_append hx (by simp)]
  rfl

theorem Tidies.tidy_eq {as as' : List Char} (h : Tidies as as') {code : String}
    (hcode : code.toList = as) : tidy code = String.ofList as' := by
  obtain ⟨xs, hx, rfl, hxs⟩ := h
  have hall := hxs 0 []
  rw [List.append_nil] at hall
  rw [tidy, hcode, hall]
  simp [tidyLines]

/-- The lines behind a first one as they come out in front of a mark, which keeps the blanks of the
last line. -/
def tidyBetween (blanks : Nat) : List (List Char) → List (List Char)
  | [] => []
  | [last] => [last]
  | line :: next :: rest =>
    let kept := trimEnd line
    if kept.isEmpty then
      if blanks < blankLineLimit then [] :: tidyBetween (blanks + 1) (next :: rest)
      else tidyBetween (blanks + 1) (next :: rest)
    else kept :: tidyBetween 0 (next :: rest)

/-- The lines of a text as they come out between two marks. -/
def markedLines : List (List Char) → List (List Char)
  | [] => []
  | [line] => [line]
  | line :: next :: rest => trimEnd line :: tidyBetween 0 (next :: rest)

def markedText (cs : List Char) : List Char := ['\n'].intercalate (markedLines (cs.splitOn '\n'))

/-- In front of a last line, which is left alone, lines come out as they do at the end. -/
theorem tidyBetween_concat (blanks : Nat) (lines : List (List Char)) (last : List Char) :
    tidyBetween blanks (lines ++ [last]) = tidyLines blanks lines ++ [last] := by
  induction lines generalizing blanks with
  | nil => rfl
  | cons line rest ih =>
    obtain ⟨next, more, hmore⟩ := List.exists_cons_of_ne_nil (List.concat_ne_nil last rest)
    rw [List.cons_append, hmore, tidyBetween, ← hmore, tidyLines, ih, ih]
    split
    · split <;> rfl
    · rfl

theorem tidyBetween_ne_nil {lines : List (List Char)} (h : lines ≠ []) (blanks : Nat) :
    tidyBetween blanks lines ≠ [] := by
  obtain ⟨front, last, rfl⟩ := (List.eq_nil_or_concat' lines).resolve_left h
  rw [tidyBetween_concat]
  exact List.concat_ne_nil last _

theorem markedLines_ne_nil {lines : List (List Char)} (h : lines ≠ []) :
    markedLines lines ≠ [] := by
  cases lines with
  | nil => exact absurd rfl h
  | cons line rest => cases rest <;> simp [markedLines]

/-- Up to a mark in a line, the lines come out as they do in front of it, and behind the mark the
line loses its blanks. -/
theorem tidyLines_appendLast {mark : List Char} (hmark : EndsInk mark) {lines : List (List Char)}
    (h : lines ≠ []) (blanks : Nat) (behind : List Char) (more : List (List Char)) :
    tidyLines blanks (appendLast (mark ++ behind) lines ++ more) =
      appendLast (mark ++ trimEnd behind) (tidyBetween blanks lines) ++ tidyLines 0 more := by
  obtain ⟨front, last, rfl⟩ := (List.eq_nil_or_concat' lines).resolve_left h
  have hend := hmark.append last
  rw [appendLast_concat, tidyBetween_concat, appendLast_concat, List.append_assoc, List.append_assoc,
    List.singleton_append, List.singleton_append, ← List.append_assoc, ← List.append_assoc,
    tidyLines_append_inked (hend.trimEnd_append_ne_nil behind), hend.trimEnd_append]

/-- What a text between two marks comes out as does not depend on the marks. -/
theorem tidies_marked {front mark : List Char} (hfront : EndsInk front) (hmark : EndsInk mark)
    (hf : '\n' ∉ front) (hm : '\n' ∉ mark) (cs : List Char) :
    Tidies (front ++ (cs ++ mark)) (front ++ (markedText cs ++ mark)) := by
  have hlines : cs.splitOn '\n' ≠ [] := List.splitOn_ne_nil _ _
  have hkept := markedLines_ne_nil hlines
  refine ⟨(appendLast mark (markedLines (cs.splitOn '\n'))).modifyHead (front ++ ·), ?_, ?_, ?_⟩
  · simpa using appendLast_ne_nil hkept mark
  · rw [intercalate_modifyHead (appendLast_ne_nil hkept mark), intercalate_appendLast hkept,
      markedText]
  · intro blanks more
    rw [splitOn_append_left hf, splitOn_append_right hm]
    cases hcs : cs.splitOn '\n' with
    | nil => exact absurd hcs hlines
    | cons line rest =>
      cases rest with
      | nil =>
        have hend : EndsInk (front ++ (line ++ mark)) := (hmark.append line).append front
        exact hend.tidyLines_cons blanks more
      | cons next rest =>
        have hrest : next :: rest ≠ [] := by simp
        have hlast := tidyLines_appendLast hmark hrest 0 [] more
        have hnone : trimEnd [] = [] := rfl
        rw [hnone, List.append_nil] at hlast
        rw [appendLast_cons hrest, markedLines, appendLast_cons (tidyBetween_ne_nil hrest 0),
          List.modifyHead_cons, List.modifyHead_cons, List.cons_append,
          tidyLines_inked (hfront.trimEnd_append_ne_nil line), hfront.trimEnd_append, hlast,
          List.cons_append]

theorem markedText_of_line {cs : List Char} (h : '\n' ∉ cs) : markedText cs = cs := by
  rw [markedText, List.splitOn_eq_singleton h]
  simp [markedLines]

def linesBehind : List (List Char) → List (List Char)
  | [] => []
  | line :: rest => trimEnd line :: tidyLines 0 rest

def textBehind (cs : List Char) : List Char := ['\n'].intercalate (linesBehind (cs.splitOn '\n'))

theorem endsInk_singleton {m : Char} (h : isBlank m = false) : EndsInk [m] := ⟨[], m, rfl, h⟩

theorem splitOn_cons_ink {m : Char} (h : isBlank m = false) (cs : List Char) :
    (m :: cs).splitOn '\n' = (cs.splitOn '\n').modifyHead ([m] ++ ·) := by
  have hline : '\n' ∉ [m] := by
    rw [List.mem_singleton]
    rintro rfl
    cases h
  exact splitOn_append_left hline cs

/-- A text that starts with a mark is tidied behind it. -/
theorem tidy_eq_textBehind {code : String} {m : Char} {cs : List Char} (h : isBlank m = false)
    (hcode : code.toList = m :: cs) : tidy code = String.ofList (m :: textBehind cs) := by
  have hsplit := splitOn_cons_ink h cs
  rw [tidy, hcode, hsplit, textBehind]
  cases hcs : cs.splitOn '\n' with
  | nil => exact absurd hcs (List.splitOn_ne_nil _ _)
  | cons line rest =>
    have hmark := endsInk_singleton h
    rw [List.modifyHead_cons, tidyLines_inked (hmark.trimEnd_append_ne_nil line),
      hmark.trimEnd_append, linesBehind]
    cases tidyLines 0 rest <;> simp

theorem linesBehind_appendLast {m : Char} (h : isBlank m = false) {lines : List (List Char)}
    (hlines : lines ≠ []) (behind : List Char) (more : List (List Char)) :
    linesBehind (appendLast ([m] ++ behind) lines ++ more) =
      appendLast ([m] ++ trimEnd behind) (markedLines lines) ++ tidyLines 0 more := by
  cases lines with
  | nil => exact absurd rfl hlines
  | cons line rest =>
    cases rest with
    | nil =>
      have hend : EndsInk (line ++ [m]) := (endsInk_singleton h).append line
      have hkept := hend.trimEnd_append behind
      rw [List.append_assoc, List.append_assoc] at hkept
      simp only [appendLast, markedLines, linesBehind, List.cons_append, List.nil_append] at hkept ⊢
      rw [hkept]
    | cons next rest =>
      have hrest : next :: rest ≠ [] := by simp
      have hbehind := tidyLines_appendLast (endsInk_singleton h) hrest 0 behind more
      rw [appendLast_cons hrest, markedLines, appendLast_cons (tidyBetween_ne_nil hrest 0)]
      exact congrArg (trimEnd line :: ·) hbehind

/-- A mark in a text behind a mark parts it. -/
theorem textBehind_append {m : Char} (h : isBlank m = false) (cs rest : List Char) :
    textBehind (cs ++ m :: rest) = markedText cs ++ m :: textBehind rest := by
  obtain ⟨first, more, hrest⟩ := List.exists_cons_of_ne_nil (List.splitOn_ne_nil '\n' rest)
  have hmark : (m :: rest).splitOn '\n' = ([m] ++ first) :: more := by
    rw [splitOn_cons_ink h, hrest, List.modifyHead_cons]
  have hlines := List.splitOn_ne_nil '\n' cs
  rw [textBehind, splitOn_append hmark, linesBehind_appendLast h hlines,
    intercalate_appendLast_append (markedLines_ne_nil hlines), markedText, textBehind, hrest,
    linesBehind]
  cases tidyLines 0 more <;> simp

end ApexConstants.Apex
