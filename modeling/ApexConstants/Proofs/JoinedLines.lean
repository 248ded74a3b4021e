import ApexConstants.Text
import Mathlib.Data.List.Basic

namespace ApexConstants.Text

/-- The lines with more text at the end of the last one. -/
def appendLast (more : List Char) : List (List Char) → List (List Char)
  | [] => []
  | [line] => [line ++ more]
  | line :: next :: rest => line :: appendLast more (next :: rest)

theorem appendLast_cons {lines : List (List Char)} (h : lines ≠ []) (more line : List Char) :
    appendLast more (line :: lines) = line :: appendLast more lines := by
  cases lines with
  | nil => exact absurd rfl h
  | cons next rest => rfl

theorem appendLast_ne_nil {lines : List (List Char)} (h : lines ≠ []) (more : List Char) :
    appendLast more lines ≠ [] := by
  cases lines with
  | nil => exact absurd rfl h
  | cons line rest => cases rest <;> simp [appendLast]

theorem appendLast_concat (more line : List Char) (lines : List (List Char)) :
    appendLast more (lines ++ [line]) = lines ++ [line ++ more] := by
  induction lines with
  | nil => rfl
  | cons first rest ih => rw [List.cons_append, appendLast_cons (by simp), ih, List.cons_append]

theorem splitOn_append_left {separator : Char} {front : List Char} (h : separator ∉ front)
    (cs : List Char) :
    (front ++ cs).splitOn separator = (cs.splitOn separator).modifyHead (front ++ ·) := by
  induction front with
  | nil =>
    cases hcs : cs.splitOn separator <;> simp [hcs]
  | cons c front ih =>
    simp only [List.mem_cons, not_or] at h
    have hc : (c == separator) = false := by simpa using Ne.symm h.1
    rw [List.cons_append, List.splitOn_cons_eq_if_modifyHead, hc, ih h.2]
    cases hcs : cs.splitOn separator <;> simp

/-- Where two texts meet, the last piece of the one goes on with the first piece of the other. -/
theorem splitOn_append {separator : Char} {ds first : List Char} {more : List (List Char)}
    (h : ds.splitOn separator = first :: more) (cs : List Char) :
    (cs ++ ds).splitOn separator = appendLast first (cs.splitOn separator) ++ more := by
  induction cs with
  | nil => simpa [appendLast] using h
  | cons c cs ih =>
    have hpieces := List.splitOn_ne_nil separator cs
    rw [List.cons_append, List.splitOn_cons_eq_if_modifyHead,
      List.splitOn_cons_eq_if_modifyHead, ih]
    split
    · rw [appendLast_cons hpieces, List.cons_append]
    · cases hcs : cs.splitOn separator with
      | nil => exact absurd hcs hpieces
      | cons line rest => cases rest <;> rfl

theorem splitOn_append_right {separator : Char} {more : List Char} (h : separator ∉ more)
    (cs : List Char) :
    (cs ++ more).splitOn separator = appendLast more (cs.splitOn separator) := by
  rw [splitOn_append (List.splitOn_eq_singleton h), List.append_nil]

/-- All pieces but the first have the separator in front of them. -/
theorem intercalate_cons_eq (separator : Char) (first : List Char) (rest : List (List Char)) :
    [separator].intercalate (first :: rest) = first ++ rest.flatMap (separator :: ·) := by
  induction rest generalizing first with
  | nil => simp
  | cons next rest ih =>
    rw [List.intercalate_cons_cons, ih, List.flatMap_cons]
    simp

theorem intercalate_append {xs ys : List (List Char)} (hx : xs ≠ []) (hy : ys ≠ []) :
    ['\n'].intercalate (xs ++ ys) = ['\n'].intercalate xs ++ '\n' :: ['\n'].intercalate ys := by
  induction xs with
  | nil => exact absurd rfl hx
  | cons x xs ih =>
    cases xs with
    | nil =>
      rw [List.singleton_append, List.intercalate_cons_of_ne_nil hy]
      simp
    | cons z zs =>
      have hz : z :: zs ++ ys ≠ [] := by simp
      rw [List.cons_append, List.intercalate_cons_of_ne_nil hz, ih (by simp),
        List.intercalate_cons_cons]
      simp

theorem intercalate_appendLast {lines : List (List Char)} (h : lines ≠ []) (more : List Char) :
    ['\n'].intercalate (appendLast more lines) = ['\n'].intercalate lines ++ more := by
  induction lines with
  | nil => exact absurd rfl h
  | cons line rest ih =>
    cases rest with
    | nil => simp [appendLast]
    | cons next rest =>
      rw [appendLast_cons (by simp),
        List.intercalate_cons_of_ne_nil (appendLast_ne_nil (by simp) _), ih (by simp),
        List.intercalate_cons_cons]
      simp

theorem intercalate_appendLast_append {lines : List (List Char)} (h : lines ≠ [])
    (more : List Char) (rest : List (List Char)) :
    ['\n'].intercalate (appendLast more lines ++ rest) =
      ['\n'].intercalate lines ++ ['\n'].intercalate (more :: rest) := by
  cases rest with
  | nil => simpa using intercalate_appendLast h more
  | cons next rest =>
    rw [intercalate_append (appendLast_ne_nil h more) (by simp), intercalate_appendLast h,
      List.intercalate_cons_cons]
    simp

theorem intercalate_modifyHead {lines : List (List Char)} (h : lines ≠ []) (front : List Char) :
    ['\n'].intercalate (lines.modifyHead (front ++ ·)) = front ++ ['\n'].intercalate lines := by
  cases lines with
  | nil => exact absurd rfl h
  | cons line rest => cases rest <;> simp

/-- What is in joined lines is a line feed or in one of them. -/
theorem mem_intercalate {c : Char} {lines : List (List Char)} (h : c ∈ ['\n'].intercalate lines) :
    c = '\n' ∨ ∃ line ∈ lines, c ∈ line := by
  induction lines with
  | nil => simp at h
  | cons line rest ih =>
    cases rest with
    | nil =>
      rw [List.intercalate_singleton] at h
      exact .inr ⟨line, List.mem_cons_self, h⟩
    | cons next rest =>
      simp only [List.intercalate_cons_cons, List.mem_append, List.mem_singleton] at h
      rcases h with (h | h) | h
      · exact .inr ⟨line, List.mem_cons_self, h⟩
      · exact .inl h
      · obtain hline | ⟨l, hl, hc⟩ := ih h
        · exact .inl hline
        · exact .inr ⟨l, List.mem_cons_of_mem line hl, hc⟩

theorem mem_of_mem_splitOn {separator c : Char} {cs piece : List Char}
    (h : piece ∈ cs.splitOn separator) (hc : c ∈ piece) : c ∈ cs := by
  have hjoined : ∀ {pieces : List (List Char)}, piece ∈ pieces →
      c ∈ [separator].intercalate pieces := by
    intro pieces hpiece
    induction pieces with
    | nil => cases hpiece
    | cons first rest ih =>
      cases rest with
      | nil =>
        rw [List.intercalate_singleton, ← List.mem_singleton.mp hpiece]
        exact hc
      | cons next rest =>
        rw [List.intercalate_cons_cons]
        rcases List.mem_cons.mp hpiece with rfl | hpiece
        · simp [hc]
        · simp [ih hpiece]
  have hwhole : [separator].intercalate (cs.splitOn separator) = cs :=
    List.intercalate_splitOn separator
  exact hwhole ▸ hjoined h

/-- An empty piece between two others is two line feeds. -/
theorem intercalate_gap {xs ys : List (List Char)} (hx : xs ≠ []) (hy : ys ≠ []) :
    ['\n'].intercalate (xs ++ [] :: ys) =
      ['\n'].intercalate xs ++ '\n' :: '\n' :: ['\n'].intercalate ys := by
  rw [intercalate_append hx (by simp), List.intercalate_cons_of_ne_nil hy]
  simp

theorem endLines_cons (line : String) (ls : List String) :
    endLines (line :: ls) = line ++ "\n" ++ endLines ls := by
  rw [endLines, List.map_cons, String.join_cons]
  rfl

theorem endLines_append (ls ks : List String) :
    endLines (ls ++ ks) = endLines ls ++ endLines ks := by
  rw [endLines, List.map_append, String.join_append]
  rfl

theorem toList_endLines {ls : List String} (h : ls ≠ []) :
    (endLines ls).toList = ['\n'].intercalate (ls.map String.toList) ++ ['\n'] := by
  induction ls with
  | nil => exact absurd rfl h
  | cons line rest ih =>
    rw [endLines_cons, String.toList_append, String.toList_append]
    cases rest with
    | nil => simp [endLines]
    | cons next rest =>
      simp only [List.map_cons] at ih ⊢
      rw [ih (by simp), List.intercalate_cons_cons]
      simp

theorem endLines_unlines {ls : List String} (h : ls ≠ []) :
    endLines [unlines ls] = endLines ls := by
  apply String.toList_inj.mp
  rw [toList_endLines h, toList_endLines (by simp), unlines]
  simp [String.toList_intercalate]

theorem not_mem_of_mem_splitOn {separator : Char} {cs piece : List Char}
    (h : piece ∈ cs.splitOn separator) : separator ∉ piece := by
  induction cs generalizing piece with
  | nil =>
    rw [List.splitOn_nil, List.mem_singleton] at h
    simp [h]
  | cons c cs ih =>
    rw [List.splitOn_cons_eq_if_modifyHead] at h
    split at h
    · rcases List.mem_cons.mp h with rfl | h
      · simp
      · exact ih h
    · rename_i hc
      cases hcs : cs.splitOn separator with
      | nil => exact absurd hcs (List.splitOn_ne_nil _ _)
      | cons first rest =>
        rw [hcs] at h ih
        rcases List.mem_cons.mp h with rfl | h
        · have hfirst := ih List.mem_cons_self
          simp only [List.mem_cons, not_or]
          exact ⟨fun heq => hc (beq_iff_eq.mpr heq.symm), hfirst⟩
        · exact ih (List.mem_cons_of_mem first h)

theorem newline_not_mem_lines {s line : String} (h : line ∈ lines s) : '\n' ∉ line.toList := by
  obtain ⟨cs, hcs, rfl⟩ := List.mem_map.mp h
  rw [String.toList_ofList]
  exact not_mem_of_mem_splitOn hcs

end ApexConstants.Text
