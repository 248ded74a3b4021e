import ApexConstants.Apex.Source
import ApexConstants.Proofs.StringLiterals
import ApexConstants.Proofs.UsableNames

namespace ApexConstants.Apex
open Text

def declarationStart : List Char := "    public static final String ".toList

def literalStart : List Char := " = '".toList

def declarationEnd : List Char := ";\n".toList

/-- The declaration that a text begins with, and what stands behind its line. -/
def readDeclaration (cs : List Char) : Option (Constant × List Char) := do
  let rest ← List.isPrefixOf? declarationStart cs
  let name := rest.takeWhile isWordChar
  if isIdentifier name then
    let rest ← List.isPrefixOf? literalStart (rest.dropWhile isWordChar)
    let (text, rest) ← readLiteral rest
    let rest ← List.isPrefixOf? declarationEnd rest
    some (⟨String.ofList name, String.ofList text⟩, rest)
  else none

theorem isPrefixOf?_shorter {front cs rest : List Char}
    (h : List.isPrefixOf? front cs = some rest) : rest.length ≤ cs.length := by
  have happ := List.isPrefixOf?_eq_some_iff_append_eq.mp h
  rw [← happ, List.length_append]
  omega

theorem readDeclaration_shorter {cs rest : List Char} {c : Constant}
    (h : readDeclaration cs = some (c, rest)) : rest.length < cs.length := by
  simp only [readDeclaration, Option.bind_eq_bind, Option.bind_eq_some_iff] at h
  obtain ⟨r₁, h₁, h⟩ := h
  split at h
  · simp only [Option.bind_eq_some_iff] at h
    obtain ⟨r₂, h₂, ⟨text, r₃⟩, h₃, r₄, h₄, h⟩ := h
    cases h
    have hname : (r₁.dropWhile isWordChar).length ≤ r₁.length :=
      (List.dropWhile_sublist isWordChar).length_le
    have hliteral : r₃.length < r₂.length := readLiteral_shorter h₃
    have := isPrefixOf?_shorter h₁
    have := isPrefixOf?_shorter h₂
    have : rest.length ≤ r₃.length := isPrefixOf?_shorter h₄
    omega
  · cases h

/-- The declarations that a text consists of, if it is nothing else. -/
def readDeclarations (cs : List Char) : Option (List Constant) :=
  if cs.isEmpty then some []
  else
    match _h : readDeclaration cs with
    | none => none
    | some (c, rest) => (readDeclarations rest).map (c :: ·)
termination_by cs.length
decreasing_by exact readDeclaration_shorter _h

theorem readDeclarations_cons {cs rest : List Char} {c : Constant}
    (h : readDeclaration cs = some (c, rest)) :
    readDeclarations cs = (readDeclarations rest).map (c :: ·) := by
  have hlt := readDeclaration_shorter h
  rw [readDeclarations]
  split
  · rename_i hempty
    rw [List.isEmpty_iff.mp hempty] at hlt
    cases hlt
  · split
    · rename_i hnone
      rw [h] at hnone
      cases hnone
    · rename_i d after hsome
      rw [h] at hsome
      cases hsome
      rfl

theorem isPrefixOf?_append (front rest : List Char) :
    List.isPrefixOf? front (front ++ rest) = some rest :=
  List.isPrefixOf?_eq_some_iff_append_eq.mpr rfl

theorem toList_line (c : Constant) : c.line.toList =
    declarationStart ++ (c.name.toList ++ (literalStart ++
      (escapeChars c.value.toList ++ "';".toList))) := by
  have hescape : (escape c.value).toList = escapeChars c.value.toList := String.toList_ofList
  unfold Constant.line
  simp only [String.toList_append, hescape, List.append_assoc]
  rfl

/-- The line of a constant reads as this constant, whatever its value is. -/
theorem readDeclaration_line {c : Constant} (h : isIdentifier c.name.toList = true)
    (rest : List Char) : readDeclaration (c.line.toList ++ '\n' :: rest) = some (c, rest) := by
  have hword := isIdentifier_word h
  have hread := readLiteral_escapeChars c.value.toList (declarationEnd ++ rest)
  generalize htail : escapeChars c.value.toList ++ '\'' :: (declarationEnd ++ rest) = tail at hread
  have hline : c.line.toList ++ '\n' :: rest = declarationStart ++
      (c.name.toList ++ (literalStart ++ tail)) := by
    have hend : '\'' :: (declarationEnd ++ rest) = "';".toList ++ '\n' :: rest := rfl
    rw [← htail, hend, toList_line]
    simp only [List.append_assoc]
  have hspace : isWordChar ' ' = false := rfl
  have htake : (c.name.toList ++ (literalStart ++ tail)).takeWhile isWordChar =
      c.name.toList := by
    rw [List.takeWhile_append_of_pos hword]
    simp [literalStart, hspace]
  have hdrop : (c.name.toList ++ (literalStart ++ tail)).dropWhile isWordChar =
      literalStart ++ tail := by
    rw [List.dropWhile_append_of_pos hword]
    simp [literalStart, hspace]
  rw [hline, readDeclaration, isPrefixOf?_append]
  simp only [Option.bind_eq_bind, Option.bind_some, htake, h, if_true, hdrop, isPrefixOf?_append,
    hread, String.ofList_toList]

/-- The lines of constants read as these constants, in their order and nothing else. -/
theorem readDeclarations_lines {constants : List Constant}
    (h : ∀ c ∈ constants, isIdentifier c.name.toList = true) :
    readDeclarations (endLines (constants.map Constant.line)).toList = some constants := by
  induction constants with
  | nil =>
    rw [readDeclarations]
    rfl
  | cons c constants ih =>
    have hread := readDeclaration_line (h c List.mem_cons_self)
      (endLines (constants.map Constant.line)).toList
    have htext : (endLines ((c :: constants).map Constant.line)).toList =
        c.line.toList ++ '\n' :: (endLines (constants.map Constant.line)).toList := by
      simp [endLines_cons]
    rw [htext, readDeclarations_cons hread, ih fun d hd => h d (List.mem_cons_of_mem c hd)]
    rfl

end ApexConstants.Apex
