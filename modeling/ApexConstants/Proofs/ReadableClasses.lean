import ApexConstants.Proofs.DeclaredConstants
import ApexConstants.Proofs.ValueSetGenerations
import Mathlib.Data.List.Forall2

namespace ApexConstants
open Apex Text

def docLine (line : String) : String :=
  if line.toList.all isBlank then " *" else String.ofList (trimEnd (" * " ++ line).toList)

def Apex.Constant.tidied (c : Constant) : Constant :=
  { c with value := String.ofList (markedText c.value.toList) }

/-- Tidying turns the first text into the second, whatever stands around them. -/
def TidiesText (before after : String) : Prop := Tidies before.toList after.toList

theorem tidies_notice : TidiesText notice notice := .lines_kept (by decide +kernel)

/-- The notice opens a comment. -/
theorem prefix_notice : "/*".toList <+: notice.toList := by
  rw [notice, unlines, String.toList_intercalate, List.map_cons, List.map_cons,
    List.intercalate_cons_cons, List.append_assoc]
  exact List.prefix_append _ _

theorem tidies_commentLine {line : String} (h : '\n' ∉ line.toList) :
    TidiesText (commentLine " *" line) (docLine line) := by
  unfold commentLine docLine
  split
  · exact .line_kept (by decide) (by decide)
  · have hmark : EndsInk " *".toList := by decide
    have htext : (" *" ++ " " ++ line).toList = " *".toList ++ (" ".toList ++ line.toList) := by
      rw [String.toList_append, String.toList_append, List.append_assoc]
    have hsame : " *" ++ " " ++ line = " * " ++ line := rfl
    have hkept : trimEnd (" *" ++ " " ++ line).toList ≠ [] := by
      rw [htext, hmark.trimEnd_append]
      simp
    unfold TidiesText
    rw [String.toList_ofList, ← hsame]
    refine .line ?_ hkept
    rw [htext]
    simp [h]

theorem tidies_classLine {className : String} (h : '\n' ∉ className.toList) :
    TidiesText (classLine className) (classLine className) := by
  have htext : (classLine className).toList =
      "public inherited sharing class ".toList ++ className.toList ++ " \x7b".toList := by
    unfold classLine
    rw [String.toList_append, String.toList_append]
  have hend : EndsInk " \x7b".toList := by decide
  have hfront : '\n' ∉ "public inherited sharing class ".toList := by decide
  refine .line_kept ?_ ?_
  · rw [htext]
    simp only [List.mem_append, not_or]
    exact ⟨⟨hfront, h⟩, by decide⟩
  · rw [htext]
    exact hend.append _

/-- Between its apostrophes a constant is tidied like any text, and nothing else of its line
changes. -/
theorem tidies_line {c : Constant} (h : isIdentifier c.name.toList = true) :
    TidiesText c.line c.tidied.line := by
  have hname : '\n' ∉ c.name.toList := by
    intro hm
    exact absurd (isIdentifier_word h '\n' hm) (by decide)
  have hfront : EndsInk literalStart := by decide
  have hmark : EndsInk "';".toList := by decide
  have hnewline : '\n' ∉ declarationStart ++ (c.name.toList ++ literalStart) := by
    simp only [List.mem_append, not_or]
    exact ⟨by decide, hname, by decide⟩
  have htidies := tidies_marked ((hfront.append c.name.toList).append declarationStart) hmark
    hnewline (by decide) (escapeChars c.value.toList)
  unfold TidiesText
  rw [toList_line, toList_line]
  simpa only [Constant.tidied, String.toList_ofList, markedText_escapeChars, List.append_assoc]
    using htidies

def classLines (comments : List String) (className : String) (declarations : List String) :
    List String :=
  [notice, "", "/**"] ++ comments ++ [" */", classLine className, ""] ++ declarations ++ ["\x7d"]

theorem lines_ne_nil (s : String) : lines s ≠ [] := by
  simp [lines, pieces, List.splitOn_ne_nil]

theorem valueSetSource_eq (header className : String) (constants : List Constant) :
    valueSetSource header className constants =
      endLines (classLines ((lines header).map (commentLine " *")) className
        (constants.map Constant.line)) := by
  have hcomment : endLines [comment header] = endLines ((lines header).map (commentLine " *")) :=
    endLines_unlines (by simp [lines_ne_nil])
  have hsplit : [notice, "", "/**", comment header, " */", classLine className, ""] =
      [notice, "", "/**"] ++ ([comment header] ++ [" */", classLine className, ""]) := rfl
  unfold valueSetSource classLines
  rw [hsplit]
  simp only [List.append_assoc, endLines_append, hcomment]

/-- The two empty lines of a class part it into three blocks. -/
theorem toList_classLines {comments : List String} (className : String)
    (declarations : List String) : (endLines (classLines comments className declarations)).toList =
      notice.toList ++ '\n' :: '\n' :: (['\n'].intercalate
        ((["/**"] ++ comments ++ [" */", classLine className]).map String.toList) ++
          '\n' :: '\n' :: ['\n'].intercalate ((declarations ++ ["\x7d"]).map String.toList)) ++
        ['\n'] := by
  have hsplit : classLines comments className declarations =
      [notice] ++ "" :: ((["/**"] ++ comments ++ [" */", classLine className]) ++
        "" :: (declarations ++ ["\x7d"])) := by
    simp [classLines]
  have hempty : "".toList = [] := rfl
  rw [hsplit, toList_endLines (by simp)]
  simp only [List.map_append, List.map_cons, hempty]
  rw [intercalate_gap (by simp) (by simp), intercalate_gap (by simp) (by simp)]
  simp

/-- A class is tidied line by line of its comment and declaration by declaration. -/
theorem tidy_classLines {comments comments' declarations declarations' : List String}
    {className : String} (hname : '\n' ∉ className.toList)
    (hcomments : List.Forall₂ TidiesText comments comments')
    (hdeclarations : List.Forall₂ TidiesText declarations declarations') :
    tidy (endLines (classLines comments className declarations)) =
      endLines (classLines comments' className declarations') := by
  have hopen : TidiesText "/**" "/**" := .line_kept (by decide) (by decide)
  have hclose : TidiesText " */" " */" := .line_kept (by decide) (by decide)
  have hbrace : TidiesText "\x7d" "\x7d" := .line_kept (by decide) (by decide)
  have htop : List.Forall₂ TidiesText (["/**"] ++ comments ++ [" */", classLine className])
      (["/**"] ++ comments' ++ [" */", classLine className]) :=
    .cons hopen (List.rel_append hcomments
      (.cons hclose (.cons (tidies_classLine hname) .nil)))
  have hrest : List.Forall₂ TidiesText (declarations ++ ["\x7d"]) (declarations' ++ ["\x7d"]) :=
    List.rel_append hdeclarations (.cons hbrace .nil)
  have hmap : ∀ {ls ks : List String}, List.Forall₂ TidiesText ls ks →
      List.Forall₂ Tidies (ls.map String.toList) (ks.map String.toList) := by
    intro ls ks h
    rw [List.forall₂_map_left_iff, List.forall₂_map_right_iff]
    exact h
  -- Each of the three blocks is a list of parts, and the gaps keep their empty lines.
  have htidies := Tidies.gap tidies_notice (Tidies.gap (Tidies.joined (hmap htop) (by simp))
    (Tidies.joined (hmap hrest) (by simp)))
  rw [htidies.tidy_ended (toList_classLines className declarations)]
  apply String.toList_inj.mp
  rw [String.toList_ofList, toList_classLines className declarations']

/-- What is written for the constants: the notice, the doc comment, the class and a line for each
constant. -/
theorem tidy_valueSetSource {header className : String} {constants : List Constant}
    (hname : '\n' ∉ className.toList)
    (hconstants : ∀ c ∈ constants, isIdentifier c.name.toList = true) :
    tidy (valueSetSource header className constants) =
      endLines (classLines ((lines header).map docLine) className
        ((constants.map Constant.tidied).map Constant.line)) := by
  rw [valueSetSource_eq]
  apply tidy_classLines hname
  · rw [List.forall₂_map_left_iff, List.forall₂_map_right_iff]
    exact List.forall₂_same.mpr fun line hline =>
      tidies_commentLine (newline_not_mem_lines hline)
  · rw [List.map_map, List.forall₂_map_left_iff, List.forall₂_map_right_iff]
    exact List.forall₂_same.mpr fun c hc => tidies_line (hconstants c hc)

theorem tidied_value (c : Constant) :
    tidy ("'" ++ c.value ++ "'") = "'" ++ c.tidied.value ++ "'" := by
  have hink : EndsInk ['\''] := by decide
  have htidies := tidies_marked hink hink (by decide) (by decide) c.value.toList
  have htext : ("'" ++ c.value ++ "'").toList = ['\''] ++ (c.value.toList ++ ['\'']) := by
    simp [String.toList_append]
  rw [htidies.tidy_eq htext]
  apply String.toList_inj.mp
  simp [Constant.tidied, String.toList_append]

theorem tidied_value_of_line {c : Constant} (h : '\n' ∉ c.value.toList) :
    c.tidied.value = c.value := by
  simp [Constant.tidied, markedText_of_line h]

/-- What a constant looks like in a class: its name, and its value as a text between apostrophes is
tidied. -/
structure ReadAs (c d : Constant) : Prop where
  name : d.name = c.name
  value : tidy ("'" ++ c.value ++ "'") = "'" ++ d.value ++ "'"
  unchanged : '\n' ∉ c.value.toList → d.value = c.value

theorem readAs_tidied (c : Constant) : ReadAs c c.tidied :=
  ⟨rfl, tidied_value c, tidied_value_of_line⟩

theorem Tally.constants_identifier {namer : Namer} (h : namer.rules.LeadUsable)
    (labels : List (Option String)) :
    ∀ c ∈ (ofLabels namer labels).constants, isIdentifier c.name.toList = true := by
  intro c hc
  rw [(ofLabels_named namer labels).names c hc]
  exact isIdentifier_of_isConstantName
    (isIdentifier_upper (Sanitizer.sanitize_identifier h c.value))

namespace ValueSetGenerator

/-- The body of a class is its fixed lines around the declarations, and these read as one
declaration for each constant, whatever the values are. -/
theorem body_readable (g : ValueSetGenerator) (namer : Namer) (hrules : namer.rules = {})
    (values : List (Option String)) (hvalues : ∃ v, some v ∈ values ∧ v ≠ "")
    (header className : String) (hname : '\n' ∉ className.toList) :
    (g.folder = .shipped → ∃ body,
      g.body? (Tally.ofLabels namer values).constants header className = .ok (some body)) ∧
    ∀ body, g.body? (Tally.ofLabels namer values).constants header className = .ok (some body) →
      ∃ declarations declared,
        body = endLines ([notice, "", "/**"] ++ (lines header).map docLine ++
          [" */", classLine className, ""]) ++ declarations ++ endLines ["\x7d"] ∧
        readDeclarations declarations.toList = some declared ∧
        List.Forall₂ ReadAs (Tally.ofLabels namer values).constants declared := by
  obtain ⟨v, hv, hne⟩ := hvalues
  have husable : namer.rules.LeadUsable := hrules ▸ Sanitizer.standard_leadUsable
  have hids := Tally.constants_identifier husable values
  have hsome : (Tally.ofLabels namer values).constants.isEmpty = false := by
    simpa using Tally.ofLabels_ne_nil namer hv hne
  generalize (Tally.ofLabels namer values).constants = constants at hids hsome ⊢
  refine ⟨?_, ?_⟩
  · intro hfolder
    exact ⟨tidy (valueSetSource header className constants), by
      simp [body?, hsome, hfolder, TemplateFolder.check]⟩
  · intro body hbody
    have hsource : body = tidy (valueSetSource header className constants) := by
      rcases body?_cases hbody with ⟨_, hnone⟩ | ⟨_, hbody⟩
      · cases hnone
      · exact Option.some.inj hbody
    refine ⟨endLines ((constants.map Constant.tidied).map Constant.line),
      constants.map Constant.tidied, ?_, ?_, ?_⟩
    · rw [hsource, tidy_valueSetSource hname hids, classLines]
      simp only [endLines_append, String.append_assoc]
    · apply readDeclarations_lines
      intro c hc
      obtain ⟨d, hd, rfl⟩ := List.mem_map.mp hc
      exact hids d hd
    · rw [List.forall₂_map_right_iff]
      exact List.forall₂_same.mpr fun c _ => readAs_tidied c

/-- A value that tries to end its literal and its line, under a header of three lines. -/
theorem body_readable_breakout :
    ∃ body, body? ⟨"60.0", .global, {}, {}, "_", .shipped⟩
        (Tally.ofLabels .standard [none, some "a\\'; \n\n\n\n';", some "b"]).constants
        "Genre\n \nof a book " "Genre" = .ok (some body) ∧
      ∃ declarations declared,
        body = endLines ([notice, "", "/**"] ++ (lines "Genre\n \nof a book ").map docLine ++
          [" */", classLine "Genre", ""]) ++ declarations ++ endLines ["\x7d"] ∧
        readDeclarations declarations.toList = some declared ∧
        List.Forall₂ ReadAs
          (Tally.ofLabels .standard [none, some "a\\'; \n\n\n\n';", some "b"]).constants
          declared := by
  have hreadable := body_readable ⟨"60.0", .global, {}, {}, "_", .shipped⟩ .standard rfl
    [none, some "a\\'; \n\n\n\n';", some "b"] ⟨"b", by simp, by decide⟩
    "Genre\n \nof a book " "Genre" (by decide)
  obtain ⟨body, hbody⟩ := hreadable.1 rfl
  exact ⟨body, hbody, hreadable.2 body hbody⟩

end ValueSetGenerator

end ApexConstants
