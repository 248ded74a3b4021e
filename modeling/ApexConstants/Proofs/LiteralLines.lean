import ApexConstants.Proofs.KeptLayouts
import ApexConstants.Proofs.ReadableClasses
import ApexConstants.Proofs.SetBySet

namespace ApexConstants
open Apex Text

namespace Apex

def OneLine (s : String) : Prop := '\n' ∉ s.toList ∧ '\r' ∉ s.toList

theorem mem_escapeChars {c : Char} (h : c ≠ '\\') {cs : List Char} :
    c ∈ escapeChars cs ↔ c ∈ cs := by
  induction cs with
  | nil => rfl
  | cons d cs ih =>
    rw [escapeChars_cons, List.mem_append, List.mem_cons, ih, escapeChar]
    split <;> simp [h]

theorem oneLine_escape {s : String} : OneLine (escape s) ↔ OneLine s := by
  rw [OneLine, OneLine, escape, String.toList_ofList, mem_escapeChars (by decide),
    mem_escapeChars (by decide)]

/-- What a constant looks like in a class. Its literal is on one line if its value is, and it is
another value unless the value keeps its layout. -/
structure LiteralOf (c d : Constant) : Prop where
  name : d.name = c.name
  oneLine : OneLine (escape d.value) ↔ OneLine c.value
  unaltered : d.value = c.value ↔ KeepsLayout c.value.toList

theorem literalOf_tidied (c : Constant) : LiteralOf c c.tidied := by
  have htext : c.tidied.value.toList = markedText c.value.toList := String.toList_ofList
  refine ⟨rfl, ?_, ?_⟩
  · rw [oneLine_escape, OneLine, OneLine, htext, newline_mem_markedText]
    refine and_congr_right fun hnone => ?_
    rw [markedText_of_line hnone]
  · rw [← String.toList_inj, htext, markedText_eq_iff]

def classFront (description className : String) : String :=
  endLines [notice, "", "/**", comment description, " */", classLine className]

/-- Whatever stands between, the front of a class starts and ends with a mark. -/
theorem toList_classFront (description className : String) :
    ∃ middle, (classFront description className).toList =
      "/*".toList ++ (middle ++ " \x7b".toList) ++ ['\n'] := by
  obtain ⟨rest, hnotice⟩ := prefix_notice
  have hclass : (classLine className).toList =
      ("public inherited sharing class " ++ className).toList ++ " \x7b".toList :=
    String.toList_append
  refine ⟨rest ++ '\n' ::
    (['\n'].intercalate (["", "/**", comment description, " */"].map String.toList) ++ '\n' ::
      ("public inherited sharing class " ++ className).toList), ?_⟩
  have hjoined : (classFront description className).toList = notice.toList ++ '\n' ::
      (['\n'].intercalate (["", "/**", comment description, " */"].map String.toList) ++ '\n' ::
        (classLine className).toList) ++ ['\n'] := by
    rw [classFront, toList_endLines (by simp)]
    simp
  rw [hjoined, hclass, ← hnotice]
  simp only [List.append_assoc, List.cons_append]

/-- The front of a class is tidied apart from its declarations, and these one by one. -/
theorem tidy_source {description className : String} {constants : List Constant}
    (hconstants : ∀ c ∈ constants, isIdentifier c.name.toList = true) :
    tidy (valueSetSource description className constants) =
      tidy (classFront description className) ++ "\n" ++
        endLines ((constants.map Constant.tidied).map Constant.line) ++ endLines ["\x7d"] := by
  have hopen : EndsInk "/*".toList := by decide
  have hbrace : EndsInk " \x7b".toList := by decide
  obtain ⟨middle, hfront⟩ := toList_classFront description className
  have htop := tidies_marked hopen hbrace (by decide) (by decide) middle
  have hlast : TidiesText "\x7d" "\x7d" := .line_kept (by decide) (by decide)
  have hlines : List.Forall₂ Tidies ((constants.map Constant.line ++ ["\x7d"]).map String.toList)
      (((constants.map Constant.tidied).map Constant.line ++ ["\x7d"]).map String.toList) := by
    rw [List.forall₂_map_left_iff, List.forall₂_map_right_iff]
    refine List.rel_append ?_ (.cons hlast .nil)
    rw [List.map_map, List.forall₂_map_left_iff, List.forall₂_map_right_iff]
    exact List.forall₂_same.mpr fun c hc => tidies_line (hconstants c hc)
  have hrest := Tidies.joined hlines (by simp)
  have hsource : (valueSetSource description className constants).toList =
      ("/*".toList ++ (middle ++ " \x7b".toList)) ++ '\n' :: '\n' ::
        ['\n'].intercalate ((constants.map Constant.line ++ ["\x7d"]).map String.toList) ++
          ['\n'] := by
    have hsplit : valueSetSource description className constants =
        classFront description className ++ endLines [""] ++
          endLines (constants.map Constant.line ++ ["\x7d"]) := by
      simp only [classFront, ← endLines_append]
      rfl
    have hempty : (endLines [""]).toList = ['\n'] := rfl
    rw [hsplit, String.toList_append, String.toList_append, hfront, hempty,
      toList_endLines (by simp)]
    simp only [List.append_assoc, List.cons_append, List.nil_append]
  rw [(htop.gap hrest).tidy_ended hsource, htop.tidy_ended hfront, String.append_assoc,
    ← endLines_append]
  apply String.toList_inj.mp
  have hfeed : "\n".toList = ['\n'] := rfl
  have hsome : (constants.map Constant.tidied).map Constant.line ++ ["\x7d"] ≠ [] := by simp
  simp only [String.toList_append, String.toList_ofList, hfeed, toList_endLines hsome,
    List.append_assoc, List.cons_append, List.nil_append]

end Apex

namespace ValueSetGenerator
variable {g : ValueSetGenerator} {namer : Namer} {v : ValueSet} {constants declared : List Constant}
  {c : GeneratedClass}

theorem body_of_yield (h : g.yield v constants = .ok (.generated c)) :
    c.source = some v.qualifiedName ∧
      c.body = tidy (valueSetSource v.headerComment (g.className v).text constants) := by
  obtain ⟨answer, hbody, h⟩ := bind_eq_ok.mp h
  rcases body?_cases hbody with ⟨_, rfl⟩ | ⟨_, rfl⟩
  · cases h
  · obtain ⟨stamp, _, h⟩ := bind_eq_ok.mp h
    cases h
    exact ⟨rfl, rfl⟩

structure Declares (g : ValueSetGenerator) (v : ValueSet) (c : GeneratedClass)
    (constants declared : List Constant) : Prop where
  source : c.source = some v.qualifiedName
  /-- Its body is the text for the constants, laid out. -/
  tidied : c.body = tidy (valueSetSource v.headerComment (g.className v).text constants)
  /-- The declarations stand behind a front that does not depend on them. -/
  body : c.body = tidy (classFront v.headerComment (g.className v).text) ++ "\n" ++
    endLines (declared.map Constant.line) ++ endLines ["\x7d"]
  readable : readDeclarations (endLines (declared.map Constant.line)).toList = some declared
  literals : List.Forall₂ LiteralOf constants declared

theorem declares_of_yield (hlead : namer.rules.LeadUsable)
    (h : (g.contribution namer v).yield = .ok (.generated c)) :
    g.Declares v c (Tally.ofLabels namer v.values).constants
      ((Tally.ofLabels namer v.values).constants.map Constant.tidied) := by
  have hnames := Tally.constants_identifier hlead v.values
  obtain ⟨hsource, hbody⟩ := body_of_yield h
  refine ⟨hsource, hbody, hbody.trans (tidy_source hnames), readDeclarations_lines ?_, ?_⟩
  · intro d hd
    obtain ⟨constant, hconstant, rfl⟩ := List.mem_map.mp hd
    exact hnames constant hconstant
  · rw [List.forall₂_map_right_iff]
    exact List.forall₂_same.mpr fun constant _ => literalOf_tidied constant

/-- The literals are on one line exactly when the values are. -/
theorem oneLine_iff_of_literals (h : List.Forall₂ LiteralOf constants declared) :
    (∀ d ∈ declared, OneLine (escape d.value)) ↔ ∀ c ∈ constants, OneLine c.value := by
  induction h with
  | nil => simp
  | cons hfirst _ ih => rw [List.forall_mem_cons, List.forall_mem_cons, hfirst.oneLine, ih]

/-- The declarations are the constants themselves exactly when these keep their layout. -/
theorem unaltered_iff_of_literals (h : List.Forall₂ LiteralOf constants declared) :
    declared = constants ↔ ∀ c ∈ constants, KeepsLayout c.value.toList := by
  induction h with
  | nil => simp
  | @cons c d _ _ hfirst _ ih =>
    have hsame : d = c ↔ d.value = c.value := by
      cases c
      cases d
      simpa using fun _ => hfirst.name
    rw [List.cons.injEq, List.forall_mem_cons, hsame, hfirst.unaltered, ih]

/-- In the class for a set all literals are on one line exactly when the values of its constants
are, and laying out the class leaves every literal as it is exactly when the values keep their
layout, as those do that are on one line. -/
theorem literals_kept_iff (g : ValueSetGenerator) (namer : Namer)
    (hlead : namer.rules.LeadUsable) (sets : List ValueSet) (result : Result)
    (h : (g.generate namer sets).outcome = .ok result) :
    ∀ c ∈ result.classes, ∃ v ∈ sets, ∃ declared : List Constant,
      let constants := (Tally.ofLabels namer v.values).constants
      g.Declares v c constants declared ∧
      ((∀ d ∈ declared, OneLine (escape d.value)) ↔ ∀ k ∈ constants, OneLine k.value) ∧
      (declared = constants ↔ ∀ k ∈ constants, KeepsLayout k.value.toList) ∧
      ((∀ k ∈ constants, OneLine k.value) → declared = constants) := by
  intro c hc
  obtain ⟨v, hv, hyield⟩ := (mem_classes_iff rfl h).mp hc
  have hsame : (Namer.fresh namer.rules).rules = namer.rules := rfl
  rw [(contribution_congr hsame v).2.2] at hyield
  have hdeclares := declares_of_yield hlead hyield
  have hunaltered := unaltered_iff_of_literals hdeclares.literals
  refine ⟨v, hv, _, hdeclares, oneLine_iff_of_literals hdeclares.literals, hunaltered, ?_⟩
  exact fun hlines => hunaltered.mpr fun k hk => keepsLayout_of_line (hlines k hk).1

def plainGlobals : ValueSetGenerator := { apiVersion := "60.0", kind := .global }

def globalSet (labels : List (Option String)) : ValueSet :=
  ⟨"B", .global, labels, none, some "m/globalValueSets/B.globalValueSet-meta.xml"⟩

/-- A label of two lines that keeps its layout stays as it is, on two lines. -/
theorem literals_kept_two_lines :
    ({} : Sanitizer).LeadUsable ∧ ∃ result c declared,
      (plainGlobals.generate .standard [globalSet [some "one\n two", none, some "three"]]).outcome =
        .ok result ∧ c ∈ result.classes ∧
      plainGlobals.Declares (globalSet [some "one\n two", none, some "three"]) c
        [⟨"ONE_TWO", "one\n two"⟩, ⟨"THREE", "three"⟩] declared ∧
      (¬ ∀ d ∈ declared, OneLine (escape d.value)) ∧
      declared = [⟨"ONE_TWO", "one\n two"⟩, ⟨"THREE", "three"⟩] := by
  have hlead : ({} : Sanitizer).LeadUsable := Sanitizer.standard_leadUsable
  refine ⟨hlead, ?_⟩
  obtain ⟨result, c, hresult, hc, _⟩ :=
    generate_alone (g := plainGlobals) (v := globalSet [some "one\n two", none, some "three"]) rfl rfl
  obtain ⟨v, hv, declared, hdeclares, hlines, hsame, _⟩ :=
    literals_kept_iff plainGlobals .standard hlead _ result hresult c hc
  rw [List.mem_singleton.mp hv] at hdeclares hlines hsame
  have hconstants : (Tally.ofLabels .standard
      (globalSet [some "one\n two", none, some "three"]).values).constants =
        [⟨"ONE_TWO", "one\n two"⟩, ⟨"THREE", "three"⟩] := by
    decide +kernel
  rw [hconstants] at hdeclares hlines hsame
  have hlayout : declared = [⟨"ONE_TWO", "one\n two"⟩, ⟨"THREE", "three"⟩] :=
    hsame.mpr (by decide +kernel)
  refine ⟨result, c, declared, hresult, hc, hdeclares, ?_, hlayout⟩
  rw [hlines]
  exact fun hall => absurd (hall _ List.mem_cons_self).1 (by decide)

/-- The file of a global value set whose label runs over several lines, the first of which ends with
a blank. -/
def linesText : String :=
  "<G><customValue><fullName>A \n\n\n\nB&#13;C</fullName></customValue></G>"

/-- A label from a file stands in its literal with its line feeds and its carriage return, less what
the layout of the class takes away from it. -/
theorem literal_over_lines :
    ∃ (sets : List ValueSet) (result : Result) (c : GeneratedClass) (front : String) (d : Constant),
      loadGlobalValueSets (sampleProject standardText linesText).tree.readMetadata
          [.ofText "m/globalValueSets/B.globalValueSet-meta.xml"] = .ok sets ∧
      (plainGlobals.generate .standard sets).outcome = .ok result ∧ c ∈ result.classes ∧
      c.body = front ++ endLines [d.line] ++ endLines ["\x7d"] ∧
      ¬ OneLine (escape d.value) ∧ ∀ v ∈ sets, some d.value ∉ v.values := by
  obtain ⟨sets, hsets, rfl⟩ := ok_of_toOption
    (show (loadGlobalValueSets (sampleProject standardText linesText).tree.readMetadata
      [.ofText "m/globalValueSets/B.globalValueSet-meta.xml"]).toOption.map id =
        some [globalSet [some "A \n\n\n\nB\rC"]] by decide +kernel)
  obtain ⟨result, c, hresult, hc, hyield⟩ :=
    generate_alone (g := plainGlobals) (v := globalSet [some "A \n\n\n\nB\rC"]) rfl rfl
  have hdeclares := declares_of_yield Sanitizer.standard_leadUsable hyield
  have hconstants : (Tally.ofLabels .standard
      (globalSet [some "A \n\n\n\nB\rC"]).values).constants = [⟨"A_B_C", "A \n\n\n\nB\rC"⟩] := by
    decide +kernel
  rw [hconstants] at hdeclares
  have hliteral := literalOf_tidied ⟨"A_B_C", "A \n\n\n\nB\rC"⟩
  refine ⟨_, result, c, _, _, hsets, hresult, hc, hdeclares.body, ?_, ?_⟩
  · rw [hliteral.oneLine]
    exact fun hline => absurd hline.1 (by decide)
  · intro v hv hlabel
    rw [List.mem_singleton.mp hv] at hlabel
    have hsame := Option.some.inj (List.mem_singleton.mp hlabel)
    exact absurd (hliteral.unaltered.mp hsame) (by decide +kernel)

end ValueSetGenerator

end ApexConstants
