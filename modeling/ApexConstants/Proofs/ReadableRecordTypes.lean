import ApexConstants.Proofs.AccessorNames
import Mathlib.Data.Option.Basic

namespace ApexConstants

namespace Apex
open Text

def between? (front back line : String) : Option String := do
  let rest ← List.isPrefixOf? front.toList line.toList
  let inner ← List.isSuffixOf? back.toList rest
  some (String.ofList inner)

theorem between?_line (front back s : String) :
    between? front back (front ++ s ++ back) = some s := by
  have hback : List.isSuffixOf? back.toList (s.toList ++ back.toList) = some s.toList :=
    List.isSuffixOf?_eq_some_iff_append_eq.mpr rfl
  rw [between?, String.append_assoc, String.toList_append, String.toList_append,
    isPrefixOf?_append]
  simp [hback]

def lookupJoint : String := ".getRecordTypeInfosByDeveloperName().get('"

/-- Object and developer name of a look-up; the latter is made of word characters. -/
def readLookup (text : String) : Option (String × String) := do
  let object ← List.isSuffixOf? lookupJoint.toList (text.toList.rdropWhile isWordChar)
  some (String.ofList object, String.ofList (text.toList.rtakeWhile isWordChar))

theorem readLookup_text (object : String) {developer : String}
    (h : ∀ c ∈ developer.toList, isWordChar c = true) :
    readLookup (object ++ lookupJoint ++ developer) = some (object, developer) := by
  have hjoint : lookupJoint.toList = lookupJoint.toList.dropLast ++ ['\''] := by decide
  have hquote : isWordChar '\'' = false := by decide
  have hreverse : ∀ c ∈ developer.toList.reverse, isWordChar c = true :=
    fun c hc => h c (List.mem_reverse.mp hc)
  have htext : (object ++ lookupJoint ++ developer).toList =
      (object.toList ++ lookupJoint.toList.dropLast) ++ '\'' :: developer.toList := by
    rw [String.toList_append, String.toList_append, hjoint]
    simp
  have hdrop : (object ++ lookupJoint ++ developer).toList.rdropWhile isWordChar =
      object.toList ++ lookupJoint.toList := by
    rw [htext, List.rdropWhile, List.reverse_append, List.reverse_cons, List.append_assoc,
      List.dropWhile_append_of_pos hreverse, hjoint]
    simp [hquote]
  have htake : (object ++ lookupJoint ++ developer).toList.rtakeWhile isWordChar =
      developer.toList := by
    rw [htext, List.rtakeWhile, List.reverse_append, List.reverse_cons, List.append_assoc,
      List.takeWhile_append_of_pos hreverse]
    simp [hquote]
  have hobject : List.isSuffixOf? lookupJoint.toList (object.toList ++ lookupJoint.toList) =
      some object.toList := List.isSuffixOf?_eq_some_iff_append_eq.mpr rfl
  rw [readLookup, hdrop, htake, hobject]
  simp

/-- The properties that three lines tell of: the one that declares the info, the one that looks it
up and the one that declares the id. -/
def readGroup (infoLine lookupLine idLine : String) : Option Accessors := do
  let infoName ← between? "    public static RecordTypeInfo " " \x7b" infoLine
  let lookup ← between? ("                ? " ++ infoName ++ " : Schema.SObjectType.") "'); \x7d"
    lookupLine
  let (objectName, developerName) ← readLookup lookup
  let idName ← between? "    public static Id " " \x7b" idLine
  some ⟨infoName, idName, objectName, developerName⟩

/-- The groups of nine lines that a class consists of behind its first empty line. -/
def readGroups : List String → Option (List Accessors)
  | [last, rest] => if last = "\x7d" ∧ rest = "" then some [] else none
  | infoLine :: _ :: lookupLine :: _ :: _ :: idLine :: _ :: _ :: _ :: rest => do
    let first ← readGroup infoLine lookupLine idLine
    let more ← readGroups rest
    some (first :: more)
  | _ => none

/-- The name of a class of record types and the properties it declares. -/
def readRecordTypes (body : String) : Option (String × List Accessors) :=
  match List.isPrefixOf? (lines notice) (lines body) with
  | some (opening :: gap :: rest) => do
    guard (gap = "")
    let name ← between? "public inherited sharing class " " \x7b" opening
    let accessors ← readGroups rest
    some (name, accessors)
  | _ => none

theorem readGroups_propertyLines {accessors : List Accessors}
    (h : ∀ a ∈ accessors, ∀ c ∈ a.developerName.toList, isWordChar c = true) :
    readGroups (propertyLines accessors ++ ["\x7d", ""]) = some accessors := by
  induction accessors with
  | nil => rfl
  | cons a accessors ih =>
    have hlookup : "                ? " ++ a.infoName ++ " : Schema.SObjectType." ++ a.objectName ++
          ".getRecordTypeInfosByDeveloperName().get('" ++ a.developerName ++ "'); \x7d" =
        ("                ? " ++ a.infoName ++ " : Schema.SObjectType.") ++
          (a.objectName ++ lookupJoint ++ a.developerName) ++ "'); \x7d" := by
      simp only [lookupJoint, String.append_assoc]
    have hread := readLookup_text a.objectName (h a List.mem_cons_self)
    have hmore := ih fun b hb => h b (List.mem_cons_of_mem a hb)
    rw [propertyLines] at hmore
    simp only [propertyLines, List.flatMap_cons, Accessors.lines, List.cons_append, List.nil_append]
    simp only [readGroups, readGroup, hlookup, between?_line, Option.bind_eq_bind,
      Option.bind_some, hread, hmore]

theorem flatMap_lines {ls : List String} (h : ∀ line ∈ ls, '\n' ∉ line.toList) :
    ls.flatMap lines = ls := by
  rw [List.flatMap_congr fun line hline => lines_of_line (h line hline), List.flatMap_singleton']

theorem lines_classLine {className : String} (h : '\n' ∉ className.toList) :
    lines (classLine className) = [classLine className] := by
  apply lines_of_line
  unfold classLine
  simp [h]

/-- A class of record types is read back as what it was made from. -/
theorem readRecordTypes_source {className : String} {accessors : List Accessors}
    (hname : '\n' ∉ className.toList) (h : ∀ a ∈ accessors, a.InLine)
    (hword : ∀ a ∈ accessors, ∀ c ∈ a.developerName.toList, isWordChar c = true) :
    readRecordTypes (recordTypesSource className accessors) = some (className, accessors) := by
  have hbody : lines (recordTypesSource className accessors) =
      lines notice ++ classLine className :: "" :: (propertyLines accessors ++ ["\x7d", ""]) := by
    have hempty : lines "" = [""] := by decide
    have hend : lines "\x7d" = ["\x7d"] := by decide
    have hlines := lines_propertyLines h
    rw [propertyLines] at hlines
    rw [recordTypesSource, lines_endLines]
    simp [lines_classLine hname, hempty, hend, hlines, propertyLines]
  have hbehind : List.isPrefixOf? (lines notice) (lines notice ++
      classLine className :: "" :: (propertyLines accessors ++ ["\x7d", ""])) =
        some (classLine className :: "" :: (propertyLines accessors ++ ["\x7d", ""])) :=
    List.isPrefixOf?_eq_some_iff_append_eq.mpr rfl
  have hopening : between? "public inherited sharing class " " \x7b" (classLine className) =
      some className := between?_line _ _ _
  unfold readRecordTypes
  rw [hbody]
  -- What the notice says plays no part, and it is long.
  generalize lines notice = front at hbehind ⊢
  rw [hbehind]
  simp [hopening, readGroups_propertyLines hword]

def testOpening : String := "    @IsTest private static void test() \x7b"

def methodEnd : String := "    \x7d"

def testedLines (body : String) : List String :=
  ((lines body).dropWhile (· != testOpening)).tail.takeWhile (· != methodEnd)

def testClassLine (testName : String) : String := "@IsTest private class " ++ testName ++ " \x7b"

def helperLines : List String :=
  ["", "    private static void notNull(Object it) \x7b",
    "        System.assertNotEquals(null, it);", methodEnd, ""]

variable {testName className : String} {idNames : List String}

theorem recordTypesTestSource_eq : recordTypesTestSource testName className idNames =
    endLines (notice :: ((testClassLine testName :: helperLines) ++
      testOpening :: (idNames.map (idTestLine className) ++ [methodEnd, "\x7d"]))) := by
  unfold recordTypesTestSource testClassLine helperLines testOpening methodEnd
  simp only [List.cons_append, List.nil_append]

theorem newline_not_mem_testClassLine (h : '\n' ∉ testName.toList) :
    '\n' ∉ (testClassLine testName).toList := by
  unfold testClassLine
  simp [h]

theorem newline_not_mem_tests (hclass : '\n' ∉ className.toList)
    (hids : ∀ idName ∈ idNames, '\n' ∉ idName.toList) :
    ∀ line ∈ idNames.map (idTestLine className), '\n' ∉ line.toList := by
  intro line hline
  obtain ⟨idName, hid, rfl⟩ := List.mem_map.mp hline
  unfold idTestLine
  simp [hclass, hids idName hid]

/-- The two empty lines of the test class part it into three blocks. -/
theorem tidy_recordTypesTestSource (htest : '\n' ∉ testName.toList)
    (hclass : '\n' ∉ className.toList) (hids : ∀ idName ∈ idNames, '\n' ∉ idName.toList) :
    tidy (recordTypesTestSource testName className idNames) =
      recordTypesTestSource testName className idNames := by
  have hblocks : recordTypesTestSource testName className idNames = endLines ([""].intercalate
      [[notice, testClassLine testName],
        ["    private static void notNull(Object it) \x7b",
          "        System.assertNotEquals(null, it);", methodEnd],
        testOpening :: (idNames.map (idTestLine className) ++ [methodEnd, "\x7d"])]) := by
    simp [recordTypesTestSource_eq, helperLines, List.intercalate_cons_cons]
  have hclassLine : TidiesText (testClassLine testName) (testClassLine testName) :=
    .line_kept (newline_not_mem_testClassLine htest) (Accessors.endsInk_append (by decide) _)
  have htests : ∀ line ∈ idNames.map (idTestLine className), TidiesText line line := by
    intro line hline
    refine .line_kept (newline_not_mem_tests hclass hids line hline) ?_
    obtain ⟨idName, -, rfl⟩ := List.mem_map.mp hline
    exact Accessors.endsInk_append (by decide) _
  have hline : ∀ {line : String}, '\n' ∉ line.toList ∧ EndsInk line.toList →
      TidiesText line line := fun hboth => .line_kept hboth.1 hboth.2
  rw [hblocks]
  apply tidy_blocks (by simp)
  simp only [List.forall_mem_cons, List.forall_mem_append, List.not_mem_nil, false_implies,
    implies_true, and_true]
  exact ⟨⟨by simp, tidies_notice, hclassLine⟩,
    ⟨by simp, hline (by decide), hline (by decide), hline (by decide)⟩,
    by simp, hline (by decide), htests, hline (by decide), hline (by decide)⟩

theorem lines_recordTypesTestSource (htest : '\n' ∉ testName.toList)
    (hclass : '\n' ∉ className.toList) (hids : ∀ idName ∈ idNames, '\n' ∉ idName.toList) :
    lines (recordTypesTestSource testName className idNames) =
      (lines notice ++ testClassLine testName :: helperLines) ++
        testOpening :: (idNames.map (idTestLine className) ++ [methodEnd, "\x7d", ""]) := by
  have hhelper : ∀ line ∈ helperLines, '\n' ∉ line.toList := by decide
  have hplain : ∀ line ∈ (testClassLine testName :: helperLines) ++
      testOpening :: (idNames.map (idTestLine className) ++ [methodEnd, "\x7d"]),
      '\n' ∉ line.toList := by
    simp only [List.forall_mem_cons, List.forall_mem_append, List.not_mem_nil, false_implies,
      implies_true, and_true]
    exact ⟨⟨newline_not_mem_testClassLine htest, hhelper⟩, by decide,
      newline_not_mem_tests hclass hids, by decide, by decide⟩
  rw [recordTypesTestSource_eq, lines_endLines, List.flatMap_cons, flatMap_lines hplain]
  simp

theorem append_ne {front t : String} (h : ¬ front.toList <+: t.toList) (rest : String) :
    front ++ rest ≠ t := by
  rintro rfl
  exact h ⟨rest.toList, String.toList_append.symm⟩

/-- Inside the test method there is one line for each id, in their order. -/
theorem testedLines_source (htest : '\n' ∉ testName.toList) (hclass : '\n' ∉ className.toList)
    (hids : ∀ idName ∈ idNames, '\n' ∉ idName.toList) :
    testedLines (recordTypesTestSource testName className idNames) =
      idNames.map (idTestLine className) := by
  have hfixed : ∀ line ∈ lines notice ++ helperLines, (line != testOpening) = true := by
    decide +kernel
  have hclassLine : testClassLine testName ≠ testOpening := by
    unfold testClassLine
    rw [String.append_assoc]
    exact append_ne (by decide) _
  have hfront : ∀ line ∈ lines notice ++ testClassLine testName :: helperLines,
      (line != testOpening) = true := by
    rw [List.forall_mem_append] at hfixed ⊢
    exact ⟨hfixed.1, List.forall_mem_cons.mpr ⟨bne_iff_ne.mpr hclassLine, hfixed.2⟩⟩
  have htests : ∀ line ∈ idNames.map (idTestLine className), (line != methodEnd) = true := by
    intro line hline
    obtain ⟨idName, -, rfl⟩ := List.mem_map.mp hline
    unfold idTestLine
    rw [bne_iff_ne, String.append_assoc, String.append_assoc, String.append_assoc]
    exact append_ne (by decide) _
  rw [testedLines, lines_recordTypesTestSource htest hclass hids,
    List.dropWhile_append_of_pos hfront, List.dropWhile_cons_of_neg (by simp), List.tail_cons,
    List.takeWhile_append_of_pos htests, List.takeWhile_cons_of_neg (by simp), List.append_nil]

end Apex

open Apex

namespace RecordType

/-- A name with no line feed that the generated code can hold is made of word characters. -/
theorem developerName_word {r : RecordType} (h : r.lacksName = false)
    (hline : '\n' ∉ (r.developerName.getD "").toList) :
    ∀ c ∈ (r.developerName.getD "").toList, isWordChar c = true := by
  cases hname : r.developerName with
  | none => simp [lacksName, hname] at h
  | some name =>
    simp only [lacksName, hname, Option.all_some, Bool.or_eq_false_iff, Bool.not_eq_false',
      acceptsName] at h
    simp only [hname, Option.getD_some] at hline ⊢
    rw [dropFinalNewline_of_line hline] at h
    exact isIdentifier_word h.2

theorem inLine_properties {r : RecordType} (hobject : '\n' ∉ r.objectName.toList)
    (hdeveloper : '\n' ∉ (r.developerName.getD "").toList) : r.properties.InLine := by
  have hinfo := not_mem_infoName (by decide) (by decide) hobject hdeveloper
  refine ⟨hinfo, ?_, hobject, hdeveloper⟩
  rw [idName_eq]
  simp [hinfo]

end RecordType

theorem accessorsOf_inLine {activeOnly : Bool} {records : List RecordType}
    {accessors : List Accessors} (h : accessorsOf activeOnly records = .ok accessors)
    (hlines : ∀ r ∈ records.filter (·.included activeOnly),
      '\n' ∉ r.objectName.toList ∧ '\n' ∉ (r.developerName.getD "").toList) :
    ∀ a ∈ accessors, a.InLine ∧ ∀ c ∈ a.developerName.toList, isWordChar c = true := by
  obtain ⟨hnamed, rfl⟩ := accessorsOf_eq_ok h
  intro a ha
  obtain ⟨r, hr, rfl⟩ := List.mem_map.mp ha
  exact ⟨RecordType.inLine_properties (hlines r hr).1 (hlines r hr).2,
    RecordType.developerName_word (hnamed r hr) (hlines r hr).2⟩

namespace RecordTypeGenerator

variable (g : RecordTypeGenerator) (records : List RecordType) (activeOnly : Option Bool)
  (className : Json)

def taken : List RecordType := records.filter (·.included (activeOnly.getD g.activeOnly))

/-- Both renderings ask for the same properties first, and for their templates then. -/
theorem render_cases :
    (∃ fault, accessorsOf (activeOnly.getD g.activeOnly) records = .error fault ∧
      g.render records activeOnly className = .error (.name fault) ∧
      g.renderTest records activeOnly className = .error (.name fault)) ∨
    ∃ accessors, accessorsOf (activeOnly.getD g.activeOnly) records = .ok accessors ∧
      g.render records activeOnly className =
        (g.folder.check .recordTypes).map (fun _ =>
          tidy (recordTypesSource (g.nameOr className) accessors)) ∧
      g.renderTest records activeOnly className =
        (g.folder.check .recordTypesTest).map (fun _ =>
          tidy (recordTypesTestSource (g.nameOr className ++ "Test") (g.nameOr className)
            (accessors.map (·.idName)))) := by
  unfold render renderTest
  cases haccessors : accessorsOf (activeOnly.getD g.activeOnly) records with
  | error fault => exact .inl ⟨fault, rfl, rfl, rfl⟩
  | ok accessors =>
    refine .inr ⟨accessors, rfl, ?_, ?_⟩
    · cases g.folder.check .recordTypes <;> rfl
    · cases g.folder.check .recordTypesTest <;> rfl

/-- The class of record types can be read back, its test asks for every id that it declares, and
both are stopped by the same record type. -/
theorem class_and_test_agree :
    (∀ fault, g.render records activeOnly className = .error (.name fault) ↔
      g.renderTest records activeOnly className = .error (.name fault)) ∧
    (g.folder = .shipped →
      (∃ body test, g.render records activeOnly className = .ok body ∧
        g.renderTest records activeOnly className = .ok test) ∨
      ∃ fault, g.render records activeOnly className = .error (.name fault) ∧
        g.renderTest records activeOnly className = .error (.name fault)) ∧
    ∀ accessors, accessorsOf (activeOnly.getD g.activeOnly) records = .ok accessors →
      g.folder = .shipped → '\n' ∉ (g.nameOr className).toList →
      (∀ r ∈ g.taken records activeOnly,
        '\n' ∉ r.objectName.toList ∧ '\n' ∉ (r.developerName.getD "").toList) →
      accessors = (g.taken records activeOnly).map RecordType.properties ∧
      ∃ body test, g.render records activeOnly className = .ok body ∧
        g.renderTest records activeOnly className = .ok test ∧
        body = Text.endLines ([notice, classLine (g.nameOr className), ""] ++
          accessors.flatMap Accessors.lines ++ ["\x7d"]) ∧
        readRecordTypes body = some (g.nameOr className, accessors) ∧
        testedLines test = accessors.map fun a => idTestLine (g.nameOr className) a.idName := by
  refine ⟨fun fault => ?_, fun hfolder => ?_, fun accessors haccessors hfolder hname hlines => ?_⟩
  · rcases g.render_cases records activeOnly className with
      ⟨first, -, hrender, htest⟩ | ⟨accessors, -, hrender, htest⟩
    · rw [hrender, htest]
    · -- Templates are looked for with names at hand: no fault of a name can come up.
      rw [hrender, htest]
      cases g.folder <;> simp [TemplateFolder.check, Except.map]
  · rcases g.render_cases records activeOnly className with
      ⟨fault, -, hrender, htest⟩ | ⟨accessors, -, hrender, htest⟩
    · exact .inr ⟨fault, hrender, htest⟩
    · rw [hfolder] at hrender htest
      exact .inl ⟨_, _, hrender, htest⟩
  · have hinLine : ∀ a ∈ accessors, a.InLine :=
      fun a ha => (accessorsOf_inLine haccessors hlines a ha).1
    have hword := fun a ha => (accessorsOf_inLine haccessors hlines a ha).2
    have hids : ∀ idName ∈ accessors.map (·.idName), '\n' ∉ idName.toList :=
      List.forall_mem_map.mpr fun a ha => (hinLine a ha).idName
    have htestName : '\n' ∉ (g.nameOr className ++ "Test").toList := by simp [hname]
    rcases g.render_cases records activeOnly className with
      ⟨fault, hfault, -⟩ | ⟨found, hfound, hrender, htest⟩
    · rw [hfault] at haccessors
      cases haccessors
    · have htaken := (accessorsOf_eq_ok haccessors).2
      rw [hfound] at haccessors
      cases haccessors
      rw [hfolder, tidy_recordTypesSource hname hinLine] at hrender
      rw [hfolder, tidy_recordTypesTestSource htestName hname hids] at htest
      refine ⟨htaken, _, _, hrender, htest, rfl, readRecordTypes_source hname hinLine hword, ?_⟩
      exact (testedLines_source htestName hname hids).trans List.map_map

/-- Inactive record types asked for, and another class name given. -/
theorem class_and_test_agree_override :
    ∃ body test,
      render ⟨"60.0", .str "RecordTypes", true, true, .shipped⟩
        [activeType "Case" "Support", ⟨"Größe__c", some "Klein", false, none⟩] (some false)
        (.str "Kinds") = .ok body ∧
      renderTest ⟨"60.0", .str "RecordTypes", true, true, .shipped⟩
        [activeType "Case" "Support", ⟨"Größe__c", some "Klein", false, none⟩] (some false)
        (.str "Kinds") = .ok test ∧
      readRecordTypes body = some ("Kinds", [⟨"CASE_SUPPORT", "CASE_SUPPORT_ID", "Case", "Support"⟩,
        ⟨"GRÖSSE_KLEIN", "GRÖSSE_KLEIN_ID", "Größe__c", "Klein"⟩]) ∧
      testedLines test = ["        notNull(Kinds.CASE_SUPPORT_ID);",
        "        notNull(Kinds.GRÖSSE_KLEIN_ID);"] := by
  have haccessors : accessorsOf false
      [activeType "Case" "Support", ⟨"Größe__c", some "Klein", false, none⟩] =
        .ok [⟨"CASE_SUPPORT", "CASE_SUPPORT_ID", "Case", "Support"⟩,
          ⟨"GRÖSSE_KLEIN", "GRÖSSE_KLEIN_ID", "Größe__c", "Klein"⟩] := by decide +kernel
  obtain ⟨-, -, hagree⟩ := class_and_test_agree ⟨"60.0", .str "RecordTypes", true, true, .shipped⟩
    [activeType "Case" "Support", ⟨"Größe__c", some "Klein", false, none⟩] (some false) (.str "Kinds")
  obtain ⟨-, body, test, hbody, htest, -, hread, htested⟩ :=
    hagree _ haccessors rfl (by decide) (by decide)
  exact ⟨body, test, hbody, htest, hread, htested⟩

end RecordTypeGenerator

end ApexConstants
