import ApexConstants.Proofs.UsableRecordTypes
import ApexConstants.Proofs.WrittenFiles

namespace ApexConstants

theorem writeFiles_ne_error {store fault : Type} {writer : Writer store fault} {e : fault}
    (h : ∀ s path content, (writer s path content).2 ≠ .error e) (s : store)
    (files : List (Path × String)) : (writeFiles writer s files).2 ≠ .error e := by
  induction files generalizing s with
  | nil => exact nofun
  | cons f files ih =>
    obtain ⟨path, content⟩ := f
    have hwrite := h s path content
    simp only [writeFiles]
    rcases hstep : writer s path content with ⟨after, e' | _⟩
    · rw [hstep] at hwrite
      exact hwrite
    · exact ih after

namespace RecordTypeGenerator

structure Contents where
  body : String
  test : String
  stamp : String

def contents (g : RecordTypeGenerator) (records : List RecordType) : Contents :=
  let properties := (records.filter (·.included g.activeOnly)).map RecordType.properties
  { body := Apex.tidy (Apex.recordTypesSource g.className.display properties)
    test := Apex.tidy (Apex.recordTypesTestSource (g.className.display ++ "Test")
      g.className.display (properties.map (·.idName)))
    stamp := Apex.metaSource g.apiVersion }

/-- The files of a generation in a folder: the pair of the class and, if wanted, that of its test.
-/
def filesFor (g : RecordTypeGenerator) (folder : Path) (c : Contents) : List (Path × String) :=
  [(folder.child (g.className.display ++ ".cls"), c.body),
    (folder.child (g.className.display ++ ".cls-meta.xml"), c.stamp)] ++
    if g.withTest then
      [(folder.child (g.className.display ++ "Test.cls"), c.test),
        (folder.child (g.className.display ++ "Test.cls-meta.xml"), c.stamp)]
    else []

theorem generate_of_fault {g : RecordTypeGenerator} {records : List RecordType} {fault : NameFault}
    (h : accessorsOf g.activeOnly records = .error fault) :
    g.generate records = .error (.name fault) := by
  have hrender : g.render records = .error (.name fault) := by
    simp [render, h, Except.mapError, Bind.bind, Except.bind]
  rw [generate, hrender]
  rfl

/-- Without templates there is no class, and this is told only when all names are usable. -/
theorem generate_of_noTemplates {g : RecordTypeGenerator} {records : List RecordType} {fault : Failure}
    (h : ∀ r ∈ records, r.included g.activeOnly = true → r.lacksName = false)
    (hcheck : g.folder.check .recordTypes = .error fault) : g.generate records = .error fault := by
  have hrender : g.render records = .error fault := by
    simp [render, accessorsOf_of_names h, hcheck, Except.mapError, Bind.bind, Except.bind]
  rw [generate, hrender]
  rfl

theorem rendered {g : RecordTypeGenerator} {records : List RecordType}
    (h : ∀ r ∈ records, r.included g.activeOnly = true → r.lacksName = false)
    (hfolder : g.folder = .shipped) :
    g.render records = .ok (g.contents records).body ∧
      g.renderTest records = .ok (g.contents records).test ∧
      g.stamp = .ok (g.contents records).stamp := by
  have hcheck : ∀ template, g.folder.check template = .ok () := by
    intro template
    rw [hfolder]
    rfl
  have hname : g.nameOr .null = g.className.display := rfl
  refine ⟨?_, ?_, ?_⟩
  · simp only [render, Option.getD_none, accessorsOf_of_names h, hcheck, hname]
    rfl
  · simp only [renderTest, Option.getD_none, accessorsOf_of_names h, hcheck, hname]
    rfl
  · simp only [stamp, hcheck]
    rfl

theorem generate_of_names {g : RecordTypeGenerator} {records : List RecordType}
    (h : ∀ r ∈ records, r.included g.activeOnly = true → r.lacksName = false)
    (hfolder : g.folder = .shipped) (folder : Path) :
    ∃ result, g.generate records = .ok result ∧
      result.classes.flatMap (·.files folder) = g.filesFor folder (g.contents records) := by
  obtain ⟨hbody, htest, hstamp⟩ := rendered h hfolder
  have hclass : g.className.display ++ "Test" ++ ".cls" = g.className.display ++ "Test.cls" := by
    rw [String.append_assoc]
    rfl
  have hmeta : g.className.display ++ "Test" ++ ".cls-meta.xml" =
      g.className.display ++ "Test.cls-meta.xml" := by
    rw [String.append_assoc]
    rfl
  cases htests : g.withTest with
  | false =>
    refine ⟨⟨[⟨g.className, (g.contents records).body, (g.contents records).stamp, none⟩], [], [],
      [("kind", .str "RecordType")], []⟩, ?_, ?_⟩
    · rw [generate, hbody, hstamp, htests]
      rfl
    · simp [filesFor, htests, GeneratedClass.files, GeneratedClass.fileName,
        GeneratedClass.metaFileName]
  | true =>
    refine ⟨⟨[⟨g.className, (g.contents records).body, (g.contents records).stamp, none⟩,
      ⟨.str g.testClassName, (g.contents records).test, (g.contents records).stamp, none⟩], [], [],
      [("kind", .str "RecordType")], []⟩, ?_, ?_⟩
    · rw [generate, hbody, hstamp, htests, htest]
      rfl
    · have hdisplay : (Json.str g.testClassName).display = g.className.display ++ "Test" := rfl
      simp [filesFor, htests, GeneratedClass.files, GeneratedClass.fileName,
        GeneratedClass.metaFileName, hdisplay, hclass, hmeta]

section Runs
variable {store : Type} {g : RecordTypeGenerator} {records : List RecordType} {folder : Path}
  {writer : Writer store Failure} {s : store}

theorem run_of_failure {fault : Failure} (h : g.generate records = .error fault) :
    g.run records folder writer s = ([], s, .error fault) := by
  rw [run, h]

/-- A run hands over the files of its generation and ends as writing them ends. -/
theorem run_of_names (h : ∀ r ∈ records, r.included g.activeOnly = true → r.lacksName = false)
    (hfolder : g.folder = .shipped) :
    ((g.run records folder writer s).2.1, (g.run records folder writer s).2.2.map fun _ => ()) =
      writeFiles writer s (g.filesFor folder (g.contents records)) := by
  obtain ⟨result, hgenerated, hfiles⟩ := generate_of_names h hfolder folder
  rw [← hfiles, writeFiles_pairs, run, hgenerated]
  simp only [Result.write]
  cases (writePairs writer folder s result.classes).outcome <;> rfl

theorem run_of_first {before after : List RecordType} {r : RecordType}
    (hbefore : ∀ q ∈ before, q.included g.activeOnly = true → q.lacksName = false)
    (hincluded : r.included g.activeOnly = true) (hlacks : r.lacksName = true) :
    ∃ fault, fault.path? = r.source ∧
      g.run (before ++ r :: after) folder writer s = ([], s, .error (.name fault)) := by
  obtain ⟨fault, hfault, hpath⟩ := accessorsOf_of_first hbefore hincluded hlacks after
  exact ⟨fault, hpath, run_of_failure (generate_of_fault hfault)⟩

theorem run_congr {others : List RecordType}
    (h : others.filter (·.included g.activeOnly) = records.filter (·.included g.activeOnly)) :
    g.run others folder writer s = g.run records folder writer s := by
  have haccessors : accessorsOf g.activeOnly others = accessorsOf g.activeOnly records := by
    rw [accessorsOf, accessorsOf, h]
  have hrender : g.render others = g.render records := by
    simp only [render, Option.getD_none, haccessors]
  have htest : g.renderTest others = g.renderTest records := by
    simp only [renderTest, Option.getD_none, haccessors]
  have hgenerate : g.generate others = g.generate records := by
    simp only [generate, hrender, htest]
  simp only [run, hgenerate]

/-- What is said of a folder that does not hold the templates. -/
inductive LacksTemplates : Apex.TemplateFolder → Failure → Prop
  | folder {folder : Apex.TemplateFolder} (fault : TemplateFault) (path : folder ≠ .notPath) :
      LacksTemplates folder (.template fault)
  | notPath : LacksTemplates .notPath (.value .noAttribute)

theorem not_lacksTemplates_name {folder : Apex.TemplateFolder} {fault : NameFault} :
    ¬ LacksTemplates folder (.name fault) := by
  intro h
  cases h

theorem check_of_not_shipped {folder : Apex.TemplateFolder} (h : folder ≠ .shipped)
    (template : Apex.Template) :
    ∃ fault, LacksTemplates folder fault ∧ folder.check template = .error fault := by
  cases folder with
  | shipped => exact absurd rfl h
  | bare => exact ⟨_, .folder _ nofun, rfl⟩
  | absent folder => exact ⟨_, .folder _ nofun, rfl⟩
  | notPath => exact ⟨_, .notPath, rfl⟩

/-- A run is all or nothing in the record types that are included. -/
structure AllOrNothing (g : RecordTypeGenerator) (records : List RecordType) (folder : Path)
    (writer : Writer store Failure) (s : store) : Prop where
  /-- It stops for want of a name exactly when one of them has none that can be used. -/
  stops : (∃ fault, (g.run records folder writer s).2.2 = .error (.name fault)) ↔
    ∃ r ∈ records, r.included g.activeOnly = true ∧ r.lacksName = true
  /-- It then blames the file of the first of these and has written nothing. -/
  blames : ∀ before r after, records = before ++ r :: after →
    (∀ q ∈ before, q.included g.activeOnly = true → q.lacksName = false) →
    r.included g.activeOnly = true → r.lacksName = true →
    ∃ fault, fault.path? = r.source ∧
      g.run records folder writer s = ([], s, .error (.name fault))
  /-- Otherwise it writes the pairs of the class and of its test, if there are templates to fill. -/
  writes : (∀ r ∈ records, r.included g.activeOnly = true → r.lacksName = false) →
    g.folder = .shipped →
    ((g.run records folder writer s).2.1, (g.run records folder writer s).2.2.map fun _ => ()) =
      writeFiles writer s (g.filesFor folder (g.contents records))
  /-- Where there are no templates it says so and has written nothing. -/
  noTemplates : (∀ r ∈ records, r.included g.activeOnly = true → r.lacksName = false) →
    g.folder ≠ .shipped →
    ∃ fault, LacksTemplates g.folder fault ∧ g.run records folder writer s = ([], s, .error fault)
  /-- Record types that are not included change nothing at all. -/
  ignores : ∀ others : List RecordType,
    others.filter (·.included g.activeOnly) = records.filter (·.included g.activeOnly) →
    g.run others folder writer s = g.run records folder writer s

/-- Every run with a writer that does not itself report a missing name is all or nothing. -/
theorem run_all_or_nothing
    (hwriter : ∀ fault s path content, (writer s path content).2 ≠ .error (.name fault)) :
    AllOrNothing g records folder writer s := by
  refine ⟨⟨?_, ?_⟩, ?_, run_of_names, ?_, fun others => run_congr⟩
  · rintro ⟨fault, hfault⟩
    rcases names_or_first g.activeOnly records with hall | ⟨before, r, after, rfl, _, hr⟩
    · exfalso
      by_cases hfolder : g.folder = .shipped
      · have hrun : ((g.run records folder writer s).2.1,
            (g.run records folder writer s).2.2.map fun _ => ()) =
              writeFiles writer s (g.filesFor folder (g.contents records)) :=
          run_of_names hall hfolder
        have houtcome := congrArg Prod.snd hrun
        rw [hfault] at houtcome
        exact writeFiles_ne_error (hwriter fault) s _ houtcome.symm
      · obtain ⟨missing, hlacks, hcheck⟩ := check_of_not_shipped hfolder .recordTypes
        rw [run_of_failure (generate_of_noTemplates hall hcheck)] at hfault
        cases hfault
        exact absurd hlacks not_lacksTemplates_name
    · exact ⟨r, by simp, hr⟩
  · rintro ⟨r, hr, hincluded, hlacks⟩
    rcases names_or_first g.activeOnly records with
      hall | ⟨before, first, after, rfl, hbefore, hfirst⟩
    · rw [hall r hr hincluded] at hlacks
      cases hlacks
    · obtain ⟨fault, _, hrun⟩ : ∃ fault, fault.path? = first.source ∧
          g.run (before ++ first :: after) folder writer s = ([], s, .error (.name fault)) :=
        run_of_first hbefore hfirst.1 hfirst.2
      exact ⟨fault, by rw [hrun]⟩
  · rintro before r after rfl hbefore hincluded hlacks
    exact run_of_first hbefore hincluded hlacks
  · intro hall hfolder
    obtain ⟨fault, hlacks, hcheck⟩ := check_of_not_shipped hfolder .recordTypes
    exact ⟨fault, hlacks, run_of_failure (generate_of_noTemplates hall hcheck)⟩

end Runs

/-- A record type that is left out lacks its name, and a further one has a name of two words. -/
theorem run_all_or_nothing_recorded :
    (∀ fault s path content, (recorder s path content).2 ≠ .error (.name fault)) ∧
    AllOrNothing ⟨"60.0", .str "RecordTypes", true, true, .shipped⟩
      [⟨"Case", none, false, none⟩, ⟨"Case", some "Support", true, none⟩,
        ⟨"Case", some "Two Words", true, some "Case.xml"⟩] .here recorder [] := by
  have hrecorder : ∀ fault s path content,
      (recorder s path content).2 ≠ .error (.name fault) := fun _ _ _ _ => nofun
  exact ⟨hrecorder, run_all_or_nothing hrecorder⟩

/-- Usable names are not enough to have files written: with a text for the folder of the templates,
which is no path, there are none. -/
theorem writes_nothing_without_templates :
    ¬ ∀ (g : RecordTypeGenerator) (records : List RecordType) (folder : Path),
      (∀ r ∈ records, r.included g.activeOnly = true → r.lacksName = false) →
      (g.run records folder recorder []).2.1.map Prod.fst =
        (g.filesFor folder (g.contents records)).map Prod.fst := by
  intro h
  have hnone := h ⟨"60.0", .str "RecordTypes", true, true, .notPath⟩
    [⟨"Case", some "Support", true, none⟩] ⟨.here, ["out"]⟩ (by decide)
  cases hnone

end RecordTypeGenerator

end ApexConstants
