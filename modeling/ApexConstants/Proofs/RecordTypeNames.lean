import ApexConstants.Proofs.StableGenerations

namespace ApexConstants

namespace Apex

def FitsLimit (name : String) : Prop := (name.length : Int) ≤ classNameLimit

theorem fitsLimit_iff {name : String} : FitsLimit name ↔ name.length ≤ 40 := by
  rw [FitsLimit, classNameLimit]
  omega

end Apex

open Apex (FitsLimit fitsLimit_iff)

namespace RecordTypeGenerator
variable {g : RecordTypeGenerator} {records : List RecordType} {result : Result}

/-- The characters that a class name can have when that of a test has to fit as well. -/
def nameRoom (withTest : Bool) : Nat := if withTest then 36 else 40

theorem fitsLimit_testClassName : FitsLimit g.testClassName ↔ g.className.display.length ≤ 36 := by
  have hlength : g.testClassName.length = g.className.display.length + 4 :=
    String.length_append _ _
  rw [fitsLimit_iff, hlength]
  omega

/-- Whatever the records, the classes are the one that was asked for and, if wanted, its test. -/
theorem names_of_generate (h : g.generate records = .ok result) :
    result.classes.map (·.name.display) =
      g.className.display :: if g.withTest then [g.testClassName] else [] := by
  obtain ⟨body, _, h⟩ := bind_eq_ok.mp h
  obtain ⟨stamp, _, h⟩ := bind_eq_ok.mp h
  dsimp only at h
  split at h
  · rename_i htest
    obtain ⟨test, _, h⟩ := bind_eq_ok.mp h
    cases h
    rw [if_pos htest]
    rfl
  · rename_i htest
    cases h
    rw [if_neg htest]
    rfl

theorem fit_of_generate (h : g.generate records = .ok result) :
    (∀ c ∈ result.classes, FitsLimit c.name.display) ↔
      g.className.display.length ≤ nameRoom g.withTest := by
  have hnames : (∀ c ∈ result.classes, FitsLimit c.name.display) ↔
      ∀ name ∈ result.classes.map (·.name.display), FitsLimit name := by
    rw [List.forall_mem_map]
  rw [hnames, names_of_generate h, List.forall_mem_cons, fitsLimit_iff]
  cases htest : g.withTest with
  | false => simp [nameRoom]
  | true =>
    simp only [if_true, List.forall_mem_singleton, fitsLimit_testClassName, nameRoom]
    omega

end RecordTypeGenerator

section Runs
variable {o settled : Options} {t : Tree} {w : Workplace} {result : Result}

/-- All that a project fills in is the output folder and the version. -/
theorem Options.value_of_resolve (h : (o.resolve t).outcome = .ok settled) {name : OptionName}
    (hfolder : name ≠ .outputDir) (hversion : name ≠ .sourceApiVersion) :
    settled.value name = o.value name := by
  unfold resolve at h
  split at h
  · cases h
  · dsimp only at h
    split at h
    · cases h
    · obtain ⟨version, _, rfl⟩ := map_eq_ok.mp h
      simp [set, hfolder, hversion]

/-- A generation of record types makes the classes of a generator that has its class name from the
options, and a test unless they do without one. -/
theorem classes_of_recordTypes (h : ((generateRecordTypes o).doneAt w).1 = .ok result) :
    ∃ (g : RecordTypeGenerator) (records : List RecordType) (planned : Result),
      g.className = o.value .outputClassName ∧
      g.withTest = !(o.value .ignoreTestClass).isTruthy ∧
      g.generate records = .ok planned ∧ result.classes = planned.classes := by
  obtain ⟨⟨project, settled, output⟩, hopen⟩ := opening_of_recordTypes h
  obtain ⟨planned, hplan, rfl, _⟩ := recordTypes_first hopen h
  obtain ⟨files, _, hread⟩ := bind_eq_ok.mp hplan
  obtain ⟨loaded, _, hincluded⟩ := bind_eq_ok.mp hread
  obtain ⟨records, _, hmade⟩ := bind_eq_ok.mp hincluded
  obtain ⟨_, hsettled, houtput⟩ := bind_eq_ok.mp hopen
  obtain ⟨_, _, heq⟩ := bind_eq_ok.mp houtput
  cases heq
  have hvalue : ∀ name : OptionName, name ≠ .outputDir → name ≠ .sourceApiVersion →
      settled.value name = o.value name := fun _ => Options.value_of_resolve hsettled
  refine ⟨.ofOptions settled, records, planned, hvalue _ nofun nofun, ?_, hmade, rfl⟩
  rw [← hvalue .ignoreTestClass nofun nofun]
  rfl

end Runs

/-- The names of the classes fit the limit exactly when the name asked for leaves room for that of
the test, where there is one. This goes for a generator and for a whole generation with its
options. -/
theorem record_type_names_fit_iff (g : RecordTypeGenerator) (o : Options) :
    (∀ (records : List RecordType) (result : Result), g.generate records = .ok result →
      ((∀ c ∈ result.classes, FitsLimit c.name.display) ↔
        g.className.display.length ≤ RecordTypeGenerator.nameRoom g.withTest)) ∧
    ∀ (w : Workplace) (result : Result), ((generateRecordTypes o).doneAt w).1 = .ok result →
      ((∀ c ∈ result.classes, FitsLimit c.name.display) ↔
        (o.value .outputClassName).display.length ≤
          RecordTypeGenerator.nameRoom !(o.value .ignoreTestClass).isTruthy) := by
  refine ⟨fun records result => RecordTypeGenerator.fit_of_generate, fun w result h => ?_⟩
  obtain ⟨g, records, planned, hname, htest, hmade, hclasses⟩ := classes_of_recordTypes h
  rw [hclasses, RecordTypeGenerator.fit_of_generate hmade, hname, htest]

def generatorNamed (name : String) : RecordTypeGenerator :=
  { apiVersion := "60.0", className := .str name }

def optionsNamed (name : String) : Options := .ofGiven .recordTypes
  [(.outputDir, .str "out"), (.sourceApiVersion, .str "60.0"), (.outputClassName, .str name)]

def supportCase : RecordType := ⟨"Case", some "Support", true, none⟩

def supportProject : Workplace where
  tree :=
    { entries :=
        [(["p", "sfdx-project.json"], .file "".toUTF8), (["p", "m"], .folder),
          (["p", "m", "objects"], .folder), (["p", "m", "objects", "Case"], .folder),
          (["p", "m", "objects", "Case", "Support.recordType-meta.xml"],
            .file "<R><fullName>Support</fullName><active>true</active></R>".toUTF8)]
      home := ["p"]
      nodup := by simp }

/-- A name of 36 characters leaves room for the test, and one of 37 leaves none. -/
theorem record_type_names_fit_sample :
    (∃ result, (generatorNamed "OpportunityAndAccountRecordTypeNames").generate [supportCase] =
        .ok result ∧ ∀ c ∈ result.classes, FitsLimit c.name.display) ∧
    ∃ result, ((generateRecordTypes
          (optionsNamed "OpportunityAndAccountRecordTypeValues")).doneAt supportProject).1 =
        .ok result ∧ ¬ ∀ c ∈ result.classes, FitsLimit c.name.display := by
  obtain ⟨hgenerator, hgeneration⟩ := record_type_names_fit_iff
    (generatorNamed "OpportunityAndAccountRecordTypeNames")
    (optionsNamed "OpportunityAndAccountRecordTypeValues")
  obtain ⟨result, hresult, _⟩ := ok_of_toOption
    (show ((generatorNamed "OpportunityAndAccountRecordTypeNames").generate
      [supportCase]).toOption.map (·.classes.length) = some 2 by decide +kernel)
  obtain ⟨result', hresult', _⟩ := ok_of_toOption
    (show ((generateRecordTypes (optionsNamed "OpportunityAndAccountRecordTypeValues")).doneAt
      supportProject).1.toOption.map (·.classes.length) = some 2 by decide +kernel)
  refine ⟨⟨result, hresult, ?_⟩, result', hresult', ?_⟩
  · exact (hgenerator _ _ hresult).mpr (by decide)
  · exact fun hfit => absurd ((hgeneration _ _ hresult').mp hfit) (by decide)

/-- A class name that fits the limit does not see to it that the name of the test fits as well. -/
theorem record_type_test_name_too_long :
    ¬ ∀ (g : RecordTypeGenerator) (records : List RecordType) (result : Result),
      FitsLimit g.className.display → g.generate records = .ok result →
        ∀ c ∈ result.classes, FitsLimit c.name.display := by
  intro h
  obtain ⟨result, hresult, hnames⟩ := ok_of_toOption
    (show ((generatorNamed "OpportunityAndAccountRecordTypeValues").generate
      [supportCase]).toOption.map (·.classes.map (·.name.display)) =
        some ["OpportunityAndAccountRecordTypeValues",
          "OpportunityAndAccountRecordTypeValuesTest"] by decide +kernel)
  have hfit : ∀ name ∈ result.classes.map (·.name.display), FitsLimit name :=
    List.forall_mem_map.mpr (h _ _ _ (fitsLimit_iff.mpr (by decide)) hresult)
  rw [hnames] at hfit
  have htest := hfit "OpportunityAndAccountRecordTypeValuesTest" (by simp)
  exact absurd (fitsLimit_iff.mp htest) (by decide)

end ApexConstants
