import ApexConstants.Proofs.RecordTypeRuns
import ApexConstants.Proofs.ReportedFaults
import ApexConstants.Proofs.StableGenerations

namespace ApexConstants
open Relation (ReflTransGen)

namespace Work
variable {α β : Type} {work : Work α} {next : α → Work β}

/-- However the work ends, the tree stays as it is. -/
def Reads (work : Work α) : Prop := ∀ w, (work.doneAt w).2.tree = w.tree

/-- Whatever the work writes, it writes when no failure can come any more that is reported. -/
def WritesLast (work : Work α) : Prop :=
  ∀ w fault, (work.doneAt w).1 = .error fault → fault.isReported = true →
    (work.doneAt w).2.tree = w.tree

theorem reads_get : Reads (get : Work Workplace) := fun _ => rfl

theorem reads_report (entries : List LogEntry) : Reads (report entries) := fun _ => rfl

theorem reads_ofExcept (outcome : Except Failure α) : Reads (ofExcept outcome) := by
  intro w
  rw [doneAt_ofExcept]

theorem Reads.bind (h : Reads work) (hnext : ∀ a, Reads (next a)) : Reads (work >>= next) := by
  intro w
  have hwork := h w
  rw [doneAt_bind]
  rcases hdone : work.doneAt w with ⟨fault | a, after⟩
  · rwa [hdone] at hwork
  · rw [hdone] at hwork
    exact (hnext a after).trans hwork

/-- Reading may go before anything else. -/
theorem Reads.then (h : Reads work) (hnext : ∀ a, WritesLast (next a)) :
    WritesLast (work >>= next) := by
  intro w fault hfault hreported
  have hwork := h w
  rw [doneAt_bind] at hfault ⊢
  rcases hdone : work.doneAt w with ⟨first | a, after⟩
  · rwa [hdone] at hwork
  · rw [hdone] at hwork hfault
    exact (hnext a after fault hfault hreported).trans hwork

end Work

section Steps
variable {project output : Path} {o : Options} {kind : ValueSetKind} {w after : Workplace}
  {t : Tree} {fault : Failure} {outcome : Except Failure Result}

theorem reads_settleOptions (o : Options) : (settleOptions o).Reads := by
  intro w
  rw [settleOptions_doneAt]

theorem reads_metadataFiles (kind : MetadataKind) (folder : Path) :
    (metadataFiles kind folder).Reads :=
  .bind Work.reads_get fun _ => Work.reads_ofExcept _

/-- A file that cannot be written is a failure that is not reported. -/
theorem writeFiles_ne_reported (h : fault.isReported = true) (t : Tree)
    (files : List (Path × String)) : (writeFiles treeWriter t files).2 ≠ .error fault := by
  refine writeFiles_ne_error (fun t p content heq => ?_) t files
  rcases t.treeWriter_cases p content with ⟨_, _, hok⟩ | ⟨_, _, _, hfault⟩
  · rw [hok] at heq
    cases heq
  · rw [hfault] at heq
    cases heq
    cases h

/-- A plan is ready before the first of its files is written. -/
theorem carryOut_unwritten {plan : Except Failure Result}
    (h : (carryOut output t plan).1 = .error fault) (hreported : fault.isReported = true) :
    (carryOut output t plan).2 = t := by
  cases plan with
  | error _ => rfl
  | ok planned =>
    simp only [carryOut] at h
    rcases hwritten : (writeFiles treeWriter t (planned.files output)).2 with found | _
    · rw [hwritten] at h
      cases h
      exact absurd hwritten (writeFiles_ne_reported hreported t _)
    · rw [hwritten] at h
      cases h

theorem writesLast_finishKind (output : Path) (o : Options) (kind : ValueSetKind)
    (reader : MetadataReader) (files : List Path) :
    (finishKind output o kind reader files).WritesLast := by
  intro w fault hfault hreported
  obtain ⟨houtcome, htree, _⟩ := finishKind_doneAt output o kind reader files w
  rw [houtcome] at hfault
  rw [htree]
  exact carryOut_unwritten hfault hreported

theorem reads_searchKind (project : Path) (kind : ValueSetKind) :
    (searchKind project kind).Reads :=
  .bind (Work.reads_report _) fun _ => reads_metadataFiles _ _

theorem writesLast_generateKind (project output : Path) (o : Options) (kind : ValueSetKind) :
    (generateKind project output o kind).WritesLast := by
  refine (reads_searchKind project kind).then fun files => ?_
  refine Work.reads_get.then fun start => ?_
  exact writesLast_finishKind output o kind start.tree.readMetadata files

theorem writesLast_generateRecordTypes (o : Options) : (generateRecordTypes o).WritesLast := by
  refine (reads_settleOptions o).then fun (project, settled) => ?_
  refine (reads_metadataFiles _ _).then fun files => ?_
  refine Work.reads_get.then fun start => ?_
  refine (Work.reads_ofExcept _).then fun loaded => ?_
  refine (Work.reads_ofExcept _).then fun records => ?_
  refine (Work.reads_ofExcept _).then fun output => ?_
  intro w fault hfault hreported
  obtain ⟨houtcome, htree⟩ :=
    (RecordTypeGenerator.ofOptions settled).run_eq records output w.tree
  simp only [Work.doneAt_bind, Work.doneAt_get, Work.doneAt_set, Work.doneAt_report,
    Work.doneAt_ofExcept] at hfault ⊢
  rw [houtcome] at hfault
  rw [htree]
  exact carryOut_unwritten hfault hreported

/-- As long as a kind has not ended, and when it has ended in a failure that is reported, the tree
is the one it found. -/
def Progress.Unwritten (found now : Tree) : Progress → Prop
  | .ended (.ok _) => True
  | .ended (.error fault) => fault.isReported = true → now = found
  | _ => now = found

/-- The options ask for no two kinds of value sets. -/
def Options.AsksForOneKind (o : Options) : Prop :=
  ∀ kind other : ValueSetKind, kind.isEnabled o = true → other.isEnabled o = true → kind = other

/-- What a kind does next is written last, and no other kind does anything. -/
theorem Underway.Step.unwritten {s s' : Underway} (hone : o.AsksForOneKind)
    (hkind : kind.isEnabled o = true) (hstep : Underway.Step project output o s s')
    (h : (s.progress kind).Unwritten t s.place.tree) :
    (s'.progress kind).Unwritten t s'.place.tree := by
  cases hstep with
  | search hmoved hwaiting =>
    cases hone _ _ hmoved hkind
    rw [hwaiting] at h
    rw [progress_move]
    have htree := (reads_searchKind project kind s.place).trans h
    cases ((searchKind project kind).doneAt s.place).1 with
    | error fault => exact fun _ => htree
    | ok files => exact htree
  | read hmoved hreading hp hroot =>
    cases hone _ _ hmoved hkind
    rw [hreading] at h
    rw [progress_move]
    exact h
  | stumble hmoved hreading hp hfault =>
    cases hone _ _ hmoved hkind
    rw [hreading] at h
    rw [progress_move]
    exact fun _ => h
  | @finish _ files roots hmoved hreading hall =>
    cases hone _ _ hmoved hkind
    rw [hreading] at h
    rw [progress_move]
    have hlast := writesLast_finishKind output o kind (readerOf roots) files s.place
    cases hdone : ((finishKind output o kind (readerOf roots) files).doneAt s.place).1 with
    | error fault => exact fun hreported => (hlast fault hdone hreported).trans h
    | ok r => trivial

theorem unwritten_of_steps {s : Underway} (hone : o.AsksForOneKind)
    (hkind : kind.isEnabled o = true)
    (hsteps : ReflTransGen (Underway.Step project output o) (.start w) s) :
    (s.progress kind).Unwritten w.tree s.place.tree := by
  induction hsteps with
  | refl => rfl
  | tail _ hstep ih => exact hstep.unwritten hone hkind ih

theorem conclude_doneAt_error {outcomes : List (Except Failure Result)}
    (h : ((conclude output outcomes).doneAt w).1 = .error fault) : .error fault ∈ outcomes := by
  cases hfailed : failuresIn outcomes with
  | nil =>
    rw [conclude_of_results hfailed] at h
    cases h
  | cons first others =>
    rw [conclude_of_failures hfailed] at h
    cases h
    exact mem_failuresIn.mp (hfailed ▸ List.mem_cons_self)

/-- Whatever turns its reads take, a kind by itself writes last. -/
theorem PicklistRun.unwritten (hone : o.AsksForOneKind) (hrun : PicklistRun o w outcome after)
    (hfault : outcome = .error fault) (hreported : fault.isReported = true) :
    after.tree = w.tree := by
  cases hrun with
  | unsettled hopen =>
    rw [openPicklists_doneAt, Prod.mk.injEq] at hopen
    rw [← hopen.2]
  | settled hopen hsteps hended =>
    obtain ⟨htree, _, hkinds⟩ := open_ok hopen
    obtain ⟨kind, hmem, heq⟩ := List.mem_map.mp (conclude_doneAt_error hfault)
    have hkind := (List.mem_filter.mp hmem).2
    have hsame : Options.AsksForOneKind _ := fun kind other hkind hother =>
      hone kind other ((hkinds kind).symm.trans hkind) ((hkinds other).symm.trans hother)
    have hunwritten := unwritten_of_steps hsame hkind hsteps
    rw [hended kind hkind, heq] at hunwritten
    rw [tree_conclude, hunwritten hreported, htree]

theorem Ends.unwritten (hone : o.kind = .picklists → o.AsksForOneKind)
    (h : Ends o w (.error fault) after) (hreported : fault.isReported = true) :
    after.tree = w.tree := by
  cases hkind : o.kind with
  | picklists => exact ((ends_picklists hkind).mp h).unwritten (hone hkind) rfl hreported
  | recordTypes =>
    have hdone := (ends_recordTypes hkind).mp h
    have hlast := writesLast_generateRecordTypes o w fault
    rw [hdone] at hlast
    exact hlast rfl hreported

end Steps

theorem kind_of_loadOptions {t : Tree} {kind : GenerationKind} {file : Option Path}
    {overrides : Json.Members} {o : Options}
    (h : loadOptions t kind.text file overrides = .ok o) : o.kind = kind := by
  cases file with
  | none =>
    rw [loadOptions, GenerationKind.ofText?_text] at h
    exact kind_of_optionsOf h
  | some file =>
    obtain ⟨members, given, _, _, hoptions⟩ := loadOptions_eq_ok_iff.mp h
    exact kind_of_optionsOf hoptions

section CommandLine
variable {w : Workplace} {fault : Failure} {kind : GenerationKind} {file : Option Path}
  {overrides : Json.Members} {words : List String}

theorem generateFromConfig_unwritten
    (hone : kind = .picklists → ∀ o, loadOptions w.tree kind.text file overrides = .ok o →
      o.AsksForOneKind)
    (hfault : ((generateFromConfig kind.text file overrides).doneAt w).1 = .error fault)
    (hreported : fault.isReported = true) :
    ((generateFromConfig kind.text file overrides).doneAt w).2.tree = w.tree := by
  unfold generateFromConfig at hfault ⊢
  simp only [Work.doneAt_bind, Work.doneAt_get, Work.doneAt_ofExcept] at hfault ⊢
  cases hload : loadOptions w.tree kind.text file overrides with
  | error found => rfl
  | ok o =>
    rw [hload] at hfault
    have hends := ends_generate o w
    rw [hfault] at hends
    refine hends.unwritten (fun hpicklists => ?_) hreported
    exact hone ((kind_of_loadOptions hload).symm.trans hpicklists) o hload

namespace CommandLine
variable {parsed : Parsed}

/-- Printing leaves the tree to what the generation has made of it. -/
theorem tree_run (hparse : parse words = .ok parsed) (hkind : parsed.operation = some kind) :
    ((run words).doneAt w).2.tree =
      ((generateFromConfig kind.text parsed.config parsed.overrides).doneAt w).2.tree := by
  unfold run
  simp only [hparse, hkind, Work.doneAt_bind, Work.doneAt_attempt]
  rcases (generateFromConfig kind.text parsed.config parsed.overrides).doneAt w with
    ⟨fault | result, after⟩
  · dsimp only
    split
    · rw [Work.doneAt_bind, Work.doneAt_ofExcept]
      cases failureReport fault <;> rfl
    · rfl
  · rw [Work.doneAt_bind, Work.doneAt_ofExcept]
    cases report result <;> rfl

/-- The exit code 1 stands for a failure that is reported. -/
theorem failure_of_exit {ending : Ending} (hparse : parse words = .ok parsed)
    (hkind : parsed.operation = some kind) (hends : ((run words).doneAt w).1 = .ok ending)
    (hexit : ending.exit = 1) :
    ∃ fault, ((generateFromConfig kind.text parsed.config parsed.overrides).doneAt w).1 =
      .error fault ∧ fault.isReported = true := by
  cases hfault : ((generateFromConfig kind.text parsed.config parsed.overrides).doneAt w).1 with
  | error fault =>
    refine ⟨fault, rfl, ?_⟩
    rw [run_of_failure hparse hkind hfault] at hends
    by_contra hunreported
    rw [if_neg hunreported] at hends
    cases hends
  | ok result =>
    unfold run at hends
    simp only [hparse, hkind, Work.doneAt_bind, Work.doneAt_attempt, hfault,
      Work.doneAt_ofExcept] at hends
    cases hreport : report result with
    | error found =>
      rw [hreport] at hends
      cases hends
    | ok lines =>
      rw [hreport] at hends
      cases hends
      cases hexit

/-- A run of the command line that ends with exit code 1 has written nothing, unless it was for
several kinds of value sets. -/
theorem run_unwritten {ending : Ending}
    (hone : ∀ parsed o, parse words = .ok parsed → parsed.operation = some .picklists →
      loadOptions w.tree GenerationKind.picklists.text parsed.config parsed.overrides = .ok o →
        o.AsksForOneKind)
    (hends : ((run words).doneAt w).1 = .ok ending) (hexit : ending.exit = 1) :
    ((run words).doneAt w).2.tree = w.tree := by
  cases hparse : parse words with
  | error stop =>
    unfold run
    rw [hparse]
    rfl
  | ok parsed =>
    cases hkind : parsed.operation with
    | none =>
      unfold run
      simp only [hparse, hkind]
      rfl
    | some kind =>
      obtain ⟨fault, hfault, hreported⟩ := failure_of_exit hparse hkind hends hexit
      rw [tree_run hparse hkind]
      refine generateFromConfig_unwritten (fun hpicklists o hload => ?_) hfault hreported
      subst hpicklists
      exact hone parsed o hparse hkind hload

end CommandLine

end CommandLine

/-- A failure that is reported means that nothing has been written: by the generation of record
types, by one kind of value sets, however its reads interleave, and by a run of the command line
that ends with exit code 1. -/
theorem reported_failures_write_nothing (w : Workplace) :
    (∀ (o : Options) (fault : Failure) (after : Workplace),
      (o.kind = .picklists → o.AsksForOneKind) → Ends o w (.error fault) after →
      fault.isReported = true → after.tree = w.tree) ∧
    (∀ (project output : Path) (o : Options) (kind : ValueSetKind) (fault : Failure),
      ((generateKind project output o kind).doneAt w).1 = .error fault →
      fault.isReported = true →
      ((generateKind project output o kind).doneAt w).2.tree = w.tree) ∧
    ∀ (words : List String) (ending : CommandLine.Ending),
      (∀ parsed o, CommandLine.parse words = .ok parsed →
        parsed.operation = some .picklists →
        loadOptions w.tree GenerationKind.picklists.text parsed.config parsed.overrides = .ok o →
          o.AsksForOneKind) →
      ((CommandLine.run words).doneAt w).1 = .ok ending → ending.exit = 1 →
      ((CommandLine.run words).doneAt w).2.tree = w.tree :=
  ⟨fun _ _ _ hone hends => hends.unwritten hone,
    fun project output o kind => writesLast_generateKind project output o kind w,
    fun _ _ => CommandLine.run_unwritten⟩

def namelessProject : Workplace where
  tree :=
    { entries :=
        [(["p", "sfdx-project.json"], .file "".toUTF8), (["p", "m"], .folder),
          (["p", "m", "objects"], .folder), (["p", "m", "objects", "Case"], .folder),
          (["p", "m", "objects", "Case", "A.recordType-meta.xml"],
            .file "<R><active>true</active></R>".toUTF8)]
      home := ["p"]
      nodup := by simp }

def namelessOptions : Options := .ofGiven .recordTypes
  [(.outputDir, .str "out"), (.sourceApiVersion, .str "60.0")]

def namelessWords : List String :=
  ["record-types", "--output-dir", "out", "--source-api-version", "60.0"]

def standardWords : List String :=
  ["picklists", "--ignore-picklists", "--ignore-global-value-sets", "--output-dir", "out",
    "--source-api-version", "60.0"]

def endsReported {α : Type} : Except Failure α → Bool
  | .error fault => fault.isReported
  | .ok _ => false

theorem fault_of_endsReported {α : Type} {outcome : Except Failure α}
    (h : endsReported outcome = true) :
    ∃ fault, outcome = .error fault ∧ fault.isReported = true := by
  cases outcome with
  | error fault => exact ⟨fault, rfl, h⟩
  | ok a => cases h

/-- Options that leave out all kinds but the standard value sets ask for one kind. -/
theorem Options.asksForOneKind_standard {o : Options}
    (h : ValueSetKind.customField.isEnabled o = false ∧ ValueSetKind.global.isEnabled o = false) :
    o.AsksForOneKind := by
  have hstandard : ∀ kind : ValueSetKind, kind.isEnabled o = true → kind = .standard := by
    intro kind hkind
    cases kind with
    | customField =>
      rw [h.1] at hkind
      cases hkind
    | standard => rfl
    | global =>
      rw [h.2] at hkind
      cases hkind
  exact fun kind other hkind hother => (hstandard kind hkind).trans (hstandard other hother).symm

theorem asksForOneKind_standardWords {parsed : CommandLine.Parsed} {o : Options}
    (hparse : CommandLine.parse standardWords = .ok parsed)
    (hload : loadOptions (sampleProject "" globalText).tree GenerationKind.picklists.text
      parsed.config parsed.overrides = .ok o) : o.AsksForOneKind := by
  have hall : (CommandLine.parse standardWords).toOption.all fun parsed =>
      (loadOptions (sampleProject "" globalText).tree GenerationKind.picklists.text parsed.config
        parsed.overrides).toOption.all fun o =>
          ValueSetKind.customField.isEnabled o = false &&
            ValueSetKind.global.isEnabled o = false := by
    decide +kernel
  simp only [hparse, Except.toOption, Option.all_some, hload, Bool.and_eq_true,
    decide_eq_true_eq] at hall
  exact Options.asksForOneKind_standard hall

/-- The generation of record types stops for want of a name, and that of standard value sets at a
file that is no XML. -/
theorem reported_failures_write_nothing_sample :
    (∃ fault, ((generate namelessOptions).doneAt namelessProject).1 = .error fault ∧
        fault.isReported = true) ∧
      ((generate namelessOptions).doneAt namelessProject).2.tree = namelessProject.tree ∧
    (∃ fault, ((generateKind .here (.ofText "out") (sampleSettled "") .standard).doneAt
          (sampleProject "" globalText)).1 = .error fault ∧ fault.isReported = true) ∧
      ((generateKind .here (.ofText "out") (sampleSettled "") .standard).doneAt
        (sampleProject "" globalText)).2.tree = (sampleProject "" globalText).tree ∧
    (∃ ending, ((CommandLine.run namelessWords).doneAt namelessProject).1 = .ok ending ∧
        ending.exit = 1) ∧
      ((CommandLine.run namelessWords).doneAt namelessProject).2.tree = namelessProject.tree ∧
    (∃ ending, ((CommandLine.run standardWords).doneAt (sampleProject "" globalText)).1 =
        .ok ending ∧ ending.exit = 1) ∧
      ((CommandLine.run standardWords).doneAt (sampleProject "" globalText)).2.tree =
        (sampleProject "" globalText).tree := by
  obtain ⟨hgeneration, _, hrun⟩ := reported_failures_write_nothing namelessProject
  obtain ⟨_, hkind, hrun'⟩ := reported_failures_write_nothing (sampleProject "" globalText)
  obtain ⟨fault, hfault, hreported⟩ := fault_of_endsReported
    (show endsReported ((generate namelessOptions).doneAt namelessProject).1 = true by
      decide +kernel)
  obtain ⟨fault', hfault', hreported'⟩ := fault_of_endsReported
    (show endsReported ((generateKind .here (.ofText "out") (sampleSettled "") .standard).doneAt
      (sampleProject "" globalText)).1 = true by decide +kernel)
  obtain ⟨ending, hending, hexit⟩ := ok_of_toOption
    (show ((CommandLine.run namelessWords).doneAt namelessProject).1.toOption.map
      CommandLine.Ending.exit = some 1 by decide +kernel)
  obtain ⟨ending', hending', hexit'⟩ := ok_of_toOption
    (show ((CommandLine.run standardWords).doneAt (sampleProject "" globalText)).1.toOption.map
      CommandLine.Ending.exit = some 1 by decide +kernel)
  have hrecordTypes : ∀ parsed, CommandLine.parse namelessWords = .ok parsed →
      parsed.operation ≠ some .picklists := by
    intro parsed hparse
    have hall : (CommandLine.parse namelessWords).toOption.all fun parsed =>
        parsed.operation ≠ some .picklists := by decide +kernel
    simpa [hparse, Except.toOption] using hall
  refine ⟨⟨fault, hfault, hreported⟩, ?_, ⟨fault', hfault', hreported'⟩, ?_,
    ⟨ending, hending, hexit⟩, ?_, ⟨ending', hending', hexit'⟩, ?_⟩
  · have hends := ends_generate namelessOptions namelessProject
    rw [hfault] at hends
    exact hgeneration _ fault _ (fun hkind => absurd hkind (by decide)) hends hreported
  · exact hkind _ _ _ _ fault' hfault' hreported'
  · exact hrun _ ending (fun parsed _ hparse hoperation =>
      absurd hoperation (hrecordTypes parsed hparse)) hending hexit
  · exact hrun' _ ending' (fun _ _ hparse _ => asksForOneKind_standardWords hparse) hending' hexit'

end ApexConstants
