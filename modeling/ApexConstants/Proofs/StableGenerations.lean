import ApexConstants.Proofs.Deliveries
import ApexConstants.Proofs.FoundFiles
import ApexConstants.Proofs.IndependentKinds

namespace ApexConstants
open Relation (ReflTransGen)

variable {project output : Path} {o settled : Options} {kind : ValueSetKind}
  {w again start after later : Workplace} {t u : Tree} {planned result : Result}
  {outcome : Except Failure Result}

/-- What a generation of record types makes of a project, before anything is written. -/
def recordTypePlan (project : Path) (o : Options) (t : Tree) : Except Failure Result := do
  let files ← (t.findMetadata .recordType project).mapError Failure.file
  let loaded ← loadRecordTypes t.readMetadata files
  let records ← (filterIncluded (o.value .included) (fun r =>
    [r.objectName, r.qualifiedName].map fun name => .ok (.str name)) loaded).mapError Failure.value
  (RecordTypeGenerator.ofOptions o).generate records

theorem RecordTypeGenerator.run_eq (g : RecordTypeGenerator) (records : List RecordType)
    (output : Path) (t : Tree) :
    (g.run records output treeWriter t).2.2 = (carryOut output t (g.generate records)).1 ∧
      (g.run records output treeWriter t).2.1 = (carryOut output t (g.generate records)).2 := by
  cases hgenerated : g.generate records with
  | error fault => simp only [run, hgenerated, carryOut, and_self]
  | ok planned =>
    simp only [run, hgenerated]
    exact planned.write_eq output t

/-- Where a generation is opened, it carries out its plan. -/
theorem generateRecordTypes_doneAt (h : openingOf o w.tree = .ok (project, settled, output)) :
    ((generateRecordTypes o).doneAt w).1 =
        (carryOut output w.tree (recordTypePlan project settled w.tree)).1 ∧
      ((generateRecordTypes o).doneAt w).2.tree =
        (carryOut output w.tree (recordTypePlan project settled w.tree)).2 ∧
      ((generateRecordTypes o).doneAt w).2.namer = w.namer := by
  obtain ⟨_, hsettled, h⟩ := bind_eq_ok.mp h
  obtain ⟨_, houtput, h⟩ := bind_eq_ok.mp h
  cases h
  unfold generateRecordTypes metadataFiles includedRecords recordTypePlan
  simp only [Work.doneAt_bind, settleOptions_doneAt, hsettled, houtput, Except.map,
    Work.doneAt_ofExcept, Work.doneAt_get, Work.doneAt_set, Work.doneAt_report]
  cases (w.tree.findMetadata .recordType (o.resolve w.tree).project.folder).mapError
      Failure.file with
  | error fault => exact ⟨rfl, rfl, rfl⟩
  | ok files =>
    simp only [Bind.bind, Except.bind]
    cases loadRecordTypes w.tree.readMetadata files with
    | error fault => exact ⟨rfl, rfl, rfl⟩
    | ok loaded =>
      dsimp only
      cases (filterIncluded (settled.value .included) (fun r : RecordType =>
          [r.objectName, r.qualifiedName].map fun name => .ok (.str name)) loaded).mapError
            Failure.value with
      | error fault => exact ⟨rfl, rfl, rfl⟩
      | ok records =>
        obtain ⟨houtcome, htree⟩ :=
          (RecordTypeGenerator.ofOptions settled).run_eq records output w.tree
        exact ⟨houtcome, htree, rfl⟩

theorem opening_of_recordTypes (h : ((generateRecordTypes o).doneAt w).1 = .ok result) :
    ∃ opening, openingOf o w.tree = .ok opening := by
  obtain ⟨⟨project, settled⟩, hsettled, h⟩ := Work.ok_of_bind h
  obtain ⟨files, _, h⟩ := Work.ok_of_bind h
  obtain ⟨_, _, h⟩ := Work.ok_of_bind h
  obtain ⟨loaded, _, h⟩ := Work.ok_of_bind h
  obtain ⟨records, _, h⟩ := Work.ok_of_bind h
  obtain ⟨output, houtput, _⟩ := Work.ok_of_bind h
  rw [Work.doneAt_ofExcept] at houtput
  rw [settleOptions_doneAt] at hsettled
  obtain ⟨_, hresolve, heq⟩ := map_eq_ok.mp hsettled
  cases heq
  exact ⟨_, bind_eq_ok.mpr ⟨settled, hresolve, bind_eq_ok.mpr ⟨output, houtput, rfl⟩⟩⟩

theorem recordTypePlan_of_stopped {cause : FileFault}
    (h : t.findMetadata .recordType project = .error cause) :
    recordTypePlan project settled t = .error (.file cause) := by
  unfold recordTypePlan
  rw [h]
  rfl

/-- The plan is the same in a tree with the same metadata, if its files can be looked for. -/
theorem recordTypePlan_kept (hkept : Tree.KeepsMetadata t u) (hproper : t.Proper)
    (hroot : t.isFolder project = .ok true) (hplan : recordTypePlan project settled t = .ok planned)
    {found : List Path} (hfound : u.findMetadata .recordType project = .ok found) :
    recordTypePlan project settled u = .ok planned := by
  obtain ⟨files, hfiles, _⟩ := bind_eq_ok.mp hplan
  have hfiles := mapError_eq_ok.mp hfiles
  have hsame := hkept.findMetadata hroot hfiles hfound
  subst hsame
  have hread : readAll u.readMetadata found = readAll t.readMetadata found :=
    readAll_congr fun p hp => hkept.readMetadata hproper hroot hfiles hp
  have hloaded : loadRecordTypes u.readMetadata found = loadRecordTypes t.readMetadata found := by
    rw [loadRecordTypes, loadRecordTypes, hread]
  rw [← hplan, recordTypePlan, recordTypePlan, hfiles, hfound]
  simp only [Except.mapError, Bind.bind, Except.bind, hloaded]

theorem written_of_recordTypePlan (h : recordTypePlan project settled t = .ok planned) :
    planned.written = [] := by
  obtain ⟨files, _, h⟩ := bind_eq_ok.mp h
  obtain ⟨loaded, _, h⟩ := bind_eq_ok.mp h
  obtain ⟨records, _, h⟩ := bind_eq_ok.mp h
  exact RecordTypeGenerator.written_of_generate h

/-- A generation of record types that succeeds delivers the files of its plan and keeps the metadata
for the next. -/
theorem recordTypes_first (hopen : openingOf o w.tree = .ok (project, settled, output))
    (h : ((generateRecordTypes o).doneAt w).1 = .ok result) :
    ∃ planned, recordTypePlan project settled w.tree = .ok planned ∧
      result = planned.noted output ∧
      Delivered output w.tree result ((generateRecordTypes o).doneAt w).2.tree ∧
      Tree.KeepsMetadata w.tree ((generateRecordTypes o).doneAt w).2.tree := by
  obtain ⟨houtcome, htree, _⟩ := generateRecordTypes_doneAt hopen
  rw [h] at houtcome
  rw [htree]
  cases hplan : recordTypePlan project settled w.tree with
  | error fault =>
    rw [hplan] at houtcome
    cases houtcome
  | ok planned =>
    rw [hplan] at houtcome
    obtain ⟨hresult, hdelivered⟩ :=
      delivered_of_carryOut (written_of_recordTypePlan hplan) houtcome.symm
    exact ⟨planned, rfl, hresult, hdelivered,
      Tree.keepsMetadata_carryOut output w.tree (.ok planned)⟩

/-- The same as before, or the fault of a search that is stopped. -/
def SameUnlessStopped (project : Path) (kinds : List MetadataKind) (u : Tree) (result : Result)
    (outcome : Except Failure Result) : Prop :=
  outcome = .ok result ∨ ∃ kind ∈ kinds, ∃ cause,
    u.findMetadata kind project = .error cause ∧ outcome = .error (.file cause)

/-- Where the files of the plan are there already, it comes to the same, unless the search is
stopped. -/
theorem recordTypes_again (hproper : w.tree.Proper) (hkept : Tree.KeepsMetadata w.tree again.tree)
    (hopen : openingOf o w.tree = .ok (project, settled, output))
    (hopen' : openingOf o again.tree = .ok (project, settled, output))
    (hplan : recordTypePlan project settled w.tree = .ok planned)
    (hholds : Tree.Holds again.tree (planned.files output)) :
    (∀ l, ((generateRecordTypes o).doneAt again).2.tree.content? l = again.tree.content? l) ∧
      SameUnlessStopped project [.recordType] again.tree (planned.noted output)
        ((generateRecordTypes o).doneAt again).1 := by
  obtain ⟨houtcome, htree, _⟩ := generateRecordTypes_doneAt hopen'
  rw [houtcome, htree]
  cases hfound : again.tree.findMetadata .recordType project with
  | error cause =>
    rw [recordTypePlan_of_stopped hfound]
    exact ⟨fun _ => rfl, .inr ⟨.recordType, by simp, cause, hfound, rfl⟩⟩
  | ok found =>
    rw [recordTypePlan_kept hkept hproper (openingOf_ok hopen).1 hplan hfound]
    obtain ⟨hok, hsame⟩ := carryOut_of_held hholds
    exact ⟨hsame, .inl hok⟩

def outcomesPlanned (project output : Path) (o : Options) (w : Workplace) :
    List (Except Failure Result) :=
  (ValueSetKind.all.filter (·.isEnabled o)).map fun kind =>
    (kind.plan project o w).map (·.noted output)

theorem failuresIn_eq_nil_iff {outcomes : List (Except Failure Result)} :
    failuresIn outcomes = [] ↔ ∀ outcome ∈ outcomes, ∃ r, outcome = .ok r := by
  unfold failuresIn
  rw [List.filterMap_eq_nil_iff]
  refine forall_congr' fun outcome => imp_congr_right fun _ => ?_
  cases outcome <;> simp

theorem mem_resultsIn {r : Result} {outcomes : List (Except Failure Result)} :
    r ∈ resultsIn outcomes ↔ .ok r ∈ outcomes := by
  unfold resultsIn
  rw [List.mem_filterMap]
  constructor
  · rintro ⟨outcome, hmem, hsome⟩
    cases outcome with
    | error fault => cases hsome
    | ok r' =>
      cases hsome
      exact hmem
  · exact fun hmem => ⟨_, hmem, rfl⟩

theorem mem_failuresIn {fault : Failure} {outcomes : List (Except Failure Result)} :
    fault ∈ failuresIn outcomes ↔ .error fault ∈ outcomes := by
  unfold failuresIn
  rw [List.mem_filterMap]
  constructor
  · rintro ⟨outcome, hmem, hsome⟩
    cases outcome with
    | ok r => cases hsome
    | error fault' =>
      cases hsome
      exact hmem
  · exact fun hmem => ⟨_, hmem, rfl⟩

theorem files_combine (output : Path) (rs : List Result) :
    (combine output rs).files output = rs.flatMap (·.files output) := by
  rw [Result.files, (combine_eq output rs).1, List.flatMap_assoc]
  rfl

/-- When all plans have been carried out, their results are delivered together. -/
theorem PlansHeld.delivered (h : PlansHeld project output o w u) (hhome : t.home = w.tree.home)
    (htouched : Tree.Touches w.tree.home (pathsPlanned project output o w) t u) :
    Delivered output t (combine output (resultsIn (outcomesPlanned project output o w))) u := by
  have heach : ∀ r ∈ resultsIn (outcomesPlanned project output o w),
      r.written = (r.files output).map Prod.fst ∧ Tree.Holds u (r.files output) := by
    intro r hr
    obtain ⟨kind, hkind, hnoted⟩ := List.mem_map.mp (mem_resultsIn.mp hr)
    obtain ⟨planned, hplan, hholds⟩ := h kind (List.mem_filter.mp hkind).2
    rw [hplan] at hnoted
    cases hnoted
    exact ⟨planned.written_noted (ValueSetKind.written_of_plan hplan) output, hholds⟩
  obtain ⟨-, -, -, hwritten⟩ := combine_eq output (resultsIn (outcomesPlanned project output o w))
  refine ⟨?_, ?_, ?_⟩
  · rw [hwritten, files_combine, List.map_flatMap]
    exact List.flatMap_congr fun r hr => (heach r hr).1
  · rw [files_combine]
    exact Tree.holds_flatMap fun r hr => (heach r hr).2
  · rw [hhome, hwritten]
    refine htouched.mono fun p hp => ?_
    obtain ⟨kind, hkind, hp⟩ := List.mem_flatMap.mp hp
    obtain ⟨planned, hplan, _⟩ := h kind (List.mem_filter.mp hkind).2
    rw [filesPlanned_of_plan hplan] at hp
    have hr : planned.noted output ∈ resultsIn (outcomesPlanned project output o w) := by
      refine mem_resultsIn.mpr (List.mem_map.mpr ⟨kind, hkind, ?_⟩)
      rw [hplan]
      rfl
    refine List.mem_flatMap.mpr ⟨planned.noted output, hr, ?_⟩
    rw [planned.written_noted (ValueSetKind.written_of_plan hplan) output]
    exact hp

section Underway
variable {s : Underway} {outcomes : ValueSetKind → Except Failure Result}

/-- Kinds that have all succeeded have carried out their plans. -/
theorem OnPlan.held (h : OnPlan project output o w start s)
    (hended : ∀ kind : ValueSetKind, kind.isEnabled o = true →
      s.progress kind = .ended (outcomes kind))
    (hok : failuresIn ((ValueSetKind.all.filter (·.isEnabled o)).map outcomes) = []) :
    PlansHeld project output o w s.place.tree ∧
      (ValueSetKind.all.filter (·.isEnabled o)).map outcomes =
        outcomesPlanned project output o w := by
  have heach : ∀ kind : ValueSetKind, kind.isEnabled o = true →
      ∃ planned, kind.plan project o w = .ok planned ∧ outcomes kind = .ok (planned.noted output) ∧
        Tree.Holds s.place.tree (planned.files output) := by
    intro kind hkind
    have hfollows := h.kinds kind hkind
    obtain ⟨r, hr⟩ := failuresIn_eq_nil_iff.mp hok _ (List.mem_map_of_mem (mem_enabled hkind))
    rw [hended kind hkind, hr] at hfollows
    obtain ⟨_, planned, hplan, rfl, hholds⟩ := hfollows
    exact ⟨planned, hplan, hr, hholds⟩
  constructor
  · intro kind hkind
    obtain ⟨planned, hplan, _, hholds⟩ := heach kind hkind
    exact ⟨planned, hplan, hholds⟩
  · refine List.map_congr_left fun kind hkind => ?_
    obtain ⟨planned, hplan, houtcome, _⟩ := heach kind (List.mem_filter.mp hkind).2
    rw [houtcome, hplan]
    rfl

def soughtSets (o : Options) : List MetadataKind :=
  (ValueSetKind.all.filter (·.isEnabled o)).map (·.metadata)

/-- Kinds whose plans have been carried out before come to the same, unless a search is stopped. -/
theorem OnPlan.repeated (h : OnPlan project output o w start s)
    (hheld : PlansHeld project output o w start.tree)
    (hended : ∀ kind : ValueSetKind, kind.isEnabled o = true →
      s.progress kind = .ended (outcomes kind)) :
    SameUnlessStopped project (soughtSets o) start.tree
      (combine output (resultsIn (outcomesPlanned project output o w)))
      ((conclude output ((ValueSetKind.all.filter (·.isEnabled o)).map outcomes)).doneAt
        s.place).1 := by
  cases hfailed : failuresIn ((ValueSetKind.all.filter (·.isEnabled o)).map outcomes) with
  | nil =>
    rw [conclude_of_results hfailed, (h.held hended hfailed).2]
    exact .inl rfl
  | cons first others =>
    rw [conclude_of_failures hfailed]
    -- The first kind that fails has its files, so that only its search can have been stopped.
    have hfirst : first ∈ failuresIn ((ValueSetKind.all.filter (·.isEnabled o)).map outcomes) := by
      rw [hfailed]
      exact List.mem_cons_self
    obtain ⟨kind, hkind, hfault⟩ := List.mem_map.mp (mem_failuresIn.mp hfirst)
    have hasked := (List.mem_filter.mp hkind).2
    obtain ⟨planned, hplan, hholds⟩ := hheld kind hasked
    rcases h.again hasked hplan hholds (hended kind hasked) with ⟨_, hok⟩ | ⟨cause, hcause, herror⟩
    · rw [hfault] at hok
      cases hok
    · rw [hfault] at herror
      cases herror
      exact .inr ⟨_, List.mem_map_of_mem hkind, cause, hcause, rfl⟩

theorem conclude_doneAt_ok {list : List (Except Failure Result)} {place : Workplace}
    (h : (conclude output list).doneAt place = (.ok result, after)) :
    failuresIn list = [] ∧ result = combine output (resultsIn list) ∧ after.tree = place.tree ∧
      after.namer = place.namer := by
  cases hfailed : failuresIn list with
  | nil =>
    rw [conclude_of_results hfailed] at h
    cases h
    exact ⟨rfl, rfl, rfl, rfl⟩
  | cons first others =>
    rw [conclude_of_failures hfailed] at h
    cases h

theorem PicklistRun.opening (h : PicklistRun o w outcome after) (hok : outcome = .ok result) :
    ∃ opening, openingOf o w.tree = .ok opening := by
  cases h with
  | unsettled _ => cases hok
  | settled hopen _ _ =>
    rw [openPicklists_doneAt, Prod.mk.injEq] at hopen
    exact ⟨_, hopen.1⟩

/-- A generation from a tree with the metadata of another goes by the plans in that one. -/
theorem PicklistRun.onPlan (hproper : w.tree.Proper)
    (hkept : Tree.KeepsMetadata w.tree again.tree) (hrules : again.namer.rules = w.namer.rules)
    (hfinds : FindsNoOther project settled w again.tree)
    (hopen : openingOf o w.tree = .ok (project, settled, output))
    (hopen' : openingOf o again.tree = .ok (project, settled, output))
    (hnone : NoneShared project output settled w) (hrun : PicklistRun o again outcome after) :
    ∃ start s outcomes, start.tree = again.tree ∧ OnPlan project output settled w start s ∧
      (∀ kind : ValueSetKind, kind.isEnabled settled = true →
        s.progress kind = .ended (outcomes kind)) ∧
      (conclude output ((ValueSetKind.all.filter (·.isEnabled settled)).map outcomes)).doneAt
        s.place = (outcome, after) := by
  cases hrun with
  | unsettled hstart =>
    rw [openPicklists_doneAt, hopen', Prod.mk.injEq] at hstart
    cases hstart.1
  | @settled _ _ _ _ s outcomes hstart hsteps hended =>
    rw [openPicklists_doneAt, hopen', Prod.mk.injEq] at hstart
    obtain ⟨heq, rfl⟩ := hstart
    cases heq
    have hplan : OnPlan project output settled w
        { again with log := again.log ++ (o.resolve again.tree).log } s :=
      onPlan_of_steps hkept hrules (openingOf_ok hopen).1 hproper hnone hfinds hsteps
    refine ⟨_, s, outcomes, ?_, hplan, hended, rfl⟩
    rfl

end Underway

/-- How a generation can end. -/
def Ends (o : Options) (w : Workplace) (outcome : Except Failure Result) (after : Workplace) :
    Prop :=
  match o.kind with
  | .picklists => PicklistRun o w outcome after
  | .recordTypes => (generateRecordTypes o).doneAt w = (outcome, after)

theorem ends_picklists {outcome : Except Failure Result} (hkind : o.kind = .picklists) :
    Ends o w outcome after ↔ PicklistRun o w outcome after := by
  unfold Ends
  rw [hkind]

theorem ends_recordTypes {outcome : Except Failure Result} (hkind : o.kind = .recordTypes) :
    Ends o w outcome after ↔ (generateRecordTypes o).doneAt w = (outcome, after) := by
  unfold Ends
  rw [hkind]

/-- What a generation comes to is an end that it can have. -/
theorem ends_generate (o : Options) (w : Workplace) :
    Ends o w ((generate o).doneAt w).1 ((generate o).doneAt w).2 := by
  unfold Ends generate
  cases o.kind with
  | picklists => exact picklistRun_of_order (List.Perm.refl ValueSetKind.all) o w
  | recordTypes => rfl

def soughtKinds (o settled : Options) : List MetadataKind :=
  match o.kind with
  | .picklists => soughtSets settled
  | .recordTypes => [.recordType]

structure Settles (o : Options) (w : Workplace) (project output : Path) (kinds : List MetadataKind)
    (result : Result) (after : Workplace) : Prop where
  delivered : Delivered output w.tree result after.tree
  sameRules : after.namer.rules = w.namer.rules
  repeats : ∀ again outcome later, again.tree = after.tree → again.namer.rules = w.namer.rules →
    Ends o again outcome later → (∀ l, later.tree.content? l = after.tree.content? l) ∧
      SameUnlessStopped project kinds after.tree result outcome

theorem recordTypes_settles (hkind : o.kind = .recordTypes) (hproper : w.tree.Proper)
    (hopen : openingOf o w.tree = .ok (project, settled, output))
    (hrun : Ends o w (.ok result) after) :
    Settles o w project output [.recordType] result after := by
  rw [ends_recordTypes hkind] at hrun
  obtain ⟨planned, hplan, rfl, hdelivered, hkept⟩ := recordTypes_first hopen (by rw [hrun])
  obtain ⟨_, _, hnamer⟩ := generateRecordTypes_doneAt hopen
  rw [hrun] at hdelivered hkept hnamer
  refine ⟨hdelivered, congrArg _ hnamer, fun again outcome later htree _ hends => ?_⟩
  rw [ends_recordTypes hkind] at hends
  have hopen' := hdelivered.opening hopen
  have hholds : Tree.Holds again.tree (planned.files output) := htree ▸ hdelivered.holds
  rw [← htree] at hkept hopen' ⊢
  have hrepeats := recordTypes_again hproper hkept hopen hopen' hplan hholds
  rwa [hends] at hrepeats

theorem picklists_settles (hkind : o.kind = .picklists) (hproper : w.tree.Proper)
    (hopen : openingOf o w.tree = .ok (project, settled, output))
    (hnone : NoneShared project output settled w) (hrun : Ends o w (.ok result) after) :
    Settles o w project output (soughtSets settled) result after := by
  rw [ends_picklists hkind] at hrun
  obtain ⟨start, s, outcomes, hstart, hplan, hended, hdone⟩ :=
    PicklistRun.onPlan hproper (.refl _) rfl (fun _ _ _ hfound => hfound) hopen hopen hnone hrun
  obtain ⟨hok, rfl, htree, hnamer⟩ := conclude_doneAt_ok hdone
  obtain ⟨hheld, heq⟩ := hplan.held hended hok
  have htouched := hplan.touched
  have hkept := hplan.metadata
  rw [← htree] at hheld htouched hkept
  rw [hstart] at htouched
  rw [heq]
  have hdelivered := hheld.delivered rfl htouched
  refine ⟨hdelivered, ?_, fun again outcome later hagain hrules hends => ?_⟩
  · rw [hnamer]
    exact hplan.sameRules
  · rw [ends_picklists hkind] at hends
    rw [← hagain] at hkept hheld hdelivered ⊢
    -- Each kind has found its files before, and they are still all that can be found.
    have hfinds : FindsNoOther project settled w again.tree := by
      intro kind hasked found hfound
      obtain ⟨planned, hplanned, _⟩ := hheld kind hasked
      obtain ⟨files, hfiles, _⟩ := bind_eq_ok.mp hplanned
      have hfiles := mapError_eq_ok.mp hfiles
      rwa [hkept.findMetadata (openingOf_ok hopen).1 hfiles hfound]
    obtain ⟨start', s', outcomes', hstart', hplan', hended', hdone'⟩ :=
      PicklistRun.onPlan hproper hkept hrules hfinds hopen (hdelivered.opening hopen) hnone hends
    rw [← hstart'] at hheld ⊢
    have hrepeated := hplan'.repeated hheld hended'
    have hlater : later.tree = s'.place.tree := by
      have hsame := congrArg (fun done => done.2.tree) hdone'
      exact hsame.symm.trans (tree_conclude _ _)
    rw [hdone'] at hrepeated
    rw [hlater]
    exact ⟨hplan'.unchanged hheld, hrepeated⟩

/-- A generation that succeeds changes no file but those that its result lists, each of which has
the text that was written last for it, and is stable: whichever turns its kinds take, it leaves
every file as it is when it is done again, and comes to the same result, unless one of its searches
is stopped in the tree that it has left. -/
theorem regeneration_stable (hproper : w.tree.Proper)
    (hnone : o.kind = .picklists → ∀ project settled output,
      openingOf o w.tree = .ok (project, settled, output) → NoneShared project output settled w)
    (hrun : Ends o w (.ok result) after) :
    ∃ project settled output, openingOf o w.tree = .ok (project, settled, output) ∧
      Accounted output w.tree result after.tree ∧ after.namer.rules = w.namer.rules ∧
      ∀ again : Workplace, again.tree = after.tree → again.namer.rules = w.namer.rules →
        (∃ outcome later, Ends o again outcome later) ∧
        ∀ outcome later, Ends o again outcome later →
          (∀ l, later.tree.content? l = after.tree.content? l) ∧
          (outcome = .ok result ∨ ∃ kind ∈ soughtKinds o settled, ∃ cause,
            after.tree.findMetadata kind project = .error cause ∧
              outcome = .error (.file cause)) := by
  have hsettles : ∃ project settled output, openingOf o w.tree = .ok (project, settled, output) ∧
      Settles o w project output (soughtKinds o settled) result after := by
    cases hkind : o.kind with
    | picklists =>
      obtain ⟨⟨project, settled, output⟩, hopen⟩ :=
        PicklistRun.opening ((ends_picklists hkind).mp hrun) rfl
      refine ⟨project, settled, output, hopen, ?_⟩
      rw [soughtKinds, hkind]
      exact picklists_settles hkind hproper hopen (hnone hkind project settled output hopen) hrun
    | recordTypes =>
      obtain ⟨⟨project, settled, output⟩, hopen⟩ :=
        opening_of_recordTypes (congrArg Prod.fst ((ends_recordTypes hkind).mp hrun))
      refine ⟨project, settled, output, hopen, ?_⟩
      rw [soughtKinds, hkind]
      exact recordTypes_settles hkind hproper hopen hrun
  obtain ⟨project, settled, output, hopen, hsettles⟩ := hsettles
  refine ⟨project, settled, output, hopen, hsettles.delivered.accounted, hsettles.sameRules,
    fun again htree hrules => ⟨⟨_, _, ends_generate o again⟩, fun outcome later hends => ?_⟩⟩
  exact hsettles.repeats again outcome later htree hrules hends

/-- The classes of A and B are made, and then made again. -/
theorem regeneration_stable_sample :
    ∃ result after, (generate (sampleOptions "")).doneAt (sampleProject standardText globalText) =
        (.ok result, after) ∧
      Accounted (.ofText "out") (sampleProject standardText globalText).tree result after.tree ∧
      result.written = [.ofText "out/A.cls", .ofText "out/A.cls-meta.xml", .ofText "out/B.cls",
        .ofText "out/B.cls-meta.xml"] ∧
      ∃ later, (generate (sampleOptions "")).doneAt after = (.ok result, later) ∧
        ∀ l, later.tree.content? l = after.tree.content? l := by
  have hnone : NoneShared .here (.ofText "out") (sampleSettled "")
      (sampleProject standardText globalText) := by
    have hapart : ∀ f ∈ ValueSetKind.standard.filesPlanned .here (.ofText "out")
        (sampleSettled "") (sampleProject standardText globalText),
        ∀ g ∈ ValueSetKind.global.filesPlanned .here (.ofText "out")
          (sampleSettled "") (sampleProject standardText globalText),
            f.1.target ["p"] ≠ g.1.target ["p"] := by
      decide +kernel
    exact pairs_sample hapart fun g hg f hf => (hapart f hf g hg).symm
  have hopening : openingOf (sampleOptions "") (sampleProject standardText globalText).tree =
      .ok (.here, sampleSettled "", .ofText "out") := by
    have hopen := open_sample standardText globalText ""
    rw [openPicklists_doneAt, Prod.mk.injEq] at hopen
    exact hopen.1
  obtain ⟨hwritten, hsearched⟩ : ((generate (sampleOptions "")).doneAt
      (sampleProject standardText globalText)).1.toOption.map (·.written) =
        some [.ofText "out/A.cls", .ofText "out/A.cls-meta.xml", .ofText "out/B.cls",
          .ofText "out/B.cls-meta.xml"] ∧
      ∀ kind ∈ soughtKinds (sampleOptions "") (sampleSettled ""),
        (((generate (sampleOptions "")).doneAt
          (sampleProject standardText globalText)).2.tree.findMetadata kind .here).isOk = true := by
    decide +kernel
  have hproper := proper_sample standardText globalText
  have hfirst := ends_generate (sampleOptions "") (sampleProject standardText globalText)
  generalize sampleProject standardText globalText = w at *
  rcases hdone : (generate (sampleOptions "")).doneAt w with ⟨outcome, after⟩
  rw [hdone] at hfirst hwritten hsearched
  obtain ⟨result, rfl, hpaths⟩ := ok_of_toOption hwritten
  obtain ⟨project, settled, output, hopen, haccounted, hrules, hstable⟩ :=
    regeneration_stable hproper (fun _ _ _ _ hopen => by
      rw [hopening] at hopen
      cases hopen
      exact hnone) hfirst
  rw [hopening] at hopen
  cases hopen
  obtain ⟨hsame, hok | ⟨kind, hkind, cause, hstopped, _⟩⟩ :=
    (hstable after rfl hrules).2 _ _ (ends_generate (sampleOptions "") after)
  · exact ⟨result, after, rfl, haccounted, hpaths, _, Prod.ext hok rfl, hsame⟩
  · have hfound := hsearched kind hkind
    rw [hstopped] at hfound
    cases hfound

def detourProject : Workplace where
  tree := {
    entries := [(["p", Tree.detourFolder], .folder), (["p", projectFile], .file "\x7b\x7d".toUTF8)]
    home := ["p"]
    nodup := by decide +kernel }

def recordTypesOf (folder output : String) : Options := .ofGiven .recordTypes
  [(.projectDir, .str folder), (.outputDir, .str output), (.sourceApiVersion, .str "60.0")]

def recordTypesSettled (folder output : String) : Options :=
  ((recordTypesOf folder output).set .outputDir (.str output)).set .sourceApiVersion (.str "60.0")

theorem opening_recordTypesOf {folder output : String} (hread : Path.ofText folder = project)
    (hthere : Project.isProject { folder := project } t = .ok true) (houtput : output ≠ "") :
    openingOf (recordTypesOf folder output) t =
      .ok (project, recordTypesSettled folder output, .ofText output) := by
  have hgiven : (Json.str output).isTruthy = true := by simpa [Json.isTruthy] using houtput
  have hproject : (pathOf ((recordTypesOf folder output).value .projectDir)).bind
      (Project.at? t) = .ok { folder := project } := by
    change Project.at? t (Path.ofText folder) = _
    rw [hread, Project.at?, hthere]
    rfl
  have hfolder : (recordTypesOf folder output).value .outputDir = .str output := rfl
  have hresolve : (recordTypesOf folder output).resolve t =
      ⟨.ok (recordTypesSettled folder output), { folder := project }, []⟩ := by
    rw [Options.resolve, hproject]
    simp only [Project.orAnswer, hfolder, hgiven, if_true]
    rfl
  rw [openingOf, hresolve]
  rfl

def detourOptions : Options := recordTypesOf Tree.detours.text Tree.hiddenFolder

def detourSettled : Options := recordTypesSettled Tree.detours.text Tree.hiddenFolder

theorem opening_detour : openingOf detourOptions detourProject.tree =
    .ok (Tree.detours, detourSettled, .ofText Tree.hiddenFolder) := by
  have hfile : detourProject.tree.isFile (Tree.detours.child projectFile) = .ok true := by
    decide +kernel
  refine opening_recordTypesOf (Path.ofText_text (by decide +kernel) ?_) ?_ (by decide +kernel)
  · simp only [Path.Plain]
    decide +kernel
  · rw [Project.isProject, Project.configPath, hfile]
    rfl

/-- The output folder that a generation creates lies too deep for the search of the next one, since
the detours count. -/
theorem regeneration_stopped : detourProject.tree.Proper ∧ detourOptions.kind = .recordTypes ∧
    ∃ result after, (generate detourOptions).doneAt detourProject = (.ok result, after) ∧
      ((generate detourOptions).doneAt after).1 = .error (.file .nameTooLong) := by
  have hname : Tree.detourFolder ≠ ".." := by decide +kernel
  obtain ⟨hdone, hstopped⟩ : (carryOut (.ofText Tree.hiddenFolder) detourProject.tree
      (recordTypePlan Tree.detours detourSettled detourProject.tree)).1.isOk = true ∧
      (carryOut (.ofText Tree.hiddenFolder) detourProject.tree
        (recordTypePlan Tree.detours detourSettled detourProject.tree)).2.findMetadata .recordType
          Tree.detours = .error .nameTooLong := by
    decide +kernel
  refine ⟨(Tree.sound_of_right_home ?_ ?_).toProper, rfl, ?_⟩
  · simp [detourProject]
  · simp [detourProject, hname, projectFile]
  · have hopen := opening_detour
    generalize detourProject = w at hdone hstopped hopen ⊢
    obtain ⟨houtcome, htree, _⟩ := generateRecordTypes_doneAt hopen
    change ∃ result after, (generateRecordTypes detourOptions).doneAt w = (.ok result, after) ∧
      ((generateRecordTypes detourOptions).doneAt after).1 = .error (.file .nameTooLong)
    rcases hrun : (generateRecordTypes detourOptions).doneAt w with ⟨outcome, after⟩
    rw [hrun] at houtcome htree
    rw [← houtcome] at hdone
    rw [← htree] at hstopped
    cases outcome with
    | error fault => cases hdone
    | ok result =>
      obtain ⟨_, _, _, hdelivered, _⟩ := recordTypes_first hopen (congrArg Prod.fst hrun)
      rw [hrun] at hdelivered
      refine ⟨result, after, rfl, ?_⟩
      rw [(generateRecordTypes_doneAt (hdelivered.opening hopen)).1,
        recordTypePlan_of_stopped hstopped]
      rfl

end ApexConstants
