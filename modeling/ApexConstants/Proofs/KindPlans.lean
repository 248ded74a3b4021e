import ApexConstants.Proofs.KeptConstants
import ApexConstants.Proofs.KeptMetadata
import ApexConstants.Proofs.WorkSteps

namespace ApexConstants
open Apex (Constant Namer)

theorem Tally.ofLabels_congr {namer namer' : Namer} (h : namer'.rules = namer.rules)
    (labels : List (Option String)) :
    (ofLabels namer' labels).constants = (ofLabels namer labels).constants ∧
      (ofLabels namer' labels).warnings = (ofLabels namer labels).warnings := by
  have hthis := ofLabels_follows namer labels
  have hother := ofLabels_follows namer' labels
  constructor
  · rw [hother.kept, hthis.kept, h]
  · rw [warnings, warnings, hother.clashing, hthis.clashing, h]

namespace ValueSetGeneration

structure Alike (x y : ValueSetGeneration) : Prop where
  sameRules : y.namer.rules = x.namer.rules
  log : y.log = x.log
  outcome : y.outcome = x.outcome

/-- It is under the rules it was begun with, and has said nothing that is an error. -/
structure Orderly (namer : Namer) (so : ValueSetGeneration) : Prop where
  sameRules : so.namer.rules = namer.rules
  quiet : ∀ e ∈ so.log, e.severity ≠ .error

end ValueSetGeneration

namespace ValueSetGenerator
variable {g : ValueSetGenerator}

theorem add_of_ok {so : ValueSetGeneration} {result : Result} (h : so.outcome = .ok result)
    (v : ValueSet) : g.add so v =
      { namer := (g.contribution so.namer v).namer
        log := so.log ++ (g.contribution so.namer v).log
        outcome := match (g.contribution so.namer v).yield with
          | .ok yield => .ok (result.add (g.contribution so.namer v).warnings yield)
          | .error fault => .error fault } := by
  unfold add
  split
  · rename_i fault hfault
    rw [h] at hfault
    cases hfault
  · rename_i r hr
    rw [h] at hr
    cases hr
    rfl

theorem add_of_error {so : ValueSetGeneration} {fault : Failure} (h : so.outcome = .error fault)
    (v : ValueSet) : g.add so v = so := by
  simp only [add, h]

theorem contribution_rules (g : ValueSetGenerator) (namer : Namer) (v : ValueSet) :
    (g.contribution namer v).namer.rules = namer.rules :=
  (Tally.ofLabels_follows namer v.values).sameRules

theorem contribution_congr {namer namer' : Namer} (h : namer'.rules = namer.rules) (v : ValueSet) :
    (g.contribution namer' v).log = (g.contribution namer v).log ∧
      (g.contribution namer' v).warnings = (g.contribution namer v).warnings ∧
      (g.contribution namer' v).yield = (g.contribution namer v).yield := by
  obtain ⟨hconstants, hwarnings⟩ := Tally.ofLabels_congr h v.values
  refine ⟨?_, hwarnings, ?_⟩
  · simp only [contribution, hconstants, hwarnings]
  · simp only [contribution, hconstants]

theorem contribution_quiet (g : ValueSetGenerator) (namer : Namer) (v : ValueSet) :
    ∀ e ∈ (g.contribution namer v).log, e.severity ≠ .error := by
  intro e he
  simp only [contribution, List.mem_append, List.mem_map] at he
  rcases he with (⟨message, _, rfl⟩ | ⟨message, _, rfl⟩) | he
  · exact nofun
  · exact nofun
  · split at he
    · rw [List.mem_singleton.mp he]
      exact nofun
    · exact absurd he List.not_mem_nil

theorem add_alike {x y : ValueSetGeneration} (h : x.Alike y) (v : ValueSet) :
    (g.add x v).Alike (g.add y v) := by
  cases hx : x.outcome with
  | error fault =>
    rw [add_of_error hx, add_of_error (h.outcome.trans hx)]
    exact h
  | ok result =>
    obtain ⟨hlog, hwarnings, hyield⟩ := contribution_congr (g := g) h.sameRules v
    rw [add_of_ok hx, add_of_ok (h.outcome.trans hx), hlog, hwarnings, hyield, h.log]
    refine ⟨?_, rfl, rfl⟩
    rw [contribution_rules, contribution_rules, h.sameRules]

theorem add_orderly {namer : Namer} {so : ValueSetGeneration} (h : so.Orderly namer)
    (v : ValueSet) : (g.add so v).Orderly namer := by
  cases hso : so.outcome with
  | error fault => rwa [add_of_error hso]
  | ok result =>
    rw [add_of_ok hso]
    refine ⟨(contribution_rules g so.namer v).trans h.sameRules, fun e he => ?_⟩
    rcases List.mem_append.mp he with he | he
    · exact h.quiet e he
    · exact contribution_quiet g so.namer v e he

theorem generate_alike {namer namer' : Namer} (h : namer'.rules = namer.rules)
    (sets : List ValueSet) : (g.generate namer sets).Alike (g.generate namer' sets) := by
  have hall : ∀ {x y : ValueSetGeneration}, x.Alike y →
      (sets.foldl g.add x).Alike (sets.foldl g.add y) := by
    induction sets with
    | nil => exact fun h => h
    | cons v sets ih => exact fun h => ih (add_alike h v)
  exact hall ⟨h, rfl, rfl⟩

theorem generate_orderly (g : ValueSetGenerator) (namer : Namer) (sets : List ValueSet) :
    (g.generate namer sets).Orderly namer := by
  have hall : ∀ {so : ValueSetGeneration}, so.Orderly namer →
      (sets.foldl g.add so).Orderly namer := by
    induction sets with
    | nil => exact fun h => h
    | cons v sets ih => exact fun h => ih (add_orderly h v)
  exact hall ⟨rfl, by simp [start]⟩

end ValueSetGenerator

def Result.files (r : Result) (folder : Path) : List (Path × String) :=
  r.classes.flatMap (·.files folder)

def Result.noted (r : Result) (folder : Path) : Result :=
  { r with written := r.written ++ (r.files folder).map Prod.fst }

/-- What comes of a result that is to be written, or of the failure that stands in its place: how
that ends, and the tree. -/
def carryOut (output : Path) (t : Tree) : Except Failure Result → Except Failure Result × Tree
  | .error fault => (.error fault, t)
  | .ok planned =>
    ((writeFiles treeWriter t (planned.files output)).2.map fun _ => planned.noted output,
      (writeFiles treeWriter t (planned.files output)).1)

theorem writePairs_paths {store fault : Type} {writer : Writer store fault} {folder : Path}
    {s : store} {classes : List GeneratedClass}
    (h : (writePairs writer folder s classes).outcome = .ok ()) :
    (writePairs writer folder s classes).paths =
      (classes.flatMap (·.files folder)).map Prod.fst := by
  induction classes generalizing s with
  | nil => rfl
  | cons c classes ih =>
    simp only [writePairs] at h ⊢
    rcases hfiles : writeFiles writer s (c.files folder) with ⟨after, e | _⟩
    · simp [hfiles] at h
    · simp only [hfiles] at h ⊢
      rw [ih h, List.flatMap_cons, List.map_append]
      rfl

/-- Writing the classes of a result carries it out. -/
theorem Result.write_eq (planned : Result) (output : Path) (t : Tree) :
    ((planned.write treeWriter output t).2.2.map fun _ =>
        (planned.write treeWriter output t).1) = (carryOut output t (.ok planned)).1 ∧
      (planned.write treeWriter output t).2.1 = (carryOut output t (.ok planned)).2 := by
  have hpairs := writeFiles_pairs treeWriter output t planned.classes
  simp only [carryOut, write, files, hpairs, and_true]
  cases houtcome : (writePairs treeWriter output t planned.classes).outcome with
  | error fault => rfl
  | ok _ => simp only [Except.map, noted, files, writePairs_paths houtcome]

theorem ValueSetGenerator.run_eq (g : ValueSetGenerator) (namer : Namer) (sets : List ValueSet)
    (output : Path) (t : Tree) :
    (g.run namer sets output treeWriter t).1.outcome =
        (carryOut output t (g.generate namer sets).outcome).1 ∧
      (g.run namer sets output treeWriter t).2 =
        (carryOut output t (g.generate namer sets).outcome).2 ∧
      (g.run namer sets output treeWriter t).1.namer = (g.generate namer sets).namer ∧
      (g.run namer sets output treeWriter t).1.log = (g.generate namer sets).log := by
  cases hgenerated : (g.generate namer sets).outcome with
  | error fault =>
    simp only [ValueSetGenerator.run, hgenerated, carryOut, and_self]
  | ok planned =>
    obtain ⟨houtcome, htree⟩ := planned.write_eq output t
    simp only [ValueSetGenerator.run, hgenerated, and_true]
    exact ⟨houtcome, htree⟩

namespace ValueSetKind

/-- What a kind generates from its files, before anything is written. -/
def planFrom (kind : ValueSetKind) (o : Options) (namer : Namer) (reader : MetadataReader)
    (files : List Path) : Except Failure Result := do
  let loaded ← kind.load reader files
  let sets ← (filterIncluded (o.value .included) (fun v => (kind.names v).map fun name =>
    .ok (.str name)) loaded).mapError Failure.value
  let g ← ValueSetGenerator.forSets o kind sets
  (g.generate namer sets).outcome

/-- What a kind generates in a project, before anything is written. -/
def plan (kind : ValueSetKind) (project : Path) (o : Options) (w : Workplace) :
    Except Failure Result := do
  let files ← (w.tree.findMetadata kind.metadata project).mapError Failure.file
  kind.planFrom o w.namer w.tree.readMetadata files

/-- The paths that a kind hands over to be written when it works alone. -/
def pathsHandedOver (kind : ValueSetKind) (project output : Path) (o : Options) (w : Workplace) :
    List Path :=
  match kind.plan project o w with
  | .error _ => []
  | .ok planned => (w.tree.handedOver (planned.files output)).map Prod.fst

end ValueSetKind

section Kinds
variable {project output : Path} {o : Options} {kind : ValueSetKind} {w : Workplace}

/-- Files that have been read make a plan, which is carried out. -/
theorem finishKind_doneAt (output : Path) (o : Options) (kind : ValueSetKind)
    (reader : MetadataReader) (files : List Path) (w : Workplace) :
    ((finishKind output o kind reader files).doneAt w).1 =
        (carryOut output w.tree (kind.planFrom o w.namer reader files)).1 ∧
      ((finishKind output o kind reader files).doneAt w).2.tree =
        (carryOut output w.tree (kind.planFrom o w.namer reader files)).2 ∧
      Quietly w ((finishKind output o kind reader files).doneAt w).2 := by
  have hannounced : ∀ e ∈ (if kind == .customField then [] else [kind.announcement]),
      e.severity ≠ .error := by
    cases kind <;> decide
  unfold finishKind includedRecords writeSets ValueSetKind.planFrom
  simp only [Work.doneAt_bind, Work.doneAt_ofExcept, Work.doneAt_get, Work.doneAt_set,
    Work.doneAt_report]
  cases kind.load reader files with
  | error fault => exact ⟨rfl, rfl, Quietly.refl w⟩
  | ok loaded =>
    simp only [Bind.bind, Except.bind]
    cases (filterIncluded (o.value .included) (fun v => (kind.names v).map fun name =>
        .ok (.str name)) loaded).mapError Failure.value with
    | error fault => exact ⟨rfl, rfl, rfl, _, rfl, hannounced⟩
    | ok sets =>
      dsimp only
      cases ValueSetGenerator.forSets o kind sets with
      | error fault => exact ⟨rfl, rfl, rfl, _, rfl, hannounced⟩
      | ok g =>
        obtain ⟨houtcome, htree, hnamer, hlog⟩ := g.run_eq w.namer sets output w.tree
        have horderly := g.generate_orderly w.namer sets
        dsimp only
        refine ⟨houtcome, htree, ?_, _, List.append_assoc _ _ _, ?_⟩
        · rw [hnamer]
          exact horderly.sameRules
        · intro e he
          rcases List.mem_append.mp he with he | he
          · exact hannounced e he
          · exact horderly.quiet e (hlog ▸ he)

/-- A kind that works alone carries out its plan. -/
theorem generateKind_doneAt (project output : Path) (o : Options) (kind : ValueSetKind)
    (w : Workplace) :
    ((generateKind project output o kind).doneAt w).1 =
        (carryOut output w.tree (kind.plan project o w)).1 ∧
      ((generateKind project output o kind).doneAt w).2.tree =
        (carryOut output w.tree (kind.plan project o w)).2 ∧
      Quietly w ((generateKind project output o kind).doneAt w).2 := by
  have hannounced : ∀ e ∈ (if kind == .customField then [kind.announcement] else []),
      e.severity ≠ .error := by
    cases kind <;> decide
  unfold generateKind searchKind metadataFiles ValueSetKind.plan
  simp only [Work.doneAt_bind, Work.doneAt_ofExcept, Work.doneAt_get, Work.doneAt_report]
  cases (w.tree.findMetadata kind.metadata project).mapError Failure.file with
  | error fault => exact ⟨rfl, rfl, rfl, _, rfl, hannounced⟩
  | ok files =>
    obtain ⟨houtcome, htree, hquiet⟩ := finishKind_doneAt output o kind w.tree.readMetadata files
      { w with log := w.log ++ if kind == .customField then [kind.announcement] else [] }
    have hfirst : Quietly w
        { w with log := w.log ++ if kind == .customField then [kind.announcement] else [] } :=
      ⟨rfl, _, rfl, hannounced⟩
    exact ⟨houtcome, htree, hfirst.trans hquiet⟩

/-- A kind that succeeds has handed over the files of all its classes. -/
theorem pathsHandedOver_of_ok {r : Result}
    (h : ((generateKind project output o kind).doneAt w).1 = .ok r) :
    kind.pathsHandedOver project output o w = (r.files output).map Prod.fst := by
  rw [(generateKind_doneAt project output o kind w).1] at h
  unfold ValueSetKind.pathsHandedOver
  cases hplan : kind.plan project o w with
  | error fault =>
    rw [hplan] at h
    cases h
  | ok planned =>
    rw [hplan] at h
    obtain ⟨_, hwritten, rfl⟩ := map_eq_ok.mp h
    dsimp only
    rw [Tree.handedOver_of_ok hwritten]
    rfl

end Kinds

theorem readAll_congr {reader reader' : MetadataReader} {files : List Path}
    (h : ∀ p ∈ files, reader' p = reader p) : readAll reader' files = readAll reader files := by
  unfold readAll
  induction files with
  | nil => rfl
  | cons p files ih =>
    rw [List.forall_mem_cons] at h
    rw [List.mapM_cons, List.mapM_cons, h.1, ih h.2]

/-- The first file that cannot be read decides. -/
theorem readAll_eq_error {reader : MetadataReader} {files : List Path} {p : Path} {fault : Failure}
    (hp : p ∈ files) (hfault : reader p = .error fault)
    (honly : ∀ q ∈ files, q ≠ p → ∃ root, reader q = .ok root) :
    readAll reader files = .error fault := by
  obtain ⟨before, after, rfl, hfirst⟩ := List.eq_append_cons_of_mem hp
  refine mapM_eq_error (fun q hq => ?_) (by rw [hfault]; rfl)
  obtain ⟨root, hroot⟩ := honly q (List.mem_append_left _ hq) (by rintro rfl; exact hfirst hq)
  exact ⟨(q, root), by rw [hroot]; rfl⟩

namespace ValueSetKind
variable {reader reader' : MetadataReader} {files : List Path}

theorem load_congr (kind : ValueSetKind) (h : readAll reader' files = readAll reader files) :
    kind.load reader' files = kind.load reader files := by
  have hsets : ∀ form, loadValueSets form reader' files = loadValueSets form reader files := by
    intro form
    rw [loadValueSets, loadValueSets, h]
  cases kind with
  | customField => simp only [load, loadCustomFields, h]
  | standard => exact hsets standardForm
  | global => exact hsets globalForm

theorem load_eq_error {fault : Failure} (kind : ValueSetKind)
    (h : readAll reader files = .error fault) : kind.load reader files = .error fault := by
  have hsets : ∀ form, loadValueSets form reader files = .error fault := by
    intro form
    rw [loadValueSets, h]
    rfl
  cases kind with
  | customField =>
    simp only [load, loadCustomFields, h]
    rfl
  | standard => exact hsets standardForm
  | global => exact hsets globalForm

theorem planFrom_congr {namer namer' : Namer} (kind : ValueSetKind) (o : Options)
    (hrules : namer'.rules = namer.rules) (hread : readAll reader' files = readAll reader files) :
    kind.planFrom o namer' reader' files = kind.planFrom o namer reader files := by
  unfold planFrom
  rw [kind.load_congr hread]
  refine bind_congr fun loaded => bind_congr fun sets => bind_congr fun g => ?_
  exact (g.generate_alike hrules sets).outcome

/-- Without files there is nothing to write. -/
theorem tree_of_no_files (kind : ValueSetKind) (o : Options) (namer : Namer)
    (reader : MetadataReader) (output : Path) (t : Tree) :
    (carryOut output t (kind.planFrom o namer reader [])).2 = t := by
  have hload : kind.load reader [] = .ok [] := by cases kind <;> rfl
  cases hplan : kind.planFrom o namer reader [] with
  | error fault => rfl
  | ok planned =>
    obtain ⟨loaded, hloaded, h⟩ := bind_eq_ok.mp hplan
    cases hload.symm.trans hloaded
    obtain ⟨sets, hsets, h⟩ := bind_eq_ok.mp h
    have hnone : sets = [] := by
      obtain ⟨taken, -, hkept⟩ := bind_eq_ok.mp (mapError_eq_ok.mp hsets)
      cases taken <;> cases hkept <;> rfl
    obtain ⟨g, -, hgenerated⟩ := bind_eq_ok.mp h
    subst hnone
    cases hgenerated
    rfl

end ValueSetKind

end ApexConstants
