import ApexConstants.Proofs.KeptMetadata
import ApexConstants.Proofs.OneKind
import ApexConstants.Proofs.PlannedKinds

namespace ApexConstants

namespace Project
variable {p : Project} {t u : Tree}

/-- What a project answers depends on what its path of the project file leads to. -/
theorem answer_congr (h : u.find p.configPath = t.find p.configPath) (question : ProjectQuestion) :
    p.answer u question = p.answer t question := by
  have hproject : p.isProject u = p.isProject t := by
    simp only [isProject, Tree.isFile, Tree.probe, h]
  have hread : u.read p.configPath = t.read p.configPath := by
    simp only [Tree.read, h]
  have hload : p.load u = p.load t := by
    simp only [load, readConfig, hproject, hread]
  cases question <;> simp only [answer, packageFolder, ask, hproject, hload]

theorem at_congr {folder : Path}
    (h : u.find (folder.child projectFile) = t.find (folder.child projectFile)) :
    at? u folder = at? t folder := by
  simp only [at?, isProject, configPath, Tree.isFile, Tree.probe, h]

end Project

namespace Options
variable {o settled : Options} {t u : Tree}

/-- Options are settled in the same way in two trees where their project has the same file. -/
theorem resolve_congr {folder : Path} (hfolder : pathOf (o.value .projectDir) = .ok folder)
    (h : u.find (folder.child projectFile) = t.find (folder.child projectFile)) :
    o.resolve u = o.resolve t := by
  unfold resolve
  rw [hfolder]
  simp only [Except.bind, Project.at_congr h]
  cases hat : Project.at? t folder with
  | error fault => rfl
  | ok p =>
    obtain ⟨rfl, _⟩ := Project.at_ok hat
    have hfirst : p.orAnswer (o.value .outputDir) (·.answer u .outputFolder) =
        p.orAnswer (o.value .outputDir) (·.answer t .outputFolder) := by
      simp only [Project.orAnswer, Project.answer_congr h]
    have hkept := p.folder_orAnswer (t := t) (o.value .outputDir) .outputFolder
    dsimp only
    rw [hfirst]
    generalize p.orAnswer (o.value .outputDir) (·.answer t .outputFolder) = reply at hkept ⊢
    have hsecond : reply.project.orAnswer (o.value .sourceApiVersion) (·.answer u .apiVersion) =
        reply.project.orAnswer (o.value .sourceApiVersion) (·.answer t .apiVersion) := by
      have hfind : u.find reply.project.configPath = t.find reply.project.configPath := by
        rwa [Project.configPath, hkept]
      simp only [Project.orAnswer, Project.answer_congr hfind]
    rw [hsecond]

theorem project_of_resolve (h : (o.resolve t).outcome = .ok settled) :
    ∃ p : Project, pathOf (o.value .projectDir) = .ok p.folder ∧ p.isProject t = .ok true := by
  unfold resolve at h
  cases hp : (pathOf (o.value .projectDir)).bind (Project.at? t) with
  | error fault => simp [hp] at h
  | ok p =>
    obtain ⟨folder, hfolder, hat⟩ := bind_eq_ok.mp hp
    obtain ⟨rfl, hproject⟩ := Project.at_ok hat
    exact ⟨p, hfolder, hproject⟩

end Options

/-- A generation is opened as before when only files were touched that are no project files. -/
theorem openingOf_touched {o : Options} {t u : Tree} {ps : List Path}
    {opening : Path × Options × Path} (h : openingOf o t = .ok opening)
    (htouched : Tree.Touches t.home ps t u)
    (hps : ∀ p ∈ ps, ∀ project : Project, p.target t.home ≠ project.configPath.target t.home) :
    openingOf o u = .ok opening := by
  obtain ⟨settled, hsettled, _⟩ := bind_eq_ok.mp h
  obtain ⟨p, hfolder, hproject⟩ := Options.project_of_resolve hsettled
  obtain ⟨content, hfind⟩ := Project.find_of_isProject hproject
  obtain ⟨l, hl, hentry⟩ := Tree.find_eq_ok_iff.mp hfind
  obtain ⟨_, _, rfl⟩ := Tree.locate_eq_ok_iff.mp hl
  have hkept : u.content? (p.configPath.target t.home) = some content := by
    rw [htouched.files _ fun q hq heq => hps q hq p heq.symm]
    exact Tree.content?_eq_some_iff.mpr hentry
  have hfind' : u.find p.configPath = .ok (.file content) :=
    Tree.find_eq_ok_iff.mpr
      ⟨_, htouched.grows.locate hl, Tree.content?_eq_some_iff.mp hkept⟩
  have hresolve : o.resolve u = o.resolve t :=
    Options.resolve_congr hfolder (hfind'.trans hfind.symm)
  rw [← h, openingOf, openingOf, hresolve]

variable {project output : Path} {o : Options} {kind : ValueSetKind} {w : Workplace} {t u : Tree}
  {planned result : Result}

theorem Result.written_add (r : Result) (warnings : List String) (yield : Yield) :
    (r.add warnings yield).written = r.written := by
  cases yield <;> rfl

/-- As far as a generation has come it lists nothing as written. -/
def ValueSetGeneration.Unwritten (so : ValueSetGeneration) : Prop :=
  ∀ r, so.outcome = .ok r → r.written = []

theorem ValueSetGenerator.unwritten_add {g : ValueSetGenerator} {so : ValueSetGeneration}
    (h : so.Unwritten) (v : ValueSet) : (g.add so v).Unwritten := by
  intro r hr
  cases hso : so.outcome with
  | error fault =>
    rw [add_of_error hso, hso] at hr
    cases hr
  | ok result =>
    rw [add_of_ok hso] at hr
    dsimp only at hr
    split at hr
    · cases hr
      rw [Result.written_add]
      exact h result hso
    · cases hr

theorem ValueSetGenerator.unwritten_generate (g : ValueSetGenerator) (namer : Apex.Namer)
    (sets : List ValueSet) : (g.generate namer sets).Unwritten := by
  have hall : ∀ so : ValueSetGeneration, so.Unwritten → (sets.foldl g.add so).Unwritten := by
    induction sets with
    | nil => exact fun _ hso => hso
    | cons v sets ih => exact fun so hso => ih _ (unwritten_add hso v)
  refine hall (g.start namer) fun r hr => ?_
  cases hr
  rfl

theorem ValueSetKind.written_of_plan (h : kind.plan project o w = .ok planned) :
    planned.written = [] := by
  obtain ⟨files, _, h⟩ := bind_eq_ok.mp h
  obtain ⟨loaded, _, h⟩ := bind_eq_ok.mp h
  obtain ⟨sets, _, h⟩ := bind_eq_ok.mp h
  obtain ⟨g, _, h⟩ := bind_eq_ok.mp h
  exact g.unwritten_generate w.namer sets planned h

theorem RecordTypeGenerator.written_of_generate {g : RecordTypeGenerator}
    {records : List RecordType} (h : g.generate records = .ok planned) : planned.written = [] := by
  obtain ⟨body, _, h⟩ := bind_eq_ok.mp h
  obtain ⟨stamp, _, h⟩ := bind_eq_ok.mp h
  dsimp only at h
  split at h
  · obtain ⟨_, _, h⟩ := bind_eq_ok.mp h
    cases h
    rfl
  · cases h
    rfl

theorem Result.written_noted (h : planned.written = []) (output : Path) :
    (planned.noted output).written = ((planned.noted output).files output).map Prod.fst := by
  rw [noted, h]
  rfl

/-- A result lists the files of its classes, the tree has them, and no other file was touched. -/
structure Delivered (output : Path) (t : Tree) (result : Result) (u : Tree) : Prop where
  paths : result.written = (result.files output).map Prod.fst
  holds : Tree.Holds u (result.files output)
  touched : Tree.Touches t.home result.written t u

/-- The files of a result account for what has become of a tree. -/
structure Accounted (output : Path) (t : Tree) (result : Result) (u : Tree) : Prop where
  /-- Where a file is new or is not as before, a path leads to that the result lists as written. -/
  listed : ∀ l, u.content? l ≠ t.content? l → ∃ p ∈ result.written, u.locate p = .ok l
  /-- The paths that it lists are those of the files of its classes. -/
  paths : result.written = (result.files output).map Prod.fst
  /-- Where such a path leads is the text that comes last among the files whose paths lead there. -/
  last : ∀ p ∈ result.written, ∃ l text, u.locate p = .ok l ∧
    u.lastContent? l (result.files output) = some text ∧ u.read p = .ok text.toUTF8

theorem Delivered.accounted (h : Delivered output t result u) : Accounted output t result u := by
  refine ⟨fun l hl => ?_, h.paths, fun p hp => ?_⟩
  · by_contra hnone
    refine hl (h.touched.files l fun p hp heq => hnone ⟨p, hp, ?_⟩)
    rw [h.paths] at hp
    obtain ⟨f, hf, rfl⟩ := List.mem_map.mp hp
    obtain ⟨k, hk⟩ := h.holds.located f hf
    obtain ⟨_, _, rfl⟩ := Tree.locate_eq_ok_iff.mp hk
    rw [heq, ← h.touched.grows.sameHome]
    exact hk
  · rw [h.paths] at hp
    obtain ⟨f, hf, rfl⟩ := List.mem_map.mp hp
    exact h.holds.last hf

theorem Delivered.opening (h : Delivered output t result u) {opening : Path × Options × Path}
    (hopen : openingOf o t = .ok opening) : openingOf o u = .ok opening := by
  refine openingOf_touched hopen h.touched fun p hp project => ?_
  rw [h.paths] at hp
  obtain ⟨f, hf, rfl⟩ := List.mem_map.mp hp
  obtain ⟨c, _, hc⟩ := List.mem_flatMap.mp hf
  exact Tree.target_class_ne_project hc t.home project

/-- A plan that is carried out delivers its files. -/
theorem delivered_of_carryOut (hplanned : planned.written = [])
    (h : (carryOut output t (.ok planned)).1 = .ok result) :
    result = planned.noted output ∧
      Delivered output t result (carryOut output t (.ok planned)).2 := by
  obtain ⟨htouched, hend⟩ := carryOut_follows output t planned
  rw [h] at hend
  obtain ⟨rfl, hholds⟩ := hend
  refine ⟨rfl, planned.written_noted hplanned output, hholds, ?_⟩
  rwa [planned.written_noted hplanned output]

end ApexConstants
