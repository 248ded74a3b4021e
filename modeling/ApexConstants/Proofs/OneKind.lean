import ApexConstants.Proofs.ClassPaths
import ApexConstants.Proofs.WorkSteps
import ApexConstants.Proofs.WritePlaces

namespace ApexConstants

def OptionName.leavesKindOut (name : OptionName) : Bool :=
  ValueSetKind.all.any fun kind => kind.ignoreFlag == name

/-- The options with all kinds of value sets left out but one. -/
def Options.only (o : Options) (kind : ValueSetKind) : Options :=
  { o with value := fun name =>
      if name.leavesKindOut && name != kind.ignoreFlag then .bool true else o.value name }

namespace Options
variable (o : Options) (kind : ValueSetKind)

theorem value_only {name : OptionName} (h : name.leavesKindOut = false) :
    (o.only kind).value name = o.value name := by
  simp only [only, h, Bool.false_and, Bool.false_eq_true, if_false]

theorem set_only {name : OptionName} (h : name.leavesKindOut = false) (value : Json) :
    (o.only kind).set name value = (o.set name value).only kind := by
  unfold set only
  congr 1
  funext n
  by_cases hn : n = name
  · simp only [hn, h, if_true, Bool.false_and, Bool.false_eq_true, if_false]
  · simp only [hn, if_false]

theorem isEnabled_only (other : ValueSetKind) :
    other.isEnabled (o.only kind) = (other == kind && other.isEnabled o) := by
  cases other <;> cases kind <;> rfl

theorem isEnabled_set {name : OptionName} (h : name.leavesKindOut = false) (value : Json)
    (other : ValueSetKind) : other.isEnabled (o.set name value) = other.isEnabled o := by
  have hne : other.ignoreFlag ≠ name := by
    rintro rfl
    cases other <;> cases h
  simp only [ValueSetKind.isEnabled, set, hne, if_false]

/-- Leaving kinds out makes no difference to what the project fills in. -/
theorem resolve_only (t : Tree) : (o.only kind).resolve t =
    ⟨(o.resolve t).outcome.map (·.only kind), (o.resolve t).project, (o.resolve t).log⟩ := by
  have hproject : (o.only kind).value .projectDir = o.value .projectDir := o.value_only kind rfl
  have houtput : (o.only kind).value .outputDir = o.value .outputDir := o.value_only kind rfl
  have hversion : (o.only kind).value .sourceApiVersion = o.value .sourceApiVersion :=
    o.value_only kind rfl
  have hset : ∀ folder version : Json,
      ((o.only kind).set .outputDir folder).set .sourceApiVersion version =
        ((o.set .outputDir folder).set .sourceApiVersion version).only kind := by
    intro folder version
    rw [o.set_only kind rfl, (o.set .outputDir folder).set_only kind rfl]
  simp only [resolve, hproject, houtput, hversion, hset]
  cases (pathOf (o.value .projectDir)).bind (Project.at? t) with
  | error fault => rfl
  | ok p =>
    dsimp only
    cases (p.orAnswer (o.value .outputDir) fun q => q.answer t .outputFolder).outcome with
    | error fault => rfl
    | ok folder =>
      dsimp only
      congr 1
      cases (ProjectReply.outcome _ : Except Failure Json) <;> rfl

end Options

namespace Project
variable {p : Project} {t : Tree}

/-- A project stays in its folder, whatever it is asked. -/
theorem folder_ask {α : Type} (question : Json.Members → Except Failure α) :
    (p.ask t question).project.folder = p.folder := by
  unfold ask load
  split
  · rfl
  · split <;> rfl

theorem folder_answer (question : ProjectQuestion) :
    (p.answer t question).project.folder = p.folder := by
  cases question with
  | isProject => rfl
  | configPath => rfl
  | config => exact folder_ask _
  | apiVersion => exact folder_ask _
  | packageFolder => exact folder_ask _
  | outputFolder => exact folder_ask _

theorem folder_orAnswer (given : Json) (question : ProjectQuestion) :
    (p.orAnswer given (·.answer t question)).project.folder = p.folder := by
  unfold orAnswer
  split
  · rfl
  · exact folder_answer question

theorem find_of_isProject (h : p.isProject t = .ok true) :
    ∃ content, t.find p.configPath = .ok (.file content) := by
  unfold isProject Tree.isFile Tree.probe at h
  cases hfind : t.find p.configPath with
  | error fault =>
    rw [hfind] at h
    cases fault <;> cases h
  | ok entry =>
    rw [hfind] at h
    cases entry with
    | file content => exact ⟨content, rfl⟩
    | folder => cases h

/-- The folder that holds a project file is there. -/
theorem isFolder_of_isProject (h : p.isProject t = .ok true) : t.isFolder p.folder = .ok true := by
  obtain ⟨content, hfind⟩ := find_of_isProject h
  obtain ⟨l, hl, _⟩ := Tree.find_eq_ok_iff.mp hfind
  have hpath : p.configPath = ⟨p.folder.anchor, p.folder.names ++ [projectFile]⟩ :=
    p.folder.child_of_name (by decide) (by decide) (by decide)
  rw [hpath] at hl
  obtain ⟨husable, hway, _⟩ := Tree.locate_eq_ok_iff.mp hl
  rw [Path.way_concat] at hway
  refine Tree.isFolder_eq_true_iff.mpr ⟨p.folder.target t.home, ?_, ?_⟩
  · exact Tree.locate_eq_ok_iff.mpr
      ⟨husable.front, fun k hk => hway k (List.mem_append_left _ hk), rfl⟩
  · exact hway _ (p.folder.target_mem_places t.home)

theorem at_ok {folder : Path} (h : at? t folder = .ok p) :
    p.folder = folder ∧ p.isProject t = .ok true := by
  unfold at? at h
  obtain ⟨there, hthere, h⟩ := bind_eq_ok.mp h
  split at h
  · rename_i htrue
    cases h
    exact ⟨rfl, htrue ▸ hthere⟩
  · cases h

end Project

namespace Options
variable {o : Options} {t : Tree}

/-- Options are settled only in a folder that is there, and keep the kinds they ask for. -/
theorem resolve_ok {settled : Options} (h : (o.resolve t).outcome = .ok settled) :
    t.isFolder (o.resolve t).project.folder = .ok true ∧
      ∀ kind : ValueSetKind, kind.isEnabled settled = kind.isEnabled o := by
  unfold resolve at h ⊢
  cases hp : (pathOf (o.value .projectDir)).bind (Project.at? t) with
  | error fault => simp [hp] at h
  | ok p =>
    obtain ⟨folder, _, hat⟩ := bind_eq_ok.mp hp
    obtain ⟨_, hproject⟩ := Project.at_ok hat
    simp only [hp] at h ⊢
    have hfolder := p.folder_orAnswer (t := t) (o.value .outputDir) .outputFolder
    cases hout : (p.orAnswer (o.value .outputDir) (·.answer t .outputFolder)).outcome with
    | error fault => simp [hout] at h
    | ok outputDir =>
      simp only [hout] at h ⊢
      rw [Project.folder_orAnswer, hfolder]
      obtain ⟨version, _, rfl⟩ := map_eq_ok.mp h
      refine ⟨Project.isFolder_of_isProject hproject, fun kind => ?_⟩
      rw [isEnabled_set _ rfl, isEnabled_set _ rfl]

end Options

theorem settleOptions_doneAt (o : Options) (w : Workplace) :
    (settleOptions o).doneAt w =
      ((o.resolve w.tree).outcome.map fun settled => ((o.resolve w.tree).project, settled),
        { w with log := w.log ++ (o.resolve w.tree).log }) := by
  unfold settleOptions
  simp only [Work.doneAt_bind, Work.doneAt_get, Work.doneAt_report, Work.doneAt_ofExcept]
  cases (o.resolve w.tree).outcome <;> rfl

/-- What opening a generation finds out: the folder of the project, the settled options and the
output folder. -/
def openingOf (o : Options) (t : Tree) : Except Failure (Path × Options × Path) := do
  let settled ← (o.resolve t).outcome
  return ((o.resolve t).project.folder, settled, ← pathOf (settled.value .outputDir))

theorem openPicklists_doneAt (o : Options) (w : Workplace) : (openPicklists o).doneAt w =
    (openingOf o w.tree, { w with log := w.log ++ (o.resolve w.tree).log }) := by
  unfold openPicklists openingOf
  simp only [Work.doneAt_bind, settleOptions_doneAt]
  cases (o.resolve w.tree).outcome with
  | error fault => rfl
  | ok settled =>
    simp only [Except.map, Work.doneAt_ofExcept, Bind.bind, Except.bind]
    cases pathOf (settled.value .outputDir) <;> rfl

/-- A generation is opened in the same way when kinds are left out. -/
theorem openingOf_only (o : Options) (kind : ValueSetKind) (t : Tree) :
    openingOf (o.only kind) t = (openingOf o t).map fun (project, settled, output) =>
      (project, settled.only kind, output) := by
  unfold openingOf
  rw [o.resolve_only kind t]
  cases (o.resolve t).outcome with
  | error fault => rfl
  | ok settled =>
    have hoff : (settled.only kind).value .outputDir = settled.value .outputDir :=
      settled.value_only kind rfl
    simp only [Except.map, Bind.bind, Except.bind, hoff]
    cases pathOf (settled.value .outputDir) <;> rfl

theorem openingOf_ok {o settled : Options} {t : Tree} {project output : Path}
    (h : openingOf o t = .ok (project, settled, output)) :
    t.isFolder project = .ok true ∧
      ∀ kind : ValueSetKind, kind.isEnabled settled = kind.isEnabled o := by
  obtain ⟨settled', hsettled, h⟩ := bind_eq_ok.mp h
  obtain ⟨output', _, h⟩ := bind_eq_ok.mp h
  cases h
  exact Options.resolve_ok hsettled

/-- A kind does not look at the options that leave kinds out. -/
theorem generateKind_only (project output : Path) (o : Options) (kind other : ValueSetKind) :
    generateKind project output (o.only kind) other = generateKind project output o other := by
  have hvalue : ∀ name : OptionName, name.leavesKindOut = false →
      (o.only kind).value name = o.value name := fun name => o.value_only kind
  have htext : ∀ name : OptionName, name.leavesKindOut = false →
      (o.only kind).text name = o.text name := by
    intro name hname
    simp only [Options.text, hvalue name hname]
  have haffix : ∀ name : OptionName, name.leavesKindOut = false →
      (o.only kind).affix name = o.affix name := by
    intro name hname
    simp only [Options.affix, hvalue name hname]
  have hgenerator : ValueSetGenerator.ofOptions (o.only kind) other =
      ValueSetGenerator.ofOptions o other := by
    cases other <;>
      simp only [ValueSetGenerator.ofOptions, ValueSetKind.affixes, hvalue .sourceApiVersion rfl,
        htext .picklistInfix rfl, haffix .picklistPrefix rfl, haffix .picklistSuffix rfl,
        haffix .standardValueSetPrefix rfl, haffix .standardValueSetSuffix rfl,
        haffix .globalValueSetPrefix rfl, haffix .globalValueSetSuffix rfl]
  simp only [generateKind, finishKind, includedRecords, ValueSetGenerator.forSets, hgenerator,
    hvalue .included rfl]

end ApexConstants
