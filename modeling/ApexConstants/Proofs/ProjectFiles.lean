import ApexConstants.Proofs.ReportedFaults

namespace ApexConstants

namespace Project
variable {p : Project} {t : Tree} {members : Json.Members} {content : ByteArray}

def object? (p : Project) (t : Tree) : Option (Json.Members) :=
  match t.read p.configPath with
  | .ok content => jsonMembers? content
  | .error _ => none

/-- The project file can be asked for, and what it holds does not go beyond what is taken as JSON.
-/
structure WithinBounds (p : Project) (t : Tree) : Prop where
  path : ∃ there, p.isProject t = .ok there
  content : ∀ content, t.read p.configPath = .ok content → jsonOverrun content = none

theorem isProject_of_read (h : t.read p.configPath = .ok content) : p.isProject t = .ok true := by
  rw [isProject, Tree.isFile, Tree.probe, find_of_read h]
  rfl

theorem isProject_eq_true_iff :
    p.isProject t = .ok true ↔ ∃ content, t.read p.configPath = .ok content := by
  constructor
  · intro h
    obtain ⟨content, hfind⟩ := find_of_isProject h
    exact ⟨content, by rw [Tree.read, hfind]; rfl⟩
  · intro h
    obtain ⟨content, hread⟩ := h
    exact isProject_of_read hread

theorem isProject_of_object (h : p.object? t = some members) : p.isProject t = .ok true := by
  unfold object? at h
  cases hread : t.read p.configPath with
  | error fault => simp [hread] at h
  | ok content => exact isProject_of_read hread

theorem isProject_ne_config (cause : ConfigFault) : p.isProject t ≠ .error (.config cause) := by
  unfold isProject
  cases t.isFile p.configPath <;> simp [Except.mapError]

theorem readConfig_of_object (h : p.object? t = some members) :
    p.readConfig t = (.ok members, []) := by
  have hproject := isProject_of_object h
  unfold object? at h
  cases hread : t.read p.configPath with
  | error fault => simp [hread] at h
  | ok content =>
    simp only [hread, jsonMembers?] at h
    cases htext : String.fromUTF8? content with
    | none => simp [htext] at h
    | some text =>
      cases hjson : Json.read text with
      | error fault => simp [htext, hjson] at h
      | ok value =>
        cases value <;> simp [htext, hjson] at h
        subst h
        simp [readConfig, hproject, hread, htext, hjson]

/-- What cannot be taken as JSON holds no object. -/
theorem object?_of_overrun {fault : ValueFault} (hread : t.read p.configPath = .ok content)
    (h : jsonOverrun content = some fault) : p.object? t = none := by
  unfold jsonOverrun at h
  simp only [object?, hread, jsonMembers?]
  cases htext : String.fromUTF8? content with
  | none => rfl
  | some text =>
    cases hjson : Json.read text with
    | error fault => simp [hjson]
    | ok value => simp [htext, hjson] at h

/-- Where there is no object, the configuration is blamed within bounds and not beyond them. -/
theorem readConfig_of_none (h : p.object? t = none) :
    ∃ fault log, p.readConfig t = (.error fault, log) ∧
      ((∃ cause, fault = .config cause) ↔ p.WithinBounds t) := by
  cases hproject : p.isProject t with
  | error fault =>
    refine ⟨fault, [], by simp [readConfig, hproject], ?_⟩
    constructor
    · intro hconfig
      obtain ⟨cause, rfl⟩ := hconfig
      exact absurd hproject (isProject_ne_config cause)
    · intro hbounds
      obtain ⟨there, hthere⟩ := hbounds.path
      rw [hproject] at hthere
      cases hthere
  | ok there =>
    cases there with
    | false =>
      have hbounds : p.WithinBounds t := by
        refine ⟨⟨false, hproject⟩, fun content hread => ?_⟩
        rw [isProject_of_read hread] at hproject
        cases hproject
      exact ⟨.config (.notProject p.folder), [], by simp [readConfig, hproject],
        iff_of_true ⟨_, rfl⟩ hbounds⟩
    | true =>
      obtain ⟨content, hread⟩ := isProject_eq_true_iff.mp hproject
      have hnone : jsonMembers? content = none := by simpa [object?, hread] using h
      have hbounds : p.WithinBounds t ↔ jsonOverrun content = none := by
        constructor
        · intro hwithin
          exact hwithin.content content hread
        · intro hfits
          refine ⟨⟨true, hproject⟩, fun other hother => ?_⟩
          cases hread.symm.trans hother
          exact hfits
      rw [hbounds]
      cases hconfig : p.readConfig t with
      | mk outcome log =>
        have hreads := load_reads (p := { p with config := none }) rfl hread
        have houtcome : (({ p with config := none } : Project).load t).outcome = outcome := by
          have hsame : Project.readConfig ⟨p.folder, none⟩ t = (outcome, log) := hconfig
          unfold load
          simp only [hsame]
          cases outcome <;> rfl
        rw [houtcome] at hreads
        cases hreads with
        | members hfits hsome => simp [hnone] at hsome
        | noObject hfits _ cause => exact ⟨_, log, rfl, iff_of_true ⟨cause, rfl⟩ hfits⟩
        | overrun hover => exact ⟨_, log, rfl, by simp [hover]⟩

/-- A project that holds an object looks at no file. -/
theorem ask_of_kept {α : Type} (h : p.config = some members)
    (question : Json.Members → Except Failure α) :
    p.ask t question = ⟨question members, p, []⟩ := by
  simp [ask, load, h, Except.bind]

/-- The object in the project file is kept, whatever becomes of the question. -/
theorem ask_of_object {α : Type} (hfresh : p.config = none) (h : p.object? t = some members)
    (question : Json.Members → Except Failure α) :
    p.ask t question = ⟨question members, { p with config := some members }, []⟩ := by
  simp [ask, load, hfresh, readConfig_of_object h, Except.bind]

theorem ask_of_none {α : Type} (hfresh : p.config = none) (h : p.object? t = none)
    (question : Json.Members → Except Failure α) :
    ∃ fault log, p.ask t question = ⟨.error fault, p, log⟩ ∧
      ((∃ cause, fault = .config cause) ↔ p.WithinBounds t) := by
  obtain ⟨fault, log, hread, hblames⟩ := readConfig_of_none h
  exact ⟨fault, log, by simp [ask, load, hfresh, hread, Except.bind], hblames⟩

end Project

/-- A question that is answered from the object in the project file. -/
inductive ConfigQuestion
  | config
  | apiVersion
  | packageFolder
  | outputFolder

namespace ConfigQuestion

def question : ConfigQuestion → ProjectQuestion
  | config => .config
  | apiVersion => .apiVersion
  | packageFolder => .packageFolder
  | outputFolder => .outputFolder

def answerIn (folder : Path) (config : Json.Members) : ConfigQuestion → Except Failure Json
  | .config => .ok (.obj config)
  | apiVersion => (Project.apiVersionIn { folder } config).map .str
  | packageFolder => Project.packageFolderIn { folder } config
  | outputFolder => (Project.outputFolderIn { folder } config).map fun path => .str path.text

end ConfigQuestion

namespace Project

theorem answer_eq (p : Project) (t : Tree) (q : ConfigQuestion) :
    p.answer t q.question = p.ask t (fun config => q.answerIn p.folder config) := by
  cases q <;> rfl

end Project

end ApexConstants
