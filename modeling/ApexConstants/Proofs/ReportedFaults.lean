import ApexConstants.CommandLine.Run
import ApexConstants.Proofs.DeclaredEncodings
import ApexConstants.Proofs.OneKind
import ApexConstants.Proofs.OverridePrecedence
import ApexConstants.Proofs.ParsedOverrides

namespace ApexConstants

/-- Why content cannot be taken as JSON although it need not be a text without JSON. -/
def jsonOverrun (content : ByteArray) : Option ValueFault :=
  match String.fromUTF8? content with
  | none => some .undecodable
  | some text =>
    match Json.read text with
    | .error fault => ValueFault.ofJson? fault
    | .ok _ => none

/-- The members of the object that content holds. -/
def jsonMembers? (content : ByteArray) : Option (Json.Members) :=
  match String.fromUTF8? content with
  | none => none
  | some text =>
    match Json.read text with
    | .ok (.obj members) => some members
    | _ => none

inductive ReadsObject (content : ByteArray) : Except Failure (Json.Members) → Prop
  | members {members : Json.Members} (hread : jsonOverrun content = none)
      (h : jsonMembers? content = some members) : ReadsObject content (.ok members)
  | noObject (hread : jsonOverrun content = none) (h : jsonMembers? content = none)
      (fault : ConfigFault) : ReadsObject content (.error (.config fault))
  | overrun {fault : ValueFault} (h : jsonOverrun content = some fault) :
      ReadsObject content (.error (.value fault))

def objectIn (content : ByteArray) (broken notObject : ConfigFault) :
    Except Failure (Json.Members) :=
  match String.fromUTF8? content with
  | none => .error (.value .undecodable)
  | some text =>
    match Json.read text with
    | .error fault => .error (((ValueFault.ofJson? fault).map .value).getD (.config broken))
    | .ok (.obj members) => .ok members
    | .ok _ => .error (.config notObject)

theorem objectIn_reads (content : ByteArray) (broken notObject : ConfigFault) :
    ReadsObject content (objectIn content broken notObject) := by
  unfold objectIn
  cases htext : String.fromUTF8? content with
  | none => exact .overrun (by simp [jsonOverrun, htext])
  | some text =>
    dsimp only
    cases hjson : Json.read text with
    | error fault =>
      have hread : jsonOverrun content = ValueFault.ofJson? fault := by
        simp [jsonOverrun, htext, hjson]
      have hnone : jsonMembers? content = none := by simp [jsonMembers?, htext, hjson]
      dsimp only
      cases hfault : ValueFault.ofJson? fault with
      | none => exact .noObject (hread.trans hfault) hnone broken
      | some fault => exact .overrun (hread.trans hfault)
    | ok value =>
      have hread : jsonOverrun content = none := by simp [jsonOverrun, htext, hjson]
      cases value
      case obj members => exact .members hread (by simp [jsonMembers?, htext, hjson])
      all_goals exact .noObject hread (by simp [jsonMembers?, htext, hjson]) notObject

/-- Every failure is one of the configuration. -/
def BlamesConfig {α : Type} (outcome : Except Failure α) : Prop :=
  ∀ fault, outcome = .error fault → ∃ cause, fault = .config cause

theorem blamesConfig_ok {α : Type} (a : α) : BlamesConfig (.ok a) := by
  intro fault h
  cases h

theorem blamesConfig_error_iff {α : Type} {fault : Failure} :
    BlamesConfig (.error fault : Except Failure α) ↔ ∃ cause, fault = .config cause := by
  constructor
  · intro h
    exact h fault rfl
  · intro h found hfound
    cases hfound
    exact h

theorem blamesConfig_config {α : Type} (cause : ConfigFault) :
    BlamesConfig (.error (.config cause) : Except Failure α) :=
  blamesConfig_error_iff.mpr ⟨cause, rfl⟩

theorem not_blamesConfig_value {α : Type} (fault : ValueFault) :
    ¬ BlamesConfig (.error (.value fault) : Except Failure α) := by
  rw [blamesConfig_error_iff]
  intro h
  obtain ⟨cause, hcause⟩ := h
  cases hcause

section
variable {t : Tree} {content : ByteArray}

theorem find_of_read {p : Path} (h : t.read p = .ok content) : t.find p = .ok (.file content) := by
  obtain ⟨entry, hfind, hcontent⟩ := bind_eq_ok.mp h
  cases entry with
  | folder => cases hcontent
  | file c =>
    cases hcontent
    exact hfind

theorem Tree.readConfig_eq {file : Path} (hextension : Text.lower file.extension = ".json")
    (hread : t.read file = .ok content) :
    t.readConfig file = objectIn content (.invalidJson file) (.notObject file) := by
  have hexists : t.exists? file = .ok true := by
    rw [Tree.exists?, Tree.probe, find_of_read hread]
    rfl
  have hends : (".json" != ".json") = false := by decide
  unfold Tree.readConfig
  rw [hexists, hextension, hread, hends]
  rfl

theorem Project.load_reads {p : Project} (hfresh : p.config = none)
    (hread : t.read p.configPath = .ok content) : ReadsObject content (p.load t).outcome := by
  have hproject : p.isProject t = .ok true := by
    rw [Project.isProject, Tree.isFile, Tree.probe, find_of_read hread]
    rfl
  have hconfig : (p.load t).outcome =
      objectIn content (.brokenProject p.configPath) (.brokenProject p.configPath) := by
    unfold Project.load Project.readConfig objectIn
    simp only [hfresh, hproject, hread]
    cases String.fromUTF8? content with
    | none => rfl
    | some text =>
      dsimp only
      rcases Json.read text with fault | value
      · cases fault <;> rfl
      · cases value <;> rfl
  rw [hconfig]
  exact objectIn_reads ..

end

theorem loadOptions_eq (t : Tree) (kind : GenerationKind) (file : Path)
    (overrides : Json.Members) : loadOptions t kind.text (some file) overrides =
      (t.readConfig file).bind fun members =>
        ((optionsFor kind members).mapError Failure.config).bind fun fromFile =>
          optionsOf kind (Json.insertAll fromFile (givenOverrides overrides)) := by
  unfold loadOptions
  rw [GenerationKind.ofText?_text]
  rfl

theorem mem_of_mem_insertOption {name n : OptionName} {value v : Json}
    {given : List (OptionName × Json)} (h : (n, v) ∈ insertOption name value given) :
    v = value ∨ (n, v) ∈ given := by
  induction given with
  | nil =>
    cases List.mem_singleton.mp h
    exact .inl rfl
  | cons g rest ih =>
    obtain ⟨m, w⟩ := g
    unfold insertOption at h
    split at h
    · rcases List.mem_cons.mp h with hnew | hold
      · cases hnew
        exact .inl rfl
      · exact .inr (List.mem_cons_of_mem _ hold)
    · rcases List.mem_cons.mp h with hfirst | hrest
      · exact .inr (hfirst ▸ List.mem_cons_self)
      · exact (ih hrest).imp_right (List.mem_cons_of_mem _)

/-- The value that an option is given stands in one of the members. -/
theorem mem_of_assign {kind : GenerationKind} {members : Json.Members} {o : OptionName} {v : Json}
    (h : (o, v) ∈ (assign kind members).1) : ∃ key, (key, v) ∈ members := by
  induction members using List.reverseRecOn with
  | nil => cases h
  | append_singleton members m ih =>
    obtain ⟨key, value⟩ := m
    rw [assign_concat] at h
    have hbefore : (o, v) ∈ (assign kind members).1 → ∃ key', (key', v) ∈ members ++ [(key, value)] := by
      intro hmem
      obtain ⟨other, hother⟩ := ih hmem
      exact ⟨other, List.mem_append_left _ hother⟩
    split at h
    · rcases mem_of_mem_insertOption h with rfl | hold
      · exact ⟨key, by simp⟩
      · exact hbefore hold
    · exact hbefore h

theorem blamesConfig_optionsOf {kind : GenerationKind} {members : Json.Members}
    (h : Json.Presentable members) : BlamesConfig (optionsOf kind members) := by
  have htexts : ¬ (members.any fun m => m.1.isForeign) = true := by
    intro hany
    obtain ⟨m, hm, hforeign⟩ := List.any_eq_true.mp hany
    rw [(h m hm).1] at hforeign
    cases hforeign
  unfold optionsOf
  rw [if_neg htexts]
  dsimp only
  split
  · exact blamesConfig_config _
  · split
    · rename_i o v hflag
      obtain ⟨key, hmem⟩ := mem_of_assign (List.mem_of_find?_eq_some hflag)
      have hprints : v.printFault? = none := (h _ hmem).2
      rw [notFlag, hprints]
      exact blamesConfig_config _
    · exact blamesConfig_ok _

namespace Project

variable {t : Tree} {p : Project} {content : ByteArray}

end Project

namespace CommandLine

variable {words : List String} {parsed : Parsed} {kind : GenerationKind} {w : Workplace}
  {fault : Failure}

/-- A failure ends the run with its words on the console, or goes through when it has none to be
reported, or none that can be printed. -/
theorem run_of_failure (hparse : parse words = .ok parsed) (hkind : parsed.operation = some kind)
    (hfails : ((generateFromConfig kind.text parsed.config parsed.overrides).doneAt w).1 =
      .error fault) :
    ((run words).doneAt w).1 = if fault.isReported then
        ((failureReport fault).mapError Failure.value).map (Ending.printed 1)
      else .error fault := by
  rcases hwork : (generateFromConfig kind.text parsed.config parsed.overrides).doneAt w with
    ⟨outcome, after⟩
  rw [hwork] at hfails
  subst hfails
  have hattempt := Work.doneAt_attempt
    (generateFromConfig kind.text parsed.config parsed.overrides) w
  rw [hwork] at hattempt
  unfold run
  rw [hparse]
  dsimp only
  rw [hkind]
  dsimp only
  rw [Work.doneAt_bind, hattempt]
  dsimp only
  split
  · rw [Work.doneAt_bind, Work.doneAt_ofExcept]
    cases failureReport fault <;> rfl
  · rfl

end CommandLine

end ApexConstants
