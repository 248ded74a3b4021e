import ApexConstants.Metadata
import ApexConstants.Proofs.Outcomes
import Mathlib.Data.List.Forall2

namespace ApexConstants

section
variable {α : Type} {mark : List Char} {read : List Char → Option α}

/-- Within a line what comes later is preferred to what is found here. -/
theorem behindLast_cons {c : Char} (hc : c ≠ '\n') (cs : List Char) :
    behindLast mark read (c :: cs) =
      (behindLast mark read cs).or ((after? mark (c :: cs)).bind read) := by
  have hline : (c == '\n') = false := beq_eq_false_iff_ne.mpr hc
  rw [behindLast, hline, if_neg Bool.false_ne_true]
  cases behindLast mark read cs <;> rfl

/-- Text in front is passed over where something is found behind it. -/
theorem behindLast_append {front cs : List Char} {found : α} (hfront : '\n' ∉ front)
    (h : behindLast mark read cs = some found) :
    behindLast mark read (front ++ cs) = some found := by
  induction front with
  | nil => exact h
  | cons c front ih =>
    obtain ⟨hc, hrest⟩ := not_or.mp (mt List.mem_cons.mpr hfront)
    rw [List.cons_append, behindLast_cons (Ne.symm hc), ih hrest, Option.some_or]

/-- A mark at the start counts where none behind it does. -/
theorem behindLast_isSome {cs rest : List Char} (hmark : after? mark cs = some rest)
    (hread : (read rest).isSome) : (behindLast mark read cs).isSome := by
  cases cs with
  | nil => simpa [behindLast, hmark] using hread
  | cons c cs =>
    rw [behindLast]
    split
    · rfl
    · simpa [hmark] using hread

theorem after?_append (mark rest : List Char) : after? mark (mark ++ rest) = some rest := by
  simp [after?]

theorem upToStop_cons {stop : List Char → Bool} {c : Char} {cs : List Char} (hc : c ≠ '\n')
    (hstop : stop (c :: cs) = false) :
    upToStop stop (c :: cs) = (upToStop stop cs).map (c :: ·) := by
  have hline : (c == '\n') = false := beq_eq_false_iff_ne.mpr hc
  rw [upToStop, hstop, hline, if_neg Bool.false_ne_true, if_neg Bool.false_ne_true]

theorem upToStop_isSome {stop : List Char → Bool} {front rest : List Char} (hfront : '\n' ∉ front)
    (hrest : stop rest = true) : (upToStop stop (front ++ rest)).isSome := by
  induction front with
  | nil => cases rest <;> simp [upToStop, hrest]
  | cons c front ih =>
    obtain ⟨hc, hmore⟩ := not_or.mp (mt List.mem_cons.mpr hfront)
    rw [List.cons_append]
    cases hstop : stop (c :: (front ++ rest)) with
    | true => simp [upToStop, hstop]
    | false =>
      rw [upToStop_cons (Ne.symm hc) hstop, Option.isSome_map]
      exact ih hmore

end

namespace Path

/-- The path of a file inside a project, seen from the project's root. -/
def Inside (p : Path) : Prop := p.anchor = .here ∧ p.names ≠ []

structure InLine (p : Path) : Prop where
  text : '\n' ∉ p.text.toList
  names : ∀ name ∈ p.names, namesOf name = [name]

instance (p : Path) : Decidable p.Inside := inferInstanceAs (Decidable (_ ∧ _))

instance (p : Path) : Decidable p.InLine :=
  decidable_of_iff (_ ∧ _) ⟨fun h => ⟨h.1, h.2⟩, fun h => ⟨h.text, h.names⟩⟩

def lead (root : Path) : String :=
  if root.names.isEmpty then root.anchor.text else root.text ++ "/"

theorem text_join {p : Path} (h : p.Inside) (root : Path) :
    (root.join p).text = root.lead ++ p.text := by
  obtain ⟨anchor, names⟩ := p
  obtain ⟨rfl, hnames⟩ := h
  have htext : Path.text ⟨.here, names⟩ = String.intercalate "/" names := by
    simp [text, hnames, Anchor.text]
  have hjoin : root.join ⟨.here, names⟩ = ⟨root.anchor, root.names ++ names⟩ := rfl
  rw [htext, hjoin, lead]
  cases hroot : root.names with
  | nil => simp [text, hnames]
  | cons name rest =>
    have hwhole : String.intercalate "/" (name :: rest ++ names) =
        String.intercalate "/" (name :: rest) ++ "/" ++ String.intercalate "/" names :=
      String.intercalate_append_of_ne_nil (by simp) hnames
    rw [List.cons_append] at hwhole
    simp [text, hroot, hwhole, String.append_assoc]

theorem InLine.lead {root : Path} (h : root.InLine) : '\n' ∉ root.lead.toList := by
  unfold Path.lead
  split
  · cases root.anchor <;> decide
  · rw [String.toList_append, List.mem_append, not_or]
    exact ⟨h.text, by decide⟩

end Path

def nameBehind? (mark : List Char) (read : List Char → Option (List Char)) (p : Path) :
    Option String :=
  (behindLast mark read p.text.toList).map String.ofList

theorem objectName?_eq : objectName? = nameBehind? "/objects/".toList (upToStop isSlash) := rfl

theorem metadataName?_eq (folder ending : String) : metadataName? folder ending =
    nameBehind? ('/' :: folder.toList ++ ['/']) (upToStop (isEnding ending.toList)) := rfl

section
variable {mark : List Char} {read : List Char → Option (List Char)} {p : Path}

/-- A name that a path shows by itself is found under every root. -/
theorem nameBehind?_join (hp : p.Inside) {name : String} (h : nameBehind? mark read p = some name)
    {root : Path} (hroot : root.InLine) : nameBehind? mark read (root.join p) = some name := by
  obtain ⟨cs, hcs, rfl⟩ := Option.map_eq_some_iff.mp h
  rw [nameBehind?, Path.text_join hp, String.toList_append, behindLast_append hroot.lead hcs]
  rfl

/-- A root in front of which a name stands open brings one in. -/
theorem nameBehind?_lead (hp : p.Inside) {root : Path} {rest : List Char}
    (hlead : root.lead.toList = mark ++ rest) (hread : (read (rest ++ p.text.toList)).isSome) :
    (nameBehind? mark read (root.join p)).isSome := by
  have hmark : after? mark (root.join p).text.toList = some (rest ++ p.text.toList) := by
    rw [Path.text_join hp, String.toList_append, hlead, List.append_assoc, after?_append]
  simpa [nameBehind?] using behindLast_isSome hmark hread

/-- Whether a path gets the same name under all roots. -/
def SameFromRoots (name : Path → Option String) (p : Path) : Prop :=
  ∀ r₁ r₂ : Path, r₁.InLine → r₂.InLine → name (r₁.join p) = name (r₂.join p)

/-- Names from all roots agree when the path shows one by itself, or when no root brings one in. -/
theorem nameBehind?_roots (hp : p.Inside) :
    SameFromRoots (nameBehind? mark read) p ↔
    (nameBehind? mark read p).isSome ∨
      ∀ root : Path, root.InLine → nameBehind? mark read (root.join p) = none := by
  have hhere : Path.here.join p = p := by
    obtain ⟨anchor, names⟩ := p
    obtain ⟨rfl, -⟩ := hp
    rfl
  constructor
  · intro h
    cases hname : nameBehind? mark read p with
    | some name => exact .inl rfl
    | none =>
      refine .inr fun root hroot => ?_
      rw [h root Path.here hroot (by decide), hhere, hname]
  · rintro (hsome | hnone) r₁ r₂ h₁ h₂
    · obtain ⟨name, hname⟩ := Option.isSome_iff_exists.mp hsome
      rw [nameBehind?_join hp hname h₁, nameBehind?_join hp hname h₂]
    · rw [hnone r₁ h₁, hnone r₂ h₂]

end

/-- Every path that shows no object is given one by some root. -/
theorem objectName?_roots {p : Path} (hp : p.Inside) :
    SameFromRoots objectName? p ↔ (objectName? p).isSome := by
  have hlead : (Path.lead ⟨.root, ["objects", "Account"]⟩).toList =
      "/objects/".toList ++ "Account/".toList := by decide
  have hread : (upToStop isSlash ("Account/".toList ++ p.text.toList)).isSome := by
    have hslash : isSlash ('/' :: p.text.toList) = true := rfl
    have hname : '\n' ∉ "Account".toList := by decide
    have hsplit : "Account/".toList ++ p.text.toList =
        "Account".toList ++ '/' :: p.text.toList := rfl
    rw [hsplit]
    exact upToStop_isSome hname hslash
  have hbrought : (objectName? (Path.join ⟨.root, ["objects", "Account"]⟩ p)).isSome :=
    nameBehind?_lead hp hlead hread
  rw [objectName?_eq, nameBehind?_roots hp, ← objectName?_eq]
  refine ⟨fun h => h.elim id fun hnone => ?_, .inl⟩
  rw [hnone _ (by decide)] at hbrought
  cases hbrought

/-- A file with the ending that is looked for is given a name by some root, whatever folder it is
looked for in. -/
theorem metadataName?_roots {folder ending : String} (hfolder : Path.namesOf folder = [folder])
    (hline : '\n' ∉ folder.toList) {p : Path} (hp : p.Inside) {front : String}
    (hfront : '\n' ∉ front.toList) (hending : p.text = front ++ ending) :
    SameFromRoots (metadataName? folder ending) p ↔ (metadataName? folder ending p).isSome := by
  have hroot : Path.InLine ⟨.root, [folder]⟩ := by
    refine ⟨?_, by simpa using hfolder⟩
    simp [Path.text, Anchor.text, hline]
  have hlead : (Path.lead ⟨.root, [folder]⟩).toList = ('/' :: folder.toList ++ ['/']) ++ [] := by
    simp [Path.lead, Path.text, Anchor.text, String.toList_append]
  have hread : (upToStop (isEnding ending.toList) ([] ++ p.text.toList)).isSome := by
    have hstop : isEnding ending.toList ending.toList = true := by
      have hafter := after?_append ending.toList []
      rw [List.append_nil] at hafter
      simp [isEnding, hafter]
    rw [List.nil_append, hending, String.toList_append]
    exact upToStop_isSome hfront hstop
  have hbrought : (metadataName? folder ending (Path.join ⟨.root, [folder]⟩ p)).isSome :=
    nameBehind?_lead hp hlead hread
  rw [metadataName?_eq, nameBehind?_roots hp, ← metadataName?_eq]
  refine ⟨fun h => h.elim id fun hnone => ?_, .inl⟩
  rw [hnone _ hroot] at hbrought
  cases hbrought

/-- Two outcomes for one project: values that are the same, or a name that the same file lacks. -/
inductive Alike {α : Type} (same : α → α → Prop) (r₁ r₂ : Path) :
    Except Failure α → Except Failure α → Prop
  | ok {x y : α} (h : same x y) : Alike same r₁ r₂ (.ok x) (.ok y)
  | missing (subject : NameSubject) (p : Path) :
      Alike same r₁ r₂ (.error (.name (.unparseable subject (r₁.join p))))
        (.error (.name (.unparseable subject (r₂.join p))))

/-- The same but for where it was read from. -/
def ValueSet.Same (x y : ValueSet) : Prop := { x with source := none } = { y with source := none }

def RecordType.Same (x y : RecordType) : Prop :=
  { x with source := none } = { y with source := none }

section
variable {α β : Type} {same : α → α → Prop} {same' : β → β → Prop} {r₁ r₂ : Path}

theorem Alike.bind {x y : Except Failure α} {f g : α → Except Failure β}
    (h : Alike same r₁ r₂ x y) (hstep : ∀ a b, same a b → Alike same' r₁ r₂ (f a) (g b)) :
    Alike same' r₁ r₂ (x >>= f) (y >>= g) := by
  cases h with
  | ok hsame => exact hstep _ _ hsame
  | missing subject p => exact .missing subject p

theorem required_alike {subject : NameSubject} {p : Path} {name₁ name₂ : Option String}
    (hname : name₁ = name₂) :
    Alike (· = ·) r₁ r₂ (required subject (r₁.join p) name₁)
      (required subject (r₂.join p) name₂) := by
  subst hname
  unfold required
  dsimp only
  split
  · exact .missing subject p
  · exact .ok rfl

theorem mapM_alike {γ : Type} {f g : γ → Except Failure α} {files : List γ}
    (h : ∀ file ∈ files, Alike same r₁ r₂ (f file) (g file)) :
    Alike (List.Forall₂ same) r₁ r₂ (files.mapM f) (files.mapM g) := by
  induction files with
  | nil => exact .ok .nil
  | cons file files ih =>
    have hrest := ih fun other hother => h other (List.mem_cons_of_mem file hother)
    rw [List.mapM_cons, List.mapM_cons]
    apply (h file List.mem_cons_self).bind
    intro a b hab
    apply hrest.bind
    intro as bs hall
    exact .ok (.cons hab hall)

end

def pathsUnder (root : Path) (files : List (Path × Xml.Element)) : List Path :=
  files.map fun file => root.join file.1

/-- The reader gives each file its content under a root. -/
def Reads (reader : MetadataReader) (root : Path) (files : List (Path × Xml.Element)) : Prop :=
  ∀ file ∈ files, reader (root.join file.1) = .ok file.2

theorem readAll_pathsUnder {reader : MetadataReader} {root : Path}
    {files : List (Path × Xml.Element)} (h : Reads reader root files) :
    readAll reader (pathsUnder root files) =
      .ok (files.map fun file => (root.join file.1, file.2)) := by
  rw [readAll, pathsUnder, List.mapM_map]
  apply mapM_eq_ok
  intro file hfile
  simp only [Function.comp_apply, h file hfile]
  rfl

section
variable {r₁ r₂ : Path} {reader₁ reader₂ : MetadataReader} {files : List (Path × Xml.Element)}

theorem records_alike {α : Type} {same : α → α → Prop}
    {record : Path → Xml.Element → Except Failure α}
    (h₁ : Reads reader₁ r₁ files) (h₂ : Reads reader₂ r₂ files)
    (hrecord : ∀ file ∈ files, Alike same r₁ r₂ (record (r₁.join file.1) file.2)
      (record (r₂.join file.1) file.2)) :
    Alike (List.Forall₂ same) r₁ r₂
      (readAll reader₁ (pathsUnder r₁ files) >>= fun pairs => pairs.mapM fun (p, e) => record p e)
      (readAll reader₂ (pathsUnder r₂ files) >>= fun pairs =>
        pairs.mapM fun (p, e) => record p e) := by
  rw [readAll_pathsUnder h₁, readAll_pathsUnder h₂]
  change Alike _ r₁ r₂ (List.mapM _ (files.map _)) (List.mapM _ (files.map _))
  rw [List.mapM_map, List.mapM_map]
  exact mapM_alike hrecord

theorem customFieldRecord_alike {p : Path}
    (hname : objectName? (r₁.join p) = objectName? (r₂.join p)) (e : Xml.Element) :
    Alike (Option.Rel ValueSet.Same) r₁ r₂ (customFieldRecord (r₁.join p) e)
      (customFieldRecord (r₂.join p) e) := by
  unfold customFieldRecord
  split
  · exact .ok .none
  · apply (required_alike hname).bind
    rintro owner _ rfl
    exact .ok (.some rfl)

theorem recordTypeRecord_alike {p : Path}
    (hname : objectName? (r₁.join p) = objectName? (r₂.join p)) (e : Xml.Element) :
    Alike RecordType.Same r₁ r₂ (recordTypeRecord (r₁.join p) e)
      (recordTypeRecord (r₂.join p) e) := by
  apply (required_alike hname).bind
  rintro owner _ rfl
  exact .ok rfl

theorem setRecord_alike {form : SetForm} {p : Path}
    (hname : metadataName? form.folder form.ending (r₁.join p) =
      metadataName? form.folder form.ending (r₂.join p)) (e : Xml.Element) :
    Alike ValueSet.Same r₁ r₂ (setRecord form (r₁.join p) e) (setRecord form (r₂.join p) e) := by
  apply (required_alike hname).bind
  rintro owner _ rfl
  exact .ok rfl

theorem valueSets_alike {form : SetForm} (h₁ : Reads reader₁ r₁ files) (h₂ : Reads reader₂ r₂ files)
    (hnames : ∀ file ∈ files, metadataName? form.folder form.ending (r₁.join file.1) =
      metadataName? form.folder form.ending (r₂.join file.1)) :
    Alike (List.Forall₂ ValueSet.Same) r₁ r₂ (loadValueSets form reader₁ (pathsUnder r₁ files))
      (loadValueSets form reader₂ (pathsUnder r₂ files)) :=
  records_alike h₁ h₂ fun file hfile => setRecord_alike (hnames file hfile) file.2

theorem customFields_alike (h₁ : Reads reader₁ r₁ files) (h₂ : Reads reader₂ r₂ files)
    (hnames : ∀ file ∈ files, objectName? (r₁.join file.1) = objectName? (r₂.join file.1)) :
    Alike (List.Forall₂ ValueSet.Same) r₁ r₂ (loadCustomFields reader₁ (pathsUnder r₁ files))
      (loadCustomFields reader₂ (pathsUnder r₂ files)) := by
  have hrecords := records_alike h₁ h₂ fun file hfile =>
    customFieldRecord_alike (hnames file hfile) file.2
  have hassoc : ∀ reader paths, loadCustomFields reader paths =
      (readAll reader paths >>= fun pairs => pairs.mapM fun (p, e) => customFieldRecord p e) >>=
        fun records => .ok (records.filterMap id) := by
    intro reader paths
    unfold loadCustomFields
    cases readAll reader paths <;> rfl
  rw [hassoc, hassoc]
  apply hrecords.bind
  intro xs ys hall
  exact .ok (List.rel_filterMap (fun _ _ h => h) hall)

end

/-- The files of one project, read the same from two roots. -/
structure SameProject (r₁ r₂ : Path) (reader₁ reader₂ : MetadataReader)
    (files : List (Path × Xml.Element)) : Prop where
  inside : ∀ file ∈ files, file.1.Inside
  first : Reads reader₁ r₁ files
  second : Reads reader₂ r₂ files

/-- Names, and with them the records, are the same from all roots for the paths that show their
names by themselves; any other path some root gives a name of its own, unless none can. -/
theorem names_from_roots {p : Path} (hp : p.Inside) :
    (SameFromRoots objectName? p ↔ (objectName? p).isSome) ∧
    (∀ folder ending : String, SameFromRoots (metadataName? folder ending) p ↔
      (metadataName? folder ending p).isSome ∨
        ∀ root : Path, root.InLine → metadataName? folder ending (root.join p) = none) ∧
    (∀ folder ending front : String, Path.namesOf folder = [folder] → '\n' ∉ folder.toList →
      '\n' ∉ front.toList → p.text = front ++ ending →
      (SameFromRoots (metadataName? folder ending) p ↔ (metadataName? folder ending p).isSome)) ∧
    ∀ (r₁ r₂ : Path) (reader₁ reader₂ : MetadataReader) (files : List (Path × Xml.Element)),
      r₁.InLine → r₂.InLine → SameProject r₁ r₂ reader₁ reader₂ files →
      ((∀ file ∈ files, (objectName? file.1).isSome) →
        Alike (List.Forall₂ ValueSet.Same) r₁ r₂ (loadCustomFields reader₁ (pathsUnder r₁ files))
          (loadCustomFields reader₂ (pathsUnder r₂ files)) ∧
        Alike (List.Forall₂ RecordType.Same) r₁ r₂ (loadRecordTypes reader₁ (pathsUnder r₁ files))
          (loadRecordTypes reader₂ (pathsUnder r₂ files))) ∧
      ((∀ file ∈ files, (metadataName? "standardValueSets" MetadataKind.standardValueSet.ending
          file.1).isSome) →
        Alike (List.Forall₂ ValueSet.Same) r₁ r₂
          (loadStandardValueSets reader₁ (pathsUnder r₁ files))
          (loadStandardValueSets reader₂ (pathsUnder r₂ files))) ∧
      ((∀ file ∈ files, (metadataName? "globalValueSets" MetadataKind.globalValueSet.ending
          file.1).isSome) →
        Alike (List.Forall₂ ValueSet.Same) r₁ r₂ (loadGlobalValueSets reader₁ (pathsUnder r₁ files))
          (loadGlobalValueSets reader₂ (pathsUnder r₂ files))) := by
  refine ⟨objectName?_roots hp, fun folder ending => nameBehind?_roots hp,
    fun folder ending front hfolder hline hfront hending =>
      metadataName?_roots hfolder hline hp hfront hending,
    fun r₁ r₂ reader₁ reader₂ files h₁ h₂ hsame => ?_⟩
  have hsets : ∀ form : SetForm,
      (∀ file ∈ files, (metadataName? form.folder form.ending file.1).isSome) →
      Alike (List.Forall₂ ValueSet.Same) r₁ r₂ (loadValueSets form reader₁ (pathsUnder r₁ files))
        (loadValueSets form reader₂ (pathsUnder r₂ files)) := by
    intro form hshown
    refine valueSets_alike hsame.first hsame.second fun file hfile => ?_
    exact (nameBehind?_roots (hsame.inside file hfile)).mpr (.inl (hshown file hfile)) r₁ r₂ h₁ h₂
  refine ⟨fun hshown => ?_, hsets standardForm, hsets globalForm⟩
  have hnames : ∀ file ∈ files, objectName? (r₁.join file.1) = objectName? (r₂.join file.1) :=
    fun file hfile =>
      (objectName?_roots (hsame.inside file hfile)).mpr (hshown file hfile) r₁ r₂ h₁ h₂
  exact ⟨customFields_alike hsame.first hsame.second hnames,
    records_alike hsame.first hsame.second fun file hfile =>
      recordTypeRecord_alike (hnames file hfile) file.2⟩

/-- A field of a package folder, and a value set in a folder that the root holds as well. -/
theorem names_from_roots_package :
    objectName? (Path.here.join (.ofText "app/objects/Account/fields/Type.field-meta.xml")) =
      objectName? (Path.join (.ofText "/objects/Case/repo")
        (.ofText "app/objects/Account/fields/Type.field-meta.xml")) ∧
    metadataName? "standardValueSets" ".standardValueSet-meta.xml"
        (Path.join (.ofText "../standardValueSets")
          (.ofText "app/standardValueSets/LeadStatus.standardValueSet-meta.xml")) =
      metadataName? "standardValueSets" ".standardValueSet-meta.xml"
        (Path.here.join (.ofText "app/standardValueSets/LeadStatus.standardValueSet-meta.xml")) ∧
    ∀ e : Xml.Element, Alike (List.Forall₂ RecordType.Same) Path.here (.ofText "/repo")
      (loadRecordTypes (fun _ => .ok e)
        [Path.here.join (.ofText "app/objects/Case/recordTypes/A.recordType-meta.xml")])
      (loadRecordTypes (fun _ => .ok e)
        [Path.join (.ofText "/repo")
          (.ofText "app/objects/Case/recordTypes/A.recordType-meta.xml")]) := by
  have hhere : Path.here.InLine := by decide +kernel
  have hrepo : (Path.ofText "/repo").InLine := by decide +kernel
  refine ⟨?_, ?_, fun e => ?_⟩
  · have hinside : (Path.ofText "app/objects/Account/fields/Type.field-meta.xml").Inside := by
      decide +kernel
    have hshown := (names_from_roots hinside).1.mpr (by decide +kernel)
    exact hshown _ _ hhere (by decide +kernel)
  · have hinside : (Path.ofText
        "app/standardValueSets/LeadStatus.standardValueSet-meta.xml").Inside := by decide +kernel
    obtain ⟨-, -, hsets, -⟩ := names_from_roots hinside
    have hshown := (hsets "standardValueSets" ".standardValueSet-meta.xml"
      "app/standardValueSets/LeadStatus" (by decide +kernel) (by decide +kernel)
      (by decide +kernel) (by decide +kernel)).mpr (by decide +kernel)
    exact hshown (.ofText "../standardValueSets") _ (by decide +kernel) hhere
  · have hinside : (Path.ofText "app/objects/Case/recordTypes/A.recordType-meta.xml").Inside := by
      decide +kernel
    obtain ⟨-, -, -, hrecords⟩ := names_from_roots hinside
    have hsame : SameProject Path.here (.ofText "/repo") (fun _ => .ok e) (fun _ => .ok e)
        [(.ofText "app/objects/Case/recordTypes/A.recordType-meta.xml", e)] :=
      ⟨by simpa using hinside, by simp [Reads], by simp [Reads]⟩
    have hshown : (objectName?
        (.ofText "app/objects/Case/recordTypes/A.recordType-meta.xml")).isSome := by decide +kernel
    exact ((hrecords _ _ _ _ _ hhere hrepo hsame).1 (by simpa using hshown)).2

/-- The mark begins with a slash: the object of a field right below the root is found under another
root, and not from the current folder. -/
theorem object_lost_below_here :
    (Path.ofText "objects/Account/fields/Type.field-meta.xml").Inside ∧
    Path.here.InLine ∧ (Path.ofText "/repo").InLine ∧
    objectName? (Path.join (.ofText "/repo")
      (.ofText "objects/Account/fields/Type.field-meta.xml")) = some "Account" ∧
    objectName? (Path.here.join (.ofText "objects/Account/fields/Type.field-meta.xml")) = none := by
  decide +kernel

end ApexConstants
