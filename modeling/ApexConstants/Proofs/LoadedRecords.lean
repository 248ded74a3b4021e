import ApexConstants.Proofs.AsciiCase
import ApexConstants.Proofs.PathNames
import Mathlib.Data.List.Forall2

namespace ApexConstants

section
variable {fault α β : Type} {f : α → Except fault β}

theorem bind_return_eq_map {x : Except fault α} {g : α → β} :
    (do return g (← x)) = x.map g := by
  cases x <;> rfl

/-- Steps that give nothing for some of a list are steps over the others. -/
theorem mapM_filterMap {g : α → Except fault (Option β)} {keep : α → Bool} {xs : List α}
    (hskip : ∀ x ∈ xs, keep x = false → g x = .ok none)
    (hkeep : ∀ x ∈ xs, keep x = true → g x = (f x).map some) :
    (xs.mapM g).map (List.filterMap id) = (xs.filter keep).mapM f := by
  induction xs with
  | nil => rfl
  | cons x xs ih =>
    rw [List.forall_mem_cons] at hskip hkeep
    have hrest := ih hskip.2 hkeep.2
    rw [List.mapM_cons]
    cases hx : keep x with
    | false =>
      rw [List.filter_cons_of_neg (by simp [hx]), ← hrest, hskip.1 hx]
      cases xs.mapM g <;> rfl
    | true =>
      rw [List.filter_cons_of_pos hx, List.mapM_cons, ← hrest, hkeep.1 hx]
      cases f x with
      | error e => rfl
      | ok b => cases xs.mapM g <;> rfl

end

namespace Xml.Element

def FirstNamed (e : Element) (base : String) (child : Element) : Prop :=
  ∃ before after, e.children = before ++ child :: after ∧ child.name.base = base ∧
    ∀ other ∈ before, other.name.base ≠ base

/-- The first child with a name holds a text between blanks. -/
def Says (e : Element) (base text : String) : Prop :=
  ∃ child whole, e.FirstNamed base child ∧ child.text = some whole ∧ Text.trim whole = text ∧
    text ≠ ""

variable {e child : Element} {base text : String}

theorem head?_childrenNamed :
    (e.childrenNamed base).head? = some child ↔ e.FirstNamed base child := by
  rw [childrenNamed, List.head?_filter, List.find?_eq_some_iff_append]
  constructor
  · intro ⟨hname, before, after, heq, hbefore⟩
    exact ⟨before, after, heq, by simpa using hname, by simpa using hbefore⟩
  · intro ⟨before, after, heq, hname, hbefore⟩
    exact ⟨by simpa using hname, before, after, heq, by simpa using hbefore⟩

theorem fieldOf_eq_some : fieldOf e base = some text ↔ e.Says base text := by
  simp only [fieldOf, Option.bind_eq_bind, Option.bind_eq_some_iff, head?_childrenNamed]
  constructor
  · intro ⟨child, hfirst, whole, hwhole, htext⟩
    split at htext
    · cases htext
    · rename_i hsome
      cases htext
      exact ⟨child, whole, hfirst, hwhole, rfl, by simpa using hsome⟩
  · intro ⟨child, whole, hfirst, hwhole, htrim, hsome⟩
    refine ⟨child, hfirst, whole, hwhole, ?_⟩
    rw [htrim, if_neg (by simpa using hsome)]

/-- A field that has a name and a value set. -/
def Eligible (e : Element) : Prop :=
  (∃ name, e.Says "fullName" name) ∧ (e.Says "type" "Picklist" ∨ e.Says "type" "MultiselectPicklist")

theorem valueSetField?_eq_some {name : String} :
    valueSetField? e = some name ↔ e.Says "fullName" name ∧
      (e.Says "type" "Picklist" ∨ e.Says "type" "MultiselectPicklist") := by
  have htypes : valueSetFieldTypes.contains ((fieldOf e "type").getD "") = true ↔
      e.Says "type" "Picklist" ∨ e.Says "type" "MultiselectPicklist" := by
    rw [← fieldOf_eq_some, ← fieldOf_eq_some]
    cases fieldOf e "type" <;> simp [valueSetFieldTypes]
  simp only [valueSetField?, Option.bind_eq_bind, Option.bind_eq_some_iff, fieldOf_eq_some,
    Option.ite_none_right_eq_some, htypes, Option.some.injEq]
  constructor
  · intro ⟨found, hfound, htype, heq⟩
    rw [← heq]
    exact ⟨hfound, htype⟩
  · intro ⟨hname, htype⟩
    exact ⟨name, hname, htype, rfl⟩

theorem isSome_valueSetField? : (valueSetField? e).isSome = true ↔ e.Eligible := by
  simp only [Option.isSome_iff_exists, valueSetField?_eq_some, exists_and_right, Eligible]

instance (e : Element) : Decidable e.Eligible := decidable_of_iff _ isSome_valueSetField?

end Xml.Element

open Xml (Element)

/-- The labels of value elements: one for each of them, in their order, and absent where the element
gives none. -/
def Labels (elements : List Element) (labels : List (Option String)) : Prop :=
  List.Forall₂ (fun e label => ∀ name, label = some name ↔ e.Says "fullName" name) elements labels

structure IsFieldSet (p : Path) (e : Element) (v : ValueSet) : Prop where
  owner : objectName? p = some v.owner ∧ v.owner ≠ ""
  kind : v.kind = .customField
  member : ∀ name, v.member = some name ↔ e.Says "fullName" name
  values : Labels ((e.childrenNamed "valueSet").flatMap fun s =>
    (s.childrenNamed "valueSetDefinition").flatMap fun d => d.childrenNamed "value") v.values
  source : v.source = some p.text

structure IsSet (kind : ValueSetKind) (name? : Path → Option String) (value : String) (p : Path)
    (e : Element) (v : ValueSet) : Prop where
  owner : name? p = some v.owner ∧ v.owner ≠ ""
  kind : v.kind = kind
  member : v.member = none
  values : Labels (e.childrenNamed value) v.values
  source : v.source = some p.text

/-- The record type in a file. It is active when the file says so in letters of either case. -/
structure IsRecordType (p : Path) (e : Element) (r : RecordType) : Prop where
  objectName : objectName? p = some r.objectName ∧ r.objectName ≠ ""
  developerName : ∀ name, r.developerName = some name ↔ e.Says "fullName" name
  active : r.active = true ↔
    ∃ text, e.Says "active" text ∧ text.toList.map Char.toLower = "true".toList
  source : r.source = some p.text

section
variable {e : Element} {base : String} {field : Option String}

theorem fieldOf_eq_iff : fieldOf e base = field ↔ ∀ name, field = some name ↔ e.Says base name := by
  constructor
  · rintro rfl name
    exact Element.fieldOf_eq_some
  · intro h
    exact Option.ext fun name => Element.fieldOf_eq_some.trans (h name).symm

theorem map_fieldOf_eq_iff {elements : List Element} {labels : List (Option String)} :
    elements.map (fieldOf · "fullName") = labels ↔ Labels elements labels := by
  rw [Labels]
  induction elements generalizing labels with
  | nil => simp [eq_comm]
  | cons e elements ih =>
    rw [List.map_cons, List.forall₂_cons_left_iff]
    constructor
    · rintro rfl
      exact ⟨_, _, fieldOf_eq_iff.mp rfl, ih.mp rfl, rfl⟩
    · rintro ⟨label, rest, hlabel, hrest, rfl⟩
      rw [fieldOf_eq_iff.mpr hlabel, ih.mpr hrest]

theorem active_iff : (Text.lower ((fieldOf e "active").getD "") == "true") = true ↔
    ∃ text, e.Says "active" text ∧ text.toList.map Char.toLower = "true".toList := by
  have hletters : "true".toList.all (decide <| Text.IsOwnLower ·) = true := by decide
  have hword : ∀ d ∈ "true".toList, Text.IsOwnLower d := fun d hd =>
    of_decide_eq_true (List.all_eq_true.mp hletters d hd)
  simp only [beq_iff_eq, Text.lower_eq_iff hword, ← Element.fieldOf_eq_some]
  cases fieldOf e "active" <;> simp

end

/-- A path gives a name, and not an empty one. -/
def Named (name? : Path → Option String) (p : Path) : Prop :=
  ∃ name, name? p = some name ∧ name ≠ ""

/-- A load of records that are named by their paths: the first path without a name is reported, and
otherwise each path gives its record, in the order of the paths. -/
structure OnePerPath {γ : Type} (subject : NameSubject) (name? : Path → Option String)
    (Made : Path → γ → Prop) (paths : List Path) (outcome : Except Failure (List γ)) : Prop where
  fails : ∀ fault, outcome = .error fault ↔ ∃ before p after, paths = before ++ p :: after ∧
    (∀ q ∈ before, Named name? q) ∧ ¬ Named name? p ∧ fault = .name (.unparseable subject p)
  gives : ∀ records, outcome = .ok records ↔ List.Forall₂ Made paths records

section
variable {subject : NameSubject} {name? : Path → Option String} {p : Path} {γ : Type}
  {make : Path → String → γ} {Made : Path → γ → Prop}

theorem named_iff (subject : NameSubject) :
    Named name? p ↔ ∃ name, required subject p (name? p) = .ok name := by
  simp only [Named, required_eq_ok_iff]

theorem required_eq_error_iff {fault : Failure} : required subject p (name? p) = .error fault ↔
    ¬ Named name? p ∧ fault = .name (.unparseable subject p) := by
  rw [named_iff subject]
  unfold required
  dsimp only
  split <;> simp [eq_comm]

/-- Making a record of the name of each path is a load of records. -/
theorem onePerPath_mapM
    (hmade : ∀ p record, (∃ name, (name? p = some name ∧ name ≠ "") ∧ make p name = record) ↔
      Made p record) (paths : List Path) :
    OnePerPath subject name? Made paths
      (paths.mapM fun p => (required subject p (name? p)).map (make p)) := by
  have hok : ∀ p record, (required subject p (name? p)).map (make p) = .ok record ↔
      Made p record := by
    intro p record
    rw [map_eq_ok, ← hmade]
    simp only [required_eq_ok_iff]
  have hnamed : ∀ p, (∃ record, (required subject p (name? p)).map (make p) = .ok record) ↔
      Named name? p := by
    intro p
    simp only [map_eq_ok, named_iff subject]
    simp
  have herror : ∀ p fault, (required subject p (name? p)).map (make p) = .error fault ↔
      ¬ Named name? p ∧ fault = .name (.unparseable subject p) := by
    intro p fault
    rw [← required_eq_error_iff]
    cases required subject p (name? p) <;> simp [Except.map]
  constructor
  · intro fault
    simp only [mapM_eq_error_iff, hnamed, herror]
  · intro records
    simp only [mapM_eq_ok_iff, hok]

end

section
variable {reader : MetadataReader} {root : Path → Element} {paths : List Path}

/-- Where every file can be read, a record is made of each path and its element. -/
theorem mapM_readAll {γ : Type} (hread : ∀ p ∈ paths, reader p = .ok (root p))
    (record : Path → Element → Except Failure γ) :
    (readAll reader paths >>= fun pairs => pairs.mapM fun (p, e) => record p e) =
      paths.mapM fun p => record p (root p) := by
  have hpairs : readAll reader paths = .ok (paths.map fun p => (p, root p)) := by
    refine mapM_eq_ok fun p hp => ?_
    rw [hread p hp]
    rfl
  rw [hpairs]
  exact List.mapM_map

theorem loadCustomFields_eq (hread : ∀ p ∈ paths, reader p = .ok (root p)) :
    loadCustomFields reader paths = (paths.filter fun p => (root p).Eligible).mapM fun p =>
      (required .object p (objectName? p)).map fun owner =>
        { owner := owner
          kind := .customField
          member := fieldOf (root p) "fullName"
          values := valuesUnder (root p) ["valueSet", "valueSetDefinition", "value"]
          source := some p.text } := by
  rw [loadCustomFields, ← bind_assoc, mapM_readAll hread, bind_return_eq_map]
  apply mapM_filterMap
  · intro p _ hskip
    have hnone : valueSetField? (root p) = none := by
      rw [← Option.not_isSome_iff_eq_none, Element.isSome_valueSetField?]
      simpa using hskip
    simp [customFieldRecord, hnone]
  · intro p _ hkeep
    obtain ⟨name, hname⟩ := Option.isSome_iff_exists.mp
      (Element.isSome_valueSetField?.mpr (of_decide_eq_true hkeep))
    have hfull : fieldOf (root p) "fullName" = some name :=
      Element.fieldOf_eq_some.mpr (Element.valueSetField?_eq_some.mp hname).1
    simp only [customFieldRecord, hname, hfull]
    cases required .object p (objectName? p) <;> rfl

theorem isFieldSet_iff {p : Path} {e : Element} {v : ValueSet} :
    (∃ name, (objectName? p = some name ∧ name ≠ "") ∧
      ({ owner := name
         kind := .customField
         member := fieldOf e "fullName"
         values := valuesUnder e ["valueSet", "valueSetDefinition", "value"]
         source := some p.text } : ValueSet) = v) ↔ IsFieldSet p e v := by
  have hvalues : e.descendants ["valueSet", "valueSetDefinition", "value"] =
      (e.childrenNamed "valueSet").flatMap fun s =>
        (s.childrenNamed "valueSetDefinition").flatMap fun d => d.childrenNamed "value" := by
    simp [Element.descendants]
  constructor
  · rintro ⟨name, howner, rfl⟩
    exact ⟨howner, rfl, fieldOf_eq_iff.mp rfl, hvalues ▸ map_fieldOf_eq_iff.mp rfl, rfl⟩
  · intro ⟨howner, hkind, hmember, hlabels, hsource⟩
    refine ⟨v.owner, howner, ?_⟩
    rw [fieldOf_eq_iff.mpr hmember, valuesUnder, hvalues, map_fieldOf_eq_iff.mpr hlabels, ← hkind,
      ← hsource]

theorem isSet_iff {kind : ValueSetKind} {name? : Path → Option String} {value : String} {p : Path}
    {e : Element} {v : ValueSet} :
    (∃ name, (name? p = some name ∧ name ≠ "") ∧
      ({ owner := name, kind := kind, values := valuesUnder e [value],
         source := some p.text } : ValueSet) = v) ↔ IsSet kind name? value p e v := by
  have hvalues : e.descendants [value] = e.childrenNamed value := by simp [Element.descendants]
  constructor
  · rintro ⟨name, howner, rfl⟩
    exact ⟨howner, rfl, rfl, hvalues ▸ map_fieldOf_eq_iff.mp rfl, rfl⟩
  · intro ⟨howner, hkind, hmember, hlabels, hsource⟩
    refine ⟨v.owner, howner, ?_⟩
    rw [valuesUnder, hvalues, map_fieldOf_eq_iff.mpr hlabels, ← hkind, ← hmember, ← hsource]

theorem isRecordType_iff {p : Path} {e : Element} {r : RecordType} :
    (∃ name, (objectName? p = some name ∧ name ≠ "") ∧
      ({ objectName := name
         developerName := fieldOf e "fullName"
         active := Text.lower ((fieldOf e "active").getD "") == "true"
         source := some p.text } : RecordType) = r) ↔ IsRecordType p e r := by
  constructor
  · rintro ⟨name, howner, rfl⟩
    exact ⟨howner, fieldOf_eq_iff.mp rfl, active_iff, rfl⟩
  · intro ⟨howner, hdeveloper, hactive, hsource⟩
    refine ⟨r.objectName, howner, ?_⟩
    rw [fieldOf_eq_iff.mpr hdeveloper, Bool.eq_iff_iff.mpr (active_iff.trans hactive.symm),
      ← hsource]

theorem loadValueSets_onePerPath (form : SetForm) (hread : ∀ p ∈ paths, reader p = .ok (root p)) :
    OnePerPath form.subject (metadataName? form.folder form.ending)
      (fun p v => IsSet form.kind (metadataName? form.folder form.ending) form.valueName p (root p) v)
      paths (loadValueSets form reader paths) := by
  rw [loadValueSets, mapM_readAll hread]
  simp only [setRecord, bind_return_eq_map]
  exact onePerPath_mapM (fun p v => isSet_iff) paths

/-- Custom fields without a name or a value set are passed over, whatever their paths, and the
others are loaded one for each path, like standard and global value sets and record types. -/
theorem loads_onePerPath (hread : ∀ p ∈ paths, reader p = .ok (root p)) :
    OnePerPath .object objectName? (fun p v => IsFieldSet p (root p) v)
      (paths.filter fun p => (root p).Eligible) (loadCustomFields reader paths) ∧
    OnePerPath .standardValueSet
      (metadataName? "standardValueSets" MetadataKind.standardValueSet.ending)
      (fun p v => IsSet .standard
        (metadataName? "standardValueSets" MetadataKind.standardValueSet.ending) "standardValue" p
        (root p) v)
      paths (loadStandardValueSets reader paths) ∧
    OnePerPath .globalValueSet (metadataName? "globalValueSets" MetadataKind.globalValueSet.ending)
      (fun p v => IsSet .global
        (metadataName? "globalValueSets" MetadataKind.globalValueSet.ending) "customValue" p
        (root p) v)
      paths (loadGlobalValueSets reader paths) ∧
    OnePerPath .object objectName? (fun p r => IsRecordType p (root p) r) paths
      (loadRecordTypes reader paths) := by
  refine ⟨?_, loadValueSets_onePerPath standardForm hread,
    loadValueSets_onePerPath globalForm hread, ?_⟩
  · rw [loadCustomFields_eq hread]
    exact onePerPath_mapM (fun p v => isFieldSet_iff) _
  · rw [loadRecordTypes, mapM_readAll hread]
    simp only [recordTypeRecord, bind_return_eq_map]
    exact onePerPath_mapM (fun p r => isRecordType_iff) paths

end

def typedField (type : String) : Element where
  name := ⟨none, "CustomField"⟩
  children := [{ name := ⟨some "metadata", "fullName"⟩, text := some " Kind " },
    { name := ⟨none, "type"⟩, text := some type }]

/-- A field without a value set is passed over where it is, a picklist there is not. -/
theorem picklist_without_object :
    loadCustomFields (fun p => .ok (typedField p.name))
        [.ofText "notes/Text", .ofText "kinds/Picklist", .ofText "sorts/Picklist"] =
      .error (.name (.unparseable .object (.ofText "kinds/Picklist"))) := by
  have hloads := @loads_onePerPath (fun p => .ok (typedField p.name)) (fun p => typedField p.name)
    [.ofText "notes/Text", .ofText "kinds/Picklist", .ofText "sorts/Picklist"] fun _ _ => rfl
  refine (hloads.1.fails _).mpr
    ⟨[], .ofText "kinds/Picklist", [.ofText "sorts/Picklist"], ?_, by simp, ?_, rfl⟩
  · simp only [← Element.isSome_valueSetField?, Bool.decide_eq_true]
    rfl
  · intro ⟨name, hname, _⟩
    have hnone : objectName? (.ofText "kinds/Picklist") = none := rfl
    rw [hnone] at hname
    cases hname

end ApexConstants
