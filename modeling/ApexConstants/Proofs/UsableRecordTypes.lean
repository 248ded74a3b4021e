import ApexConstants.Proofs.Outcomes
import ApexConstants.RecordTypes
import Mathlib.Data.List.Basic

namespace ApexConstants
open Apex (Accessors)

namespace RecordType

/-- Whether the developer name is absent, empty or none that the generated code can hold. -/
def lacksName (r : RecordType) : Bool :=
  r.developerName.all fun name => name.isEmpty || !Apex.acceptsName name

def properties (r : RecordType) : Accessors where
  infoName := Apex.infoPropertyName r.objectName (r.developerName.getD "")
  idName := Apex.idPropertyName r.objectName (r.developerName.getD "")
  objectName := r.objectName
  developerName := r.developerName.getD ""

theorem accessors_of_name {r : RecordType} (h : r.lacksName = false) :
    r.accessors = .ok r.properties := by
  cases hname : r.developerName with
  | none => simp [lacksName, hname] at h
  | some name =>
    simp only [lacksName, hname, Option.all_some, Bool.or_eq_false_iff, Bool.not_eq_false'] at h
    simp [accessors, properties, hname, h.1, h.2]

/-- A fault of a record type names the file that it was read from. -/
theorem accessors_of_lacksName {r : RecordType} (h : r.lacksName = true) :
    ∃ fault, r.accessors = .error fault ∧ fault.path? = r.source := by
  unfold accessors
  dsimp only
  split
  · exact ⟨_, rfl, rfl⟩
  · rename_i hsome
    split
    · exact ⟨_, rfl, rfl⟩
    · rename_i haccepted
      cases hname : r.developerName with
      | none => simp [hname] at hsome
      | some name =>
        simp only [hname, Option.getD_some] at hsome haccepted
        simp [lacksName, hname, hsome, haccepted] at h

end RecordType

theorem accessorsOf_of_names {activeOnly : Bool} {records : List RecordType}
    (h : ∀ r ∈ records, r.included activeOnly = true → r.lacksName = false) :
    accessorsOf activeOnly records =
      .ok ((records.filter (·.included activeOnly)).map RecordType.properties) := by
  apply mapM_eq_ok
  intro r hr
  have hr := List.mem_filter.mp hr
  exact RecordType.accessors_of_name (h r hr.1 hr.2)

/-- The first of the included record types without a usable name decides. -/
theorem accessorsOf_of_first {activeOnly : Bool} {before : List RecordType} {r : RecordType}
    (hbefore : ∀ q ∈ before, q.included activeOnly = true → q.lacksName = false)
    (hincluded : r.included activeOnly = true) (hlacks : r.lacksName = true)
    (after : List RecordType) :
    ∃ fault, accessorsOf activeOnly (before ++ r :: after) = .error fault ∧
      fault.path? = r.source := by
  obtain ⟨fault, hfault, hpath⟩ := RecordType.accessors_of_lacksName hlacks
  refine ⟨fault, ?_, hpath⟩
  have hsplit : (before ++ r :: after).filter (·.included activeOnly) =
      before.filter (·.included activeOnly) ++ r :: after.filter (·.included activeOnly) := by
    rw [List.filter_append, List.filter_cons_of_pos hincluded]
  rw [accessorsOf, hsplit]
  refine mapM_eq_error (fun q hq => ?_) hfault
  have hq := List.mem_filter.mp hq
  exact ⟨q.properties, RecordType.accessors_of_name (hbefore q hq.1 hq.2)⟩

/-- Either every included record type has a usable name, or one of them is the first without. -/
theorem names_or_first (activeOnly : Bool) (records : List RecordType) :
    (∀ r ∈ records, r.included activeOnly = true → r.lacksName = false) ∨
      ∃ before r after, records = before ++ r :: after ∧
        (∀ q ∈ before, q.included activeOnly = true → q.lacksName = false) ∧
        r.included activeOnly = true ∧ r.lacksName = true := by
  induction records with
  | nil => exact .inl (by simp)
  | cons r records ih =>
    by_cases hr : r.included activeOnly = true ∧ r.lacksName = true
    · exact .inr ⟨[], r, records, rfl, by simp, hr⟩
    · have hnamed : r.included activeOnly = true → r.lacksName = false := by
        intro hincluded
        simpa using fun hlacks => hr ⟨hincluded, hlacks⟩
      rcases ih with hall | ⟨before, first, after, rfl, hbefore, hfirst⟩
      · exact .inl (List.forall_mem_cons.mpr ⟨hnamed, hall⟩)
      · exact .inr ⟨r :: before, first, after, rfl,
          List.forall_mem_cons.mpr ⟨hnamed, hbefore⟩, hfirst⟩

/-- Properties are found for all included record types or for none. -/
theorem accessorsOf_eq_ok {activeOnly : Bool} {records : List RecordType}
    {accessors : List Accessors} (h : accessorsOf activeOnly records = .ok accessors) :
    (∀ r ∈ records.filter (·.included activeOnly), r.lacksName = false) ∧
      accessors = (records.filter (·.included activeOnly)).map RecordType.properties := by
  rcases names_or_first activeOnly records with hnames | ⟨before, r, after, rfl, hbefore, hr⟩
  · rw [accessorsOf_of_names hnames] at h
    exact ⟨fun r hr => hnames r (List.mem_filter.mp hr).1 (List.mem_filter.mp hr).2,
      (Except.ok.inj h).symm⟩
  · obtain ⟨fault, hfault, -⟩ := accessorsOf_of_first hbefore hr.1 hr.2 after
    rw [hfault] at h
    cases h

end ApexConstants
