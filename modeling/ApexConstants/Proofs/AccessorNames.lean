import ApexConstants.Proofs.DeclaredProperties
import ApexConstants.Proofs.NormalizedNames
import ApexConstants.Proofs.UsableRecordTypes
import Mathlib.Data.List.Nodup

namespace ApexConstants
open Apex (Accessors isIdentifier)
open Text (isAscii)

namespace Apex

theorem toUpper_ne_underscore (c : Char) (hc : isAscii c = true) (h : c ≠ '_') :
    c.toUpper ≠ '_' := by
  revert h
  revert c hc
  exact Text.forall_ascii (by decide)

theorem upper_word {s : String} (h : ∀ c ∈ s.toList, isWordChar c = true) :
    ∀ c ∈ (Text.upper s).toList, isWordChar c = true := by
  rw [Text.toList_upper fun c hc => isWordChar_ascii (h c hc)]
  intro c hc
  obtain ⟨d, hd, rfl⟩ := List.mem_map.mp hc
  exact isWordChar_of_constant (toUpper_constant d (h d hd)).2

theorem dropFinalNewline_of_line {cs : List Char} (h : '\n' ∉ cs) : dropFinalNewline cs = cs := by
  unfold dropFinalNewline
  split
  · rename_i hnewline
    exact absurd (List.mem_of_getLast? (beq_iff_eq.mp hnewline)) h
  · rfl

/-- No underscore is left in the name of an object in upper case. -/
theorem underscore_not_mem_upper_normalize {name : String} (h : isIdentifier name.toList = true) :
    '_' ∉ (Text.upper (normalize name)).toList := by
  have hascii : ∀ c ∈ (normalize name).toList, isAscii c = true := by
    intro c hc
    rw [normalize, String.toList_ofList] at hc
    exact isWordChar_ascii (isIdentifier_word h c (mem_of_mem_dropMarkers hc).1)
  rw [Text.toList_upper hascii]
  intro hm
  obtain ⟨c, hc, heq⟩ := List.mem_map.mp hm
  refine toUpper_ne_underscore c (hascii c hc) ?_ heq
  rw [normalize, String.toList_ofList] at hc
  exact (mem_of_mem_dropMarkers hc).2

end Apex

/-- What stands around the first underscore is known from the whole. -/
theorem underscore_parts {a b c d : String} (ha : '_' ∉ a.toList) (hc : '_' ∉ c.toList) :
    a ++ "_" ++ b = c ++ "_" ++ d ↔ a = c ∧ b = d := by
  have hfront : ∀ {s t : String}, '_' ∉ s.toList →
      (s ++ "_" ++ t).toList.takeWhile (· != '_') = s.toList := by
    intro s t hs
    have htext : (s ++ "_" ++ t).toList = s.toList ++ '_' :: t.toList := by simp
    rw [htext, List.takeWhile_append_of_pos fun x hx => by
      simpa using fun heq : x = '_' => hs (heq ▸ hx)]
    simp
  constructor
  · intro h
    have hac : a = c := by
      apply String.toList_inj.mp
      rw [← hfront (t := b) ha, h, hfront hc]
    refine ⟨hac, ?_⟩
    rw [hac] at h
    exact (String.append_right_inj _).mp h
  · rintro ⟨rfl, rfl⟩
    rfl

namespace RecordType

def objectPart (r : RecordType) : String := Text.upper (Apex.normalize r.objectName)

def developerPart (r : RecordType) : String := Text.upper (r.developerName.getD "")

/-- Two record types claim one property: markers, underscores and case alone tell their objects
apart, and case alone their developer names, or an `_ID` at the end of one of these. -/
structure Collides (r q : RecordType) : Prop where
  object : r.objectPart = q.objectPart
  developer : r.developerPart = q.developerPart ∨ r.developerPart = q.developerPart ++ "_ID" ∨
    r.developerPart ++ "_ID" = q.developerPart

structure Spelled (r : RecordType) : Prop where
  object : isIdentifier r.objectName.toList = true
  developer : ∃ name, r.developerName = some name ∧ isIdentifier name.toList = true

theorem infoName_properties (r : RecordType) :
    r.properties.infoName = r.objectPart ++ "_" ++ r.developerPart := by
  have hline : Text.upper "_" = "_" := rfl
  simp only [properties, Apex.infoPropertyName, Text.upper_append, hline, objectPart, developerPart]

theorem idName_eq (r : RecordType) : r.properties.idName = r.properties.infoName ++ "_ID" := rfl

theorem idName_properties (r : RecordType) :
    r.properties.idName = r.objectPart ++ "_" ++ (r.developerPart ++ "_ID") := by
  rw [← String.append_assoc, ← infoName_properties, idName_eq]

/-- A character before the letters gets into the name of a property only from the names it is made
of. -/
theorem not_mem_infoName {r : RecordType} {low : Char} (hlow : low.toNat < 'A'.toNat)
    (hzero : low ≠ '\x00') (hobject : low ∉ r.objectName.toList)
    (hdeveloper : low ∉ (r.developerName.getD "").toList) : low ∉ r.properties.infoName.toList := by
  have hnormal : low ∉ (Apex.normalize r.objectName).toList := by
    rw [Apex.normalize, String.toList_ofList]
    exact fun hm => hobject (Apex.mem_of_mem_dropMarkers hm).1
  have hline : low ≠ '_' := by
    rintro rfl
    exact absurd hlow (by decide)
  apply Text.not_mem_upper hlow hzero
  simp [hnormal, hline, hdeveloper]

theorem Spelled.lacksName {r : RecordType} (h : r.Spelled) : r.lacksName = false := by
  obtain ⟨name, hname, hid⟩ := h.developer
  have hempty : name ≠ "" := by
    rintro rfl
    cases hid
  have hlast : Apex.dropFinalNewline name.toList = name.toList :=
    Apex.dropFinalNewline_of_line (Apex.Accessors.newline_not_mem_word (Apex.isIdentifier_word hid))
  simp [RecordType.lacksName, hname, hempty, Apex.acceptsName, hlast, hid]

theorem append_id_ne (s : String) : s ≠ s ++ "_ID" := by
  intro h
  have hlength := congrArg String.length h
  simp [String.length_append] at hlength

/-- The properties of one record type have two names. -/
theorem nodup_names (r : RecordType) : r.properties.names.Nodup := by
  have hne : r.properties.infoName ≠ r.properties.idName := append_id_ne _
  simpa [Apex.Accessors.names] using hne

/-- Two spelled record types share a property's name exactly when they collide: the object parts
hold no underscore, so the first one in a name ends them. -/
theorem Spelled.disjoint_names {r q : RecordType} (hr : r.Spelled) (hq : q.Spelled) :
    List.Disjoint r.properties.names q.properties.names ↔ ¬ r.Collides q := by
  have hparts : ∀ b d : String,
      r.objectPart ++ "_" ++ b = q.objectPart ++ "_" ++ d ↔ r.objectPart = q.objectPart ∧ b = d :=
    fun b d => underscore_parts (Apex.underscore_not_mem_upper_normalize hr.object)
      (Apex.underscore_not_mem_upper_normalize hq.object)
  have hpairs : ∀ a b c d : String,
      List.Disjoint [a, b] [c, d] ↔ ¬ (a = c ∨ a = d ∨ b = c ∨ b = d) := by
    intro a b c d
    simp only [List.disjoint_left, List.mem_cons, List.not_mem_nil, or_false, forall_eq_or_imp,
      forall_eq, not_or]
    exact ⟨fun h => ⟨h.1.1, h.1.2, h.2⟩, fun h => ⟨⟨h.1, h.2.1⟩, h.2.2⟩⟩
  rw [Apex.Accessors.names, Apex.Accessors.names, hpairs, not_iff_not]
  simp only [infoName_properties, idName_properties, hparts]
  constructor
  · rintro (⟨ho, h⟩ | ⟨ho, h⟩ | ⟨ho, h⟩ | ⟨ho, h⟩)
    · exact ⟨ho, .inl h⟩
    · exact ⟨ho, .inr (.inl h)⟩
    · exact ⟨ho, .inr (.inr h)⟩
    · exact ⟨ho, .inl ((String.append_left_inj _).mp h)⟩
  · rintro ⟨ho, h | h | h⟩
    · exact .inl ⟨ho, h⟩
    · exact .inr (.inl ⟨ho, h⟩)
    · exact .inr (.inr (.inl ⟨ho, h⟩))

theorem nodup_names_iff {records : List RecordType} (h : ∀ r ∈ records, r.Spelled) :
    ((records.map properties).flatMap Apex.Accessors.names).Nodup ↔
      records.Pairwise fun r q => ¬ r.Collides q := by
  rw [List.flatMap_map, List.nodup_flatMap]
  have hpairs : List.Pairwise (Function.onFun List.Disjoint fun r => r.properties.names) records ↔
      records.Pairwise fun r q => ¬ r.Collides q :=
    List.Pairwise.iff_of_mem fun hr hq => (h _ hr).disjoint_names (h _ hq)
  rw [hpairs]
  exact ⟨fun hboth => hboth.2, fun hapart => ⟨fun r _ => r.nodup_names, hapart⟩⟩

/-- The properties of a spelled record type fit in their lines. -/
theorem Spelled.written {r : RecordType} (h : r.Spelled) : r.properties.Written := by
  obtain ⟨name, hname, hid⟩ := h.developer
  have hobject := Apex.isIdentifier_word h.object
  have hdeveloper := Apex.isIdentifier_word hid
  have hword : ∀ c ∈ (Apex.normalize r.objectName ++ "_" ++ name).toList,
      Apex.isWordChar c = true := by
    intro c hc
    rw [String.toList_append, String.toList_append] at hc
    rcases List.mem_append.mp hc with hc | hc
    · rcases List.mem_append.mp hc with hc | hc
      · rw [Apex.normalize, String.toList_ofList] at hc
        exact hobject c (Apex.mem_of_mem_dropMarkers hc).1
      · rw [List.mem_singleton.mp hc]
        rfl
    · exact hdeveloper c hc
  have hinfo : ∀ c ∈ r.properties.infoName.toList, Apex.isWordChar c = true := by
    simp only [properties, hname, Option.getD_some, Apex.infoPropertyName]
    exact Apex.upper_word hword
  refine ⟨hinfo, ?_, ?_, ?_⟩
  · intro c hc
    have htext : r.properties.idName.toList = r.properties.infoName.toList ++ "_ID".toList :=
      String.toList_append
    have hend : ∀ c ∈ "_ID".toList, Apex.isWordChar c = true := List.all_eq_true.mp (by decide)
    rw [htext] at hc
    rcases List.mem_append.mp hc with hc | hc
    · exact hinfo c hc
    · exact hend c hc
  · exact Apex.Accessors.newline_not_mem_word hobject
  · simp only [properties, hname, Option.getD_some]
    exact Apex.Accessors.newline_not_mem_word hdeveloper

end RecordType

/-- A class that is rendered holds the properties of the record types. -/
theorem RecordTypeGenerator.render_ok {g : RecordTypeGenerator} {records : List RecordType}
    {activeOnly : Bool} {className : Json} {accessors : List Accessors} {body : String}
    (haccessors : accessorsOf activeOnly records = .ok accessors)
    (h : g.render records (some activeOnly) className = .ok body) :
    body = Apex.tidy (Apex.recordTypesSource (g.nameOr className) accessors) := by
  unfold RecordTypeGenerator.render at h
  obtain ⟨found, hfound, h⟩ := bind_eq_ok.mp h
  simp only [Option.getD_some, haccessors, Except.mapError, Except.ok.injEq] at hfound
  subst hfound
  obtain ⟨_, _, h⟩ := bind_eq_ok.mp h
  exact (Except.ok.inj h).symm

/-- The properties of spelled record types bear different names, and the class declares each once,
exactly when no two of the record types that are included collide. -/
theorem accessor_names_distinct_iff (g : RecordTypeGenerator) (activeOnly : Bool)
    (className : Json) (hname : '\n' ∉ (g.nameOr className).toList) (records : List RecordType)
    (hspelled : ∀ r ∈ records, r.Spelled) :
    ∃ accessors, accessorsOf activeOnly records = .ok accessors ∧
      ((accessors.flatMap Apex.Accessors.names).Nodup ↔
        (records.filter (·.included activeOnly)).Pairwise fun r q => ¬ r.Collides q) ∧
      ∀ body, g.render records (some activeOnly) className = .ok body →
        Apex.declaredProperties body = accessors.flatMap Apex.Accessors.names := by
  have haccessors : accessorsOf activeOnly records =
      .ok ((records.filter (·.included activeOnly)).map RecordType.properties) :=
    accessorsOf_of_names fun r hr _ => (hspelled r hr).lacksName
  have hincluded : ∀ r ∈ records.filter (·.included activeOnly), r.Spelled :=
    fun r hr => hspelled r (List.mem_filter.mp hr).1
  refine ⟨_, haccessors, RecordType.nodup_names_iff hincluded, ?_⟩
  intro body hbody
  rw [RecordTypeGenerator.render_ok haccessors hbody]
  apply Apex.declaredProperties_recordTypesSource hname
  intro a ha
  obtain ⟨r, hr, rfl⟩ := List.mem_map.mp ha
  exact (hincluded r hr).written

def activeType (object developer : String) : RecordType := ⟨object, some developer, true, none⟩

theorem spelled_activeType {object developer : String} (ho : isIdentifier object.toList = true)
    (hd : isIdentifier developer.toList = true) : (activeType object developer).Spelled :=
  ⟨ho, developer, rfl, hd⟩

/-- The names that collide with those of the first record type belong to one that is left out. -/
theorem accessor_names_distinct_case :
    '\n' ∉ (RecordTypeGenerator.nameOr ⟨"60.0", .str "RecordTypes", true, true, .shipped⟩
      .null).toList ∧
    (∀ r ∈ [activeType "Case" "Support", { activeType "Case__c" "Support_ID" with active := false }],
      r.Spelled) ∧
    ∃ accessors, accessorsOf true [activeType "Case" "Support",
        { activeType "Case__c" "Support_ID" with active := false }] = .ok accessors ∧
      ((accessors.flatMap Apex.Accessors.names).Nodup ↔
        ([activeType "Case" "Support", { activeType "Case__c" "Support_ID" with active := false }].filter
          (·.included true)).Pairwise fun r q => ¬ r.Collides q) ∧
      ∀ body, RecordTypeGenerator.render ⟨"60.0", .str "RecordTypes", true, true, .shipped⟩
          [activeType "Case" "Support", { activeType "Case__c" "Support_ID" with active := false }]
          (some true) .null = .ok body →
        Apex.declaredProperties body = accessors.flatMap Apex.Accessors.names := by
  have hname : '\n' ∉ (RecordTypeGenerator.nameOr
      ⟨"60.0", .str "RecordTypes", true, true, .shipped⟩ .null).toList := by decide
  have hspelled : ∀ r ∈ [activeType "Case" "Support",
      { activeType "Case__c" "Support_ID" with active := false }], r.Spelled := by
    simp only [List.forall_mem_cons, List.not_mem_nil, false_implies, implies_true, and_true]
    exact ⟨spelled_activeType (by decide) (by decide), by decide, "Support_ID", rfl, by decide⟩
  exact ⟨hname, hspelled, accessor_names_distinct_iff _ true .null hname _ hspelled⟩

/-- Two record types of one object declare one property twice when the name of the second is that of
the first with `_ID` behind it. -/
theorem accessor_names_clash :
    ∃ records : List RecordType, (∀ r ∈ records, r.Spelled) ∧
      (records.map fun r => (r.objectName, r.developerName)).Nodup ∧
      (records.Pairwise fun r q => r.objectName = q.objectName →
        Text.lower (r.developerName.getD "") ≠ Text.lower (q.developerName.getD "")) ∧
      ∃ accessors, accessorsOf true records = .ok accessors ∧
        ¬ (accessors.flatMap Apex.Accessors.names).Nodup := by
  refine ⟨[activeType "Case" "Support", activeType "Case" "Support_ID"], ?_, by decide, by decide,
    _, rfl, by decide⟩
  simp only [List.forall_mem_cons, List.not_mem_nil, false_implies, implies_true, and_true]
  exact ⟨spelled_activeType (by decide) (by decide), spelled_activeType (by decide) (by decide)⟩

end ApexConstants
