import ApexConstants.Generation
import ApexConstants.Proofs.Outcomes
import Mathlib.Data.List.Infix

namespace ApexConstants

section
variable {α : Type} {mark cs found : List Char} {read : List Char → Option α}
  {stop : List Char → Bool}

theorem after?_eq_some {rest : List Char} (h : after? mark cs = some rest) : cs = mark ++ rest := by
  unfold after? at h
  split at h
  · rename_i hmark
    obtain ⟨more, rfl⟩ := List.isPrefixOf_iff_prefix.mp hmark
    rw [List.drop_left] at h
    rw [Option.some.inj h]
  · cases h

theorem behindLast_eq_some {a : α} (h : behindLast mark read cs = some a) :
    ∃ rest, rest <:+ cs ∧ read rest = some a := by
  have hhere : ∀ {cs : List Char}, (after? mark cs).bind read = some a →
      ∃ rest, rest <:+ cs ∧ read rest = some a := by
    intro cs hread
    obtain ⟨rest, hafter, hread⟩ := Option.bind_eq_some_iff.mp hread
    exact ⟨rest, ⟨mark, (after?_eq_some hafter).symm⟩, hread⟩
  induction cs with
  | nil => exact hhere h
  | cons c cs ih =>
    rw [behindLast] at h
    split at h
    · rename_i b hlater
      cases h
      split at hlater
      · cases hlater
      · obtain ⟨rest, hrest, hread⟩ := ih hlater
        exact ⟨rest, hrest.trans (List.suffix_cons c cs), hread⟩
    · exact hhere h

/-- What is read ends where the rest stops it for the first time. -/
theorem upToStop_eq_some (h : upToStop stop cs = some found) :
    ∃ rest, cs = found ++ rest ∧ stop rest = true ∧
      ∀ front back, found = front ++ back → back ≠ [] → stop (back ++ rest) = false := by
  induction cs generalizing found with
  | nil =>
    rw [upToStop] at h
    split at h
    · rename_i hstop
      cases h
      refine ⟨[], rfl, hstop, fun front back heq hback => ?_⟩
      exact absurd (List.append_eq_nil_iff.mp heq.symm).2 hback
    · cases h
  | cons c cs ih =>
    rw [upToStop] at h
    split at h
    · rename_i hstop
      cases h
      refine ⟨c :: cs, rfl, hstop, fun front back heq hback => ?_⟩
      exact absurd (List.append_eq_nil_iff.mp heq.symm).2 hback
    · rename_i hgo
      split at h
      · cases h
      · obtain ⟨more, hmore, rfl⟩ := Option.map_eq_some_iff.mp h
        obtain ⟨rest, rfl, hstop, hfirst⟩ := ih hmore
        refine ⟨rest, rfl, hstop, fun front back heq hback => ?_⟩
        cases front with
        | nil =>
          rw [List.nil_append] at heq
          simpa [← heq] using hgo
        | cons d front => exact hfirst front back (List.cons.inj heq).2 hback

end

/-- The name of an object is that of one folder. -/
theorem slash_not_mem_objectName? {p : Path} {name : String} (h : objectName? p = some name) :
    '/' ∉ name.toList := by
  obtain ⟨found, hfound, rfl⟩ := Option.map_eq_some_iff.mp h
  obtain ⟨rest, _, hread⟩ := behindLast_eq_some hfound
  obtain ⟨_, _, _, hfirst⟩ := upToStop_eq_some hread
  rw [String.toList_ofList]
  intro hslash
  obtain ⟨front, back, heq⟩ := List.append_of_mem hslash
  have hgo := hfirst front ('/' :: back) heq (by simp)
  simp [isSlash] at hgo

/-- The name of a value set stands in the path of its file. -/
theorem metadataName?_infix {folder ending : String} {p : Path} {name : String}
    (h : metadataName? folder ending p = some name) : name.toList <:+: p.text.toList := by
  obtain ⟨found, hfound, rfl⟩ := Option.map_eq_some_iff.mp h
  obtain ⟨rest, hrest, hread⟩ := behindLast_eq_some hfound
  obtain ⟨more, rfl, _, _⟩ := upToStop_eq_some hread
  rw [String.toList_ofList]
  exact (List.prefix_append found more).isInfix.trans hrest.isInfix

theorem required_eq_ok_iff {subject : NameSubject} {p : Path} {found : Option String}
    {name : String} : required subject p found = .ok name ↔ found = some name ∧ name ≠ "" := by
  unfold required
  dsimp only
  split
  · rename_i hempty
    constructor
    · intro h
      cases h
    · rintro ⟨rfl, hname⟩
      exact absurd (String.isEmpty_iff.mp hempty) hname
  · rename_i hname
    cases found with
    | none => exact absurd rfl hname
    | some found =>
      constructor
      · intro h
        cases h
        exact ⟨rfl, fun h => hname (String.isEmpty_iff.mpr h)⟩
      · rintro ⟨h, _⟩
        cases h
        rfl

theorem required_eq_ok {subject : NameSubject} {p : Path} {found : Option String} {name : String}
    (h : required subject p found = .ok name) : found = some name :=
  (required_eq_ok_iff.mp h).1

section
variable {reader : MetadataReader} {files : List Path} {sets : List ValueSet} {v : ValueSet}

theorem mem_of_readAll {pairs : List (Path × Xml.Element)} (h : readAll reader files = .ok pairs) :
    ∀ pair ∈ pairs, pair.1 ∈ files := by
  intro pair hpair
  obtain ⟨p, hp, hread⟩ := mem_of_mapM h pair hpair
  obtain ⟨root, _, heq⟩ := bind_eq_ok.mp hread
  cases heq
  exact hp

theorem field_of_load (h : loadCustomFields reader files = .ok sets) (hv : v ∈ sets) :
    '/' ∉ v.owner.toList ∧ v.member.isSome := by
  obtain ⟨pairs, _, h⟩ := bind_eq_ok.mp h
  obtain ⟨records, hrecords, heq⟩ := bind_eq_ok.mp h
  cases heq
  obtain ⟨record, hrecord, hsome⟩ := List.mem_filterMap.mp hv
  obtain rfl : record = some v := hsome
  obtain ⟨⟨p, e⟩, _, hmade⟩ := mem_of_mapM hrecords (some v) hrecord
  dsimp only [customFieldRecord] at hmade
  split at hmade
  · cases hmade
  · obtain ⟨owner, howner, heq⟩ := bind_eq_ok.mp hmade
    cases heq
    exact ⟨slash_not_mem_objectName? (required_eq_ok howner), rfl⟩

theorem mem_of_records {record : Path → Xml.Element → Except Failure ValueSet}
    (h : (readAll reader files >>= fun pairs => pairs.mapM fun (p, e) => record p e) = .ok sets)
    (hv : v ∈ sets) : ∃ p ∈ files, ∃ e, record p e = .ok v := by
  obtain ⟨pairs, hpairs, h⟩ := bind_eq_ok.mp h
  obtain ⟨⟨p, e⟩, hpair, hmade⟩ := mem_of_mapM h v hv
  exact ⟨p, mem_of_readAll hpairs _ hpair, e, hmade⟩

/-- A value set that stands by itself is named by the path it was read from. -/
theorem set_of_load {kind : ValueSetKind} (hkind : kind ≠ .customField)
    (h : kind.load reader files = .ok sets) (hv : v ∈ sets) :
    v.member = none ∧ ∃ p ∈ files, v.source = some p.text ∧ v.owner.toList <:+: p.text.toList := by
  cases kind with
  | customField => exact absurd rfl hkind
  | standard =>
    obtain ⟨p, hp, e, hmade⟩ := mem_of_records h hv
    obtain ⟨owner, howner, heq⟩ := bind_eq_ok.mp hmade
    cases heq
    exact ⟨rfl, p, hp, rfl, metadataName?_infix (required_eq_ok howner)⟩
  | global =>
    obtain ⟨p, hp, e, hmade⟩ := mem_of_records h hv
    obtain ⟨owner, howner, heq⟩ := bind_eq_ok.mp hmade
    cases heq
    exact ⟨rfl, p, hp, rfl, metadataName?_infix (required_eq_ok howner)⟩

end

end ApexConstants
