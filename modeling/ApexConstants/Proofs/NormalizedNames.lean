import ApexConstants.Apex.Names
import Mathlib.Data.List.Infix

namespace ApexConstants.Apex

def markers : List (List Char) := [['_', '_', 'c'], ['_', '_', 'm', 'd', 't']]

def dropMarker (cs : List Char) : List Char := (markers.findSome? cs.dropSuffix?).getD cs

def plainChars (cs : List Char) : List Char := (dropMarker cs).filter (· != '_')

/-- An API name without the marker at its end and without underscores. -/
def plainName (name : String) : String := String.ofList (plainChars name.toList)

/-- A marker stands in the characters with more behind it. -/
def HasInnerMarker (cs : List Char) : Prop :=
  ∃ marker ∈ markers, ∃ front back, cs = front ++ marker ++ back ∧ back ≠ []

def StartsPlain (cs : List Char) : Prop := ∀ marker ∈ markers, ¬ marker <+: cs

theorem mem_of_mem_dropMarkers {cs : List Char} {c : Char} (h : c ∈ dropMarkers cs) :
    c ∈ cs ∧ c ≠ '_' := by
  fun_induction dropMarkers cs with
  | case1 rest ih => exact ⟨by simp [(ih h).1], (ih h).2⟩
  | case2 rest ih => exact ⟨by simp [(ih h).1], (ih h).2⟩
  | case3 rest _ _ ih => exact ⟨by simp [(ih h).1], (ih h).2⟩
  | case4 d rest _ _ hd ih =>
    rcases List.mem_cons.mp h with rfl | h
    · exact ⟨List.mem_cons_self, fun heq => hd heq⟩
    · exact ⟨List.mem_cons_of_mem d (ih h).1, (ih h).2⟩
  | case5 => cases h

theorem startsPlain_iff {cs : List Char} : StartsPlain cs ↔
    (∀ rest, cs ≠ '_' :: '_' :: 'c' :: rest) ∧
      ∀ rest, cs ≠ '_' :: '_' :: 'm' :: 'd' :: 't' :: rest := by
  simp only [StartsPlain, markers, List.forall_mem_cons, List.not_mem_nil, false_implies,
    implies_true, and_true]
  constructor
  · rintro ⟨hc, hmdt⟩
    exact ⟨fun rest heq => hc ⟨rest, heq.symm⟩, fun rest heq => hmdt ⟨rest, heq.symm⟩⟩
  · rintro ⟨hc, hmdt⟩
    exact ⟨fun ⟨rest, heq⟩ => hc rest heq.symm, fun ⟨rest, heq⟩ => hmdt rest heq.symm⟩

theorem StartsPlain.not_mem {cs : List Char} (h : StartsPlain cs) : cs ∉ markers :=
  fun hm => h cs hm List.prefix_rfl

theorem startsPlain_letter {c : Char} (h : c ≠ '_') (cs : List Char) : StartsPlain (c :: cs) :=
  startsPlain_iff.mpr ⟨fun _ heq => h (List.cons.inj heq).1, fun _ heq => h (List.cons.inj heq).1⟩

@[elab_as_elim]
theorem markerInduction {motive : List Char → Prop} (nil : motive [])
    (marker : ∀ marker ∈ markers, ∀ rest, motive rest → motive (marker ++ rest))
    (plain : ∀ c rest, StartsPlain (c :: rest) → motive rest → motive (c :: rest))
    (cs : List Char) : motive cs := by
  fun_induction dropMarkers cs with
  | case1 rest ih => exact marker ['_', '_', 'c'] (by decide) rest ih
  | case2 rest ih => exact marker ['_', '_', 'm', 'd', 't'] (by decide) rest ih
  | case3 rest hc hmdt ih =>
    refine plain '_' rest (startsPlain_iff.mpr ⟨fun more heq => ?_, fun more heq => ?_⟩) ih
    · exact hc more (List.cons.inj heq).2
    · exact hmdt more (List.cons.inj heq).2
  | case4 c rest _ _ hline ih => exact plain c rest (startsPlain_letter hline rest) ih
  | case5 => exact nil

theorem dropMarkers_marker_append {marker : List Char} (h : marker ∈ markers) (rest : List Char) :
    dropMarkers (marker ++ rest) = dropMarkers rest := by
  simp only [markers, List.mem_cons, List.not_mem_nil, or_false] at h
  rcases h with rfl | rfl <;> rfl

theorem dropMarkers_cons {c : Char} {cs : List Char} (h : StartsPlain (c :: cs)) :
    dropMarkers (c :: cs) = if c = '_' then dropMarkers cs else c :: dropMarkers cs := by
  obtain ⟨hc, hmdt⟩ := startsPlain_iff.mp h
  rw [dropMarkers.eq_def]
  split <;> simp_all

theorem dropSuffix?_cons {c : Char} {cs ending : List Char} (h : ending ≠ c :: cs) :
    (c :: cs).dropSuffix? ending = (cs.dropSuffix? ending).map (c :: ·) := by
  ext kept
  simp only [List.dropSuffix?_eq_some_iff, Option.map_eq_some_iff, beq_iff_eq, exists_eq_right]
  constructor
  · intro hsplit
    cases kept with
    | nil => exact absurd hsplit.symm h
    | cons d kept =>
      obtain ⟨rfl, rfl⟩ := List.cons.inj hsplit
      exact ⟨kept, rfl, rfl⟩
  · rintro ⟨kept, rfl, rfl⟩
    rfl

theorem dropMarker_cons {c : Char} {cs : List Char} (h : c :: cs ∉ markers) :
    dropMarker (c :: cs) = c :: dropMarker cs := by
  simp only [markers, List.mem_cons, List.not_mem_nil, or_false, not_or] at h
  simp only [dropMarker, markers, List.findSome?_cons, List.findSome?_nil,
    dropSuffix?_cons (Ne.symm h.1), dropSuffix?_cons (Ne.symm h.2)]
  cases cs.dropSuffix? ['_', '_', 'c'] <;> cases cs.dropSuffix? ['_', '_', 'm', 'd', 't'] <;> rfl

theorem plainChars_cons {c : Char} {cs : List Char} (h : c :: cs ∉ markers) :
    plainChars (c :: cs) = if c = '_' then plainChars cs else c :: plainChars cs := by
  rw [plainChars, dropMarker_cons h]
  split
  · rename_i hline
    rw [List.filter_cons_of_neg (by simpa using hline)]
    rfl
  · rename_i hline
    rw [List.filter_cons_of_pos (by simpa using hline)]
    rfl

theorem plainChars_marker {marker : List Char} (h : marker ∈ markers) : plainChars marker = [] := by
  revert marker
  decide

/-- With more behind it a marker keeps its letters. -/
theorem plainChars_marker_append {marker rest : List Char} (h : marker ∈ markers)
    (hrest : rest ≠ []) :
    plainChars (marker ++ rest) = marker.filter (· != '_') ++ plainChars rest := by
  simp only [markers, List.mem_cons, List.not_mem_nil, or_false] at h
  rcases h with rfl | rfl <;> simp [plainChars_cons, markers, hrest]

theorem dropMarkers_sublist (cs : List Char) : (dropMarkers cs).Sublist (plainChars cs) := by
  induction cs using markerInduction with
  | nil => exact List.nil_sublist _
  | marker marker hmarker rest ih =>
    rw [dropMarkers_marker_append hmarker]
    by_cases hrest : rest = []
    · rw [hrest]
      exact List.nil_sublist _
    · rw [plainChars_marker_append hmarker hrest]
      exact ih.trans (List.sublist_append_right _ _)
  | plain c rest hplain ih =>
    rw [dropMarkers_cons hplain, plainChars_cons hplain.not_mem]
    split
    · exact ih
    · exact ih.cons_cons c

theorem not_hasInnerMarker_marker {marker : List Char} (h : marker ∈ markers) :
    ¬ HasInnerMarker marker := by
  rintro ⟨inner, hinner, front, back, heq, hback⟩
  have halone : ∀ m ∈ markers, ∀ n ∈ markers, n <:+: m → n = m := by decide
  have hsame := halone marker h inner hinner ⟨front, back, heq.symm⟩
  have hlength := congrArg List.length heq
  rw [hsame] at hlength
  simp only [List.length_append] at hlength
  exact hback (List.length_eq_zero_iff.mp (by omega))

theorem hasInnerMarker_cons {c : Char} {cs : List Char} (h : StartsPlain (c :: cs)) :
    HasInnerMarker (c :: cs) ↔ HasInnerMarker cs := by
  constructor
  · rintro ⟨marker, hmarker, front, back, heq, hback⟩
    cases front with
    | nil => exact absurd ⟨back, heq.symm⟩ (h marker hmarker)
    | cons d front => exact ⟨marker, hmarker, front, back, (List.cons.inj heq).2, hback⟩
  · rintro ⟨marker, hmarker, front, back, rfl, hback⟩
    exact ⟨marker, hmarker, c :: front, back, rfl, hback⟩

theorem dropMarkers_eq_plainChars_iff (cs : List Char) :
    dropMarkers cs = plainChars cs ↔ ¬ HasInnerMarker cs := by
  induction cs using markerInduction with
  | nil =>
    refine iff_of_true rfl ?_
    rintro ⟨marker, _, front, back, heq, hback⟩
    exact hback (List.append_eq_nil_iff.mp heq.symm).2
  | marker marker hmarker rest ih =>
    rw [dropMarkers_marker_append hmarker]
    by_cases hrest : rest = []
    · rw [hrest, List.append_nil, plainChars_marker hmarker]
      exact iff_of_true rfl (not_hasInnerMarker_marker hmarker)
    · -- The letters of the marker are gone, and what follows cannot make up for them.
      refine iff_of_false ?_ (not_not_intro ⟨marker, hmarker, [], rest, rfl, hrest⟩)
      intro heq
      have hletters : ∀ m ∈ markers, 0 < (m.filter (· != '_')).length := by decide
      have hsome := hletters marker hmarker
      have hlength := (dropMarkers_sublist rest).length_le
      rw [heq, plainChars_marker_append hmarker hrest, List.length_append] at hlength
      omega
  | plain c rest hplain ih =>
    rw [dropMarkers_cons hplain, plainChars_cons hplain.not_mem, hasInnerMarker_cons hplain]
    split
    · exact ih
    · rw [List.cons.injEq, ih]
      exact and_iff_right rfl

/-- A normalized name is the name without the marker at its end and without underscores exactly when
no marker stands further inside. It holds no other letters in any case, and fewer of them if one
does. -/
theorem normalize_plain_iff (name : String) :
    (normalize name = plainName name ↔ ¬ HasInnerMarker name.toList) ∧
      (normalize name).toList.Sublist (plainName name).toList := by
  refine ⟨?_, ?_⟩
  · rw [normalize, plainName, String.ofList_inj]
    exact dropMarkers_eq_plainChars_iff name.toList
  · rw [normalize, plainName, String.toList_ofList, String.toList_ofList]
    exact dropMarkers_sublist name.toList

/-- Behind the prefix of a package the initial of a name reads like the end of a marker. -/
theorem normalize_takes_initial :
    "acme__credit__c".toList.all isWordChar = true ∧
      normalize "acme__credit__c" = "acmeredit" ∧ plainName "acme__credit__c" = "acmecredit" := by
  decide +kernel

end ApexConstants.Apex
