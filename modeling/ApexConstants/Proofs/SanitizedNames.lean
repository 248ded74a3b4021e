import ApexConstants.Proofs.CollapsedRuns
import ApexConstants.Proofs.SharedNamers

namespace ApexConstants.Apex

namespace Sanitizer

/-- Nothing is left of a text, or what is left does not start with a letter, or is reserved. -/
def TakesLead (s : Sanitizer) (raw : String) : Prop :=
  core raw = [] ∨ (∃ c ∈ (core raw).head?, c.isAlpha = false) ∨
    s.isReserved (String.ofList (core raw)) = true

instance (s : Sanitizer) (raw : String) : Decidable (s.TakesLead raw) :=
  inferInstanceAs (Decidable (_ ∨ _))

/-- The lead alone, the lead and the core, or the core alone. -/
theorem sanitize_cases (s : Sanitizer) (raw : String) :
    (core raw = [] ∧ s.sanitize raw = s.bareLead) ∨
    (core raw ≠ [] ∧ s.TakesLead raw ∧ s.sanitize raw = s.lead ++ String.ofList (core raw)) ∨
    (¬ s.TakesLead raw ∧ s.sanitize raw = String.ofList (core raw)) := by
  unfold sanitize TakesLead
  cases hcore : core raw with
  | nil => exact .inl ⟨rfl, rfl⟩
  | cons c rest =>
    dsimp only
    by_cases hlead : (!c.isAlpha || s.isReserved (String.ofList (c :: rest))) = true
    · refine .inr (.inl ⟨by simp, ?_, by rw [if_pos hlead]⟩)
      simpa using hlead
    · refine .inr (.inr ⟨?_, by rw [if_neg hlead]⟩)
      simpa using hlead

/-- The core of a text that does without the lead. -/
theorem sanitize_of_not_takesLead {s : Sanitizer} {raw : String} (h : ¬ s.TakesLead raw) :
    s.sanitize raw = String.ofList (core raw) := by
  rcases s.sanitize_cases raw with ⟨hempty, _⟩ | ⟨_, hlead, _⟩ | ⟨_, hname⟩
  · exact absurd (.inl hempty) h
  · exact absurd hlead h
  · exact hname

end Sanitizer

theorem dropFinalUnderscore_concat (cs : List Char) :
    dropFinalUnderscore (cs ++ ['_']) = cs := by
  simp [dropFinalUnderscore]

theorem dropFinalUnderscore_of_not {cs : List Char} (h : ¬ ['_'] <:+ cs) :
    dropFinalUnderscore cs = cs := by
  unfold dropFinalUnderscore
  split
  · rename_i hlast
    obtain ⟨front, rfl⟩ := List.getLast?_eq_some_iff.mp (beq_iff_eq.mp hlast)
    exact absurd (List.suffix_append front ['_']) h
  · rfl

/-- Of two underscores at the end one is left. -/
theorem underscore_suffix_dropFinal {cs : List Char} :
    ['_'] <:+ dropFinalUnderscore cs ↔ ['_', '_'] <:+ cs := by
  have htwo : ['_', '_'] = ['_'] ++ ['_'] := rfl
  by_cases hend : ['_'] <:+ cs
  · obtain ⟨front, rfl⟩ := hend
    rw [dropFinalUnderscore_concat, htwo, List.suffix_append_self_iff]
  · rw [dropFinalUnderscore_of_not hend]
    refine iff_of_false hend fun htwice => hend ?_
    exact (List.suffix_append ['_'] ['_']).trans htwice

theorem underscore_suffix_core (raw : String) :
    ['_'] <:+ core raw ↔ ['_', '_'] <:+ underscored raw.toList := by
  rw [core, underscore_suffix_dropFinal, collapseRuns_eq]

theorem core_of_word {name : String} (h : ∀ c ∈ name.toList, isWordChar c = true) :
    core name = dropFinalUnderscore name.toList := by
  rw [core, collapseRuns_of_word h]

namespace Sanitizer
variable {s : Sanitizer} {raw name : String}

theorem not_underscore_suffix_bareLead (s : Sanitizer) : ¬ ['_'] <:+ s.bareLead.toList := by
  rw [List.singleton_suffix_iff_getLast?_eq_some, bareLead, String.toList_ofList]
  intro hlast
  have hne : Text.dropTrailing (· == '_') s.lead.toList ≠ [] := by
    intro hnil
    rw [hnil] at hlast
    cases hlast
  refine List.rdropWhile_last_not (· == '_') s.lead.toList hne (beq_iff_eq.mpr ?_)
  exact List.getLast_of_getLast?_eq_some hlast

/-- An underscore at the end comes from the text, never from the lead. -/
theorem underscore_suffix_sanitize (s : Sanitizer) (raw : String) :
    ['_'] <:+ (s.sanitize raw).toList ↔ ['_'] <:+ core raw := by
  rcases s.sanitize_cases raw with ⟨hempty, hname⟩ | ⟨hne, _, hname⟩ | ⟨_, hname⟩
  · rw [hname, hempty]
    exact iff_of_false s.not_underscore_suffix_bareLead (by simp)
  · rw [hname, String.toList_append, String.toList_ofList,
      List.singleton_suffix_iff_getLast?_eq_some, List.singleton_suffix_iff_getLast?_eq_some,
      List.getLast?_append_of_ne_nil _ hne]
  · rw [hname, String.toList_ofList]

/-- An identifier that is not reserved and has no underscore to lose stays as it is. -/
theorem sanitize_of_identifier (hname : isIdentifier name.toList = true)
    (hfree : s.isReserved name = false) (hend : ¬ ['_'] <:+ name.toList) :
    s.sanitize name = name := by
  have hcore : core name = name.toList := by
    rw [core_of_word (isIdentifier_word hname), dropFinalUnderscore_of_not hend]
  have hplain : ¬ s.TakesLead name := by
    unfold TakesLead
    rw [hcore, String.ofList_toList, hfree]
    cases hchars : name.toList with
    | nil => simp [hchars, isIdentifier] at hname
    | cons c rest =>
      rw [hchars, isIdentifier, Bool.and_eq_true] at hname
      simp [hname.1]
  rw [sanitize_of_not_takesLead hplain, hcore, String.ofList_toList]

/-- An identifier with an underscore to lose does not stay: it is shorter without it, and longer if
it gets the usual lead. -/
theorem sanitize_ne_of_underscore (hname : isIdentifier name.toList = true)
    (hend : ['_'] <:+ name.toList) : sanitize {} name ≠ name := by
  obtain ⟨front, hfront⟩ := hend
  have hcore : core name = front := by
    rw [core_of_word (isIdentifier_word hname), ← hfront, dropFinalUnderscore_concat]
  have hlength : name.length = front.length + 1 := by
    rw [← String.length_toList, ← hfront, List.length_append, List.length_singleton]
  intro heq
  rw [← heq] at hlength
  rcases sanitize_cases {} name with ⟨hempty, _⟩ | ⟨_, _, hlead⟩ | ⟨_, hplain⟩
  · rw [← hfront, ← hcore, hempty] at hname
    cases hname
  · have htwo : "a_".length = 2 := rfl
    have hlong : (({} : Sanitizer).lead ++ String.ofList front).length = 2 + front.length := by
      simp [htwo]
    rw [hlead, hcore, hlong] at hlength
    omega
  · rw [hplain, hcore, String.length_ofList] at hlength
    omega

end Sanitizer

namespace Namer

theorem rules_standard (asked : List Question) : (standard.after asked).rules = {} :=
  after_rules standard asked

/-- Whatever the usual namer has been asked before, it takes its own answer as it is exactly when
this does not end with an underscore, which it does when the text, with an underscore for each run
of other characters than those of a word, ends with two. -/
theorem sanitized_twice (asked : List Question) (raw : String) :
    let (name, n) := (standard.after asked).sanitize raw
    ((n.sanitize name).1 = name ↔ ¬ ['_'] <:+ name.toList) ∧
      (['_'] <:+ name.toList ↔ ['_', '_'] <:+ underscored raw.toList) := by
  have hrules := rules_standard asked
  have hname : ((standard.after asked).sanitize raw).1 = Sanitizer.sanitize {} raw := by
    rw [sanitize_eq, hrules]
  have hagain : ((standard.after asked).sanitize raw).2.rules = {} :=
    (sanitize_rules _ raw).trans hrules
  dsimp only
  rw [sanitize_eq, hagain, hname]
  have hidentifier := Sanitizer.sanitize_identifier Sanitizer.standard_leadUsable raw
  have hfree := Sanitizer.sanitize_not_reserved Sanitizer.standard_leadUsable raw
  refine ⟨⟨?_, Sanitizer.sanitize_of_identifier hidentifier hfree⟩, ?_⟩
  · intro hstays hend
    exact Sanitizer.sanitize_ne_of_underscore hidentifier hend hstays
  · rw [Sanitizer.underscore_suffix_sanitize, underscore_suffix_core]

/-- Without its last underscore a name may turn out to be reserved. -/
example : Sanitizer.sanitize {} "class__" = "class_" ∧ Sanitizer.sanitize {} "class_" = "a_class" :=
  ⟨rfl, rfl⟩

end Namer

end ApexConstants.Apex
