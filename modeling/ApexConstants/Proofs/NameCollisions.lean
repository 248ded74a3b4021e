import ApexConstants.Proofs.SanitizedNames

namespace ApexConstants.Apex
open Text (isAscii upper)

/-- The letters and digits of a text, of ASCII and in their order. -/
def lettersAndDigits (s : String) : String := String.ofList (s.toList.filter Char.isAlphanum)

/-- A run of characters that an identifier cannot hold. -/
def IsRun (run : String) : Prop := run ≠ "" ∧ ∀ c ∈ run.toList, isWordChar c = false

theorem IsRun.toList_ne_nil {run : String} (h : IsRun run) : run.toList ≠ [] := by
  simpa using h.1

theorem not_isAlphanum_of_not_word {c : Char} (h : ¬ isWordChar c = true) : c.isAlphanum = false := by
  simp only [isWordChar, Bool.or_eq_true, not_or, Bool.not_eq_true] at h
  exact h.1

theorem filter_collapseRuns (inRun : Bool) (cs : List Char) :
    (collapseRuns inRun cs).filter Char.isAlphanum = cs.filter Char.isAlphanum := by
  have hunderscore : Char.isAlphanum '_' = false := rfl
  induction cs generalizing inRun with
  | nil => rfl
  | cons c cs ih =>
    rw [collapseRuns]
    split
    · rw [List.filter_cons, List.filter_cons, ih]
    · rename_i hc
      have hskip := not_isAlphanum_of_not_word hc
      split
      · simp [hskip, ih]
      · simp [hskip, hunderscore, ih]

theorem filter_dropFinalUnderscore (cs : List Char) :
    (dropFinalUnderscore cs).filter Char.isAlphanum = cs.filter Char.isAlphanum := by
  by_cases hend : ['_'] <:+ cs
  · obtain ⟨front, rfl⟩ := hend
    have hunderscore : ['_'].filter Char.isAlphanum = [] := rfl
    rw [dropFinalUnderscore_concat, List.filter_append, hunderscore, List.append_nil]
  · rw [dropFinalUnderscore_of_not hend]

theorem lettersAndDigits_core (raw : String) :
    lettersAndDigits (String.ofList (core raw)) = lettersAndDigits raw := by
  rw [lettersAndDigits, String.toList_ofList, core, filter_dropFinalUnderscore,
    filter_collapseRuns, lettersAndDigits]

theorem lettersAndDigits_append (s t : String) :
    lettersAndDigits (s ++ t) = lettersAndDigits s ++ lettersAndDigits t := by
  simp [lettersAndDigits]

/-- The usual lead puts one letter in front. -/
theorem lettersAndDigits_sanitize (raw : String) :
    (Sanitizer.TakesLead {} raw ∧
      lettersAndDigits (Sanitizer.sanitize {} raw) = "a" ++ lettersAndDigits raw) ∨
    (¬ Sanitizer.TakesLead {} raw ∧
      lettersAndDigits (Sanitizer.sanitize {} raw) = lettersAndDigits raw) := by
  have hlead : lettersAndDigits "a_" = "a" := rfl
  rcases Sanitizer.sanitize_cases {} raw with ⟨hempty, hname⟩ | ⟨_, htakes, hname⟩ | ⟨hplain, hname⟩
  · have hnothing : lettersAndDigits raw = "" := by
      rw [← lettersAndDigits_core, hempty]
      rfl
    have hbare : ({} : Sanitizer).bareLead = "a" := rfl
    refine .inl ⟨.inl hempty, ?_⟩
    rw [hname, hbare, hnothing]
    rfl
  · refine .inl ⟨htakes, ?_⟩
    rw [hname, lettersAndDigits_append, lettersAndDigits_core, hlead]
  · exact .inr ⟨hplain, by rw [hname, lettersAndDigits_core]⟩

theorem isAlphanum_toUpper (c : Char) (hc : isAscii c = true) :
    c.toUpper.isAlphanum = c.isAlphanum := by
  revert c hc
  exact Text.forall_ascii (by decide)

/-- Upper case keeps letters and digits what they are. -/
theorem lettersAndDigits_upper {s : String} (h : ∀ c ∈ s.toList, isAscii c = true) :
    lettersAndDigits (upper s) = upper (lettersAndDigits s) := by
  have hkept : ∀ c ∈ (lettersAndDigits s).toList, isAscii c = true := by
    rw [lettersAndDigits, String.toList_ofList]
    exact fun c hc => h c (List.mem_filter.mp hc).1
  apply String.toList_inj.mp
  rw [Text.toList_upper hkept, lettersAndDigits, lettersAndDigits, String.toList_ofList,
    String.toList_ofList, Text.toList_upper h, List.filter_map]
  refine congrArg _ (List.filter_congr fun c hc => ?_)
  exact isAlphanum_toUpper c (h c hc)

/-- In a constant name stand the letters and digits of its text in upper case, with an `A` in front
where the text takes the lead. -/
theorem lettersAndDigits_constantName (raw : String) :
    lettersAndDigits (Sanitizer.constantName {} raw) = upper (lettersAndDigits raw) ∨
    lettersAndDigits (Sanitizer.constantName {} raw) = "A" ++ upper (lettersAndDigits raw) := by
  have hlead : upper "a" = "A" := rfl
  have hname := Sanitizer.sanitize_identifier Sanitizer.standard_leadUsable raw
  have hascii := fun c hc => isWordChar_ascii (isIdentifier_word hname c hc)
  rw [Sanitizer.constantName, lettersAndDigits_upper hascii]
  rcases lettersAndDigits_sanitize raw with ⟨_, hletters⟩ | ⟨_, hletters⟩
  · exact .inr (by rw [hletters, Text.upper_append, hlead])
  · exact .inl (by rw [hletters])

/-- They are equal, or one is the other with an `A` in front. -/
def SameButLead (s t : String) : Prop := s = t ∨ s = "A" ++ t ∨ t = "A" ++ s

theorem sameButLead_of_constantName {v w : String}
    (h : Sanitizer.constantName {} v = Sanitizer.constantName {} w) :
    SameButLead (upper (lettersAndDigits v)) (upper (lettersAndDigits w)) := by
  rcases lettersAndDigits_constantName v with hv | hv <;>
    rcases lettersAndDigits_constantName w with hw | hw <;> rw [h, hw] at hv
  · exact .inl hv.symm
  · exact .inr (.inl hv.symm)
  · exact .inr (.inr hv)
  · exact .inl ((String.append_right_inj _).mp hv.symm)

theorem sanitize_replace_run (s : Sanitizer) {run other : String} (hrun : IsRun run)
    (hother : IsRun other) (front back : String) :
    s.sanitize (front ++ run ++ back) = s.sanitize (front ++ other ++ back) := by
  have hcore : core (front ++ run ++ back) = core (front ++ other ++ back) := by
    rw [core, core]
    simp only [String.toList_append, List.append_assoc]
    rw [collapseRuns_replace hrun.toList_ne_nil hother.toList_ne_nil hrun.2 hother.2]
  rw [Sanitizer.sanitize, Sanitizer.sanitize, hcore]

namespace Namer

/-- Which texts can have one name. The two are the usual namer at two times of its life. -/
structure CollidesBySpelling (n later : Namer) : Prop where
  /-- A letter is put in front of those of a text exactly where the text takes the lead. -/
  lead : ∀ raw, lettersAndDigits (n.sanitize raw).1 = "a" ++ lettersAndDigits raw ↔
    Sanitizer.TakesLead {} raw
  /-- Everywhere else letters and digits are those of the text. -/
  plain : ∀ raw, lettersAndDigits (n.sanitize raw).1 = lettersAndDigits raw ↔
    ¬ Sanitizer.TakesLead {} raw
  /-- Texts with one constant name have the same letters and digits but for their case and the
  lead. -/
  constants : ∀ v w, (n.constantName v).1 = (later.constantName w).1 →
    SameButLead (upper (lettersAndDigits v)) (upper (lettersAndDigits w))
  /-- Which characters separate two words does not matter. -/
  runs : ∀ front run other back, IsRun run → IsRun other →
    (n.sanitize (front ++ run ++ back)).1 = (later.sanitize (front ++ other ++ back)).1

/-- Whatever the usual namer is asked, texts collide by their case, their punctuation and the lead
only. -/
theorem names_collide_by_spelling (asked later : List Question) :
    CollidesBySpelling (standard.after asked) (standard.after later) := by
  have hname (asked : List Question) (raw : String) :
      ((standard.after asked).sanitize raw).1 = Sanitizer.sanitize {} raw := by
    rw [sanitize_eq, rules_standard]
  have hconstant (asked : List Question) (raw : String) :
      ((standard.after asked).constantName raw).1 = Sanitizer.constantName {} raw := by
    rw [constantName_eq, rules_standard]
  -- A letter in front makes a text longer, so that it cannot be both with and without.
  have hdiffers (s : String) : s ≠ "a" ++ s := by
    intro heq
    have hlength := congrArg String.length heq
    have hone : "a".length = 1 := rfl
    rw [String.length_append, hone] at hlength
    omega
  refine ⟨?_, ?_, ?_, ?_⟩
  · intro raw
    rw [hname]
    rcases lettersAndDigits_sanitize raw with ⟨hlead, hletters⟩ | ⟨hplain, hletters⟩
    · exact iff_of_true hletters hlead
    · rw [hletters]
      exact iff_of_false (hdiffers _) hplain
  · intro raw
    rw [hname]
    rcases lettersAndDigits_sanitize raw with ⟨hlead, hletters⟩ | ⟨hplain, hletters⟩
    · rw [hletters]
      exact iff_of_false (hdiffers _).symm (not_not_intro hlead)
    · exact iff_of_true hletters hplain
  · intro v w h
    rw [hconstant, hconstant] at h
    exact sameButLead_of_constantName h
  · intro front run other back hrun hother
    rw [hname, hname]
    exact sanitize_replace_run {} hrun hother front back

/-- Two identifiers that are one in upper case, though only one of the texts takes the lead. -/
example : Sanitizer.sanitize {} "class" = "a_class" ∧
    Sanitizer.sanitize {} "A -- Class!" = "A_Class" :=
  ⟨rfl, rfl⟩

end Namer

end ApexConstants.Apex
