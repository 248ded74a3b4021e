import ApexConstants.Apex.Names
import ApexConstants.Proofs.AsciiCase
import Mathlib.Data.List.DropRight

namespace ApexConstants.Apex
open Text (isAscii)

def isConstantName : List Char → Bool
  | [] => false
  | c :: rest => c.isUpper && rest.all fun d => d.isUpper || d.isDigit || d == '_'

theorem isWordChar_ascii {c : Char} (h : isWordChar c = true) : isAscii c = true := by
  unfold isWordChar Char.isAlphanum Char.isAlpha Char.isUpper Char.isLower Char.isDigit at h
  simp only [Bool.or_eq_true, Bool.and_eq_true, decide_eq_true_eq, beq_iff_eq, ge_iff_le,
    UInt32.le_iff_toNat_le] at h
  simp only [isAscii, decide_eq_true_eq, UInt32.lt_iff_toNat_lt]
  rcases h with ((h | h) | h) | rfl
  · exact Nat.lt_of_le_of_lt h.2 (by decide)
  · exact Nat.lt_of_le_of_lt h.2 (by decide)
  · exact Nat.lt_of_le_of_lt h.2 (by decide)
  · decide

theorem isAlpha_of_isUpper {c : Char} (h : c.isUpper = true) : c.isAlpha = true := by
  unfold Char.isAlpha
  rw [h, Bool.true_or]

theorem isWordChar_of_isAlpha {c : Char} (h : c.isAlpha = true) : isWordChar c = true := by
  simp [isWordChar, Char.isAlphanum, h]

/-- What can stand in a constant is a word character. -/
theorem isWordChar_of_constant {c : Char} (h : (c.isUpper || c.isDigit || c == '_') = true) :
    isWordChar c = true := by
  simp only [Bool.or_eq_true] at h
  rcases h with (h | h) | h
  · exact isWordChar_of_isAlpha (isAlpha_of_isUpper h)
  · simp [isWordChar, Char.isAlphanum, h]
  · simp [isWordChar, h]

/-- The capital of a letter is a capital, and that of a word character can stand in a constant. -/
theorem toUpper_constant (c : Char) (h : isWordChar c = true) :
    (c.isAlpha = true → c.toUpper.isUpper = true) ∧
      (c.toUpper.isUpper || c.toUpper.isDigit || c.toUpper == '_') = true := by
  have hc := isWordChar_ascii h
  revert h
  revert c hc
  exact Text.forall_ascii (by decide)

theorem isIdentifier_word {cs : List Char} (h : isIdentifier cs = true) :
    ∀ c ∈ cs, isWordChar c = true := by
  cases cs with
  | nil => simp
  | cons c rest =>
    simp only [isIdentifier, Bool.and_eq_true] at h
    intro d hd
    rcases List.mem_cons.mp hd with rfl | hd
    · exact isWordChar_of_isAlpha h.1
    · exact List.all_eq_true.mp h.2 d hd

theorem isIdentifier_append {cs ds : List Char} (h : isIdentifier cs = true)
    (hd : ∀ d ∈ ds, isWordChar d = true) : isIdentifier (cs ++ ds) = true := by
  cases cs with
  | nil => simp [isIdentifier] at h
  | cons c rest =>
    simp only [isIdentifier, Bool.and_eq_true] at h
    simp only [List.cons_append, isIdentifier, Bool.and_eq_true, List.all_append]
    exact ⟨h.1, h.2, List.all_eq_true.mpr hd⟩

theorem isIdentifier_upper {s : String} (h : isIdentifier s.toList = true) :
    isConstantName (Text.upper s).toList = true := by
  have hword := isIdentifier_word h
  rw [Text.toList_upper fun c hc => isWordChar_ascii (hword c hc)]
  cases hs : s.toList with
  | nil => simp [hs, isIdentifier] at h
  | cons c rest =>
    rw [hs] at h hword
    simp only [isIdentifier, Bool.and_eq_true] at h
    simp only [List.map_cons, isConstantName, Bool.and_eq_true, List.all_map, List.all_eq_true]
    refine ⟨(toUpper_constant c (hword c List.mem_cons_self)).1 h.1, ?_⟩
    intro d hd
    exact (toUpper_constant d (hword d (List.mem_cons_of_mem c hd))).2

theorem isIdentifier_of_isConstantName {cs : List Char} (h : isConstantName cs = true) :
    isIdentifier cs = true := by
  cases cs with
  | nil => cases h
  | cons c rest =>
    simp only [isConstantName, isIdentifier, Bool.and_eq_true, List.all_eq_true] at h ⊢
    exact ⟨isAlpha_of_isUpper h.1, fun d hd => isWordChar_of_constant (h.2 d hd)⟩

theorem collapseRuns_word (cs : List Char) (inRun : Bool) :
    ∀ c ∈ collapseRuns inRun cs, isWordChar c = true := by
  induction cs generalizing inRun with
  | nil => simp [collapseRuns]
  | cons c cs ih =>
    intro d hd
    simp only [collapseRuns] at hd
    split at hd
    · rename_i hc
      rcases List.mem_cons.mp hd with rfl | hd
      · exact hc
      · exact ih false d hd
    · split at hd
      · exact ih true d hd
      · rcases List.mem_cons.mp hd with rfl | hd
        · rfl
        · exact ih true d hd

theorem core_word (raw : String) : ∀ c ∈ core raw, isWordChar c = true := by
  intro c hc
  simp only [core, dropFinalUnderscore] at hc
  split at hc
  · exact collapseRuns_word _ false c (List.dropLast_subset _ hc)
  · exact collapseRuns_word _ false c hc

namespace Sanitizer

/-- The lead without the underscores at its end. -/
def bareLead (s : Sanitizer) : String :=
  String.ofList (Text.dropTrailing (· == '_') s.lead.toList)

/-- A lead that is itself an identifier, and with which no reserved word begins. -/
structure LeadUsable (s : Sanitizer) : Prop where
  isText : s.leadIsText = true
  identifier : isIdentifier s.lead.toList = true
  begins : ∀ word ∈ s.reserved, ¬ (Text.lower s.bareLead).toList <+: word.toList

theorem bareLead_prefix (s : Sanitizer) : s.bareLead.toList <+: s.lead.toList := by
  rw [bareLead, String.toList_ofList]
  exact List.rdropWhile_prefix (· == '_') (l := s.lead.toList)

/-- The first letter of the lead is no underscore and stays. -/
theorem bareLead_identifier {s : Sanitizer} (h : isIdentifier s.lead.toList = true) :
    isIdentifier s.bareLead.toList = true := by
  obtain ⟨tail, ht⟩ := s.bareLead_prefix
  cases hb : s.bareLead.toList with
  | nil =>
    have hall : ∀ c ∈ s.lead.toList, (c == '_') = true := by
      rw [bareLead, String.toList_ofList] at hb
      exact List.rdropWhile_eq_nil_iff.mp hb
    cases hl : s.lead.toList with
    | nil => simp [hl, isIdentifier] at h
    | cons c rest =>
      have hc : c = '_' := by simpa using hall c (by simp [hl])
      simp [hl, hc, isIdentifier] at h
  | cons c rest =>
    rw [← ht, hb] at h
    simp only [List.cons_append, isIdentifier, Bool.and_eq_true, List.all_append] at h ⊢
    exact ⟨h.1, h.2.1⟩

/-- Nothing that the lead stands in front of is reserved. -/
theorem lead_not_reserved {s : Sanitizer} (h : s.LeadUsable) {name : String}
    (hname : s.bareLead.toList <+: name.toList) (hascii : ∀ c ∈ name.toList, isAscii c = true) :
    s.isReserved name = false := by
  have hlead : ∀ c ∈ s.bareLead.toList, isAscii c = true := fun c hc => hascii c (hname.subset hc)
  cases hr : s.isReserved name with
  | false => rfl
  | true =>
    have hm : Text.lower name ∈ s.reserved := List.contains_iff_mem.mp hr
    refine absurd ?_ (h.begins _ hm)
    rw [Text.toList_lower hascii, Text.toList_lower hlead]
    exact hname.map Char.toLower

theorem sanitize_identifier {s : Sanitizer} (h : s.LeadUsable) (raw : String) :
    isIdentifier (s.sanitize raw).toList = true := by
  unfold sanitize
  have hword := core_word raw
  split
  · exact bareLead_identifier h.identifier
  · rename_i c rest hcore
    rw [hcore] at hword
    dsimp only
    split
    · rw [String.toList_append, String.toList_ofList]
      exact isIdentifier_append h.identifier hword
    · rename_i hplain
      simp only [Bool.or_eq_true, Bool.not_eq_true', not_or, Bool.not_eq_false] at hplain
      rw [String.toList_ofList, isIdentifier, Bool.and_eq_true]
      exact ⟨hplain.1, List.all_eq_true.mpr fun d hd => hword d (List.mem_cons_of_mem c hd)⟩

theorem sanitize_not_reserved {s : Sanitizer} (h : s.LeadUsable) (raw : String) :
    s.isReserved (s.sanitize raw) = false := by
  have hascii : ∀ c ∈ (s.sanitize raw).toList, isAscii c = true := fun c hc =>
    isWordChar_ascii (isIdentifier_word (sanitize_identifier h raw) c hc)
  revert hascii
  unfold sanitize
  split
  · exact lead_not_reserved h (List.prefix_refl _)
  · dsimp only
    split
    · intro hascii
      apply lead_not_reserved h _ hascii
      rw [String.toList_append]
      exact s.bareLead_prefix.trans (List.prefix_append _ _)
    · rename_i hplain
      simp only [Bool.or_eq_true, not_or, Bool.not_eq_true] at hplain
      exact fun _ => hplain.2

/-- Upper case keeps a name as far from the reserved words as it was. -/
theorem constantName_not_reserved {s : Sanitizer} (h : s.LeadUsable) (raw : String) :
    s.isReserved (s.constantName raw) = false := by
  have hascii : ∀ c ∈ (s.sanitize raw).toList, isAscii c = true := fun c hc =>
    isWordChar_ascii (isIdentifier_word (sanitize_identifier h raw) c hc)
  rw [isReserved, constantName, Text.lower_upper hascii]
  exact sanitize_not_reserved h raw

/-- The usual lead is usable with the usual words. -/
theorem standard_leadUsable : ({} : Sanitizer).LeadUsable where
  isText := rfl
  identifier := by decide
  begins := by decide

end Sanitizer

namespace Namer

/-- What a namer knows never differs from what its rules say. -/
theorem sanitize_eq (n : Namer) (raw : String) : (n.sanitize raw).1 = n.rules.sanitize raw := by
  unfold sanitize
  split
  · rename_i name hfound
    obtain ⟨before, after, hknown, _⟩ := List.lookup_eq_some_iff.mp hfound
    exact n.sound (raw, name) (by simp [hknown])
  · rfl

theorem constantName_eq (n : Namer) (raw : String) :
    (n.constantName raw).1 = n.rules.constantName raw := by
  simp [constantName, Sanitizer.constantName, sanitize_eq]

/-- A text lead gives every text an identifier. -/
theorem answer?_of_leadIsText {n : Namer} (h : n.rules.leadIsText = true) (q : Question) :
    (n.answer? q).1 = some (n.answer q).1 := by
  have hall : q.raw?.all n.rules.hasName = true := by
    cases hraw : q.raw? with
    | none => rfl
    | some raw => simp [Sanitizer.hasName, h]
  simp [answer?, hall]

/-- Whatever a namer has answered before, every text has an identifier and a constant name, and
neither is a reserved word. -/
theorem names_usable :
    ({} : Sanitizer).LeadUsable ∧ ∀ (n : Namer) (raw : String), n.rules.LeadUsable →
      ∃ name constant, (n.answer? (.sanitize raw)).1 = some (.name name) ∧
        (n.answer? (.constantName raw)).1 = some (.name constant) ∧
        isIdentifier name.toList = true ∧ n.rules.isReserved name = false ∧
        isConstantName constant.toList = true ∧ n.rules.isReserved constant = false := by
  refine ⟨Sanitizer.standard_leadUsable, ?_⟩
  intro n raw h
  have hname := Sanitizer.sanitize_identifier h raw
  refine ⟨n.rules.sanitize raw, n.rules.constantName raw, ?_, ?_, hname,
    Sanitizer.sanitize_not_reserved h raw, isIdentifier_upper hname,
    Sanitizer.constantName_not_reserved h raw⟩
  · simp [answer?_of_leadIsText h.isText, answer, sanitize_eq]
  · simp [answer?_of_leadIsText h.isText, answer, constantName_eq]

/-- A reserved word in capitals, asked of a namer that has already made an identifier for it. -/
theorem names_usable_static :
    (standard.remember "STATIC").rules.LeadUsable ∧
      ∃ name constant, ((standard.remember "STATIC").answer? (.sanitize "STATIC")).1 =
          some (.name name) ∧
        ((standard.remember "STATIC").answer? (.constantName "STATIC")).1 = some (.name constant) ∧
        isIdentifier name.toList = true ∧
        (standard.remember "STATIC").rules.isReserved name = false ∧
        isConstantName constant.toList = true ∧
        (standard.remember "STATIC").rules.isReserved constant = false :=
  ⟨Sanitizer.standard_leadUsable,
    names_usable.2 (standard.remember "STATIC") "STATIC" Sanitizer.standard_leadUsable⟩

end Namer

end ApexConstants.Apex
