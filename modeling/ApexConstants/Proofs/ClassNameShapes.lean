import ApexConstants.Proofs.NormalizedNames
import ApexConstants.Proofs.UsableNames
import ApexConstants.ValueSets
import Mathlib.Data.List.Infix

namespace ApexConstants
open Apex

/-- The longest start of some characters that has no more than there is room for. -/
structure LongestStart (cs : List Char) (room : Nat) (start : List Char) : Prop where
  starts : start <+: cs
  fits : start.length ≤ room
  longest : ∀ other, other <+: cs → other.length ≤ room → other <+: start

theorem longestStart_take (cs : List Char) (room : Nat) :
    LongestStart cs room (cs.take room) := by
  refine ⟨List.take_prefix room cs, List.length_take_le room cs, fun other hother hfits => ?_⟩
  exact List.prefix_take_iff.mpr ⟨hother, hfits⟩

namespace Apex

def ClassName.affixed (base lead trail : String) : ClassName :=
  { base, lead := { text := lead }, trail := { text := trail } }

def ClassName.limitWarning (n : ClassName) : LogEntry :=
  .warning (excess n.lead n.trail classNameLimit (Text.quoted n.base))

section
variable {base lead trail : String}

theorem room_affixed : (ClassName.affixed base lead trail).room classNameLimit =
    40 - lead.length - trail.length := rfl

theorem text_affixed : (ClassName.affixed base lead trail).text =
    lead ++ String.ofList (base.toList.take (40 - lead.length - trail.length)) ++ trail := by
  have hroom : ((ClassName.affixed base lead trail).room classNameLimit).toNat =
      40 - lead.length - trail.length := by
    rw [room_affixed]
    omega
  rw [ClassName.text, hroom]
  rfl

theorem length_affixed : (ClassName.affixed base lead trail).text.length =
    min (lead.length + base.length + trail.length) (max 40 (lead.length + trail.length)) := by
  rw [text_affixed, String.length_append, String.length_append, String.length_ofList,
    List.length_take, String.length_toList]
  omega

/-- A name below the limit has its whole base. -/
theorem text_affixed_eq_iff {name : String} (h : name.length < 40) :
    (ClassName.affixed base lead trail).text = name ↔ lead ++ base ++ trail = name := by
  have hwhole : base.length ≤ 40 - lead.length - trail.length →
      (ClassName.affixed base lead trail).text = lead ++ base ++ trail := by
    intro hfits
    rw [text_affixed, List.take_of_length_le (by rwa [String.length_toList]), String.ofList_toList]
  constructor
  · intro hname
    have hlength := congrArg String.length hname
    rw [length_affixed] at hlength
    rw [← hname, hwhole (by omega)]
  · intro hname
    have hlength := congrArg String.length hname
    rw [String.length_append, String.length_append] at hlength
    rw [← hname, hwhole (by omega)]

theorem warning?_affixed : (ClassName.affixed base lead trail).warning?.toList.map .warning =
    if 40 < lead.length + trail.length
      then [(ClassName.affixed base lead trail).limitWarning] else [] := by
  have hroom : (ClassName.affixed base lead trail).room classNameLimit < 0 ↔
      40 < lead.length + trail.length := by
    rw [room_affixed]
    omega
  unfold ClassName.warning?
  simp only [hroom]
  split <;> rfl

end

end Apex

namespace ValueSetGenerator

def between (g : ValueSetGenerator) (lead trail : String) : ValueSetGenerator :=
  { g with lead := { text := lead }, trail := { text := trail } }

variable {g : ValueSetGenerator} {v : ValueSet}

theorem className_between (lead trail : String) :
    (g.between lead trail).className v = .affixed (g.baseName v) lead trail := rfl

/-- Nothing else that a value set adds to the log says that there is no room. -/
theorem mem_log_limitWarning {namer : Namer} :
    (g.className v).limitWarning ∈ (g.contribution namer v).log ↔
      (g.className v).limitWarning ∈ (g.className v).warning?.toList.map .warning := by
  have hclash : ∀ c : Clash, LogEntry.warning c.message ≠ (g.className v).limitWarning := by
    intro c heq
    obtain ⟨clash, hvalue⟩ : ∃ rest, c.message = "Value " ++ rest := by
      unfold Clash.message
      repeat rw [String.append_assoc]
      exact ⟨_, rfl⟩
    obtain ⟨limit, hprefix⟩ : ∃ rest, ClassName.excess (g.className v).lead (g.className v).trail
        classNameLimit (Text.quoted (g.className v).base) = "Prefix " ++ rest := by
      unfold ClassName.excess
      repeat rw [String.append_assoc]
      exact ⟨_, rfl⟩
    have hinitial := congrArg (fun e => e.message.toList.head?) heq
    simp only [LogEntry.warning, ClassName.limitWarning, hvalue, hprefix,
      String.toList_append] at hinitial
    cases hinitial
  simp only [contribution, List.mem_append]
  constructor
  · rintro ((hlimit | hclashes) | hskip)
    · exact hlimit
    · obtain ⟨message, hmessage, heq⟩ := List.mem_map.mp hclashes
      obtain ⟨c, _, rfl⟩ := List.mem_map.mp hmessage
      exact absurd heq (hclash c)
    · split at hskip
      · exact nomatch congrArg LogEntry.severity (List.mem_singleton.mp hskip)
      · cases hskip
  · exact fun hlimit => .inl (.inl hlimit)

theorem limitWarning_logged_iff {lead trail : String} {namer : Namer} :
    ((g.between lead trail).className v).limitWarning ∈
        ((g.between lead trail).contribution namer v).log ↔
      40 < lead.length + trail.length := by
  rw [mem_log_limitWarning, className_between, warning?_affixed]
  split
  · rename_i hlong
    simpa using hlong
  · rename_i hshort
    simpa using hshort

end ValueSetGenerator

namespace Apex

theorem isIdentifier_normalize {name : String} (h : isIdentifier name.toList = true) :
    isIdentifier (normalize name).toList = true := by
  rw [normalize, String.toList_ofList]
  cases hname : name.toList with
  | nil => simp [hname, isIdentifier] at h
  | cons c rest =>
    rw [hname] at h
    have hletter : c ≠ '_' := by
      rintro rfl
      cases h
    rw [dropMarkers_cons (startsPlain_letter hletter rest), if_neg hletter, isIdentifier,
      Bool.and_eq_true, List.all_eq_true]
    refine ⟨(Bool.and_eq_true_iff.mp h).1, fun d hd => ?_⟩
    exact isIdentifier_word h d (List.mem_cons_of_mem c (mem_of_mem_dropMarkers hd).1)

theorem normalize_word {name : String} (h : ∀ c ∈ name.toList, isWordChar c = true) :
    ∀ c ∈ (normalize name).toList, isWordChar c = true := by
  intro c hc
  rw [normalize, String.toList_ofList] at hc
  exact h c (mem_of_mem_dropMarkers hc).1

theorem isIdentifier_take {cs : List Char} (h : isIdentifier cs = true) {n : Nat} (hn : 0 < n) :
    isIdentifier (cs.take n) = true := by
  cases cs with
  | nil => cases h
  | cons c rest =>
    obtain ⟨m, rfl⟩ := Nat.exists_eq_succ_of_ne_zero hn.ne'
    simp only [isIdentifier, Bool.and_eq_true, List.all_eq_true, List.take_succ_cons] at h ⊢
    exact ⟨h.1, fun d hd => h.2 d (List.mem_of_mem_take hd)⟩

end Apex

namespace ValueSetGenerator
variable {g : ValueSetGenerator} {v : ValueSet}

structure Spelled (g : ValueSetGenerator) (v : ValueSet) (lead trail : String) : Prop where
  owner : isIdentifier v.owner.toList = true
  member : g.kind ≠ .customField ∨ isIdentifier (v.member.getD "").toList = true
  lead : lead = "" ∨ isIdentifier lead.toList = true
  trail : ∀ c ∈ trail.toList, isWordChar c = true
  joiner : ∀ c ∈ g.joiner.toList, isWordChar c = true

theorem Spelled.baseName {lead trail : String} (h : g.Spelled v lead trail) :
    isIdentifier (g.baseName v).toList = true := by
  unfold ValueSetGenerator.baseName
  split
  · rename_i hkind
    have hmember := isIdentifier_word (h.member.resolve_left fun hne => hne hkind)
    rw [fieldBase, String.toList_append, String.toList_append]
    exact isIdentifier_append (isIdentifier_append (isIdentifier_normalize h.owner)
      (normalize_word h.joiner)) (normalize_word hmember)
  · unfold standardBase
    split
    · rw [String.toList_append]
      exact isIdentifier_append h.owner (List.all_eq_true.mp (by decide))
    · exact h.owner
  · exact h.owner

theorem Spelled.className {lead trail : String} (h : g.Spelled v lead trail)
    (hroom : lead.length + trail.length < 40) :
    isIdentifier ((g.between lead trail).className v).text.toList = true := by
  have hcut := isIdentifier_take h.baseName (show 0 < 40 - lead.length - trail.length by omega)
  rw [className_between, text_affixed, String.toList_append, String.toList_append,
    String.toList_ofList]
  refine isIdentifier_append ?_ h.trail
  rcases h.lead with rfl | hlead
  · exact hcut
  · exact isIdentifier_append hlead (isIdentifier_word hcut)

/-- A class name is the longest start of the base that there is room for between prefix and suffix.
That they leave no room is said in the log, and where names are identifiers the class name is one.
-/
theorem className_shape (g : ValueSetGenerator) (v : ValueSet) (lead trail : String) :
    (∃ cut : String, ((g.between lead trail).className v).text = lead ++ cut ++ trail ∧
      LongestStart (g.baseName v).toList (40 - lead.length - trail.length) cut.toList) ∧
    ((g.between lead trail).className v).text.length =
      min (lead.length + (g.baseName v).length + trail.length)
        (max 40 (lead.length + trail.length)) ∧
    (∀ namer, ((g.between lead trail).className v).limitWarning ∈
        ((g.between lead trail).contribution namer v).log ↔ 40 < lead.length + trail.length) ∧
    (g.Spelled v lead trail → lead.length + trail.length < 40 →
      isIdentifier ((g.between lead trail).className v).text.toList = true) := by
  refine ⟨⟨_, text_affixed, ?_⟩, length_affixed, fun namer => limitWarning_logged_iff,
    Spelled.className⟩
  rw [String.toList_ofList]
  exact longestStart_take _ _

/-- A prefix and a suffix that leave one character, which is the initial of the object. -/
theorem className_shape_initial :
    let g : ValueSetGenerator := { apiVersion := "60.0", kind := .customField, joiner := "_Of_" }
    let v : ValueSet := ⟨"Invoice__c", .customField, [], some "Pay_Status__c", none⟩
    let lead := "PrefixOfTwentyChars_"
    let trail := "_SuffixOfNineteenCh"
    g.Spelled v lead trail ∧ lead.length + trail.length < 40 ∧
      ((g.between lead trail).className v).text = "PrefixOfTwentyChars_I_SuffixOfNineteenCh" ∧
      isIdentifier ((g.between lead trail).className v).text.toList = true := by
  intro g v lead trail
  have hspelled : g.Spelled v lead trail :=
    ⟨by decide, .inr (by decide), .inr (by decide), List.all_eq_true.mp (by decide),
      List.all_eq_true.mp (by decide)⟩
  have hroom : lead.length + trail.length < 40 := by decide
  obtain ⟨-, -, -, hidentifier⟩ := className_shape g v lead trail
  exact ⟨hspelled, hroom, by decide +kernel, hidentifier hspelled hroom⟩

/-- The base as the names in a value set give it, whether or not it is taken. -/
def givenBase (g : ValueSetGenerator) (v : ValueSet) : String :=
  match g.kind with
  | .customField => fieldBase v.owner (v.member.getD "") g.joiner
  | .standard => v.owner
  | .global => v.owner

theorem mem_platformTypeNames {name : String} :
    name ∈ platformTypeNames ↔ name = "LeadStatus" := List.mem_singleton

theorem baseName_eq : g.baseName v =
    if g.kind = .standard ∧ v.owner ∈ platformTypeNames then g.givenBase v ++ "_"
    else g.givenBase v := by
  unfold baseName givenBase
  cases g.kind with
  | customField => simp
  | standard => simp [standardBase]
  | global => simp

theorem givenBase_of_standard (h : g.kind = .standard) : g.givenBase v = v.owner := by
  rw [givenBase, h]

theorem affixes_empty_iff {lead base trail : String} :
    lead ++ base ++ trail = base ↔ lead = "" ∧ trail = "" := by
  constructor
  · intro h
    have hlength := congrArg String.length h
    rw [String.length_append, String.length_append] at hlength
    exact ⟨String.length_eq_zero_iff.mp (by omega), String.length_eq_zero_iff.mp (by omega)⟩
  · rintro ⟨rfl, rfl⟩
    rw [String.empty_append, String.append_empty]

/-- A class takes the name of a platform type exactly when prefix, base and suffix spell it, unless
they are those of the standard value set of that name, with neither prefix nor suffix. -/
theorem takes_platform_name_iff (g : ValueSetGenerator) (v : ValueSet) (lead trail : String) :
    ((g.between lead trail).className v).text ∈ platformTypeNames ↔
      lead ++ g.givenBase v ++ trail ∈ platformTypeNames ∧
        ¬ (g.kind = .standard ∧ lead = "" ∧ trail = "") := by
  have hshort : "LeadStatus".length < 40 := by decide
  rw [mem_platformTypeNames, mem_platformTypeNames, className_between, text_affixed_eq_iff hshort,
    baseName_eq]
  split
  · rename_i htaken
    have hbase : g.givenBase v = "LeadStatus" :=
      (givenBase_of_standard htaken.1).trans (mem_platformTypeNames.mp htaken.2)
    rw [hbase, affixes_empty_iff]
    refine iff_of_false (fun h => ?_) fun h => h.2 ⟨htaken.1, h.1⟩
    -- With the underscore alone the name is too long.
    have hlength := congrArg String.length h
    rw [String.length_append, String.length_append, String.length_append] at hlength
    have hone : "_".length = 1 := rfl
    omega
  · rename_i hfree
    refine (and_iff_left_of_imp fun hname => ?_).symm
    rintro ⟨hkind, rfl, rfl⟩
    rw [String.empty_append, String.append_empty, givenBase_of_standard hkind] at hname
    exact hfree ⟨hkind, mem_platformTypeNames.mpr hname⟩

/-- Each kind has a class with the name of a platform type: a field of a lead, a standard value set
whose prefix completes the name, and a global value set of that name. -/
theorem platform_name_taken :
    (className { apiVersion := "60.0", kind := .customField }
      ⟨"Lead", .customField, [some "Open"], some "Status__c", none⟩).text ∈ platformTypeNames ∧
    (className { apiVersion := "60.0", kind := .standard, lead := { text := "Lead" } }
      ⟨"Status", .standard, [some "Open"], none, none⟩).text ∈ platformTypeNames ∧
    (className { apiVersion := "60.0", kind := .global }
      ⟨"LeadStatus", .global, [some "Open"], none, none⟩).text ∈ platformTypeNames := by
  decide +kernel

end ValueSetGenerator

end ApexConstants
