import ApexConstants.Proofs.KindPlans

namespace ApexConstants.Apex
namespace Namer

def after (n : Namer) (asked : List Question) : Namer :=
  asked.foldl (fun n q => (n.answer? q).2) n

def replies (n : Namer) : List Question → List (Option Answer)
  | [] => []
  | q :: rest => (n.answer? q).1 :: (n.answer? q).2.replies rest

variable {n m : Namer}

theorem answer_rules (n : Namer) (q : Question) : (n.answer q).2.rules = n.rules := by
  cases q with
  | sanitize raw => exact sanitize_rules n raw
  | constantName raw => exact constantName_rules n raw
  | isReserved name => rfl

theorem answer?_rules (n : Namer) (q : Question) : (n.answer? q).2.rules = n.rules := by
  unfold answer?
  split
  · exact answer_rules n q
  · rfl

theorem after_rules (n : Namer) (asked : List Question) : (n.after asked).rules = n.rules := by
  induction asked generalizing n with
  | nil => rfl
  | cons q asked ih => exact (ih (n.answer? q).2).trans (answer?_rules n q)

/-- Two namers with the same rules say the same, whatever they have kept. -/
theorem answer?_congr (h : m.rules = n.rules) (q : Question) :
    (m.answer? q).1 = (n.answer? q).1 := by
  have hanswer : (m.answer q).1 = (n.answer q).1 := by
    cases q with
    | sanitize raw => simp [answer, sanitize_eq, h]
    | constantName raw => simp [answer, constantName_eq, h]
    | isReserved name => simp [answer, h]
  unfold answer?
  rw [h]
  split
  · exact congrArg some hanswer
  · rfl

theorem replies_eq (n : Namer) (asked : List Question) :
    n.replies asked = asked.map fun q => (n.answer? q).1 := by
  induction asked generalizing n with
  | nil => rfl
  | cons q asked ih =>
    rw [replies, ih, List.map_cons]
    exact congrArg _ (List.map_congr_left fun r _ => answer?_congr (answer?_rules n q) r)

/-- A name that is asked for is known afterwards, and nothing else has become known. -/
theorem mem_known_sanitize {raw text name : String} :
    (text, name) ∈ (n.sanitize raw).2.known ↔
      (text, name) ∈ n.known ∨ text = raw ∧ name = n.rules.sanitize raw := by
  unfold sanitize
  cases hfound : n.known.lookup raw with
  | none =>
    change (text, name) ∈ (raw, n.rules.sanitize raw) :: n.known ↔ _
    rw [List.mem_cons, Prod.mk.injEq, or_comm]
  | some found =>
    obtain ⟨front, back, hknown, -⟩ := List.lookup_eq_some_iff.mp hfound
    have hentry : (raw, found) ∈ n.known := by simp [hknown]
    have hname : found = n.rules.sanitize raw := n.sound _ hentry
    refine ⟨.inl, ?_⟩
    rintro (h | ⟨rfl, rfl⟩)
    · exact h
    · exact hname ▸ hentry

theorem mem_known_answer {q : Question} {text name : String} :
    (text, name) ∈ (n.answer q).2.known ↔
      (text, name) ∈ n.known ∨ q.raw? = some text ∧ name = n.rules.sanitize text := by
  have hasked {raw : String} : text = raw ∧ name = n.rules.sanitize raw ↔
      some raw = some text ∧ name = n.rules.sanitize text := by
    constructor
    · rintro ⟨rfl, hname⟩
      exact ⟨rfl, hname⟩
    · rintro ⟨hraw, hname⟩
      cases hraw
      exact ⟨rfl, hname⟩
  cases q with
  | sanitize raw => exact mem_known_sanitize.trans (or_congr_right hasked)
  | constantName raw => exact mem_known_sanitize.trans (or_congr_right hasked)
  | isReserved word => simp [answer, Question.raw?]

theorem mem_known_answer? {q : Question} {text name : String} :
    (text, name) ∈ (n.answer? q).2.known ↔ (text, name) ∈ n.known ∨
      q.raw? = some text ∧ n.rules.hasName text = true ∧ name = n.rules.sanitize text := by
  unfold answer?
  split
  · rename_i hnamed
    refine mem_known_answer.trans (or_congr_right (and_congr_right fun hraw => ?_))
    rw [hraw, Option.all_some] at hnamed
    simp [hnamed]
  · rename_i hunnamed
    refine (or_iff_left ?_).symm
    rintro ⟨hraw, hname, -⟩
    rw [hraw, Option.all_some] at hunnamed
    exact hunnamed hname

/-- What a namer knows is what it has been asked for, as far as there is an identifier for it. -/
theorem mem_known_after {asked : List Question} {text name : String} :
    (text, name) ∈ (n.after asked).known ↔ (text, name) ∈ n.known ∨
      (∃ q ∈ asked, q.raw? = some text) ∧ n.rules.hasName text = true ∧
        name = n.rules.sanitize text := by
  induction asked generalizing n with
  | nil => simp [after]
  | cons q asked ih =>
    have hstep : n.after (q :: asked) = (n.answer? q).2.after asked := rfl
    rw [hstep, ih, mem_known_answer?, answer?_rules, List.exists_mem_cons_iff]
    tauto

end Namer

end ApexConstants.Apex

namespace ApexConstants
open Apex (Constant Namer Sanitizer)

namespace Tally

theorem mem_valuesOf {labels : List (Option String)} {value : String} :
    value ∈ valuesOf labels ↔ some value ∈ labels ∧ value ≠ "" := by
  simp [valuesOf, List.mem_filterMap, Option.filter_eq_some_iff]

theorem addLabel_namer (t : Tally) (value : String) :
    (t.addLabel value).namer = (t.namer.constantName value).2 := by
  rcases t.addLabel_cases value with ⟨first, _, _, heq⟩ | ⟨_, heq⟩
  · rw [heq]
  · rw [heq]

/-- A tally does nothing with its namer but ask it for the constant names of values. -/
theorem addAll_namer {t : Tally} {labels : List (Option String)}
    (h : ∀ value ∈ valuesOf labels, t.namer.rules.hasName value = true) :
    (labels.foldl add t).namer = t.namer.after ((valuesOf labels).map .constantName) := by
  induction labels generalizing t with
  | nil => rfl
  | cons label labels ih =>
    cases label with
    | none => exact ih h
    | some value =>
      by_cases hempty : value = ""
      · subst hempty
        exact ih h
      · have hvalues : valuesOf (some value :: labels) = value :: valuesOf labels := by
          simp [valuesOf, Option.filter_some, hempty]
        rw [hvalues] at h ⊢
        obtain ⟨hvalue, hmore⟩ := List.forall_mem_cons.mp h
        have hadd : t.add (some value) = t.addLabel value := by simp [Tally.add, hempty]
        have hasked : (t.addLabel value).namer = (t.namer.answer? (.constantName value)).2 := by
          simp [addLabel_namer, Namer.answer?, Namer.Question.raw?, hvalue, Namer.answer]
        have hrules := Namer.answer?_rules t.namer (.constantName value)
        rw [List.foldl_cons, hadd, ih, hasked]
        · rfl
        · rwa [hasked, hrules]

end Tally

/-- No value that is taken as a label lacks an identifier. -/
theorem hasName_of_labelsOf (rules : Sanitizer) (values : List Json) :
    ∀ value ∈ Tally.valuesOf (labelsOf rules values).1, rules.hasName value = true := by
  simp only [Tally.mem_valuesOf]
  fun_induction labelsOf rules values with
  | case1 => simp
  | case2 text rest hnamed labels outcome hrest ih =>
    rw [hrest] at ih
    rintro value ⟨hlabel, hvalue⟩
    rcases List.mem_cons.mp hlabel with heq | hlabel
    · cases heq
      simpa [hvalue] using hnamed
    · exact ih value ⟨hlabel, hvalue⟩
  | case3 => simp
  | case4 => simp
  | case5 other rest _ _ labels outcome hrest ih =>
    rw [hrest] at ih
    simpa using ih

namespace Apex.Namer

/-- What a generator makes of values with a namer that it may share with others: the constants,
unless it stumbles over a value, and the warnings where they are collected. Behind it stands the
namer afterwards. -/
def constantsFor (n : Namer) (values : List Json) (told : Option (List String)) :
    (Except ValueFault (List Constant) × Option (List String)) × Namer :=
  let (labels, outcome) := labelsOf n.rules values
  let (tally, told) := Tally.collect { namer := n } told labels
  ((outcome.map fun _ => tally.constants, told), tally.namer)

def questionsFor (rules : Sanitizer) (values : List Json) : List Question :=
  (Tally.valuesOf (labelsOf rules values).1).map .constantName

variable {n m : Namer}

theorem constantsFor_congr (h : m.rules = n.rules) (values : List Json)
    (told : Option (List String)) :
    (m.constantsFor values told).1 = (n.constantsFor values told).1 := by
  obtain ⟨hconstants, hwarnings⟩ := Tally.ofLabels_congr h (labelsOf n.rules values).1
  simp only [constantsFor, h, Tally.collect_ofLabels, hconstants, hwarnings]

theorem constantsFor_asks (n : Namer) (values : List Json) (told : Option (List String)) :
    (n.constantsFor values told).2 = n.after (questionsFor n.rules values) := by
  simp only [constantsFor, Tally.collect_ofLabels]
  exact Tally.addAll_namer (t := { namer := n }) (hasName_of_labelsOf n.rules values)

/-- A namer that was asked some questions since it was new, by one generator or by several, cannot
be told from a new one. -/
structure AnswersAsNew (rules : Sanitizer) (asked : List Question) : Prop where
  /-- Each of the questions was answered as a new namer answers it. -/
  replied : (fresh rules).replies asked = asked.map fun q => ((fresh rules).answer? q).1
  /-- What has been kept is what was asked for, as far as there is an identifier for it. -/
  kept : ∀ text name, (text, name) ∈ ((fresh rules).after asked).known ↔
    (∃ q ∈ asked, q.raw? = some text) ∧ rules.hasName text = true ∧ name = rules.sanitize text
  /-- A generator makes of values what it makes of them with a new namer. -/
  constants : ∀ values told, (((fresh rules).after asked).constantsFor values told).1 =
    ((fresh rules).constantsFor values told).1
  /-- What a generator does to the namer is to ask it further questions. -/
  asks : ∀ values told, (((fresh rules).after asked).constantsFor values told).2 =
    (fresh rules).after (asked ++ questionsFor rules values)

/-- Whatever the rules are, what a namer keeps never shows. -/
theorem namer_answers_as_new (rules : Sanitizer) (asked : List Question) :
    AnswersAsNew rules asked := by
  have hrules := after_rules (fresh rules) asked
  refine ⟨replies_eq _ asked, ?_, ?_, ?_⟩
  · intro text name
    refine mem_known_after.trans (or_iff_right ?_)
    exact List.not_mem_nil
  · intro values told
    exact constantsFor_congr hrules values told
  · intro values told
    rw [constantsFor_asks, hrules]
    exact (List.foldl_append ..).symm

end Apex.Namer

end ApexConstants
