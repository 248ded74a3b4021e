import ApexConstants.Proofs.ValueSetGenerations

namespace ApexConstants
open Apex (Constant Namer Sanitizer)

namespace Tally

/-- The values among labels: those that are given and not empty. -/
def valuesOf (labels : List (Option String)) : List String :=
  labels.filterMap fun label => label.filter (!·.isEmpty)

/-- The constant for the value at a position, which there is when no value in front of it has its
name. -/
def keptAt (rules : Sanitizer) (values : List String) : String × Nat → Option Constant
  | (value, position) =>
    if ∀ earlier ∈ values.take position, rules.constantName earlier ≠ rules.constantName value then
      some ⟨rules.constantName value, value⟩
    else none

/-- The clash of the value at a position with the first value in front of it that has its name. -/
def clashAt (rules : Sanitizer) (values : List String) : String × Nat → Option Clash
  | (value, position) =>
    ((values.take position).find? fun earlier =>
      rules.constantName earlier == rules.constantName value).map
        fun first => ⟨value, rules.constantName value, first⟩

/-- Every value is accounted for in its order: it is kept as a constant, or it is a clash with a
value that is kept. -/
structure Accounts (rules : Sanitizer) (values : List String) (constants : List Constant)
    (clashes : List Clash) : Prop where
  kept : constants = values.zipIdx.filterMap (keptAt rules values)
  clashing : clashes = values.zipIdx.filterMap (clashAt rules values)
  distinct : (constants.map Constant.name).Nodup
  inOrder : (constants.map Constant.value).Sublist values
  withKept : ∀ clash ∈ clashes, ⟨clash.name, clash.kept⟩ ∈ constants
  total : constants.length + clashes.length = values.length

/-- One value more does not change what becomes of the values in front of it. -/
theorem filterMap_zipIdx_concat {β : Type} {f g : String × Nat → Option β} {values : List String}
    {value : String} (h : ∀ v i, i ≤ values.length → f (v, i) = g (v, i)) :
    (values ++ [value]).zipIdx.filterMap f =
      values.zipIdx.filterMap g ++ (g (value, values.length)).toList := by
  have hfront : values.zipIdx.filterMap f = values.zipIdx.filterMap g := by
    apply List.filterMap_congr
    intro ⟨v, i⟩ hm
    have hi : i < values.length := by simpa using List.snd_lt_of_mem_zipIdx hm
    exact h v i (Nat.le_of_lt hi)
  have hlast : [(value, values.length)].filterMap f = (g (value, values.length)).toList := by
    rw [List.filterMap_cons, h value values.length (Nat.le_refl _)]
    cases g (value, values.length) <;> rfl
  rw [List.zipIdx_append, List.filterMap_append, hfront, ← hlast]
  simp

theorem keptAt_concat (rules : Sanitizer) (values : List String) (value : String) :
    (values ++ [value]).zipIdx.filterMap (keptAt rules (values ++ [value])) =
      values.zipIdx.filterMap (keptAt rules values) ++
        (keptAt rules values (value, values.length)).toList := by
  apply filterMap_zipIdx_concat
  intro v i hi
  simp only [keptAt, List.take_append_of_le_length hi]

theorem clashAt_concat (rules : Sanitizer) (values : List String) (value : String) :
    (values ++ [value]).zipIdx.filterMap (clashAt rules (values ++ [value])) =
      values.zipIdx.filterMap (clashAt rules values) ++
        (clashAt rules values (value, values.length)).toList := by
  apply filterMap_zipIdx_concat
  intro v i hi
  simp only [clashAt, List.take_append_of_le_length hi]

/-- A tally of values: it accounts for them, and the constant that bears a name has the first value
of this name. -/
structure Follows (rules : Sanitizer) (values : List String) (t : Tally) : Prop
    extends Accounts rules values t.constants t.clashes where
  sameRules : t.namer.rules = rules
  firstHolds : ∀ name, (t.constants.find? (·.name == name)).map Constant.value =
    values.find? fun value => rules.constantName value == name

theorem follows_nothing (namer : Namer) : Follows namer.rules [] { namer } where
  kept := rfl
  clashing := rfl
  distinct := List.nodup_nil
  inOrder := List.Sublist.refl _
  withKept := by simp
  total := rfl
  sameRules := rfl
  firstHolds _ := rfl

/-- A value whose name is taken. -/
theorem Follows.clash {rules : Sanitizer} {values : List String} {t : Tally}
    (h : Follows rules values t) {value : String} {first : Constant} (namer : Namer)
    (hnamer : namer.rules = rules)
    (hfound : t.constants.find? (·.name == rules.constantName value) = some first) :
    Follows rules (values ++ [value]) ⟨namer, t.constants,
      t.clashes ++ [⟨value, rules.constantName value, first.value⟩]⟩ := by
  have hholder : values.find? (fun v => rules.constantName v == rules.constantName value) =
      some first.value := by
    rw [← h.firstHolds, hfound]
    rfl
  have hname : first.name = rules.constantName value :=
    beq_iff_eq.mp (List.find?_some (p := fun c : Constant => c.name == _) hfound)
  have htaken : ∃ v ∈ values, rules.constantName v = rules.constantName value :=
    ⟨first.value, List.mem_of_find?_eq_some hholder,
      beq_iff_eq.mp (List.find?_some (p := fun v => rules.constantName v == _) hholder)⟩
  refine ⟨⟨?_, ?_, h.distinct, ?_, ?_, ?_⟩, hnamer, ?_⟩
  · rw [keptAt_concat, ← h.kept]
    simpa [keptAt] using htaken
  · rw [clashAt_concat, ← h.clashing]
    simp [clashAt, hholder]
  · exact h.inOrder.trans (List.sublist_append_left values [value])
  · intro clash hclash
    rcases List.mem_append.mp hclash with hclash | hclash
    · exact h.withKept clash hclash
    · rw [List.mem_singleton.mp hclash, ← hname]
      exact List.mem_of_find?_eq_some hfound
  · simp only [List.length_append, List.length_singleton]
    have := h.total
    omega
  · intro name
    rw [List.find?_append, h.firstHolds name]
    by_cases heq : rules.constantName value = name
    · rw [← heq, hholder]
      rfl
    · simp [heq]

/-- A value whose name is free. -/
theorem Follows.keep {rules : Sanitizer} {values : List String} {t : Tally}
    (h : Follows rules values t) {value : String} (namer : Namer) (hnamer : namer.rules = rules)
    (hfree : t.constants.find? (·.name == rules.constantName value) = none) :
    Follows rules (values ++ [value]) ⟨namer,
      t.constants ++ [⟨rules.constantName value, value⟩], t.clashes⟩ := by
  have hholder : values.find? (fun v => rules.constantName v == rules.constantName value) =
      none := by
    rw [← h.firstHolds, hfree]
    rfl
  have hnew : ∀ v ∈ values, rules.constantName v ≠ rules.constantName value := by
    intro v hv
    simpa using List.find?_eq_none.mp hholder v hv
  have hnames : ∀ c ∈ t.constants, c.name ≠ rules.constantName value := by
    intro c hc
    simpa using List.find?_eq_none.mp hfree c hc
  refine ⟨⟨?_, ?_, ?_, ?_, ?_, ?_⟩, hnamer, ?_⟩
  · have hkept : keptAt rules values (value, values.length) =
        some ⟨rules.constantName value, value⟩ := by
      simpa [keptAt] using hnew
    rw [keptAt_concat, ← h.kept, hkept]
    rfl
  · rw [clashAt_concat, ← h.clashing]
    simp [clashAt, hholder]
  · rw [List.map_append, List.map_singleton, List.nodup_append]
    refine ⟨h.distinct, by simp, ?_⟩
    intro name hname name' hname'
    obtain ⟨c, hc, rfl⟩ := List.mem_map.mp hname
    rw [List.mem_singleton.mp hname']
    exact hnames c hc
  · rw [List.map_append]
    exact h.inOrder.append (List.Sublist.refl [value])
  · intro clash hclash
    exact List.mem_append_left _ (h.withKept clash hclash)
  · simp only [List.length_append, List.length_singleton]
    have := h.total
    omega
  · intro name
    rw [List.find?_append, List.find?_append, ← h.firstHolds name, Option.map_or]
    by_cases heq : rules.constantName value = name <;> simp [heq]

theorem Follows.addLabel {rules : Sanitizer} {values : List String} {t : Tally}
    (h : Follows rules values t) (value : String) :
    Follows rules (values ++ [value]) (t.addLabel value) := by
  have hname : (t.namer.constantName value).1 = rules.constantName value := by
    rw [Namer.constantName_eq, h.sameRules]
  have hnamer : (t.namer.constantName value).2.rules = rules := by
    rw [Namer.constantName_rules, h.sameRules]
  unfold Tally.addLabel
  generalize t.namer.constantName value = answer at hname hnamer
  obtain ⟨name, namer⟩ := answer
  dsimp only at hname hnamer ⊢
  subst hname
  cases hfound : t.constants.find? (·.name == rules.constantName value) with
  | some first => exact h.clash namer hnamer hfound
  | none => exact h.keep namer hnamer hfound

theorem Follows.add {rules : Sanitizer} {values : List String} {t : Tally}
    (h : Follows rules values t) (label : Option String) :
    Follows rules (values ++ valuesOf [label]) (t.add label) := by
  cases label with
  | none => simpa [valuesOf, Tally.add] using h
  | some value =>
    by_cases hempty : value.isEmpty = true
    · have hnone : valuesOf [some value] = [] := by
        simp [valuesOf, Option.filter_some, hempty]
      simpa [hnone, Tally.add, hempty] using h
    · have hsome : valuesOf [some value] = [value] := by
        simp [valuesOf, Option.filter_some, hempty]
      simpa [hsome, Tally.add, hempty] using h.addLabel value

theorem Follows.addAll {rules : Sanitizer} {values : List String} {t : Tally}
    (h : Follows rules values t) (labels : List (Option String)) :
    Follows rules (values ++ valuesOf labels) (labels.foldl Tally.add t) := by
  induction labels generalizing values t with
  | nil => simpa [valuesOf] using h
  | cons label labels ih =>
    have hcons : valuesOf (label :: labels) = valuesOf [label] ++ valuesOf labels := by
      simp only [valuesOf, ← List.filterMap_append, List.singleton_append]
    rw [hcons, ← List.append_assoc]
    exact ih (h.add label)

theorem ofLabels_follows (namer : Namer) (labels : List (Option String)) :
    Follows namer.rules (valuesOf labels) (ofLabels namer labels) := by
  have h := (follows_nothing namer).addAll labels
  rwa [List.nil_append] at h

theorem clashes_add (t : Tally) (label : Option String) :
    (t.add label).clashes = t.clashes ++ (t.clash? label).toList := by
  cases label with
  | none => simp [Tally.add, clash?]
  | some value =>
    simp only [Tally.add, clash?]
    split
    · simp
    · unfold Tally.addLabel
      obtain ⟨name, namer⟩ := t.namer.constantName value
      dsimp only
      cases t.constants.find? (·.name == name) <;> simp

/-- Collecting goes through the labels like any tally, and tells the clashes that it adds. -/
theorem collect_eq (t : Tally) (warnings : Option (List String)) (labels : List (Option String)) :
    ∃ added, (labels.foldl Tally.add t).clashes = t.clashes ++ added ∧
      t.collect warnings labels =
        (labels.foldl Tally.add t, warnings.map (· ++ added.map Clash.message)) := by
  induction labels generalizing t warnings with
  | nil => exact ⟨[], by simp, by simp [collect]⟩
  | cons label labels ih =>
    obtain ⟨added, hclashes, hcollect⟩ :=
      ih (t.add label) (warnings.map (· ++ ((t.clash? label).map Clash.message).toList))
    refine ⟨(t.clash? label).toList ++ added, ?_, ?_⟩
    · rw [List.foldl_cons, hclashes, clashes_add, List.append_assoc]
    · rw [collect, hcollect, List.foldl_cons]
      cases t.clash? label <;> cases warnings <;> simp

theorem collect_ofLabels (namer : Namer) (warnings : Option (List String))
    (labels : List (Option String)) : collect { namer } warnings labels =
      (ofLabels namer labels, warnings.map (· ++ (ofLabels namer labels).warnings)) := by
  obtain ⟨added, hclashes, hcollect⟩ := collect_eq { namer } warnings labels
  rw [hcollect]
  simp only [List.nil_append] at hclashes
  rw [ofLabels, Tally.warnings, hclashes]

theorem valuesOf_eq_nil_iff (labels : List (Option String)) :
    valuesOf labels = [] ↔ ∀ value, some value ∈ labels → value = "" := by
  simp only [valuesOf, List.filterMap_eq_nil_iff]
  constructor
  · intro h value hm
    simpa using h (some value) hm
  · intro h label hm
    cases label with
    | none => rfl
    | some value => simp [h value hm]

/-- Whatever a namer has answered before, the first value of each name is kept and every other one
told as a clash with it, whether or not warnings are collected; further labels take nothing back,
and only where there is no value there is no class. -/
theorem constants_accounted (namer : Namer) (labels more : List (Option String))
    (warnings : Option (List String)) :
    let (t, told) := collect { namer } warnings labels
    Accounts namer.rules (valuesOf labels) t.constants t.clashes ∧
      told = warnings.map (· ++ t.clashes.map Clash.message) ∧
      t.constants = (collect { namer } none labels).1.constants ∧
      t.constants <+: (collect { namer } warnings (labels ++ more)).1.constants ∧
      ∀ (g : ValueSetGenerator) (header className : String),
        g.body? t.constants header className = .ok none ↔ valuesOf labels = [] := by
  rw [collect_ofLabels, collect_ofLabels, collect_ofLabels]
  refine ⟨(ofLabels_follows namer labels).toAccounts, rfl, rfl, ?_, ?_⟩
  · rw [ofLabels, ofLabels, List.foldl_append]
    exact constants_addAll _ more
  · intro g header className
    rw [valuesOf_eq_nil_iff, ← ofLabels_eq_nil_iff namer labels]
    constructor
    · intro h
      rcases ValueSetGenerator.body?_cases h with ⟨hnil, _⟩ | ⟨_, hsome⟩
      · exact hnil
      · cases hsome
    · intro hnil
      simp [ValueSetGenerator.body?, hnil]

end Tally

end ApexConstants
