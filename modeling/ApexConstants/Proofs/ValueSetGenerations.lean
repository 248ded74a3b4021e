import ApexConstants.Proofs.Outcomes
import ApexConstants.Proofs.UsableNames
import ApexConstants.Proofs.WrittenFiles
import ApexConstants.ValueSets

namespace ApexConstants
open Apex (Constant Namer Sanitizer)

theorem Apex.Namer.sanitize_rules (n : Namer) (raw : String) :
    (n.sanitize raw).2.rules = n.rules := by
  unfold Namer.sanitize
  cases n.known.lookup raw <;> rfl

theorem Apex.Namer.constantName_rules (n : Namer) (raw : String) :
    (n.constantName raw).2.rules = n.rules := n.sanitize_rules raw

namespace Tally

/-- A label that is not empty is a clash with the first constant of its name, or the next
constant. -/
theorem addLabel_cases (t : Tally) (value : String) :
    (∃ first ∈ t.constants, first.name = (t.namer.constantName value).1 ∧
      t.addLabel value = ⟨(t.namer.constantName value).2, t.constants,
        t.clashes ++ [⟨value, (t.namer.constantName value).1, first.value⟩]⟩) ∨
    ((∀ c ∈ t.constants, c.name ≠ (t.namer.constantName value).1) ∧
      t.addLabel value = ⟨(t.namer.constantName value).2,
        t.constants ++ [⟨(t.namer.constantName value).1, value⟩], t.clashes⟩) := by
  unfold addLabel
  obtain ⟨name, after⟩ := t.namer.constantName value
  dsimp only
  cases hfound : t.constants.find? (·.name == name) with
  | some first =>
    have hname := List.find?_some hfound
    exact .inl ⟨first, List.mem_of_find?_eq_some hfound, beq_iff_eq.mp hname, rfl⟩
  | none =>
    have hfree := List.find?_eq_none.mp hfound
    exact .inr ⟨fun c hc heq => hfree c hc (beq_iff_eq.mpr heq), rfl⟩

structure Named (rules : Sanitizer) (t : Tally) : Prop where
  sameRules : t.namer.rules = rules
  names : ∀ c ∈ t.constants, c.name = rules.constantName c.value

theorem Named.addLabel {rules : Sanitizer} {t : Tally} (h : t.Named rules) (value : String) :
    (t.addLabel value).Named rules := by
  have hname : (t.namer.constantName value).1 = rules.constantName value := by
    rw [Namer.constantName_eq, h.sameRules]
  have hrules : (t.namer.constantName value).2.rules = rules := by
    rw [Namer.constantName_rules, h.sameRules]
  rcases t.addLabel_cases value with ⟨first, _, _, heq⟩ | ⟨_, heq⟩
  · rw [heq]
    exact ⟨hrules, h.names⟩
  · rw [heq]
    refine ⟨hrules, ?_⟩
    intro c hc
    rcases List.mem_append.mp hc with hc | hc
    · exact h.names c hc
    · rw [List.mem_singleton.mp hc]
      exact hname

theorem Named.add {rules : Sanitizer} {t : Tally} (h : t.Named rules) (label : Option String) :
    (t.add label).Named rules := by
  cases label with
  | none => exact h
  | some value =>
    simp only [Tally.add]
    split
    · exact h
    · exact h.addLabel value

theorem Named.addAll {rules : Sanitizer} {t : Tally} (h : t.Named rules)
    (labels : List (Option String)) : (labels.foldl Tally.add t).Named rules := by
  induction labels generalizing t with
  | nil => exact h
  | cons label labels ih => exact ih (h.add label)

theorem ofLabels_named (namer : Namer) (labels : List (Option String)) :
    (ofLabels namer labels).Named namer.rules :=
  Named.addAll (t := { namer }) ⟨rfl, by simp⟩ labels

/-- No label takes a constant away. -/
theorem constants_add (t : Tally) (label : Option String) :
    t.constants <+: (t.add label).constants := by
  cases label with
  | none => exact List.prefix_refl _
  | some value =>
    simp only [Tally.add]
    split
    · exact List.prefix_refl _
    · rcases t.addLabel_cases value with ⟨first, _, _, heq⟩ | ⟨_, heq⟩
      · simp [heq]
      · simp [heq]

theorem constants_addAll (t : Tally) (labels : List (Option String)) :
    t.constants <+: (labels.foldl Tally.add t).constants := by
  induction labels generalizing t with
  | nil => exact List.prefix_refl _
  | cons label labels ih => exact (t.constants_add label).trans (ih (t.add label))

/-- A label that is not empty leaves a constant behind, its own or the one it clashes with. -/
theorem addLabel_ne_nil (t : Tally) (value : String) : (t.addLabel value).constants ≠ [] := by
  rcases t.addLabel_cases value with ⟨first, hfirst, _, heq⟩ | ⟨_, heq⟩
  · rw [heq]
    exact List.ne_nil_of_mem hfirst
  · simp [heq]

theorem addAll_ne_nil (t : Tally) {labels : List (Option String)} {value : String}
    (hm : some value ∈ labels) (hne : value ≠ "") :
    (labels.foldl Tally.add t).constants ≠ [] := by
  induction labels generalizing t with
  | nil => cases hm
  | cons label labels ih =>
    rcases List.mem_cons.mp hm with rfl | hm
    · have hadd : t.add (some value) = t.addLabel value := by simp [Tally.add, hne]
      obtain ⟨more, hmore⟩ := (t.addLabel value).constants_addAll labels
      rw [List.foldl_cons, hadd, ← hmore]
      simp [t.addLabel_ne_nil value]
    · exact ih (t.add label) hm

/-- There is a constant to declare as soon as one label is not empty. -/
theorem ofLabels_ne_nil (namer : Namer) {labels : List (Option String)} {value : String}
    (hm : some value ∈ labels) (hne : value ≠ "") : (ofLabels namer labels).constants ≠ [] :=
  addAll_ne_nil { namer } hm hne

theorem addAll_of_empty (t : Tally) {labels : List (Option String)}
    (h : ∀ value, some value ∈ labels → value = "") : labels.foldl Tally.add t = t := by
  induction labels with
  | nil => rfl
  | cons label labels ih =>
    have hadd : t.add label = t := by
      cases label with
      | none => rfl
      | some value => simp [Tally.add, h value List.mem_cons_self]
    rw [List.foldl_cons, hadd]
    exact ih fun value hm => h value (List.mem_cons_of_mem label hm)

theorem ofLabels_eq_nil_iff (namer : Namer) (labels : List (Option String)) :
    (ofLabels namer labels).constants = [] ↔ ∀ value, some value ∈ labels → value = "" := by
  constructor
  · intro hnil value hm
    by_contra hne
    exact ofLabels_ne_nil namer hm hne hnil
  · intro h
    rw [ofLabels, addAll_of_empty _ h]

end Tally

def ValueSet.hasLabel (v : ValueSet) : Bool := v.values.any fun label => label.any (!·.isEmpty)

theorem ValueSet.hasLabel_eq_false {v : ValueSet} (namer : Namer) :
    v.hasLabel = false ↔ (Tally.ofLabels namer v.values).constants = [] := by
  rw [Tally.ofLabels_eq_nil_iff]
  simp only [hasLabel, List.any_eq_false]
  constructor
  · intro h value hm
    simpa using h (some value) hm
  · intro h label hm
    cases label with
    | none => simp
    | some value => simp [h value hm]

namespace ValueSetGenerator

/-- Without a constant there is no body; else it is the tidied source. -/
theorem body?_cases {g : ValueSetGenerator} {constants : List Constant} {header className : String}
    {answer : Option String} (h : g.body? constants header className = .ok answer) :
    (constants = [] ∧ answer = none) ∨
      (constants ≠ [] ∧
        answer = some (Apex.tidy (Apex.valueSetSource header className constants))) := by
  unfold ValueSetGenerator.body? at h
  split at h
  · rename_i hempty
    cases h
    exact .inl ⟨List.isEmpty_iff.mp hempty, rfl⟩
  · rename_i hsome
    obtain ⟨_, _, h⟩ := bind_eq_ok.mp h
    cases h
    exact .inr ⟨fun hnil => hsome (List.isEmpty_iff.mpr hnil), rfl⟩

/-- Without a constant a set is skipped; else it yields the class that is named after it. -/
theorem yield_cases {g : ValueSetGenerator} {v : ValueSet} {constants : List Constant} {y : Yield}
    (h : g.yield v constants = .ok y) :
    (constants = [] ∧ y = .skipped v.qualifiedName) ∨
      (constants ≠ [] ∧ ∃ body stamp,
        y = .generated ⟨.str (g.className v).text, body, stamp, some v.qualifiedName⟩) := by
  obtain ⟨answer, hbody, h⟩ := bind_eq_ok.mp h
  rcases body?_cases hbody with ⟨hnil, rfl⟩ | ⟨hsome, rfl⟩
  · cases h
    exact .inl ⟨hnil, rfl⟩
  · obtain ⟨stamp, _, h⟩ := bind_eq_ok.mp h
    cases h
    exact .inr ⟨hsome, _, stamp, rfl⟩

/-- A set that is added successfully stands behind what was there, as what it yields. -/
theorem add_ok {g : ValueSetGenerator} {so : ValueSetGeneration} {v : ValueSet} {after : Result}
    (h : (g.add so v).outcome = .ok after) :
    ∃ result y, so.outcome = .ok result ∧ (g.contribution so.namer v).yield = .ok y ∧
      after = result.add (g.contribution so.namer v).warnings y := by
  unfold add at h
  cases hso : so.outcome with
  | error fault =>
    simp only [hso] at h
    cases h
  | ok result =>
    simp only [hso] at h
    cases hy : (g.contribution so.namer v).yield with
    | error fault => simp [hy] at h
    | ok y =>
      simp only [hy] at h
      exact ⟨result, y, rfl, rfl, (Except.ok.inj h).symm⟩

def namesOf (g : ValueSetGenerator) (sets : List ValueSet) : List Json :=
  (sets.filter ValueSet.hasLabel).map fun v => .str (g.className v).text

theorem add_names {g : ValueSetGenerator} {so : ValueSetGeneration} {v : ValueSet} {after : Result}
    (h : (g.add so v).outcome = .ok after) :
    ∃ result, so.outcome = .ok result ∧ after.classNames = result.classNames ++ g.namesOf [v] := by
  obtain ⟨result, y, hso, hy, rfl⟩ := add_ok h
  refine ⟨result, hso, ?_⟩
  rcases yield_cases hy with ⟨hnil, rfl⟩ | ⟨hsome, body, stamp, rfl⟩
  · have hlabel := (ValueSet.hasLabel_eq_false so.namer).mpr hnil
    simp [Result.add, Result.classNames, namesOf, hlabel]
  · have hlabel : v.hasLabel = true := by
      cases hv : v.hasLabel with
      | true => rfl
      | false => exact absurd ((ValueSet.hasLabel_eq_false so.namer).mp hv) hsome
    simp [Result.add, Result.classNames, namesOf, hlabel]

theorem addAll_names {g : ValueSetGenerator} {so : ValueSetGeneration} {sets : List ValueSet}
    {after : Result} (h : (sets.foldl g.add so).outcome = .ok after) :
    ∃ result, so.outcome = .ok result ∧ after.classNames = result.classNames ++ g.namesOf sets := by
  induction sets generalizing so with
  | nil => exact ⟨after, h, by simp [namesOf]⟩
  | cons v sets ih =>
    obtain ⟨middle, hmiddle, hafter⟩ := ih h
    obtain ⟨result, hso, hnames⟩ := add_names hmiddle
    refine ⟨result, hso, ?_⟩
    have hcons : g.namesOf (v :: sets) = g.namesOf [v] ++ g.namesOf sets := by
      simp only [namesOf, ← List.map_append, ← List.filter_append, List.singleton_append]
    rw [hafter, hnames, hcons, List.append_assoc]

/-- A generation names its classes after the sets that have a label, and after nothing else. -/
theorem generate_names {g : ValueSetGenerator} {namer : Namer} {sets : List ValueSet}
    {result : Result} (h : (g.generate namer sets).outcome = .ok result) :
    result.classNames = g.namesOf sets := by
  obtain ⟨first, hfirst, hnames⟩ := addAll_names h
  cases hfirst
  simpa [Result.classNames] using hnames

/-- A run that succeeds has written the pairs of all classes of its generation. -/
theorem run_ok {store : Type} {g : ValueSetGenerator} {namer : Namer} {sets : List ValueSet}
    {folder : Path} {writer : Writer store Failure} {s : store} {result : Result}
    (h : (g.run namer sets folder writer s).1.outcome = .ok result) :
    ∃ generated, (g.generate namer sets).outcome = .ok generated ∧
      result.classes = generated.classes ∧
      writeFiles writer s (result.classes.flatMap (·.files folder)) =
        ((g.run namer sets folder writer s).2, .ok ()) := by
  unfold run at h ⊢
  cases hgenerated : (g.generate namer sets).outcome with
  | error fault =>
    simp only [hgenerated] at h
    cases h
  | ok generated =>
    simp only [hgenerated] at h ⊢
    obtain ⟨paths, hpaths, hnoted⟩ := map_eq_ok.mp h
    obtain ⟨_, hwritten, _⟩ := map_eq_ok.mp hpaths
    have hclasses : result.classes = generated.classes := by rw [← hnoted]; rfl
    refine ⟨generated, rfl, hclasses, ?_⟩
    rw [hclasses, writeFiles_pairs, hwritten]
    rfl

/-- A run succeeds when the generation does and its files can be written. -/
theorem run_outcome {store : Type} {g : ValueSetGenerator} {namer : Namer} {sets : List ValueSet}
    {folder : Path} {writer : Writer store Failure} {s after : store} {generated : Result}
    (hgenerated : (g.generate namer sets).outcome = .ok generated)
    (hwritten : writeFiles writer s (generated.classes.flatMap (·.files folder)) =
      (after, .ok ())) :
    ∃ result, (g.run namer sets folder writer s).1.outcome = .ok result := by
  have hpairs := (writeFiles_pairs writer folder s generated.classes).symm.trans hwritten
  have houtcome := congrArg Prod.snd hpairs
  dsimp only at houtcome
  unfold run
  simp only [hgenerated, Result.write, houtcome, Except.map]
  exact ⟨_, rfl⟩

end ValueSetGenerator

end ApexConstants
