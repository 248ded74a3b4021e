import ApexConstants.Proofs.IncludedRecords
import ApexConstants.Proofs.IndependentKinds

namespace ApexConstants
open Apex (Constant Namer Sanitizer)

/-- Two lists merged by flags, which say from which of them the next item comes. -/
def inTurn {α : Type} : List Bool → List α → List α → List α
  | true :: flags, x :: xs, ys => x :: inTurn flags xs ys
  | false :: flags, xs, y :: ys => y :: inTurn flags xs ys
  | _, xs, ys => xs ++ ys

/-- What one set has made of a result: a class that tells its source, or its name among those that
were skipped. -/
structure ValueSet.Accounted (v : ValueSet) (part : Result) : Prop where
  generated : v.hasLabel = true → ∃ c : GeneratedClass, part.classes = [c] ∧
    c.source = some v.qualifiedName ∧ part.skipped = []
  skipped : v.hasLabel = false → part.classes = [] ∧ part.skipped = [v.qualifiedName]

namespace ValueSetGenerator

/-- What comes of a set by itself, from a namer that has made no identifier yet. -/
def share (g : ValueSetGenerator) (rules : Sanitizer) (v : ValueSet) : Except Failure Result :=
  (g.generate (.fresh rules) [v]).outcome

def part (g : ValueSetGenerator) (rules : Sanitizer) (v : ValueSet) : Result :=
  (g.share rules v).toOption.getD {}

def gather (g : ValueSetGenerator) (parts : List Result) : Result where
  classes := parts.flatMap (·.classes)
  skipped := parts.flatMap (·.skipped)
  warnings := parts.flatMap (·.warnings)
  facts := [("kind", .str g.kind.text)]
  written := parts.flatMap (·.written)

variable {g : ValueSetGenerator} {rules : Sanitizer} {namer first second : Namer}
  {so : ValueSetGeneration} {v : ValueSet} {sets : List ValueSet} {result : Result}

theorem share_eq (g : ValueSetGenerator) (rules : Sanitizer) (v : ValueSet) :
    g.share rules v = match (g.contribution (.fresh rules) v).yield with
      | .ok yield => .ok ((g.gather []).add (g.contribution (.fresh rules) v).warnings yield)
      | .error fault => .error fault := rfl

theorem extend_add (r : Result) (warnings : List String) (y : Yield) :
    r.extend ((g.gather []).add warnings y) = r.add warnings y := by
  cases y <;> simp [Result.add, Result.extend, gather]

theorem extend_gather_nil (r : Result) : r.extend (g.gather []) = r := by
  simp [Result.extend, gather]

/-- Whatever the namer has kept, a set adds its share. -/
theorem add_outcome (h : so.namer.rules = rules) :
    (g.add so v).outcome = do
      let r ← so.outcome
      let share ← g.share rules v
      return r.extend share := by
  cases hso : so.outcome with
  | error fault =>
    rw [add_of_error hso, hso]
    rfl
  | ok r =>
    have hsame : so.namer.rules = (Namer.fresh rules).rules := h
    obtain ⟨_, hwarnings, hyield⟩ := contribution_congr (g := g) hsame v
    rw [add_of_ok hso, share_eq, hwarnings, hyield]
    cases (g.contribution (.fresh rules) v).yield with
    | error fault => rfl
    | ok y => exact congrArg Except.ok (extend_add r _ y).symm

theorem rules_add (so : ValueSetGeneration) (v : ValueSet) :
    (g.add so v).namer.rules = so.namer.rules := by
  cases hso : so.outcome with
  | error fault => rw [add_of_error hso]
  | ok r =>
    rw [add_of_ok hso]
    exact contribution_rules g so.namer v

/-- Sets that are added one after the other add their shares in this order. -/
theorem addAll_outcome (h : so.namer.rules = rules) (sets : List ValueSet) :
    (sets.foldl g.add so).outcome = do
      let r ← so.outcome
      let parts ← sets.mapM (g.share rules)
      return r.extend (g.gather parts) := by
  induction sets generalizing so with
  | nil =>
    simp only [List.foldl_nil, List.mapM_nil, pure_bind, extend_gather_nil, bind_pure]
  | cons v sets ih =>
    rw [List.foldl_cons, ih ((rules_add so v).trans h), add_outcome h, List.mapM_cons]
    simp only [bind_assoc, pure_bind]
    refine bind_congr fun r => bind_congr fun share => bind_congr fun parts => ?_
    simp [gather, Result.extend]

theorem generate_outcome (h : namer.rules = rules) (sets : List ValueSet) :
    (g.generate namer sets).outcome = do return g.gather (← sets.mapM (g.share rules)) := by
  have hstart : (g.start namer).outcome = pure (g.gather []) := rfl
  rw [generate, addAll_outcome h, hstart, pure_bind]
  refine bind_congr fun parts => ?_
  simp [gather, Result.extend]

/-- A list in two pieces comes to what the pieces come to, one behind the other. -/
theorem generate_append (hnamer : namer.rules = rules) (hfirst : first.rules = rules)
    (hsecond : second.rules = rules) (xs ys : List ValueSet) :
    (g.generate namer (xs ++ ys)).outcome = do
      let r ← (g.generate first xs).outcome
      let s ← (g.generate second ys).outcome
      return r.extend s := by
  rw [generate_outcome hnamer, generate_outcome hfirst, generate_outcome hsecond, List.mapM_append]
  simp only [bind_assoc, pure_bind]
  refine bind_congr fun parts => bind_congr fun others => ?_
  simp [gather, Result.extend]

/-- Constants come to a class only where there are templates. -/
theorem yield_ok_iff {constants : List Constant} :
    (∃ y, g.yield v constants = .ok y) ↔ (constants ≠ [] → g.folder = .shipped) := by
  unfold yield body? stamp
  cases constants with
  | nil => simp [Bind.bind, Except.bind, Pure.pure, Except.pure]
  | cons c constants =>
    cases g.folder <;>
      simp [Apex.TemplateFolder.check, Bind.bind, Except.bind, Pure.pure, Except.pure]

theorem share_ok_iff : (∃ part, g.share rules v = .ok part) ↔
    (v.hasLabel = true → g.folder = .shipped) := by
  have hyield : (∃ part, g.share rules v = .ok part) ↔
      ∃ y, (g.contribution (.fresh rules) v).yield = .ok y := by
    rw [share_eq]
    cases (g.contribution (.fresh rules) v).yield <;> simp
  rw [hyield, contribution, yield_ok_iff, ne_eq, ← v.hasLabel_eq_false, Bool.not_eq_false]

/-- The share of a set accounts for the set. -/
theorem accounted_of_share {part : Result} (h : g.share rules v = .ok part) : v.Accounted part := by
  have hlabel := v.hasLabel_eq_false (.fresh rules)
  rw [share_eq] at h
  cases hyield : (g.contribution (.fresh rules) v).yield with
  | error fault =>
    rw [hyield] at h
    cases h
  | ok y =>
    rw [hyield] at h
    cases h
    rcases yield_cases hyield with ⟨hnil, rfl⟩ | ⟨hsome, body, stamp, rfl⟩
    · exact ⟨fun htrue => absurd (hlabel.mpr hnil) (by simp [htrue]), fun _ => ⟨rfl, rfl⟩⟩
    · exact ⟨fun _ => ⟨_, rfl, rfl, rfl⟩, fun hfalse => absurd (hlabel.mp hfalse) hsome⟩

/-- Sets that come to something one by one come to their parts together. -/
theorem generate_of_shares (hnamer : namer.rules = rules)
    (h : ∀ v ∈ sets, v.hasLabel = true → g.folder = .shipped) :
    (g.generate namer sets).outcome = .ok (g.gather (sets.map (g.part rules))) ∧
      ∀ v ∈ sets, g.share rules v = .ok (g.part rules v) := by
  have hshares : ∀ v ∈ sets, g.share rules v = .ok (g.part rules v) := by
    intro v hv
    obtain ⟨part, hpart⟩ := share_ok_iff.mpr (h v hv)
    rw [ValueSetGenerator.part, hpart]
    rfl
  refine ⟨?_, hshares⟩
  rw [generate_outcome hnamer, mapM_eq_ok hshares]
  rfl

theorem shares_of_generate (hnamer : namer.rules = rules)
    (h : (g.generate namer sets).outcome = .ok result) :
    ∀ v ∈ sets, v.hasLabel = true → g.folder = .shipped := by
  rw [generate_outcome hnamer] at h
  obtain ⟨parts, hparts, _⟩ := bind_eq_ok.mp h
  exact fun v hv => share_ok_iff.mp (ok_of_mapM hparts v hv)

/-- The classes of a result are those that the sets yield. -/
theorem mem_classes_iff (hnamer : namer.rules = rules)
    (h : (g.generate namer sets).outcome = .ok result) {c : GeneratedClass} :
    c ∈ result.classes ↔
      ∃ v ∈ sets, (g.contribution (.fresh rules) v).yield = .ok (.generated c) := by
  obtain ⟨hok, hshares⟩ := generate_of_shares hnamer (shares_of_generate hnamer h)
  cases h.symm.trans hok
  have hpart : ∀ v ∈ sets, (c ∈ (g.part rules v).classes ↔
      (g.contribution (.fresh rules) v).yield = .ok (.generated c)) := by
    intro v hv
    have hshare := hshares v hv
    rw [share_eq] at hshare
    cases hyield : (g.contribution (.fresh rules) v).yield with
    | error fault =>
      rw [hyield] at hshare
      cases hshare
    | ok y =>
      rw [hyield] at hshare
      rw [← Except.ok.inj hshare]
      cases y <;> simp [Result.add, gather, eq_comm]
  constructor
  · intro hc
    obtain ⟨part, hmem, hc⟩ := List.mem_flatMap.mp hc
    obtain ⟨v, hv, rfl⟩ := List.mem_map.mp hmem
    exact ⟨v, hv, (hpart v hv).mp hc⟩
  · rintro ⟨v, hv, hyield⟩
    exact List.mem_flatMap.mpr ⟨_, List.mem_map_of_mem hv, (hpart v hv).mpr hyield⟩

/-- A set with a label yields a class where there are templates. -/
theorem generated_of_label (hfolder : g.folder = .shipped) (hlabel : v.hasLabel = true)
    (namer : Namer) : ∃ c, (g.contribution namer v).yield = .ok (.generated c) := by
  obtain ⟨y, hy⟩ : ∃ y, (g.contribution namer v).yield = .ok y :=
    yield_ok_iff.mpr fun _ => hfolder
  rcases yield_cases hy with ⟨hnil, _⟩ | ⟨_, body, stamp, rfl⟩
  · have hnone := (v.hasLabel_eq_false namer).mpr hnil
    rw [hlabel] at hnone
    cases hnone
  · exact ⟨_, hy⟩

/-- A set with a label yields its class also by itself. -/
theorem generate_alone (hfolder : g.folder = .shipped) (hlabel : v.hasLabel = true) :
    ∃ result c, (g.generate .standard [v]).outcome = .ok result ∧ c ∈ result.classes ∧
      (g.contribution .standard v).yield = .ok (.generated c) := by
  obtain ⟨c, hyield⟩ := generated_of_label hfolder hlabel .standard
  have hrules : Namer.standard.rules = {} := rfl
  have hshipped : ∀ u ∈ [v], u.hasLabel = true → g.folder = .shipped := fun _ _ _ => hfolder
  have hok := (generate_of_shares hrules hshipped).1
  have hc := (mem_classes_iff hrules hok).mpr ⟨v, List.mem_singleton_self v, hyield⟩
  exact ⟨_, c, hok, hc, hyield⟩

/-- By the flags that tell which sets have a label, the sources of the classes and the names of the
skipped sets are the names of all sets. -/
theorem inTurn_of_accounted {part : ValueSet → Result} (h : ∀ v ∈ sets, v.Accounted (part v)) :
    inTurn (sets.map ValueSet.hasLabel) ((g.gather (sets.map part)).classes.map (·.source))
        ((g.gather (sets.map part)).skipped.map some) =
      sets.map fun v => some v.qualifiedName := by
  induction sets with
  | nil => rfl
  | cons v sets ih =>
    obtain ⟨hv, hsets⟩ := List.forall_mem_cons.mp h
    have ih := ih hsets
    simp only [gather] at ih ⊢
    cases hlabel : v.hasLabel with
    | true =>
      obtain ⟨c, hclasses, hsource, hskipped⟩ := hv.generated hlabel
      simp [hclasses, hsource, hskipped, hlabel, inTurn, ih]
    | false =>
      obtain ⟨hclasses, hskipped⟩ := hv.skipped hlabel
      simp [hclasses, hskipped, hlabel, inTurn, ih]

/-- What holds of generations under some rules for identifiers, whatever their namers have kept. -/
structure SetBySet (g : ValueSetGenerator) (rules : Sanitizer) : Prop where
  /-- A list in two pieces comes to what the pieces come to, one behind the other. -/
  append : ∀ (namer first second : Namer) (xs ys : List ValueSet), namer.rules = rules →
    first.rules = rules → second.rules = rules →
    (g.generate namer (xs ++ ys)).outcome = do
      let r ← (g.generate first xs).outcome
      let s ← (g.generate second ys).outcome
      return r.extend s
  /-- A generation succeeds exactly when there are templates for the sets that need them. -/
  succeeds : ∀ (namer : Namer) (sets : List ValueSet), namer.rules = rules →
    ((∃ result, (g.generate namer sets).outcome = .ok result) ↔
      ∀ v ∈ sets, v.hasLabel = true → g.folder = .shipped)
  /-- Its result is made of the parts of the sets, each of which accounts for its set. -/
  parts : ∀ (namer : Namer) (sets : List ValueSet) (result : Result), namer.rules = rules →
    (g.generate namer sets).outcome = .ok result →
    result = g.gather (sets.map (g.part rules)) ∧ ∀ v ∈ sets, v.Accounted (g.part rules v)
  /-- The sources of its classes and the names it has skipped are in turn the names of the sets. -/
  names : ∀ (namer : Namer) (sets : List ValueSet) (result : Result), namer.rules = rules →
    (g.generate namer sets).outcome = .ok result →
    inTurn (sets.map ValueSet.hasLabel) (result.classes.map (·.source))
        (result.skipped.map some) =
      sets.map fun v => some v.qualifiedName
  /-- The sets that are included come to the parts that they have in it. -/
  included : ∀ (namer again : Namer) (sets kept : List ValueSet) (result : Result) (wanted : Json)
    (names : ValueSet → List (Except ValueFault Json)), namer.rules = rules → again.rules = rules →
    (g.generate namer sets).outcome = .ok result → filterIncluded wanted names sets = .ok kept →
    kept = sets.filter (isWanted wanted names) ∧
      (g.generate again kept).outcome = .ok (g.gather (kept.map (g.part rules)))

/-- Value sets are generated one by one, and a list of texts says of each whether it is included. -/
theorem set_by_set (g : ValueSetGenerator) (rules : Sanitizer) : g.SetBySet rules ∧
    ∀ (list : List String) (names : ValueSet → List (Option String)) (sets : List ValueSet),
      filterIncluded (.arr (list.map .str))
          (fun v => (names v).map fun name => .ok (Json.ofText? name)) sets =
        .ok (sets.filter fun v => namesAny list (names v)) := by
  have hparts : ∀ (namer : Namer) (sets : List ValueSet) (result : Result), namer.rules = rules →
      (g.generate namer sets).outcome = .ok result →
      result = g.gather (sets.map (g.part rules)) ∧ ∀ v ∈ sets, v.Accounted (g.part rules v) := by
    intro namer sets result hrules hresult
    obtain ⟨hok, hshares⟩ := generate_of_shares hrules (shares_of_generate hrules hresult)
    exact ⟨Except.ok.inj (hresult.symm.trans hok), fun v hv => accounted_of_share (hshares v hv)⟩
  refine ⟨⟨fun _ _ _ xs ys h h' h'' => generate_append h h' h'' xs ys, ?_, hparts, ?_, ?_⟩,
    filterIncluded_texts⟩
  · intro namer sets hrules
    constructor
    · rintro ⟨result, hresult⟩
      exact shares_of_generate hrules hresult
    · exact fun h => ⟨_, (generate_of_shares hrules h).1⟩
  · intro namer sets result hrules hresult
    obtain ⟨rfl, haccounted⟩ := hparts namer sets result hrules hresult
    exact inTurn_of_accounted haccounted
  · intro namer again sets kept result wanted names hrules hagain hresult hkept
    obtain rfl := filterIncluded_ok hkept
    have hshares := shares_of_generate hrules hresult
    exact ⟨rfl, (generate_of_shares hagain fun v hv => hshares v (List.mem_of_mem_filter hv)).1⟩

def threeFields : List ValueSet :=
  [⟨"Account", .customField, [some "New", none, some "new"], some "Status__c", none⟩,
    ⟨"Account", .customField, [none, some ""], some "Empty__c", none⟩,
    ⟨"Case", .customField, [some "new"], some "Reason__c", none⟩]

def objectAndField (v : ValueSet) : List (Option String) := [some v.owner, some v.qualifiedName]

/-- Two of the fields are included, one of them by its object, and come to the same although one of
the namers has met the label before. -/
theorem set_by_set_fields :
    let g : ValueSetGenerator := { apiVersion := "60.0", kind := .customField }
    let kept := threeFields.drop 1
    filterIncluded (.arr (["Case", "Account.Empty__c"].map .str))
        (fun v => (objectAndField v).map fun name => .ok (Json.ofText? name)) threeFields =
      .ok kept ∧
    ∃ first chosen result, (g.generate .standard (threeFields.take 1)).outcome = .ok first ∧
      (g.generate .standard kept).outcome = .ok chosen ∧
      (g.generate (Namer.standard.remember "new") threeFields).outcome = .ok result ∧
      result = first.extend chosen ∧ chosen = g.gather (kept.map (g.part {})) ∧
      inTurn [true, false, true] (result.classes.map (·.source)) (result.skipped.map some) =
        [some "Account.Status__c", some "Account.Empty__c", some "Case.Reason__c"] := by
  intro g kept
  obtain ⟨heach, htexts⟩ := set_by_set g {}
  have hkept : filterIncluded (.arr (["Case", "Account.Empty__c"].map .str))
      (fun v => (objectAndField v).map fun name => .ok (Json.ofText? name)) threeFields =
        .ok kept := by
    rw [htexts]
    rfl
  have hsucceeds : ∀ (namer : Namer) (sets : List ValueSet), namer.rules = {} →
      ∃ result, (g.generate namer sets).outcome = .ok result :=
    fun namer sets hrules => (heach.succeeds namer sets hrules).mpr fun _ _ _ => rfl
  obtain ⟨first, hfirst⟩ := hsucceeds .standard (threeFields.take 1) rfl
  obtain ⟨chosen, hchosen⟩ := hsucceeds .standard kept rfl
  have happend := heach.append (Namer.standard.remember "new") .standard .standard
    (threeFields.take 1) kept rfl rfl rfl
  rw [hfirst, hchosen] at happend
  have hresult : (g.generate (Namer.standard.remember "new") threeFields).outcome =
      .ok (first.extend chosen) := happend
  refine ⟨hkept, first, chosen, _, hfirst, hchosen, hresult, rfl, ?_, ?_⟩
  · have hincluded := heach.included _ .standard _ _ _ _ _ rfl rfl hresult hkept
    exact Except.ok.inj (hchosen.symm.trans hincluded.2)
  · exact heach.names _ _ _ rfl hresult

end ValueSetGenerator

end ApexConstants
