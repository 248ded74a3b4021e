import ApexConstants.Proofs.OneKind
import ApexConstants.Proofs.UndisturbedKinds
import Mathlib.Data.List.Forall2

namespace ApexConstants
open Relation (ReflTransGen)

theorem foldl_extend (r : Result) (rs : List Result) : rs.foldl Result.extend r =
    { classes := r.classes ++ rs.flatMap (·.classes)
      skipped := r.skipped ++ rs.flatMap (·.skipped)
      warnings := r.warnings ++ rs.flatMap (·.warnings)
      facts := r.facts
      written := r.written ++ rs.flatMap (·.written) } := by
  induction rs generalizing r with
  | nil => simp
  | cons s rs ih => simp [ih, Result.extend]

/-- A combined result holds what the results hold, one behind the other. -/
theorem combine_eq (output : Path) (rs : List Result) :
    (combine output rs).classes = rs.flatMap (·.classes) ∧
      (combine output rs).skipped = rs.flatMap (·.skipped) ∧
      (combine output rs).warnings = rs.flatMap (·.warnings) ∧
      (combine output rs).written = rs.flatMap (·.written) := by
  rw [combine, foldl_extend]
  exact ⟨rfl, rfl, rfl, rfl⟩

/-- Results may be combined one by one before they are put together. -/
theorem combine_each (output : Path) (rs : List Result) :
    let each := rs.map fun r => combine output [r]
    (combine output rs).classes = each.flatMap (·.classes) ∧
      (combine output rs).skipped = each.flatMap (·.skipped) ∧
      (combine output rs).warnings = each.flatMap (·.warnings) ∧
      (combine output rs).written = each.flatMap (·.written) := by
  simp [combine_eq, List.flatMap_map]

theorem conclude_of_failures {output : Path} {outcomes : List (Except Failure Result)}
    {first : Failure} {others : List Failure} (h : failuresIn outcomes = first :: others)
    (w : Workplace) : (conclude output outcomes).doneAt w =
      (.error first, { w with log := w.log ++ others.map alsoFailed }) := by
  unfold conclude
  rw [h]
  rfl

theorem conclude_of_results {output : Path} {outcomes : List (Except Failure Result)}
    (h : failuresIn outcomes = []) (w : Workplace) : (conclude output outcomes).doneAt w =
      (.ok (combine output (resultsIn outcomes)),
        { w with log := w.log ++ [summary (combine output (resultsIn outcomes))] }) := by
  unfold conclude
  rw [h]
  rfl

def alone (o : Options) (w : Workplace) (kind : ValueSetKind) : Except Failure Result × Workplace :=
  (generatePicklists (o.only kind)).doneAt w

section Alone
variable {o settled : Options} {w place : Workplace} {project output : Path} {kind : ValueSetKind}
  {fault : Failure}

/-- A generation is opened in the same way when kinds are left out. -/
theorem open_only (h : (openPicklists o).doneAt w = (.ok (project, settled, output), place)) :
    (openPicklists (o.only kind)).doneAt w =
      (.ok (project, settled.only kind, output), place) := by
  rw [openPicklists_doneAt, Prod.mk.injEq] at h
  rw [openPicklists_doneAt, openingOf_only, h.1, o.resolve_only, ← h.2]
  rfl

theorem alone_of_fault (h : (openPicklists o).doneAt w = (.error fault, place)) :
    alone o w kind = (.error fault, place) := by
  have hopen : (openPicklists (o.only kind)).doneAt w = (.error fault, place) := by
    rw [openPicklists_doneAt, Prod.mk.injEq] at h
    rw [openPicklists_doneAt, openingOf_only, h.1, o.resolve_only, ← h.2]
    rfl
  rw [alone, generatePicklists, generatePicklistsIn, Work.doneAt_bind, hopen]

theorem open_ok (h : (openPicklists o).doneAt w = (.ok (project, settled, output), place)) :
    place.tree = w.tree ∧ place.tree.isFolder project = .ok true ∧
      ∀ kind : ValueSetKind, kind.isEnabled settled = kind.isEnabled o := by
  rw [openPicklists_doneAt, Prod.mk.injEq] at h
  obtain ⟨hfolder, hkinds⟩ := openingOf_ok h.1
  rw [← h.2]
  exact ⟨rfl, hfolder, hkinds⟩

theorem kinds_only (h : kind.isEnabled o = true) :
    ValueSetKind.all.filter (·.isEnabled (o.only kind)) = [kind] := by
  simp only [ValueSetKind.all, Options.isEnabled_only]
  cases kind <;> simp [h]

/-- A generation with one kind only does what this kind does. -/
theorem alone_of_open (h : (openPicklists o).doneAt w = (.ok (project, settled, output), place))
    (hkind : kind.isEnabled o = true) :
    (alone o w kind).1 = ((generateKind project output settled kind).doneAt place).1.map
        (fun r => combine output [r]) ∧
      (alone o w kind).2.tree = ((generateKind project output settled kind).doneAt place).2.tree := by
  have hsettled : kind.isEnabled settled = true := by
    rw [(open_ok h).2.2, hkind]
  have horder : ∀ outcome, inKindOrder [(kind, outcome)] = [outcome] := by
    intro outcome
    cases kind <;> rfl
  unfold alone generatePicklists generatePicklistsIn
  simp only [Work.doneAt_bind, open_only h, kinds_only hsettled, generateKinds_singleton,
    generateKind_only, horder]
  rcases (generateKind project output settled kind).doneAt place with ⟨fault | r, after⟩
  · have hfailed : failuresIn [(.error fault : Except Failure Result)] = fault :: [] := rfl
    rw [conclude_of_failures hfailed]
    exact ⟨rfl, rfl⟩
  · rw [conclude_of_results rfl]
    exact ⟨rfl, rfl⟩

end Alone

/-- How a generation for one kind ends, and how the kind ends in company. -/
def EndsAsAlone (output : Path) (x y : Except Failure Result) : Prop :=
  ∃ own, x = own.map (fun r => combine output [r]) ∧ SameEnd own y

section Outcomes
variable {output : Path} {xs ys : List (Except Failure Result)}

theorem EndsAsAlone.cases {x y : Except Failure Result} (h : EndsAsAlone output x y) :
    (∃ r, x = .ok (combine output [r]) ∧ y = .ok r) ∨
      ∃ a b, x = .error a ∧ y = .error b ∧ SameFailure a b := by
  obtain ⟨own, rfl, hend⟩ := h
  cases hend with
  | succeeded r => exact .inl ⟨r, rfl, rfl⟩
  | failed hsame => exact .inr ⟨_, _, rfl, rfl, hsame⟩

theorem failuresIn_alike (h : List.Forall₂ (EndsAsAlone output) xs ys) :
    List.Forall₂ SameFailure (failuresIn xs) (failuresIn ys) := by
  refine List.rel_filterMap (fun x y hxy => ?_) h
  rcases hxy.cases with ⟨r, rfl, rfl⟩ | ⟨a, b, rfl, rfl, hsame⟩
  · exact .none
  · exact .some hsame

theorem resultsIn_alike (h : List.Forall₂ (EndsAsAlone output) xs ys) :
    resultsIn xs = (resultsIn ys).map fun r => combine output [r] := by
  rw [← List.forall₂_eq_eq_eq, List.forall₂_map_right_iff]
  refine List.rel_filterMap (fun x y hxy => ?_) h
  rcases hxy.cases with ⟨r, rfl, rfl⟩ | ⟨a, b, rfl, rfl, _⟩
  · exact .some rfl
  · exact .none

end Outcomes

/-- A generation for several kinds has come to what generations for one kind each come to from the
same tree. `place` is where the kinds started from. -/
structure AsAlone (o : Options) (w place : Workplace) (outcome : Except Failure Result)
    (after : Workplace) : Prop where
  /-- Each kind has written what it writes alone, whether or not it or another has failed. -/
  written : ∀ kind : ValueSetKind, kind.isEnabled o = true → ∀ l,
    (alone o w kind).2.tree.content? l ≠ w.tree.content? l →
      after.tree.content? l = (alone o w kind).2.tree.content? l
  /-- Files that no kind changes alone are as before. -/
  untouched : ∀ l, (∀ kind : ValueSetKind, kind.isEnabled o = true →
    (alone o w kind).2.tree.content? l = w.tree.content? l) →
      after.tree.content? l = w.tree.content? l
  /-- When no kind fails alone, the results are put one behind the other. -/
  succeeds : failuresIn ((ValueSetKind.all.filter (·.isEnabled o)).map fun kind =>
      (alone o w kind).1) = [] →
    ∃ result own, outcome = .ok result ∧
      let results := resultsIn ((ValueSetKind.all.filter (·.isEnabled o)).map fun kind =>
        (alone o w kind).1)
      result.classes = results.flatMap (·.classes) ∧
      result.skipped = results.flatMap (·.skipped) ∧
      result.warnings = results.flatMap (·.warnings) ∧
      result.written = results.flatMap (·.written) ∧
      after.log = place.log ++ own ++ [summary result] ∧ ∀ e ∈ own, e.severity ≠ .error
  /-- Otherwise the first failure in the order of the kinds counts, and the log names the others. -/
  fails : ∀ first others, failuresIn ((ValueSetKind.all.filter (·.isEnabled o)).map fun kind =>
      (alone o w kind).1) = first :: others →
    ∃ first' others' own, outcome = .error first' ∧ SameFailure first first' ∧
      List.Forall₂ SameFailure others others' ∧
      after.log = place.log ++ own ++ others'.map alsoFailed ∧ ∀ e ∈ own, e.severity ≠ .error

section Settled
variable {o settled : Options} {w place : Workplace} {project output : Path} {s : Underway}
  {outcomes : ValueSetKind → Except Failure Result}

/-- Putting outcomes together writes nothing. -/
theorem tree_conclude (outcomes : List (Except Failure Result)) (w : Workplace) :
    ((conclude output outcomes).doneAt w).2.tree = w.tree := by
  cases hfailed : failuresIn outcomes with
  | nil => rw [conclude_of_results hfailed]
  | cons first others => rw [conclude_of_failures hfailed]

/-- What a kind changes alone it has handed over. -/
theorem handedOver_of_changed
    (hopen : (openPicklists o).doneAt w = (.ok (project, settled, output), place))
    (hsound : KindsSound project output settled place) {kind : ValueSetKind}
    (hkind : kind.isEnabled o = true) {l : Location}
    (hl : (alone o w kind).2.tree.content? l ≠ w.tree.content? l) :
    ∃ p ∈ kind.pathsHandedOver project output settled place, l = p.target place.tree.home := by
  obtain ⟨htree, _, hkinds⟩ := open_ok hopen
  by_contra hnone
  apply hl
  rw [(alone_of_open hopen hkind).2, ← htree]
  apply content_generateKind (hsound.shallow kind ((hkinds kind).trans hkind))
  intro p hp heq
  exact hnone ⟨p, hp, heq⟩

/-- Kinds that are not disturbed end as they end alone, and so do the files that they hand over. -/
theorem Undisturbed.ended (h : Undisturbed project output settled place s)
    (hopen : (openPicklists o).doneAt w = (.ok (project, settled, output), place))
    {kind : ValueSetKind} {outcome : Except Failure Result} (hkind : kind.isEnabled o = true)
    (hended : s.progress kind = .ended outcome) :
    EndsAsAlone output (alone o w kind).1 outcome ∧
      ∀ p ∈ kind.pathsHandedOver project output settled place,
        s.place.tree.content? (p.target place.tree.home) =
          (alone o w kind).2.tree.content? (p.target place.tree.home) := by
  obtain ⟨halone, haloneTree⟩ := alone_of_open hopen hkind
  have hstands := h.kinds kind (((open_ok hopen).2.2 kind).trans hkind)
  rw [hended] at hstands
  rw [haloneTree]
  exact ⟨⟨_, halone, hstands.1⟩, hstands.2⟩

/-- When the kinds have ended undisturbed, the tree has the files that they come to alone. -/
theorem Undisturbed.files (h : Undisturbed project output settled place s)
    (hopen : (openPicklists o).doneAt w = (.ok (project, settled, output), place))
    (hsound : KindsSound project output settled place)
    (hended : ∀ kind : ValueSetKind, kind.isEnabled o = true →
      s.progress kind = .ended (outcomes kind)) :
    (∀ kind : ValueSetKind, kind.isEnabled o = true → ∀ l,
      (alone o w kind).2.tree.content? l ≠ w.tree.content? l →
        s.place.tree.content? l = (alone o w kind).2.tree.content? l) ∧
    ∀ l, (∀ kind : ValueSetKind, kind.isEnabled o = true →
      (alone o w kind).2.tree.content? l = w.tree.content? l) →
        s.place.tree.content? l = w.tree.content? l := by
  obtain ⟨htree, _, hkinds⟩ := open_ok hopen
  constructor
  · intro kind hkind l hl
    obtain ⟨p, hp, rfl⟩ := handedOver_of_changed hopen hsound hkind hl
    exact (h.ended hopen hkind (hended kind hkind)).2 p hp
  · intro l hl
    by_cases hsome : ∃ kind : ValueSetKind, kind.isEnabled o = true ∧
        ∃ p ∈ kind.pathsHandedOver project output settled place, l = p.target place.tree.home
    · obtain ⟨kind, hkind, p, hp, rfl⟩ := hsome
      rw [(h.ended hopen hkind (hended kind hkind)).2 p hp, hl kind hkind]
    · rw [← htree]
      apply h.elsewhere
      intro kind hkind p hp heq
      exact hsome ⟨kind, (hkinds kind).symm.trans hkind, p, hp, heq⟩

theorem asAlone_of_steps
    (hopen : (openPicklists o).doneAt w = (.ok (project, settled, output), place))
    (hapart : KindsApart project output settled place)
    (hsteps : ReflTransGen (Underway.Step project output settled) (.start place) s)
    (hended : ∀ kind : ValueSetKind, kind.isEnabled settled = true →
      s.progress kind = .ended (outcomes kind)) :
    let done := (conclude output
      ((ValueSetKind.all.filter (·.isEnabled settled)).map outcomes)).doneAt s.place
    AsAlone o w place done.1 done.2 := by
  obtain ⟨_, hroot, hkinds⟩ := open_ok hopen
  have hsettled := undisturbed_of_steps hapart hroot hsteps
  simp only [hkinds] at hended ⊢
  obtain ⟨hwritten, huntouched⟩ := hsettled.files hopen hapart.toKindsSound hended
  obtain ⟨own, hlog, hquiet⟩ := hsettled.quietly.log
  have halike : List.Forall₂ (EndsAsAlone output)
      ((ValueSetKind.all.filter (·.isEnabled o)).map fun kind => (alone o w kind).1)
      ((ValueSetKind.all.filter (·.isEnabled o)).map outcomes) := by
    rw [List.forall₂_map_left_iff, List.forall₂_map_right_iff, List.forall₂_same]
    intro kind hkind
    have hasked := (List.mem_filter.mp hkind).2
    exact (hsettled.ended hopen hasked (hended kind hasked)).1
  have hfailures := failuresIn_alike halike
  refine ⟨?_, ?_, ?_, ?_⟩
  · rwa [tree_conclude]
  · rwa [tree_conclude]
  · intro hnone
    rw [hnone, List.forall₂_nil_left_iff] at hfailures
    rw [conclude_of_results hfailures, resultsIn_alike halike]
    obtain ⟨hclasses, hskipped, hwarnings, hall⟩ := combine_each output
      (resultsIn ((ValueSetKind.all.filter (·.isEnabled o)).map outcomes))
    exact ⟨_, own, rfl, hclasses, hskipped, hwarnings, hall, by rw [hlog], hquiet⟩
  · intro first others hsome
    rw [hsome, List.forall₂_cons_left_iff] at hfailures
    obtain ⟨first', others', hfirst, hothers, heq⟩ := hfailures
    rw [conclude_of_failures heq]
    exact ⟨first', others', own, rfl, hfirst, hothers, by rw [hlog], hquiet⟩

end Settled

section Sample

def sampleProject (standard global : String) : Workplace where
  tree :=
    { entries :=
        [(["p", "sfdx-project.json"], .file "".toUTF8), (["p", "m"], .folder),
          (["p", "m", "standardValueSets"], .folder),
          (["p", "m", "standardValueSets", "A.standardValueSet-meta.xml"], .file standard.toUTF8),
          (["p", "m", "globalValueSets"], .folder),
          (["p", "m", "globalValueSets", "B.globalValueSet-meta.xml"], .file global.toUTF8)]
      home := ["p"]
      nodup := by simp }

def standardText : String := "<S><standardValue><fullName>x</fullName></standardValue></S>"
def globalText : String := "<G><customValue><fullName>x</fullName></customValue></G>"

def sampleOptions (lead : String) : Options := .ofGiven .picklists
  [(.outputDir, .str "out"), (.sourceApiVersion, .str "60.0"), (.ignorePicklists, .bool true),
    (.standardValueSetPrefix, .str lead)]

def sampleSettled (lead : String) : Options :=
  ((sampleOptions lead).set .outputDir (.str "out")).set .sourceApiVersion (.str "60.0")

variable {standard global lead : String}

theorem open_sample (standard global lead : String) :
    (openPicklists (sampleOptions lead)).doneAt (sampleProject standard global) =
      (.ok (.here, sampleSettled lead, .ofText "out"), sampleProject standard global) := rfl

/-- The tree is what writing the three files makes. -/
theorem proper_sample (standard global : String) :
    (sampleProject standard global).tree.Proper := by
  have hbuilt : (sampleProject standard global).tree =
      (writeFiles treeWriter (Tree.empty ["p"])
        [(.ofText "sfdx-project.json", ""),
          (.ofText "m/standardValueSets/A.standardValueSet-meta.xml", standard),
          (.ofText "m/globalValueSets/B.globalValueSet-meta.xml", global)]).1 := by rfl
  rw [hbuilt]
  exact (Tree.proper_empty _).writeFiles (by decide) _

/-- What holds for the kinds of A and B holds for all that the options ask for. -/
theorem forall_sample {P : ValueSetKind → Prop} (hstandard : P .standard) (hglobal : P .global)
    (kind : ValueSetKind) (h : kind.isEnabled (sampleSettled lead) = true) : P kind := by
  cases kind with
  | customField => cases h
  | standard => exact hstandard
  | global => exact hglobal

theorem pairs_sample {R : ValueSetKind → ValueSetKind → Prop} (h : R .standard .global)
    (h' : R .global .standard) (kind other : ValueSetKind)
    (hkind : kind.isEnabled (sampleSettled lead) = true)
    (hother : other.isEnabled (sampleSettled lead) = true) (hne : kind ≠ other) : R kind other := by
  revert hne
  refine forall_sample (P := fun kind => kind ≠ other → R kind other) ?_ ?_ kind hkind
  · exact forall_sample (P := fun other => .standard ≠ other → R .standard other)
      (absurd rfl) (fun _ => h) other hother
  · exact forall_sample (P := fun other => .global ≠ other → R .global other)
      (fun _ => h') (absurd rfl) other hother

theorem sound_sample
    (hfew : ∀ kind : ValueSetKind, ((sampleProject standard global).tree.findMetadata
      kind.metadata .here).toOption.all (·.length ≤ 1) = true)
    (hshallow : ∀ kind : ValueSetKind, kind.isEnabled (sampleSettled lead) = true →
      ((generateKind .here (.ofText "out") (sampleSettled lead) kind).doneAt
        (sampleProject standard global)).1 ≠ .error (.file .tooDeep)) :
    KindsSound .here (.ofText "out") (sampleSettled lead) (sampleProject standard global) where
  proper := proper_sample standard global
  oneUnreadable kind _ files hfiles p hp q hq _ _ := by
    have hlength := hfew kind
    simp only [hfiles, Except.toOption, Option.all_some, decide_eq_true_eq] at hlength
    obtain ⟨only, rfl⟩ := List.length_eq_one_iff.mp
      (Nat.le_antisymm hlength (List.length_pos_of_mem hp))
    rw [List.mem_singleton.mp hp, List.mem_singleton.mp hq]
  shallow := hshallow

/-- Whether a metadata file is to blame for how a kind ends. -/
def blamesMetadata : Except Failure Result → Bool
  | .error (.metadata _) => true
  | _ => false

def pathsWritten (output : Path) (outcome : Except Failure Result) : Option (List Path) :=
  outcome.toOption.map fun r => (r.files output).map Prod.fst

theorem ends_of_blamesMetadata {outcome : Except Failure Result}
    (h : blamesMetadata outcome = true) : outcome ≠ .error (.file .tooDeep) := by
  rintro rfl
  cases h

theorem ends_of_pathsWritten {project output : Path} {o : Options} {kind : ValueSetKind}
    {w : Workplace} {paths : List Path}
    (h : pathsWritten output ((generateKind project output o kind).doneAt w).1 = some paths) :
    ((generateKind project output o kind).doneAt w).1 ≠ .error (.file .tooDeep) ∧
      kind.pathsHandedOver project output o w = paths := by
  cases hdone : ((generateKind project output o kind).doneAt w).1 with
  | error fault =>
    rw [hdone] at h
    cases h
  | ok r =>
    rw [hdone] at h
    exact ⟨nofun, (pathsHandedOver_of_ok hdone).trans (Option.some.inj h)⟩

end Sample

/-- Kinds of value sets that keep apart do not depend on each other: whatever turns they take,
together they come to what each of them comes to alone. -/
theorem kinds_independent {o : Options} {w after : Workplace} {outcome : Except Failure Result}
    (hapart : ∀ project settled output place,
      (openPicklists o).doneAt w = (.ok (project, settled, output), place) →
        KindsApart project output settled place)
    (hrun : PicklistRun o w outcome after) :
    match (openPicklists o).doneAt w with
    | (.error fault, place) => outcome = .error fault ∧ after = place ∧ place.tree = w.tree ∧
        ∀ kind, alone o w kind = (.error fault, place)
    | (.ok _, place) => AsAlone o w place outcome after := by
  cases hrun with
  | unsettled hopen =>
    rw [hopen]
    refine ⟨rfl, rfl, ?_, fun kind => alone_of_fault hopen⟩
    rw [openPicklists_doneAt, Prod.mk.injEq] at hopen
    rw [← hopen.2]
  | settled hopen hsteps hended =>
    have hdone := asAlone_of_steps hopen (hapart _ _ _ _ hopen) hsteps hended
    rw [hopen]
    exact hdone

/-- B comes first; then A fails, since its file is no XML. -/
theorem kinds_independent_backwards :
    let w := sampleProject "" globalText
    let done := (generatePicklistsIn [.global, .standard, .customField] (sampleOptions "")).doneAt w
    AsAlone (sampleOptions "") w w done.1 done.2 ∧
      (done.2.tree.content? ["p", "out", "B.cls"]).isSome = true := by
  intro w done
  have hstandard : blamesMetadata ((generateKind .here (.ofText "out") (sampleSettled "")
      .standard).doneAt w).1 = true := by
    decide +kernel
  have hnone : ValueSetKind.standard.pathsHandedOver .here (.ofText "out") (sampleSettled "") w =
      [] := by
    decide +kernel
  obtain ⟨hdeep, hsome⟩ : _ ∧ ValueSetKind.global.pathsHandedOver .here (.ofText "out")
      (sampleSettled "") w = [.ofText "out/B.cls", .ofText "out/B.cls-meta.xml"] :=
    ends_of_pathsWritten (by decide +kernel)
  have hsound : KindsSound .here (.ofText "out") (sampleSettled "") w :=
    sound_sample (fun kind => by cases kind <;> decide +kernel)
      (forall_sample (ends_of_blamesMetadata hstandard) hdeep)
  have hapart : KindsApart .here (.ofText "out") (sampleSettled "") w := by
    refine .of_beside hsound (forall_sample ?_ ?_) (pairs_sample ?_ ?_)
    · rw [hnone]
      decide
    · rw [hsome]
      decide +kernel
    · rw [hnone, hsome]
      decide
    · rw [hnone, hsome]
      decide
  have hall := kinds_independent (fun project settled output place hopen => by
      rw [open_sample] at hopen
      obtain ⟨⟨rfl, rfl, rfl⟩, rfl⟩ := by simpa only [Prod.mk.injEq, Except.ok.injEq] using hopen
      exact hapart)
    (picklistRun_of_order
      (show List.Perm [.global, .standard, .customField] ValueSetKind.all by decide)
      (sampleOptions "") w)
  rw [open_sample] at hall
  have hcontent : ((alone (sampleOptions "") w .global).2.tree.content?
      ["p", "out", "B.cls"]).isSome = true := by
    decide +kernel
  refine ⟨hall, ?_⟩
  rw [hall.written .global rfl ["p", "out", "B.cls"]]
  · exact hcontent
  · intro heq
    rw [heq] at hcontent
    cases hcontent

/-- It is not enough that no path of a kind is a path of another or lies below one. On the way to
the class of A a folder is created where the class of B should be, although that way leads out of it
again. -/
theorem kinds_disturbed_on_the_way :
    ¬ ∀ (o settled : Options) (w place after : Workplace) (project output : Path)
        (outcome : Except Failure Result),
      (openPicklists o).doneAt w = (.ok (project, settled, output), place) →
      KindsSound project output settled place →
      (∀ kind other : ValueSetKind, kind.isEnabled settled = true →
        other.isEnabled settled = true → kind ≠ other →
          Path.Beside place.tree.home (kind.pathsHandedOver project output settled place)
            (other.pathsHandedOver project output settled place)) →
      PicklistRun o w outcome after →
      ∀ kind : ValueSetKind, kind.isEnabled o = true → ∀ l,
        (alone o w kind).2.tree.content? l ≠ w.tree.content? l →
          after.tree.content? l = (alone o w kind).2.tree.content? l := by
  intro hclaim
  let lead := "x/../B.cls/../"
  let w := sampleProject standardText globalText
  obtain ⟨hdeep, hstandard⟩ : _ ∧ ValueSetKind.standard.pathsHandedOver .here (.ofText "out")
      (sampleSettled lead) w =
        [.ofText "out/x/../B.cls/../A.cls", .ofText "out/x/../B.cls/../A.cls-meta.xml"] :=
    ends_of_pathsWritten (by decide +kernel)
  obtain ⟨hdeep', hglobal⟩ : _ ∧ ValueSetKind.global.pathsHandedOver .here (.ofText "out")
      (sampleSettled lead) w = [.ofText "out/B.cls", .ofText "out/B.cls-meta.xml"] :=
    ends_of_pathsWritten (by decide +kernel)
  have hsound : KindsSound .here (.ofText "out") (sampleSettled lead) w :=
    sound_sample (fun kind => by cases kind <;> decide +kernel) (forall_sample hdeep hdeep')
  have halone : ((alone (sampleOptions lead) w .global).2.tree.content?
      ["p", "out", "B.cls"]).isSome = true := by
    decide +kernel
  have hafter : (((generatePicklistsIn ValueSetKind.all
      (sampleOptions lead)).doneAt w).2.tree.content? ["p", "out", "B.cls"]).isNone = true := by
    decide +kernel
  have heq := hclaim _ _ _ _ _ _ _ _ (open_sample standardText globalText lead) hsound
    (pairs_sample (by rw [hstandard, hglobal]; decide +kernel)
      (by rw [hstandard, hglobal]; decide +kernel))
    (picklistRun_of_order (List.Perm.refl ValueSetKind.all) (sampleOptions lead) w)
    .global rfl ["p", "out", "B.cls"] (fun heq => by
      rw [heq] at halone
      cases halone)
  rw [heq, Option.isNone_iff_eq_none] at hafter
  rw [hafter] at halone
  cases halone

end ApexConstants
