import ApexConstants.Proofs.KindsUnderway

namespace ApexConstants
open Relation (ReflTransGen)
open Xml (Element)

/-- The same failure, but for the fault when a file could not be written. -/
inductive SameFailure : Failure → Failure → Prop
  | same (fault : Failure) : SameFailure fault fault
  | unwritten (a b : FileFault) : SameFailure (.file a) (.file b)

inductive SameEnd : Except Failure Result → Except Failure Result → Prop
  | succeeded (r : Result) : SameEnd (.ok r) (.ok r)
  | failed {a b : Failure} (h : SameFailure a b) : SameEnd (.error a) (.error b)

/-- What is asked of the tree and of each kind by itself. -/
structure KindsSound (project output : Path) (o : Options) (w : Workplace) : Prop where
  proper : w.tree.Proper
  /-- No two files of a kind are unreadable. -/
  oneUnreadable : ∀ kind : ValueSetKind, kind.isEnabled o = true →
    ∀ files, w.tree.findMetadata kind.metadata project = .ok files →
      ∀ p ∈ files, ∀ q ∈ files, (∀ root, w.tree.readMetadata p ≠ .ok root) →
        (∀ root, w.tree.readMetadata q ≠ .ok root) → p = q
  /-- No kind has more missing folders above a file than can be created. -/
  shallow : ∀ kind : ValueSetKind, kind.isEnabled o = true →
    ((generateKind project output o kind).doneAt w).1 ≠ .error (.file .tooDeep)

/-- What keeps kinds from getting in each other's way, told by what each of them does alone. -/
structure KindsApart (project output : Path) (o : Options) (w : Workplace) : Prop
    extends KindsSound project output o w where
  /-- Where a kind writes, no path of another leads to or passes through. -/
  apart : ∀ kind other : ValueSetKind, kind.isEnabled o = true → other.isEnabled o = true →
    kind ≠ other → Path.Apart w.tree.home (kind.pathsHandedOver project output o w)
      (other.pathsHandedOver project output o w)

variable {project output : Path} {o : Options} {kind other : ValueSetKind} {w : Workplace}
  {t u u' : Tree} {ps : List Path} {home : Location}

/-- As long as no path steps back to the folder above, it is enough that no path is the path of
another kind or lies below one. -/
theorem KindsApart.of_beside (h : KindsSound project output o w)
    (hdown : ∀ kind : ValueSetKind, kind.isEnabled o = true →
      ∀ p ∈ kind.pathsHandedOver project output o w, ".." ∉ p.names)
    (hbeside : ∀ kind other : ValueSetKind, kind.isEnabled o = true → other.isEnabled o = true →
      kind ≠ other → Path.Beside w.tree.home (kind.pathsHandedOver project output o w)
        (other.pathsHandedOver project output o w)) :
    KindsApart project output o w where
  toKindsSound := h
  apart kind other hkind hother hne :=
    (hbeside other kind hother hkind (Ne.symm hne)).apart (hdown other hother)

namespace Tree

theorem keepsMetadata_carryOut (output : Path) (t : Tree) (plan : Except Failure Result) :
    KeepsMetadata t (carryOut output t plan).2 := by
  cases plan with
  | error fault => exact KeepsMetadata.refl t
  | ok planned =>
    apply keepsMetadata_writeFiles
    intro f hf
    obtain ⟨c, _, hfile⟩ := List.mem_flatMap.mp hf
    exact isNameOf_class hfile t.home

/-- A plan that is carried out in a tree comes to the same in every tree that mirrors it. -/
theorem Mirrors.afterPlan (h : Mirrors home ps t u) {plan : Except Failure Result}
    (hps : ∀ planned, plan = .ok planned → ∀ f ∈ t.handedOver (planned.files output), f.1 ∈ ps)
    (hshallow : (carryOut output t plan).1 ≠ .error (.file .tooDeep)) :
    Touches home ps u (carryOut output u plan).2 ∧
      SameEnd (carryOut output t plan).1 (carryOut output u plan).1 ∧
      ∀ p ∈ ps, ∀ k ∈ p.places home, (carryOut output u plan).2.content? k =
        (carryOut output t plan).2.content? k := by
  cases plan with
  | error fault => exact ⟨Touches.refl home ps u, .failed (.same fault), h.files⟩
  | ok planned =>
    have hdeep : (writeFiles treeWriter t (planned.files output)).2 ≠ .error (.file .tooDeep) := by
      intro heq
      apply hshallow
      simp only [carryOut, heq]
      rfl
    obtain ⟨htouch, hends, hfiles⟩ := h.afterFiles (hps planned rfl) hdeep
    refine ⟨htouch, ?_, hfiles⟩
    simp only [carryOut]
    rcases hends with ⟨ht, hu⟩ | ⟨a, b, ht, hu⟩
    · rw [ht, hu]
      exact .succeeded _
    · rw [ht, hu]
      exact .failed (.unwritten a b)

end Tree

/-- Where a kind stands in a tree that kinds work in together, compared with how it goes when it
starts alone in the first tree. -/
def Stands (project output : Path) (o : Options) (w : Workplace) (kind : ValueSetKind) (u : Tree) :
    Progress → Prop
  | .waiting => True
  | .reading files roots =>
    Tree.Mirrors w.tree.home (kind.pathsHandedOver project output o w) w.tree u ∧
      w.tree.findMetadata kind.metadata project = .ok files ∧
      ∀ p root, roots.lookup p = some root → w.tree.readMetadata p = .ok root
  | .ended outcome =>
    SameEnd ((generateKind project output o kind).doneAt w).1 outcome ∧
      ∀ p ∈ kind.pathsHandedOver project output o w,
        u.content? (p.target w.tree.home) =
          ((generateKind project output o kind).doneAt w).2.tree.content? (p.target w.tree.home)

/-- What holds as long as kinds that do not get in each other's way are under way. -/
structure Undisturbed (project output : Path) (o : Options) (w : Workplace) (s : Underway) :
    Prop where
  metadata : Tree.KeepsMetadata w.tree s.place.tree
  quietly : Quietly w s.place
  unsearched : ∀ kind : ValueSetKind, kind.isEnabled o = true → s.progress kind = .waiting →
    s.place.tree = w.tree
  elsewhere : ∀ l, (∀ kind : ValueSetKind, kind.isEnabled o = true →
    ∀ p ∈ kind.pathsHandedOver project output o w, l ≠ p.target w.tree.home) →
      s.place.tree.content? l = w.tree.content? l
  kinds : ∀ kind : ValueSetKind, kind.isEnabled o = true →
    Stands project output o w kind s.place.tree (s.progress kind)

/-- Kinds that write apart from a kind leave it where it stands. -/
theorem Stands.touch {progress : Progress}
    (h : Stands project output o w kind u progress) (htouch : Tree.Touches w.tree.home ps u u')
    (hps : Path.Apart w.tree.home ps (kind.pathsHandedOver project output o w))
    (hkind : Path.Apart w.tree.home (kind.pathsHandedOver project output o w) ps) :
    Stands project output o w kind u' progress := by
  cases progress with
  | waiting => trivial
  | reading files roots => exact ⟨h.1.touch htouch hps hkind, h.2⟩
  | ended outcome =>
    refine ⟨h.1, fun p hp => ?_⟩
    rw [← h.2 p hp]
    apply htouch.files
    intro q hq heq
    exact hkind p hp q hq (heq ▸ q.target_mem_places w.tree.home)

theorem pathsHandedOver_of_plan (planned : Result) (h : kind.plan project o w = .ok planned) :
    ∀ f ∈ w.tree.handedOver (planned.files output),
      f.1 ∈ kind.pathsHandedOver project output o w := by
  intro f hf
  rw [ValueSetKind.pathsHandedOver, h]
  exact List.mem_map_of_mem hf

theorem generateKind_of_plan_error (output : Path) {fault : Failure}
    (h : kind.plan project o w = .error fault) :
    ((generateKind project output o kind).doneAt w).1 = .error fault ∧
      kind.pathsHandedOver project output o w = [] := by
  obtain ⟨houtcome, _, _⟩ := generateKind_doneAt project output o kind w
  rw [houtcome, h, ValueSetKind.pathsHandedOver, h]
  exact ⟨rfl, rfl⟩

theorem stands_of_plan_error {fault : Failure} (h : kind.plan project o w = .error fault)
    (u : Tree) : Stands project output o w kind u (.ended (.error fault)) := by
  obtain ⟨houtcome, hnone⟩ := generateKind_of_plan_error output h
  refine ⟨?_, ?_⟩
  · rw [houtcome]
    exact .failed (.same fault)
  · rw [hnone]
    simp

theorem undisturbed_start (project output : Path) (o : Options) (w : Workplace) :
    Undisturbed project output o w (.start w) :=
  ⟨.refl w.tree, .refl w, fun _ _ _ => rfl, fun _ _ => rfl, fun _ _ => trivial⟩

/-- A move of one kind that leaves the files as they are. -/
theorem Undisturbed.move {s : Underway} (h : Undisturbed project output o w s)
    {progress : Progress} {place : Workplace} (hprogress : progress ≠ .waiting)
    (htree : place.tree = s.place.tree) (hquiet : Quietly s.place place)
    (hstands : Stands project output o w kind s.place.tree progress) :
    Undisturbed project output o w (s.move kind progress place) := by
  refine ⟨?_, h.quietly.trans hquiet, ?_, ?_, ?_⟩
  · exact htree ▸ h.metadata
  · intro other hother hwaiting
    exact htree.trans (h.unsearched other hother (s.waiting_of_move hprogress hwaiting))
  · intro l hl
    have hsame := h.elsewhere l hl
    rwa [← htree] at hsame
  · intro other hother
    change Stands project output o w other place.tree _
    rw [htree]
    by_cases heq : other = kind
    · rw [heq, s.progress_move]
      exact hstands
    · rw [s.progress_move_of_ne heq]
      exact h.kinds other hother

/-- The plan of a kind whose files have been found and can be read. -/
theorem plan_of_found {files : List Path}
    (h : w.tree.findMetadata kind.metadata project = .ok files) :
    kind.plan project o w = kind.planFrom o w.namer w.tree.readMetadata files := by
  rw [ValueSetKind.plan, h]
  rfl

theorem searchKind_doneAt (project : Path) (kind : ValueSetKind) (w : Workplace) :
    ((searchKind project kind).doneAt w).1 =
        (w.tree.findMetadata kind.metadata project).mapError Failure.file ∧
      ((searchKind project kind).doneAt w).2.tree = w.tree ∧
      Quietly w ((searchKind project kind).doneAt w).2 := by
  have hannounced : ∀ e ∈ (if kind == .customField then [kind.announcement] else []),
      e.severity ≠ .error := by
    cases kind <;> decide
  unfold searchKind metadataFiles
  simp only [Work.doneAt_bind, Work.doneAt_ofExcept, Work.doneAt_get, Work.doneAt_report, true_and]
  exact ⟨rfl, _, rfl, hannounced⟩

variable {s s' : Underway}

/-- Looking for files finds what it finds at the start, since no kind has written before. -/
theorem Undisturbed.search (h : Undisturbed project output o w s) (hkind : kind.isEnabled o = true)
    (hwaiting : s.progress kind = .waiting) :
    Undisturbed project output o w (s.move kind
      (.ofSearch ((searchKind project kind).doneAt s.place).1)
      ((searchKind project kind).doneAt s.place).2) := by
  obtain ⟨hfound, htree, hquiet⟩ := searchKind_doneAt project kind s.place
  have hstart := h.unsearched kind hkind hwaiting
  refine h.move (Progress.ofSearch_ne_waiting _) htree hquiet ?_
  rw [hfound, hstart]
  cases hfiles : w.tree.findMetadata kind.metadata project with
  | error fault =>
    apply stands_of_plan_error
    rw [ValueSetKind.plan, hfiles]
    rfl
  | ok files => exact ⟨.refl rfl _, hfiles, by simp⟩

/-- A file that is read has the root that it has at the start. -/
theorem Undisturbed.read (h : Undisturbed project output o w s)
    (hroot : w.tree.isFolder project = .ok true) (hproper : w.tree.Proper)
    (hkind : kind.isEnabled o = true) {files : List Path} {roots : List (Path × Element)}
    (hreading : s.progress kind = .reading files roots) {p : Path} {root : Element} (hp : p ∈ files)
    (hread : s.place.tree.readMetadata p = .ok root) :
    Undisturbed project output o w
      (s.move kind (.reading files ((p, root) :: roots)) s.place) := by
  refine h.move (by simp) rfl (.refl _) ?_
  have hstands := h.kinds kind hkind
  rw [hreading] at hstands
  obtain ⟨hmirrors, hfiles, hroots⟩ := hstands
  rw [h.metadata.readMetadata hproper hroot hfiles hp] at hread
  exact ⟨hmirrors, hfiles, RootsFrom.cons hroots hread⟩

/-- A file that cannot be read would stop the kind alone, too. -/
theorem Undisturbed.stumble (h : Undisturbed project output o w s)
    (hapart : KindsApart project output o w) (hroot : w.tree.isFolder project = .ok true)
    (hkind : kind.isEnabled o = true) {files : List Path} {roots : List (Path × Element)}
    (hreading : s.progress kind = .reading files roots) {p : Path} {fault : Failure} (hp : p ∈ files)
    (hfault : s.place.tree.readMetadata p = .error fault) :
    Undisturbed project output o w (s.move kind (.ended (.error fault)) s.place) := by
  refine h.move (by simp) rfl (.refl _) ?_
  have hstands := h.kinds kind hkind
  rw [hreading] at hstands
  obtain ⟨_, hfiles, _⟩ := hstands
  rw [h.metadata.readMetadata hapart.proper hroot hfiles hp] at hfault
  apply stands_of_plan_error
  rw [plan_of_found hfiles, ValueSetKind.planFrom, kind.load_eq_error ?_]
  · rfl
  · refine readAll_eq_error hp hfault fun q hq hne => ?_
    cases hread : w.tree.readMetadata q with
    | ok root => exact ⟨root, rfl⟩
    | error fault' =>
      refine absurd (hapart.oneUnreadable kind hkind files hfiles q hq p hp ?_ ?_) hne
      · simp [hread]
      · simp [hfault]

/-- A kind whose files have been read carries out the plan that it has alone. -/
theorem Undisturbed.finish (h : Undisturbed project output o w s)
    (hapart : KindsApart project output o w) (hkind : kind.isEnabled o = true)
    {files : List Path} {roots : List (Path × Element)}
    (hreading : s.progress kind = .reading files roots)
    (hall : ∀ p ∈ files, ∃ root, roots.lookup p = some root)
    (hturn : files = [] ∨ s.AllSearched o) :
    Undisturbed project output o w (s.move kind
      (.ended ((finishKind output o kind (readerOf roots) files).doneAt s.place).1)
      ((finishKind output o kind (readerOf roots) files).doneAt s.place).2) := by
  have hstands := h.kinds kind hkind
  rw [hreading] at hstands
  obtain ⟨hmirrors, hfiles, hroots⟩ := hstands
  have hreader : readAll (readerOf roots) files = readAll w.tree.readMetadata files :=
    RootsFrom.readAll hroots hall
  have hplan : kind.planFrom o s.place.namer (readerOf roots) files = kind.plan project o w := by
    rw [plan_of_found hfiles]
    exact kind.planFrom_congr o h.quietly.sameRules hreader
  obtain ⟨houtcome, htree, hquiet⟩ := finishKind_doneAt output o kind (readerOf roots) files s.place
  obtain ⟨halone, haloneTree, _⟩ := generateKind_doneAt project output o kind w
  have hshallow := hapart.shallow kind hkind
  rw [hplan] at houtcome htree
  rw [halone] at hshallow
  obtain ⟨htouch, hend, hcontents⟩ := hmirrors.afterPlan pathsHandedOver_of_plan hshallow
  have hkept := Tree.keepsMetadata_carryOut output s.place.tree (kind.plan project o w)
  have hunsearched : ∀ other : ValueSetKind, other.isEnabled o = true →
      s.progress other = .waiting → ((finishKind output o kind (readerOf roots) files).doneAt
        s.place).2.tree = w.tree := by
    intro other hother hwaiting
    rcases hturn with rfl | hsearched
    · rw [htree, ← hplan, kind.tree_of_no_files]
      exact h.unsearched other hother hwaiting
    · exact absurd hwaiting (hsearched other hother)
  rw [← htree] at htouch hcontents hkept
  refine ⟨h.metadata.trans hkept, h.quietly.trans hquiet, ?_, ?_, ?_⟩
  · intro other hother hwaiting
    exact hunsearched other hother (s.waiting_of_move (by simp) hwaiting)
  · intro l hl
    exact (htouch.files l (hl kind hkind)).trans (h.elsewhere l hl)
  · intro other hother
    by_cases heq : other = kind
    · rw [heq, s.progress_move, houtcome]
      refine ⟨by rwa [halone], fun p hp => ?_⟩
      rw [haloneTree]
      exact hcontents p hp _ (p.target_mem_places _)
    · rw [s.progress_move_of_ne heq]
      exact (h.kinds other hother).touch htouch
        (hapart.apart kind other hkind hother (Ne.symm heq))
        (hapart.apart other kind hother hkind heq)

/-- No step disturbs kinds that are apart. -/
theorem Undisturbed.step (h : Undisturbed project output o w s)
    (hapart : KindsApart project output o w) (hroot : w.tree.isFolder project = .ok true)
    (hstep : Underway.Step project output o s s') : Undisturbed project output o w s' := by
  cases hstep with
  | search hkind hwaiting => exact h.search hkind hwaiting
  | read hkind hreading hp hread => exact h.read hroot hapart.proper hkind hreading hp hread
  | stumble hkind hreading hp hfault => exact h.stumble hapart hroot hkind hreading hp hfault
  | finish hkind hreading hall hturn => exact h.finish hapart hkind hreading hall hturn

theorem undisturbed_of_steps (hapart : KindsApart project output o w)
    (hroot : w.tree.isFolder project = .ok true)
    (hsteps : ReflTransGen (Underway.Step project output o) (.start w) s) :
    Undisturbed project output o w s := by
  induction hsteps with
  | refl => exact undisturbed_start project output o w
  | tail _ hstep ih => exact ih.step hapart hroot hstep

/-- Alone, a kind changes no file but those that it hands over. -/
theorem content_generateKind
    (hshallow : ((generateKind project output o kind).doneAt w).1 ≠ .error (.file .tooDeep))
    {l : Location}
    (hl : ∀ p ∈ kind.pathsHandedOver project output o w, l ≠ p.target w.tree.home) :
    ((generateKind project output o kind).doneAt w).2.tree.content? l = w.tree.content? l := by
  obtain ⟨halone, htree, _⟩ := generateKind_doneAt project output o kind w
  rw [halone] at hshallow
  rw [htree]
  exact ((Tree.Mirrors.refl rfl _).afterPlan pathsHandedOver_of_plan hshallow).1.files l hl

end ApexConstants
