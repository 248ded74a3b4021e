import ApexConstants.Proofs.HeldFiles
import ApexConstants.Proofs.UndisturbedKinds

namespace ApexConstants
open Relation (ReflTransGen)
open Xml (Element)

namespace ValueSetKind

def filesPlanned (kind : ValueSetKind) (project output : Path) (o : Options) (w : Workplace) :
    List (Path × String) :=
  match kind.plan project o w with
  | .error _ => []
  | .ok planned => planned.files output

end ValueSetKind

def pathsPlanned (project output : Path) (o : Options) (w : Workplace) : List Path :=
  (ValueSetKind.all.filter (·.isEnabled o)).flatMap fun kind =>
    (kind.filesPlanned project output o w).map Prod.fst

/-- No two kinds write the same file. -/
def NoneShared (project output : Path) (o : Options) (w : Workplace) : Prop :=
  ∀ kind other : ValueSetKind, kind.isEnabled o = true → other.isEnabled o = true → kind ≠ other →
    ∀ f ∈ kind.filesPlanned project output o w, ∀ g ∈ other.filesPlanned project output o w,
      f.1.target w.tree.home ≠ g.1.target w.tree.home

variable {project output : Path} {o : Options} {kind other : ValueSetKind} {w start : Workplace}
  {u u' : Tree} {planned : Result}

theorem filesPlanned_of_plan (h : kind.plan project o w = .ok planned) :
    kind.filesPlanned project output o w = planned.files output := by
  rw [ValueSetKind.filesPlanned, h]

theorem mem_enabled (hkind : kind.isEnabled o = true) :
    kind ∈ ValueSetKind.all.filter (·.isEnabled o) := by
  refine List.mem_filter.mpr ⟨?_, hkind⟩
  cases kind <;> decide

theorem filesPlanned_subset (hkind : kind.isEnabled o = true) :
    ∀ p ∈ (kind.filesPlanned project output o w).map Prod.fst,
      p ∈ pathsPlanned project output o w :=
  fun _ hp => List.mem_flatMap.mpr ⟨kind, mem_enabled hkind, hp⟩

def PlansHeld (project output : Path) (o : Options) (w : Workplace) (u : Tree) : Prop :=
  ∀ kind : ValueSetKind, kind.isEnabled o = true →
    ∃ planned, kind.plan project o w = .ok planned ∧ Tree.Holds u (planned.files output)

/-- What is found in a tree is what is found in that of a workplace. -/
def FindsNoOther (project : Path) (o : Options) (w : Workplace) (u : Tree) : Prop :=
  ∀ kind : ValueSetKind, kind.isEnabled o = true → ∀ files,
    u.findMetadata kind.metadata project = .ok files →
      w.tree.findMetadata kind.metadata project = .ok files

/-- Where a kind stands that is under way in a tree, compared with its plan in the tree of `w`. When
it fails, its files could not be looked for in the tree where the kinds have started from, or it has
no plan, or a file of the plan could not be read there. -/
def FollowsPlan (project output : Path) (o : Options) (w start : Workplace) (kind : ValueSetKind)
    (u : Tree) : Progress → Prop
  | .waiting => True
  | .reading files roots =>
    start.tree.findMetadata kind.metadata project = .ok files ∧
      w.tree.findMetadata kind.metadata project = .ok files ∧ RootsFrom w.tree.readMetadata roots
  | .ended (.ok r) => (∃ files, start.tree.findMetadata kind.metadata project = .ok files) ∧
      ∃ planned, kind.plan project o w = .ok planned ∧ r = planned.noted output ∧
        Tree.Holds u (planned.files output)
  | .ended (.error fault) =>
    (∃ cause, start.tree.findMetadata kind.metadata project = .error cause ∧
      fault = .file cause) ∨
    ∀ planned, kind.plan project o w = .ok planned →
      ∃ f ∈ planned.files output, ∀ content, start.tree.read f.1 ≠ .ok content

/-- What holds while kinds are under way from a workplace that has the metadata of another. -/
structure OnPlan (project output : Path) (o : Options) (w start : Workplace) (s : Underway) :
    Prop where
  metadata : Tree.KeepsMetadata w.tree s.place.tree
  sameRules : s.place.namer.rules = w.namer.rules
  unsearched : ∀ kind : ValueSetKind, kind.isEnabled o = true → s.progress kind = .waiting →
    s.place.tree = start.tree
  touched : Tree.Touches w.tree.home (pathsPlanned project output o w) start.tree s.place.tree
  /-- As long as the files are there already nothing changes. -/
  unchanged : PlansHeld project output o w start.tree →
    ∀ l, s.place.tree.content? l = start.tree.content? l
  kinds : ∀ kind : ValueSetKind, kind.isEnabled o = true →
    FollowsPlan project output o w start kind s.place.tree (s.progress kind)

theorem onPlan_start (hkept : Tree.KeepsMetadata w.tree start.tree)
    (hrules : start.namer.rules = w.namer.rules) :
    OnPlan project output o w start (.start start) :=
  ⟨hkept, hrules, fun _ _ _ => rfl, .refl _ _ _, fun _ _ => rfl, fun _ _ => trivial⟩

variable {s s' : Underway}

/-- A move of one kind that leaves the files as they are. -/
theorem OnPlan.move (h : OnPlan project output o w start s) {progress : Progress}
    {place : Workplace} (hprogress : progress ≠ .waiting) (htree : place.tree = s.place.tree)
    (hquiet : Quietly s.place place)
    (hfollows : FollowsPlan project output o w start kind s.place.tree progress) :
    OnPlan project output o w start (s.move kind progress place) := by
  refine ⟨?_, hquiet.sameRules.trans h.sameRules, ?_, ?_, ?_, ?_⟩
  · exact htree ▸ h.metadata
  · intro other hother hwaiting
    exact htree.trans (h.unsearched other hother (s.waiting_of_move hprogress hwaiting))
  · exact htree ▸ h.touched
  · intro hheld l
    have hsame := h.unchanged hheld l
    rwa [← htree] at hsame
  · intro other hother
    change FollowsPlan project output o w start other place.tree _
    rw [htree]
    by_cases heq : other = kind
    · rw [heq, s.progress_move]
      exact hfollows
    · rw [s.progress_move_of_ne heq]
      exact h.kinds other hother

theorem followsPlan_of_error {fault : Failure} (h : kind.plan project o w = .error fault)
    (fault' : Failure) : FollowsPlan project output o w start kind u (.ended (.error fault')) := by
  refine .inr fun planned hplan => ?_
  rw [h] at hplan
  cases hplan

/-- Looking for files finds those of the plan or is stopped, which ends the kind. -/
theorem OnPlan.search (h : OnPlan project output o w start s)
    (hfinds : FindsNoOther project o w start.tree) (hkind : kind.isEnabled o = true)
    (hwaiting : s.progress kind = .waiting) :
    OnPlan project output o w start (s.move kind
      (.ofSearch ((searchKind project kind).doneAt s.place).1)
      ((searchKind project kind).doneAt s.place).2) := by
  obtain ⟨hfound, htree, hquiet⟩ := searchKind_doneAt project kind s.place
  have hstart := h.unsearched kind hkind hwaiting
  refine h.move (Progress.ofSearch_ne_waiting _) htree hquiet ?_
  rw [hfound, hstart]
  cases hfiles : start.tree.findMetadata kind.metadata project with
  | error fault => exact .inl ⟨fault, hfiles, rfl⟩
  | ok files => exact ⟨hfiles, hfinds kind hkind files hfiles, .nil _⟩

theorem OnPlan.read (h : OnPlan project output o w start s)
    (hroot : w.tree.isFolder project = .ok true) (hproper : w.tree.Proper)
    (hkind : kind.isEnabled o = true) {files : List Path} {roots : List (Path × Element)}
    (hreading : s.progress kind = .reading files roots) {p : Path} {root : Element}
    (hp : p ∈ files) (hread : s.place.tree.readMetadata p = .ok root) :
    OnPlan project output o w start
      (s.move kind (.reading files ((p, root) :: roots)) s.place) := by
  have hfollows := h.kinds kind hkind
  rw [hreading] at hfollows
  obtain ⟨hstart, hfiles, hroots⟩ := hfollows
  rw [h.metadata.readMetadata hproper hroot hfiles hp] at hread
  exact h.move (by simp) rfl (.refl _) ⟨hstart, hfiles, hroots.cons hread⟩

/-- With a file that cannot be read there is no plan. -/
theorem OnPlan.stumble (h : OnPlan project output o w start s)
    (hroot : w.tree.isFolder project = .ok true) (hproper : w.tree.Proper)
    (hkind : kind.isEnabled o = true) {files : List Path} {roots : List (Path × Element)}
    (hreading : s.progress kind = .reading files roots) {p : Path} {fault : Failure}
    (hp : p ∈ files) (hfault : s.place.tree.readMetadata p = .error fault) :
    OnPlan project output o w start (s.move kind (.ended (.error fault)) s.place) := by
  have hfollows := h.kinds kind hkind
  rw [hreading] at hfollows
  obtain ⟨-, hfiles, -⟩ := hfollows
  rw [h.metadata.readMetadata hproper hroot hfiles hp] at hfault
  rcases readAll_cases w.tree.readMetadata files with hall | ⟨_, _, first, _, hfirst⟩
  · obtain ⟨root, hread⟩ := hall p hp
    rw [hread] at hfault
    cases hfault
  · have hplan : kind.plan project o w = .error first := by
      rw [plan_of_found hfiles, ValueSetKind.planFrom, kind.load_eq_error hfirst]
      rfl
    exact h.move (by simp) rfl (.refl _) (followsPlan_of_error hplan _)

/-- What carrying out a plan does to a tree, and when it fails. -/
theorem carryOut_follows (output : Path) (u : Tree) (planned : Result) :
    Tree.Touches u.home ((planned.files output).map Prod.fst) u
        (carryOut output u (.ok planned)).2 ∧
      match (carryOut output u (.ok planned)).1 with
      | .ok r => r = planned.noted output ∧
          Tree.Holds (carryOut output u (.ok planned)).2 (planned.files output)
      | .error _ => ∃ f ∈ planned.files output, ∀ content, u.read f.1 ≠ .ok content := by
  refine ⟨Tree.touches_writeFiles rfl _, ?_⟩
  simp only [carryOut]
  rcases hwritten : writeFiles treeWriter u (planned.files output) with ⟨after, fault | _⟩
  · have hmissing : ∃ f ∈ planned.files output, ∀ content, u.read f.1 ≠ .ok content := by
      by_contra hnone
      push Not at hnone
      have hok := Tree.writeFiles_again hnone
      rw [hwritten] at hok
      cases hok
    exact hmissing
  · exact ⟨rfl, (Tree.wroteAll_writeFiles hwritten).holds⟩

/-- A plan whose files are there is carried out without a change. -/
theorem carryOut_of_held (h : Tree.Holds u (planned.files output)) :
    (carryOut output u (.ok planned)).1 = .ok (planned.noted output) ∧
      ∀ l, (carryOut output u (.ok planned)).2.content? l = u.content? l := by
  obtain ⟨hok, hsame⟩ := h.rewritten
  simp only [carryOut, hok]
  exact ⟨rfl, hsame⟩

/-- Another kind writes none of the files of a kind. -/
theorem FollowsPlan.touch {progress : Progress}
    (h : FollowsPlan project output o w start kind u progress) (hhome : u.home = w.tree.home)
    (htouch : Tree.Touches w.tree.home ((other.filesPlanned project output o w).map Prod.fst) u u')
    (hapart : ∀ f ∈ kind.filesPlanned project output o w,
      ∀ g ∈ other.filesPlanned project output o w,
        f.1.target w.tree.home ≠ g.1.target w.tree.home) :
    FollowsPlan project output o w start kind u' progress := by
  cases progress with
  | waiting => trivial
  | reading files roots => exact h
  | ended outcome =>
    cases outcome with
    | error fault => exact h
    | ok r =>
      obtain ⟨hfound, planned, hplan, hr, hholds⟩ := h
      rw [filesPlanned_of_plan hplan] at hapart
      refine ⟨hfound, planned, hplan, hr, hholds.touch (hhome ▸ htouch) fun f hf p hp => ?_⟩
      obtain ⟨g, hg, rfl⟩ := List.mem_map.mp hp
      rw [hhome]
      exact hapart f hf g hg

/-- A kind whose files have been read carries out its plan. -/
theorem OnPlan.finish (h : OnPlan project output o w start s)
    (hnone : NoneShared project output o w) (hkind : kind.isEnabled o = true)
    {files : List Path} {roots : List (Path × Element)}
    (hreading : s.progress kind = .reading files roots)
    (hall : ∀ p ∈ files, ∃ root, roots.lookup p = some root)
    (hturn : files = [] ∨ s.AllSearched o) :
    OnPlan project output o w start (s.move kind
      (.ended ((finishKind output o kind (readerOf roots) files).doneAt s.place).1)
      ((finishKind output o kind (readerOf roots) files).doneAt s.place).2) := by
  have hfollows := h.kinds kind hkind
  rw [hreading] at hfollows
  obtain ⟨hstart, hfiles, hroots⟩ := hfollows
  have hplan : kind.planFrom o s.place.namer (readerOf roots) files = kind.plan project o w := by
    rw [plan_of_found hfiles]
    exact kind.planFrom_congr o h.sameRules (hroots.readAll hall)
  obtain ⟨houtcome, htree, hquiet⟩ := finishKind_doneAt output o kind (readerOf roots) files s.place
  have hunsearched : ∀ other : ValueSetKind, other.isEnabled o = true →
      s.progress other = .waiting → ((finishKind output o kind (readerOf roots) files).doneAt
        s.place).2.tree = start.tree := by
    intro other hother hwaiting
    rcases hturn with rfl | hsearched
    · rw [htree, kind.tree_of_no_files]
      exact h.unsearched other hother hwaiting
    · exact absurd hwaiting (hsearched other hother)
  rw [hplan] at houtcome htree
  cases hplanned : kind.plan project o w with
  | error fault =>
    rw [hplanned] at houtcome htree
    refine h.move (by simp) htree hquiet ?_
    rw [houtcome]
    exact followsPlan_of_error hplanned fault
  | ok planned =>
    obtain ⟨htouch, hend⟩ := carryOut_follows output s.place.tree planned
    have hkept := Tree.keepsMetadata_carryOut output s.place.tree (.ok planned)
    have hhome := h.metadata.sameHome
    rw [hplanned] at houtcome htree
    rw [← houtcome, ← htree] at hend
    rw [← htree, hhome, ← filesPlanned_of_plan hplanned] at htouch
    rw [← htree] at hkept
    refine ⟨h.metadata.trans hkept, hquiet.sameRules.trans h.sameRules,
      fun other hother hwaiting => hunsearched other hother (s.waiting_of_move (by simp) hwaiting),
      h.touched.trans (htouch.mono (filesPlanned_subset hkind)), fun hheld l => ?_,
      fun other hother => ?_⟩
    · obtain ⟨found, hfound, hholds⟩ := hheld kind hkind
      cases hplanned.symm.trans hfound
      have hagain := hholds.congr h.touched.grows (h.unchanged hheld)
      have hsame := (carryOut_of_held hagain).2 l
      rw [← htree] at hsame
      exact hsame.trans (h.unchanged hheld l)
    · by_cases heq : other = kind
      · rw [heq, s.progress_move]
        split at hend
        · rename_i r hr
          rw [hr]
          exact ⟨⟨files, hstart⟩, planned, hplanned, hend.1, hend.2⟩
        · rename_i fault hfault
          rw [hfault]
          refine .inr fun planned' hplanned' => ?_
          cases hplanned.symm.trans hplanned'
          obtain ⟨f, hf, hunread⟩ := hend
          refine ⟨f, hf, fun content hread => ?_⟩
          obtain ⟨content', hread'⟩ := h.touched.grows.read hread
          exact hunread content' hread'
      · rw [s.progress_move_of_ne heq]
        exact (h.kinds other hother).touch hhome htouch (hnone other kind hother hkind heq)

/-- No step leaves the plans. -/
theorem OnPlan.step (h : OnPlan project output o w start s)
    (hroot : w.tree.isFolder project = .ok true) (hproper : w.tree.Proper)
    (hnone : NoneShared project output o w) (hfinds : FindsNoOther project o w start.tree)
    (hstep : Underway.Step project output o s s') : OnPlan project output o w start s' := by
  cases hstep with
  | search hkind hwaiting => exact h.search hfinds hkind hwaiting
  | read hkind hreading hp hread => exact h.read hroot hproper hkind hreading hp hread
  | stumble hkind hreading hp hfault => exact h.stumble hroot hproper hkind hreading hp hfault
  | finish hkind hreading hall hturn => exact h.finish hnone hkind hreading hall hturn

theorem onPlan_of_steps (hkept : Tree.KeepsMetadata w.tree start.tree)
    (hrules : start.namer.rules = w.namer.rules) (hroot : w.tree.isFolder project = .ok true)
    (hproper : w.tree.Proper) (hnone : NoneShared project output o w)
    (hfinds : FindsNoOther project o w start.tree)
    (hsteps : ReflTransGen (Underway.Step project output o) (.start start) s) :
    OnPlan project output o w start s := by
  induction hsteps with
  | refl => exact onPlan_start hkept hrules
  | tail _ hstep ih => exact ih.step hroot hproper hnone hfinds hstep

/-- Where all files of its plan are there already, a kind can fail only because its files cannot be
looked for. -/
theorem OnPlan.again (h : OnPlan project output o w start s) (hkind : kind.isEnabled o = true)
    (hplan : kind.plan project o w = .ok planned)
    (hholds : Tree.Holds start.tree (planned.files output))
    {outcome : Except Failure Result} (hended : s.progress kind = .ended outcome) :
    ((∃ files, start.tree.findMetadata kind.metadata project = .ok files) ∧
        outcome = .ok (planned.noted output)) ∨
      ∃ cause, start.tree.findMetadata kind.metadata project = .error cause ∧
        outcome = .error (.file cause) := by
  have hfollows := h.kinds kind hkind
  rw [hended] at hfollows
  cases outcome with
  | error fault =>
    rcases hfollows with ⟨cause, hcause, rfl⟩ | hunread
    · exact .inr ⟨cause, hcause, rfl⟩
    · obtain ⟨f, hf, hnever⟩ := hunread planned hplan
      obtain ⟨_, text, _, _, hread⟩ := hholds.last hf
      exact absurd hread (hnever _)
  | ok r =>
    obtain ⟨hfound, planned', hplan', rfl, _⟩ := hfollows
    cases hplan.symm.trans hplan'
    exact .inl ⟨hfound, rfl⟩

end ApexConstants
