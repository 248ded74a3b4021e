import ApexConstants.Proofs.KindPlans
import Mathlib.Logic.Relation

namespace ApexConstants
open Xml (Element)
open Relation (ReflTransGen)

/-- How far a kind has come: its files have not been looked for, they are being read, or it is done.
-/
inductive Progress
  | waiting
  | reading (files : List Path) (roots : List (Path × Element))
  | ended (outcome : Except Failure Result)

def Progress.ofSearch : Except Failure (List Path) → Progress
  | .ok files => reading files []
  | .error fault => ended (.error fault)

theorem Progress.ofSearch_ne_waiting (found : Except Failure (List Path)) :
    ofSearch found ≠ waiting := by
  cases found <;> simp [ofSearch]

def readerOf (roots : List (Path × Element)) : MetadataReader := fun p =>
  match roots.lookup p with
  | some root => .ok root
  | none => .error (.metadata (.unreadable p))

theorem lookup_roots_cons (p q : Path) (root : Element) (roots : List (Path × Element)) :
    List.lookup q ((p, root) :: roots) = if q = p then some root else roots.lookup q := by
  by_cases hq : q = p
  · simp [hq]
  · rw [List.lookup_cons, beq_eq_false_iff_ne.mpr hq, if_neg hq]

/-- Roots are those that a reader gives. -/
def RootsFrom (reader : MetadataReader) (roots : List (Path × Element)) : Prop :=
  ∀ p root, roots.lookup p = some root → reader p = .ok root

theorem RootsFrom.nil (reader : MetadataReader) : RootsFrom reader [] := by
  intro p root h
  cases h

theorem RootsFrom.cons {reader : MetadataReader} {roots : List (Path × Element)} {p : Path}
    {root : Element} (h : RootsFrom reader roots) (hroot : reader p = .ok root) :
    RootsFrom reader ((p, root) :: roots) := by
  intro q r hq
  rw [lookup_roots_cons] at hq
  split at hq
  · rename_i heq
    rw [heq, hroot, Option.some.inj hq]
  · exact h q r hq

/-- With the roots of all files at hand it does not matter who has read them. -/
theorem RootsFrom.readAll {reader : MetadataReader} {roots : List (Path × Element)}
    {files : List Path} (h : RootsFrom reader roots)
    (hall : ∀ p ∈ files, ∃ root, roots.lookup p = some root) :
    readAll (readerOf roots) files = readAll reader files := by
  apply readAll_congr
  intro p hp
  obtain ⟨root, hroot⟩ := hall p hp
  rw [h p root hroot, readerOf, hroot]

structure Underway where
  place : Workplace
  progress : ValueSetKind → Progress

namespace Underway

def start (w : Workplace) : Underway := ⟨w, fun _ => .waiting⟩

def move (s : Underway) (kind : ValueSetKind) (progress : Progress) (place : Workplace) : Underway :=
  ⟨place, Function.update s.progress kind progress⟩

theorem progress_move (s : Underway) (kind : ValueSetKind) (progress : Progress)
    (place : Workplace) : (s.move kind progress place).progress kind = progress := by
  simp only [move, Function.update_self]

theorem progress_move_of_ne (s : Underway) {kind other : ValueSetKind} (h : other ≠ kind)
    (progress : Progress) (place : Workplace) :
    (s.move kind progress place).progress other = s.progress other := by
  simp only [move, Function.update_of_ne h]

theorem move_move (s : Underway) (kind : ValueSetKind) (first second : Progress)
    (place place' : Workplace) :
    (s.move kind first place).move kind second place' = s.move kind second place' := by
  simp only [move, Function.update_idem]

/-- A kind that waits after a move has waited before. -/
theorem waiting_of_move (s : Underway) {kind other : ValueSetKind} {progress : Progress}
    {place : Workplace} (hprogress : progress ≠ .waiting)
    (h : (s.move kind progress place).progress other = .waiting) : s.progress other = .waiting := by
  by_cases heq : other = kind
  · rw [heq, progress_move] at h
    exact absurd h hprogress
  · rwa [s.progress_move_of_ne heq] at h

theorem move_self {s : Underway} {kind : ValueSetKind} {progress : Progress}
    (h : s.progress kind = progress) : s.move kind progress s.place = s := by
  rw [move, ← h, Function.update_eq_self]

def AllSearched (s : Underway) (o : Options) : Prop :=
  ∀ kind : ValueSetKind, kind.isEnabled o = true → s.progress kind ≠ .waiting

theorem AllSearched.move {s : Underway} {o : Options} (h : s.AllSearched o) (kind : ValueSetKind)
    {progress : Progress} (hprogress : progress ≠ .waiting) (place : Workplace) :
    (s.move kind progress place).AllSearched o := by
  intro other hother hwaiting
  exact h other hother (s.waiting_of_move hprogress hwaiting)

/-- What can happen next. The kinds that options ask for take turns in any order: each looks for its
files, reads them one by one, in any order and from the tree as it is then, and when all are read
generates and writes its classes at one go. A file that cannot be read ends it. Nobody waits for a
file before all kinds have looked for theirs, so that only a kind without files ends sooner. -/
inductive Step (project output : Path) (o : Options) : Underway → Underway → Prop
  | search {s : Underway} {kind : ValueSetKind} (hkind : kind.isEnabled o = true)
      (hwaiting : s.progress kind = .waiting) :
      Step project output o s
        (s.move kind (.ofSearch ((searchKind project kind).doneAt s.place).1)
          ((searchKind project kind).doneAt s.place).2)
  | read {s : Underway} {kind : ValueSetKind} {files : List Path} {roots : List (Path × Element)}
      {p : Path} {root : Element} (hkind : kind.isEnabled o = true)
      (hreading : s.progress kind = .reading files roots) (hp : p ∈ files)
      (hroot : s.place.tree.readMetadata p = .ok root) :
      Step project output o s (s.move kind (.reading files ((p, root) :: roots)) s.place)
  | stumble {s : Underway} {kind : ValueSetKind} {files : List Path}
      {roots : List (Path × Element)} {p : Path} {fault : Failure}
      (hkind : kind.isEnabled o = true) (hreading : s.progress kind = .reading files roots)
      (hp : p ∈ files) (hfault : s.place.tree.readMetadata p = .error fault) :
      Step project output o s (s.move kind (.ended (.error fault)) s.place)
  | finish {s : Underway} {kind : ValueSetKind} {files : List Path}
      {roots : List (Path × Element)} (hkind : kind.isEnabled o = true)
      (hreading : s.progress kind = .reading files roots)
      (hall : ∀ p ∈ files, ∃ root, roots.lookup p = some root)
      (hturn : files = [] ∨ s.AllSearched o) :
      Step project output o s
        (s.move kind (.ended ((finishKind output o kind (readerOf roots) files).doneAt s.place).1)
          ((finishKind output o kind (readerOf roots) files).doneAt s.place).2)

end Underway

/-- How a generation for value sets can end. When the options are settled, the kinds are under way
together until all have ended; then the outcomes are put together in the order of the kinds. -/
inductive PicklistRun (o : Options) (w : Workplace) : Except Failure Result → Workplace → Prop
  | unsettled {fault : Failure} {after : Workplace}
      (hopen : (openPicklists o).doneAt w = (.error fault, after)) :
      PicklistRun o w (.error fault) after
  | settled {project output : Path} {settled : Options} {place : Workplace} {s : Underway}
      {outcomes : ValueSetKind → Except Failure Result}
      (hopen : (openPicklists o).doneAt w = (.ok (project, settled, output), place))
      (hsteps : ReflTransGen (Underway.Step project output settled) (.start place) s)
      (hended : ∀ kind, kind.isEnabled settled = true → s.progress kind = .ended (outcomes kind)) :
      PicklistRun o w
        ((conclude output ((ValueSetKind.all.filter (·.isEnabled settled)).map outcomes)).doneAt
          s.place).1
        ((conclude output ((ValueSetKind.all.filter (·.isEnabled settled)).map outcomes)).doneAt
          s.place).2

section Sequential
variable {project output : Path} {o : Options}

theorem readAll_cases (reader : MetadataReader) (files : List Path) :
    (∀ p ∈ files, ∃ root, reader p = .ok root) ∨
      ∃ p ∈ files, ∃ fault, reader p = .error fault ∧ readAll reader files = .error fault := by
  cases hread : readAll reader files with
  | ok pairs =>
    refine .inl fun p hp => ?_
    obtain ⟨_, hpair⟩ := ok_of_mapM hread p hp
    obtain ⟨root, hroot, _⟩ := bind_eq_ok.mp hpair
    exact ⟨root, hroot⟩
  | error fault =>
    obtain ⟨before, p, after, rfl, _, hfault⟩ := mapM_eq_error_iff.mp hread
    refine .inr ⟨p, List.mem_append_right before List.mem_cons_self, fault, ?_, rfl⟩
    cases hp : reader p with
    | ok root =>
      rw [hp] at hfault
      cases hfault
    | error fault' =>
      rw [hp] at hfault
      cases hfault
      rfl

theorem finishKind_congr {reader reader' : MetadataReader} {files : List Path} {kind : ValueSetKind}
    (h : readAll reader' files = readAll reader files) :
    finishKind output o kind reader' files = finishKind output o kind reader files := by
  unfold finishKind
  rw [kind.load_congr h]

/-- Files that can all be read are read one after the other. -/
theorem steps_of_reading (project output : Path) {s : Underway} {kind : ValueSetKind}
    {files todo : List Path} {roots : List (Path × Element)} (hkind : kind.isEnabled o = true)
    (hreading : s.progress kind = .reading files roots) (htodo : ∀ p ∈ todo, p ∈ files)
    (hread : ∀ p ∈ todo, ∃ root, s.place.tree.readMetadata p = .ok root)
    (hroots : RootsFrom s.place.tree.readMetadata roots) :
    ∃ more, ReflTransGen (Underway.Step project output o) s
        (s.move kind (.reading files more) s.place) ∧
      RootsFrom s.place.tree.readMetadata more ∧
      ∀ p, p ∈ todo ∨ (∃ root, roots.lookup p = some root) →
        ∃ root, more.lookup p = some root := by
  induction todo generalizing s roots with
  | nil =>
    refine ⟨roots, ?_, hroots, by simp⟩
    rw [Underway.move_self hreading]
  | cons p todo ih =>
    rw [List.forall_mem_cons] at htodo hread
    obtain ⟨root, hroot⟩ := hread.1
    obtain ⟨more, hsteps, hsound, hcomplete⟩ := ih (s := s.move kind _ s.place)
      (s.progress_move kind _ s.place) htodo.2 hread.2 (hroots.cons hroot)
    rw [Underway.move_move] at hsteps
    refine ⟨more, .head (.read hkind hreading htodo.1 hroot) hsteps, hsound, fun q hq => ?_⟩
    apply hcomplete
    rw [lookup_roots_cons]
    rcases hq with hq | ⟨r, hq⟩
    · rcases List.mem_cons.mp hq with rfl | hq
      · exact .inr ⟨root, if_pos rfl⟩
      · exact .inl hq
    · right
      by_cases heq : q = p
      · exact ⟨root, if_pos heq⟩
      · exact ⟨r, by rw [if_neg heq, hq]⟩

theorem generateKind_eq (project output : Path) (o : Options) (kind : ValueSetKind)
    (w : Workplace) : (generateKind project output o kind).doneAt w =
      match (searchKind project kind).doneAt w with
      | (.ok files, place) => (finishKind output o kind place.tree.readMetadata files).doneAt place
      | (.error fault, place) => (.error fault, place) := by
  unfold generateKind
  simp only [Work.doneAt_bind, Work.doneAt_get]
  rcases (searchKind project kind).doneAt w with ⟨fault | files, place⟩ <;> rfl

theorem finishFound_doneAt (output : Path) (o : Options) (kind : ValueSetKind)
    (found : Except Failure (List Path)) (w : Workplace) :
    (finishFound output o kind found).doneAt w = match found with
      | .ok files => (finishKind output o kind w.tree.readMetadata files).doneAt w
      | .error fault => (.error fault, w) := by
  unfold finishFound
  simp only [Work.doneAt_bind, Work.doneAt_get, Work.doneAt_ofExcept]
  cases found <;> rfl

/-- When all kinds have looked for their files, one can come to its end at one go. -/
theorem steps_of_finishFound (project output : Path) {s : Underway} {kind : ValueSetKind}
    {found : Except Failure (List Path)} (hkind : kind.isEnabled o = true)
    (hsearched : s.AllSearched o) (hfound : s.progress kind = .ofSearch found) :
    ReflTransGen (Underway.Step project output o) s
      (s.move kind (.ended ((finishFound output o kind found).doneAt s.place).1)
        ((finishFound output o kind found).doneAt s.place).2) := by
  rw [finishFound_doneAt]
  cases found with
  | error fault =>
    have hended : s.progress kind = .ended (.error fault) := hfound
    dsimp only
    rw [Underway.move_self hended]
  | ok files =>
    have hreading : s.progress kind = .reading files [] := hfound
    dsimp only
    rcases readAll_cases s.place.tree.readMetadata files with hall | ⟨p, hp, fault, hfault, hread⟩
    · obtain ⟨more, hsteps, hsound, hcomplete⟩ :=
        steps_of_reading project output hkind hreading (fun _ hp => hp) hall nofun
      have hreader : readAll (readerOf more) files = readAll s.place.tree.readMetadata files :=
        hsound.readAll fun p hp => hcomplete p (.inl hp)
      have hfinish : Underway.Step project output o (s.move kind (.reading files more) s.place) _ :=
        .finish hkind (s.progress_move kind _ s.place) (fun p hp => hcomplete p (.inl hp))
          (.inr (hsearched.move kind (by simp) s.place))
      rw [Underway.move_move, finishKind_congr hreader] at hfinish
      exact hsteps.tail hfinish
    · have hdone : (finishKind output o kind s.place.tree.readMetadata files).doneAt s.place =
          (.error fault, s.place) := by
        unfold finishKind
        rw [kind.load_eq_error hread]
        rfl
      rw [hdone]
      exact .single (.stumble hkind hreading hp hfault)

/-- Work that is attempted for one kind after the other, where each attempt is a way to take turns
as long as some condition holds. -/
theorem steps_of_attempts {α β : Type} (allowed : Underway → Prop) (key : α → ValueSetKind)
    (work : α → Work β) (before : α → Progress) (behind : Except Failure β → Progress) {xs : List α}
    (hkept : ∀ s kind outcome place, allowed s → allowed (s.move kind (behind outcome) place))
    (hstep : ∀ s, allowed s → ∀ x ∈ xs, s.progress (key x) = before x →
      ReflTransGen (Underway.Step project output o) s
        (s.move (key x) (behind ((work x).doneAt s.place).1) ((work x).doneAt s.place).2))
    {s : Underway} (hallowed : allowed s) (hnodup : (xs.map key).Nodup)
    (hbefore : ∀ x ∈ xs, s.progress (key x) = before x) :
    ∃ s' outcomes, ReflTransGen (Underway.Step project output o) s s' ∧
      (xs.mapM fun x => do return (key x, ← Work.attempt (work x))).doneAt s.place =
        (.ok outcomes, s'.place) ∧
      outcomes.map Prod.fst = xs.map key ∧
      (∀ p ∈ outcomes, s'.progress p.1 = behind p.2) ∧
      ∀ kind ∉ xs.map key, s'.progress kind = s.progress kind := by
  induction xs generalizing s with
  | nil => exact ⟨s, [], .refl, rfl, rfl, by simp, by simp⟩
  | cons x xs ih =>
    rw [List.map_cons, List.nodup_cons] at hnodup
    rw [List.forall_mem_cons] at hbefore
    have hfirst := hstep s hallowed x List.mem_cons_self hbefore.1
    rcases hwork : (work x).doneAt s.place with ⟨outcome, place⟩
    rw [hwork] at hfirst
    have hfresh : ∀ y ∈ xs, key y ≠ key x := fun y hy heq =>
      hnodup.1 (heq ▸ List.mem_map_of_mem hy)
    obtain ⟨s', outcomes, hsteps, hdone, hkeys, hends, hothers⟩ :=
      ih (fun s hs y hy => hstep s hs y (List.mem_cons_of_mem _ hy))
        (hkept s (key x) outcome place hallowed) hnodup.2 fun y hy => by
          rw [s.progress_move_of_ne (hfresh y hy)]
          exact hbefore.2 y hy
    have hrest : (xs.mapM fun x => do return (key x, ← Work.attempt (work x))).doneAt place =
        (.ok outcomes, s'.place) := hdone
    refine ⟨s', (key x, outcome) :: outcomes, hfirst.trans hsteps, ?_, ?_, ?_, ?_⟩
    · simp only [List.mapM_cons, Work.doneAt_bind, Work.doneAt_attempt, Work.doneAt_pure, hwork,
        hrest]
    · rw [List.map_cons, List.map_cons, hkeys]
    · rw [List.forall_mem_cons]
      refine ⟨?_, hends⟩
      rw [hothers (key x) hnodup.1, s.progress_move]
    · intro kind hkind
      rw [List.map_cons, List.mem_cons, not_or] at hkind
      rw [hothers kind hkind.2, s.progress_move_of_ne hkind.1]

/-- What kinds that wait come to when all look for their files and then one after the other goes on,
they can come to by turns. -/
theorem steps_of_generateKinds (project output : Path) {s : Underway}
    {kinds : List ValueSetKind} (hnodup : kinds.Nodup)
    (hkinds : ∀ kind ∈ kinds, kind.isEnabled o = true ∧ s.progress kind = .waiting)
    (hall : ∀ kind : ValueSetKind, kind.isEnabled o = true → kind ∈ kinds) :
    ∃ s' outcomes, ReflTransGen (Underway.Step project output o) s s' ∧
      (generateKinds project output o kinds).doneAt s.place = (.ok outcomes, s'.place) ∧
      outcomes.map Prod.fst = kinds ∧ ∀ p ∈ outcomes, s'.progress p.1 = .ended p.2 := by
  obtain ⟨between, searched, hsearches, hfound, hkeys, hprogress, -⟩ :=
    steps_of_attempts (fun _ => True) id (searchKind project) (fun _ => .waiting)
      Progress.ofSearch (fun _ _ _ _ h => h)
      (fun s _ kind hkind hwaiting => .single (.search (hkinds kind hkind).1 hwaiting)) trivial
      (by rwa [List.map_id]) fun kind hkind => (hkinds kind hkind).2
  rw [List.map_id] at hkeys
  have hsearched : between.AllSearched o := by
    intro kind hkind
    obtain ⟨p, hp, rfl⟩ := List.mem_map.mp (hkeys ▸ hall kind hkind)
    rw [hprogress p hp]
    exact Progress.ofSearch_ne_waiting p.2
  have hasked : ∀ p ∈ searched, p.1.isEnabled o = true := by
    intro p hp
    refine (hkinds p.1 ?_).1
    rw [← hkeys]
    exact List.mem_map_of_mem hp
  obtain ⟨s', outcomes, hsteps, hdone, hkeys', hended, -⟩ :=
    steps_of_attempts (·.AllSearched o) Prod.fst (fun p => finishFound output o p.1 p.2)
      (fun p => .ofSearch p.2) Progress.ended
      (fun s kind outcome place h => h.move kind (by simp) place)
      (fun s hs p hp hfound => steps_of_finishFound project output (hasked p hp) hs hfound)
      hsearched (by rwa [hkeys]) hprogress
  refine ⟨s', outcomes, hsearches.trans hsteps, ?_, hkeys'.trans hkeys, hended⟩
  unfold generateKinds
  rw [Work.doneAt_bind]
  dsimp only [id] at hfound
  rw [hfound]
  exact hdone

/-- A kind by itself looks for its files and goes on. -/
theorem generateKinds_singleton (project output : Path) (o : Options) (kind : ValueSetKind)
    (w : Workplace) : (generateKinds project output o [kind]).doneAt w =
      (.ok [(kind, ((generateKind project output o kind).doneAt w).1)],
        ((generateKind project output o kind).doneAt w).2) := by
  rw [generateKind_eq]
  unfold generateKinds
  simp only [List.mapM_cons, List.mapM_nil, Work.doneAt_bind, Work.doneAt_attempt, Work.doneAt_pure,
    finishFound_doneAt]
  rcases (searchKind project kind).doneAt w with ⟨fault | files, place⟩ <;> rfl

theorem filterMap_eq_map_filter {α β : Type} {f : α → Option β} {g : α → β} {accepts : α → Bool}
    {xs : List α} (hin : ∀ x ∈ xs, accepts x = true → f x = some (g x))
    (hout : ∀ x ∈ xs, accepts x = false → f x = none) :
    xs.filterMap f = (xs.filter accepts).map g := by
  induction xs with
  | nil => rfl
  | cons x xs ih =>
    rw [List.forall_mem_cons] at hin hout
    rw [List.filterMap_cons, List.filter_cons, ih hin.2 hout.2]
    cases hx : accepts x with
    | true => simp [hin.1 hx]
    | false => simp [hout.1 hx]

/-- A generation that takes the kinds one after the other, in any order, is a run. -/
theorem picklistRun_of_order {order : List ValueSetKind} (horder : order.Perm ValueSetKind.all)
    (o : Options) (w : Workplace) :
    PicklistRun o w ((generatePicklistsIn order o).doneAt w).1
      ((generatePicklistsIn order o).doneAt w).2 := by
  unfold generatePicklistsIn
  rw [Work.doneAt_bind]
  rcases hopen : (openPicklists o).doneAt w with ⟨fault | ⟨project, settled, output⟩, place⟩
  · exact .unsettled hopen
  · dsimp only
    have hall : ∀ kind, kind ∈ order := by
      intro kind
      rw [horder.mem_iff]
      cases kind <;> decide
    have hnodup : order.Nodup := horder.nodup_iff.mpr (by decide)
    obtain ⟨s, outcomes, hsteps, hdone, hkeys, hended⟩ := steps_of_generateKinds
      project output (s := .start place) (hnodup.filter (·.isEnabled settled))
      (fun kind hkind => ⟨(List.mem_filter.mp hkind).2, rfl⟩)
      fun kind hkind => List.mem_filter.mpr ⟨hall kind, hkind⟩
    have hin : ∀ kind : ValueSetKind, kind.isEnabled settled = true →
        ∃ outcome, outcomes.lookup kind = some outcome ∧ s.progress kind = .ended outcome := by
      intro kind hkind
      cases hlookup : outcomes.lookup kind with
      | none =>
        have hmem : kind ∈ outcomes.map Prod.fst :=
          hkeys ▸ List.mem_filter.mpr ⟨hall kind, hkind⟩
        obtain ⟨p, hp, rfl⟩ := List.mem_map.mp hmem
        simpa using List.lookup_eq_none_iff.mp hlookup p hp
      | some outcome =>
        obtain ⟨before, behind, hsplit, -⟩ := List.lookup_eq_some_iff.mp hlookup
        exact ⟨outcome, rfl, hended (kind, outcome) (by simp [hsplit])⟩
    have hout : ∀ kind : ValueSetKind, kind.isEnabled settled = false →
        outcomes.lookup kind = none := by
      intro kind hkind
      refine List.lookup_eq_none_iff.mpr fun p hp => ?_
      have hmem : p.1 ∈ outcomes.map Prod.fst := List.mem_map_of_mem hp
      rw [hkeys] at hmem
      have hasked := (List.mem_filter.mp hmem).2
      by_contra heq
      simp only [bne_iff_ne, ne_eq, not_not] at heq
      rw [← heq, hkind] at hasked
      cases hasked
    have hdone' : (generateKinds project output settled
        (order.filter (·.isEnabled settled))).doneAt place = (.ok outcomes, s.place) := hdone
    have houtcomes : inKindOrder outcomes = (ValueSetKind.all.filter (·.isEnabled settled)).map
        fun kind => (outcomes.lookup kind).getD (.error (.value .tooDeep)) := by
      apply filterMap_eq_map_filter
      · intro kind _ hkind
        obtain ⟨outcome, hlookup, _⟩ := hin kind hkind
        rw [hlookup]
        rfl
      · exact fun kind _ hkind => hout kind hkind
    rw [Work.doneAt_bind, hdone']
    dsimp only
    rw [houtcomes]
    refine .settled hopen hsteps fun kind hkind => ?_
    obtain ⟨outcome, hlookup, hprogress⟩ := hin kind hkind
    rw [hprogress, hlookup]
    rfl

end Sequential

end ApexConstants
