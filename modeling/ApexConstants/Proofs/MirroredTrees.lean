import ApexConstants.Proofs.ProperTrees
import ApexConstants.Proofs.WritePlaces

namespace ApexConstants

namespace Path

def Apart (home : Location) (ps qs : List Path) : Prop :=
  ∀ p ∈ ps, ∀ q ∈ qs, p.target home ∉ q.places home

/-- No path of the first list is a path of the second or lies below one, neither by its names nor by
where it leads. -/
def Beside (home : Location) (ps qs : List Path) : Prop :=
  ∀ p ∈ ps, ∀ q ∈ qs, ¬ q.names <+: p.names ∧ ¬ q.target home <+: p.target home

instance (home : Location) (ps qs : List Path) : Decidable (Beside home ps qs) :=
  inferInstanceAs (Decidable (∀ p ∈ ps, ∀ q ∈ qs, _))

theorem Beside.apart {home : Location} {ps qs : List Path} (h : Beside home qs ps)
    (hdown : ∀ q ∈ qs, ".." ∉ q.names) : Apart home ps qs := by
  intro p hp q hq hplace
  exact (h q hq p hp).2 (q.prefix_target (hdown q hq) hplace)

end Path

namespace Tree

def content? (t : Tree) (l : Location) : Option ByteArray :=
  match t.entry? l with
  | some (.file content) => some content
  | _ => none

variable {t t' u u' u'' : Tree} {p : Path} {ps qs : List Path} {home l : Location}
  {content : ByteArray}

theorem content?_eq_some_iff : t.content? l = some content ↔ t.entry? l = some (.file content) := by
  unfold content?
  split
  · rename_i c hc
    simp [hc]
  · rename_i hnone
    simp only [reduceCtorEq, false_iff]
    exact hnone content

theorem content?_eq_none (h : ∀ c, t.entry? l ≠ some (.file c)) : t.content? l = none := by
  cases hc : t.content? l with
  | none => rfl
  | some c => exact absurd (content?_eq_some_iff.mp hc) (h c)

theorem FoldersAdded.content? (h : FoldersAdded t u) (l : Location) : u.content? l = t.content? l := by
  apply Option.ext
  intro c
  rw [content?_eq_some_iff, content?_eq_some_iff, h.sameFiles l c]

theorem content_write (h : t.write p content = (t', .ok ())) (k : Location) :
    t'.content? k = if k = p.target t.home then some content else t.content? k := by
  have hentry := entry_write h k
  split
  · rename_i hk
    rw [if_pos hk] at hentry
    exact content?_eq_some_iff.mpr hentry
  · rename_i hk
    rw [if_neg hk] at hentry
    split at hentry
    · rename_i hparent
      rw [content?_eq_none ((writable_of_write h).free k hparent)]
      exact content?_eq_none (by simp [hentry])
    · unfold Tree.content?
      rw [hentry]

theorem grows_write (t : Tree) (p : Path) (content : ByteArray) : Grows t (t.write p content).1 := by
  rcases hwrite : t.write p content with ⟨t', fault | _⟩
  · exact (foldersAdded_of_write_error hwrite).toGrows
  · exact (wrote_write hwrite).choose_spec.toGrows

/-- What may be different when files are written to some paths: the files that the paths lead to,
and folders on the way. -/
structure Touches (home : Location) (ps : List Path) (u u' : Tree) : Prop where
  grows : Grows u u'
  files : ∀ l, (∀ p ∈ ps, l ≠ p.target home) → u'.content? l = u.content? l
  folders : ∀ l, (∀ p ∈ ps, l ∉ p.places home) →
    u'.entry? l = some .folder → u.entry? l = some .folder

theorem Touches.refl (home : Location) (ps : List Path) (u : Tree) : Touches home ps u u :=
  ⟨Grows.refl u, fun _ _ => rfl, fun _ _ h => h⟩

theorem Touches.trans (h : Touches home ps u u') (h' : Touches home ps u' u'') :
    Touches home ps u u'' where
  grows := h.grows.trans h'.grows
  files l hl := (h'.files l hl).trans (h.files l hl)
  folders l hl hfolder := h.folders l hl (h'.folders l hl hfolder)

theorem touches_write (hhome : u.home = home) (hp : p ∈ ps) (content : ByteArray) :
    Touches home ps u (u.write p content).1 := by
  refine ⟨grows_write u p content, ?_, ?_⟩
  · intro l hl
    rcases hwrite : u.write p content with ⟨after, fault | _⟩
    · exact (foldersAdded_of_write_error hwrite).content? l
    · rw [content_write hwrite, hhome, if_neg (hl p hp)]
  · intro l hl hfolder
    rwa [entry_write_elsewhere (by rw [hhome]; exact hl p hp)] at hfolder

/-- Where some paths lead, a tree has the files of another; it may have more folders, but none that
a path leads to. -/
structure Mirrors (home : Location) (ps : List Path) (t u : Tree) : Prop where
  leftHome : t.home = home
  rightHome : u.home = home
  files : ∀ p ∈ ps, ∀ k ∈ p.places home, u.content? k = t.content? k
  folders : ∀ p ∈ ps, ∀ k ∈ p.places home,
    t.entry? k = some .folder → u.entry? k = some .folder
  targets : ∀ p ∈ ps, u.entry? (p.target home) = some .folder →
    t.entry? (p.target home) = some .folder

theorem Mirrors.refl (hhome : t.home = home) (ps : List Path) : Mirrors home ps t t :=
  ⟨hhome, hhome, fun _ _ _ _ => rfl, fun _ _ _ _ h => h, fun _ _ h => h⟩

/-- Writing to paths that are apart from the ones in question does not matter. -/
theorem Mirrors.touch (h : Mirrors home ps t u) (hu : Touches home qs u u')
    (hqs : Path.Apart home qs ps) (hps : Path.Apart home ps qs) : Mirrors home ps t u' where
  leftHome := h.leftHome
  rightHome := hu.grows.sameHome.trans h.rightHome
  files p hp k hk := by
    rw [← h.files p hp k hk]
    apply hu.files
    rintro q hq rfl
    exact hqs q hq p hp hk
  folders p hp k hk hfolder := hu.grows.folderStays k (h.folders p hp k hk hfolder)
  targets p hp hfolder := h.targets p hp (hu.folders _ (hps p hp) hfolder)

theorem Mirrors.free (h : Mirrors home ps t u) (hp : p ∈ ps) {k : Location}
    (hk : k ∈ p.parent.places home) :
    (∀ c, t.entry? k ≠ some (.file c)) ↔ ∀ c, u.entry? k ≠ some (.file c) := by
  simp only [ne_eq, ← content?_eq_some_iff, h.files p hp k (p.places_parent_subset home k hk)]

theorem Mirrors.writable (h : Mirrors home ps t u) (hp : p ∈ ps) : Writable t p ↔ Writable u p := by
  have hfiles := h.files p hp _ (p.target_mem_places home)
  have hfolders := h.folders p hp _ (p.target_mem_places home)
  have htargets := h.targets p hp
  constructor
  · intro ⟨husable, hfree, hapart, hnot⟩
    rw [h.leftHome] at hfree hapart hnot
    refine ⟨husable, ?_, ?_, ?_⟩ <;> rw [h.rightHome]
    · exact fun k hk => (h.free hp hk).mp (hfree k hk)
    · exact hapart
    · exact fun hfolder => hnot (htargets hfolder)
  · intro ⟨husable, hfree, hapart, hnot⟩
    rw [h.rightHome] at hfree hapart hnot
    refine ⟨husable, ?_, ?_, ?_⟩ <;> rw [h.leftHome]
    · exact fun k hk => (h.free hp hk).mpr (hfree k hk)
    · exact hapart
    · exact fun hfolder => hnot (hfolders hfolder)

/-- A file can be written in one of the trees exactly when it can be in the other, unless there are
too many folders to create. -/
theorem Mirrors.write_ok_iff (h : Mirrors home ps t u) (hp : p ∈ ps) (content : ByteArray)
    (hdeep : (t.write p content).2 ≠ .error .tooDeep) :
    (t.write p content).2 = .ok () ↔ (u.write p content).2 = .ok () := by
  constructor
  · intro hok
    have ht : Writable t p := writable_of_write (Prod.ext rfl hok)
    have hu := (h.writable hp).mp ht
    rcases hu.write content with hok' | hdeep'
    · exact hok'
    · have hmore : ∀ k ∈ p.places t.home, t.entry? k = some .folder → u.entry? k = some .folder := by
        rw [h.leftHome]
        exact h.folders p hp
      have hhome := h.rightHome.trans h.leftHome.symm
      exact absurd (ht.tooDeep_of_more hu hhome hmore hdeep') hdeep
  · intro hok
    have hu : Writable u p := writable_of_write (Prod.ext rfl hok)
    rcases ((h.writable hp).mpr hu).write content with hok' | hdeep'
    · exact hok'
    · exact absurd hdeep' hdeep

/-- Files that are written to both trees do not set them apart. -/
theorem Mirrors.afterWrite (h : Mirrors home ps t u) (ht : t.write p content = (t', .ok ()))
    (hu : u.write p content = (u', .ok ())) : Mirrors home ps t' u' := by
  have hentry := entry_write ht
  have hentry' := entry_write hu
  have hcontent := content_write ht
  have hcontent' := content_write hu
  have hgrows := grows_write t p content
  have hgrows' := grows_write u p content
  rw [ht] at hgrows
  rw [hu] at hgrows'
  rw [h.leftHome] at hentry hcontent
  rw [h.rightHome] at hentry' hcontent'
  refine ⟨hgrows.sameHome.trans h.leftHome, hgrows'.sameHome.trans h.rightHome, ?_, ?_, ?_⟩
  · intro q hq k hk
    rw [hcontent, hcontent', h.files q hq k hk]
  · intro q hq k hk hfolder
    rw [hentry] at hfolder
    rw [hentry']
    split at hfolder
    · cases hfolder
    · rename_i hne
      rw [if_neg hne]
      split at hfolder
      · rename_i hparent
        rw [if_pos hparent]
      · rename_i hparent
        rw [if_neg hparent]
        exact h.folders q hq k hk hfolder
  · intro q hq hfolder
    rw [hentry'] at hfolder
    rw [hentry]
    split at hfolder
    · cases hfolder
    · rename_i hne
      rw [if_neg hne]
      split at hfolder
      · rename_i hparent
        rw [if_pos hparent]
      · rename_i hparent
        rw [if_neg hparent]
        exact h.targets q hq hfolder

/-- The files that are handed over when files are written one after the other: all up to the first
that cannot be written. -/
def handedOver (t : Tree) : List (Path × String) → List (Path × String)
  | [] => []
  | (p, content) :: rest =>
    (p, content) ::
      match treeWriter t p content with
      | (after, .ok ()) => after.handedOver rest
      | (_, .error _) => []

theorem treeWriter_cases (t : Tree) (p : Path) (content : String) :
    (∃ after, t.write p content.toUTF8 = (after, .ok ()) ∧
      treeWriter t p content = (after, .ok ())) ∨
    ∃ after fault, t.write p content.toUTF8 = (after, .error fault) ∧
      treeWriter t p content = (after, .error (.file fault)) := by
  rw [treeWriter_eq]
  rcases t.write p content.toUTF8 with ⟨after, fault | _⟩
  · exact .inr ⟨after, fault, rfl, rfl⟩
  · exact .inl ⟨after, rfl, rfl⟩

theorem handedOver_of_ok {files : List (Path × String)}
    (h : (writeFiles treeWriter t files).2 = .ok ()) : t.handedOver files = files := by
  induction files generalizing t with
  | nil => rfl
  | cons f files ih =>
    obtain ⟨p, content⟩ := f
    simp only [writeFiles] at h
    rcases t.treeWriter_cases p content with ⟨after, _, htree⟩ | ⟨after, fault, _, htree⟩
    · simp only [htree] at h
      simp only [handedOver, htree, ih h]
    · simp [htree] at h

/-- How writing the same files to two trees ends: in both with all of them written, or in both at a
file that cannot be written. -/
def EndAlike (x y : Except Failure Unit) : Prop :=
  (x = .ok () ∧ y = .ok ()) ∨ ∃ a b, x = .error (.file a) ∧ y = .error (.file b)

/-- Files that can be handed over in one tree come to the same in every tree that mirrors it. -/
theorem Mirrors.afterFiles {files : List (Path × String)} (h : Mirrors home ps t u)
    (hps : ∀ f ∈ t.handedOver files, f.1 ∈ ps)
    (hdeep : (writeFiles treeWriter t files).2 ≠ .error (.file .tooDeep)) :
    Touches home ps u (writeFiles treeWriter u files).1 ∧
      EndAlike (writeFiles treeWriter t files).2 (writeFiles treeWriter u files).2 ∧
      ∀ p ∈ ps, ∀ k ∈ p.places home,
        (writeFiles treeWriter u files).1.content? k =
          (writeFiles treeWriter t files).1.content? k := by
  induction files generalizing t u with
  | nil => exact ⟨Touches.refl home ps u, .inl ⟨rfl, rfl⟩, h.files⟩
  | cons f files ih =>
    obtain ⟨p, content⟩ := f
    have hp : p ∈ ps := hps (p, content) List.mem_cons_self
    have htouch := touches_write h.rightHome hp content.toUTF8
    have hiff := h.write_ok_iff hp content.toUTF8
    simp only [writeFiles] at hdeep ⊢
    rcases t.treeWriter_cases p content with ⟨after, hwrite, htree⟩ | ⟨after, fault, hwrite, htree⟩
    · simp only [htree] at hdeep ⊢
      rw [hwrite] at hiff
      have hok : (u.write p content.toUTF8).2 = .ok () := (hiff fun h => by cases h).mp rfl
      rcases u.treeWriter_cases p content with ⟨after', hwrite', htree'⟩ | ⟨_, _, hwrite', _⟩
      · simp only [htree']
        rw [hwrite'] at htouch
        obtain ⟨hmore, hends, hfiles⟩ := ih (h.afterWrite hwrite hwrite')
          (fun f hf => hps f (by simp [handedOver, htree, hf])) hdeep
        exact ⟨htouch.trans hmore, hends, hfiles⟩
      · rw [hwrite'] at hok
        cases hok
    · simp only [htree] at hdeep ⊢
      have hshallow : (t.write p content.toUTF8).2 ≠ .error .tooDeep := by
        rw [hwrite]
        intro heq
        cases heq
        exact hdeep rfl
      rcases u.treeWriter_cases p content with ⟨_, hwrite', _⟩ | ⟨after', fault', hwrite', htree'⟩
      · have hok := (hiff hshallow).mpr (by rw [hwrite'])
        rw [hwrite] at hok
        cases hok
      · simp only [htree']
        rw [hwrite'] at htouch
        refine ⟨htouch, .inr ⟨fault, fault', rfl, rfl⟩, ?_⟩
        intro q hq k hk
        rw [(foldersAdded_of_write_error hwrite').content? k,
          (foldersAdded_of_write_error hwrite).content? k, h.files q hq k hk]

end Tree

end ApexConstants
