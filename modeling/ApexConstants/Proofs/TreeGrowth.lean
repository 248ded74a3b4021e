import ApexConstants.Files
import ApexConstants.Proofs.Outcomes

namespace ApexConstants

theorem Entry.lookup_put (location : Location) (entry : Entry) (entries : List (Location × Entry))
    (l : Location) : (Entry.put location entry entries).lookup l =
      if l = location then some entry else entries.lookup l := by
  induction entries with
  | nil =>
    by_cases h : l = location
    · simp [put, h]
    · have hl : (l == location) = false := beq_eq_false_iff_ne.mpr h
      simp [put, List.lookup_cons, h, hl]
  | cons head rest ih =>
    obtain ⟨k, e⟩ := head
    by_cases hk : k = location
    · subst hk
      by_cases h : l = k
      · simp [put, h]
      · have hl : (l == k) = false := beq_eq_false_iff_ne.mpr h
        simp [put, List.lookup_cons, h, hl]
    · by_cases h : l = k
      · subst h
        simp [put, hk]
      · have hl : (l == k) = false := beq_eq_false_iff_ne.mpr h
        simp [put, List.lookup_cons, hk, hl, ih]

namespace Tree

/-- No folder and no file goes away, and none takes the other's place. -/
structure Grows (t t' : Tree) : Prop where
  sameHome : t'.home = t.home
  folderStays : ∀ l, t.entry? l = some .folder → t'.entry? l = some .folder
  fileStays : ∀ l c, t.entry? l = some (.file c) → ∃ d, t'.entry? l = some (.file d)

theorem Grows.refl (t : Tree) : Grows t t := ⟨rfl, fun _ h => h, fun _ c h => ⟨c, h⟩⟩

theorem Grows.trans {t t' t'' : Tree} (h : Grows t t') (h' : Grows t' t'') : Grows t t'' where
  sameHome := h'.sameHome.trans h.sameHome
  folderStays l hl := h'.folderStays l (h.folderStays l hl)
  fileStays l c hl := by
    obtain ⟨d, hd⟩ := h.fileStays l c hl
    exact h'.fileStays l d hd

/-- What a name leads to stays. -/
theorem Grows.follow {t t' : Tree} (h : Grows t t') {l l' : Location} {name : String}
    (hf : t.follow l name = .ok l') : t'.follow l name = .ok l' := by
  unfold Tree.follow at hf ⊢
  cases hl : t.entry? l with
  | none => simp [hl] at hf
  | some entry =>
    cases entry with
    | file c => simp [hl] at hf
    | folder =>
      rw [hl] at hf
      rw [h.folderStays l hl]
      exact hf

theorem Grows.followAll {t t' : Tree} (h : Grows t t') {names : List String} {l l' : Location}
    (hf : names.foldlM t.follow l = .ok l') : names.foldlM t'.follow l = .ok l' := by
  induction names generalizing l with
  | nil => exact hf
  | cons name names ih =>
    rw [List.foldlM_cons] at hf ⊢
    obtain ⟨k, hn, hrest⟩ := bind_eq_ok.mp hf
    exact bind_eq_ok.mpr ⟨k, h.follow hn, ih hrest⟩

/-- A path that leads somewhere goes on to lead there. -/
theorem Grows.locate {t t' : Tree} (h : Grows t t') {p : Path} {l : Location}
    (hl : t.locate p = .ok l) : t'.locate p = .ok l := by
  unfold Tree.locate at hl ⊢
  rw [h.sameHome]
  split at hl
  · cases hl
  · split at hl
    · cases hl
    · rename_i hzero hlong
      rw [if_neg hzero, if_neg hlong]
      exact h.followAll hl

/-- The current folder is always there. -/
theorem entry_home (t : Tree) : t.entry? t.home = some .folder := by
  unfold entry?
  simp

theorem not_above_home {t : Tree} {l : Location} (h : t.entry? l ≠ some .folder) :
    ¬ l.isPrefixOf t.home = true := by
  intro hp
  apply h
  unfold entry?
  rw [if_pos hp]

theorem entry_put {t : Tree} {location : Location} (h : ¬ location.isPrefixOf t.home = true)
    (entry : Entry) (l : Location) :
    Tree.entry? (t.put location entry) l = if l = location then some entry else t.entry? l := by
  unfold entry? put
  by_cases hl : l = location
  · subst hl
    simp [h, Entry.lookup_put]
  · simp [hl, Entry.lookup_put]

theorem Grows.put_file {t : Tree} {l : Location} (h : t.entry? l ≠ some .folder)
    (content : ByteArray) : Grows t (t.put l (.file content)) where
  sameHome := rfl
  folderStays k hk := by
    rw [entry_put (not_above_home h)]
    split
    · rename_i heq
      rw [heq] at hk
      exact absurd hk h
    · exact hk
  fileStays k c hk := by
    rw [entry_put (not_above_home h)]
    split
    · exact ⟨content, rfl⟩
    · exact ⟨c, hk⟩

structure FoldersAdded (t t' : Tree) : Prop extends Grows t t' where
  sameFiles : ∀ l c, t'.entry? l = some (.file c) ↔ t.entry? l = some (.file c)

theorem FoldersAdded.refl (t : Tree) : FoldersAdded t t := ⟨Grows.refl t, fun _ _ => Iff.rfl⟩

theorem FoldersAdded.trans {t t' t'' : Tree} (h : FoldersAdded t t') (h' : FoldersAdded t' t'') :
    FoldersAdded t t'' :=
  ⟨h.toGrows.trans h'.toGrows, fun l c => (h'.sameFiles l c).trans (h.sameFiles l c)⟩

theorem FoldersAdded.put {t : Tree} {l : Location} (h : t.entry? l = none) :
    FoldersAdded t (t.put l .folder) := by
  have hfree : ¬ l.isPrefixOf t.home = true := not_above_home (by simp [h])
  have hput := entry_put hfree .folder
  refine ⟨⟨rfl, ?_, ?_⟩, ?_⟩
  · intro k hk
    rw [hput]
    split
    · rfl
    · exact hk
  · intro k c hk
    rw [hput]
    split
    · rename_i heq
      rw [heq, h] at hk
      cases hk
    · exact ⟨c, hk⟩
  · intro k c
    rw [hput]
    split
    · rename_i heq
      simp [heq, h]
    · exact Iff.rfl

/-- A relation between a tree and what becomes of it, step by step, as long as the steps create
folders. -/
structure OfNewFolders (R : Tree → Tree → Prop) : Prop where
  refl : ∀ t, R t t
  trans : ∀ {t t' t''}, R t t' → R t' t'' → R t t''
  put : ∀ {t p l}, t.locate p = .ok l → t.entry? l = none → R t (t.put l .folder)

namespace OfNewFolders
variable {R : Tree → Tree → Prop}

theorem makeFolder (hR : OfNewFolders R) {t t' : Tree} {p : Path} (h : t.makeFolder p = .ok t') :
    R t t' := by
  obtain ⟨l, hl, h⟩ := bind_eq_ok.mp h
  split at h
  · cases h
  · rename_i hnone
    cases h
    exact hR.put hl hnone

theorem ensureFolder (hR : OfNewFolders R) {t t' : Tree} {p : Path}
    (h : t.ensureFolder p = .ok t') : R t t' := by
  unfold Tree.ensureFolder at h
  split at h
  · rename_i after hmake
    cases h
    exact hR.makeFolder hmake
  · cases h
  · cases h
  · obtain ⟨there, _, h⟩ := bind_eq_ok.mp h
    split at h
    · cases h
      exact hR.refl t
    · cases h

/-- The relation holds even when creating folders stops halfway. -/
theorem ensureFoldersWithin (hR : OfNewFolders R) (t : Tree) (anchor : Anchor) (levels : Nat)
    (names : List String) : R t (t.ensureFoldersWithin anchor levels names).1 := by
  induction levels generalizing names with
  | zero => exact hR.refl t
  | succ levels ih =>
    cases names with
    | nil => exact hR.refl t
    | cons name above =>
      simp only [Tree.ensureFoldersWithin]
      split
      · rename_i after hensure
        exact hR.ensureFolder hensure
      · have hstep := ih above
        -- The folders above come first; their faults leave what was created on the way.
        split
        · rename_i after fault hmore
          rw [hmore] at hstep
          exact hstep
        · rename_i after hmore
          rw [hmore] at hstep
          split
          · rename_i done hensure
            exact hR.trans hstep (hR.ensureFolder hensure)
          · exact hstep
      · exact hR.refl t

/-- The relation holds when a file is written, whether or not that ends well, if it holds when just
the file is put where the path leads. -/
theorem write (hR : OfNewFolders R) {t : Tree} {p : Path} {content : ByteArray}
    (hput : ∀ {mid l}, R t mid → mid.locate p = .ok l → mid.entry? l ≠ some .folder →
      R mid (mid.put l (.file content))) : R t (t.write p content).1 := by
  have hfolders := hR.ensureFoldersWithin t p.anchor deepestFolders p.parent.names.reverse
  unfold Tree.write Tree.ensureFolders
  generalize t.ensureFoldersWithin p.anchor deepestFolders p.parent.names.reverse = made
    at hfolders ⊢
  obtain ⟨mid, fault | _⟩ := made
  · exact hfolders
  · dsimp only
    cases hfile : mid.writeFile p content with
    | error fault => exact hfolders
    | ok done =>
      obtain ⟨l, hl, hdone⟩ := bind_eq_ok.mp hfile
      split at hdone
      · cases hdone
      · rename_i hfree
        cases hdone
        exact hR.trans hfolders (hput hfolders hl fun heq => hfree heq)

end OfNewFolders

theorem ofNewFolders_foldersAdded : OfNewFolders FoldersAdded :=
  ⟨FoldersAdded.refl, FoldersAdded.trans, fun _ hnone => FoldersAdded.put hnone⟩

/-- Even when it stops halfway, creating folders leaves all files as they are. -/
theorem foldersAdded_ensureFoldersWithin (t : Tree) (anchor : Anchor) (levels : Nat)
    (names : List String) : FoldersAdded t (t.ensureFoldersWithin anchor levels names).1 :=
  ofNewFolders_foldersAdded.ensureFoldersWithin t anchor levels names

/-- What writing does: a file for the path, which is the only file that may differ from before. -/
structure Wrote (t : Tree) (p : Path) (content : ByteArray) (t' : Tree) (l : Location) : Prop
    extends Grows t t' where
  located : t'.locate p = .ok l
  exactly : ∀ k c, t'.entry? k = some (.file c) ↔
    if k = l then c = content else t.entry? k = some (.file c)

theorem wrote_writeFile {t t' : Tree} {p : Path} {content : ByteArray}
    (h : t.writeFile p content = .ok t') : ∃ l, Wrote t p content t' l := by
  obtain ⟨l, hl, h⟩ := bind_eq_ok.mp h
  split at h
  · cases h
  · rename_i hfolder
    cases h
    have hgrows : Grows t (t.put l (.file content)) := .put_file (fun heq => hfolder heq) content
    refine ⟨l, hgrows, hgrows.locate hl, ?_⟩
    intro k c
    rw [entry_put (not_above_home fun heq => hfolder heq)]
    split
    · simp [eq_comm]
    · exact Iff.rfl

theorem foldersAdded_ensureFolders (t : Tree) (anchor : Anchor) (names : List String) :
    FoldersAdded t (t.ensureFolders anchor names).1 :=
  foldersAdded_ensureFoldersWithin t anchor deepestFolders names

theorem wrote_write {t t' : Tree} {p : Path} {content : ByteArray}
    (h : t.write p content = (t', .ok ())) : ∃ l, Wrote t p content t' l := by
  have hadded := foldersAdded_ensureFolders t p.anchor p.parent.names.reverse
  unfold write at h
  rcases hensure : t.ensureFolders p.anchor p.parent.names.reverse with ⟨after, fault | _⟩
  · simp [hensure] at h
  · rw [hensure] at hadded
    simp only [hensure] at h
    cases hwrite : after.writeFile p content with
    | error fault => simp [hwrite] at h
    | ok done =>
      simp only [hwrite, Prod.mk.injEq, and_true] at h
      subst h
      obtain ⟨l, hwrote⟩ := wrote_writeFile hwrite
      refine ⟨l, hadded.toGrows.trans hwrote.toGrows, hwrote.located, ?_⟩
      intro k c
      rw [hwrote.exactly k c]
      split
      · exact Iff.rfl
      · exact hadded.sameFiles k c

theorem write_eq {t after t' : Tree} {p : Path} {content : ByteArray}
    (hfolders : t.ensureFolders p.anchor p.parent.names.reverse = (after, .ok ()))
    (hfile : after.writeFile p content = .ok t') : t.write p content = (t', .ok ()) := by
  unfold write
  rw [hfolders]
  simp only [hfile]

/-- A write that fails leaves all files as they are. -/
theorem foldersAdded_of_write_error {t t' : Tree} {p : Path} {content : ByteArray}
    {fault : FileFault} (h : t.write p content = (t', .error fault)) : FoldersAdded t t' := by
  have hadded := foldersAdded_ensureFolders t p.anchor p.parent.names.reverse
  unfold write at h
  rcases hensure : t.ensureFolders p.anchor p.parent.names.reverse with ⟨after, fault' | _⟩
  · rw [hensure] at hadded
    simp only [hensure, Prod.mk.injEq] at h
    exact h.1 ▸ hadded
  · rw [hensure] at hadded
    simp only [hensure] at h
    cases hwrite : after.writeFile p content with
    | ok done => simp [hwrite] at h
    | error fault' =>
      simp only [hwrite, Prod.mk.injEq] at h
      exact h.1 ▸ hadded

theorem read_eq_ok_iff {t : Tree} {p : Path} {content : ByteArray} :
    t.read p = .ok content ↔ ∃ l, t.locate p = .ok l ∧ t.entry? l = some (.file content) := by
  constructor
  · intro h
    obtain ⟨entry, hfind, h⟩ := bind_eq_ok.mp h
    obtain ⟨l, hl, hentry⟩ := bind_eq_ok.mp hfind
    refine ⟨l, hl, ?_⟩
    split at hentry
    · rename_i hsome
      cases hentry
      cases entry with
      | file c =>
        cases h
        exact hsome
      | folder => cases h
    · cases hentry
  · rintro ⟨l, hl, hentry⟩
    have hfind : t.find p = .ok (.file content) := by
      refine bind_eq_ok.mpr ⟨l, hl, ?_⟩
      rw [hentry]
    exact bind_eq_ok.mpr ⟨_, hfind, rfl⟩

end Tree

end ApexConstants
