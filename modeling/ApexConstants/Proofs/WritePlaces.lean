import ApexConstants.Proofs.PathPlaces
import Mathlib.Data.List.DropRight

namespace ApexConstants

namespace Tree

variable {t u after : Tree} {p : Path} {anchor : Anchor} {name : String} {above : List String}
  {levels : Nat} {content : ByteArray} {l : Location}

theorem entry_start (t : Tree) (p : Path) : t.entry? (p.start t.home) = some .folder := by
  unfold Path.start
  split
  · exact t.entry_home
  · unfold entry?
    simp

theorem find_eq_ok_iff {entry : Entry} :
    t.find p = .ok entry ↔ ∃ l, t.locate p = .ok l ∧ t.entry? l = some entry := by
  unfold find
  rw [bind_eq_ok]
  refine exists_congr fun l => and_congr_right fun _ => ?_
  cases t.entry? l with
  | none => simp
  | some found =>
    dsimp only
    constructor
    · intro h
      rw [Except.ok.inj h]
    · intro h
      rw [Option.some.inj h]

theorem isFolder_eq_true_iff :
    t.isFolder p = .ok true ↔ ∃ l, t.locate p = .ok l ∧ t.entry? l = some .folder := by
  rw [← find_eq_ok_iff]
  unfold isFolder probe
  cases t.find p with
  | error fault => cases fault <;> simp [Bind.bind, Except.bind, pure, Except.pure]
  | ok entry => cases entry <;> simp [Bind.bind, Except.bind, pure, Except.pure]

theorem makeFolder_eq_ok_iff :
    t.makeFolder p = .ok after ↔
      ∃ l, t.locate p = .ok l ∧ t.entry? l = none ∧ after = t.put l .folder := by
  unfold makeFolder
  rw [bind_eq_ok]
  refine exists_congr fun l => and_congr_right fun _ => ?_
  cases t.entry? l with
  | none =>
    simp only [true_and]
    constructor
    · intro h
      exact (Except.ok.inj h).symm
    · rintro rfl
      rfl
  | some entry => simp

/-- A folder that is ensured is there, and nothing else is other than before. -/
theorem ensureFolder_ok (h : t.ensureFolder p = .ok after) :
    p.Usable ∧ (∀ k ∈ p.way t.home, t.entry? k = some .folder) ∧ after.home = t.home ∧
      ∀ k, after.entry? k = if k = p.target t.home then some .folder else t.entry? k := by
  unfold ensureFolder at h
  split at h
  · rename_i made hmade
    cases h
    obtain ⟨l, hl, hnone, rfl⟩ := makeFolder_eq_ok_iff.mp hmade
    obtain ⟨husable, hway, rfl⟩ := locate_eq_ok_iff.mp hl
    exact ⟨husable, hway, rfl, entry_put (not_above_home (by simp [hnone])) .folder⟩
  · cases h
  · cases h
  · obtain ⟨there, hthere, h⟩ := bind_eq_ok.mp h
    split at h
    · rename_i htrue
      cases h
      rw [htrue] at hthere
      obtain ⟨l, hl, hfolder⟩ := isFolder_eq_true_iff.mp hthere
      obtain ⟨husable, hway, rfl⟩ := locate_eq_ok_iff.mp hl
      refine ⟨husable, hway, rfl, ?_⟩
      intro k
      split
      · rename_i hk
        rw [hk, hfolder]
      · rfl
    · cases h

structure Clear (t : Tree) (p : Path) : Prop where
  usable : p.Usable
  free : ∀ k ∈ p.places t.home, ∀ c, t.entry? k ≠ some (.file c)

theorem Clear.ensureFolder (h : Clear t p) (hway : ∀ k ∈ p.way t.home, t.entry? k = some .folder) :
    ∃ after, t.ensureFolder p = .ok after := by
  have hl : t.locate p = .ok (p.target t.home) := locate_eq_ok_iff.mpr ⟨h.usable, hway, rfl⟩
  cases htarget : t.entry? (p.target t.home) with
  | none =>
    have hmade := makeFolder_eq_ok_iff.mpr ⟨_, hl, htarget, rfl⟩
    exact ⟨_, by rw [Tree.ensureFolder, hmade]⟩
  | some entry =>
    cases entry with
    | file c => exact absurd htarget (h.free _ (p.target_mem_places t.home) c)
    | folder =>
      have hmade : t.makeFolder p = .error .taken := by
        simp [makeFolder, hl, htarget, Bind.bind, Except.bind]
      have hthere := isFolder_eq_true_iff.mpr ⟨_, hl, htarget⟩
      exact ⟨t, by simp [Tree.ensureFolder, hmade, hthere, Bind.bind, Except.bind]⟩

theorem Clear.ensureFolder_missing (h : Clear t p)
    (hgap : ¬ ∀ k ∈ p.way t.home, t.entry? k = some .folder) :
    t.ensureFolder p = .error .missing := by
  have hl : t.locate p = .error .missing :=
    locate_eq_missing h.usable (fun k hk => h.free k (List.mem_append_left _ hk)) hgap
  have hmade : t.makeFolder p = .error .missing := by
    simp [makeFolder, hl, Bind.bind, Except.bind]
  rw [Tree.ensureFolder, hmade]

theorem usable_anchor (anchor : Anchor) : Path.Usable ⟨anchor, []⟩ where
  noZero := by simp
  shortNames := by simp
  shortText := by cases anchor <;> decide

/-- When folders are ensured with those above, all of them are there. -/
theorem ensureFoldersWithin_ok {names : List String}
    (h : t.ensureFoldersWithin anchor levels names = (after, .ok ())) :
    Path.Usable ⟨anchor, names.reverse⟩ ∧
      ∀ k ∈ Path.places ⟨anchor, names.reverse⟩ t.home, after.entry? k = some .folder := by
  -- The last of the folders is ensured in a tree that has those above.
  have hlast : ∀ {mid : Tree} {p : Path}, mid.home = t.home → mid.ensureFolder p = .ok after →
      p.Usable ∧ ∀ k ∈ p.places t.home, after.entry? k = some .folder := by
    intro mid p hhome hmid
    obtain ⟨husable, hway, _, hentry⟩ := ensureFolder_ok hmid
    rw [hhome] at hway hentry
    refine ⟨husable, fun k hk => ?_⟩
    rw [hentry k]
    split
    · rfl
    · rename_i hk'
      rcases List.mem_append.mp hk with hk | hk
      · exact hway k hk
      · exact absurd (List.mem_singleton.mp hk) hk'
  cases levels with
  | zero => simp [ensureFoldersWithin] at h
  | succ levels =>
    cases names with
    | nil =>
      simp only [ensureFoldersWithin, Prod.mk.injEq] at h
      obtain ⟨rfl, _⟩ := h
      refine ⟨usable_anchor anchor, fun k hk => ?_⟩
      rw [List.mem_singleton.mp hk]
      exact t.entry_start ⟨anchor, []⟩
    | cons name above =>
      simp only [ensureFoldersWithin] at h
      split at h
      · rename_i done hdone
        cases h
        exact hlast rfl hdone
      · split at h
        · cases h
        · rename_i mid hmid
          split at h
          · rename_i done hdone
            cases h
            have hadded := foldersAdded_ensureFoldersWithin t anchor levels above
            rw [hmid] at hadded
            exact hlast hadded.sameHome hdone
          · cases h
      · cases h

/-- Ensuring folders changes nothing but their places, also when it stops halfway. -/
theorem entry_ensureFoldersWithin {names : List String} {k : Location}
    (hk : k ∉ Path.places ⟨anchor, names.reverse⟩ t.home) :
    Tree.entry? (t.ensureFoldersWithin anchor levels names).1 k = t.entry? k := by
  have hone : ∀ {mid done : Tree} {p : Path}, mid.ensureFolder p = .ok done →
      k ∉ p.places mid.home → done.entry? k = mid.entry? k := by
    intro mid done p hdone hk
    obtain ⟨_, _, _, hentry⟩ := ensureFolder_ok hdone
    rw [hentry, if_neg]
    rintro rfl
    exact hk (p.target_mem_places mid.home)
  induction levels generalizing names with
  | zero => rfl
  | succ levels ih =>
    cases names with
    | nil => rfl
    | cons name above =>
      have habove : k ∉ Path.places ⟨anchor, above.reverse⟩ t.home := by
        intro hmem
        apply hk
        rw [List.reverse_cons]
        exact List.mem_append_left _ (by rwa [Path.way_concat])
      have hmore := ih habove
      have hadded := foldersAdded_ensureFoldersWithin t anchor levels above
      simp only [ensureFoldersWithin]
      split
      · rename_i done hdone
        exact hone hdone hk
      · split
        · rename_i mid fault hmid
          rwa [hmid] at hmore
        · rename_i mid hmid
          rw [hmid] at hmore hadded
          split
          · rename_i done hdone
            rw [hone hdone (by rwa [hadded.sameHome]), hmore]
          · exact hmore
      · rfl

/-- Where some of the folders above are missing, all depends on these. -/
theorem Clear.ensureFoldersWithin_gap (h : Clear t ⟨anchor, (name :: above).reverse⟩)
    (hgap : ¬ ∀ k ∈ Path.way ⟨anchor, (name :: above).reverse⟩ t.home, t.entry? k = some .folder) :
    (t.ensureFoldersWithin anchor (levels + 1) (name :: above)).2 =
      (t.ensureFoldersWithin anchor levels above).2 := by
  have hadded := foldersAdded_ensureFoldersWithin t anchor levels above
  simp only [ensureFoldersWithin, h.ensureFolder_missing hgap]
  rcases hmore : t.ensureFoldersWithin anchor levels above with ⟨mid, fault | _⟩
  · rfl
  · rw [hmore] at hadded
    obtain ⟨_, hfolders⟩ := ensureFoldersWithin_ok hmore
    have hclear : Clear mid ⟨anchor, (name :: above).reverse⟩ := by
      refine ⟨h.usable, fun k hk c hfile => ?_⟩
      rw [hadded.sameHome] at hk
      exact h.free k hk c ((hadded.sameFiles k c).mp hfile)
    have hway : ∀ k ∈ Path.way ⟨anchor, (name :: above).reverse⟩ mid.home,
        mid.entry? k = some .folder := by
      rw [hadded.sameHome, List.reverse_cons, Path.way_concat]
      exact hfolders
    obtain ⟨done, hdone⟩ := hclear.ensureFolder hway
    simp only [hdone]

theorem Clear.front (h : Clear t ⟨anchor, (name :: above).reverse⟩) :
    Clear t ⟨anchor, above.reverse⟩ := by
  obtain ⟨husable, hfree⟩ := h
  rw [List.reverse_cons] at husable hfree
  refine ⟨husable.front, fun k hk => hfree k (List.mem_append_left _ ?_)⟩
  rwa [Path.way_concat]

/-- Where no file is in the way, only the number of missing folders can be a hindrance. -/
theorem Clear.ensureFoldersWithin {names : List String} (h : Clear t ⟨anchor, names.reverse⟩) :
    (t.ensureFoldersWithin anchor levels names).2 = .ok () ∨
      (t.ensureFoldersWithin anchor levels names).2 = .error .tooDeep := by
  induction levels generalizing names with
  | zero => exact .inr rfl
  | succ levels ih =>
    cases names with
    | nil =>
      obtain ⟨done, hdone⟩ := h.ensureFolder (by simp [Path.way, Location.through])
      left
      simp only [List.reverse_nil] at hdone
      simp [Tree.ensureFoldersWithin, hdone, Except.map]
    | cons name above =>
      by_cases hway : ∀ k ∈ Path.way ⟨anchor, (name :: above).reverse⟩ t.home,
          t.entry? k = some .folder
      · obtain ⟨done, hdone⟩ := h.ensureFolder hway
        left
        simp only [Tree.ensureFoldersWithin, hdone]
      · rw [h.ensureFoldersWithin_gap hway]
        exact ih h.front

/-- There are too many folders to create when none of the folders up to that depth stands in a
folder that is there. -/
theorem Clear.tooDeep_iff {names : List String} (h : Clear t ⟨anchor, names.reverse⟩) :
    (t.ensureFoldersWithin anchor levels names).2 = .error .tooDeep ↔
      ∀ n < levels, ¬ ∀ k ∈ Path.way ⟨anchor, (names.drop n).reverse⟩ t.home,
        t.entry? k = some .folder := by
  induction levels generalizing names with
  | zero => exact ⟨fun _ n hn => absurd hn (Nat.not_lt_zero n), fun _ => rfl⟩
  | succ levels ih =>
    cases names with
    | nil =>
      have hway : ∀ k ∈ Path.way ⟨anchor, []⟩ t.home, t.entry? k = some .folder := by
        simp [Path.way, Location.through]
      obtain ⟨done, hdone⟩ := h.ensureFolder hway
      constructor
      · intro hdeep
        simp only [List.reverse_nil] at hdone
        simp [Tree.ensureFoldersWithin, hdone, Except.map] at hdeep
      · exact fun hgaps => absurd hway (hgaps 0 (Nat.zero_lt_succ levels))
    | cons name above =>
      by_cases hway : ∀ k ∈ Path.way ⟨anchor, (name :: above).reverse⟩ t.home,
          t.entry? k = some .folder
      · obtain ⟨done, hdone⟩ := h.ensureFolder hway
        constructor
        · intro hdeep
          simp only [Tree.ensureFoldersWithin, hdone] at hdeep
          cases hdeep
        · exact fun hgaps => absurd hway (hgaps 0 (Nat.zero_lt_succ levels))
      · rw [h.ensureFoldersWithin_gap hway, ih h.front]
        constructor
        · intro hgaps n hn
          cases n with
          | zero => exact hway
          | succ n => exact hgaps n (Nat.lt_of_succ_lt_succ hn)
        · exact fun hgaps n hn => hgaps (n + 1) (Nat.succ_lt_succ hn)

/-- Nothing that is in the tree hinders writing a file. -/
structure Writable (t : Tree) (p : Path) : Prop where
  usable : p.Usable
  free : ∀ k ∈ p.parent.places t.home, ∀ c, t.entry? k ≠ some (.file c)
  notAbove : p.target t.home ∉ p.parent.places t.home
  notFolder : t.entry? (p.target t.home) ≠ some .folder

theorem Writable.clear (h : Writable t p) : Clear t ⟨p.anchor, p.parent.names.reverse.reverse⟩ := by
  rw [List.reverse_reverse]
  exact ⟨h.usable.parent, h.free⟩

theorem writeFile_eq_ok_iff {t' : Tree} : t.writeFile p content = .ok t' ↔
    ∃ l, t.locate p = .ok l ∧ t.entry? l ≠ some .folder ∧ t' = t.put l (.file content) := by
  unfold writeFile
  rw [bind_eq_ok]
  refine exists_congr fun l => and_congr_right fun _ => ?_
  split
  · rename_i hfolder
    simp [hfolder]
  · rename_i hfolder
    constructor
    · intro h
      exact ⟨fun heq => hfolder heq, (Except.ok.inj h).symm⟩
    · rintro ⟨_, rfl⟩
      rfl

theorem write_eq_ok {t' : Tree} (h : t.write p content = (t', .ok ())) :
    ∃ mid, t.ensureFolders p.anchor p.parent.names.reverse = (mid, .ok ()) ∧
      mid.writeFile p content = .ok t' := by
  unfold write at h
  rcases hfolders : t.ensureFolders p.anchor p.parent.names.reverse with ⟨mid, fault | _⟩
  · simp [hfolders] at h
  · simp only [hfolders] at h
    cases hfile : mid.writeFile p content with
    | error fault => simp [hfile] at h
    | ok done =>
      simp only [hfile, Prod.mk.injEq, and_true] at h
      exact ⟨mid, rfl, by rw [hfile, h]⟩

/-- The places of the folders above a path, and no others, may be new folders when they are
ensured. -/
theorem entry_ensureFolders_ok
    (h : t.ensureFolders p.anchor p.parent.names.reverse = (after, .ok ())) (k : Location) :
    after.entry? k = if k ∈ p.parent.places t.home then some .folder else t.entry? k := by
  split
  · rename_i hk
    have hfolders := (ensureFoldersWithin_ok h).2
    rw [List.reverse_reverse] at hfolders
    exact hfolders k hk
  · rename_i hk
    have hentry : Tree.entry? (t.ensureFolders p.anchor p.parent.names.reverse).1 k =
        t.entry? k :=
      entry_ensureFoldersWithin (by rw [List.reverse_reverse]; exact hk)
    rwa [h] at hentry

/-- What a file that is written leaves in the tree: itself and the folders above it. -/
theorem entry_write {t' : Tree} (h : t.write p content = (t', .ok ())) (k : Location) :
    t'.entry? k = if k = p.target t.home then some (.file content)
      else if k ∈ p.parent.places t.home then some .folder else t.entry? k := by
  obtain ⟨mid, hfolders, hfile⟩ := write_eq_ok h
  have hadded := foldersAdded_ensureFolders t p.anchor p.parent.names.reverse
  rw [hfolders] at hadded
  obtain ⟨l, hl, hfree, rfl⟩ := writeFile_eq_ok_iff.mp hfile
  obtain ⟨_, _, rfl⟩ := locate_eq_ok_iff.mp hl
  rw [hadded.sameHome] at hfree ⊢
  rw [entry_put (by rw [← hadded.sameHome]; exact not_above_home (by rwa [hadded.sameHome])),
    entry_ensureFolders_ok hfolders]

theorem writable_of_write {t' : Tree} (h : t.write p content = (t', .ok ())) : Writable t p := by
  obtain ⟨mid, hfolders, hfile⟩ := write_eq_ok h
  have hadded := foldersAdded_ensureFolders t p.anchor p.parent.names.reverse
  have hentry := entry_ensureFolders_ok hfolders
  rw [hfolders] at hadded
  obtain ⟨l, hl, hfolder, _⟩ := writeFile_eq_ok_iff.mp hfile
  obtain ⟨husable, _, rfl⟩ := locate_eq_ok_iff.mp hl
  rw [hadded.sameHome] at hfolder
  refine ⟨husable, ?_, ?_, ?_⟩
  · intro k hk c hc
    have hsome := (hadded.sameFiles k c).mpr hc
    rw [hentry, if_pos hk] at hsome
    cases hsome
  · intro hmem
    exact hfolder (by rw [hentry, if_pos hmem])
  · intro hthere
    exact hfolder (hadded.folderStays _ hthere)

/-- Writing changes nothing but the places of the path, also when it fails. -/
theorem entry_write_elsewhere {k : Location} (hk : k ∉ p.places t.home) :
    Tree.entry? (t.write p content).1 k = t.entry? k := by
  have hparent : k ∉ p.parent.places t.home := fun h => hk (p.places_parent_subset t.home k h)
  have hfolders : Tree.entry? (t.ensureFolders p.anchor p.parent.names.reverse).1 k = t.entry? k :=
    entry_ensureFoldersWithin (by rw [List.reverse_reverse]; exact hparent)
  rcases hwrite : t.write p content with ⟨t', fault | _⟩
  · unfold write at hwrite
    split at hwrite
    · rename_i mid fault' hmid
      rw [hmid] at hfolders
      cases hwrite
      exact hfolders
    · rename_i mid hmid
      rw [hmid] at hfolders
      split at hwrite
      · cases hwrite
      · cases hwrite
        exact hfolders
  · rw [entry_write hwrite, if_neg, if_neg hparent]
    rintro rfl
    exact hk (p.target_mem_places t.home)

theorem Writable.write_of_folders (h : Writable t p)
    (hfolders : t.ensureFolders p.anchor p.parent.names.reverse = (after, .ok ()))
    (content : ByteArray) : (t.write p content).2 = .ok () := by
  have hadded := foldersAdded_ensureFolders t p.anchor p.parent.names.reverse
  have hentry := entry_ensureFolders_ok hfolders
  rw [hfolders] at hadded
  have hl : after.locate p = .ok (p.target t.home) := by
    rw [← hadded.sameHome]
    refine locate_eq_ok_iff.mpr ⟨h.usable, fun k hk => ?_, rfl⟩
    rw [hadded.sameHome] at hk
    rw [hentry, if_pos (p.way_subset_parent t.home k hk)]
  have hfree : after.entry? (p.target t.home) ≠ some .folder := by
    rw [hentry, if_neg h.notAbove]
    exact h.notFolder
  rw [write_eq hfolders (writeFile_eq_ok_iff.mpr ⟨_, hl, hfree, rfl⟩)]

/-- Where nothing in the tree hinders a file, only the number of missing folders can. -/
theorem Writable.write (h : Writable t p) (content : ByteArray) :
    (t.write p content).2 = .ok () ∨ (t.write p content).2 = .error .tooDeep := by
  rcases hfolders : t.ensureFolders p.anchor p.parent.names.reverse with ⟨mid, fault | _⟩
  · right
    rcases h.clear.ensureFoldersWithin with hok | hdeep
    · have heq : (t.ensureFolders p.anchor p.parent.names.reverse).2 = .ok () := hok
      rw [hfolders] at heq
      cases heq
    · have heq : (t.ensureFolders p.anchor p.parent.names.reverse).2 = .error .tooDeep := hdeep
      rw [hfolders] at heq
      unfold Tree.write
      simp only [hfolders]
      exact heq
  · exact .inl (h.write_of_folders hfolders content)

theorem Writable.tooDeep_iff (h : Writable t p) (content : ByteArray) :
    (t.write p content).2 = .error .tooDeep ↔
      ∀ n < deepestFolders, ¬ ∀ k ∈ Path.way ⟨p.anchor, p.parent.names.rdrop n⟩ t.home,
        t.entry? k = some .folder := by
  have hfolders : (t.ensureFoldersWithin p.anchor deepestFolders p.parent.names.reverse).2 =
      .error .tooDeep ↔ _ := h.clear.tooDeep_iff
  simp only [← List.rdrop_eq_reverse_drop_reverse] at hfolders
  rw [← hfolders]
  constructor
  · intro hdeep
    rcases h.clear.ensureFoldersWithin with hok | hdeep'
    · have hwritten := h.write_of_folders (Prod.ext rfl hok) content
      rw [hwritten] at hdeep
      cases hdeep
    · exact hdeep'
  · intro hdeep
    rcases hmade : t.ensureFolders p.anchor p.parent.names.reverse with ⟨mid, outcome⟩
    unfold ensureFolders at hmade
    rw [hmade] at hdeep
    cases hdeep
    simp only [Tree.write, ensureFolders, hmade]

/-- More folders are not more to create. -/
theorem Writable.tooDeep_of_more (ht : Writable t p) (hu : Writable u p) (hhome : u.home = t.home)
    (hmore : ∀ k ∈ p.places t.home, t.entry? k = some .folder → u.entry? k = some .folder)
    (hdeep : (u.write p content).2 = .error .tooDeep) : (t.write p content).2 = .error .tooDeep := by
  rw [ht.tooDeep_iff]
  rw [hu.tooDeep_iff, hhome] at hdeep
  intro n hn hway
  refine hdeep n hn fun k hk => hmore k ?_ (hway k hk)
  have hfront := Path.way_subset_append p.anchor (p.parent.names.rdrop n)
    (p.parent.names.drop (p.parent.names.length - n)) t.home hk
  rw [List.rdrop, List.take_append_drop] at hfront
  exact p.places_parent_subset t.home k (List.mem_append_left _ hfront)

end Tree

end ApexConstants
