import ApexConstants.Generated
import ApexConstants.Proofs.PathPlaces

namespace ApexConstants

/-- What is put somewhere is there, and the rest was there before. -/
theorem Entry.mem_put {location : Location} {entry : Entry} {entries : List (Location × Entry)}
    {found : Location × Entry} (h : found ∈ Entry.put location entry entries) :
    found.1 = location ∨ found ∈ entries := by
  induction entries with
  | nil =>
    rw [List.mem_singleton.mp h]
    exact .inl rfl
  | cons head rest ih =>
    obtain ⟨l, e⟩ := head
    unfold put at h
    split at h
    · rcases List.mem_cons.mp h with rfl | h
      · exact .inl rfl
      · exact .inr (List.mem_cons_of_mem _ h)
    · rcases List.mem_cons.mp h with rfl | h
      · exact .inr List.mem_cons_self
      · exact (ih h).imp_right (List.mem_cons_of_mem _)

namespace Tree

/-- Every entry stands in folders and can be reached by its names. -/
structure Proper (t : Tree) : Prop where
  inFolders : ∀ entry ∈ t.entries, ∀ k, k <+: entry.1 → k ≠ entry.1 → t.entry? k = some .folder
  reachable : ∀ entry ∈ t.entries, ".." ∉ entry.1

variable {t t' : Tree} {p : Path} {l k : Location} {entry : Entry}

theorem proper_empty (home : Location) : (Tree.empty home).Proper :=
  ⟨fun _ h => absurd h List.not_mem_nil, fun _ h => absurd h List.not_mem_nil⟩

theorem entry_cases (h : t.entry? l = some entry) : l <+: t.home ∨ (l, entry) ∈ t.entries := by
  unfold entry? at h
  split at h
  · rename_i habove
    exact .inl (List.isPrefixOf_iff_prefix.mp habove)
  · obtain ⟨before, after, heq, _⟩ := List.lookup_eq_some_iff.mp h
    rw [heq]
    exact .inr (List.mem_append_right _ List.mem_cons_self)

/-- What is above something that is there is a folder. -/
theorem Proper.above (h : t.Proper) (hl : t.entry? l = some entry) (hk : k <+: l) (hne : k ≠ l) :
    t.entry? k = some .folder := by
  rcases entry_cases hl with habove | hmem
  · unfold entry?
    rw [if_pos (List.isPrefixOf_iff_prefix.mpr (hk.trans habove))]
  · exact h.inFolders _ hmem k hk hne

/-- A place where there is no folder, but that a path leads to, is right below a folder. -/
theorem Proper.of_locate (h : t.Proper) (hl : t.locate p = .ok l)
    (hfree : t.entry? l ≠ some .folder) :
    ∃ folder name, t.entry? folder = some .folder ∧ name ≠ ".." ∧ l = folder ++ [name] := by
  obtain ⟨_, hway, rfl⟩ := locate_eq_ok_iff.mp hl
  obtain ⟨anchor, names⟩ := p
  rcases List.eq_nil_or_concat' names with rfl | ⟨front, last, rfl⟩
  · refine absurd ?_ hfree
    rw [Path.target, Path.start]
    split
    · exact t.entry_home
    · simp [Location.along, entry?]
  · rw [Path.way_concat] at hway
    have hfolder := hway _ (Path.target_mem_places ⟨anchor, front⟩ t.home)
    have htarget : Path.target ⟨anchor, front ++ [last]⟩ t.home =
        (Path.target ⟨anchor, front⟩ t.home).next last := Location.along_append _ _ _
    rw [htarget] at hfree ⊢
    generalize Path.target ⟨anchor, front⟩ t.home = folder at hfolder hfree ⊢
    by_cases hlast : last = ".."
    · -- Above a folder there are folders only.
      have hback : folder.next last = folder.dropLast := if_pos (by simpa using hlast)
      rw [hback] at hfree
      by_cases hroot : folder.dropLast = folder
      · rw [hroot] at hfree
        exact absurd hfolder hfree
      · exact absurd (h.above hfolder (List.dropLast_prefix folder) hroot) hfree
    · exact ⟨folder, last, hfolder, hlast, if_neg (by simpa using hlast)⟩

theorem Proper.put (h : t.Proper) (hhome : ".." ∉ t.home) (hl : t.locate p = .ok l)
    (hfree : t.entry? l ≠ some .folder) (entry : Entry) : (t.put l entry).Proper := by
  obtain ⟨folder, name, hfolder, hname, rfl⟩ := h.of_locate hl hfree
  have hput := entry_put (not_above_home hfree) entry
  have hkeep : ∀ k, t.entry? k = some .folder →
      Tree.entry? (t.put (folder ++ [name]) entry) k = some .folder := by
    intro k hk
    rw [hput, if_neg, hk]
    rintro rfl
    exact hfree hk
  constructor
  · intro found hmem k hk hne
    apply hkeep
    rcases Entry.mem_put hmem with hnew | hold
    · rw [hnew] at hk hne
      rcases List.prefix_concat_iff.mp hk with heq | hbelow
      · exact absurd heq hne
      · by_cases heq : k = folder
        · rwa [heq]
        · exact h.above hfolder hbelow heq
    · exact h.inFolders found hold k hk hne
  · intro found hmem
    rcases Entry.mem_put hmem with hnew | hold
    · rw [hnew, List.mem_append, List.mem_singleton, not_or]
      refine ⟨?_, Ne.symm hname⟩
      rcases entry_cases hfolder with habove | hmem
      · exact fun hdots => hhome (habove.subset hdots)
      · exact h.reachable _ hmem
    · exact h.reachable found hold

/-- A proper tree that is at home somewhere stays so when the tree is changed. -/
def StaysProper (t t' : Tree) : Prop :=
  t.Proper → ".." ∉ t.home → t'.Proper ∧ t'.home = t.home

theorem ofNewFolders_staysProper : OfNewFolders StaysProper where
  refl _ h _ := ⟨h, rfl⟩
  trans first second h hhome := by
    obtain ⟨hmid, heq⟩ := first h hhome
    obtain ⟨hlast, heq'⟩ := second hmid (heq ▸ hhome)
    exact ⟨hlast, heq'.trans heq⟩
  put hl hnone h hhome := ⟨h.put hhome hl (by simp [hnone]) .folder, rfl⟩

theorem staysProper_write (t : Tree) (p : Path) (content : ByteArray) :
    StaysProper t (t.write p content).1 :=
  ofNewFolders_staysProper.write fun _ hl hfree h hhome => ⟨h.put hhome hl hfree _, rfl⟩

theorem treeWriter_eq (t : Tree) (p : Path) (content : String) :
    treeWriter t p content =
      ((t.write p content.toUTF8).1, (t.write p content.toUTF8).2.mapError Failure.file) := rfl

/-- Writing files keeps a tree proper, also when it fails. -/
theorem Proper.writeFiles (h : t.Proper) (hhome : ".." ∉ t.home) (files : List (Path × String)) :
    (writeFiles treeWriter t files).1.Proper := by
  induction files generalizing t with
  | nil => exact h
  | cons f files ih =>
    obtain ⟨p, content⟩ := f
    obtain ⟨hproper, heq⟩ := staysProper_write t p content.toUTF8 h hhome
    simp only [ApexConstants.writeFiles, treeWriter_eq]
    cases (t.write p content.toUTF8).2 with
    | error fault => exact hproper
    | ok _ => exact ih hproper (heq ▸ hhome)

end Tree

end ApexConstants
