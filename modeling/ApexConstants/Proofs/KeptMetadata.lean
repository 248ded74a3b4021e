import ApexConstants.Metadata
import ApexConstants.Project
import ApexConstants.Proofs.ClassPaths
import ApexConstants.Proofs.MirroredTrees
import ApexConstants.Proofs.ProperTrees

namespace ApexConstants

/-- Whether a file has a name like the metadata files of a kind. -/
def MetadataKind.isNameOf (kind : MetadataKind) (l : Location) : Bool :=
  kind.ending.toList.isSuffixOf (l.getLastD "").toList

namespace Tree

def metadataBelow (t : Tree) (kind : MetadataKind) (l : Location) :
    List (List String × ByteArray) :=
  (t.filesBelow l).filter fun (names, _) => isFound kind.ending names

def foundAt (kind : MetadataKind) (location : Location) :
    Location × Entry → Option (List String × ByteArray)
  | (l, .file content) =>
    if location.isPrefixOf l && isFound kind.ending (l.drop location.length) then
      some (l.drop location.length, content)
    else none
  | (_, .folder) => none

theorem metadataBelow_eq (t : Tree) (kind : MetadataKind) (l : Location) :
    t.metadataBelow kind l = t.entries.filterMap (foundAt kind l) := by
  unfold metadataBelow filesBelow
  rw [List.filter_filterMap]
  apply List.filterMap_congr
  rintro ⟨k, entry⟩ _
  cases entry with
  | folder => rfl
  | file content =>
    cases hbelow : l.isPrefixOf k <;> cases hfound : isFound kind.ending (k.drop l.length) <;>
      simp only [foundAt, hbelow, hfound] <;> simp [Option.filter, hfound]

/-- What is found has the right name. -/
theorem isNameOf_of_isFound {kind : MetadataKind} {names : List String}
    (h : isFound kind.ending names = true) (l : Location) : kind.isNameOf (l ++ names) = true := by
  simp only [isFound, Bool.and_eq_true] at h
  rcases List.eq_nil_or_concat' names with rfl | ⟨front, last, rfl⟩
  · cases kind <;> cases h.1
  · rw [hasEnding, List.getLastD_concat] at h
    rw [MetadataKind.isNameOf, ← List.append_assoc, List.getLastD_concat]
    exact h.1

theorem foundAt_file_eq_some {kind : MetadataKind} {location l : Location} {content : ByteArray}
    {found : List String × ByteArray} (h : foundAt kind location (l, .file content) = some found) :
    l = location ++ found.1 ∧ isFound kind.ending found.1 = true := by
  simp only [foundAt, Option.ite_none_right_eq_some, Bool.and_eq_true] at h
  obtain ⟨⟨hbelow, hfound⟩, hsome⟩ := h
  obtain ⟨names, rfl⟩ := List.isPrefixOf_iff_prefix.mp hbelow
  cases hsome
  rw [List.drop_left] at hfound ⊢
  exact ⟨rfl, hfound⟩

theorem foundAt_eq_none {kind : MetadataKind} {location l : Location} {entry : Entry}
    (h : kind.isNameOf l = false) : foundAt kind location (l, entry) = none := by
  cases entry with
  | folder => rfl
  | file content =>
    cases hfound : foundAt kind location (l, .file content) with
    | none => rfl
    | some found =>
      obtain ⟨rfl, hname⟩ := foundAt_file_eq_some hfound
      rw [isNameOf_of_isFound hname] at h
      cases h

/-- An entry that is not found and takes no found one's place leaves what is found. -/
theorem filterMap_put {kind : MetadataKind} {location l : Location} {entry : Entry}
    {entries : List (Location × Entry)} (hnew : foundAt kind location (l, entry) = none)
    (hold : ∀ old, (l, old) ∈ entries → foundAt kind location (l, old) = none) :
    (Entry.put l entry entries).filterMap (foundAt kind location) =
      entries.filterMap (foundAt kind location) := by
  induction entries with
  | nil => simp [Entry.put, hnew]
  | cons head rest ih =>
    obtain ⟨k, old⟩ := head
    unfold Entry.put
    split
    · rename_i hk
      subst hk
      rw [List.filterMap_cons, List.filterMap_cons, hnew, hold old List.mem_cons_self]
    · rw [List.filterMap_cons, List.filterMap_cons,
        ih fun old hmem => hold old (List.mem_cons_of_mem _ hmem)]

variable {t u u' : Tree} {kind : MetadataKind} {root p : Path} {l : Location}

theorem lookup_of_mem {entry : Entry} (h : (l, entry) ∈ t.entries) :
    t.entries.lookup l = some entry := by
  have hnodup := t.nodup
  revert h hnodup
  induction t.entries with
  | nil => simp
  | cons head rest ih =>
    obtain ⟨k, e⟩ := head
    simp only [List.mem_cons, Prod.mk.injEq, List.map_cons, List.nodup_cons]
    rintro (⟨rfl, rfl⟩ | hmem) ⟨hfresh, hnodup⟩
    · simp
    · have hne : (l == k) = false := by
        rw [beq_eq_false_iff_ne]
        rintro rfl
        exact hfresh (List.mem_map.mpr ⟨_, hmem, rfl⟩)
      rw [List.lookup_cons, hne]
      exact ih hmem hnodup

/-- The metadata files are those from before, with the same contents. -/
structure KeepsMetadata (t u : Tree) : Prop extends Grows t u where
  found : ∀ kind l, u.metadataBelow kind l = t.metadataBelow kind l
  contents : ∀ kind l, MetadataKind.isNameOf kind l = true → u.content? l = t.content? l

theorem KeepsMetadata.refl (t : Tree) : KeepsMetadata t t :=
  ⟨Grows.refl t, fun _ _ => rfl, fun _ _ _ => rfl⟩

theorem KeepsMetadata.trans (h : KeepsMetadata t u) (h' : KeepsMetadata u u') :
    KeepsMetadata t u' :=
  ⟨h.toGrows.trans h'.toGrows, fun kind l => (h'.found kind l).trans (h.found kind l),
    fun kind l hl => (h'.contents kind l hl).trans (h.contents kind l hl)⟩

theorem KeepsMetadata.put_folder (h : t.entry? l = none) : KeepsMetadata t (t.put l .folder) := by
  have hadded := FoldersAdded.put h
  refine ⟨hadded.toGrows, fun kind location => ?_, fun kind k _ => hadded.content? k⟩
  rw [metadataBelow_eq, metadataBelow_eq]
  refine filterMap_put rfl fun old hold => ?_
  have hthere : t.entry? l ≠ none := by
    unfold entry?
    rw [lookup_of_mem hold]
    split <;> simp
  exact absurd h hthere

theorem KeepsMetadata.put_file (h : t.entry? l ≠ some .folder)
    (hname : ∀ kind, MetadataKind.isNameOf kind l = false) (content : ByteArray) :
    KeepsMetadata t (t.put l (.file content)) := by
  refine ⟨Grows.put_file h content, fun kind location => ?_, fun kind k hk => ?_⟩
  · rw [metadataBelow_eq, metadataBelow_eq]
    exact filterMap_put (foundAt_eq_none (hname kind)) fun old _ => foundAt_eq_none (hname kind)
  · have hne : k ≠ l := by
      rintro rfl
      rw [hname kind] at hk
      cases hk
    unfold content?
    rw [entry_put (not_above_home h), if_neg hne]

theorem ofNewFolders_keepsMetadata : OfNewFolders KeepsMetadata :=
  ⟨KeepsMetadata.refl, KeepsMetadata.trans, fun _ hnone => KeepsMetadata.put_folder hnone⟩

/-- Writing to a path whose file has no metadata file's name keeps the metadata. -/
theorem keepsMetadata_write (hname : ∀ kind, MetadataKind.isNameOf kind (p.target t.home) = false)
    (content : ByteArray) : KeepsMetadata t (t.write p content).1 := by
  refine ofNewFolders_keepsMetadata.write fun hkept hl hfree => ?_
  obtain ⟨_, _, rfl⟩ := locate_eq_ok_iff.mp hl
  refine KeepsMetadata.put_file hfree ?_ content
  rwa [hkept.sameHome]

/-- Where a text with a fixed ending leads from a folder, the last name has that ending. -/
theorem target_child_append {ending : String} {c : Char} (folder : Path) (stem : String)
    (hlast : ending.toList.getLast? = some c) (hslash : '/' ∉ ending.toList) (hpoint : c ≠ '.')
    (home : Location) :
    ∃ front name, (folder.child (stem ++ ending)).target home = front ++ [name] ∧
      ending.toList <:+ name.toList := by
  obtain ⟨anchor, front, line, hchild⟩ :=
    folder.child_append String.toList_append hlast hslash hpoint
  have hdots : String.ofList (line ++ ending.toList) ≠ ".." := by
    intro heq
    have hsame := congrArg (fun s => s.toList.getLast?) heq
    simp only [String.toList_ofList, List.getLast?_append, hlast] at hsame
    exact hpoint (Option.some.inj hsame)
  refine ⟨Path.target ⟨anchor, front⟩ home, String.ofList (line ++ ending.toList), ?_, ?_⟩
  · rw [hchild, Path.target, Location.along_append]
    exact if_neg (by simpa using hdots)
  · rw [String.toList_ofList]
    exact List.suffix_append line ending.toList

/-- The files of a class lead to names with the endings of classes and descriptions. -/
theorem target_class {c : GeneratedClass} {folder : Path} {f : Path × String}
    (hf : f ∈ c.files folder) (home : Location) :
    ∃ front name, f.1.target home = front ++ [name] ∧
      (".cls".toList <:+ name.toList ∨ ".cls-meta.xml".toList <:+ name.toList) := by
  simp only [GeneratedClass.files, List.mem_cons, List.not_mem_nil, or_false] at hf
  rcases hf with rfl | rfl <;> dsimp only
  · obtain ⟨front, name, htarget, hends⟩ :=
      @target_child_append ".cls" 's' folder c.name.display rfl (by decide) (by decide) home
    exact ⟨front, name, htarget, .inl hends⟩
  · obtain ⟨front, name, htarget, hends⟩ := @target_child_append ".cls-meta.xml" 'l' folder
      c.name.display rfl (by decide) (by decide) home
    exact ⟨front, name, htarget, .inr hends⟩

/-- A name with the ending of a class or a description is no name with an ending apart from both. -/
theorem class_ne_of_apart {ending : String} {name : String}
    (hclass : ".cls".toList <:+ name.toList ∨ ".cls-meta.xml".toList <:+ name.toList)
    (hapart : ∀ other ∈ [".cls", ".cls-meta.xml"],
      ¬ ending.toList <:+ other.toList ∧ ¬ other.toList <:+ ending.toList) :
    ¬ ending.toList <:+ name.toList := by
  intro hends
  rcases hclass with hclass | hclass <;>
    rcases List.suffix_or_suffix_of_suffix hends hclass with h | h
  · exact (hapart ".cls" (by simp)).1 h
  · exact (hapart ".cls" (by simp)).2 h
  · exact (hapart ".cls-meta.xml" (by simp)).1 h
  · exact (hapart ".cls-meta.xml" (by simp)).2 h

/-- A class or its description never has the name of a metadata file. -/
theorem isNameOf_class {c : GeneratedClass} {folder : Path} {f : Path × String}
    (hf : f ∈ c.files folder) (home : Location) (kind : MetadataKind) :
    kind.isNameOf (f.1.target home) = false := by
  obtain ⟨front, name, htarget, hclass⟩ := target_class hf home
  rw [htarget, MetadataKind.isNameOf, List.getLastD_concat, Bool.eq_false_iff]
  intro hsuffix
  refine class_ne_of_apart hclass ?_ (List.isSuffixOf_iff_suffix.mp hsuffix)
  cases kind <;> decide

/-- A class or its description is never in the place of a project file. -/
theorem target_class_ne_project {c : GeneratedClass} {folder : Path} {f : Path × String}
    (hf : f ∈ c.files folder) (home : Location) (p : Project) :
    f.1.target home ≠ p.configPath.target home := by
  obtain ⟨front, name, htarget, hclass⟩ := target_class hf home
  have hproject : p.configPath.target home = p.folder.target home ++ [projectFile] := by
    rw [Project.configPath, p.folder.child_of_name (by decide) (by decide) (by decide),
      Path.target, Location.along_append]
    rfl
  rw [htarget, hproject]
  intro heq
  have hname : name = projectFile := (List.append_inj' heq rfl).2 |> List.singleton_injective
  refine class_ne_of_apart hclass ?_ (List.suffix_refl _)
  rw [hname]
  decide

theorem keepsMetadata_writeFiles {files : List (Path × String)}
    (hfiles : ∀ f ∈ files, ∀ kind, MetadataKind.isNameOf kind (f.1.target t.home) = false) :
    KeepsMetadata t (writeFiles treeWriter t files).1 := by
  induction files generalizing t with
  | nil => exact KeepsMetadata.refl t
  | cons f files ih =>
    obtain ⟨p, content⟩ := f
    have hkept : KeepsMetadata t (t.write p content.toUTF8).1 :=
      keepsMetadata_write (hfiles (p, content) List.mem_cons_self) content.toUTF8
    simp only [writeFiles]
    rcases t.treeWriter_cases p content with ⟨after, hwrite, htree⟩ | ⟨after, fault, hwrite, htree⟩
    · rw [hwrite] at hkept
      simp only [htree]
      refine hkept.trans (ih fun f hf kind => ?_)
      rw [hkept.sameHome]
      exact hfiles f (List.mem_cons_of_mem _ hf) kind
    · rw [hwrite] at hkept
      simp only [htree]
      exact hkept

/-- A search that is not stopped finds the files of the kind below the folder. -/
theorem eq_of_findMetadata (hl : t.locate root = .ok l) (hfolder : t.entry? l = some .folder)
    {files : List Path} (h : t.findMetadata kind root = .ok files) :
    files = ((t.metadataBelow kind l).map fun (names, _) => root.extend names).mergeSort
      Path.precedes := by
  have hthere := isFolder_eq_true_iff.mpr ⟨l, hl, hfolder⟩
  simp only [findMetadata, hthere, hl, Bind.bind, Except.bind, if_true] at h
  split at h
  · cases h
  · cases h
    rfl

/-- The same metadata files are found as before, unless the search is stopped. -/
theorem KeepsMetadata.findMetadata (h : KeepsMetadata t u) (hroot : t.isFolder root = .ok true)
    {files found : List Path} (hfiles : t.findMetadata kind root = .ok files)
    (hfound : u.findMetadata kind root = .ok found) : found = files := by
  obtain ⟨l, hl, hfolder⟩ := isFolder_eq_true_iff.mp hroot
  rw [eq_of_findMetadata hl hfolder hfiles,
    eq_of_findMetadata (h.toGrows.locate hl) (h.folderStays l hfolder) hfound, h.found]

theorem read_congr (hlocate : u.locate p = t.locate p)
    (hentry : ∀ l, t.locate p = .ok l → u.entry? l = t.entry? l) : u.read p = t.read p := by
  unfold read find
  rw [hlocate]
  cases hl : t.locate p with
  | error fault => rfl
  | ok l =>
    simp only [Bind.bind, Except.bind]
    rw [hentry l hl]

/-- What is found below a folder is in the tree and has folders on its way. -/
theorem Proper.of_found (h : t.Proper) (hl : t.locate root = .ok l)
    (hfolder : t.entry? l = some .folder) {files : List Path}
    (hfiles : t.findMetadata kind root = .ok files) (hp : p ∈ files) :
    (∀ k ∈ p.way t.home, t.entry? k = some .folder) ∧ t.entry? (p.target t.home) ≠ none ∧
      kind.isNameOf (p.target t.home) = true := by
  rw [eq_of_findMetadata hl hfolder hfiles, List.mem_mergeSort, List.mem_map] at hp
  obtain ⟨found, hfound, rfl⟩ := hp
  rw [metadataBelow_eq, List.mem_filterMap] at hfound
  obtain ⟨⟨k, entry⟩, hmem, hfound⟩ := hfound
  cases entry with
  | folder => cases hfound
  | file content =>
    obtain ⟨rfl, hname⟩ := foundAt_file_eq_some hfound
    obtain ⟨_, hway, rfl⟩ := locate_eq_ok_iff.mp hl
    have hdown : ".." ∉ found.1 := fun hdots =>
      h.reachable _ hmem (List.mem_append_right _ hdots)
    obtain ⟨halong, hthrough⟩ := Location.through_of_down hdown (root.target t.home)
    have htarget : (root.extend found.1).target t.home = root.target t.home ++ found.1 := by
      rw [← halong]
      exact Location.along_append _ _ _
    have hsplit : (root.extend found.1).way t.home =
        root.way t.home ++ Location.through (root.target t.home) found.1 :=
      Location.through_append _ _ _
    dsimp only
    rw [htarget, hsplit]
    refine ⟨fun k hk => ?_, ?_, isNameOf_of_isFound hname _⟩
    · rcases List.mem_append.mp hk with hk | hk
      · exact hway k hk
      · exact h.inFolders _ hmem k (hthrough k hk).1 (hthrough k hk).2
    · unfold entry?
      rw [lookup_of_mem hmem]
      split <;> simp

/-- The files that were found read as before. -/
theorem KeepsMetadata.readMetadata (h : KeepsMetadata t u) (hproper : t.Proper)
    (hroot : t.isFolder root = .ok true) {files : List Path}
    (hfiles : t.findMetadata kind root = .ok files) (hp : p ∈ files) :
    u.readMetadata p = t.readMetadata p := by
  obtain ⟨l, hl, hfolder⟩ := isFolder_eq_true_iff.mp hroot
  obtain ⟨hway, hthere, hname⟩ := hproper.of_found hl hfolder hfiles hp
  have hlocate : u.locate p = t.locate p :=
    locate_congr h.sameHome hway fun k hk => h.folderStays k (hway k hk)
  have hentry : u.entry? (p.target t.home) = t.entry? (p.target t.home) := by
    cases hentry : t.entry? (p.target t.home) with
    | none => exact absurd hentry hthere
    | some entry =>
      cases entry with
      | folder => exact h.folderStays _ hentry
      | file content =>
        rw [← content?_eq_some_iff, h.contents kind _ hname]
        exact content?_eq_some_iff.mpr hentry
  have hread : u.read p = t.read p := by
    refine read_congr hlocate fun l hl => ?_
    obtain ⟨_, _, rfl⟩ := locate_eq_ok_iff.mp hl
    exact hentry
  unfold Tree.readMetadata
  rw [hread]

end Tree

end ApexConstants
