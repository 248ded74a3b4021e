import ApexConstants.Proofs.KeptMetadata
import Mathlib.Data.List.Sort

namespace ApexConstants

namespace Path

/-- A list of parts comes first unless the other one is less, part by part. -/
theorem partsPrecede_iff {as bs : List String} : partsPrecede as bs = true ↔ ¬ bs < as := by
  induction as generalizing bs with
  | nil => simp [partsPrecede]
  | cons a as ih =>
    cases bs with
    | nil => simp [partsPrecede]
    | cons b bs =>
      by_cases hab : a = b
      · subst hab
        simp [partsPrecede, ih]
      · have hne : (a == b) = false := beq_eq_false_iff_ne.mpr hab
        simp only [partsPrecede, hne, List.cons_lt_cons_iff, Ne.symm hab, false_and, or_false,
          Bool.false_eq_true, if_false, decide_eq_true_iff]
        exact String.not_lt.symm

theorem partsPrecede_trans (as bs cs : List String) (h : partsPrecede as bs = true)
    (h' : partsPrecede bs cs = true) : partsPrecede as cs = true := by
  rw [partsPrecede_iff] at h h' ⊢
  exact List.le_trans h h'

theorem partsPrecede_total (as bs : List String) :
    (partsPrecede as bs || partsPrecede bs as) = true := by
  rw [Bool.or_eq_true, partsPrecede_iff, partsPrecede_iff]
  by_cases h : bs < as
  · exact .inr (List.lt_asymm h)
  · exact .inl h

theorem partsPrecede_append (front as bs : List String) :
    partsPrecede (front ++ as) (front ++ bs) = partsPrecede as bs := by
  induction front with
  | nil => rfl
  | cons part front ih => simpa [partsPrecede] using ih

/-- The parts of a path that goes on from a folder are the folder's parts, whatever they are, and
the names. -/
theorem parts_extend (root : Path) :
    ∃ front, ∀ names, (root.extend names).parts = front ++ names := by
  by_cases h : (root.anchor == .here) = true
  · exact ⟨root.names, fun names => if_pos h⟩
  · exact ⟨root.anchor.text :: root.names, fun names => if_neg h⟩

/-- A path that is not too long for a file system, and neither is a name of it. -/
structure Fits (p : Path) : Prop where
  shortText : p.text.utf8ByteSize ≤ Tree.longestPath
  shortNames : ∀ name ∈ p.names, name.utf8ByteSize ≤ Tree.longestName

end Path

def PassedBy (folder : String) : Prop :=
  folder = "node_modules" ∨ folder.toList.head? = some '.'

theorem isSkippedFolder_iff {folder : String} :
    isSkippedFolder folder = true ↔ PassedBy folder := by
  have hpoint : ".".isPrefixOf folder = true ↔ folder.toList.head? = some '.' := by
    rw [String.isPrefixOf, String.startsWith_string_iff]
    cases folder.toList with
    | nil => simp
    | cons c cs => simp [List.cons_prefix_cons, eq_comm]
  rw [isSkippedFolder, Bool.or_eq_true, beq_iff_eq, hpoint, PassedBy]

/-- Names that lead to a file that a search is after: the last one has the ending of the kind, and
no folder before it is passed by. -/
def Sought (kind : MetadataKind) (names : List String) : Prop :=
  ∃ folders name, names = folders ++ [name] ∧ kind.ending.toList <:+ name.toList ∧
    ∀ folder ∈ folders, ¬ PassedBy folder

theorem isFound_iff {kind : MetadataKind} {names : List String} :
    isFound kind.ending names = true ↔ Sought kind names := by
  rcases List.eq_nil_or_concat' names with rfl | ⟨front, last, rfl⟩
  · have hnone : isFound kind.ending [] = false := by cases kind <;> rfl
    simp [hnone, Sought]
  · have hskip : (!front.any isSkippedFolder) = true ↔ ∀ folder ∈ front, ¬ PassedBy folder := by
      simp [← isSkippedFolder_iff]
    rw [isFound, hasEnding, List.getLastD_concat, List.dropLast_concat, Bool.and_eq_true,
      List.isSuffixOf_iff_suffix, hskip]
    constructor
    · rintro ⟨hends, hfolders⟩
      exact ⟨front, last, rfl, hends, hfolders⟩
    · rintro ⟨folders, name, heq, hends, hfolders⟩
      obtain ⟨rfl, hname⟩ := List.append_inj' heq rfl
      rw [List.singleton_injective hname]
      exact ⟨hends, hfolders⟩

namespace Tree

variable {t u : Tree} {kind : MetadataKind} {root r : Path} {l k m : Location}
  {names names' : List Location}

def HasFile (t : Tree) (l : Location) : Prop := ∃ content, t.entry? l = some (.file content)

/-- A tree as a file system has it: every entry stands in folders, and the current folder and those
above it are no files. -/
structure Sound (t : Tree) : Prop extends t.Proper where
  wayHome : ∀ l content, (l, Entry.file content) ∈ t.entries → ¬ l <+: t.home

theorem Sound.hasFile_iff (h : t.Sound) :
    t.HasFile l ↔ ∃ content, (l, Entry.file content) ∈ t.entries := by
  refine exists_congr fun content => ?_
  unfold entry?
  constructor
  · intro hentry
    split at hentry
    · cases hentry
    · obtain ⟨before, after, heq, _⟩ := List.lookup_eq_some_iff.mp hentry
      rw [heq]
      exact List.mem_append_right _ List.mem_cons_self
  · intro hmem
    rw [if_neg (mt List.isPrefixOf_iff_prefix.mp (h.wayHome l content hmem))]
    exact lookup_of_mem hmem

/-- The files of a kind below a location are those that are sought. -/
theorem Sound.mem_metadataBelow (h : t.Sound) {names : List String} :
    names ∈ (t.metadataBelow kind l).map Prod.fst ↔ Sought kind names ∧ t.HasFile (l ++ names) := by
  rw [metadataBelow_eq, h.hasFile_iff, ← isFound_iff]
  simp only [List.mem_map, List.mem_filterMap]
  constructor
  · intro ⟨found, ⟨⟨k, entry⟩, hmem, hfound⟩, heq⟩
    cases entry with
    | folder => cases hfound
    | file content =>
      obtain ⟨rfl, hname⟩ := foundAt_file_eq_some hfound
      subst heq
      exact ⟨hname, content, hmem⟩
  · intro ⟨hname, content, hmem⟩
    refine ⟨(names, content), ⟨_, hmem, ?_⟩, rfl⟩
    simp [foundAt, hname]

/-- No file below a location is listed twice, since no location has two entries. -/
theorem nodup_metadataBelow (t : Tree) (kind : MetadataKind) (l : Location) :
    ((t.metadataBelow kind l).map Prod.fst).Nodup := by
  -- Behind `l` again, the names that are found are locations of the entries, in their order.
  have hplace : ∀ entries : List (Location × Entry),
      ((entries.filterMap (foundAt kind l)).map (l ++ ·.1)).Sublist (entries.map Prod.fst) := by
    intro entries
    induction entries with
    | nil => exact List.Sublist.refl _
    | cons head rest ih =>
      obtain ⟨k, entry⟩ := head
      cases hfound : foundAt kind l (k, entry) with
      | none =>
        rw [List.filterMap_cons_none hfound]
        exact ih.cons k
      | some found =>
        rw [List.filterMap_cons_some hfound]
        cases entry with
        | folder => cases hfound
        | file content =>
          obtain ⟨rfl, _⟩ := foundAt_file_eq_some hfound
          exact ih.cons_cons _
  have hnodup := t.nodup.sublist (hplace t.entries)
  rw [← metadataBelow_eq] at hnodup
  refine List.Nodup.of_map (l ++ ·) ?_
  rwa [List.map_map]

/-- What an entry below a folder stops a search with. Every folder is looked into, also one that is
passed by, and every file with the ending is asked for. -/
inductive Stops (kind : MetadataKind) (root : Path) (names : Location) : Entry → FileFault → Prop
  | longFolder (long : longestPath < (root.extend names).text.utf8ByteSize) :
      Stops kind root names .folder .nameTooLong
  | deepFolder (short : (root.extend names).text.utf8ByteSize ≤ longestPath)
      (deep : deepestSearch < names.length) : Stops kind root names .folder .tooDeep
  | longFile (content : ByteArray) (long : longestPath < (root.extend names).text.utf8ByteSize)
      (name : kind.isNameOf names = true) : Stops kind root names (.file content) .nameTooLong

theorem obstacle?_eq_some_iff {entry : Entry} {fault : FileFault} {ns : Location} :
    obstacle? kind.ending root ns entry = some fault ↔ Stops kind root ns entry fault := by
  have hname : hasEnding kind.ending ns = kind.isNameOf ns := rfl
  constructor
  · intro h
    cases entry with
    | folder =>
      simp only [obstacle?, decide_eq_true_eq] at h
      split at h
      · rename_i hlong
        cases h
        exact .longFolder hlong
      · rename_i hshort
        simp only [Option.ite_none_right_eq_some, Option.some.injEq] at h
        obtain ⟨hdeep, rfl⟩ := h
        exact .deepFolder (Nat.not_lt.mp hshort) hdeep
    | file content =>
      simp only [obstacle?, hname, Option.ite_none_right_eq_some, Bool.and_eq_true,
        decide_eq_true_eq, Option.some.injEq] at h
      obtain ⟨⟨hlong, hends⟩, rfl⟩ := h
      exact .longFile content hlong hends
  · intro h
    cases h with
    | longFolder long => simp [obstacle?, long]
    | deepFolder short deep => simp [obstacle?, Nat.not_lt.mpr short, deep]
    | longFile content long name => simp [obstacle?, hname, long, name]

/-- Nothing below the folder that a path leads to stops a search. -/
def Searchable (t : Tree) (kind : MetadataKind) (root : Path) : Prop :=
  ∀ l ns entry fault, t.locate root = .ok l → t.entry? (l ++ ns) = some entry →
    ¬ Stops kind root ns entry fault

/-- What stands at a location and below is all that has a place there. -/
theorem Sound.mem_below (h : t.Sound) {ns : Location} {entry : Entry} :
    (ns, entry) ∈ t.below l ↔ t.entry? (l ++ ns) = some entry := by
  have hplace : ∀ k : Location, (k, entry) ∈ ((List.range (t.home.length + 1)).map fun n =>
      (t.home.take n, Entry.folder)) ++ t.entries ↔ t.entry? k = some entry := by
    intro k
    have hway : (k, entry) ∈ ((List.range (t.home.length + 1)).map fun n =>
        (t.home.take n, Entry.folder)) ↔ k <+: t.home ∧ entry = .folder := by
      simp only [List.mem_map, List.mem_range, Prod.mk.injEq]
      constructor
      · rintro ⟨n, _, rfl, rfl⟩
        exact ⟨List.take_prefix n t.home, rfl⟩
      · rintro ⟨hk, rfl⟩
        exact ⟨k.length, Nat.lt_succ_of_le hk.length_le, (List.prefix_iff_eq_take.mp hk).symm, rfl⟩
    rw [List.mem_append, hway]
    unfold entry?
    by_cases hk : k <+: t.home
    · rw [if_pos (List.isPrefixOf_iff_prefix.mpr hk), Option.some.injEq]
      constructor
      · rintro (⟨_, rfl⟩ | hmem)
        · rfl
        · cases entry with
          | folder => rfl
          | file content => exact absurd hk (h.wayHome k content hmem)
      · rintro rfl
        exact .inl ⟨hk, rfl⟩
    · rw [if_neg (mt List.isPrefixOf_iff_prefix.mp hk)]
      constructor
      · rintro (⟨hk', _⟩ | hmem)
        · exact absurd hk' hk
        · exact lookup_of_mem hmem
      · intro hlookup
        obtain ⟨before, after, heq, _⟩ := List.lookup_eq_some_iff.mp hlookup
        rw [heq]
        exact .inr (List.mem_append_right _ List.mem_cons_self)
  rw [← hplace, below, List.mem_filterMap]
  constructor
  · rintro ⟨⟨k, e⟩, hmem, hfound⟩
    simp only [Option.ite_none_right_eq_some, Option.some.injEq, Prod.mk.injEq] at hfound
    obtain ⟨hbelow, rfl, rfl⟩ := hfound
    obtain ⟨ns, rfl⟩ := List.isPrefixOf_iff_prefix.mp hbelow
    rwa [List.drop_left]
  · intro hmem
    refine ⟨_, hmem, ?_⟩
    simp

/-- Whether a search is stopped is seen from what stands below its folder. -/
theorem Sound.searchable_iff (h : t.Sound) (hl : t.locate root = .ok l) :
    t.Searchable kind root ↔ ((t.below l).findSome? fun (ns, entry) =>
      obstacle? kind.ending root ns entry) = none := by
  rw [List.findSome?_eq_none_iff]
  constructor
  · rintro hopen ⟨ns, entry⟩ hmem
    refine Option.eq_none_iff_forall_ne_some.mpr fun fault hobstacle => ?_
    exact hopen l ns entry fault hl (h.mem_below.mp hmem) (obstacle?_eq_some_iff.mp hobstacle)
  · intro hnone l' ns entry fault hl' hentry hstops
    cases hl.symm.trans hl'
    have hfree : obstacle? kind.ending root ns entry = none :=
      hnone (ns, entry) (h.mem_below.mpr hentry)
    rw [obstacle?_eq_some_iff.mpr hstops] at hfree
    cases hfree

theorem Sound.findMetadata_of_searchable (h : t.Sound) (hl : t.locate root = .ok l)
    (hfolder : t.entry? l = some .folder) (hopen : t.Searchable kind root) :
    t.findMetadata kind root =
      .ok (((t.metadataBelow kind l).map fun (ns, _) => root.extend ns).mergeSort
        Path.precedes) := by
  have hthere := isFolder_eq_true_iff.mpr ⟨l, hl, hfolder⟩
  have hnone := (h.searchable_iff hl).mp hopen
  simp only [findMetadata, hthere, hl, hnone, Bind.bind, Except.bind, if_true]
  rfl

/-- A search that is stopped is stopped by something below its folder. -/
theorem Sound.findMetadata_of_stopped (h : t.Sound) (hl : t.locate root = .ok l)
    (hfolder : t.entry? l = some .folder) (hstopped : ¬ t.Searchable kind root) :
    ∃ fault ns entry, t.findMetadata kind root = .error fault ∧
      t.entry? (l ++ ns) = some entry ∧ Stops kind root ns entry fault := by
  rw [h.searchable_iff hl, ← Ne, Option.ne_none_iff_exists'] at hstopped
  obtain ⟨fault, hfirst⟩ := hstopped
  obtain ⟨⟨ns, entry⟩, hmem, hobstacle⟩ := List.exists_of_findSome?_eq_some hfirst
  refine ⟨fault, ns, entry, ?_, h.mem_below.mp hmem, obstacle?_eq_some_iff.mp hobstacle⟩
  have hthere := isFolder_eq_true_iff.mpr ⟨l, hl, hfolder⟩
  simp only [findMetadata, hthere, hl, hfirst, Bind.bind, Except.bind, if_true]
  rfl

/-- What a search below a location comes to: the paths of the files that are sought there and of
nothing else, in strictly increasing order of their parts. -/
structure Finds (t : Tree) (kind : MetadataKind) (root : Path) (l : Location)
    (names : List Location) : Prop where
  result : t.findMetadata kind root = .ok (names.map root.extend)
  increasing : (names.map root.extend).Pairwise fun p q => p.parts < q.parts
  exact : ∀ ns, ns ∈ names ↔ Sought kind ns ∧ t.HasFile (l ++ ns)

/-- The names in the result increase like the parts of its paths. -/
theorem pairwise_extend :
    ((names.map root.extend).Pairwise fun p q => p.parts < q.parts) ↔
      names.Pairwise (· < ·) := by
  obtain ⟨front, hparts⟩ := root.parts_extend
  have hless : ∀ as bs : List String, front ++ as < front ++ bs ↔ as < bs := by
    intro as bs
    rw [← Decidable.not_iff_not, ← Path.partsPrecede_iff, Path.partsPrecede_append,
      Path.partsPrecede_iff]
  simp only [List.pairwise_map, hparts, hless]

/-- A search that nothing stops finds what is sought below its folder. -/
theorem Sound.finds (h : t.Sound) (hl : t.locate root = .ok l)
    (hfolder : t.entry? l = some .folder) (hopen : t.Searchable kind root) :
    ∃ names, t.Finds kind root l names := by
  let found := (t.metadataBelow kind l).map Prod.fst
  obtain ⟨front, hparts⟩ := root.parts_extend
  have hsort : (found.mergeSort Path.partsPrecede).map root.extend =
      (found.map root.extend).mergeSort Path.precedes := by
    apply List.map_mergeSort
    intro as _ bs _
    rw [Path.precedes, hparts, hparts, Path.partsPrecede_append]
  refine ⟨found.mergeSort Path.partsPrecede, ?_, ?_, ?_⟩
  · rw [h.findMetadata_of_searchable hl hfolder hopen, hsort, List.map_map]
    rfl
  · rw [pairwise_extend]
    have hsorted := List.pairwise_mergeSort Path.partsPrecede_trans Path.partsPrecede_total found
    have hnodup : (found.mergeSort Path.partsPrecede).Nodup :=
      List.nodup_mergeSort.mpr (nodup_metadataBelow t kind l)
    refine hsorted.imp₂ ?_ hnodup
    intro as bs hle hne
    rw [Path.partsPrecede_iff] at hle
    by_contra hless
    exact hne (List.le_antisymm hle hless)
  · intro ns
    rw [List.mem_mergeSort]
    exact h.mem_metadataBelow

/-- Two searches find the same names below their folders when the files that are sought there have
the same names. -/
theorem Finds.unique (h : t.Finds kind root l names) (h' : u.Finds kind r m names')
    (hfiles : ∀ ns, Sought kind ns → (u.HasFile (m ++ ns) ↔ t.HasFile (l ++ ns))) :
    names' = names := by
  refine List.Pairwise.eq_of_mem_iff (pairwise_extend.mp h'.increasing)
    (pairwise_extend.mp h.increasing) fun ns => ?_
  rw [h.exact, h'.exact]
  exact and_congr_right (hfiles ns)

/-- Where there is no folder, nothing is found. -/
theorem findMetadata_of_no_folder (h : t.isFolder root = .ok false) :
    t.findMetadata kind root = .ok [] := by
  unfold findMetadata
  rw [h]
  rfl

/-- Short names may lead nowhere, but they are not refused. -/
theorem followAll_ne_nameTooLong {names : List String}
    (hshort : ∀ name ∈ names, name.utf8ByteSize ≤ longestName) (l : Location) :
    names.foldlM t.follow l ≠ .error .nameTooLong := by
  induction names generalizing l with
  | nil => simp [pure, Except.pure]
  | cons name names ih =>
    rw [List.forall_mem_cons] at hshort
    rw [List.foldlM_cons]
    have hname : ¬ longestName < name.utf8ByteSize := Nat.not_lt.mpr hshort.1
    cases hentry : t.entry? l with
    | none => simp [follow, hentry, Bind.bind, Except.bind]
    | some entry =>
      cases entry with
      | file content => simp [follow, hentry, Bind.bind, Except.bind]
      | folder =>
        have hstep : t.follow l name = .ok (l.next name) :=
          follow_eq_ok_iff.mpr ⟨hentry, hshort.1, rfl⟩
        rw [hstep]
        exact ih hshort.2 _

/-- Whether a path that fits leads to a folder is always known. -/
theorem isFolder_of_fits (h : root.Fits) (t : Tree) : ∃ there, t.isFolder root = .ok there := by
  have hlocate : t.locate root ≠ .error .nameTooLong := by
    unfold locate
    split
    · simp
    · rw [if_neg (Nat.not_lt.mpr h.shortText)]
      exact followAll_ne_nameTooLong h.shortNames _
  have hfind : t.find root ≠ .error .nameTooLong := by
    unfold find
    cases hl : t.locate root with
    | error fault => simpa [Bind.bind, Except.bind, hl] using hlocate
    | ok l => cases hentry : t.entry? l <;> simp [Bind.bind, Except.bind, hentry]
  unfold isFolder probe
  cases hfound : t.find root with
  | ok entry => exact ⟨_, rfl⟩
  | error fault =>
    cases fault with
    | nameTooLong => exact absurd hfound hfind
    | _ => exact ⟨_, rfl⟩

/-- A path from the current folder whose first name is too long is refused. -/
theorem findMetadata_of_long_name {name : String} {rest : List String}
    (hlong : longestName < name.utf8ByteSize) (hzero : ∀ s ∈ name :: rest, '\x00' ∉ s.toList) :
    t.findMetadata kind ⟨.here, name :: rest⟩ = .error .nameTooLong := by
  have hstep : t.follow t.home name = .error .nameTooLong := by
    unfold follow
    rw [t.entry_home]
    exact if_pos hlong
  have hlocate : t.locate ⟨.here, name :: rest⟩ = .error .nameTooLong := by
    unfold locate
    rw [if_neg (by simpa using hzero)]
    split
    · rfl
    · change (name :: rest).foldlM t.follow t.home = _
      rw [List.foldlM_cons, hstep]
      rfl
  have hfolder : t.isFolder ⟨.here, name :: rest⟩ = .error .nameTooLong := by
    unfold isFolder probe find
    rw [hlocate]
    rfl
  unfold findMetadata
  rw [hfolder]
  rfl

/-- What may be at a location before and after a change that a search below `l` overlooks: anything
inside a folder that is passed by, files with other names, and folders that come or go. -/
inductive Overlooked (kind : MetadataKind) (l k : Location) : Option Entry → Option Entry → Prop
  | same (there : Option Entry) : Overlooked kind l k there there
  | inside {front inside : Location} {folder : String} (passed : PassedBy folder)
      (below : inside ≠ []) (place : k = l ++ (front ++ folder :: inside))
      (before after : Option Entry) : Overlooked kind l k before after
  | otherName {before after : Option Entry} (name : kind.isNameOf k = false)
      (noFolder : before ≠ some .folder) (noFolder' : after ≠ some .folder) :
      Overlooked kind l k before after
  | newFolder : Overlooked kind l k none (some .folder)
  | goneFolder : Overlooked kind l k (some .folder) none

theorem Overlooked.symm {before after : Option Entry} (h : Overlooked kind l k before after) :
    Overlooked kind l k after before := by
  cases h with
  | same => exact .same _
  | inside passed below place => exact .inside passed below place _ _
  | otherName name noFolder noFolder' => exact .otherName name noFolder' noFolder
  | newFolder => exact .goneFolder
  | goneFolder => exact .newFolder

/-- No file that is sought comes or goes by a change that is overlooked. -/
theorem Overlooked.hasFile_iff {ns : Location} (hsought : Sought kind ns)
    (h : Overlooked kind l (l ++ ns) (t.entry? (l ++ ns)) (u.entry? (l ++ ns))) :
    u.HasFile (l ++ ns) ↔ t.HasFile (l ++ ns) := by
  unfold HasFile
  generalize t.entry? (l ++ ns) = before at h
  generalize u.entry? (l ++ ns) = after at h
  cases h with
  | same => exact Iff.rfl
  | @inside front inside folder passed below place =>
    -- The folder that is passed by is one of those that lead to the file.
    obtain ⟨folders, name, rfl, _, hclear⟩ := hsought
    obtain ⟨inner, last, rfl⟩ := (List.eq_nil_or_concat' inside).resolve_left below
    rw [List.append_cancel_left_eq, ← List.cons_append, ← List.append_assoc] at place
    obtain ⟨rfl, _⟩ := List.append_inj' place rfl
    exact absurd passed (hclear folder (by simp))
  | otherName name =>
    rw [isNameOf_of_isFound (isFound_iff.mpr hsought)] at name
    cases name
  | newFolder => simp
  | goneFolder => simp

/-- A path that leads down leads to a folder when there is a file below its place. -/
theorem Proper.isFolder_of_file {ns : Location} (h : t.Proper) (husable : root.Usable)
    (hdown : ".." ∉ root.names) (hns : ns ≠ []) (hfile : t.HasFile (root.target t.home ++ ns)) :
    t.isFolder root = .ok true := by
  obtain ⟨content, hentry⟩ := hfile
  have habove : ∀ k, k <+: root.target t.home → t.entry? k = some .folder := by
    intro k hk
    refine h.above hentry (hk.trans (List.prefix_append _ ns)) ?_
    intro heq
    have hlength := hk.length_le
    rw [heq, List.length_append] at hlength
    have : ns.length ≠ 0 := by simpa using hns
    omega
  refine isFolder_eq_true_iff.mpr ⟨root.target t.home, ?_, habove _ (List.prefix_refl _)⟩
  refine locate_eq_ok_iff.mpr ⟨husable, fun k hk => habove k ?_, rfl⟩
  exact root.prefix_target hdown (List.mem_append_left _ hk)

/-- A folder that was not there before the change holds nothing that is sought. -/
theorem findMetadata_of_new_root (ht : t.Sound) (hu : u.Sound) (hhome : u.home = t.home)
    (hdiff : ∀ k, Overlooked kind (root.target t.home) k (t.entry? k) (u.entry? k))
    (hdown : ".." ∉ root.names) (hopen : u.Searchable kind root) (hnone : t.isFolder root = .ok false)
    (hnew : u.isFolder root = .ok true) : u.findMetadata kind root = .ok [] := by
  obtain ⟨l, hl, hfolder⟩ := isFolder_eq_true_iff.mp hnew
  obtain ⟨names, hfinds⟩ := hu.finds hl hfolder hopen
  obtain ⟨husable, _, rfl⟩ := locate_eq_ok_iff.mp hl
  rw [hhome] at hfinds
  have hempty : names = [] := by
    refine List.eq_nil_iff_forall_not_mem.mpr fun ns hmem => ?_
    obtain ⟨hsought, hfile⟩ := (hfinds.exact ns).mp hmem
    have hns : ns ≠ [] := by
      obtain ⟨folders, name, rfl, _⟩ := hsought
      simp
    have hthere := ht.isFolder_of_file husable hdown hns
      (((hdiff _).hasFile_iff hsought).mp hfile)
    rw [hnone] at hthere
    cases hthere
  rw [hfinds.result, hempty]
  rfl

/-- A change that is overlooked does not change what a search comes to that nothing stops before
and after, as long as its folder neither comes nor goes or is reached without going up. -/
theorem Sound.findMetadata_congr (ht : t.Sound) (hu : u.Sound) (hhome : u.home = t.home)
    (hdiff : ∀ k, Overlooked kind (root.target t.home) k (t.entry? k) (u.entry? k))
    (hopen : t.Searchable kind root) (hopen' : u.Searchable kind root)
    (hroot : u.isFolder root = t.isFolder root ∨ root.Fits ∧ ".." ∉ root.names) :
    u.findMetadata kind root = t.findMetadata kind root := by
  by_cases hsame : u.isFolder root = t.isFolder root
  · cases hthere : t.isFolder root with
    | error fault => simp [findMetadata, hsame, hthere, Bind.bind, Except.bind]
    | ok there =>
      cases there with
      | false =>
        rw [findMetadata_of_no_folder hthere, findMetadata_of_no_folder (hsame.trans hthere)]
      | true =>
        obtain ⟨l, hl, hfolder⟩ := isFolder_eq_true_iff.mp hthere
        obtain ⟨m, hm, hfolder'⟩ := isFolder_eq_true_iff.mp (hsame.trans hthere)
        obtain ⟨names, hfinds⟩ := ht.finds hl hfolder hopen
        obtain ⟨names', hfinds'⟩ := hu.finds hm hfolder' hopen'
        obtain ⟨_, _, rfl⟩ := locate_eq_ok_iff.mp hl
        obtain ⟨_, _, rfl⟩ := locate_eq_ok_iff.mp hm
        have hnames := hfinds.unique hfinds' fun ns hsought => by
          rw [hhome]
          exact (hdiff _).hasFile_iff hsought
        rw [hfinds.result, hfinds'.result, hnames]
  · -- The folder comes or goes, so that all that it held or holds is overlooked.
    obtain ⟨hfits, hdown⟩ := hroot.resolve_left hsame
    obtain ⟨there, hthere⟩ := isFolder_of_fits hfits t
    obtain ⟨there', hthere'⟩ := isFolder_of_fits hfits u
    cases there <;> cases there'
    · exact absurd (hthere'.trans hthere.symm) hsame
    · rw [findMetadata_of_no_folder hthere]
      exact findMetadata_of_new_root ht hu hhome hdiff hdown hopen' hthere hthere'
    · rw [findMetadata_of_no_folder hthere']
      refine (findMetadata_of_new_root hu ht hhome.symm ?_ hdown hopen hthere' hthere).symm
      rw [hhome]
      exact fun k => (hdiff k).symm
    · exact absurd (hthere'.trans hthere.symm) hsame

/-- A search that nothing stops finds what is sought below its folder and nothing else, in the order
of the parts; a folder below whose path is too long or that stands too deep stops it, as does a file
with the ending whose path is too long, and then there is no result. Where there is no folder it
finds nothing, and only a path that is too long is refused. What a search finds depends on nothing
but the files that are sought: the names that lead to the folder have no part in it, and what is
overlooked may change as long as nothing stops the search, before and after, and the folder itself
neither comes nor goes or is reached without going up. -/
theorem findMetadata_exact (kind : MetadataKind) (root : Path) (ht : t.Sound) :
    (∀ l, t.locate root = .ok l → t.entry? l = some .folder →
      (t.Searchable kind root → ∃ names, t.Finds kind root l names ∧
        ∀ (u : Tree) (r : Path) (m : Location), u.Sound → u.locate r = .ok m →
          u.entry? m = some .folder → u.Searchable kind r →
          (∀ ns, Sought kind ns → (u.HasFile (m ++ ns) ↔ t.HasFile (l ++ ns))) →
          u.findMetadata kind r = .ok (names.map r.extend)) ∧
      (¬ t.Searchable kind root → ∃ fault ns entry, t.findMetadata kind root = .error fault ∧
        t.entry? (l ++ ns) = some entry ∧ Stops kind root ns entry fault)) ∧
    (t.isFolder root = .ok false → t.findMetadata kind root = .ok []) ∧
    (root.Fits → ∃ there, t.isFolder root = .ok there) ∧
    ∀ u : Tree, u.Sound → u.home = t.home →
      (∀ k, Overlooked kind (root.target t.home) k (t.entry? k) (u.entry? k)) →
      t.Searchable kind root → u.Searchable kind root →
      (u.isFolder root = t.isFolder root ∨ root.Fits ∧ ".." ∉ root.names) →
      u.findMetadata kind root = t.findMetadata kind root := by
  refine ⟨?_, findMetadata_of_no_folder, fun hfits => isFolder_of_fits hfits t, ?_⟩
  · intro l hl hfolder
    refine ⟨?_, ?_⟩
    · intro hopen
      obtain ⟨names, hfinds⟩ := ht.finds hl hfolder hopen
      refine ⟨names, hfinds, ?_⟩
      intro u r m hu hm hfolder' hopen' hfiles
      obtain ⟨names', hfinds'⟩ := hu.finds hm hfolder' hopen'
      rw [hfinds'.result, hfinds.unique hfinds' hfiles]
    · exact ht.findMetadata_of_stopped hl hfolder
  · intro u hu hhome hdiff hopen hopen' hroot
    exact ht.findMetadata_congr hu hhome hdiff hopen hopen' hroot

/-- A tree whose entries all stand right in the current folder is sound. -/
theorem sound_of_right_home (hhome : ".." ∉ t.home)
    (h : ∀ entry ∈ t.entries, ∃ name, name ≠ ".." ∧ entry.1 = t.home ++ [name]) : t.Sound := by
  refine ⟨⟨?_, ?_⟩, ?_⟩
  · intro entry hmem k hk hne
    obtain ⟨name, _, hplace⟩ := h entry hmem
    rw [hplace] at hk hne
    have habove := (List.prefix_concat_iff.mp hk).resolve_left hne
    unfold entry?
    rw [if_pos (List.isPrefixOf_iff_prefix.mpr habove)]
  · intro entry hmem
    obtain ⟨name, hname, hplace⟩ := h entry hmem
    simp [hplace, hhome, hname.symm]
  · intro l content hmem hprefix
    obtain ⟨name, _, rfl⟩ := h _ hmem
    have hlength := hprefix.length_le
    rw [List.length_append, List.length_singleton] at hlength
    omega

theorem Sound.put (h : t.Sound) (hhome : ".." ∉ t.home) (hl : t.locate root = .ok l)
    (hfree : t.entry? l ≠ some .folder) (entry : Entry) : (t.put l entry).Sound := by
  refine ⟨h.toProper.put hhome hl hfree entry, ?_⟩
  intro k content hmem hk
  rcases Entry.mem_put hmem with rfl | hold
  · exact not_above_home hfree (List.isPrefixOf_iff_prefix.mpr hk)
  · exact h.wayHome k content hold hk

def besideFolder : Tree where
  entries := [(["p", "a"], .folder), (["p", "b.field-meta.xml"], .file "x".toUTF8)]
  home := ["p"]
  nodup := by simp

theorem besideFolder_sound : besideFolder.Sound := by
  apply sound_of_right_home <;> simp [besideFolder]

theorem erase_besideFolder : besideFolder.erase ["p", "a"] =
    ⟨[(["p", "b.field-meta.xml"], .file "x".toUTF8)], ["p"], by simp⟩ := by
  simp [besideFolder, erase]

theorem erase_besideFolder_sound : (besideFolder.erase ["p", "a"]).Sound := by
  rw [erase_besideFolder]
  apply sound_of_right_home <;> simp

theorem entry_erase_besideFolder (k : Location) :
    Tree.entry? (besideFolder.erase ["p", "a"]) k =
      if k = ["p", "a"] then none else besideFolder.entry? k := by
  rw [erase_besideFolder]
  unfold entry?
  by_cases h : k = ["p", "a"]
  · subst h
    rfl
  · have hother : (k == ["p", "a"]) = false := beq_eq_false_iff_ne.mpr h
    simp [besideFolder, List.lookup_cons, h, hother]

/-- The field is found by every path to its folder, if nothing stops the search. -/
theorem besideFolder_found (hl : besideFolder.locate root = .ok ["p"])
    (hopen : besideFolder.Searchable .customField root) :
    besideFolder.findMetadata .customField root = .ok [root.extend ["b.field-meta.xml"]] := by
  have hbelow : besideFolder.metadataBelow .customField ["p"] =
      [(["b.field-meta.xml"], "x".toUTF8)] := rfl
  rw [besideFolder_sound.findMetadata_of_searchable hl rfl hopen, hbelow, List.map_singleton,
    List.mergeSort_singleton]

/-- The field is found with the empty folder and without. -/
theorem besideFolder_searched : besideFolder.Sound ∧
    besideFolder.findMetadata .customField .here = .ok [⟨.here, ["b.field-meta.xml"]⟩] ∧
    (besideFolder.erase ["p", "a"]).findMetadata .customField .here =
      besideFolder.findMetadata .customField .here := by
  have hopen : besideFolder.Searchable .customField .here :=
    (besideFolder_sound.searchable_iff rfl).mpr (by decide)
  have hopen' : (besideFolder.erase ["p", "a"]).Searchable .customField .here :=
    (erase_besideFolder_sound.searchable_iff rfl).mpr (by rw [erase_besideFolder]; decide)
  refine ⟨besideFolder_sound, besideFolder_found rfl hopen, ?_⟩
  refine (findMetadata_exact .customField .here besideFolder_sound).2.2.2 _
    erase_besideFolder_sound rfl ?_ hopen hopen' (.inl rfl)
  intro k
  rw [entry_erase_besideFolder]
  by_cases h : k = ["p", "a"]
  · subst h
    exact Overlooked.goneFolder
  · rw [if_neg h]
    exact Overlooked.same _

def hiddenFolder : String := String.ofList (List.replicate 150 'o')

def detourFolder : String := String.ofList (List.replicate 100 'a')

/-- The current folder, by way of a folder in it, up and down. -/
def detours : Path := ⟨.here, (List.replicate 38 [detourFolder, ".."]).flatten⟩

def besidePassed : Tree where
  entries := [(["p", detourFolder], .folder), (["p", "node_modules"], .folder)]
  home := ["p"]
  nodup := by decide +kernel

theorem besidePassed_sound : besidePassed.Sound := by
  have hname : detourFolder ≠ ".." := by decide +kernel
  apply sound_of_right_home <;> simp [besidePassed, hname]

def withinPassed : Tree := besidePassed.put ["p", "node_modules", hiddenFolder] .folder

theorem withinPassed_sound : withinPassed.Sound := by
  have hl : besidePassed.locate ⟨.here, ["node_modules", hiddenFolder]⟩ =
      .ok ["p", "node_modules", hiddenFolder] := by decide +kernel
  have hfree : besidePassed.entry? ["p", "node_modules", hiddenFolder] = none :=
    Option.isNone_iff_eq_none.mp (by decide +kernel)
  exact besidePassed_sound.put (by simp [besidePassed]) hl (by simp [hfree]) .folder

/-- A path through an empty folder and back leads nowhere when the folder is gone, so that the field
is found no more, although the folder that the path led to is still there; a path whose name is too
long finds nothing either; and behind a path of many detours a folder that is passed by cannot be
looked into, which ends the search. -/
theorem besideFolder_detour : besideFolder.Sound ∧ (besideFolder.erase ["p", "a"]).Sound ∧
    besideFolder.entry? ["p", "a"] = some .folder ∧
    (∀ entry ∈ besideFolder.entries, ["p", "a"] <+: entry.1 → entry.1 = ["p", "a"]) ∧
    besideFolder.findMetadata .customField ⟨.here, ["a", ".."]⟩ =
      .ok [⟨.here, ["a", "..", "b.field-meta.xml"]⟩] ∧
    (besideFolder.erase ["p", "a"]).findMetadata .customField ⟨.here, ["a", ".."]⟩ = .ok [] ∧
    besideFolder.findMetadata .customField ⟨.here, [String.ofList (List.replicate 256 'a')]⟩ =
      .error .nameTooLong ∧
    besidePassed.Sound ∧ withinPassed.Sound ∧
    besidePassed.findMetadata .customField detours = .ok [] ∧
    withinPassed.findMetadata .customField detours = .error .nameTooLong := by
  have hopen : besideFolder.Searchable .customField ⟨.here, ["a", ".."]⟩ :=
    (besideFolder_sound.searchable_iff rfl).mpr (by decide)
  refine ⟨besideFolder_sound, erase_besideFolder_sound, rfl, ?_, besideFolder_found rfl hopen,
    findMetadata_of_no_folder rfl, ?_, besidePassed_sound, withinPassed_sound, ?_, ?_⟩
  · simp [besideFolder, List.cons_prefix_cons]
  · refine findMetadata_of_long_name (by decide +kernel) ?_
    intro s hs
    rw [List.mem_singleton.mp hs, String.toList_ofList, List.mem_replicate]
    simp
  · decide +kernel
  · decide +kernel

end Tree

end ApexConstants
