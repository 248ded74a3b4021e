import ApexConstants.Generated
import ApexConstants.Proofs.TreeGrowth
import Mathlib.Data.List.Basic

namespace ApexConstants

section Writers
variable {store fault : Type}

theorem writeFiles_append (writer : Writer store fault) (s : store) (xs ys : List (Path × String)) :
    writeFiles writer s (xs ++ ys) =
      match writeFiles writer s xs with
      | (after, .ok ()) => writeFiles writer after ys
      | (after, .error e) => (after, .error e) := by
  induction xs generalizing s with
  | nil => rfl
  | cons x xs ih =>
    obtain ⟨path, content⟩ := x
    simp only [List.cons_append, writeFiles]
    rcases writer s path content with ⟨after, e | _⟩
    · rfl
    · exact ih after

/-- The pairs of classes are written like any list of files. -/
theorem writeFiles_pairs (writer : Writer store fault) (folder : Path) (s : store)
    (classes : List GeneratedClass) :
    writeFiles writer s (classes.flatMap (·.files folder)) =
      ((writePairs writer folder s classes).store,
        (writePairs writer folder s classes).outcome) := by
  induction classes generalizing s with
  | nil => rfl
  | cons c classes ih =>
    rw [List.flatMap_cons, writeFiles_append]
    simp only [writePairs]
    rcases writeFiles writer s (c.files folder) with ⟨after, e | _⟩
    · rfl
    · exact ih after

end Writers

namespace Tree

/-- The content of the last of some files whose path leads to a location. -/
def lastContent? (t : Tree) (l : Location) : List (Path × String) → Option String
  | [] => none
  | (p, content) :: rest =>
    (t.lastContent? l rest).or (if t.locate p = .ok l then some content else none)

theorem lastContent?_append (t : Tree) (l : Location) (xs ys : List (Path × String)) :
    t.lastContent? l (xs ++ ys) = (t.lastContent? l ys).or (t.lastContent? l xs) := by
  induction xs with
  | nil => simp [lastContent?]
  | cons x xs ih =>
    obtain ⟨p, content⟩ := x
    rw [List.cons_append, lastContent?, ih, lastContent?, Option.or_assoc]

theorem lastContent?_eq_none {t : Tree} {l : Location} {files : List (Path × String)}
    (h : ∀ f ∈ files, t.locate f.1 ≠ .ok l) : t.lastContent? l files = none := by
  induction files with
  | nil => rfl
  | cons f files ih =>
    obtain ⟨p, content⟩ := f
    rw [lastContent?, ih fun g hg => h g (List.mem_cons_of_mem _ hg),
      if_neg (h (p, content) List.mem_cons_self)]
    rfl

/-- What writing files one after the other does: at each location that a path leads to the last
content stays, and the files elsewhere are those from before. -/
structure WroteAll (t : Tree) (files : List (Path × String)) (t' : Tree) : Prop
    extends Grows t t' where
  located : ∀ f ∈ files, ∃ l, t'.locate f.1 = .ok l
  exactly : ∀ l c, t'.entry? l = some (.file c) ↔
    match t'.lastContent? l files with
    | some content => c = content.toUTF8
    | none => t.entry? l = some (.file c)

theorem treeWriter_ok {t t' : Tree} {p : Path} {content : String}
    (h : treeWriter t p content = (t', .ok ())) : t.write p content.toUTF8 = (t', .ok ()) := by
  unfold treeWriter at h
  generalize content.toUTF8 = bytes at h ⊢
  rcases hwrite : t.write p bytes with ⟨after, fault | _⟩
  · simp [hwrite, Except.mapError] at h
  · simp only [hwrite, Except.mapError, Prod.mk.injEq, and_true] at h
    rw [h]

theorem wroteAll_writeFiles {t t' : Tree} {files : List (Path × String)}
    (h : writeFiles treeWriter t files = (t', .ok ())) : WroteAll t files t' := by
  induction files generalizing t with
  | nil =>
    cases h
    exact ⟨Grows.refl _, by simp, fun _ _ => Iff.rfl⟩
  | cons f files ih =>
    obtain ⟨p, content⟩ := f
    simp only [writeFiles] at h
    rcases hwrite : treeWriter t p content with ⟨after, fault | _⟩
    · simp [hwrite] at h
    · simp only [hwrite] at h
      obtain ⟨k, hwrote⟩ := wrote_write (treeWriter_ok hwrite)
      have hrest := ih h
      -- Later writes only add, so the first path still leads where it led when it was written.
      have hp : t'.locate p = .ok k := hrest.toGrows.locate hwrote.located
      refine ⟨hwrote.toGrows.trans hrest.toGrows, ?_, ?_⟩
      · intro g hg
        rcases List.mem_cons.mp hg with rfl | hg
        · exact ⟨k, hp⟩
        · exact hrest.located g hg
      · intro l c
        rw [hrest.exactly l c, lastContent?, hp]
        cases t'.lastContent? l files with
        | some last => rfl
        | none =>
          rw [Option.none_or, hwrote.exactly l c]
          by_cases hl : l = k
          · simp [hl]
          · simp [hl, Ne.symm hl]

/-- A file of the list holds its content when no later path leads to the same place. -/
theorem WroteAll.read_last {t t' : Tree} {earlier later : List (Path × String)} {p : Path}
    {content : String} (h : WroteAll t (earlier ++ (p, content) :: later) t')
    (hlater : ∀ f ∈ later, t'.locate f.1 ≠ t'.locate p) : t'.read p = .ok content.toUTF8 := by
  obtain ⟨l, hl⟩ := h.located (p, content) (by simp)
  have hnone : t'.lastContent? l later = none :=
    lastContent?_eq_none fun f hf => hl ▸ hlater f hf
  have hlast : t'.lastContent? l (earlier ++ (p, content) :: later) = some content := by
    rw [lastContent?_append, lastContent?, hnone, if_pos hl]
    rfl
  refine read_eq_ok_iff.mpr ⟨l, hl, (h.exactly l content.toUTF8).mpr ?_⟩
  rw [hlast]

structure PlainName (name : String) : Prop where
  noZero : '\x00' ∉ name.toList
  short : name.utf8ByteSize ≤ longestName
  notAbove : name ≠ ".."

theorem locate_here {t : Tree} {name : String} (h : PlainName name) :
    t.locate ⟨.here, [name]⟩ = .ok (t.home ++ [name]) := by
  have hshort : ¬ longestName < name.utf8ByteSize := Nat.not_lt.mpr h.short
  have hpath : ¬ longestPath < name.utf8ByteSize :=
    Nat.not_lt.mpr (Nat.le_trans h.short (by decide))
  have hdots : (name == "..") = false := beq_eq_false_iff_ne.mpr h.notAbove
  have htext : Path.text ⟨.here, [name]⟩ = name := by
    simp [Path.text, Anchor.text]
  have hzero : name.toList.contains '\x00' = false := by simpa using h.noZero
  unfold locate
  rw [htext, List.any_cons, hzero]
  simp [hpath, follow, t.entry_home, hshort, hdots]

theorem ensureFolder_here (t : Tree) : t.ensureFolder .here = .ok t := by
  have hlocate : t.locate .here = .ok t.home := rfl
  have hmake : t.makeFolder .here = .error .taken := by
    simp [makeFolder, hlocate, t.entry_home, Bind.bind, Except.bind]
  have hfind : t.find .here = .ok .folder := by
    refine bind_eq_ok.mpr ⟨t.home, hlocate, ?_⟩
    rw [t.entry_home]
  have hfolder : t.isFolder .here = .ok true := by
    simp [isFolder, probe, hfind, Bind.bind, Except.bind, pure, Except.pure]
  simp [ensureFolder, hmake, hfolder, Bind.bind, Except.bind]

theorem write_here {t : Tree} {name : String} (h : PlainName name)
    (hfree : t.entry? (t.home ++ [name]) ≠ some .folder) (content : ByteArray) :
    t.write ⟨.here, [name]⟩ content = (t.put (t.home ++ [name]) (.file content), .ok ()) := by
  have hfolders : t.ensureFolders .here [] = (t, .ok ()) := by
    change (t, (t.ensureFolder .here).map fun _ => ()) = _
    rw [ensureFolder_here]
    rfl
  have hfile : t.writeFile ⟨.here, [name]⟩ content =
      .ok (t.put (t.home ++ [name]) (.file content)) := by
    refine bind_eq_ok.mpr ⟨_, locate_here h, ?_⟩
    split
    · rename_i hfolder
      exact absurd hfolder hfree
    · rfl
  exact write_eq hfolders hfile

/-- Plain names can be written in the current folder as long as no folder has one of them. -/
theorem writeFiles_here (t : Tree) (files : List (String × String))
    (h : ∀ name ∈ files.map Prod.fst,
      PlainName name ∧ t.entry? (t.home ++ [name]) ≠ some .folder) :
    ∃ t', writeFiles treeWriter t (files.map fun f => (⟨.here, [f.1]⟩, f.2)) = (t', .ok ()) := by
  induction files generalizing t with
  | nil => exact ⟨t, rfl⟩
  | cons f files ih =>
    rw [List.map_cons, List.forall_mem_cons] at h
    obtain ⟨⟨hplain, hfree⟩, hrest⟩ := h
    have hwrite : treeWriter t ⟨.here, [f.1]⟩ f.2 =
        (t.put (t.home ++ [f.1]) (.file f.2.toUTF8), .ok ()) := by
      unfold treeWriter
      rw [write_here hplain hfree]
      rfl
    rw [List.map_cons, writeFiles, hwrite]
    apply ih
    intro name hname
    obtain ⟨hplain', hfree'⟩ := hrest name hname
    refine ⟨hplain', ?_⟩
    change Tree.entry? _ (t.home ++ [name]) ≠ _
    rw [entry_put (not_above_home hfree)]
    split
    · simp
    · exact hfree'

end Tree

end ApexConstants
