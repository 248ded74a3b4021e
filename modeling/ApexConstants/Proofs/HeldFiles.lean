import ApexConstants.Proofs.MirroredTrees
import ApexConstants.Proofs.WrittenFiles

namespace ApexConstants

namespace Tree

variable {t t' u u' : Tree} {files more : List (Path × String)} {f : Path × String}
  {ps qs : List Path} {p : Path} {home l : Location} {content : String} {old : ByteArray}

theorem located_of_lastContent? (h : t.lastContent? l files = some content) :
    ∃ f ∈ files, t.locate f.1 = .ok l := by
  by_contra hnone
  push Not at hnone
  rw [lastContent?_eq_none hnone] at h
  cases h

theorem lastContent?_of_located (hf : f ∈ files) (hl : t.locate f.1 = .ok l) :
    ∃ content, t.lastContent? l files = some content := by
  induction files with
  | nil => exact absurd hf List.not_mem_nil
  | cons g files ih =>
    rw [lastContent?]
    rcases List.mem_cons.mp hf with rfl | hf
    · rw [if_pos hl]
      cases t.lastContent? l files with
      | none => exact ⟨f.2, rfl⟩
      | some last => exact ⟨last, rfl⟩
    · obtain ⟨last, hlast⟩ := ih hf
      exact ⟨last, by rw [hlast]; rfl⟩

/-- Paths that lead somewhere have the same last contents in a tree that has grown. -/
theorem Grows.lastContent? (h : Grows t u) (hfiles : ∀ f ∈ files, ∃ l, t.locate f.1 = .ok l)
    (l : Location) : u.lastContent? l files = t.lastContent? l files := by
  induction files with
  | nil => rfl
  | cons f files ih =>
    rw [List.forall_mem_cons] at hfiles
    obtain ⟨k, hk⟩ := hfiles.1
    rw [Tree.lastContent?, Tree.lastContent?, ih hfiles.2, hk, h.locate hk]

/-- A file that can be read can be read later on. -/
theorem Grows.read (h : Grows t u) (hread : t.read p = .ok old) : ∃ new, u.read p = .ok new := by
  obtain ⟨l, hl, hentry⟩ := read_eq_ok_iff.mp hread
  obtain ⟨new, hnew⟩ := h.fileStays l old hentry
  exact ⟨new, read_eq_ok_iff.mpr ⟨l, h.locate hl, hnew⟩⟩

/-- A tree has some files: each path leads to a place, and at a place is the last content of those
whose paths lead there. -/
structure Holds (t : Tree) (files : List (Path × String)) : Prop where
  located : ∀ f ∈ files, ∃ l, t.locate f.1 = .ok l
  contents : ∀ l content, t.lastContent? l files = some content →
    t.content? l = some content.toUTF8

theorem holds_nil (t : Tree) : Holds t [] := ⟨by simp, nofun⟩

theorem Holds.append (h : Holds t files) (h' : Holds t more) : Holds t (files ++ more) := by
  refine ⟨fun f hf => ?_, fun l content hlast => ?_⟩
  · rcases List.mem_append.mp hf with hf | hf
    · exact h.located f hf
    · exact h'.located f hf
  · rw [lastContent?_append] at hlast
    cases hmore : t.lastContent? l more with
    | some last =>
      rw [hmore] at hlast
      cases hlast
      exact h'.contents l _ hmore
    | none =>
      rw [hmore, Option.none_or] at hlast
      exact h.contents l content hlast

theorem holds_flatMap {α : Type} {xs : List α} {filesOf : α → List (Path × String)}
    (h : ∀ x ∈ xs, Holds t (filesOf x)) : Holds t (xs.flatMap filesOf) := by
  induction xs with
  | nil => exact holds_nil t
  | cons x xs ih =>
    rw [List.forall_mem_cons] at h
    exact h.1.append (ih h.2)

theorem WroteAll.holds (h : WroteAll t files t') : Holds t' files := by
  refine ⟨h.located, fun l content hlast => ?_⟩
  rw [content?_eq_some_iff, h.exactly, hlast]

theorem Holds.last (h : Holds t files) (hf : f ∈ files) :
    ∃ l content, t.locate f.1 = .ok l ∧ t.lastContent? l files = some content ∧
      t.read f.1 = .ok content.toUTF8 := by
  obtain ⟨l, hl⟩ := h.located f hf
  obtain ⟨content, hlast⟩ := lastContent?_of_located hf hl
  have hentry := content?_eq_some_iff.mp (h.contents l content hlast)
  exact ⟨l, content, hl, hlast, read_eq_ok_iff.mpr ⟨l, hl, hentry⟩⟩

/-- Files stay when others are written elsewhere. -/
theorem Holds.touch (h : Holds u files) (hu : Touches u.home ps u u')
    (hapart : ∀ f ∈ files, ∀ p ∈ ps, f.1.target u.home ≠ p.target u.home) : Holds u' files := by
  refine ⟨fun f hf => ?_, fun l content hlast => ?_⟩
  · obtain ⟨l, hl⟩ := h.located f hf
    exact ⟨l, hu.grows.locate hl⟩
  · rw [hu.grows.lastContent? h.located] at hlast
    obtain ⟨f, hf, hl⟩ := located_of_lastContent? hlast
    obtain ⟨_, _, rfl⟩ := locate_eq_ok_iff.mp hl
    rw [hu.files _ (hapart f hf), h.contents _ content hlast]

/-- When the same files are written once more, every file in the tree is as it was. -/
theorem Holds.unchanged (h : Holds t files) (h' : Holds u files)
    (hu : Touches t.home (files.map Prod.fst) t u) (l : Location) :
    u.content? l = t.content? l := by
  by_cases hsome : ∃ f ∈ files, t.locate f.1 = .ok l
  · obtain ⟨f, hf, hl⟩ := hsome
    obtain ⟨content, hlast⟩ := lastContent?_of_located hf hl
    have hlast' := hlast
    rw [← hu.grows.lastContent? h.located] at hlast'
    rw [h.contents l content hlast, h'.contents l content hlast']
  · apply hu.files
    intro p hp heq
    obtain ⟨f, hf, rfl⟩ := List.mem_map.mp hp
    obtain ⟨k, hk⟩ := h.located f hf
    obtain ⟨_, _, rfl⟩ := locate_eq_ok_iff.mp hk
    exact hsome ⟨f, hf, heq ▸ hk⟩

theorem Touches.mono (h : Touches home ps u u') (hsub : ∀ p ∈ ps, p ∈ qs) :
    Touches home qs u u' where
  grows := h.grows
  files l hl := h.files l fun p hp => hl p (hsub p hp)
  folders l hl := h.folders l fun p hp => hl p (hsub p hp)

/-- Writing files touches nothing but where their paths lead, also when it fails. -/
theorem touches_writeFiles (hhome : u.home = home) (files : List (Path × String)) :
    Touches home (files.map Prod.fst) u (writeFiles treeWriter u files).1 := by
  induction files generalizing u with
  | nil => exact Touches.refl home _ u
  | cons f files ih =>
    obtain ⟨p, content⟩ := f
    have hfirst : Touches home (((p, content) :: files).map Prod.fst) u
        (u.write p content.toUTF8).1 := touches_write hhome (by simp) content.toUTF8
    simp only [writeFiles]
    rcases u.treeWriter_cases p content with ⟨after, hwrite, htree⟩ | ⟨after, fault, hwrite, htree⟩
    · rw [hwrite] at hfirst
      simp only [htree]
      have hrest := ih (hfirst.grows.sameHome.trans hhome)
      exact hfirst.trans (hrest.mono fun q hq => List.mem_cons_of_mem p hq)
    · rw [hwrite] at hfirst
      simp only [htree]
      exact hfirst

theorem writable_of_read (h : t.read p = .ok old) :
    Writable t p ∧ ∀ k ∈ p.parent.places t.home, t.entry? k = some .folder := by
  obtain ⟨l, hl, hfile⟩ := read_eq_ok_iff.mp h
  obtain ⟨husable, hway, rfl⟩ := locate_eq_ok_iff.mp hl
  have hfolders : ∀ k ∈ p.parent.places t.home, t.entry? k = some .folder := by
    obtain ⟨anchor, names⟩ := p
    rcases List.eq_nil_or_concat' names with rfl | ⟨front, last, rfl⟩
    · have hstart : t.entry? (Path.target ⟨anchor, []⟩ t.home) = some .folder :=
        t.entry_start ⟨anchor, []⟩
      rw [hstart] at hfile
      cases hfile
    · rwa [Path.parent_eq, ← Path.way_concat anchor front last]
  refine ⟨⟨husable, fun k hk c hc => ?_, fun hmem => ?_, ?_⟩, hfolders⟩
  · rw [hfolders k hk] at hc
    cases hc
  · rw [hfolders _ hmem] at hfile
    cases hfile
  · rw [hfile]
    exact nofun

theorem write_again (h : t.read p = .ok old) (content : ByteArray) :
    (t.write p content).2 = .ok () := by
  obtain ⟨hwritable, hfolders⟩ := writable_of_read h
  rcases hwritable.write content with hok | hdeep
  · exact hok
  · -- No folder is missing, so there cannot be too many of them.
    have hgap := (hwritable.tooDeep_iff content).mp hdeep 0 (by decide)
    rw [List.rdrop_zero] at hgap
    exact absurd (fun k hk => hfolders k (List.mem_append_left _ hk)) hgap

theorem writeFiles_again (h : ∀ f ∈ files, ∃ old, t.read f.1 = .ok old) :
    (writeFiles treeWriter t files).2 = .ok () := by
  induction files generalizing t with
  | nil => rfl
  | cons f files ih =>
    obtain ⟨p, content⟩ := f
    rw [List.forall_mem_cons] at h
    obtain ⟨old, hold⟩ := h.1
    have hok := write_again hold content.toUTF8
    have hgrows := grows_write t p content.toUTF8
    simp only [writeFiles]
    rcases t.treeWriter_cases p content with ⟨after, hwrite, htree⟩ | ⟨after, fault, hwrite, htree⟩
    · rw [hwrite] at hgrows
      simp only [htree]
      refine ih fun g hg => ?_
      obtain ⟨old', hold'⟩ := h.2 g hg
      exact hgrows.read hold'
    · rw [hwrite] at hok
      cases hok

theorem Holds.congr (h : Holds t files) (hgrows : Grows t u)
    (hsame : ∀ l, u.content? l = t.content? l) : Holds u files := by
  refine ⟨fun f hf => ?_, fun l content hlast => ?_⟩
  · obtain ⟨l, hl⟩ := h.located f hf
    exact ⟨l, hgrows.locate hl⟩
  · rw [hgrows.lastContent? h.located] at hlast
    rw [hsame, h.contents l content hlast]

/-- Files that a tree has are written once more without a change. -/
theorem Holds.rewritten (h : Holds t files) : (writeFiles treeWriter t files).2 = .ok () ∧
    ∀ l, (writeFiles treeWriter t files).1.content? l = t.content? l := by
  have hok : (writeFiles treeWriter t files).2 = .ok () := writeFiles_again fun f hf => by
    obtain ⟨_, text, _, _, hread⟩ := h.last hf
    exact ⟨text.toUTF8, hread⟩
  rcases hwritten : writeFiles treeWriter t files with ⟨after, outcome⟩
  rw [hwritten] at hok
  cases hok
  have htouched : Touches t.home (files.map Prod.fst) t (writeFiles treeWriter t files).1 :=
    touches_writeFiles rfl files
  rw [hwritten] at htouched
  exact ⟨rfl, h.unchanged (wroteAll_writeFiles hwritten).holds htouched⟩

end Tree

end ApexConstants
