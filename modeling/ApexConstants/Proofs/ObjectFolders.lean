import ApexConstants.Proofs.SetFileNames
import Mathlib.Order.Bounds.Basic

namespace ApexConstants

def folderMark (folder : List Char) : List Char := '/' :: (folder ++ ['/'])

theorem folderMark_append (folder rest : List Char) :
    folderMark folder ++ rest = '/' :: (folder ++ '/' :: rest) := by
  simp [folderMark]

section
variable {α : Type} {folder piece front cs : List Char} {read : List Char → Option α}

/-- What stands in front of the first slash is passed over. -/
theorem behindLast_front (hslash : '/' ∉ front) (hline : '\n' ∉ front) :
    behindLast (folderMark folder) read (front ++ cs) = behindLast (folderMark folder) read cs := by
  induction front with
  | nil => rfl
  | cons c front ih =>
    simp only [List.mem_cons, not_or] at hslash hline
    have hmark : after? (folderMark folder) (c :: (front ++ cs)) = none := by
      simp [after?, folderMark, hslash.1]
    rw [List.cons_append, behindLast_cons (Ne.symm hline.1), hmark, ih hslash.2 hline.2,
      Option.bind_none, Option.or_none]

/-- At a slash the pieces behind the next one are tried before the mark is sought here. -/
theorem behindLast_slashed_cons (hslash : '/' ∉ piece) (hline : '\n' ∉ piece)
    (pieces : List (List Char)) :
    behindLast (folderMark folder) read (Path.slashed (piece :: pieces)) =
      (behindLast (folderMark folder) read (Path.slashed pieces)).or
        ((after? (folderMark folder) (Path.slashed (piece :: pieces))).bind read) := by
  have hcons : Path.slashed (piece :: pieces) = '/' :: (piece ++ Path.slashed pieces) := rfl
  rw [hcons, behindLast_cons (by decide), behindLast_front hslash hline]

theorem after?_slashed_singleton (hslash : '/' ∉ piece) :
    after? (folderMark folder) (Path.slashed [piece]) = none := by
  cases h : after? (folderMark folder) (Path.slashed [piece]) with
  | none => rfl
  | some rest =>
    have hwhole := after?_eq_some h
    rw [folderMark_append] at hwhole
    have hpiece : piece ++ [] = folder ++ '/' :: rest := (List.cons.inj hwhole).2
    rw [List.append_nil] at hpiece
    exact absurd (by simp [hpiece]) hslash

/-- The mark of a folder opens pieces of which the first is the folder and another follows. -/
theorem after?_slashed_cons (hfolder : '/' ∉ folder) (hslash : '/' ∉ piece) (next : List Char)
    (rest : List (List Char)) :
    after? (folderMark folder) (Path.slashed (piece :: next :: rest)) =
      if piece = folder then some (next ++ Path.slashed rest) else none := by
  have hcons : Path.slashed (piece :: next :: rest) =
      '/' :: (piece ++ '/' :: (next ++ Path.slashed rest)) := rfl
  split
  · rename_i heq
    rw [hcons, ← folderMark_append, heq, after?_append]
  · rename_i hne
    cases h : after? (folderMark folder) (Path.slashed (piece :: next :: rest)) with
    | none => rfl
    | some more =>
      have hwhole := after?_eq_some h
      rw [hcons, folderMark_append] at hwhole
      -- Up to the next slash both texts are the same.
      have hsplit := congrArg (List.splitOn '/') (List.cons.inj hwhole).2
      rw [List.splitOn_append_cons_self, List.splitOn_append_cons_self,
        List.splitOn_eq_singleton hslash, List.splitOn_eq_singleton hfolder] at hsplit
      exact absurd (List.cons.inj hsplit).1 hne

/-- A name without slashes is read up to the slash behind it. -/
theorem upToStop_append (hslash : '/' ∉ piece) (hline : '\n' ∉ piece) :
    upToStop isSlash (piece ++ cs) = (upToStop isSlash cs).map (piece ++ ·) := by
  induction piece with
  | nil => simp
  | cons c piece ih =>
    simp only [List.mem_cons, not_or] at hslash hline
    have hstop : isSlash (c :: (piece ++ cs)) = false := by
      simpa [isSlash] using Ne.symm hslash.1
    rw [List.cons_append, upToStop_cons (Ne.symm hline.1) hstop, ih hslash.2 hline.2,
      Option.map_map]
    rfl

theorem upToStop_slashed_nil (hslash : '/' ∉ piece) (hline : '\n' ∉ piece) :
    upToStop isSlash (piece ++ Path.slashed []) = none := by
  rw [upToStop_append hslash hline]
  rfl

theorem upToStop_slashed_cons (hslash : '/' ∉ piece) (hline : '\n' ∉ piece) (next : List Char)
    (rest : List (List Char)) :
    upToStop isSlash (piece ++ Path.slashed (next :: rest)) = some piece := by
  have hstop : upToStop isSlash (Path.slashed (next :: rest)) = some [] := rfl
  rw [upToStop_append hslash hline, hstop, Option.map_some, List.append_nil]

end

def objectIn? (folder : String) : List String → Option String
  | name :: _ :: _ => if folder = "objects" then some name else none
  | _ => none

/-- The name that is found in the last folder of objects. -/
def objectAmong? : List String → Option String
  | [] => none
  | folder :: rest => (objectAmong? rest).or (objectIn? folder rest)

/-- A name that can be written between slashes in one line. -/
def IsFolderName (name : String) : Prop := '/' ∉ name.toList ∧ '\n' ∉ name.toList

section
variable {folder name : String} {names rest : List String}

def slashedNames (names : List String) : List Char := Path.slashed (names.map String.toList)

theorem read_slashedNames (hfolder : IsFolderName folder)
    (hrest : ∀ name ∈ rest, IsFolderName name) :
    ((after? (folderMark "objects".toList) (slashedNames (folder :: rest))).bind
      (upToStop isSlash)).map String.ofList = objectIn? folder rest := by
  have hobjects : '/' ∉ "objects".toList := by decide
  cases rest with
  | nil =>
    rw [slashedNames, List.map_cons, List.map_nil, after?_slashed_singleton hfolder.1]
    rfl
  | cons name rest =>
    obtain ⟨hslash, hline⟩ := hrest name List.mem_cons_self
    rw [slashedNames, List.map_cons, List.map_cons, after?_slashed_cons hobjects hfolder.1]
    simp only [String.toList_inj]
    cases rest with
    | nil =>
      rw [List.map_nil, objectIn?]
      · split
        · rw [Option.bind_some, upToStop_slashed_nil hslash hline]
          rfl
        · rfl
      · intro first part more heq
        cases heq
    | cons part rest =>
      rw [List.map_cons, objectIn?]
      split
      · rw [Option.bind_some, upToStop_slashed_cons hslash hline, Option.map_some,
          String.ofList_toList]
      · rfl

/-- The search through the characters is one through the names. -/
theorem behindLast_slashedNames (h : ∀ name ∈ names, IsFolderName name) :
    (behindLast (folderMark "objects".toList) (upToStop isSlash)
      (slashedNames names)).map String.ofList = objectAmong? names := by
  induction names with
  | nil => rfl
  | cons folder rest ih =>
    have hfolder := h folder List.mem_cons_self
    have hrest : ∀ name ∈ rest, IsFolderName name := fun name hname =>
      h name (List.mem_cons_of_mem folder hname)
    have hread := read_slashedNames hfolder hrest
    rw [slashedNames, List.map_cons] at hread ⊢
    rw [behindLast_slashed_cons hfolder.1 hfolder.2, Option.map_or, hread, objectAmong?,
      ← ih hrest]
    rfl

/-- At this place stands a folder of objects, and at least two names follow. -/
def ObjectsAmong (names : List String) (i : Nat) : Prop :=
  names[i]? = some "objects" ∧ i + 2 < names.length

theorem objectsAmong_succ {i : Nat} :
    ObjectsAmong (folder :: rest) (i + 1) ↔ ObjectsAmong rest i := by
  have hlength : i + 1 + 2 < rest.length + 1 ↔ i + 2 < rest.length := by omega
  simp only [ObjectsAmong, List.getElem?_cons_succ, List.length_cons, hlength]

theorem objectIn?_eq_some_iff :
    objectIn? folder rest = some name ↔ ObjectsAmong (folder :: rest) 0 ∧ rest[0]? = some name := by
  unfold objectIn?
  split
  · simp [ObjectsAmong]
  · rename_i hshort
    refine iff_of_false (by simp) fun h => ?_
    obtain ⟨⟨_, hlength⟩, _⟩ := h
    match rest, hshort with
    | [], _ => simp at hlength
    | [_], _ => simp at hlength
    | first :: part :: more, hshort => exact hshort first part more rfl

theorem objectIn?_eq_none_iff :
    objectIn? folder rest = none ↔ ¬ ObjectsAmong (folder :: rest) 0 := by
  cases hin : objectIn? folder rest with
  | some name => simp [(objectIn?_eq_some_iff.mp hin).1]
  | none =>
    refine iff_of_true rfl fun hat => ?_
    have hlength : 0 < rest.length := by
      have := hat.2
      simp only [List.length_cons] at this
      omega
    have hsome := objectIn?_eq_some_iff.mpr ⟨hat, List.getElem?_eq_getElem hlength⟩
    rw [hin] at hsome
    cases hsome

theorem objectAmong?_eq_none_iff : objectAmong? names = none ↔ ∀ i, ¬ ObjectsAmong names i := by
  induction names with
  | nil => simp [objectAmong?, ObjectsAmong]
  | cons folder rest ih =>
    rw [objectAmong?, Option.or_eq_none_iff, ih, objectIn?_eq_none_iff]
    constructor
    · intro h i
      cases i with
      | zero => exact h.2
      | succ i => exact fun hat => h.1 i (objectsAmong_succ.mp hat)
    · intro h
      exact ⟨fun i hat => h (i + 1) (objectsAmong_succ.mpr hat), h 0⟩

/-- The name that is found stands behind the last folder of objects. -/
theorem objectAmong?_last (h : objectAmong? names = some name) :
    ∃ i, IsGreatest {i | ObjectsAmong names i} i ∧ names[i + 1]? = some name := by
  induction names with
  | nil => cases h
  | cons folder rest ih =>
    rw [objectAmong?, Option.or_eq_some_iff] at h
    rcases h with hlater | ⟨hnone, hhere⟩
    · obtain ⟨i, ⟨hat, hlast⟩, hname⟩ := ih hlater
      refine ⟨i + 1, ⟨objectsAmong_succ.mpr hat, ?_⟩, hname⟩
      intro j hj
      cases j with
      | zero => exact Nat.zero_le _
      | succ j => exact Nat.succ_le_succ (hlast (objectsAmong_succ.mp hj))
    · obtain ⟨hat, hname⟩ := objectIn?_eq_some_iff.mp hhere
      refine ⟨0, ⟨hat, ?_⟩, hname⟩
      intro j hj
      cases j with
      | zero => exact Nat.le_refl _
      | succ j => exact absurd (objectsAmong_succ.mp hj) (objectAmong?_eq_none_iff.mp hnone j)

end

namespace Path

/-- How many names at the front of a path have no slash before them. -/
def unslashed (p : Path) : Nat := if p.anchor = .here then 1 else 0

/-- At this place stands a folder of objects behind a slash, and at least two names follow. -/
def ObjectsAt (p : Path) (i : Nat) : Prop :=
  p.names[i]? = some "objects" ∧ i + 2 < p.names.length ∧ (1 ≤ i ∨ p.anchor ≠ .here)

variable {p : Path}

theorem objectsAt_iff {i : Nat} : p.ObjectsAt i ↔
    ∃ j, i = p.unslashed + j ∧ ObjectsAmong (p.names.drop p.unslashed) j := by
  have hbehind : 1 ≤ i ∨ p.anchor ≠ .here ↔ p.unslashed ≤ i := by
    unfold unslashed
    split
    · rename_i hhere
      simp [hhere]
    · rename_i hroot
      simp [hroot]
  simp only [ObjectsAt, ObjectsAmong, hbehind, List.getElem?_drop, List.length_drop]
  constructor
  · intro h
    obtain ⟨hname, hlength, hle⟩ := h
    obtain ⟨j, rfl⟩ := Nat.exists_eq_add_of_le hle
    exact ⟨j, rfl, hname, by omega⟩
  · intro h
    obtain ⟨j, rfl, hname, hlength⟩ := h
    exact ⟨hname, by omega, Nat.le_add_right _ _⟩

theorem toList_intercalate_cons (first : String) (rest : List String) :
    (String.intercalate "/" (first :: rest)).toList = first.toList ++ slashedNames rest := by
  rw [String.toList_intercalate, List.map_cons]
  exact Text.intercalate_cons_eq '/' first.toList (rest.map String.toList)

theorem toList_text_cons (anchor : Anchor) (first : String) (rest : List String) :
    (Path.text ⟨anchor, first :: rest⟩).toList =
      anchor.text.toList ++ (first.toList ++ slashedNames rest) := by
  rw [← toList_intercalate_cons, ← String.toList_append]
  simp [text]

theorem Plain.folderNames (hp : p.Plain) (hline : '\n' ∉ p.text.toList) :
    ∀ name ∈ p.names, IsFolderName name := by
  obtain ⟨anchor, names⟩ := p
  intro name hname
  refine ⟨(hp name hname).1, fun hm => hline ?_⟩
  cases names with
  | nil => cases hname
  | cons first rest =>
    rw [toList_text_cons]
    apply List.mem_append_right
    rcases List.mem_cons.mp hname with heq | hrest
    · subst heq
      exact List.mem_append_left _ hm
    · have hmem : name.toList ∈ rest.map String.toList := List.mem_map_of_mem hrest
      exact List.mem_append_right _ (List.mem_flatMap.mpr ⟨_, hmem, List.mem_cons_of_mem _ hm⟩)

end Path

/-- The object that a path names is found among the names that have a slash before them. -/
theorem objectName?_eq_among {p : Path} (hp : p.Plain) (hline : '\n' ∉ p.text.toList) :
    objectName? p = objectAmong? (p.names.drop p.unslashed) := by
  have hnames := hp.folderNames hline
  obtain ⟨anchor, names⟩ := p
  cases names with
  | nil => cases anchor <;> rfl
  | cons first rest =>
    obtain ⟨hfirst, hrest⟩ := List.forall_mem_cons.mp hnames
    have hname : objectName? ⟨anchor, first :: rest⟩ =
        (behindLast (folderMark "objects".toList) (upToStop isSlash)
          (anchor.text.toList ++ (first.toList ++ slashedNames rest))).map String.ofList := by
      rw [← Path.toList_text_cons]
      rfl
    rw [hname]
    cases anchor with
    | here =>
      rw [behindLast_front (by decide) (by decide), behindLast_front hfirst.1 hfirst.2]
      exact behindLast_slashedNames hrest
    | root => exact behindLast_slashedNames hnames
    | doubleRoot =>
      -- Between the two slashes of the root stands an empty name, which is no folder.
      have hempty : IsFolderName "" := ⟨by decide, by decide⟩
      have hsearch := behindLast_slashedNames (List.forall_mem_cons.mpr ⟨hempty, hnames⟩)
      have hnone : objectIn? "" (first :: rest) = none := by cases rest <;> rfl
      rw [objectAmong?, hnone, Option.or_none] at hsearch
      exact hsearch

theorem Path.isGreatest_objectsAt {p : Path} {j : Nat}
    (h : IsGreatest {j | ObjectsAmong (p.names.drop p.unslashed) j} j) :
    IsGreatest {i | p.ObjectsAt i} (p.unslashed + j) := by
  obtain ⟨hat, hlast⟩ := h
  refine ⟨objectsAt_iff.mpr ⟨j, rfl, hat⟩, ?_⟩
  intro i hi
  obtain ⟨k, rfl, hk⟩ := objectsAt_iff.mp hi
  exact Nat.add_le_add_left (hlast hk) p.unslashed

/-- The object that a path names, told by the path's names. -/
structure NamesObject (p : Path) : Prop where
  /-- It is the name behind the last folder of objects. -/
  named : ∀ name, objectName? p = some name ↔
    ∃ i, IsGreatest {i | p.ObjectsAt i} i ∧ p.names[i + 1]? = some name
  /-- There is none exactly when there is no such folder. -/
  unnamed : objectName? p = none ↔ ∀ i, ¬ p.ObjectsAt i
  /-- It is the name of one folder. -/
  isName : ∀ name, objectName? p = some name → name ≠ "" ∧ '/' ∉ name.toList

/-- A path in one line names the object whose folder comes next to the last folder of objects. -/
theorem object_named_by_segments {p : Path} (hp : p.Plain) (hline : '\n' ∉ p.text.toList) :
    NamesObject p := by
  have hamong := objectName?_eq_among hp hline
  have hunnamed : objectName? p = none ↔ ∀ i, ¬ p.ObjectsAt i := by
    rw [hamong, objectAmong?_eq_none_iff]
    constructor
    · intro h i hi
      obtain ⟨j, _, hj⟩ := Path.objectsAt_iff.mp hi
      exact h j hj
    · intro h j hj
      exact h _ (Path.objectsAt_iff.mpr ⟨j, rfl, hj⟩)
  have hlast : ∀ name, objectName? p = some name →
      ∃ i, IsGreatest {i | p.ObjectsAt i} i ∧ p.names[i + 1]? = some name := by
    intro name hname
    rw [hamong] at hname
    obtain ⟨j, hj, hbehind⟩ := objectAmong?_last hname
    rw [List.getElem?_drop] at hbehind
    exact ⟨_, Path.isGreatest_objectsAt hj, hbehind⟩
  refine ⟨fun name => ⟨hlast name, ?_⟩, hunnamed, ?_⟩
  · intro h
    obtain ⟨i, hi, hbehind⟩ := h
    cases hname : objectName? p with
    | none => exact absurd hi.1 (hunnamed.mp hname i)
    | some other =>
      obtain ⟨k, hk, hother⟩ := hlast other hname
      rw [← hbehind, ← hother, hi.unique hk]
  · intro name hname
    obtain ⟨i, _, hbehind⟩ := hlast name hname
    exact ⟨(hp name (List.mem_of_getElem? hbehind)).2.1, slash_not_mem_objectName? hname⟩

/-- Of two folders of objects next to each other the second counts, and one that is too near to the
end does not. -/
theorem object_named_behind_second :
    (Path.ofText "/objects/objects/Account/fields/objects/A.field-meta.xml").Plain ∧
    '\n' ∉ (Path.ofText "/objects/objects/Account/fields/objects/A.field-meta.xml").text.toList ∧
    objectName? (.ofText "/objects/objects/Account/fields/objects/A.field-meta.xml") =
      some "Account" := by
  have hplain := Path.plain_ofText "/objects/objects/Account/fields/objects/A.field-meta.xml"
  have hline : '\n' ∉
      (Path.ofText "/objects/objects/Account/fields/objects/A.field-meta.xml").text.toList := by
    decide +kernel
  have hnames : (Path.ofText "/objects/objects/Account/fields/objects/A.field-meta.xml").names =
      ["objects", "objects", "Account", "fields", "objects", "A.field-meta.xml"] := by
    decide +kernel
  refine ⟨hplain, hline, ((object_named_by_segments hplain hline).named "Account").mpr ?_⟩
  simp only [Path.ObjectsAt, hnames]
  refine ⟨1, ⟨⟨rfl, by decide, .inl (Nat.le_refl 1)⟩, ?_⟩, rfl⟩
  intro i hi
  obtain ⟨hname, hlength, _⟩ := hi
  match i with
  | 0 => exact Nat.zero_le 1
  | 1 => exact Nat.le_refl 1
  | 2 | 3 => simp at hname
  | i + 4 =>
    simp only [List.length_cons, List.length_nil] at hlength
    omega

end ApexConstants
