import ApexConstants.Proofs.JoinedLines
import ApexConstants.Proofs.WrittenFiles

namespace ApexConstants

namespace Tree

theorem followAll_concat {t : Tree} {front : List String} {last : String} {start l : Location}
    (h : (front ++ [last]).foldlM t.follow start = .ok l) (hlast : last ≠ "..") :
    ∃ k, front.foldlM t.follow start = .ok k ∧ l = k ++ [last] := by
  rw [List.foldlM_append] at h
  obtain ⟨k, hk, h⟩ := bind_eq_ok.mp h
  refine ⟨k, hk, ?_⟩
  rw [List.foldlM_cons] at h
  obtain ⟨k', hlast', h⟩ := bind_eq_ok.mp h
  cases h
  unfold follow at hlast'
  split at hlast'
  · cases hlast'
  · cases hlast'
  · split at hlast'
    · cases hlast'
    · simp only [beq_eq_false_iff_ne.mpr hlast, Bool.false_eq_true, if_false] at hlast'
      exact (Except.ok.inj hlast').symm

theorem locate_concat {t : Tree} {anchor : Anchor} {front : List String} {last : String}
    {l : Location} (h : t.locate ⟨anchor, front ++ [last]⟩ = .ok l) (hlast : last ≠ "..") :
    ∃ k, front.foldlM t.follow (if anchor == .here then t.home else []) = .ok k ∧
      l = k ++ [last] := by
  unfold locate at h
  split at h
  · cases h
  · split at h
    · cases h
    · exact followAll_concat h hlast

end Tree

namespace Path

theorem isName_of_getLast? {name : String} {c : Char} (h : name.toList.getLast? = some c)
    (hpoint : c ≠ '.') : (!name.isEmpty && name != ".") = true := by
  have hempty : name ≠ "" := by
    rintro rfl
    cases h
  have hname : name ≠ "." := by
    rintro rfl
    simp at h
    exact hpoint h.symm
  simp [hempty, hname]

/-- The end of a text, if it holds no slash and its last character is no point, is the end of the
last name. -/
theorem namesOf_append {s : String} {cs more : List Char} {c : Char} (hs : s.toList = cs ++ more)
    (h : more.getLast? = some c) (hslash : '/' ∉ more) (hpoint : c ≠ '.') :
    ∃ front line, namesOf s = front ++ [String.ofList (line ++ more)] := by
  obtain ⟨before, line, hline⟩ : ∃ before line, cs.splitOn '/' = before ++ [line] :=
    ⟨_, _, (List.dropLast_append_getLast (List.splitOn_ne_nil '/' cs)).symm⟩
  have hlast : (String.ofList (line ++ more)).toList.getLast? = some c := by
    rw [String.toList_ofList, List.getLast?_append, h]
    rfl
  have hkept := isName_of_getLast? hlast hpoint
  refine ⟨(before.map String.ofList).filter fun name => !name.isEmpty && name != ".", line, ?_⟩
  rw [namesOf, Text.pieces, hs, Text.splitOn_append_right hslash, hline, Text.appendLast_concat,
    List.map_append, List.filter_append, List.map_singleton, List.filter_singleton, hkept]
  rfl

theorem child_append (p : Path) {s : String} {cs more : List Char} {c : Char}
    (hs : s.toList = cs ++ more) (h : more.getLast? = some c) (hslash : '/' ∉ more)
    (hpoint : c ≠ '.') :
    ∃ anchor front line, p.child s = ⟨anchor, front ++ [String.ofList (line ++ more)]⟩ := by
  obtain ⟨front, line, hnames⟩ := namesOf_append hs h hslash hpoint
  unfold child join ofText
  rw [hnames]
  split
  · exact ⟨p.anchor, p.names ++ front, line, by rw [List.append_assoc]⟩
  · exact ⟨anchorOf s, front, line, rfl⟩

/-- A text that ends with neither a slash nor a point ends with a name. -/
theorem child_concat (p : Path) {s : String} {c : Char} (h : s.toList.getLast? = some c)
    (hslash : c ≠ '/') (hpoint : c ≠ '.') :
    ∃ anchor front last, p.child s = ⟨anchor, front ++ [last]⟩ ∧ last.toList.getLast? = some c := by
  obtain ⟨cs, hcs⟩ := List.getLast?_eq_some_iff.mp h
  obtain ⟨anchor, front, line, hchild⟩ :=
    p.child_append hcs rfl (by simpa using Ne.symm hslash) hpoint
  exact ⟨anchor, front, _, hchild, by rw [String.toList_ofList, List.getLast?_concat]⟩

theorem anchorOf_eq_here {s : String} (h : s.toList.head? ≠ some '/') : anchorOf s = .here := by
  have hnone : s.toList.takeWhile (· == '/') = [] := by
    cases hs : s.toList with
    | nil => rfl
    | cons c cs =>
      have hc : (c == '/') = false := by simpa [hs] using h
      rw [List.takeWhile_cons, hc]
      rfl
  simp [anchorOf, hnone]

/-- A text without a slash that is no name of a folder itself is one more name. -/
theorem child_of_name (p : Path) {s : String} (h : '/' ∉ s.toList) (hempty : s ≠ "")
    (hpoint : s ≠ ".") : p.child s = ⟨p.anchor, p.names ++ [s]⟩ := by
  have hnames : namesOf s = [s] := by
    rw [namesOf, Text.pieces, List.splitOn_eq_singleton h, List.map_singleton, String.ofList_toList]
    simp [hempty, hpoint]
  have hanchor : anchorOf s = .here := by
    refine anchorOf_eq_here fun hslash => h ?_
    exact List.mem_of_mem_head? hslash
  simp [child, join, ofText, hnames, hanchor]

/-- A path whose names are names: none of them has a slash in it, is empty or is a point. -/
def Plain (p : Path) : Prop := ∀ name ∈ p.names, '/' ∉ name.toList ∧ name ≠ "" ∧ name ≠ "."

theorem mem_namesOf {s name : String} (h : name ∈ namesOf s) :
    '/' ∉ name.toList ∧ name ≠ "" ∧ name ≠ "." := by
  obtain ⟨hpiece, hname⟩ := List.mem_filter.mp h
  obtain ⟨cs, hcs, rfl⟩ := List.mem_map.mp hpiece
  simp only [Bool.and_eq_true, Bool.not_eq_true', bne_iff_ne] at hname
  refine ⟨?_, ?_, hname.2⟩
  · rw [String.toList_ofList]
    exact Text.not_mem_of_mem_splitOn hcs
  · simpa using hname.1

/-- A path that is read from a text is plain. -/
theorem plain_ofText (s : String) : (ofText s).Plain := fun _ h => mem_namesOf h

/-- Between the slashes in the text of a path stand its names, behind what tells where it starts. -/
theorem splitOn_text {p : Path} (h : p.Plain) :
    ∃ lead, (∀ piece ∈ lead, piece = [] ∨ piece = ['.']) ∧
      p.text.toList.splitOn '/' = lead ++ p.names.map String.toList := by
  obtain ⟨anchor, names⟩ := p
  cases names with
  | nil =>
    cases anchor with
    | here => exact ⟨[['.']], by simp, by decide⟩
    | root => exact ⟨[[], []], by simp, by decide⟩
    | doubleRoot => exact ⟨[[], [], []], by simp, by decide⟩
  | cons name rest =>
    have hslash : ∀ cs ∈ (name :: rest).map String.toList, '/' ∉ cs := by
      intro cs hcs
      obtain ⟨name, hname, rfl⟩ := List.mem_map.mp hcs
      exact (h name hname).1
    have hnames := List.splitOn_intercalate '/' hslash (by simp)
    have htext : (Path.text ⟨anchor, name :: rest⟩).toList =
        anchor.text.toList ++ ['/'].intercalate ((name :: rest).map String.toList) := by
      simp [text, String.toList_intercalate]
    generalize ['/'].intercalate ((name :: rest).map String.toList) = cs at hnames htext
    rw [htext, ← hnames]
    cases anchor with
    | here => exact ⟨[], by simp, rfl⟩
    | root => exact ⟨[[]], by simp, List.splitOn_append_cons_self [] cs⟩
    | doubleRoot => exact ⟨[[], []], by simp, List.splitOn_append_cons_self ['/'] cs⟩

/-- The names of a path from the current folder are read back from its text. -/
theorem ofText_text {names : List String} (hne : names ≠ []) (h : Plain ⟨.here, names⟩) :
    ofText (text ⟨.here, names⟩) = ⟨.here, names⟩ := by
  have hnames : namesOf (text ⟨.here, names⟩) = names := by
    obtain ⟨lead, hlead, hsplit⟩ := splitOn_text h
    have hnone : ((lead.map String.ofList).filter fun name => !name.isEmpty && name != ".") = [] := by
      rw [List.filter_eq_nil_iff]
      intro name hname
      obtain ⟨piece, hpiece, rfl⟩ := List.mem_map.mp hname
      rcases hlead piece hpiece with rfl | rfl <;> decide
    have hall : (names.filter fun name => !name.isEmpty && name != ".") = names := by
      rw [List.filter_eq_self]
      intro name hname
      simp [(h name hname).2]
    rw [namesOf, Text.pieces, hsplit, List.map_append, List.filter_append, hnone, List.nil_append,
      List.map_map, show String.ofList ∘ String.toList = id from funext fun s => s.ofList_toList,
      List.map_id, hall]
  have hanchor : anchorOf (text ⟨.here, names⟩) = .here := by
    obtain ⟨name, rest, rfl⟩ := List.exists_cons_of_ne_nil hne
    obtain ⟨hslash, hempty, _⟩ := h name List.mem_cons_self
    obtain ⟨c, cs, hname⟩ := List.exists_cons_of_ne_nil (by simpa using hempty : name.toList ≠ [])
    refine anchorOf_eq_here ?_
    rw [hname] at hslash
    simp only [List.mem_cons, not_or] at hslash
    simp [text, Anchor.text, String.toList_intercalate, Text.intercalate_cons_eq, hname,
      Ne.symm hslash.1]
  rw [ofText, hnames, hanchor]

end Path

namespace GeneratedClass

theorem getLast?_fileName (c : GeneratedClass) : c.fileName.toList.getLast? = some 's' := by
  simp [fileName]

theorem getLast?_metaFileName (c : GeneratedClass) : c.metaFileName.toList.getLast? = some 'l' := by
  simp [metaFileName]

end GeneratedClass

/-- A path leads to a location that ends with its last name. -/
theorem Tree.locate_child {t : Tree} {p : Path} {s : String} {c : Char} {l : Location}
    (h : t.locate (p.child s) = .ok l) (hend : s.toList.getLast? = some c) (hslash : c ≠ '/')
    (hpoint : c ≠ '.') : ∃ k last, l = k ++ [last] ∧ last.toList.getLast? = some c := by
  obtain ⟨anchor, front, last, hchild, hlast⟩ := p.child_concat hend hslash hpoint
  have hdots : last ≠ ".." := by
    rintro rfl
    simp at hlast
    exact hpoint hlast.symm
  rw [hchild] at h
  obtain ⟨k, _, rfl⟩ := locate_concat h hdots
  exact ⟨k, last, rfl, hlast⟩

/-- No class is where the description of a class is. -/
theorem Tree.locate_fileName_ne {t : Tree} {folder : Path} {c d : GeneratedClass} {l : Location}
    (h : t.locate (folder.child c.fileName) = .ok l) :
    t.locate (folder.child d.metaFileName) ≠ .ok l := by
  intro hmeta
  obtain ⟨k, last, rfl, hlast⟩ := locate_child h c.getLast?_fileName (by decide) (by decide)
  obtain ⟨k', last', heq, hlast'⟩ :=
    locate_child hmeta d.getLast?_metaFileName (by decide) (by decide)
  have hsame := (List.append_inj' heq rfl).2
  rw [List.singleton_inj.mp hsame, hlast'] at hlast
  cases hlast

/-- In one folder, files whose names have no slash are in one place only if they have one name. -/
theorem Tree.fileName_eq_of_locate {t : Tree} {folder : Path} {c d : GeneratedClass} {l : Location}
    (hc : t.locate (folder.child c.fileName) = .ok l)
    (hd : t.locate (folder.child d.fileName) = .ok l)
    (hcs : '/' ∉ c.fileName.toList) (hds : '/' ∉ d.fileName.toList) : c.fileName = d.fileName := by
  have hends : ∀ e : GeneratedClass, t.locate (folder.child e.fileName) = .ok l →
      '/' ∉ e.fileName.toList → ∃ k, l = k ++ [e.fileName] := by
    intro e he hes
    have hlast := e.getLast?_fileName
    have hne : e.fileName ≠ "" ∧ e.fileName ≠ "." ∧ e.fileName ≠ ".." := by
      refine ⟨?_, ?_, ?_⟩ <;> intro heq <;> rw [heq] at hlast <;> revert hlast <;> decide
    rw [folder.child_of_name hes hne.1 hne.2.1] at he
    obtain ⟨k, _, heq⟩ := locate_concat he hne.2.2
    exact ⟨k, heq⟩
  obtain ⟨k, hk⟩ := hends c hc hcs
  obtain ⟨k', hk'⟩ := hends d hd hds
  exact (List.append_singleton_inj.mp (hk.symm.trans hk')).2

/-- The description of a class never takes the place of a class, only a later class does. -/
theorem Tree.WroteAll.read_class {t t' : Tree} {folder : Path} {earlier later : List GeneratedClass}
    {c : GeneratedClass}
    (h : WroteAll t ((earlier ++ c :: later).flatMap (·.files folder)) t')
    (hlater : ∀ d ∈ later,
      t'.locate (folder.child d.fileName) ≠ t'.locate (folder.child c.fileName)) :
    t'.read (folder.child c.fileName) = .ok c.body.toUTF8 := by
  have hsplit : (earlier ++ c :: later).flatMap (·.files folder) =
      earlier.flatMap (·.files folder) ++ (folder.child c.fileName, c.body) ::
        ((folder.child c.metaFileName, c.stamp) :: later.flatMap (·.files folder)) := by
    rw [List.flatMap_append, List.flatMap_cons]
    rfl
  rw [hsplit] at h
  obtain ⟨l, hl⟩ := h.located (folder.child c.fileName, c.body) (by simp)
  dsimp only at hl
  have hdescription : ∀ d : GeneratedClass,
      t'.locate (folder.child d.metaFileName) ≠ t'.locate (folder.child c.fileName) := by
    intro d
    rw [hl]
    exact locate_fileName_ne hl
  refine h.read_last ?_
  intro f hf
  rcases List.mem_cons.mp hf with rfl | hf
  · dsimp only
    exact hdescription c
  · obtain ⟨d, hd, hfile⟩ := List.mem_flatMap.mp hf
    simp only [GeneratedClass.files, List.mem_cons, List.not_mem_nil, or_false] at hfile
    rcases hfile with rfl | rfl <;> dsimp only
    · exact hlater d hd
    · exact hdescription d

end ApexConstants
