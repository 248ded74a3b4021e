import ApexConstants.Proofs.ReadableClasses

namespace ApexConstants.Apex
open Text

def propertyStarts : List String := ["    public static RecordTypeInfo ", "    public static Id "]

/-- The name of the property that a line declares, if it declares one. -/
def declaredProperty? (line : String) : Option String :=
  (propertyStarts.findSome? fun start => List.isPrefixOf? start.toList line.toList).map
    fun rest => String.ofList (rest.takeWhile isWordChar)

/-- The names of the properties that a class declares, in their order. -/
def declaredProperties (body : String) : List String := (lines body).filterMap declaredProperty?

namespace Accessors

def names (a : Accessors) : List String := [a.infoName, a.idName]

structure InLine (a : Accessors) : Prop where
  infoName : '\n' ∉ a.infoName.toList
  idName : '\n' ∉ a.idName.toList
  objectName : '\n' ∉ a.objectName.toList
  developerName : '\n' ∉ a.developerName.toList

structure Written (a : Accessors) : Prop where
  infoName : ∀ c ∈ a.infoName.toList, isWordChar c = true
  idName : ∀ c ∈ a.idName.toList, isWordChar c = true
  objectName : '\n' ∉ a.objectName.toList
  developerName : '\n' ∉ a.developerName.toList

theorem newline_not_mem_word {s : String} (h : ∀ c ∈ s.toList, isWordChar c = true) :
    '\n' ∉ s.toList := fun hm => absurd (h '\n' hm) (by decide)

theorem Written.inLine {a : Accessors} (h : a.Written) : a.InLine :=
  ⟨newline_not_mem_word h.infoName, newline_not_mem_word h.idName, h.objectName, h.developerName⟩

theorem InLine.newline_not_mem {a : Accessors} (h : a.InLine) :
    ∀ line ∈ a.lines, '\n' ∉ line.toList := by
  simp [Accessors.lines, h.infoName, h.idName, h.objectName, h.developerName]

theorem endsInk_append {t : String} (h : EndsInk t.toList) (s : String) :
    EndsInk (s ++ t).toList := by
  rw [String.toList_append]
  exact h.append _

theorem endsInk_lines (a : Accessors) : ∀ line ∈ a.lines, EndsInk line.toList := by
  simp only [Accessors.lines, List.forall_mem_cons, List.not_mem_nil, false_implies, implies_true,
    and_true]
  exact ⟨endsInk_append (by decide) _, endsInk_append (by decide) _, endsInk_append (by decide) _,
    by decide, by decide, endsInk_append (by decide) _, endsInk_append (by decide) _,
    by decide, by decide⟩

end Accessors

/-- A line that starts neither like a property's nor like a part of that declares nothing. -/
theorem declaredProperty?_eq_none {start : String}
    (h : ∀ s ∈ propertyStarts, ¬ s.toList <+: start.toList ∧ ¬ start.toList <+: s.toList)
    (rest : String) : declaredProperty? (start ++ rest) = none := by
  rw [declaredProperty?, Option.map_eq_none_iff, List.findSome?_eq_none_iff]
  intro s hs
  cases hrest : List.isPrefixOf? s.toList (start ++ rest).toList with
  | none => rfl
  | some after =>
    have hprefix : s.toList <+: start.toList ++ rest.toList :=
      ⟨after, by rw [List.isPrefixOf?_eq_some_iff_append_eq.mp hrest, String.toList_append]⟩
    rcases List.prefix_or_prefix_of_prefix hprefix (List.prefix_append _ _) with hp | hp
    · exact absurd hp (h s hs).1
    · exact absurd hp (h s hs).2

theorem takeWhile_name {name : String} (h : ∀ c ∈ name.toList, isWordChar c = true) :
    String.ofList ((name ++ " \x7b").toList.takeWhile isWordChar) = name := by
  have hspace : isWordChar ' ' = false := rfl
  rw [String.toList_append, List.takeWhile_append_of_pos h]
  simp [hspace]

theorem declaredProperty?_info {name : String} (h : ∀ c ∈ name.toList, isWordChar c = true) :
    declaredProperty? ("    public static RecordTypeInfo " ++ (name ++ " \x7b")) = some name := by
  rw [declaredProperty?, propertyStarts, List.findSome?_cons, String.toList_append,
    isPrefixOf?_append]
  exact congrArg some (takeWhile_name h)

theorem declaredProperty?_id {name : String} (h : ∀ c ∈ name.toList, isWordChar c = true) :
    declaredProperty? ("    public static Id " ++ (name ++ " \x7b")) = some name := by
  have hinfo : List.isPrefixOf? "    public static RecordTypeInfo ".toList
      ("    public static Id ".toList ++ (name ++ " \x7b").toList) = none := rfl
  rw [declaredProperty?, propertyStarts, List.findSome?_cons, String.toList_append, hinfo,
    List.findSome?_cons, isPrefixOf?_append]
  exact congrArg some (takeWhile_name h)

/-- The lines of a record type declare its two properties. -/
theorem Accessors.Written.declared {a : Accessors} (h : a.Written) :
    a.lines.filterMap declaredProperty? = a.names := by
  have hget : ∀ rest, declaredProperty? ("        get \x7b return " ++ rest) = none :=
    declaredProperty?_eq_none (by decide)
  have hquestion : ∀ rest, declaredProperty? ("                ? " ++ rest) = none :=
    declaredProperty?_eq_none (by decide)
  have hset : declaredProperty? "        private set;" = none := by decide
  have hend : declaredProperty? "    \x7d" = none := by decide
  simp only [Accessors.lines, String.append_assoc, List.filterMap_cons, List.filterMap_nil, hget,
    hquestion, hset, hend, declaredProperty?_info h.infoName, declaredProperty?_id h.idName]
  rfl

theorem lines_of_line {line : String} (h : '\n' ∉ line.toList) : lines line = [line] := by
  rw [lines, pieces, List.splitOn_eq_singleton h, List.map_singleton, String.ofList_toList]

theorem lines_endLines (ls : List String) : lines (endLines ls) = ls.flatMap lines ++ [""] := by
  induction ls with
  | nil => rfl
  | cons line rest ih =>
    have htext : (endLines (line :: rest)).toList = line.toList ++ '\n' :: (endLines rest).toList := by
      simp [endLines_cons]
    rw [lines, pieces] at ih
    rw [lines, pieces, htext, List.splitOn_append_cons_self, List.map_append, ih,
      List.flatMap_cons, List.append_assoc]
    rfl

def propertyLines (accessors : List Accessors) : List String := accessors.flatMap Accessors.lines

theorem intercalate_blocks_ne_nil {block : List String} (h : block ≠ []) (rest : List (List String)) :
    [""].intercalate (block :: rest) ≠ [] := by
  cases rest with
  | nil => simpa using h
  | cons next rest => simp [List.intercalate_cons_cons]

/-- Blocks of lines that tidying keeps, with an empty line between any two. -/
theorem tidies_blocks {blocks : List (List String)} (hne : blocks ≠ [])
    (h : ∀ block ∈ blocks, block ≠ [] ∧ ∀ line ∈ block, TidiesText line line) :
    Tidies (['\n'].intercalate (([""].intercalate blocks).map String.toList))
      (['\n'].intercalate (([""].intercalate blocks).map String.toList)) := by
  have hblock : ∀ block ∈ blocks, Tidies (['\n'].intercalate (block.map String.toList))
      (['\n'].intercalate (block.map String.toList)) := by
    intro block hmem
    apply Tidies.joined
    · rw [List.forall₂_map_left_iff, List.forall₂_map_right_iff]
      exact List.forall₂_same.mpr (h block hmem).2
    · simpa using (h block hmem).1
  induction blocks with
  | nil => exact absurd rfl hne
  | cons block rest ih =>
    cases rest with
    | nil => simpa using hblock block List.mem_cons_self
    | cons next rest =>
      have hfirst := (h block List.mem_cons_self).1
      have hnext := (h next (List.mem_cons_of_mem _ List.mem_cons_self)).1
      have hrest := ih (by simp) (fun b hb => h b (List.mem_cons_of_mem _ hb))
        (fun b hb => hblock b (List.mem_cons_of_mem _ hb))
      have hempty : "".toList = [] := rfl
      rw [List.intercalate_cons_cons]
      simp only [List.map_append, List.map_cons, hempty, List.append_assoc,
        List.singleton_append]
      rw [intercalate_gap (by simpa using hfirst)
        (by simpa using intercalate_blocks_ne_nil hnext rest)]
      exact (hblock block List.mem_cons_self).gap hrest

/-- Tidying finds nothing to do in such a text. -/
theorem tidy_blocks {blocks : List (List String)} (hne : blocks ≠ [])
    (h : ∀ block ∈ blocks, block ≠ [] ∧ ∀ line ∈ block, TidiesText line line) :
    tidy (endLines ([""].intercalate blocks)) = endLines ([""].intercalate blocks) := by
  have hlines : [""].intercalate blocks ≠ [] := by
    cases blocks with
    | nil => exact absurd rfl hne
    | cons block rest => exact intercalate_blocks_ne_nil (h block List.mem_cons_self).1 rest
  rw [(tidies_blocks hne h).tidy_ended (toList_endLines hlines)]
  apply String.toList_inj.mp
  rw [String.toList_ofList, toList_endLines hlines]

theorem propertyLines_kept {accessors : List Accessors} (h : ∀ a ∈ accessors, a.InLine) :
    ∀ line ∈ propertyLines accessors, TidiesText line line := by
  intro line hline
  obtain ⟨a, ha, hline⟩ := List.mem_flatMap.mp hline
  exact .line_kept ((h a ha).newline_not_mem line hline) (a.endsInk_lines line hline)

/-- The empty line of the class of record types parts it into two blocks. -/
theorem tidy_recordTypesSource {className : String} {accessors : List Accessors}
    (hname : '\n' ∉ className.toList) (h : ∀ a ∈ accessors, a.InLine) :
    tidy (recordTypesSource className accessors) = recordTypesSource className accessors := by
  have hblocks : recordTypesSource className accessors = endLines ([""].intercalate
      [[notice, classLine className], propertyLines accessors ++ ["\x7d"]]) := by
    simp [recordTypesSource, propertyLines, List.intercalate_cons_cons]
  have hend : TidiesText "\x7d" "\x7d" := .line_kept (by decide) (by decide)
  rw [hblocks]
  apply tidy_blocks (by simp)
  simp only [List.forall_mem_cons, List.forall_mem_append, List.not_mem_nil, false_implies,
    implies_true, and_true]
  exact ⟨⟨by simp, tidies_notice, tidies_classLine hname⟩, by simp, propertyLines_kept h, hend⟩

theorem lines_propertyLines {accessors : List Accessors} (h : ∀ a ∈ accessors, a.InLine) :
    (propertyLines accessors).flatMap lines = propertyLines accessors := by
  have hline : ∀ line ∈ propertyLines accessors, lines line = [line] := by
    intro line hline
    obtain ⟨a, ha, hline⟩ := List.mem_flatMap.mp hline
    exact lines_of_line ((h a ha).newline_not_mem line hline)
  rw [List.flatMap_congr hline, List.flatMap_singleton']

theorem declared_propertyLines {accessors : List Accessors} (h : ∀ a ∈ accessors, a.Written) :
    (propertyLines accessors).filterMap declaredProperty? = accessors.flatMap Accessors.names := by
  rw [propertyLines, List.filterMap_flatMap]
  exact List.flatMap_congr fun a ha => (h a ha).declared

/-- The class of record types declares the two properties of each, in their order, and nothing
else. -/
theorem declaredProperties_recordTypesSource {className : String} {accessors : List Accessors}
    (hname : '\n' ∉ className.toList) (h : ∀ a ∈ accessors, a.Written) :
    declaredProperties (tidy (recordTypesSource className accessors)) =
      accessors.flatMap Accessors.names := by
  have hclass : lines (classLine className) = [classLine className] := by
    apply lines_of_line
    unfold classLine
    simp [hname]
  have hnotice : (lines notice).filterMap declaredProperty? = [] := by decide +kernel
  have hline : declaredProperty? (classLine className) = none := by
    unfold classLine
    simp only [String.append_assoc]
    exact declaredProperty?_eq_none (by decide) _
  have hend : (lines "\x7d").filterMap declaredProperty? = [] := by decide
  have hempty : (lines "").filterMap declaredProperty? = [] := by decide
  have hlast : declaredProperty? "" = none := by decide
  have hinLine : ∀ a ∈ accessors, a.InLine := fun a ha => (h a ha).inLine
  rw [tidy_recordTypesSource hname hinLine, declaredProperties, recordTypesSource, lines_endLines]
  simp only [List.cons_append, List.nil_append, List.flatMap_cons, List.flatMap_append,
    List.flatMap_nil, List.append_nil, List.filterMap_append, hnotice, hclass, hempty, hend,
    List.filterMap_cons, List.filterMap_nil, hline, hlast]
  rw [← declared_propertyLines h, ← lines_propertyLines hinLine]
  rfl

end ApexConstants.Apex
