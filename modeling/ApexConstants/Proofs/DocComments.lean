import ApexConstants.Proofs.ClassClashes
import ApexConstants.Proofs.LiteralLines
import ApexConstants.Proofs.PathNames
import Mathlib.Algebra.GroupWithZero.Nat

namespace ApexConstants
open Apex Text

/-- At how many places the characters would close a comment. -/
def closings : List Char → Nat
  | [] => 0
  | c :: cs => (if c = '*' ∧ cs.head? = some '/' then 1 else 0) + closings cs

def behindClosing : List Char → Option (List Char)
  | [] => none
  | c :: cs => if c = '*' ∧ cs.head? = some '/' then some cs.tail else behindClosing cs

/-- The text would close a comment that it stands in. -/
def ClosesComment (s : String) : Prop := "*/".toList <:+: s.toList

instance (s : String) : Decidable (ClosesComment s) :=
  inferInstanceAs (Decidable ("*/".toList <:+: s.toList))

theorem closings_append {ds : List Char} (h : ds.head? ≠ some '/') (cs : List Char) :
    closings (cs ++ ds) = closings cs + closings ds := by
  induction cs with
  | nil => simp [closings]
  | cons c cs ih =>
    have hhead : (cs ++ ds).head? = some '/' ↔ cs.head? = some '/' := by
      cases cs with
      | nil => simpa using h
      | cons d cs => rfl
    rw [List.cons_append, closings, closings, ih]
    simp only [hhead, Nat.add_assoc]

theorem closings_of_noSlash {cs : List Char} (h : '/' ∉ cs) : closings cs = 0 := by
  induction cs with
  | nil => rfl
  | cons c cs ih =>
    have hhead : cs.head? ≠ some '/' := fun hs =>
      h (List.mem_cons_of_mem c (List.mem_of_head? hs))
    rw [closings, if_neg fun hc => hhead hc.2, ih fun hm => h (List.mem_cons_of_mem c hm)]

theorem closings_eq_zero_iff {s : String} : closings s.toList = 0 ↔ ¬ ClosesComment s := by
  rw [ClosesComment]
  induction s.toList with
  | nil => simp [closings]
  | cons c cs ih =>
    have hprefix : "*/".toList <+: c :: cs ↔ c = '*' ∧ cs.head? = some '/' := by
      cases cs with
      | nil => simp
      | cons d cs => simp [eq_comm]
    rw [closings, List.infix_cons_iff, not_or, ← ih, hprefix]
    split
    · rename_i hcloses
      simp [hcloses]
    · rename_i hgoes
      simp [hgoes]

/-- Nothing is left behind a closing at the end when it is the first. -/
theorem behindClosing_eq_nil_iff (cs : List Char) :
    behindClosing (cs ++ "*/".toList) = some [] ↔ closings cs = 0 := by
  induction cs with
  | nil => simp [behindClosing, closings]
  | cons c cs ih =>
    have hhead : (cs ++ "*/".toList).head? = some '/' ↔ cs.head? = some '/' := by
      cases cs with
      | nil => simp
      | cons d cs => rfl
    rw [List.cons_append, behindClosing, closings]
    simp only [hhead]
    split
    · cases cs <;> simp
    · rw [ih, Nat.zero_add]

theorem closings_closed (cs : List Char) : closings (cs ++ "*/".toList) = closings cs + 1 :=
  closings_append (by decide) cs

theorem closings_trimEnd (cs : List Char) : closings (trimEnd cs) = closings cs := by
  induction cs using List.reverseRecOn with
  | nil => rfl
  | append_singleton cs c ih =>
    cases hblank : isBlank c with
    | false =>
      have hink : EndsInk (cs ++ [c]) := ⟨cs, c, rfl, hblank⟩
      rw [hink.trimEnd_eq]
    | true =>
      have hslash : c ≠ '/' := by
        rintro rfl
        exact absurd hblank (by decide)
      have hone : closings [c] = 0 := closings_of_noSlash (by simpa using hslash.symm)
      rw [trimEnd_concat_blank hblank, ih, closings_append (by simpa using hslash), hone,
        Nat.add_zero]

theorem closings_lines (ls : List (List Char)) :
    closings (['\n'].intercalate ls) = (ls.map closings).sum := by
  induction ls with
  | nil => rfl
  | cons line rest ih =>
    cases rest with
    | nil => simp
    | cons next rest =>
      have hfeed : closings ('\n' :: ['\n'].intercalate (next :: rest)) =
          closings (['\n'].intercalate (next :: rest)) := by simp [closings]
      rw [List.intercalate_cons_cons, List.append_assoc, List.singleton_append,
        closings_append (by simp), hfeed, ih]
      simp only [List.map_cons, List.sum_cons]

theorem closings_docLine (line : String) : closings (docLine line).toList = closings line.toList := by
  unfold docLine
  split
  · rename_i hblank
    have hslash : '/' ∉ line.toList := fun hm =>
      absurd (List.all_eq_true.mp hblank '/' hm) (by decide)
    rw [closings_of_noSlash hslash]
    decide
  · have hfront : (" * " ++ line).toList = ' ' :: '*' :: ' ' :: line.toList := by
      rw [String.toList_append]
      rfl
    rw [String.toList_ofList, closings_trimEnd, hfront]
    -- The blank keeps the asterisk of the line away from a slash that the line begins with.
    simp [closings]

def classMark : String := "public inherited sharing class"

/-- The text of a class between the opening of its doc comment and the line of the class. -/
def docBlock (body : String) : String :=
  unlines <| (((lines body).dropWhile (· != "/**")).drop 1).takeWhile fun line =>
    !classMark.toList.isPrefixOf line.toList

theorem docBlock_of_lines {body : String} {front doc rest : List String} {opening : String}
    (h : lines body = front ++ "/**" :: (doc ++ opening :: rest)) (hfront : "/**" ∉ front)
    (hdoc : ∀ line ∈ doc, ¬ classMark.toList <+: line.toList)
    (hopening : classMark.toList <+: opening.toList) : docBlock body = unlines doc := by
  have hbefore : ∀ line ∈ front, (line != "/**") = true := by
    intro line hline
    simpa using fun heq : line = "/**" => hfront (heq ▸ hline)
  have hinside : ∀ line ∈ doc, (!classMark.toList.isPrefixOf line.toList) = true := by
    intro line hline
    rw [Bool.not_eq_true', ← Bool.not_eq_true, List.isPrefixOf_iff_prefix]
    exact hdoc line hline
  have hend : (!classMark.toList.isPrefixOf opening.toList) = false := by simpa using hopening
  rw [docBlock, h, List.dropWhile_append_of_pos hbefore, List.dropWhile_cons_of_neg (by simp),
    List.drop_one, List.tail_cons, List.takeWhile_append_of_pos hinside,
    List.takeWhile_cons_of_neg (by simp [hend]), List.append_nil]

/-- Behind a tidied text the line that a mark begins is still begun by it. -/
theorem Apex.Tidies.next_marked {cs cs' mark : List Char} (h : Tidies cs cs') (hmark : EndsInk mark)
    (hline : '\n' ∉ mark) {code : String} {more : List Char}
    (hcode : code.toList = cs ++ '\n' :: (mark ++ more)) :
    ∃ more', (tidy code).toList = cs' ++ '\n' :: (mark ++ more') := by
  obtain ⟨xs, hx, rfl, hxs⟩ := h
  obtain ⟨first, rest, hmore⟩ := List.exists_cons_of_ne_nil (List.splitOn_ne_nil '\n' more)
  have hkept : tidyLines 0 ((mark ++ first) :: rest) =
      ((trimEnd first) :: tidyLines 0 rest).modifyHead (mark ++ ·) := by
    simp [tidyLines, hmark.trimEnd_append, hmark.ne_nil]
  refine ⟨['\n'].intercalate (trimEnd first :: tidyLines 0 rest), ?_⟩
  rw [tidy, String.toList_ofList, hcode, List.splitOn_append_cons_self, splitOn_append_left hline,
    hmore, List.modifyHead_cons, hxs, hkept, intercalate_append hx (by simp),
    intercalate_modifyHead (by simp)]

theorem toList_docLine (line : String) : ∃ rest, (docLine line).toList = ' ' :: '*' :: rest ∧
    ('\n' ∉ line.toList → '\n' ∉ rest) := by
  unfold docLine
  split
  · exact ⟨[], rfl, fun _ => List.not_mem_nil⟩
  · have hmark : EndsInk " *".toList := by decide
    have htext : (" * " ++ line).toList = " *".toList ++ (' ' :: line.toList) := by
      rw [String.toList_append]
      rfl
    refine ⟨trimEnd (' ' :: line.toList), ?_, fun hline hm => ?_⟩
    · rw [String.toList_ofList, htext, hmark.trimEnd_append]
      rfl
    · have hwhole := (List.rdropWhile_prefix isBlank (' ' :: line.toList)).subset hm
      simp [hline] at hwhole

def docLines (inner : List String) : List String := "/**" :: (inner ++ [" */"])

def frontChars (inner : List String) : List Char :=
  notice.toList ++ '\n' :: '\n' :: ['\n'].intercalate ((docLines inner).map String.toList)

theorem tidies_frontChars (header : String) :
    Tidies (frontChars ((lines header).map (commentLine " *")))
      (frontChars ((lines header).map docLine)) := by
  have hopen : Tidies "/**".toList "/**".toList := .line_kept (by decide) (by decide)
  have hclose : Tidies " */".toList " */".toList := .line_kept (by decide) (by decide)
  refine .gap tidies_notice (.joined ?_ (by simp [docLines]))
  rw [docLines, docLines, List.map_cons, List.map_cons, List.map_append, List.map_append]
  refine .cons hopen (List.rel_append ?_ (.cons hclose .nil))
  simp only [List.map_map, List.forall₂_map_left_iff, List.forall₂_map_right_iff]
  exact List.forall₂_same.mpr fun line hline => tidies_commentLine (newline_not_mem_lines hline)

theorem toList_valueSetSource (header className : String) (constants : List Constant) :
    ∃ more, (valueSetSource header className constants).toList =
      frontChars ((lines header).map (commentLine " *")) ++ '\n' :: (classMark.toList ++ more) := by
  have hsplit : classLines ((lines header).map (commentLine " *")) className
      (constants.map Constant.line) =
      ([notice] ++ "" :: docLines ((lines header).map (commentLine " *"))) ++
        classLine className :: "" :: (constants.map Constant.line ++ ["\x7d"]) := by
    simp [classLines, docLines]
  have hempty : "".toList = [] := rfl
  have hfeed : "\n".toList = ['\n'] := rfl
  obtain ⟨name, hname⟩ : classMark.toList <+: (classLine className).toList := by
    have hmark : classMark.toList <+: "public inherited sharing class ".toList := by decide
    unfold classLine
    rw [String.toList_append, String.toList_append, List.append_assoc]
    exact hmark.trans (List.prefix_append _ _)
  refine ⟨name ++ '\n' :: (endLines ("" :: (constants.map Constant.line ++ ["\x7d"]))).toList, ?_⟩
  rw [valueSetSource_eq, hsplit, endLines_append, endLines_cons, String.toList_append,
    toList_endLines (by simp), String.toList_append, String.toList_append, hfeed, ← hname]
  simp only [List.map_append, List.map_cons, List.map_nil, hempty]
  rw [intercalate_gap (by simp) (by simp [docLines])]
  simp [frontChars]

theorem splitOn_frontChars {inner : List String} (h : ∀ line ∈ inner, '\n' ∉ line.toList) :
    (frontChars inner).splitOn '\n' =
      notice.toList.splitOn '\n' ++ [] :: (docLines inner).map String.toList := by
  have hlines : ∀ line ∈ (docLines inner).map String.toList, '\n' ∉ line := by
    rw [List.forall_mem_map, docLines, List.forall_mem_cons, List.forall_mem_append,
      List.forall_mem_singleton]
    exact ⟨by decide, h, by decide⟩
  have hgap : ∀ cs : List Char, ('\n' :: cs).splitOn '\n' = [] :: cs.splitOn '\n' :=
    List.splitOn_append_cons_self []
  rw [frontChars, List.splitOn_append_cons_self, hgap,
    List.splitOn_intercalate '\n' hlines (by simp [docLines])]

/-- The doc comment of a class is its header line by line, and then the line that closes it. -/
theorem docBlock_tidy (header className : String) (constants : List Constant) :
    docBlock (tidy (valueSetSource header className constants)) =
      unlines ((lines header).map docLine ++ [" */"]) := by
  have hmark : EndsInk classMark.toList := by decide
  obtain ⟨more, hsource⟩ := toList_valueSetSource header className constants
  obtain ⟨more', htidy⟩ := (tidies_frontChars header).next_marked hmark (by decide) hsource
  obtain ⟨first, rest, hmore⟩ := List.exists_cons_of_ne_nil (List.splitOn_ne_nil '\n' more')
  have hdocLine : ∀ line ∈ (lines header).map docLine, '\n' ∉ line.toList ∧
      ¬ classMark.toList <+: line.toList := by
    rw [List.forall_mem_map]
    intro line hline
    obtain ⟨text, htext, hfree⟩ := toList_docLine line
    rw [htext]
    refine ⟨by simpa using hfree (newline_not_mem_lines hline), fun hprefix => ?_⟩
    obtain ⟨_, heq⟩ := hprefix
    exact absurd (List.cons.inj heq).1 (by decide)
  have hlines : lines (tidy (valueSetSource header className constants)) =
      (lines notice ++ [""]) ++ "/**" :: (((lines header).map docLine ++ [" */"]) ++
        String.ofList (classMark.toList ++ first) :: rest.map String.ofList) := by
    have hline : '\n' ∉ classMark.toList := by decide
    rw [lines, pieces, htidy, List.splitOn_append_cons_self, splitOn_append_left hline, hmore,
      splitOn_frontChars fun line hline => (hdocLine line hline).1]
    simp [docLines, lines, pieces]
  refine docBlock_of_lines hlines (by decide +kernel) ?_ ?_
  · intro line hline
    rcases List.mem_append.mp hline with hline | hline
    · exact (hdocLine line hline).2
    · rw [List.mem_singleton.mp hline]
      decide
  · rw [String.toList_ofList]
    exact List.prefix_append _ _

/-- The name of a set in its metadata, which is that of the field for the set of a field. -/
def ValueSet.ownName (v : ValueSet) : String := v.member.getD v.owner

theorem closings_qualifiedName {v : ValueSet} (h : v.member.isSome → '/' ∉ v.owner.toList) :
    closings v.qualifiedName.toList = closings v.ownName.toList := by
  unfold ValueSet.qualifiedName ValueSet.ownName
  cases hmember : v.member with
  | none => rfl
  | some member =>
    have howner : closings v.owner.toList = 0 := closings_of_noSlash (h (by simp [hmember]))
    dsimp only [Option.getD_some]
    split
    · rename_i hempty
      rw [howner, String.isEmpty_iff.mp hempty]
      rfl
    · have hpoint : ".".toList = ['.'] := rfl
      rw [String.toList_append, String.toList_append, hpoint, List.append_assoc,
        closings_append (by simp), howner]
      simp [closings]

theorem closings_headerComment (v : ValueSet) :
    closings v.headerComment.toList = closings v.qualifiedName.toList := by
  have hrest : ∀ kind : ValueSetKind,
      '/' ∉ (" " ++ kind.description ++ ".").toList ∧
        (" " ++ kind.description ++ ".").toList.head? ≠ some '/' := by
    intro kind
    cases kind <;> decide
  have htext : v.headerComment = v.qualifiedName ++ (" " ++ v.kind.description ++ ".") := by
    simp [ValueSet.headerComment, String.append_assoc]
  rw [htext, String.toList_append, closings_append (hrest v.kind).2,
    closings_of_noSlash (hrest v.kind).1, Nat.add_zero]

/-- A doc comment is closed at its end, and before that wherever its header would close it. -/
theorem closings_docText (header : String) :
    ∃ front, (unlines ((lines header).map docLine ++ [" */"])).toList = front ++ "*/".toList ∧
      closings front = closings header.toList := by
  have hfeed : "\n".toList = ['\n'] := rfl
  have hclose : " */".toList = ' ' :: "*/".toList := rfl
  have hheader : closings header.toList =
      ((lines header).map fun line => closings line.toList).sum := by
    have hjoined : ['\n'].intercalate (header.toList.splitOn '\n') = header.toList :=
      List.intercalate_splitOn _
    rw [← hjoined, closings_lines, lines, pieces, List.map_map]
    simp [Function.comp_def]
  refine ⟨['\n'].intercalate (((lines header).map docLine).map String.toList ++ [[' ']]), ?_, ?_⟩
  · rw [unlines, String.toList_intercalate, hfeed, ← intercalate_appendLast (by simp),
      appendLast_concat]
    simp [hclose]
  · rw [closings_lines, hheader]
    simp [closings_docLine, closings, Function.comp_def]

theorem closings_docBlock {v : ValueSet} (h : v.member.isSome → '/' ∉ v.owner.toList)
    (className : String) (constants : List Constant) :
    ∃ front, (docBlock (tidy (valueSetSource v.headerComment className constants))).toList =
        front ++ "*/".toList ∧ closings front = closings v.ownName.toList := by
  rw [docBlock_tidy, ← closings_qualifiedName h, ← closings_headerComment]
  exact closings_docText v.headerComment

namespace ValueSetGenerator

/-- The doc comment of the class for a set that was loaded is its header line by line. It is closed
once more often than the name of the set would close it, so that it is closed by its last line
alone, and nothing of the header is code, exactly when the name does not close it. The name of a set
that is not that of a field closes a comment only if the path of its file does. -/
theorem docBlock_closed_once_iff {kind : ValueSetKind} {reader : MetadataReader}
    {files : List Path} {sets : List ValueSet} (hload : kind.load reader files = .ok sets)
    {v : ValueSet} (hv : v ∈ sets) {g : ValueSetGenerator} {constants : List Constant}
    {className body : String}
    (hbody : g.body? constants v.headerComment className = .ok (some body)) :
    docBlock body = unlines ((lines v.headerComment).map docLine ++ [" */"]) ∧
    closings (docBlock body).toList = closings v.ownName.toList + 1 ∧
    (closings (docBlock body).toList = 1 ↔ ¬ ClosesComment v.ownName) ∧
    (behindClosing (docBlock body).toList = some [] ↔ ¬ ClosesComment v.ownName) ∧
    (kind ≠ .customField → ClosesComment v.ownName →
      ∃ p ∈ files, v.source = some p.text ∧ ClosesComment p.text) := by
  have howner : v.member.isSome → '/' ∉ v.owner.toList := by
    intro hmember
    cases kind with
    | customField => exact (field_of_load hload hv).1
    | standard => simp [(set_of_load (by decide) hload hv).1] at hmember
    | global => simp [(set_of_load (by decide) hload hv).1] at hmember
  obtain rfl : body = tidy (valueSetSource v.headerComment className constants) := by
    rcases body?_cases hbody with ⟨_, hnone⟩ | ⟨_, hsome⟩
    · cases hnone
    · exact Option.some.inj hsome
  obtain ⟨front, htext, hfront⟩ := closings_docBlock howner className constants
  refine ⟨docBlock_tidy v.headerComment className constants, ?_, ?_, ?_, fun hkind hcloses => ?_⟩
  · rw [htext, closings_closed, hfront]
  · rw [htext, closings_closed, hfront, Nat.add_eq_right, closings_eq_zero_iff]
  · rw [htext, behindClosing_eq_nil_iff, hfront, closings_eq_zero_iff]
  · obtain ⟨hmember, p, hp, hsource, hpath⟩ := set_of_load hkind hload hv
    refine ⟨p, hp, hsource, ?_⟩
    rw [ClosesComment, ValueSet.ownName, hmember, Option.getD_none] at hcloses
    exact hcloses.trans hpath

def longName : String := "AnObjectWithANameThatFillsAllFortyCharacters__c"

def fieldPath : Path := .ofText ("m/objects/" ++ longName ++ "/fields/Kind.field-meta.xml")

def namedField (name : String) : ValueSet :=
  ⟨longName, .customField, [some "New"], some name, some fieldPath.text⟩

def fieldRoot (name : String) : Xml.Element where
  name := ⟨none, "F"⟩
  children := [{ name := ⟨none, "fullName"⟩, text := some name },
    { name := ⟨none, "type"⟩, text := some "Picklist" },
    { name := ⟨none, "valueSet"⟩
      children := [{ name := ⟨none, "valueSetDefinition"⟩
                     children := [{ name := ⟨none, "value"⟩
                                    children := [{ name := ⟨none, "fullName"⟩
                                                   text := some "New" }] }] }] }]

def fieldTree (name : String) : Tree where
  entries := [(["p", "m"], .folder), (["p", "m", "objects"], .folder),
    (["p", "m", "objects", longName], .folder), (["p", "m", "objects", longName, "fields"], .folder),
    (["p", "m", "objects", longName, "fields", "Kind.field-meta.xml"],
      .file ("<F><fullName>" ++ name ++ "</fullName><type>Picklist</type><valueSet>" ++
        "<valueSetDefinition><value><fullName>New</fullName></value></valueSetDefinition>" ++
          "</valueSet></F>").toUTF8)]
  home := ["p"]
  nodup := by simp

/-- A name with a slash below an asterisk closes nothing. -/
theorem docBlock_closed_once_lines :
    ValueSetKind.customField.load (fun _ => .ok (fieldRoot "Kind*\n/Sub__c")) [fieldPath] =
      .ok [namedField "Kind*\n/Sub__c"] ∧
    ∃ body, plainFields.body? [⟨"A_NEW", "New"⟩] (namedField "Kind*\n/Sub__c").headerComment
        (plainFields.className (namedField "Kind*\n/Sub__c")).text = .ok (some body) ∧
      closings (docBlock body).toList = 1 ∧ behindClosing (docBlock body).toList = some [] := by
  obtain ⟨_, hload, rfl⟩ := ok_of_toOption
    (show (ValueSetKind.customField.load (fun _ => .ok (fieldRoot "Kind*\n/Sub__c"))
      [fieldPath]).toOption.map id = some [namedField "Kind*\n/Sub__c"] by decide +kernel)
  have hbody : plainFields.body? [⟨"A_NEW", "New"⟩] (namedField "Kind*\n/Sub__c").headerComment
      (plainFields.className (namedField "Kind*\n/Sub__c")).text = .ok (some (tidy
        (valueSetSource (namedField "Kind*\n/Sub__c").headerComment
          (plainFields.className (namedField "Kind*\n/Sub__c")).text [⟨"A_NEW", "New"⟩]))) := rfl
  have hname : ¬ ClosesComment (namedField "Kind*\n/Sub__c").ownName := by decide
  obtain ⟨_, _, honce, hnone, _⟩ := docBlock_closed_once_iff hload List.mem_cons_self hbody
  exact ⟨hload, _, hbody, honce.mpr hname, hnone.mpr hname⟩

/-- Behind a name that closes the comment what it goes on with is code. -/
theorem docBlock_closed_early :
    ∃ sets result c,
      ValueSetKind.customField.load (fieldTree "*/class Evil\x7b\x7d/*").readMetadata [fieldPath] =
        .ok sets ∧
      (plainFields.generate .standard sets).outcome = .ok result ∧ c ∈ result.classes ∧
      closings (docBlock c.body).toList = 2 ∧
      behindClosing (docBlock c.body).toList =
        some "class Evil\x7b\x7d/* custom field value set.\n */".toList := by
  obtain ⟨_, hload, rfl⟩ := ok_of_toOption
    (show (ValueSetKind.customField.load (fieldTree "*/class Evil\x7b\x7d/*").readMetadata
      [fieldPath]).toOption.map id = some [namedField "*/class Evil\x7b\x7d/*"] by decide +kernel)
  obtain ⟨result, c, hresult, hc, hyield⟩ := generate_alone (g := plainFields)
    (v := namedField "*/class Evil\x7b\x7d/*") rfl rfl
  have howner : '/' ∉ (namedField "*/class Evil\x7b\x7d/*").owner.toList := by decide
  have hbody := (body_of_yield hyield).2
  refine ⟨_, result, c, hload, hresult, hc, ?_, ?_⟩
  · obtain ⟨front, htext, hfront⟩ := closings_docBlock (fun _ => howner) _ _
    rw [hbody, htext, closings_closed, hfront]
    decide
  · rw [hbody, docBlock_tidy]
    decide +kernel

end ValueSetGenerator

end ApexConstants
