import ApexConstants.Proofs.AccessorNames
import ApexConstants.Proofs.KeptLayouts
import ApexConstants.Proofs.LoadedRecords

namespace ApexConstants
open Apex (Accessors acceptsName isIdentifier isWordChar)

def IsLetter (c : Char) : Prop := ('A' ≤ c ∧ c ≤ 'Z') ∨ ('a' ≤ c ∧ c ≤ 'z')

def IsDigit (c : Char) : Prop := '0' ≤ c ∧ c ≤ '9'

/-- A letter with letters, digits and underscores behind it, all of ASCII. -/
def IsToken (s : String) : Prop :=
  (∃ c rest, s.toList = c :: rest ∧ IsLetter c) ∧
    ∀ c ∈ s.toList, IsLetter c ∨ IsDigit c ∨ c = '_'

namespace Apex

theorem isAlpha_iff {c : Char} : c.isAlpha = true ↔ IsLetter c := by
  have hupper : c.isUpper = true ↔ 'A' ≤ c ∧ c ≤ 'Z' := decide_eq_true_iff
  have hlower : c.isLower = true ↔ 'a' ≤ c ∧ c ≤ 'z' :=
    Bool.and_eq_true_iff.trans (and_congr decide_eq_true_iff decide_eq_true_iff)
  exact Bool.or_eq_true_iff.trans (or_congr hupper hlower)

theorem isDigit_iff {c : Char} : c.isDigit = true ↔ IsDigit c :=
  Bool.and_eq_true_iff.trans (and_congr decide_eq_true_iff decide_eq_true_iff)

theorem isWordChar_iff {c : Char} : isWordChar c = true ↔ IsLetter c ∨ IsDigit c ∨ c = '_' := by
  rw [isWordChar, Bool.or_eq_true, beq_iff_eq, Char.isAlphanum, Bool.or_eq_true, isAlpha_iff,
    isDigit_iff, or_assoc]

theorem isIdentifier_iff {s : String} : isIdentifier s.toList = true ↔ IsToken s := by
  rw [IsToken]
  simp only [← isWordChar_iff]
  simp only [← isAlpha_iff]
  cases s.toList with
  | nil => simp [isIdentifier]
  | cons c rest =>
    simp only [isIdentifier, Bool.and_eq_true, List.all_eq_true, List.forall_mem_cons,
      List.cons.injEq]
    constructor
    · rintro ⟨hc, hrest⟩
      exact ⟨⟨c, rest, ⟨rfl, rfl⟩, hc⟩, by simp [isWordChar, Char.isAlphanum, hc], hrest⟩
    · rintro ⟨⟨d, rest', ⟨rfl, _⟩, hletter⟩, _, hrest⟩
      exact ⟨hletter, hrest⟩

theorem isWordChar_of_token {s : String} (h : IsToken s) : ∀ c ∈ s.toList, isWordChar c = true :=
  isIdentifier_word (isIdentifier_iff.mpr h)

theorem newline_not_mem_token {s : String} (h : IsToken s) : '\n' ∉ s.toList :=
  Accessors.newline_not_mem_word (isWordChar_of_token h)

/-- What is accepted is a token, or a token and a line feed. -/
theorem acceptsName_iff {s : String} :
    acceptsName s = true ↔ IsToken s ∨ ∃ token, IsToken token ∧ s = token ++ "\n" := by
  constructor
  · intro h
    unfold acceptsName dropFinalNewline at h
    split at h
    · rename_i hline
      obtain ⟨front, hfront⟩ := List.getLast?_eq_some_iff.mp (beq_iff_eq.mp hline)
      rw [hfront, List.dropLast_concat] at h
      refine .inr ⟨String.ofList front, isIdentifier_iff.mp (by rwa [String.toList_ofList]), ?_⟩
      apply String.toList_inj.mp
      rw [hfront, String.toList_append, String.toList_ofList]
      rfl
    · exact .inl (isIdentifier_iff.mp h)
  · rintro (h | ⟨token, h, rfl⟩)
    · rw [acceptsName, dropFinalNewline_of_line (newline_not_mem_token h)]
      exact isIdentifier_iff.mpr h
    · have hend : (token ++ "\n").toList = token.toList ++ ['\n'] := String.toList_append
      rw [acceptsName, dropFinalNewline, hend, List.getLast?_concat, List.dropLast_concat]
      exact isIdentifier_iff.mpr h

/-- Of what is accepted, a token is what has no line feed at its end. -/
theorem isToken_iff_of_acceptsName {s : String} (h : acceptsName s = true) :
    IsToken s ↔ s.toList.getLast? ≠ some '\n' := by
  constructor
  · intro htoken hline
    exact newline_not_mem_token htoken (List.mem_of_getLast? hline)
  · intro hline
    rcases acceptsName_iff.mp h with htoken | ⟨token, _, rfl⟩
    · exact htoken
    · have hend : (token ++ "\n").toList = token.toList ++ ['\n'] := String.toList_append
      rw [hend, List.getLast?_concat] at hline
      exact absurd rfl hline

theorem not_blank_of_word {c : Char} (h : isWordChar c = true) : Text.isBlank c = false := by
  have hascii : ∀ c : Char, Text.isAscii c = true → isWordChar c = true → Text.isBlank c = false :=
    Text.forall_ascii (by decide)
  exact hascii c (isWordChar_ascii h) h

theorem endsInk_token {s : String} (h : IsToken s) : EndsInk s.toList := by
  obtain ⟨c, rest, hs, _⟩ := h.1
  have hsome : s.toList ≠ [] := by
    rw [hs]
    exact List.cons_ne_nil c rest
  refine ⟨s.toList.dropLast, s.toList.getLast hsome, (List.dropLast_append_getLast hsome).symm, ?_⟩
  exact not_blank_of_word (isWordChar_of_token h _ (List.getLast_mem hsome))

/-- Tidying leaves an accepted name as it is. -/
theorem keepsLayout_of_acceptsName {s : String} (h : acceptsName s = true) :
    KeepsLayout s.toList := by
  rcases acceptsName_iff.mp h with htoken | ⟨token, htoken, rfl⟩
  · exact keepsLayout_of_line (newline_not_mem_token htoken)
  · have hlines : (token ++ "\n").toList.splitOn '\n' = [token.toList, []] := by
      have hend : (token ++ "\n").toList = token.toList ++ '\n' :: [] := String.toList_append
      rw [hend, List.splitOn_append_cons_self,
        List.splitOn_eq_singleton (newline_not_mem_token htoken)]
      rfl
    rw [KeepsLayout, hlines]
    simpa using (endsInk_token htoken).trimEnd_eq

theorem not_mem_of_acceptsName {s : String} (h : acceptsName s = true) {c : Char}
    (hword : isWordChar c = false) (hline : c ≠ '\n') : c ∉ s.toList := by
  have htoken : ∀ {t : String}, IsToken t → c ∉ t.toList := by
    intro t ht hm
    rw [isWordChar_of_token ht c hm] at hword
    cases hword
  rcases acceptsName_iff.mp h with ht | ⟨token, ht, rfl⟩
  · exact htoken ht
  · rw [String.toList_append, List.mem_append, not_or]
    exact ⟨htoken ht, by simpa using hline⟩

/-- What stands between a quote behind `mark` and the next quote, in a text parted at its quotes. -/
def quotedBehind (mark : List Char) : List (List Char) → List (List Char)
  | before :: literal :: rest =>
    if mark.isSuffixOf before then literal :: quotedBehind mark (literal :: rest)
    else quotedBehind mark (literal :: rest)
  | _ => []

/-- The literals that a class hands to `get`. -/
def lookups (body : String) : List String :=
  (quotedBehind ".get(".toList (body.toList.splitOn '\'')).map String.ofList

theorem quotedBehind_quote {mark before literal : List Char} (hbefore : '\'' ∉ before)
    (hliteral : '\'' ∉ literal) (hmark : mark <:+ before) (hother : ¬ mark <:+ literal)
    (rest : List Char) :
    quotedBehind mark ((before ++ '\'' :: (literal ++ '\'' :: rest)).splitOn '\'') =
      literal :: quotedBehind mark (rest.splitOn '\'') := by
  obtain ⟨next, more, hrest⟩ := List.exists_cons_of_ne_nil (List.splitOn_ne_nil '\'' rest)
  rw [List.splitOn_append_cons_self, List.splitOn_append_cons_self,
    List.splitOn_eq_singleton hbefore, List.splitOn_eq_singleton hliteral, hrest]
  simp [quotedBehind, List.isSuffixOf_iff_suffix, hmark, hother]

namespace Accessors

def codeBefore (a : Accessors) : String :=
  Text.endLines ["    public static RecordTypeInfo " ++ a.infoName ++ " \x7b",
    "        get \x7b return " ++ a.infoName ++ " = " ++ a.infoName ++ " != null"] ++
  "                ? " ++ a.infoName ++ " : Schema.SObjectType." ++ a.objectName ++
    ".getRecordTypeInfosByDeveloperName()"

def codeBehind (a : Accessors) : String := Text.endLines ("); \x7d" :: a.lines.drop 3)

theorem toList_endLines_lines (a : Accessors) : (Text.endLines a.lines).toList =
    a.codeBefore.toList ++ '.' :: ("get(".toList ++ '\'' :: (a.developerName.toList ++
      '\'' :: a.codeBehind.toList)) := by
  simp [lines, codeBefore, codeBehind, Text.endLines]

/-- Nothing in the code around a literal is a quote, and the developer name is accepted. -/
structure Quotable (a : Accessors) : Prop where
  infoName : '\'' ∉ a.infoName.toList
  idName : '\'' ∉ a.idName.toList
  objectName : '\'' ∉ a.objectName.toList
  developerName : acceptsName a.developerName = true

theorem Quotable.codeBefore {a : Accessors} (h : a.Quotable) : '\'' ∉ a.codeBefore.toList := by
  simp [Accessors.codeBefore, Text.endLines, h.infoName, h.objectName]

theorem Quotable.codeBehind {a : Accessors} (h : a.Quotable) : '\'' ∉ a.codeBehind.toList := by
  simp [Accessors.codeBehind, lines, Text.endLines, h.infoName, h.idName]

end Accessors

/-- In tidied code the literals are the developer names, one for each record type. -/
theorem quotedBehind_groups {accessors : List Accessors} (h : ∀ a ∈ accessors, a.Quotable)
    (lead front back : List Char) (hlead : '\'' ∉ lead) (hfront : '\'' ∉ front)
    (hback : '\'' ∉ back) :
    quotedBehind ".get(".toList ((lead ++ textBehind (front ++
      accessors.flatMap (fun a => (Text.endLines a.lines).toList) ++ back)).splitOn '\'') =
        accessors.map (·.developerName.toList) := by
  induction accessors generalizing lead front with
  | nil =>
    have hnone : '\'' ∉ lead ++ textBehind (front ++ [] ++ back) := by
      rw [List.append_nil, List.mem_append, not_or]
      refine ⟨hlead, fun hm => ?_⟩
      simpa [hfront, hback] using mem_of_mem_textBehind (by decide) hm
    rw [List.flatMap_nil, List.splitOn_eq_singleton hnone]
    rfl
  | cons a accessors ih =>
    rw [List.forall_mem_cons] at h
    obtain ⟨ha, hrest⟩ := h
    have hpoint : Text.isBlank '.' = false := by decide
    have hquote : Text.isBlank '\'' = false := by decide
    have hget : markedText "get(".toList = "get(".toList := markedText_of_line (by decide)
    have hname := markedText_eq_iff.mpr (keepsLayout_of_acceptsName ha.developerName)
    have htext : front ++ (a :: accessors).flatMap (fun a => (Text.endLines a.lines).toList) ++ back =
        (front ++ a.codeBefore.toList) ++ '.' :: ("get(".toList ++ '\'' :: (a.developerName.toList ++
          '\'' :: (a.codeBehind.toList ++
            accessors.flatMap (fun a => (Text.endLines a.lines).toList) ++ back))) := by
      rw [List.flatMap_cons, Accessors.toList_endLines_lines]
      simp only [List.append_assoc, List.cons_append]
    have hbefore : '\'' ∉ lead ++ markedText (front ++ a.codeBefore.toList) ++ ".get(".toList := by
      have hmarked : '\'' ∉ markedText (front ++ a.codeBefore.toList) := fun hm => by
        simpa [hfront, ha.codeBefore] using mem_of_mem_markedText (by decide) hm
      simp [hlead, hmarked]
    have hliteral : '\'' ∉ a.developerName.toList :=
      not_mem_of_acceptsName ha.developerName (by decide) (by decide)
    have hother : ¬ ".get(".toList <:+ a.developerName.toList := fun hsuffix =>
      not_mem_of_acceptsName (c := '(') ha.developerName (by decide) (by decide)
        (hsuffix.subset (by decide))
    -- The characters around the literal that are not blank keep its text from being tidied.
    have hparts : lead ++ textBehind (front ++
        (a :: accessors).flatMap (fun a => (Text.endLines a.lines).toList) ++ back) =
      (lead ++ markedText (front ++ a.codeBefore.toList) ++ ".get(".toList) ++ '\'' ::
        (a.developerName.toList ++ '\'' :: ([] ++ textBehind (a.codeBehind.toList ++
            accessors.flatMap (fun a => (Text.endLines a.lines).toList) ++ back))) := by
      rw [htext, textBehind_append hpoint, textBehind_append hquote, textBehind_append hquote, hget,
        hname]
      simp
    rw [hparts, quotedBehind_quote hbefore hliteral (List.suffix_append _ _) hother,
      ih hrest [] _ List.not_mem_nil ha.codeBehind, List.map_cons]

theorem toList_endLines_groups (accessors : List Accessors) :
    (Text.endLines (accessors.flatMap Accessors.lines)).toList =
      accessors.flatMap fun a => (Text.endLines a.lines).toList := by
  induction accessors with
  | nil => rfl
  | cons a accessors ih =>
    rw [List.flatMap_cons, List.flatMap_cons, Text.endLines_append, String.toList_append, ih]

theorem quote_not_mem_classLine {className : String} (h : '\'' ∉ className.toList) :
    '\'' ∉ (classLine className).toList := by
  unfold classLine
  simp [h]

/-- The class of record types: a slash, code without quotes, the properties and the end. -/
theorem toList_recordTypesSource {className : String} (h : '\'' ∉ className.toList) :
    ∃ front, '\'' ∉ front ∧ ∀ accessors, (recordTypesSource className accessors).toList =
      '/' :: (front ++ accessors.flatMap (fun a => (Text.endLines a.lines).toList) ++
        ['\x7d', '\n']) := by
  obtain ⟨rest, hnotice⟩ := prefix_notice
  have hquote : '\'' ∉ notice.toList := by decide +kernel
  have hclass := quote_not_mem_classLine h
  rw [← hnotice, List.mem_append, not_or] at hquote
  refine ⟨'*' :: rest ++ '\n' :: ((classLine className).toList ++ ['\n', '\n']), ?_, ?_⟩
  · simp [hquote.2, hclass]
  · intro accessors
    rw [recordTypesSource, Text.endLines_append, Text.endLines_append, String.toList_append,
      String.toList_append, toList_endLines_groups]
    simp [Text.endLines, ← hnotice]

/-- The literals in the class of record types are the developer names, one for each, in their order.
-/
theorem lookups_tidy {className : String} {accessors : List Accessors}
    (hname : '\'' ∉ className.toList) (h : ∀ a ∈ accessors, a.Quotable) :
    lookups (tidy (recordTypesSource className accessors)) = accessors.map (·.developerName) := by
  obtain ⟨front, hfront, hsource⟩ := toList_recordTypesSource hname
  have hbody : (tidy (recordTypesSource className accessors)).toList = ['/'] ++ textBehind (front ++
      accessors.flatMap (fun a => (Text.endLines a.lines).toList) ++ ['\x7d', '\n']) := by
    rw [tidy_eq_textBehind (by decide) (hsource accessors), String.toList_ofList]
    rfl
  rw [lookups, hbody, quotedBehind_groups h _ _ _ (by decide) hfront (by decide)]
  simp

end Apex

open Apex

namespace RecordType

theorem acceptsName_of_lacksName {r : RecordType} (h : r.lacksName = false) :
    ∃ name, r.developerName = some name ∧ acceptsName name = true := by
  cases hname : r.developerName with
  | none => simp [lacksName, hname] at h
  | some name =>
    simp only [lacksName, hname, Option.all_some, Bool.or_eq_false_iff, Bool.not_eq_false'] at h
    exact ⟨name, rfl, h.2⟩

theorem quotable_properties {r : RecordType} (h : r.lacksName = false)
    (hobject : '\'' ∉ r.objectName.toList) : r.properties.Quotable := by
  obtain ⟨name, hname, haccepted⟩ := acceptsName_of_lacksName h
  have hdeveloper : '\'' ∉ (r.developerName.getD "").toList := by
    rw [hname]
    exact not_mem_of_acceptsName haccepted (by decide) (by decide)
  have hinfo := not_mem_infoName (by decide) (by decide) hobject hdeveloper
  refine ⟨hinfo, ?_, hobject, ?_⟩
  · rw [idName_eq]
    simp [hinfo]
  · simpa [properties, hname] using haccepted

end RecordType

/-- A text that is read from an element does not end with a line feed. -/
theorem getLast?_fieldOf {e : Xml.Element} {base text : String} (h : fieldOf e base = some text) :
    text.toList.getLast? ≠ some '\n' := by
  obtain ⟨_, whole, _, _, htrim, hsome⟩ := Xml.Element.fieldOf_eq_some.mp h
  have hend : text.toList = List.rdropWhile Text.isBlank (whole.toList.dropWhile Text.isBlank) := by
    rw [← htrim, Text.trim, String.toList_ofList]
    rfl
  intro hline
  have hne : List.rdropWhile Text.isBlank (whole.toList.dropWhile Text.isBlank) ≠ [] := by
    rw [← hend]
    rintro hnil
    rw [hnil] at hline
    cases hline
  have hlast := List.rdropWhile_last_not Text.isBlank _ hne
  rw [hend, List.getLast?_eq_some_getLast hne] at hline
  rw [Option.some.inj hline] at hlast
  exact hlast rfl

theorem developerName_of_load {reader : MetadataReader} {paths : List Path}
    {loaded : List RecordType} (h : loadRecordTypes reader paths = .ok loaded) {r : RecordType}
    (hr : r ∈ loaded) {name : String} (hname : r.developerName = some name) :
    name.toList.getLast? ≠ some '\n' := by
  obtain ⟨pairs, _, h⟩ := bind_eq_ok.mp h
  obtain ⟨⟨p, e⟩, _, hmade⟩ := mem_of_mapM h r hr
  obtain ⟨_, _, heq⟩ := bind_eq_ok.mp hmade
  cases heq
  exact getLast?_fieldOf hname

/-- The developer names in the properties are tokens when no record type that is included has one
with a line feed at its end. -/
theorem tokens_iff {activeOnly : Bool} {records : List RecordType} {accessors : List Accessors}
    (h : accessorsOf activeOnly records = .ok accessors) :
    (∀ a ∈ accessors, IsToken a.developerName) ↔
      ∀ r ∈ records, r.included activeOnly = true → ∀ name, r.developerName = some name →
        name.toList.getLast? ≠ some '\n' := by
  obtain ⟨hnamed, rfl⟩ := accessorsOf_eq_ok h
  rw [List.forall_mem_map]
  have hname : ∀ r ∈ records.filter (·.included activeOnly), (IsToken r.properties.developerName ↔
      ∀ name, r.developerName = some name → name.toList.getLast? ≠ some '\n') := by
    intro r hr
    obtain ⟨name, hname, haccepted⟩ := RecordType.acceptsName_of_lacksName (hnamed r hr)
    have htoken := isToken_iff_of_acceptsName haccepted
    simpa [RecordType.properties, hname] using htoken
  constructor
  · intro htokens r hr hincluded
    have hmem := List.mem_filter.mpr ⟨hr, hincluded⟩
    exact (hname r hmem).mp (htokens r hmem)
  · intro hlines r hmem
    obtain ⟨hr, hincluded⟩ := List.mem_filter.mp hmem
    exact (hname r hmem).mpr (hlines r hr hincluded)

/-- A text is accepted as a developer name exactly when it is a token, unless it is a token and a
line feed. The developer names in the properties are tokens exactly when none of the record types
that are included has such a name, which those from metadata files never have; and where no other
name has a quote in it, the literals that the class looks up are those developer names. -/
theorem developer_names_tokens_iff (d : String) (activeOnly : Bool) (records : List RecordType) :
    ((acceptsName d = true ↔ IsToken d) ↔ ¬ ∃ token, IsToken token ∧ d = token ++ "\n") ∧
    ∀ accessors : List Accessors, accessorsOf activeOnly records = .ok accessors →
      ((∀ a ∈ accessors, IsToken a.developerName) ↔
        ∀ r ∈ records, r.included activeOnly = true → ∀ name, r.developerName = some name →
          name.toList.getLast? ≠ some '\n') ∧
      (∀ (g : RecordTypeGenerator) (className : Json) (body : String),
        '\'' ∉ (g.nameOr className).toList →
        (∀ r ∈ records, r.included activeOnly = true → '\'' ∉ r.objectName.toList) →
        g.render records (some activeOnly) className = .ok body →
        lookups body = accessors.map (·.developerName)) ∧
      ∀ (reader : MetadataReader) (paths : List Path) (loaded : List RecordType),
        loadRecordTypes reader paths = .ok loaded → records ⊆ loaded →
        ∀ a ∈ accessors, IsToken a.developerName := by
  constructor
  · rw [acceptsName_iff]
    constructor
    · rintro h ⟨token, htoken, rfl⟩
      have hline := newline_not_mem_token (h.mp (.inr ⟨token, htoken, rfl⟩))
      simp at hline
    · intro hnone
      exact or_iff_left hnone
  · intro accessors h
    refine ⟨tokens_iff h, ?_, ?_⟩
    · intro g className body hclass hobjects hbody
      rw [RecordTypeGenerator.render_ok h hbody]
      apply lookups_tidy hclass
      obtain ⟨hnamed, rfl⟩ := accessorsOf_eq_ok h
      intro a ha
      obtain ⟨r, hr, rfl⟩ := List.mem_map.mp ha
      obtain ⟨hmem, hincluded⟩ := List.mem_filter.mp hr
      exact RecordType.quotable_properties (hnamed r hr) (hobjects r hmem hincluded)
    · intro reader paths loaded hload hsub
      apply (tokens_iff h).mpr
      intro r hr _ name hname
      exact developerName_of_load hload (hsub hr) hname

def plainTypes : RecordTypeGenerator := { apiVersion := "60.0" }

theorem render_plainTypes (object developer : String) {accessors : List Accessors}
    (h : accessorsOf true [activeType object developer] = .ok accessors) :
    plainTypes.render [activeType object developer] (some true) =
      .ok (tidy (recordTypesSource "RecordTypes" accessors)) := by
  rw [RecordTypeGenerator.render, Option.getD_some, h]
  rfl

/-- A record type of a case, whose developer name is looked up in the class as it is. -/
theorem developer_names_tokens_case :
    ∃ accessors body, accessorsOf true [activeType "Case" "Support"] = .ok accessors ∧
      plainTypes.render [activeType "Case" "Support"] (some true) = .ok body ∧
      (∀ a ∈ accessors, IsToken a.developerName) ∧ lookups body = ["Support"] := by
  have haccessors : accessorsOf true [activeType "Case" "Support"] =
      .ok [⟨"CASE_SUPPORT", "CASE_SUPPORT_ID", "Case", "Support"⟩] := rfl
  have hbody := render_plainTypes "Case" "Support" haccessors
  obtain ⟨htokens, hlookups, _⟩ :=
    (developer_names_tokens_iff "Support" true [activeType "Case" "Support"]).2 _ haccessors
  refine ⟨_, _, haccessors, hbody, htokens.mpr ?_, ?_⟩
  · intro r hr _ name hname
    rw [List.mem_singleton.mp hr] at hname
    cases hname
    decide
  · exact hlookups plainTypes .null _ (by decide) (by decide) hbody

/-- A line feed behind a name is passed over, and gets into the properties and into the class. -/
theorem developer_name_with_line_feed :
    acceptsName "A\n" = true ∧ ¬ IsToken "A\n" ∧
    ∃ body, accessorsOf true [activeType "Case" "A\n"] =
        .ok [⟨"CASE_A\n", "CASE_A\n_ID", "Case", "A\n"⟩] ∧
      plainTypes.render [activeType "Case" "A\n"] (some true) = .ok body ∧
      lookups body = ["A\n"] := by
  have haccessors : accessorsOf true [activeType "Case" "A\n"] =
      .ok [⟨"CASE_A\n", "CASE_A\n_ID", "Case", "A\n"⟩] := rfl
  refine ⟨by decide, fun h => newline_not_mem_token h (by decide), _, haccessors,
    render_plainTypes "Case" "A\n" haccessors, lookups_tidy (by decide) ?_⟩
  intro a ha
  rw [List.mem_singleton.mp ha]
  exact ⟨by decide, by decide, by decide, by decide⟩

end ApexConstants
