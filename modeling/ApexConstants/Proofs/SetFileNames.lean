import ApexConstants.Proofs.ClassNameShapes
import ApexConstants.Proofs.ClassPaths
import ApexConstants.Proofs.PathNames
import ApexConstants.Proofs.RootedNames
import ApexConstants.Proofs.SetBySet

namespace ApexConstants

section
variable {α : Type} {mark cs found : List Char} {read : List Char → Option α}
  {stop : List Char → Bool}

/-- What is found stands behind a mark in the first line, and behind none of those that come later
in that line would anything be found. -/
theorem behindLast_last {a : α} (hmark : mark ≠ []) (h : behindLast mark read cs = some a) :
    ∃ front rest, cs = front ++ (mark ++ rest) ∧ '\n' ∉ front ∧ read rest = some a ∧
      ∀ front' rest', cs = front' ++ (mark ++ rest') → '\n' ∉ front' → (read rest').isSome →
        front'.length ≤ front.length := by
  induction cs with
  | nil =>
    obtain ⟨rest, hafter, _⟩ := Option.bind_eq_some_iff.mp h
    have hnil := after?_eq_some hafter
    exact absurd (List.append_eq_nil_iff.mp hnil.symm).1 hmark
  | cons c cs ih =>
    rw [behindLast] at h
    split at h
    · rename_i b hlater
      cases h
      split at hlater
      · cases hlater
      · rename_i hline
        obtain ⟨front, rest, rfl, hfront, hread, hlast⟩ := ih hlater
        refine ⟨c :: front, rest, rfl, ?_, hread, ?_⟩
        · simp only [List.mem_cons, not_or]
          exact ⟨fun h => hline (by simp [← h]), hfront⟩
        · intro front' rest' hsplit' hfront' hread'
          cases front' with
          | nil => exact Nat.zero_le _
          | cons d front' =>
            have hrest := hlast front' rest' (List.cons.inj hsplit').2
              (fun h => hfront' (List.mem_cons_of_mem d h)) hread'
            simpa using hrest
    · rename_i hnone
      obtain ⟨rest, hafter, hread⟩ := Option.bind_eq_some_iff.mp h
      have hhere : c :: cs = mark ++ rest := after?_eq_some hafter
      refine ⟨[], rest, hhere, List.not_mem_nil, hread, ?_⟩
      intro front' rest' hsplit' hfront' hread'
      cases front' with
      | nil => exact Nat.le_refl _
      | cons d front' =>
        -- A later mark would have been taken.
        obtain ⟨rfl, rfl⟩ : c = d ∧ cs = front' ++ (mark ++ rest') := List.cons.inj hsplit'
        have hline : (c == '\n') = false := by
          rw [beq_eq_false_iff_ne]
          intro heq
          exact hfront' (by simp [heq])
        have hbehind : (behindLast mark read (mark ++ rest')).isSome :=
          behindLast_isSome (after?_append mark rest') hread'
        obtain ⟨b, hb⟩ := Option.isSome_iff_exists.mp hbehind
        have hlater := behindLast_append (fun h => hfront' (List.mem_cons_of_mem c h)) hb
        simp [hline, hlater] at hnone

theorem newline_not_mem_upToStop (h : upToStop stop cs = some found) : '\n' ∉ found := by
  induction cs generalizing found with
  | nil =>
    rw [upToStop] at h
    split at h
    · cases h
      exact List.not_mem_nil
    · cases h
  | cons c cs ih =>
    rw [upToStop] at h
    split at h
    · cases h
      exact List.not_mem_nil
    · split at h
      · cases h
      · rename_i hline
        obtain ⟨more, hmore, rfl⟩ := Option.map_eq_some_iff.mp h
        simp only [List.mem_cons, not_or]
        exact ⟨fun h => hline (by simp [← h]), ih hmore⟩

theorem isEnding_iff {ending : List Char} :
    isEnding ending cs = true ↔ cs = ending ∨ cs = ending ++ ['\n'] := by
  constructor
  · intro h
    unfold isEnding at h
    split at h
    · rename_i hafter
      rw [after?_eq_some hafter, List.append_nil]
      exact .inl rfl
    · rename_i hafter
      exact .inr (after?_eq_some hafter)
    · cases h
  · rintro (rfl | rfl)
    · have hafter := after?_append cs []
      rw [List.append_nil] at hafter
      simp [isEnding, hafter]
    · simp [isEnding, after?_append]

end

namespace Path

def slashed (pieces : List (List Char)) : List Char := pieces.flatMap ('/' :: ·)

theorem slashed_append (xs ys : List (List Char)) : slashed (xs ++ ys) = slashed xs ++ slashed ys :=
  List.flatMap_append

theorem slashed_eq {pieces : List (List Char)} (h : pieces ≠ []) :
    slashed pieces = '/' :: ['/'].intercalate pieces := by
  cases pieces with
  | nil => exact absurd rfl h
  | cons piece rest =>
    rw [Text.intercalate_cons_eq]
    rfl

theorem slashed_splitOn (cs : List Char) : slashed (cs.splitOn '/') = '/' :: cs := by
  rw [slashed_eq (List.splitOn_ne_nil '/' cs), List.intercalate_splitOn]

end Path

section
variable {folder ending name : String} {p : Path} {front rest found tail : List Char}

/-- The mark of a folder in a text between slashes is a piece of it, and what is behind is pieces.
-/
theorem splitOn_mark (hfolder : '/' ∉ folder.toList) :
    (front ++ ('/' :: folder.toList ++ ['/'] ++ rest)).splitOn '/' =
      front.splitOn '/' ++ folder.toList :: rest.splitOn '/' := by
  have hmark : '/' :: folder.toList ++ ['/'] ++ rest = '/' :: (folder.toList ++ '/' :: rest) := by
    simp
  rw [hmark, List.splitOn_append_cons_self, List.splitOn_append_cons_self,
    List.splitOn_eq_singleton hfolder]
  rfl

/-- In the pieces that a plain path's text shows behind a folder are names of the path. -/
theorem names_of_mark (hp : p.Plain) (hfolder : '/' ∉ folder.toList ∧ folder ≠ "" ∧ folder ≠ ".")
    (hsplit : p.text.toList = front ++ ('/' :: folder.toList ++ ['/'] ++ rest)) :
    ∃ before, p.names = before ++ folder :: (rest.splitOn '/').map String.ofList := by
  obtain ⟨lead, hlead, hpieces⟩ := Path.splitOn_text hp
  rw [hsplit, splitOn_mark hfolder.1] at hpieces
  have hnames : ∃ before, p.names.map String.toList =
      before ++ folder.toList :: rest.splitOn '/' := by
    rcases List.append_eq_append_iff.mp hpieces with ⟨more, hmore, hbehind⟩ | ⟨before, _, hbehind⟩
    · cases more with
      | nil => exact ⟨[], hbehind.symm⟩
      | cons piece more =>
        -- The folder is no piece that tells where the path starts.
        obtain ⟨rfl, _⟩ : folder.toList = piece ∧ _ := List.cons.inj hbehind
        rcases hlead folder.toList (by simp [hmore]) with h | h
        · exact absurd (String.toList_inj.mp h) hfolder.2.1
        · exact absurd (String.toList_inj.mp h) hfolder.2.2
    · exact ⟨before, hbehind⟩
  obtain ⟨before, hnames⟩ := hnames
  refine ⟨before.map String.ofList, ?_⟩
  have hback := congrArg (List.map String.ofList) hnames
  simpa [Function.comp_def] using hback

/-- The folder does not come again between the last mark behind which a name is found and the file.
-/
theorem folder_not_mem_between (hline : '\n' ∉ folder.toList) (htail : '/' ∉ tail)
    (hfront : '\n' ∉ front) (hfound : '\n' ∉ found)
    (hlast : ∀ front' found', front ++ ('/' :: folder.toList ++ ['/'] ++ (found ++ tail)) =
      front' ++ ('/' :: folder.toList ++ ['/'] ++ (found' ++ tail)) → '\n' ∉ front' →
        '\n' ∉ found' → front'.length ≤ front.length) :
    folder.toList ∉ ((found ++ tail).splitOn '/').dropLast := by
  intro hmem
  obtain ⟨inner, more, hinner⟩ := List.append_of_mem hmem
  obtain ⟨last, hpieces⟩ : ∃ last, (found ++ tail).splitOn '/' =
      inner ++ folder.toList :: (more ++ [last]) := by
    have hsome := List.splitOn_ne_nil '/' (found ++ tail)
    refine ⟨((found ++ tail).splitOn '/').getLast hsome, ?_⟩
    rw [← List.cons_append, ← List.append_assoc, ← hinner, List.dropLast_append_getLast]
  -- A name would be found behind that folder too, and its mark comes later than the last one.
  let rest' := ['/'].intercalate (more ++ [last])
  have hwhole : '/' :: (found ++ tail) =
      Path.slashed inner ++ ('/' :: folder.toList ++ '/' :: rest') := by
    rw [← Path.slashed_splitOn, hpieces, Path.slashed_append]
    congr 1
    rw [← Path.slashed_eq (by simp)]
    rfl
  have hbehind : tail <:+ rest' := by
    have htailEnd : tail <:+ '/' :: (found ++ tail) :=
      (List.suffix_append found tail).trans (List.suffix_cons '/' _)
    have hrestEnd : '/' :: rest' <:+ '/' :: (found ++ tail) := by
      rw [hwhole, ← List.append_assoc]
      exact List.suffix_append _ _
    rcases List.suffix_or_suffix_of_suffix htailEnd hrestEnd with h | h
    · rcases List.suffix_cons_iff.mp h with rfl | h
      · exact absurd List.mem_cons_self htail
      · exact h
    · exact absurd (h.subset List.mem_cons_self) htail
  obtain ⟨found', hrest⟩ := hbehind
  rw [← hrest] at hwhole
  have hstart : '/' :: found = Path.slashed inner ++ ('/' :: folder.toList ++ '/' :: found') := by
    have hends : ('/' :: found) ++ tail =
        (Path.slashed inner ++ ('/' :: folder.toList ++ '/' :: found')) ++ tail := by
      simpa using hwhole
    exact List.append_cancel_right hends
  have hclear : '\n' ∉ Path.slashed inner ++ ('/' :: folder.toList ++ '/' :: found') := by
    rw [← hstart]
    simpa using hfound
  simp only [List.mem_append, List.mem_cons, not_or] at hclear
  have hagain : front ++ ('/' :: folder.toList ++ ['/'] ++ (found ++ tail)) =
      (front ++ '/' :: folder.toList ++ Path.slashed inner) ++
        ('/' :: folder.toList ++ ['/'] ++ (found' ++ tail)) := by
    have hfull := congrArg (front ++ '/' :: folder.toList ++ ·) hwhole
    simpa using hfull
  have hnone := hlast _ found' hagain (by simp [hfront, hline, hclear.1]) hclear.2.2.2
  simp only [List.length_append, List.length_cons] at hnone
  omega

/-- A set's name is what stands behind the last folder of its kind in the path, up to the ending. -/
theorem metadataName?_behind (hp : p.Plain)
    (hfolder : '/' ∉ folder.toList ∧ folder ≠ "" ∧ folder ≠ ".") (hline : '\n' ∉ folder.toList)
    (hending : '/' ∉ ending.toList) (h : metadataName? folder ending p = some name) :
    ∃ before behind, p.names = before ++ folder :: behind ∧ behind ≠ [] ∧
      folder ∉ behind.dropLast ∧ (String.intercalate "/" behind = name ++ ending ∨
        String.intercalate "/" behind = name ++ ending ++ "\n") := by
  obtain ⟨found, hfound, rfl⟩ := Option.map_eq_some_iff.mp h
  obtain ⟨front, rest, hsplit, hfront, hread, hlast⟩ := behindLast_last (by simp) hfound
  obtain ⟨tail, rfl, hstop, _⟩ := upToStop_eq_some hread
  have htail := isEnding_iff.mp hstop
  have hslash : '/' ∉ tail := by
    rcases htail with rfl | rfl
    · exact hending
    · simp [hending]
  obtain ⟨before, hnames⟩ := names_of_mark hp hfolder hsplit
  refine ⟨before, _, hnames, ?_, ?_, ?_⟩
  · simp
  · have hbetween := folder_not_mem_between hline hslash hfront
      (newline_not_mem_upToStop hread) fun front' found' hsplit' hfront' hfound' =>
        hlast front' (found' ++ tail) (hsplit.trans hsplit') hfront'
          (upToStop_isSome hfound' hstop)
    rw [← List.map_dropLast]
    intro hmem
    obtain ⟨piece, hpiece, rfl⟩ := List.mem_map.mp hmem
    rw [String.toList_ofList] at hbetween
    exact hbetween hpiece
  · have hwhole : (String.intercalate "/" (((found ++ tail).splitOn '/').map String.ofList)).toList =
        found ++ tail := by
      simp [String.toList_intercalate, Function.comp_def, List.intercalate_splitOn]
    rcases htail with rfl | rfl
    · exact .inl (String.toList_inj.mp (by simp [hwhole]))
    · exact .inr (String.toList_inj.mp (by simp [hwhole]))

end

/-- The folder of the files of sets that stand by themselves, and the ending of their names. -/
def ValueSetKind.setFile? : ValueSetKind → Option (String × String)
  | customField => none
  | standard => some ("standardValueSets", MetadataKind.standardValueSet.ending)
  | global => some ("globalValueSets", MetadataKind.globalValueSet.ending)

/-- A class goes right into a folder: its files stand there under the names they have. -/
def GeneratedClass.RightIn (c : GeneratedClass) (folder : Path) : Prop :=
  c.files folder = [(⟨folder.anchor, folder.names ++ [c.fileName]⟩, c.body),
    (⟨folder.anchor, folder.names ++ [c.metaFileName]⟩, c.stamp)]

theorem Path.child_eq_iff (p : Path) {s : String} {c : Char} (h : s.toList.getLast? = some c)
    (hpoint : c ≠ '.') : p.child s = ⟨p.anchor, p.names ++ [s]⟩ ↔ '/' ∉ s.toList := by
  constructor
  · intro hchild
    have hnames := congrArg Path.names hchild
    unfold child join ofText at hnames
    split at hnames
    · have hself : namesOf s = [s] := List.append_cancel_left hnames
      exact (mem_namesOf (show s ∈ namesOf s by simp [hself])).1
    · have hself : namesOf s = p.names ++ [s] := hnames
      exact (mem_namesOf (show s ∈ namesOf s by simp [hself])).1
  · intro hslash
    apply p.child_of_name hslash
    · rintro rfl
      cases h
    · rintro rfl
      simp at h
      exact hpoint h.symm

theorem GeneratedClass.rightIn_iff {c : GeneratedClass} {folder : Path} :
    c.RightIn folder ↔ '/' ∉ c.name.display.toList := by
  have hfile : '/' ∉ c.fileName.toList ↔ '/' ∉ c.name.display.toList := by simp [fileName]
  have hmeta : '/' ∉ c.metaFileName.toList ↔ '/' ∉ c.name.display.toList := by
    simp [metaFileName]
  rw [RightIn, files]
  simp only [List.cons.injEq, Prod.mk.injEq, and_true,
    folder.child_eq_iff c.getLast?_fileName (by decide),
    folder.child_eq_iff c.getLast?_metaFileName (by decide), hfile, hmeta, and_self]

section
variable {kind : ValueSetKind} {folder ending name : String} {p : Path} {reader : MetadataReader}
  {files : List Path} {sets : List ValueSet} {v : ValueSet} {g : ValueSetGenerator}

/-- A set that stands by itself has the name that the path of its file gives. -/
theorem name_of_load (hkind : kind.setFile? = some (folder, ending))
    (h : kind.load reader files = .ok sets) (hv : v ∈ sets) :
    ∃ p ∈ files, metadataName? folder ending p = some v.owner := by
  cases kind with
  | customField => cases hkind
  | standard =>
    cases hkind
    obtain ⟨p, hp, e, hmade⟩ := mem_of_records h hv
    obtain ⟨owner, howner, heq⟩ := bind_eq_ok.mp hmade
    cases heq
    exact ⟨p, hp, required_eq_ok howner⟩
  | global =>
    cases hkind
    obtain ⟨p, hp, e, hmade⟩ := mem_of_records h hv
    obtain ⟨owner, howner, heq⟩ := bind_eq_ok.mp hmade
    cases heq
    exact ⟨p, hp, required_eq_ok howner⟩

/-- Names without a slash between them are one name. -/
theorem eq_singleton_of_intercalate {names : List String} (hsome : names ≠ [])
    (h : '/' ∉ (String.intercalate "/" names).toList) : ∃ last, names = [last] := by
  cases names with
  | nil => exact absurd rfl hsome
  | cons first rest =>
    cases rest with
    | nil => exact ⟨first, rfl⟩
    | cons next rest =>
      rw [String.intercalate_cons_cons] at h
      simp at h

/-- The name of a set is the name of its file less the ending exactly when the file stands right in
the folder of its kind and no line feed ends its name. -/
theorem metadataName?_own_iff (hkind : kind.setFile? = some (folder, ending)) (hp : p.Plain)
    (h : metadataName? folder ending p = some name) :
    '/' ∉ name.toList ∧ p.name = name ++ ending ↔
      p.parent.name = folder ∧ p.name.toList.getLast? ≠ some '\n' := by
  have hfolder : ('/' ∉ folder.toList ∧ folder ≠ "" ∧ folder ≠ ".") ∧ '\n' ∉ folder.toList := by
    cases kind <;> cases hkind <;> decide
  have hending : '/' ∉ ending.toList ∧ ending.toList.getLast? = some 'l' := by
    cases kind <;> cases hkind <;> decide
  obtain ⟨before, behind, hnames, hsome, honce, hends⟩ :=
    metadataName?_behind hp hfolder.1 hfolder.2 hending.1 h
  constructor
  · rintro ⟨hslash, hname⟩
    have hwhole : '/' ∉ (String.intercalate "/" behind).toList := by
      rcases hends with h | h <;> simp [h, hslash, hending.1]
    obtain ⟨last, rfl⟩ := eq_singleton_of_intercalate hsome hwhole
    constructor
    · simp [Path.name, Path.parent, hnames]
    · simp [hname, List.getLast?_append, hending.2]
  · rintro ⟨hparent, hline⟩
    obtain ⟨between, last, rfl⟩ := (List.eq_nil_or_concat' behind).resolve_left hsome
    rw [List.dropLast_concat] at honce
    -- Anything between the folder and the file would end with the folder again.
    have hnone : between = [] := by
      rcases List.eq_nil_or_concat' between with rfl | ⟨front, next, rfl⟩
      · rfl
      · have hpath : p.names = (before ++ folder :: front) ++ [next] ++ [last] := by
          rw [hnames]
          simp only [List.append_assoc, List.cons_append]
        have hnext : next = folder := by
          rw [Path.name, Path.parent, hpath, List.dropLast_concat, List.getLastD_concat] at hparent
          exact hparent
        exact absurd (by simp [hnext]) honce
    subst hnone
    have hlast : p.name = last := by simp [Path.name, hnames]
    have hslash : '/' ∉ last.toList := (hp last (by simp [hnames])).1
    rw [hlast] at hline ⊢
    rw [List.nil_append, String.intercalate_singleton] at hends
    rcases hends with rfl | rfl
    · simp only [String.toList_append, List.mem_append, not_or] at hslash
      exact ⟨hslash.1, rfl⟩
    · rw [String.toList_append] at hline
      exact absurd List.getLast?_concat hline

/-- A base that a set gives shows a slash where its name does. -/
theorem slash_mem_cut_iff (hkind : kind.setFile? = some (folder, ending)) (hg : g.kind = kind)
    (room : Nat) :
    '/' ∈ (g.baseName v).toList.take room ↔ '/' ∈ v.owner.toList.take room := by
  unfold ValueSetGenerator.baseName
  rw [hg]
  cases kind with
  | customField => cases hkind
  | global => rfl
  | standard =>
    simp only [Apex.standardBase]
    split
    · rename_i htaken
      have hplatform : v.owner = "LeadStatus" := by
        simpa [Apex.platformTypeNames] using htaken
      constructor
      · intro h
        have hslash := List.mem_of_mem_take h
        rw [hplatform] at hslash
        exact absurd hslash (by decide)
      · intro h
        have hslash := List.mem_of_mem_take h
        rw [hplatform] at hslash
        exact absurd hslash (by decide)
    · rfl

/-- The files of standard and global value sets name their sets. A set has its file's own name
exactly when the file stands right in the folder of its kind and no line feed ends its name. Between
a prefix and a suffix without slashes, the class of a set has no slash in its name, and goes right
into the output folder, exactly when none is in what is left of the set's name. -/
theorem sets_named_by_files (hkind : kind.setFile? = some (folder, ending)) :
    (∀ (p : Path) (name : String), p.Plain → metadataName? folder ending p = some name →
      ('/' ∉ name.toList ∧ p.name = name ++ ending ↔
        p.parent.name = folder ∧ p.name.toList.getLast? ≠ some '\n')) ∧
    ∀ (reader : MetadataReader) (files : List Path) (sets chosen : List ValueSet)
      (g : ValueSetGenerator) (namer : Apex.Namer) (lead trail : String) (result : Result)
      (output : Path),
      kind.load reader files = .ok sets → chosen ⊆ sets → g.kind = kind →
      '/' ∉ lead.toList → '/' ∉ trail.toList →
      ((g.between lead trail).generate namer chosen).outcome = .ok result →
      ∀ c ∈ result.classes, ∃ p ∈ files, ∃ name, metadataName? folder ending p = some name ∧
        ∃ text, c.name = .str text ∧
          ('/' ∉ text.toList ↔ '/' ∉ name.toList.take (40 - lead.length - trail.length)) ∧
          (c.RightIn output ↔ '/' ∉ text.toList) := by
  refine ⟨fun p name hp h => metadataName?_own_iff hkind hp h, ?_⟩
  intro reader files sets chosen g namer lead trail result output hload hchosen hg hlead htrail
    hgenerate c hc
  obtain ⟨v, hv, hyield⟩ := (ValueSetGenerator.mem_classes_iff rfl hgenerate).mp hc
  obtain ⟨p, hp, hname⟩ := name_of_load hkind hload (hchosen hv)
  refine ⟨p, hp, v.owner, hname, ?_⟩
  rcases ValueSetGenerator.yield_cases hyield with ⟨_, hskipped⟩ | ⟨_, body, stamp, hclass⟩
  · cases hskipped
  · cases hclass
    refine ⟨_, rfl, ?_, GeneratedClass.rightIn_iff⟩
    rw [← slash_mem_cut_iff hkind hg, ValueSetGenerator.className_between,
      Apex.text_affixed]
    simp [hlead, htrail]

def regionFile : Path :=
  .ofText "m/globalValueSets/old/globalValueSets/Region.globalValueSet-meta.xml"

def regionElement : Xml.Element where
  name := ⟨none, "GlobalValueSet"⟩
  children := [
    { name := ⟨none, "customValue"⟩
      children := [{ name := ⟨none, "fullName"⟩, text := some "North" }] }]

/-- The file names its set, and the class of the set goes right into the output folder. -/
theorem set_named_by_file :
    ValueSetKind.global.setFile? = some ("globalValueSets", ".globalValueSet-meta.xml") ∧
      metadataName? "globalValueSets" ".globalValueSet-meta.xml" regionFile = some "Region" ∧
      ('/' ∉ "Region".toList ∧ regionFile.name = "Region" ++ ".globalValueSet-meta.xml") ∧
      ∃ sets result c, ValueSetKind.global.load (fun _ => .ok regionElement) [regionFile] =
          .ok sets ∧
        (({ apiVersion := "60.0", kind := .global } : ValueSetGenerator).generate .standard
          sets).outcome = .ok result ∧
        c ∈ result.classes ∧ c.RightIn (.ofText "out") := by
  have hkind : ValueSetKind.global.setFile? =
      some ("globalValueSets", ".globalValueSet-meta.xml") := rfl
  have hname : metadataName? "globalValueSets" ".globalValueSet-meta.xml" regionFile =
      some "Region" := rfl
  obtain ⟨howns, hclasses⟩ := sets_named_by_files hkind
  refine ⟨hkind, hname, ?_, ?_⟩
  · exact (howns regionFile "Region" (Path.plain_ofText _) hname).mpr ⟨rfl, by decide⟩
  · let g : ValueSetGenerator := { apiVersion := "60.0", kind := .global }
    let region : ValueSet := ⟨"Region", .global, [some "North"], none, some regionFile.text⟩
    have hload : ValueSetKind.global.load (fun _ => .ok regionElement) [regionFile] =
        .ok [region] := rfl
    obtain ⟨result, c, hresult, hc, _⟩ :=
      ValueSetGenerator.generate_alone (g := g) (v := region) rfl (by decide)
    refine ⟨[region], result, c, hload, hresult, hc, ?_⟩
    obtain ⟨p, hp, name, hfound, text, _, hclear, hright⟩ :=
      hclasses _ _ [region] [region] g .standard "" "" result (.ofText "out") hload
        (List.Subset.refl _) rfl (by decide) (by decide) hresult c hc
    rw [List.mem_singleton.mp hp, hname] at hfound
    cases hfound
    exact hright.mpr (hclear.mpr (by decide))

/-- A file in a folder within has that folder in its set's name and in the name of the class, which
then goes into a folder within the output folder, and a line feed behind the ending is passed over.
-/
theorem set_named_by_folder :
    metadataName? "globalValueSets" ".globalValueSet-meta.xml"
        (.ofText "m/globalValueSets/sub/B.globalValueSet-meta.xml") = some "sub/B" ∧
      '/' ∈ "sub/B".toList ∧
      (({ apiVersion := "60.0", kind := .global } : ValueSetGenerator).className
        ⟨"sub/B", .global, [], none, none⟩).text = "sub/B" ∧
      Path.child (.ofText "out") "sub/B.cls" = .ofText "out/sub/B.cls" ∧
    metadataName? "globalValueSets" ".globalValueSet-meta.xml"
        (.ofText "m/globalValueSets/B.globalValueSet-meta.xml\n") = some "B" ∧
      Path.name (.ofText "m/globalValueSets/B.globalValueSet-meta.xml\n") ≠
        "B" ++ ".globalValueSet-meta.xml" := by
  refine ⟨rfl, by decide, rfl, by decide, rfl, by decide⟩

end

end ApexConstants
