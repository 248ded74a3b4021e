import ApexConstants.Proofs.ClassPaths
import ApexConstants.Proofs.ValueSetGenerations
import Mathlib.Data.List.Nodup

namespace ApexConstants.ValueSetGenerator
open Apex (Namer)

def cutBase (g : ValueSetGenerator) (v : ValueSet) : List Char :=
  (g.baseName v).toList.take ((g.className v).room Apex.classNameLimit).toNat

def cutBases (g : ValueSetGenerator) (sets : List ValueSet) : List (List Char) :=
  (sets.filter ValueSet.hasLabel).map g.cutBase

def fileOf (g : ValueSetGenerator) (base : List Char) : String :=
  g.lead.text ++ String.ofList base ++ g.trail.text ++ ".cls"

theorem fileOf_injective (g : ValueSetGenerator) : Function.Injective g.fileOf := by
  intro b b' h
  have hchars := congrArg String.toList h
  simpa [fileOf, String.toList_append] using hchars

theorem generate_files {g : ValueSetGenerator} {namer : Namer} {sets : List ValueSet}
    {result : Result} (h : (g.generate namer sets).outcome = .ok result) :
    result.classes.map GeneratedClass.fileName = (g.cutBases sets).map g.fileOf := by
  have hfile : GeneratedClass.fileName =
      (fun name => name.display ++ ".cls") ∘ GeneratedClass.name := rfl
  rw [hfile, ← List.map_map]
  change result.classNames.map _ = _
  rw [generate_names h, namesOf, cutBases, List.map_map, List.map_map]
  rfl

/-- The files of classes clash exactly when cut bases do. After a run a class is in its file unless
the path of a later class leads there too, so that without a clash every class is. -/
theorem classes_kept (g : ValueSetGenerator) (namer : Namer) (sets : List ValueSet) :
    (∀ generated, (g.generate namer sets).outcome = .ok generated →
      ((generated.classes.map GeneratedClass.fileName).Nodup ↔ (g.cutBases sets).Nodup)) ∧
    ∀ (folder : Path) (t after : Tree) (generation : ValueSetGeneration) (result : Result),
      g.run namer sets folder treeWriter t = (generation, after) →
      generation.outcome = .ok result →
      (∀ earlier c later, result.classes = earlier ++ c :: later →
        (∀ d ∈ later, after.locate (folder.child d.fileName) ≠
          after.locate (folder.child c.fileName)) →
        after.read (folder.child c.fileName) = .ok c.body.toUTF8) ∧
      ((g.cutBases sets).Nodup → (∀ c ∈ result.classes, '/' ∉ c.fileName.toList) →
        ∀ c ∈ result.classes, after.read (folder.child c.fileName) = .ok c.body.toUTF8) := by
  have hnodup : ∀ generated, (g.generate namer sets).outcome = .ok generated →
      ((generated.classes.map GeneratedClass.fileName).Nodup ↔ (g.cutBases sets).Nodup) := by
    intro generated hgenerated
    rw [generate_files hgenerated]
    exact List.nodup_map_iff g.fileOf_injective
  refine ⟨hnodup, ?_⟩
  intro folder t after generation result hrun hok
  have hfirst : (g.run namer sets folder treeWriter t).1.outcome = .ok result := by rw [hrun, hok]
  obtain ⟨generated, hgenerated, hclasses, hwritten⟩ := run_ok hfirst
  rw [hrun] at hwritten
  have hwrote := Tree.wroteAll_writeFiles hwritten
  have hkept : ∀ earlier c later, result.classes = earlier ++ c :: later →
      (∀ d ∈ later, after.locate (folder.child d.fileName) ≠
        after.locate (folder.child c.fileName)) →
      after.read (folder.child c.fileName) = .ok c.body.toUTF8 := by
    intro earlier c later hsplit hlater
    rw [hsplit] at hwrote
    exact hwrote.read_class hlater
  refine ⟨hkept, ?_⟩
  intro hbases hslash c hc
  obtain ⟨earlier, later, hsplit⟩ := List.append_of_mem hc
  refine hkept earlier c later hsplit ?_
  -- One place means one file name, and those differ.
  intro d hd heq
  have hd' : d ∈ result.classes := by simp [hsplit, hd]
  obtain ⟨l, hl⟩ := hwrote.located (folder.child c.fileName, c.body)
    (List.mem_flatMap.mpr ⟨c, hc, List.mem_cons_self⟩)
  have hname := Tree.fileName_eq_of_locate hl (heq.trans hl) (hslash c hc) (hslash d hd')
  have hnames := (hnodup generated hgenerated).mpr hbases
  rw [← hclasses, hsplit, List.map_append, List.map_cons] at hnames
  have hfresh := (List.nodup_cons.mp (List.nodup_append.mp hnames).2.1).1
  exact hfresh (List.mem_map.mpr ⟨d, hd, hname.symm⟩)

def plainFields : ValueSetGenerator := ⟨"60.0", .customField, {}, {}, "_", .shipped⟩

def accountField (name label : String) : ValueSet :=
  ⟨"Account__c", .customField, [some label], some name, none⟩

/-- Two fields whose classes do not clash. -/
theorem classes_kept_account :
    ∃ result, (run plainFields .standard
        [accountField "Status__c" "New", accountField "Rating__c" "Hot"]
        .here treeWriter (.empty ["work"])).1.outcome = .ok result ∧
      ∀ c ∈ result.classes, (run plainFields .standard
        [accountField "Status__c" "New", accountField "Rating__c" "Hot"]
        .here treeWriter (.empty ["work"])).2.read (Path.here.child c.fileName) =
          .ok c.body.toUTF8 := by
  obtain ⟨generated, files, hgenerated, hfiles, hnames⟩ : ∃ (generated : Result)
      (files : List (String × String)),
      (generate plainFields .standard
        [accountField "Status__c" "New", accountField "Rating__c" "Hot"]).outcome =
        .ok generated ∧
      generated.classes.flatMap (·.files .here) = files.map (fun f => (⟨.here, [f.1]⟩, f.2)) ∧
      files.map Prod.fst = ["AccountStatus.cls", "AccountStatus.cls-meta.xml",
        "AccountRating.cls", "AccountRating.cls-meta.xml"] :=
    ⟨_, [(_, _), (_, _), (_, _), (_, _)], rfl, rfl, rfl⟩
  obtain ⟨after, hwritten⟩ := Tree.writeFiles_here (.empty ["work"]) files (by
    rw [hnames]
    simp only [List.forall_mem_cons]
    refine ⟨⟨⟨by decide, by decide, by decide⟩, ?_⟩, ⟨⟨by decide, by decide, by decide⟩, ?_⟩,
      ⟨⟨by decide, by decide, by decide⟩, ?_⟩, ⟨⟨by decide, by decide, by decide⟩, ?_⟩, by simp⟩
    all_goals exact fun h => nomatch h)
  rw [← hfiles] at hwritten
  obtain ⟨result, hok⟩ := run_outcome hgenerated hwritten
  have hkept := (classes_kept plainFields .standard
    [accountField "Status__c" "New", accountField "Rating__c" "Hot"]).2 .here (.empty ["work"])
    _ _ result (Prod.eta _).symm hok
  have hclasses : result.classes.map GeneratedClass.fileName =
      ["AccountStatus.cls", "AccountRating.cls"] := by
    obtain ⟨generated', hgenerated', hsame, _⟩ := run_ok hok
    rw [hsame, generate_files hgenerated']
    rfl
  refine ⟨result, hok, hkept.2 (by decide) ?_⟩
  intro c hc
  have hname : c.fileName ∈ result.classes.map GeneratedClass.fileName := List.mem_map_of_mem hc
  rw [hclasses] at hname
  revert hname
  generalize c.fileName = name
  revert name
  decide

/-- Two fields that an underscore alone tells apart make one class, so that the second takes the
place of the first. -/
theorem classes_clash :
    ∃ g : ValueSetGenerator, ∃ sets : List ValueSet, ∃ result,
      g.lead.size + g.trail.size < 40 ∧ (∀ v ∈ sets, v.kind = g.kind) ∧
      (sets.map ValueSet.qualifiedName).Nodup ∧
      (g.generate .standard sets).outcome = .ok result ∧
      ¬ (result.classes.map GeneratedClass.fileName).Nodup := by
  obtain ⟨result, hok⟩ : ∃ result, (generate plainFields .standard
      [accountField "Status__c" "New", accountField "Stat_us__c" "Hot"]).outcome = .ok result :=
    ⟨_, rfl⟩
  refine ⟨plainFields, [accountField "Status__c" "New", accountField "Stat_us__c" "Hot"], result,
    by decide, by decide, by decide, hok, ?_⟩
  rw [generate_files hok, List.nodup_map_iff plainFields.fileOf_injective]
  decide

end ApexConstants.ValueSetGenerator
