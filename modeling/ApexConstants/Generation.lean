import ApexConstants.Metadata
import ApexConstants.Options.Load
import ApexConstants.Project
import ApexConstants.RecordTypes
import ApexConstants.ValueSets

namespace ApexConstants

open Apex (Affix Namer)

structure Workplace where
  tree : Tree
  namer : Namer := Namer.standard
  log : List LogEntry := []

abbrev Work (α : Type) := ExceptT Failure (StateM Workplace) α

namespace Work

def doneAt {α : Type} (work : Work α) (w : Workplace) : Except Failure α × Workplace := work.run w

def report (entries : List LogEntry) : Work Unit :=
  modify fun w => { w with log := w.log ++ entries }

def ofExcept {α : Type} : Except Failure α → Work α
  | .ok a => pure a
  | .error fault => throw fault

def attempt {α : Type} (work : Work α) : Work (Except Failure α) := fun w =>
  let (outcome, after) := work.doneAt w
  (.ok outcome, after)

end Work

def settleOptions (o : Options) : Work (Project × Options) := do
  let reply := o.resolve (← get).tree
  Work.report reply.log
  return (reply.project, ← Work.ofExcept reply.outcome)

def metadataFiles (kind : MetadataKind) (folder : Path) : Work (List Path) := do
  Work.ofExcept (((← get).tree.findMetadata kind folder).mapError Failure.file)

def includedRecords {α : Type} (o : Options) (names : α → List String) (records : List α) :
    Work (List α) :=
  Work.ofExcept
    ((filterIncluded (o.value .included) (fun r => (names r).map fun name => .ok (.str name))
      records).mapError Failure.value)

namespace ValueSetKind

def metadata : ValueSetKind → MetadataKind
  | customField => .customField
  | standard => .standardValueSet
  | global => .globalValueSet

def ignoreFlag : ValueSetKind → OptionName
  | customField => .ignorePicklists
  | standard => .ignoreStandardValueSets
  | global => .ignoreGlobalValueSets

def affixes : ValueSetKind → OptionName × OptionName
  | customField => (.picklistPrefix, .picklistSuffix)
  | standard => (.standardValueSetPrefix, .standardValueSetSuffix)
  | global => (.globalValueSetPrefix, .globalValueSetSuffix)

def announcement : ValueSetKind → LogEntry
  | customField => .info "Building constant classes from custom fields."
  | standard => .info "Building constant classes from standard value sets."
  | global => .info "Building constant classes from global value sets."

def load : ValueSetKind → MetadataReader → List Path → Except Failure (List ValueSet)
  | customField => loadCustomFields
  | standard => loadStandardValueSets
  | global => loadGlobalValueSets

def names (kind : ValueSetKind) (v : ValueSet) : List String :=
  match kind with
  | customField => [v.owner, v.qualifiedName]
  | _ => [v.owner]

def isEnabled (o : Options) (kind : ValueSetKind) : Bool := !(o.value kind.ignoreFlag).isTruthy

end ValueSetKind

def Options.text (o : Options) (name : OptionName) : Except Failure String :=
  match o.value name with
  | .str s => .ok s
  | _ => .error (.value .wrongType)

def Options.affix (o : Options) (name : OptionName) : Except Failure Affix :=
  match Affix.ofJson? (o.value name) with
  | some affix => .ok affix
  | none => .error (.value .wrongType)

def ValueSetGenerator.ofOptions (o : Options) (kind : ValueSetKind) :
    Except Failure ValueSetGenerator := do
  let (lead, trail) := kind.affixes
  return {
    apiVersion := (o.value .sourceApiVersion).display
    kind
    joiner := ← if kind == .customField then o.text .picklistInfix else pure "_"
    lead := ← o.affix lead
    trail := ← o.affix trail }

/-- The generator for some value sets. Where there is none the options for names are not looked
at. -/
def ValueSetGenerator.forSets (o : Options) (kind : ValueSetKind) (sets : List ValueSet) :
    Except Failure ValueSetGenerator :=
  if sets.isEmpty then .ok { apiVersion := "", kind } else ValueSetGenerator.ofOptions o kind

def writeSets (output : Path) (g : ValueSetGenerator) (sets : List ValueSet) : Work Result := do
  let w ← get
  let (generation, tree) := g.run w.namer sets output treeWriter w.tree
  set { w with tree, namer := generation.namer }
  Work.report generation.log
  Work.ofExcept generation.outcome

/-- Looks for the files of a kind of value sets. Custom fields are announced before that. -/
def searchKind (project : Path) (kind : ValueSetKind) : Work (List Path) := do
  Work.report (if kind == .customField then [kind.announcement] else [])
  metadataFiles kind.metadata project

/-- Generates the classes for the value sets in the files of a kind and writes them. Kinds other
than custom fields are announced when the files have been read. -/
def finishKind (output : Path) (o : Options) (kind : ValueSetKind) (reader : MetadataReader)
    (files : List Path) : Work Result := do
  let loaded ← Work.ofExcept (kind.load reader files)
  Work.report (if kind == .customField then [] else [kind.announcement])
  let sets ← includedRecords o kind.names loaded
  let g ← Work.ofExcept (ValueSetGenerator.forSets o kind sets)
  writeSets output g sets

def generateKind (project output : Path) (o : Options) (kind : ValueSetKind) : Work Result := do
  let files ← searchKind project kind
  finishKind output o kind (← get).tree.readMetadata files

/-- What comes after the search for the files of a kind, which may have failed. -/
def finishFound (output : Path) (o : Options) (kind : ValueSetKind)
    (found : Except Failure (List Path)) : Work Result := do
  finishKind output o kind (← get).tree.readMetadata (← Work.ofExcept found)

/-- Generates kinds of value sets, each whether or not another fails. All of them have looked for
their files before the first one goes on. -/
def generateKinds (project output : Path) (o : Options) (kinds : List ValueSetKind) :
    Work (List (ValueSetKind × Except Failure Result)) := do
  let searched ← kinds.mapM fun kind => do
    return (kind, ← Work.attempt (searchKind project kind))
  searched.mapM fun (kind, found) => do
    return (kind, ← Work.attempt (finishFound output o kind found))

/-- The outcomes in the order of the kinds, whatever order they came in. -/
def inKindOrder (outcomes : List (ValueSetKind × Except Failure Result)) :
    List (Except Failure Result) :=
  ValueSetKind.all.filterMap fun kind => outcomes.lookup kind

def failuresIn (outcomes : List (Except Failure Result)) : List Failure :=
  outcomes.filterMap fun outcome => match outcome with
    | .error fault => some fault
    | .ok _ => none

def resultsIn (outcomes : List (Except Failure Result)) : List Result :=
  outcomes.filterMap Except.toOption

def alsoFailed (fault : Failure) : LogEntry :=
  .error ("Value set generation also failed: " ++ fault.logText)

def combine (output : Path) (results : List Result) : Result :=
  let kinds := results.map fun r => (Json.get? r.facts "kind").getD .null
  results.foldl Result.extend { facts := [("output_dir", .str output.text), ("kinds", .arr kinds)] }

def summary (r : Result) : LogEntry :=
  .info ("Generated " ++ toString r.classes.length ++ " class(es), skipped " ++
    toString r.skipped.length ++ " value set(s)")

def conclude (output : Path) (outcomes : List (Except Failure Result)) : Work Result := do
  match failuresIn outcomes with
  | first :: others => do
    Work.report (others.map alsoFailed)
    throw first
  | [] => do
    let result := combine output (resultsIn outcomes)
    Work.report [summary result]
    return result

def openPicklists (o : Options) : Work (Path × Options × Path) := do
  let (project, settled) ← settleOptions o
  return (project.folder, settled, ← Work.ofExcept (pathOf (settled.value .outputDir)))

def generatePicklistsIn (order : List ValueSetKind) (o : Options) : Work Result := do
  let (project, settled, output) ← openPicklists o
  let outcomes ← generateKinds project output settled (order.filter (·.isEnabled settled))
  conclude output (inKindOrder outcomes)

def generatePicklists (o : Options) : Work Result := generatePicklistsIn ValueSetKind.all o

def RecordTypeGenerator.ofOptions (o : Options) : RecordTypeGenerator where
  apiVersion := (o.value .sourceApiVersion).display
  className := o.value .outputClassName
  activeOnly := !(o.value .includeInactive).isTruthy
  withTest := !(o.value .ignoreTestClass).isTruthy

def generateRecordTypes (o : Options) : Work Result := do
  let (project, settled) ← settleOptions o
  let files ← metadataFiles .recordType project.folder
  let loaded ← Work.ofExcept (loadRecordTypes (← get).tree.readMetadata files)
  let records ← includedRecords settled (fun r => [r.objectName, r.qualifiedName]) loaded
  let output ← Work.ofExcept (pathOf (settled.value .outputDir))
  let w ← get
  let (log, tree, outcome) :=
    (RecordTypeGenerator.ofOptions settled).run records output treeWriter w.tree
  set { w with tree }
  Work.report log
  Work.ofExcept outcome

def generate (o : Options) : Work Result :=
  match o.kind with
  | .picklists => generatePicklists o
  | .recordTypes => generateRecordTypes o

def generateFromConfig (kindName : String) (file : Option Path) (overrides : Json.Members) :
    Work Result := do
  generate (← Work.ofExcept (loadOptions (← get).tree kindName file overrides))

end ApexConstants
