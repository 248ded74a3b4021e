import ApexConstants.Apex.Names
import ApexConstants.Apex.Source
import ApexConstants.Failure
import ApexConstants.Generated
import ApexConstants.Log

namespace ApexConstants

inductive ValueSetKind
  | customField
  | standard
  | global
deriving DecidableEq, Repr

namespace ValueSetKind

def all : List ValueSetKind := [customField, standard, global]

def text : ValueSetKind → String
  | customField => "CustomField"
  | standard => "StandardValueSet"
  | global => "GlobalValueSet"

def description : ValueSetKind → String
  | customField => "custom field value set"
  | standard => "standard value set"
  | global => "global value set"

def ofText? (s : String) : Option ValueSetKind := all.find? fun kind => kind.text == s

end ValueSetKind

structure ValueSet where
  owner : String
  kind : ValueSetKind
  values : List (Option String) := []
  member : Option String := none
  source : Option String := none
deriving DecidableEq, Repr

namespace ValueSet

def qualifiedName (v : ValueSet) : String :=
  match v.member with
  | none => v.owner
  | some member => if member.isEmpty then v.owner else v.owner ++ "." ++ member

def headerComment (v : ValueSet) : String := v.qualifiedName ++ " " ++ v.kind.description ++ "."

end ValueSet

open Apex (Constant Namer)

structure Clash where
  value : String
  name : String
  kept : String
deriving DecidableEq, Repr

def Clash.message (c : Clash) : String :=
  "Value " ++ Text.quoted c.value ++ " maps to constant " ++ c.name ++ " already used by " ++
    Text.quoted c.kept ++ "; keeping the first"

structure Tally where
  namer : Namer
  constants : List Constant := []
  clashes : List Clash := []

namespace Tally

/-- Takes a label that is not empty. Of labels with one constant name the first is kept. -/
def addLabel (t : Tally) (value : String) : Tally :=
  let (name, namer) := t.namer.constantName value
  match t.constants.find? (·.name == name) with
  | some first => { t with namer, clashes := t.clashes ++ [⟨value, name, first.value⟩] }
  | none => { t with namer, constants := t.constants ++ [⟨name, value⟩] }

def add (t : Tally) : Option String → Tally
  | none => t
  | some value => if value.isEmpty then t else t.addLabel value

def ofLabels (namer : Namer) (labels : List (Option String)) : Tally :=
  labels.foldl add { namer }

def warnings (t : Tally) : List String := t.clashes.map Clash.message

def clash? (t : Tally) : Option String → Option Clash
  | none => none
  | some value =>
    if value.isEmpty then none
    else
      let name := (t.namer.constantName value).1
      (t.constants.find? (·.name == name)).map fun first => ⟨value, name, first.value⟩

/-- Goes on with labels. Where warnings are collected, each clash is told to them at once. -/
def collect (t : Tally) (warnings : Option (List String)) :
    List (Option String) → Tally × Option (List String)
  | [] => (t, warnings)
  | label :: rest =>
    (t.add label).collect (warnings.map (· ++ ((t.clash? label).map Clash.message).toList)) rest

end Tally

/-- The labels in a list of values, up to the first value that is given and is no text or has no
identifier. -/
def labelsOf (rules : Apex.Sanitizer) : List Json → List (Option String) × Except ValueFault Unit
  | [] => ([], .ok ())
  | .str s :: rest =>
    if s.isEmpty || rules.hasName s then
      let (labels, outcome) := labelsOf rules rest
      (some s :: labels, outcome)
    else ([], .error .noAttribute)
  | value :: rest =>
    if value.isTruthy then ([], .error .wrongType)
    else
      let (labels, outcome) := labelsOf rules rest
      (none :: labels, outcome)

open Apex (Affix ClassName Constant Namer Template TemplateFolder)

structure ValueSetGenerator where
  apiVersion : String
  kind : ValueSetKind
  lead : Affix := {}
  trail : Affix := {}
  joiner : String := "_"
  folder : TemplateFolder := .shipped
deriving DecidableEq, Repr

inductive Yield
  | generated (c : GeneratedClass)
  | skipped (name : String)
deriving Repr

structure Contribution where
  namer : Namer
  warnings : List String
  log : List LogEntry
  yield : Except Failure Yield

structure ValueSetGeneration where
  namer : Namer
  log : List LogEntry
  outcome : Except Failure Result

def Result.add (r : Result) (warnings : List String) : Yield → Result
  | .generated c => { r with classes := r.classes ++ [c], warnings := r.warnings ++ warnings }
  | .skipped name => { r with skipped := r.skipped ++ [name], warnings := r.warnings ++ warnings }

namespace ValueSetGenerator

def baseName (g : ValueSetGenerator) (v : ValueSet) : String :=
  match g.kind with
  | .customField => Apex.fieldBase v.owner (v.member.getD "") g.joiner
  | .standard => Apex.standardBase v.owner
  | .global => v.owner

def className (g : ValueSetGenerator) (v : ValueSet) : ClassName :=
  { base := g.baseName v, lead := g.lead, trail := g.trail }

def body? (g : ValueSetGenerator) (constants : List Constant) (description className : String) :
    Except Failure (Option String) :=
  if constants.isEmpty then .ok none
  else do
    g.folder.check .valueSet
    return some (Apex.tidy (Apex.valueSetSource description className constants))

def stamp (g : ValueSetGenerator) : Except Failure String := do
  g.folder.check .classMeta
  return Apex.metaSource g.apiVersion

def yield (g : ValueSetGenerator) (v : ValueSet) (constants : List Constant) :
    Except Failure Yield := do
  let className := (g.className v).text
  match ← g.body? constants v.headerComment className with
  | none => return .skipped v.qualifiedName
  | some body => return .generated ⟨.str className, body, ← g.stamp, some v.qualifiedName⟩

def contribution (g : ValueSetGenerator) (namer : Namer) (v : ValueSet) : Contribution :=
  let tally := Tally.ofLabels namer v.values
  let outcome := g.yield v tally.constants
  { namer := tally.namer
    warnings := tally.warnings
    log := (g.className v).warning?.toList.map LogEntry.warning ++
      tally.warnings.map LogEntry.warning ++
      match outcome with
      | .ok (.skipped name) => [.info ("No values, skipping: " ++ name)]
      | _ => []
    yield := outcome }

def add (g : ValueSetGenerator) (so : ValueSetGeneration) (v : ValueSet) : ValueSetGeneration :=
  match so.outcome with
  | .error _ => so
  | .ok result =>
    let c := g.contribution so.namer v
    { namer := c.namer
      log := so.log ++ c.log
      outcome := match c.yield with
        | .ok yield => .ok (result.add c.warnings yield)
        | .error fault => .error fault }

def start (g : ValueSetGenerator) (namer : Namer) : ValueSetGeneration :=
  ⟨namer, [], .ok { facts := [("kind", .str g.kind.text)] }⟩

def generate (g : ValueSetGenerator) (namer : Namer) (sets : List ValueSet) : ValueSetGeneration :=
  sets.foldl g.add (g.start namer)

def run {store : Type} (g : ValueSetGenerator) (namer : Namer) (sets : List ValueSet)
    (folder : Path) (writer : Writer store Failure) (s : store) : ValueSetGeneration × store :=
  let generation := g.generate namer sets
  match generation.outcome with
  | .error _ => (generation, s)
  | .ok result =>
    let (noted, after, outcome) := result.write writer folder s
    ({ generation with outcome := outcome.map fun _ => noted }, after)

end ValueSetGenerator

end ApexConstants
