import ApexConstants.Apex.Names
import ApexConstants.Apex.Source
import ApexConstants.Generated
import ApexConstants.Log

namespace ApexConstants

structure RecordType where
  objectName : String
  developerName : Option String
  active : Bool := false
  source : Option String := none
deriving DecidableEq, Repr

namespace RecordType

/-- Object and developer name, the latter a question mark when it is missing. -/
def qualifiedName (r : RecordType) : String :=
  let developer := r.developerName.getD ""
  r.objectName ++ "." ++ (if developer.isEmpty then "?" else developer)

def included (activeOnly : Bool) (r : RecordType) : Bool := !activeOnly || r.active

end RecordType

open Apex (Accessors TemplateFolder)

structure RecordTypeGenerator where
  apiVersion : String
  className : Json := .str "RecordTypes"
  activeOnly : Bool := true
  withTest : Bool := true
  folder : TemplateFolder := .shipped
deriving Repr

def RecordType.accessors (r : RecordType) : Except NameFault Accessors :=
  let developer := r.developerName.getD ""
  if developer.isEmpty then .error (.noDeveloperName r.objectName r.source)
  else if !Apex.acceptsName developer then
    .error (.badDeveloperName r.objectName developer r.source)
  else .ok
    { infoName := Apex.infoPropertyName r.objectName developer
      idName := Apex.idPropertyName r.objectName developer
      objectName := r.objectName
      developerName := developer }

def accessorsOf (activeOnly : Bool) (records : List RecordType) :
    Except NameFault (List Accessors) :=
  (records.filter (·.included activeOnly)).mapM RecordType.accessors

namespace RecordTypeGenerator

def testClassName (g : RecordTypeGenerator) : String := g.className.display ++ "Test"

def nameOr (g : RecordTypeGenerator) (className : Json) : String :=
  (if className.isTruthy then className else g.className).display

def render (g : RecordTypeGenerator) (records : List RecordType)
    (activeOnly : Option Bool := none) (className : Json := .null) :
    Except Failure String := do
  let accessors ← (accessorsOf (activeOnly.getD g.activeOnly) records).mapError Failure.name
  g.folder.check .recordTypes
  return Apex.tidy (Apex.recordTypesSource (g.nameOr className) accessors)

def renderTest (g : RecordTypeGenerator) (records : List RecordType)
    (activeOnly : Option Bool := none) (className : Json := .null) :
    Except Failure String := do
  let accessors ← (accessorsOf (activeOnly.getD g.activeOnly) records).mapError Failure.name
  g.folder.check .recordTypesTest
  let name := g.nameOr className
  return Apex.tidy (Apex.recordTypesTestSource (name ++ "Test") name (accessors.map (·.idName)))

def stamp (g : RecordTypeGenerator) : Except Failure String := do
  g.folder.check .classMeta
  return Apex.metaSource g.apiVersion

/-- The class and, if wanted, its test. Both are rendered before anything is written, so that a
record type without a usable name stops the generation while no file has been touched. -/
def generate (g : RecordTypeGenerator) (records : List RecordType) : Except Failure Result := do
  let body ← g.render records
  let stamp ← g.stamp
  let main : GeneratedClass := ⟨g.className, body, stamp, none⟩
  let test : List GeneratedClass ←
    if g.withTest then do pure [⟨.str g.testClassName, ← g.renderTest records, stamp, none⟩]
    else pure []
  return { classes := main :: test, facts := [("kind", .str "RecordType")] }

def announcement (g : RecordTypeGenerator) (folder : Path) (c : GeneratedClass) : LogEntry :=
  .info ("Writing record types" ++ (if c.name == .str g.testClassName then " test" else "") ++ " to " ++
    (folder.child c.fileName).text)

def run {store : Type} (g : RecordTypeGenerator) (records : List RecordType) (folder : Path)
    (writer : Writer store Failure) (s : store) : List LogEntry × store × Except Failure Result :=
  match g.generate records with
  | .error fault => ([], s, .error fault)
  | .ok result =>
    let (noted, after, outcome) := result.write writer folder s
    (result.classes.map (g.announcement folder), after, outcome.map fun _ => noted)

end RecordTypeGenerator

end ApexConstants
