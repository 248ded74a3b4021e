import ApexConstants.Failure
import ApexConstants.Log
import ApexConstants.Options.Basic

namespace ApexConstants

def projectFile : String := "sfdx-project.json"

structure Project where
  folder : Path
  config : Option (Json.Members) := none

inductive ProjectQuestion
  | isProject
  | configPath
  | config
  | apiVersion
  | packageFolder
  | outputFolder
deriving DecidableEq, Repr

structure ProjectReply (α : Type) where
  outcome : Except Failure α
  project : Project
  log : List LogEntry := []

namespace Project

def configPath (p : Project) : Path := p.folder.child projectFile

def isProject (p : Project) (t : Tree) : Except Failure Bool :=
  (t.isFile p.configPath).mapError Failure.file

def readConfig (p : Project) (t : Tree) :
    Except Failure (Json.Members) × List LogEntry :=
  let broken : Failure := .config (.brokenProject p.configPath)
  let complaint := LogEntry.error ("Failed to parse " ++ p.configPath.text ++ ": ")
  match p.isProject t with
  | .error fault => (.error fault, [])
  | .ok false => (.error (.config (.notProject p.folder)), [])
  | .ok true =>
    match t.read p.configPath with
    | .error _ => (.error broken, [complaint])
    | .ok content =>
      match String.fromUTF8? content with
      | none => (.error (.value .undecodable), [])
      | some text =>
        match Json.read text with
        | .error fault =>
          match ValueFault.ofJson? fault with
          | some fault => (.error (.value fault), [])
          | none => (.error broken, [complaint])
        | .ok (.obj members) => (.ok members, [])
        | .ok _ => (.error broken, [])

/-- The object in the project file, which is kept once it has been read. -/
def load (p : Project) (t : Tree) : ProjectReply (Json.Members) :=
  match p.config with
  | some members => ⟨.ok members, p, []⟩
  | none =>
    match p.readConfig t with
    | (.ok members, log) => ⟨.ok members, { p with config := some members }, log⟩
    | (.error fault, log) => ⟨.error fault, p, log⟩

def ask {α : Type} (p : Project) (t : Tree)
    (question : Json.Members → Except Failure α) : ProjectReply α :=
  let reply := p.load t
  ⟨reply.outcome.bind question, reply.project, reply.log⟩

def apiVersionIn (p : Project) (config : Json.Members) : Except Failure String :=
  match Json.get? config "sourceApiVersion" with
  | some version =>
    if version.isTruthy then .ok version.display
    else .error (.config (.noApiVersion p.configPath))
  | none => .error (.config (.noApiVersion p.configPath))

def entryMembers : Json → Except Failure (Json.Members)
  | .obj members => .ok members
  | _ => .error (.value .noAttribute)

def isDefault (entry : Json) : Except Failure Bool := do
  return ((Json.get? (← entryMembers entry) "default").getD .null).isTruthy

/-- The entry that counts: the only one, or the first of those marked as the default. A text or an
object in place of a list is taken apart like a list and fails on what it yields. -/
def packageEntry? (directories : Json) : Except Failure (Option Json) :=
  match directories with
  | .arr [entry] => .ok (some entry)
  | .arr entries => do
    let marked ← entries.mapM fun entry => do return (entry, ← isDefault entry)
    return (marked.find? Prod.snd).map Prod.fst
  | .obj [_] => .error (.value .missingKey)
  | .obj _ => .error (.value .noAttribute)
  | .str _ => .error (.value .noAttribute)
  | _ => .error (.value .wrongType)

def packageFolderIn (p : Project) (config : Json.Members) : Except Failure Json := do
  let absent : Failure := .config (.noPackageFolder p.configPath)
  let directories := (Json.get? config "packageDirectories").getD .null
  if !directories.isTruthy then throw absent
  match ← packageEntry? directories with
  | none => throw absent
  | some entry =>
    let folder := (Json.get? (← entryMembers entry) "path").getD .null
    if folder.isTruthy then return folder else throw absent

def outputFolderIn (p : Project) (config : Json.Members) : Except Failure Path := do
  match ← p.packageFolderIn config with
  | .str folder => return p.folder.join ((Path.ofText folder).join ⟨.here, ["main", "default", "classes"]⟩)
  | _ => throw (.value .wrongType)

def apiVersion (p : Project) (t : Tree) : ProjectReply String := p.ask t p.apiVersionIn

def packageFolder (p : Project) (t : Tree) : ProjectReply Json := p.ask t p.packageFolderIn

def outputFolder (p : Project) (t : Tree) : ProjectReply Path := p.ask t p.outputFolderIn

def answer (p : Project) (t : Tree) : ProjectQuestion → ProjectReply Json
  | .isProject => ⟨(p.isProject t).map .bool, p, []⟩
  | .configPath => ⟨.ok (.str p.configPath.text), p, []⟩
  | .config => p.ask t fun members => .ok (.obj members)
  | .apiVersion => p.ask t fun config => (p.apiVersionIn config).map .str
  | .packageFolder => p.packageFolder t
  | .outputFolder => p.ask t fun config => (p.outputFolderIn config).map fun folder => .str folder.text

def at? (t : Tree) (folder : Path) : Except Failure Project := do
  let p : Project := { folder }
  if ← p.isProject t then return p else throw (.config (.unsupportedProject folder))

end Project

def pathOf : Json → Except Failure Path
  | .str s => .ok (Path.ofText s)
  | _ => .error (.value .wrongType)

def Project.orAnswer (p : Project) (given : Json) (answer : Project → ProjectReply Json) :
    ProjectReply Json :=
  if given.isTruthy then ⟨.ok given, p, []⟩ else answer p

/-- The project that options name, and the options with output folder and version filled in from it
where they are not given. The project file is read only for what is missing. -/
def Options.resolve (o : Options) (t : Tree) : ProjectReply Options :=
  match (pathOf (o.value .projectDir)).bind (Project.at? t) with
  | .error fault => ⟨.error fault, { folder := .here }, []⟩
  | .ok p =>
    let folder := p.orAnswer (o.value .outputDir) (·.answer t .outputFolder)
    match folder.outcome with
    | .error fault => ⟨.error fault, folder.project, folder.log⟩
    | .ok outputDir =>
      let version := folder.project.orAnswer (o.value .sourceApiVersion) (·.answer t .apiVersion)
      ⟨version.outcome.map fun apiVersion =>
          (o.set .outputDir outputDir).set .sourceApiVersion apiVersion,
        version.project, folder.log ++ version.log⟩

end ApexConstants
