import ApexConstants.Failure
import ApexConstants.Files
import ApexConstants.Json

namespace ApexConstants

structure GeneratedClass where
  name : Json
  body : String
  stamp : String
  source : Option String := none
deriving Repr

namespace GeneratedClass

def fileName (c : GeneratedClass) : String := c.name.display ++ ".cls"

def metaFileName (c : GeneratedClass) : String := c.name.display ++ ".cls-meta.xml"

end GeneratedClass

structure Result where
  classes : List GeneratedClass := []
  skipped : List String := []
  warnings : List String := []
  facts : Json.Members := []
  written : List Path := []

namespace Result

def classNames (r : Result) : List Json := r.classes.map (·.name)

/-- The result with everything of another behind its own; the facts stay its own. -/
def extend (r other : Result) : Result where
  classes := r.classes ++ other.classes
  skipped := r.skipped ++ other.skipped
  warnings := r.warnings ++ other.warnings
  facts := r.facts
  written := r.written ++ other.written

end Result

abbrev Writer (store fault : Type) := store → Path → String → store × Except fault Unit

def recorder : Writer (List (Path × String)) Failure :=
  fun written path content => (written ++ [(path, content)], .ok ())

def treeWriter : Writer Tree Failure := fun t path content =>
  let (after, outcome) := t.write path content.toUTF8
  (after, outcome.mapError Failure.file)

/-- Writes a value to a tree of files. Only text gets into a file; for another value the file is
left empty. -/
def writeValue (t : Tree) (path : Path) (content : Json) : Tree × Except Failure Unit :=
  match content with
  | .str s => treeWriter t path s
  | _ =>
    let (after, outcome) := treeWriter t path ""
    (after, outcome.bind fun _ => .error (.value .wrongType))

namespace GeneratedClass

def files (c : GeneratedClass) (folder : Path) : List (Path × String) :=
  [(folder.child c.fileName, c.body), (folder.child c.metaFileName, c.stamp)]

def paths (c : GeneratedClass) (folder : Path) : List Path := (c.files folder).map Prod.fst

end GeneratedClass

variable {store fault : Type}

def writeFiles (writer : Writer store fault) (s : store) :
    List (Path × String) → store × Except fault Unit
  | [] => (s, .ok ())
  | (path, content) :: rest =>
    match writer s path content with
    | (after, .ok ()) => writeFiles writer after rest
    | (after, .error e) => (after, .error e)

structure Written (store fault : Type) where
  store : store
  paths : List Path
  outcome : Except fault Unit

/-- Writes the pair of each class. A pair is noted when both of its files are written. -/
def writePairs (writer : Writer store fault) (folder : Path) (s : store) :
    List GeneratedClass → Written store fault
  | [] => ⟨s, [], .ok ()⟩
  | c :: rest =>
    match writeFiles writer s (c.files folder) with
    | (after, .error e) => ⟨after, [], .error e⟩
    | (after, .ok ()) =>
      let more := writePairs writer folder after rest
      { more with paths := c.paths folder ++ more.paths }

def Result.write (r : Result) (writer : Writer store fault) (folder : Path) (s : store) :
    Result × store × Except fault (List Path) :=
  let w := writePairs writer folder s r.classes
  let noted := { r with written := r.written ++ w.paths }
  (noted, w.store, w.outcome.map fun _ => noted.written)

end ApexConstants
