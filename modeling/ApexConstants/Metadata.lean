import ApexConstants.Failure
import ApexConstants.Files
import ApexConstants.RecordTypes
import ApexConstants.Text
import ApexConstants.ValueSets
import ApexConstants.Xml.Reader

namespace ApexConstants

inductive MetadataKind
  | customField
  | standardValueSet
  | globalValueSet
  | recordType
deriving DecidableEq, Repr

namespace MetadataKind

def all : List MetadataKind := [customField, standardValueSet, globalValueSet, recordType]

def text : MetadataKind → String
  | customField => "CustomField"
  | standardValueSet => "StandardValueSet"
  | globalValueSet => "GlobalValueSet"
  | recordType => "RecordType"

def ending : MetadataKind → String
  | customField => ".field-meta.xml"
  | standardValueSet => ".standardValueSet-meta.xml"
  | globalValueSet => ".globalValueSet-meta.xml"
  | recordType => ".recordType-meta.xml"

def ofText? (s : String) : Option MetadataKind := all.find? fun kind => kind.text == s

end MetadataKind

def isSkippedFolder (name : String) : Bool := name == "node_modules" || ".".isPrefixOf name

def hasEnding (ending : String) (names : List String) : Bool :=
  ending.toList.isSuffixOf (names.getLastD "").toList

def isFound (ending : String) (names : List String) : Bool :=
  hasEnding ending names && !names.dropLast.any isSkippedFolder

def Path.extend (p : Path) (names : List String) : Path := ⟨p.anchor, p.names ++ names⟩

/-- What stops a search at something below its folder. Every folder is looked into, also one whose
files are left out, and what has the ending is asked whether it is a file. -/
def obstacle? (ending : String) (root : Path) (names : List String) (entry : Entry) :
    Option FileFault :=
  let tooLong := decide (Tree.longestPath < (root.extend names).text.utf8ByteSize)
  match entry with
  | .folder =>
    if tooLong then some .nameTooLong
    else if Tree.deepestSearch < names.length then some .tooDeep
    else none
  | .file _ => if tooLong && hasEnding ending names then some .nameTooLong else none

namespace Tree

/-- The metadata files below a folder, in the order of their paths, unless something below it stops
the search. Where there is no folder there are none. -/
def findMetadata (t : Tree) (kind : MetadataKind) (root : Path) : Except FileFault (List Path) := do
  if ← t.isFolder root then
    let location ← t.locate root
    match (t.below location).findSome? fun (names, entry) =>
        obstacle? kind.ending root names entry with
    | some fault => throw fault
    | none =>
      let found := (t.filesBelow location).filter fun (names, _) => isFound kind.ending names
      return (found.map fun (names, _) => root.extend names).mergeSort Path.precedes
  else return []

end Tree

def after? (mark cs : List Char) : Option (List Char) :=
  if mark.isPrefixOf cs then some (cs.drop mark.length) else none

/-- What `read` finds behind the last `mark` behind which it finds anything. -/
def behindLast {α : Type} (mark : List Char) (read : List Char → Option α) :
    List Char → Option α
  | [] => (after? mark []).bind read
  | c :: rest =>
    match if c == '\n' then none else behindLast mark read rest with
    | some found => some found
    | none => (after? mark (c :: rest)).bind read

def upToStop (stop : List Char → Bool) : List Char → Option (List Char)
  | [] => if stop [] then some [] else none
  | c :: rest =>
    if stop (c :: rest) then some []
    else if c == '\n' then none
    else (upToStop stop rest).map (c :: ·)

def isSlash (cs : List Char) : Bool := cs.head? == some '/'

/-- Whether the rest of a path is the ending, perhaps with a line feed behind it. -/
def isEnding (ending cs : List Char) : Bool :=
  match after? ending cs with
  | some [] => true
  | some ['\n'] => true
  | _ => false

def objectName? (p : Path) : Option String :=
  (behindLast "/objects/".toList (upToStop isSlash) p.text.toList).map String.ofList

def metadataName? (folder ending : String) (p : Path) : Option String :=
  (behindLast ('/' :: folder.toList ++ ['/']) (upToStop (isEnding ending.toList))
    p.text.toList).map String.ofList

open Xml (Element)

abbrev MetadataReader := Path → Except Failure Element

/-- Reads the metadata files of a tree. What cannot be read or is no XML is reported with its path;
an encoding that cannot be used and a path that no file can have are not. -/
def Tree.readMetadata (t : Tree) : MetadataReader := fun p =>
  match t.read p with
  | .error .zeroInPath => .error (.file .zeroInPath)
  | .error _ => .error (.metadata (.unreadable p))
  | .ok content =>
    match Xml.read content with
    | .ok root => .ok root
    | .error .malformed => .error (.metadata (.invalid p))
    | .error .unknownEncoding => .error (.value .unknownEncoding)
    | .error .multiByteEncoding => .error (.value .multiByteEncoding)
    | .error .refusedEncoding => .error (.value .refusedEncoding)
    | .error .undecodable => .error (.value .undecodable)

/-- The text of the first child with a name, trimmed, unless that leaves nothing. -/
def fieldOf (e : Element) (base : String) : Option String := do
  let text := Text.trim (← (← (e.childrenNamed base).head?).text)
  if text.isEmpty then none else some text

def readAll (reader : MetadataReader) (paths : List Path) :
    Except Failure (List (Path × Element)) :=
  paths.mapM fun p => do return (p, ← reader p)

def valuesUnder (e : Element) (names : List String) : List (Option String) :=
  (e.descendants names).map (fieldOf · "fullName")

def valueSetFieldTypes : List String := ["Picklist", "MultiselectPicklist"]

def valueSetField? (e : Element) : Option String := do
  let name ← fieldOf e "fullName"
  if valueSetFieldTypes.contains ((fieldOf e "type").getD "") then some name else none

def required (subject : NameSubject) (p : Path) (name : Option String) : Except Failure String :=
  let name := name.getD ""
  if name.isEmpty then .error (.name (.unparseable subject p)) else .ok name

def customFieldRecord (p : Path) (e : Element) : Except Failure (Option ValueSet) :=
  match valueSetField? e with
  | none => .ok none
  | some field => do
    return some {
      owner := ← required .object p (objectName? p)
      kind := .customField
      member := some field
      values := valuesUnder e ["valueSet", "valueSetDefinition", "value"]
      source := some p.text }

/-- What tells the two kinds of value sets with a file of their own apart. -/
structure SetForm where
  kind : ValueSetKind
  subject : NameSubject
  folder : String
  ending : String
  valueName : String

def standardForm : SetForm where
  kind := .standard
  subject := .standardValueSet
  folder := "standardValueSets"
  ending := MetadataKind.standardValueSet.ending
  valueName := "standardValue"

def globalForm : SetForm where
  kind := .global
  subject := .globalValueSet
  folder := "globalValueSets"
  ending := MetadataKind.globalValueSet.ending
  valueName := "customValue"

def setRecord (form : SetForm) (p : Path) (e : Element) : Except Failure ValueSet := do
  return {
    owner := ← required form.subject p (metadataName? form.folder form.ending p)
    kind := form.kind
    values := valuesUnder e [form.valueName]
    source := some p.text }

def recordTypeRecord (p : Path) (e : Element) : Except Failure RecordType := do
  return {
    objectName := ← required .object p (objectName? p)
    developerName := fieldOf e "fullName"
    active := Text.lower ((fieldOf e "active").getD "") == "true"
    source := some p.text }

def loadCustomFields (reader : MetadataReader) (paths : List Path) :
    Except Failure (List ValueSet) := do
  let records ← (← readAll reader paths).mapM fun (p, e) => customFieldRecord p e
  return records.filterMap id

def loadValueSets (form : SetForm) (reader : MetadataReader) (paths : List Path) :
    Except Failure (List ValueSet) := do
  (← readAll reader paths).mapM fun (p, e) => setRecord form p e

def loadStandardValueSets : MetadataReader → List Path → Except Failure (List ValueSet) :=
  loadValueSets standardForm

def loadGlobalValueSets : MetadataReader → List Path → Except Failure (List ValueSet) :=
  loadValueSets globalForm

def loadRecordTypes (reader : MetadataReader) (paths : List Path) :
    Except Failure (List RecordType) := do
  (← readAll reader paths).mapM fun (p, e) => recordTypeRecord p e

namespace Json

def isSimple : Json → Bool
  | arr _ => false
  | obj _ => false
  | _ => true

/-- A value as it is compared: flags and floats that are whole numbers are these numbers. -/
def comparable : Json → Json
  | bool b => int (if b then 1 else 0)
  | float (.finite negative m e) =>
    let (up, down) := Number.Binary64.power 2 e
    if m * up % down == 0 then
      let n : Int := (m * up / down : Nat)
      int (if negative then -n else n)
    else float (.finite negative m e)
  | value => value

/-- Whether two simple values count as the same. A value that is no number differs from itself. -/
def matchesKey (a b : Json) : Bool :=
  match a.comparable, b.comparable with
  | null, null => true
  | int m, int n => m == n
  | float .notANumber, _ => false
  | float x, float y => decide (x = y)
  | str s, str t => s == t
  | _, _ => false

end Json

/-- The names that are taken, or nothing when all are. A text stands for its characters and an
object for its keys, of which only texts can be names. -/
def includedNames (wanted : Json) : Except ValueFault (Option (List Json)) :=
  if !wanted.isTruthy then .ok none
  else match wanted with
    | .arr items => if items.all Json.isSimple then .ok (some items) else .error .wrongType
    | .str s => .ok (some (s.toList.map fun c => .str (String.singleton c)))
    | .obj members => .ok (some (members.filterMap fun (key, _) => key.text?.map .str))
    | _ => .error .wrongType

/-- Whether one of a record's names is taken. They are tried in their order, and one that a record
does not have is a fault when its turn comes. -/
def answersTo (taken : List Json) : List (Except ValueFault Json) → Except ValueFault Bool
  | [] => .ok false
  | .error fault :: _ => .error fault
  | .ok name :: rest =>
    if !name.isSimple then .error .wrongType
    else if taken.any name.matchesKey then .ok true
    else answersTo taken rest

def filterTaken {α : Type} (taken : List Json) (names : α → List (Except ValueFault Json)) :
    List α → Except ValueFault (List α)
  | [] => .ok []
  | r :: rest => do
    let keep ← answersTo taken (names r)
    let kept ← filterTaken taken names rest
    return if keep then r :: kept else kept

def filterIncluded {α : Type} (wanted : Json) (names : α → List (Except ValueFault Json))
    (records : List α) : Except ValueFault (List α) := do
  match ← includedNames wanted with
  | none => return records
  | some taken => filterTaken taken names records

end ApexConstants
