import ApexConstants.Failure
import ApexConstants.Options.Basic
import ApexConstants.Text

namespace ApexConstants

def configSection : String := "sourceGen"

def isSmall (c : Char) : Bool := c.isLower || c.isDigit

def splitCapitals : List Char → List Char
  | a :: b :: rest =>
    if isSmall a && b.isUpper then a :: '_' :: splitCapitals (b :: rest)
    else a :: splitCapitals (b :: rest)
  | cs => cs

def snakeCase (key : String) : String := Text.lower (String.ofList (splitCapitals key.toList))

def Tree.readConfig (t : Tree) (file : Path) : Except Failure (Json.Members) := do
  if !(← (t.exists? file).mapError Failure.file) then throw (.config (.fileMissing file))
  if Text.lower file.extension != ".json" then throw (.config (.fileNotJson file))
  match t.read file with
  | .error _ => throw (.config (.unreadable file))
  | .ok content =>
    match String.fromUTF8? content with
    | none => throw (.value .undecodable)
    | some text =>
      match Json.read text with
      | .error fault =>
        throw (((ValueFault.ofJson? fault).map .value).getD (.config (.invalidJson file)))
      | .ok (.obj members) => return members
      | .ok _ => throw (.config (.notObject file))

/-- The options for a kind in a configuration file: in the section for options, or in the object
itself where that has no such section. -/
def optionsFor (kind : GenerationKind) (members : Json.Members) :
    Except ConfigFault (Json.Members) :=
  let within (holder : Json.Members) : Except ConfigFault (Json.Members) :=
    match Json.get? holder kind.text with
    | none => .ok []
    | some (.obj options) => .ok options
    | some _ => .error (.badKindSection kind)
  match Json.get? members configSection with
  | none => within members
  | some (.obj holder) => within holder
  | some _ => .error .badSection

def insertOption (name : OptionName) (value : Json) :
    List (OptionName × Json) → List (OptionName × Json)
  | [] => [(name, value)]
  | (n, v) :: rest =>
    if n = name then (name, value) :: rest else (n, v) :: insertOption name value rest

/-- The options that some keys name, and the keys that name none. Of several spellings of one option
the last counts, in the place of the first. -/
def assign (kind : GenerationKind) (members : Json.Members) :
    List (OptionName × Json) × List Json.Key :=
  members.foldl (fun (given, unknown) (key, value) =>
    match key.text?.bind fun key => kind.optionNamed? (snakeCase key) with
    | some name => (insertOption name value given, unknown)
    | none => (given, unknown ++ [key])) ([], [])

def splitNames (s : String) : List String :=
  ((Text.pieces ',' s).map Text.trim).filter fun name => !name.isEmpty

/-- The value of an option as it is used: names to include may be given as one text. -/
def settled (name : OptionName) (value : Json) : Json :=
  match name, value with
  | .included, .str s => .arr ((splitNames s).map .str)
  | _, value => value

/-- What is said of an option whose value is no flag. The value is a part of it, so that one that
has no text is a fault of its own. -/
def notFlag (name : OptionName) (value : Json) : Failure :=
  match value.printFault? with
  | some fault => .value (.ofPrint fault)
  | none => .config (.notFlag name.text value)

def optionsOf (kind : GenerationKind) (members : Json.Members) : Except Failure Options := do
  if members.any fun (key, _) => key.isForeign then throw (.value .wrongType)
  let (given, unknown) := assign kind members
  if !unknown.isEmpty then
    throw (.config (.unknownOptions kind (unknown.mergeSort Json.Key.precedes)))
  match given.find? fun (name, value) => name.isFlag && !value.isBool with
  | some (name, value) => throw (notFlag name value)
  | none => return .ofGiven kind (given.map fun (name, value) => (name, settled name value))

def givenOverrides (overrides : Json.Members) : Json.Members :=
  overrides.filter fun (_, value) => match value with
    | .null => false
    | _ => true

def loadOptions (t : Tree) (kindName : String) (file : Option Path)
    (overrides : Json.Members) : Except Failure Options := do
  match GenerationKind.ofText? kindName with
  | none => throw (.config (.unknownKind kindName))
  | some kind =>
    let fromFile ← match file with
      | none => pure []
      | some file => do (optionsFor kind (← t.readConfig file)).mapError Failure.config
    optionsOf kind (Json.insertAll fromFile (givenOverrides overrides))

end ApexConstants
