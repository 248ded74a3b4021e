import ApexConstants.Json
import ApexConstants.Options.Basic
import ApexConstants.Text

namespace ApexConstants.CommandLine

inductive Effect
  | store
  | append
  | raise (otherwise : Json)
  | help
deriving Repr

structure Argument where
  names : List String
  key : String := ""
  effect : Effect
deriving Repr

namespace Argument

def label (a : Argument) : String := String.intercalate "/" a.names

def takesValue (a : Argument) : Bool :=
  match a.effect with
  | .store => true
  | .append => true
  | _ => false

def unset (a : Argument) : Json.Members :=
  match a.effect with
  | .store => [(a.key, .null)]
  | .append => [(a.key, .null)]
  | .raise otherwise => [(a.key, otherwise)]
  | .help => []

end Argument

structure Command where
  program : String
  arguments : List Argument
deriving Repr

def Command.named (c : Command) : List (String × Argument) :=
  c.arguments.flatMap fun a => a.names.map fun name => (name, a)

inductive UsageFault
  | ambiguous (word : String) (names : List String)
  | missingValue (label : String)
  | needlessValue (label value : String)
  | unknownOperation (word : String) (names : List String)
  | unrecognized (words : List String)
deriving DecidableEq, Repr

def UsageFault.message : UsageFault → String
  | ambiguous word names =>
    "ambiguous option: " ++ word ++ " could match " ++ String.intercalate ", " names
  | missingValue label => "argument " ++ label ++ ": expected one argument"
  | needlessValue label value =>
    "argument " ++ label ++ ": ignored explicit argument " ++ Text.quoted value
  | unknownOperation word names =>
    "argument OPERATION: invalid choice: " ++ Text.quoted word ++ " (choose from " ++
      String.intercalate ", " (names.map Text.quoted) ++ ")"
  | unrecognized words => "unrecognized arguments: " ++ String.intercalate " " words

inductive Reading
  | option (a : Argument) (name : String) (attached : Option String)
  | unknown (word : String)
  | value (word : String)
  | divider
deriving Repr

def Reading.word : Reading → String
  | option _ name _ => name
  | unknown word => word
  | value word => word
  | divider => "--"

def isDigits (cs : List Char) : Bool := !cs.isEmpty && cs.all Text.isDecimalDigit

/-- Whether a word is a negative number, perhaps with a point before its last digits. A line feed at
its end does not matter. -/
def isNegativeNumber (word : String) : Bool :=
  match word.toList with
  | '-' :: cs =>
    let cs := if cs.getLast? == some '\n' then cs.dropLast else cs
    let whole := cs.takeWhile Text.isDecimalDigit
    isDigits cs || match cs.drop whole.length with
      | '.' :: fraction => isDigits fraction
      | _ => false
  | _ => false

def splitEquals (word : String) : String × Option String :=
  let (before, rest) := word.toList.span (· != '=')
  (String.ofList before, if rest.isEmpty then none else some (String.ofList (rest.drop 1)))

/-- The options that a word may stand for. A long name may be cut short. -/
def Command.candidates (c : Command) (word : String) : List (String × Argument × Option String) :=
  if "--".isPrefixOf word then
    let (start, attached) := splitEquals word
    (c.named.filter fun (name, _) => start.isPrefixOf name).map fun (name, a) => (name, a, attached)
  else
    let short := String.ofList (word.toList.take 2)
    c.named.filterMap fun (name, a) =>
      if name == short then some (name, a, some (String.ofList (word.toList.drop 2)))
      else if word.isPrefixOf name then some (name, a, none)
      else none

def Command.read (c : Command) (word : String) : Except UsageFault Reading :=
  if !"-".isPrefixOf word then .ok (.value word)
  else match c.named.lookup word with
    | some a => .ok (.option a word none)
    | none =>
      if word == "-" then .ok (.value word)
      else
        let (start, attached) := splitEquals word
        match attached, c.named.lookup start with
        | some attached, some a => .ok (.option a start (some attached))
        | _, _ =>
          match c.candidates word with
          | [(name, a, attached)] => .ok (.option a name attached)
          | [] =>
            .ok (if isNegativeNumber word || word.contains ' ' then .value word else .unknown word)
          | several => .error (.ambiguous word (several.map Prod.fst))

/-- Understands the words of a command line. Behind two dashes every word is a value. -/
def Command.readAll (c : Command) : List String → Except UsageFault (List Reading)
  | [] => .ok []
  | "--" :: rest => .ok (.divider :: rest.map .value)
  | word :: rest => do
    let reading ← c.read word
    return reading :: (← c.readAll rest)

inductive Stop
  | help (program : String)
  | fault (program : String) (cause : UsageFault)
deriving Repr

/-- The last line that is printed of a fault, whose words may hold line feeds. -/
def Stop.lastLine : Stop → Option String
  | help _ => none
  | fault program cause =>
    ((Text.lines (program ++ ": error: " ++ cause.message)).filter fun line => !line.isEmpty).getLast?

structure Setting where
  values : Json.Members
  extras : List String := []
deriving Repr

def Setting.apply (s : Setting) (a : Argument) (value : String) : Setting :=
  match a.effect with
  | .store => { s with values := Json.insert a.key (.str value) s.values }
  | .append =>
    let items := match Json.get? s.values a.key with
      | some (.arr items) => items
      | _ => []
    { s with values := Json.insert a.key (.arr (items ++ [.str value])) s.values }
  | .raise _ => { s with values := Json.insert a.key (.bool true) s.values }
  | .help => s

structure Cluster where
  effects : List (Argument × String) := []
  last : Option Argument := none

/-- Takes apart a word that starts with option `a` and goes on with `cs`. Only flags with one-letter
names can stand together, so the characters behind such a flag are further flags, up to one that
takes the rest as its value. -/
def Command.cluster (c : Command) (a : Argument) (isLong : Bool) (cs : List Char) :
    Except UsageFault Cluster :=
  let needless := UsageFault.needlessValue a.label (String.ofList cs)
  if a.takesValue then .ok { effects := [(a, String.ofList cs)] }
  else match cs with
    | [] => .error needless
    | letter :: rest =>
      if isLong then .error needless
      else match c.named.lookup (String.ofList ['-', letter]) with
        | none => .error needless
        | some next =>
          if rest.isEmpty then .ok { effects := [(a, "")], last := some next }
          else do
            let more ← c.cluster next false rest
            return { more with effects := (a, "") :: more.effects }

def Command.takeWord (c : Command) (a : Argument) (name : String) (attached : Option String)
    (next : Option String) : Except UsageFault (List (Argument × String) × Bool) := do
  let cluster ← match attached with
    | none => pure { last := some a }
    | some attached => c.cluster a ("--".isPrefixOf name) attached.toList
  match cluster.last with
  | none => return (cluster.effects, false)
  | some a =>
    if !a.takesValue then return (cluster.effects ++ [(a, "")], false)
    else match next with
      | some value => return (cluster.effects ++ [(a, value)], true)
      | none => throw (.missingValue a.label)

def Command.applyAll (c : Command) (s : Setting) : List (Argument × String) → Except Stop Setting
  | [] => .ok s
  | (a, value) :: rest =>
    match a.effect with
    | .help => .error (.help c.program)
    | _ => c.applyAll (s.apply a value) rest

def nextValue : List Reading → Option String
  | .value word :: _ => some word
  | _ => none

def Command.option (c : Command) (s : Setting) (a : Argument) (name : String)
    (attached : Option String) (rest : List Reading) : Except Stop (Setting × Bool) := do
  let (effects, used) ←
    (c.takeWord a name attached (nextValue rest)).mapError (Stop.fault c.program)
  return (← c.applyAll s effects, used)

/-- Carries out readings; `isTaken` says that the option before has taken the first of them. -/
def Command.run (c : Command) (s : Setting) (isTaken : Bool) : List Reading → Except Stop Setting
  | [] => .ok s
  | reading :: rest =>
    if isTaken then c.run s false rest
    else match reading with
      | .option a name attached => do
        let (s, used) ← c.option s a name attached rest
        c.run s used rest
      | reading => c.run { s with extras := s.extras ++ [reading.word] } false rest

def Command.start (c : Command) : Setting := { values := c.arguments.flatMap Argument.unset }

def Command.parse (c : Command) (words : List String) : Except Stop Setting := do
  let readings ← (c.readAll words).mapError (Stop.fault c.program)
  c.run c.start false readings

def helpArgument : Argument := { names := ["-h", "--help"], effect := .help }

def valueArgument (name : String) (option : OptionName) : Argument :=
  { names := [name], key := option.text, effect := .store }

def flagArgument (name : String) (option : OptionName) : Argument :=
  { names := [name], key := option.text, effect := .raise .null }

def commonArguments : List Argument :=
  [helpArgument, valueArgument "--project-dir" .projectDir, valueArgument "--output-dir" .outputDir,
    valueArgument "--source-api-version" .sourceApiVersion,
    { names := ["--config"], key := "config", effect := .store },
    { names := ["--include"], key := OptionName.included.text, effect := .append },
    { names := ["--verbose", "-v"], key := "verbose", effect := .raise (.bool false) }]

def programName : String := "source-gen"

def operationName : GenerationKind → String
  | .picklists => "picklists"
  | .recordTypes => "record-types"

def ownArguments : GenerationKind → List Argument
  | .picklists =>
    [flagArgument "--ignore-picklists" .ignorePicklists,
      flagArgument "--ignore-standard-value-sets" .ignoreStandardValueSets,
      flagArgument "--ignore-global-value-sets" .ignoreGlobalValueSets,
      valueArgument "--picklist-prefix" .picklistPrefix,
      valueArgument "--picklist-suffix" .picklistSuffix,
      valueArgument "--picklist-infix" .picklistInfix,
      valueArgument "--standard-value-set-prefix" .standardValueSetPrefix,
      valueArgument "--standard-value-set-suffix" .standardValueSetSuffix,
      valueArgument "--global-value-set-prefix" .globalValueSetPrefix,
      valueArgument "--global-value-set-suffix" .globalValueSetSuffix]
  | .recordTypes =>
    [valueArgument "--output-class-name" .outputClassName,
      flagArgument "--include-inactive" .includeInactive,
      flagArgument "--ignore-test-class" .ignoreTestClass]

def operationCommand (kind : GenerationKind) : Command where
  program := programName ++ " " ++ operationName kind
  arguments := commonArguments ++ ownArguments kind

def mainCommand : Command := { program := programName, arguments := [helpArgument] }

def operationNamed? (name : String) : Option GenerationKind :=
  GenerationKind.all.find? fun kind => operationName kind == name

structure Parsed where
  operation : Option GenerationKind := none
  values : Json.Members := []
deriving Repr

namespace Parsed

def members (p : Parsed) : Json.Members :=
  ("operation", .ofOption (p.operation.map operationName)) :: p.values

/-- The values that override options: those that are given, less the two that are no options. -/
def overrides (p : Parsed) : Json.Members :=
  p.values.filter fun (key, value) =>
    key != .text "config" && key != .text "verbose" && match value with
      | .null => false
      | _ => true

end Parsed

def parseOperation (extras : List String) (name : String) (rest : List String) :
    Except Stop (Parsed × List String) :=
  match operationNamed? name with
  | none =>
    .error (.fault programName (.unknownOperation name (GenerationKind.all.map operationName)))
  | some kind => do
    let s ← (operationCommand kind).parse rest
    return ({ operation := some kind, values := s.values }, extras ++ s.extras)

/-- Carries out the words before the operation; `words` are those that the readings are of. -/
def runMain (s : Setting) : List Reading → List String → Except Stop (Parsed × List String)
  | .option a name attached :: rest, _ :: words => do
    let (s, _) ← mainCommand.option s a name attached rest
    runMain s rest words
  | .unknown word :: rest, _ :: words => runMain { s with extras := s.extras ++ [word] } rest words
  | .divider :: [], _ => .ok ({}, s.extras ++ ["--"])
  | _, name :: words => parseOperation s.extras name words
  | _, [] => .ok ({}, s.extras)

def parse (words : List String) : Except Stop Parsed := do
  let readings ← (mainCommand.readAll words).mapError (Stop.fault programName)
  let (parsed, extras) ← runMain mainCommand.start readings words
  if extras.isEmpty then return parsed
  else throw (.fault programName (.unrecognized extras))

end ApexConstants.CommandLine
