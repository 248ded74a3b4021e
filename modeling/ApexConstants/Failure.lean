import ApexConstants.Files
import ApexConstants.Json
import ApexConstants.Options.Basic

namespace ApexConstants

inductive ConfigFault
  | unknownKind (name : String)
  | fileMissing (file : Path)
  | fileNotJson (file : Path)
  | invalidJson (file : Path)
  | unreadable (file : Path)
  | notObject (file : Path)
  | badSection
  | badKindSection (kind : GenerationKind)
  | unknownOptions (kind : GenerationKind) (keys : List Json.Key)
  | notFlag (option : String) (value : Json)
  | notProject (folder : Path)
  | unsupportedProject (folder : Path)
  | brokenProject (file : Path)
  | noApiVersion (file : Path)
  | noPackageFolder (file : Path)

inductive NameSubject
  | object
  | standardValueSet
  | globalValueSet
deriving DecidableEq, Repr

def NameSubject.text : NameSubject → String
  | object => "object"
  | standardValueSet => "standard value set"
  | globalValueSet => "global value set"

inductive NameFault
  | unparseable (subject : NameSubject) (file : Path)
  | noDeveloperName (object : String) (source : Option String)
  | badDeveloperName (object developer : String) (source : Option String)
deriving DecidableEq, Repr

inductive TemplateFault
  | folderMissing (folder : Option Path)
  | rendering (template : String)
deriving DecidableEq, Repr

inductive MetadataFault
  | invalid (file : Path)
  | unreadable (file : Path)
deriving DecidableEq, Repr

inductive ValueFault
  | wrongType
  | noAttribute
  | missingKey
  | undecodable
  | unknownEncoding
  | multiByteEncoding
  | refusedEncoding
  | notValueSetKind (value : Json)
  | unsupportedType (name : String)
  | unknownLevel (name : String)
  | tooManyDigits (count : Nat)
  | numberTooLong
  | tooDeep
  | tooLarge
  | notPrintable
  | unmatchedTag

inductive Failure
  | config (fault : ConfigFault)
  | name (fault : NameFault)
  | template (fault : TemplateFault)
  | metadata (fault : MetadataFault)
  | value (fault : ValueFault)
  | file (fault : FileFault)

namespace ConfigFault

/-- The text of the fault. What a library would add to it is left out. -/
def message : ConfigFault → String
  | unknownKind name =>
    "Unknown generation kind: " ++ name ++ ". Available: " ++
      String.intercalate ", " (GenerationKind.all.map GenerationKind.text)
  | fileMissing file => "Configuration file not found: " ++ file.text
  | fileNotJson file => "Configuration file must be JSON: " ++ file.text
  | invalidJson file => "Invalid JSON in configuration file " ++ file.text ++ ": "
  | unreadable file => "Failed to load configuration file " ++ file.text ++ ": "
  | notObject file => "Configuration file must contain a JSON object: " ++ file.text
  | badSection => "'sourceGen' must be a JSON object"
  | badKindSection kind => "'sourceGen." ++ kind.text ++ "' must be a JSON object"
  | unknownOptions kind keys =>
    "Unknown " ++ kind.optionsName ++ " option(s): " ++ String.intercalate ", " (keys.map Json.Key.shown)
  | notFlag option value => "Option " ++ option ++ " must be true or false, got " ++ value.quoted
  | notProject folder => "Not a DX project: " ++ folder.text
  | unsupportedProject folder => "Only DX projects are supported: " ++ folder.text
  | brokenProject file => "Failed to parse project config: " ++ file.text
  | noApiVersion file => "Source API version not found: " ++ file.text
  | noPackageFolder file => "No default package directory found: " ++ file.text

end ConfigFault

namespace NameFault

def origin (object : String) : Option String → String
  | none => object
  | some source => if source.isEmpty then object else source

/-- The text of the fault. -/
def message : NameFault → String
  | unparseable subject file => "Couldn't parse " ++ subject.text ++ " name from path " ++ file.text
  | noDeveloperName object source => "Record type without full name: " ++ origin object source
  | badDeveloperName object developer source =>
    "Record type developer name " ++ Text.quoted developer ++ " is not a valid identifier: " ++
      origin object source

def path? : NameFault → Option String
  | unparseable _ file => some file.text
  | noDeveloperName _ source => source
  | badDeveloperName _ _ source => source

def record? : NameFault → Option String
  | unparseable .. => none
  | noDeveloperName object _ => some object
  | badDeveloperName object developer _ => some (object ++ "." ++ developer)

end NameFault

namespace TemplateFault

/-- The text of the fault. -/
def message : TemplateFault → String
  | folderMissing folder => "Template directory not found: " ++ (folder.map Path.text).getD "None"
  | rendering template => "Failed to render template " ++ template ++ ": "

end TemplateFault

namespace MetadataFault

/-- The text of the fault. -/
def message : MetadataFault → String
  | invalid file => "Invalid metadata XML in " ++ file.text ++ ": "
  | unreadable file => "Error reading metadata file " ++ file.text ++ ": "

def file : MetadataFault → Path
  | invalid file => file
  | unreadable file => file

end MetadataFault

namespace ValueFault

def message? : ValueFault → Option String
  | multiByteEncoding => some "multi-byte encodings are not supported"
  | notValueSetKind value => some (value.quoted ++ " is not a valid ValueSetKind")
  | unsupportedType name => some ("Unsupported metadata type: " ++ name)
  | unknownLevel name => some ("Unknown level: " ++ Text.quoted name)
  | tooManyDigits count =>
    some ("Exceeds the limit (" ++ toString Json.digitLimit ++
      " digits) for integer string conversion: value has " ++ toString count ++
      " digits; use sys.set_int_max_str_digits() to increase the limit")
  | numberTooLong =>
    some ("Exceeds the limit (" ++ toString Json.digitLimit ++
      " digits) for integer string conversion; use sys.set_int_max_str_digits() to increase the limit")
  | _ => none

def ofJson? : Json.Fault → Option ValueFault
  | .malformed => none
  | .tooManyDigits count => some (tooManyDigits count)
  | .tooDeep => some tooDeep

def ofPrint : Json.PrintFault → ValueFault
  | .tooManyDigits => numberTooLong
  | .tooDeep => tooDeep

end ValueFault

namespace Failure

def isReported : Failure → Bool
  | config _ => true
  | name _ => true
  | template _ => true
  | metadata _ => true
  | value _ => false
  | file _ => false

def message? : Failure → Option String
  | config fault => some fault.message
  | name fault => some fault.message
  | template fault => some fault.message
  | metadata fault => some fault.message
  | value fault => fault.message?
  | file .zeroInPath => some "embedded null byte"
  | file _ => none

/-- What the log says of the failure: nothing but the text of one that is reported. -/
def logText (f : Failure) : String := if f.isReported then f.message?.getD "" else ""

end Failure

end ApexConstants
