import ApexConstants.Json

namespace ApexConstants

inductive GenerationKind
  | picklists
  | recordTypes
deriving DecidableEq, Repr

namespace GenerationKind

def all : List GenerationKind := [picklists, recordTypes]

def text : GenerationKind → String
  | picklists => "picklists"
  | recordTypes => "recordTypes"

def optionsName : GenerationKind → String
  | picklists => "PicklistsGenOptions"
  | recordTypes => "RecordTypesGenOptions"

def ofText? (s : String) : Option GenerationKind := all.find? fun kind => kind.text == s

end GenerationKind

inductive OptionName
  | projectDir
  | outputDir
  | sourceApiVersion
  | ignorePicklists
  | ignoreStandardValueSets
  | ignoreGlobalValueSets
  | picklistPrefix
  | picklistSuffix
  | picklistInfix
  | standardValueSetPrefix
  | standardValueSetSuffix
  | globalValueSetPrefix
  | globalValueSetSuffix
  | outputClassName
  | includeInactive
  | ignoreTestClass
  | included
deriving DecidableEq, Repr

namespace OptionName

def text : OptionName → String
  | projectDir => "project_dir"
  | outputDir => "output_dir"
  | sourceApiVersion => "source_api_version"
  | ignorePicklists => "ignore_picklists"
  | ignoreStandardValueSets => "ignore_standard_value_sets"
  | ignoreGlobalValueSets => "ignore_global_value_sets"
  | picklistPrefix => "picklist_prefix"
  | picklistSuffix => "picklist_suffix"
  | picklistInfix => "picklist_infix"
  | standardValueSetPrefix => "standard_value_set_prefix"
  | standardValueSetSuffix => "standard_value_set_suffix"
  | globalValueSetPrefix => "global_value_set_prefix"
  | globalValueSetSuffix => "global_value_set_suffix"
  | outputClassName => "output_class_name"
  | includeInactive => "include_inactive"
  | ignoreTestClass => "ignore_test_class"
  | included => "include"

/-- The value of an option that is not given. The output folder and the version come from the
project then. -/
def default : OptionName → Json
  | projectDir => .str "."
  | outputDir => .null
  | sourceApiVersion => .null
  | ignorePicklists => .bool false
  | ignoreStandardValueSets => .bool false
  | ignoreGlobalValueSets => .bool false
  | picklistPrefix => .str ""
  | picklistSuffix => .str ""
  | picklistInfix => .str "_"
  | standardValueSetPrefix => .str ""
  | standardValueSetSuffix => .str ""
  | globalValueSetPrefix => .str ""
  | globalValueSetSuffix => .str ""
  | outputClassName => .str "RecordTypes"
  | includeInactive => .bool false
  | ignoreTestClass => .bool false
  | included => .arr []

def isFlag (name : OptionName) : Bool := name.default.isBool

end OptionName

def GenerationKind.options : GenerationKind → List OptionName
  | .picklists =>
    [.projectDir, .outputDir, .sourceApiVersion, .ignorePicklists, .ignoreStandardValueSets,
      .ignoreGlobalValueSets, .picklistPrefix, .picklistSuffix, .picklistInfix,
      .standardValueSetPrefix, .standardValueSetSuffix, .globalValueSetPrefix,
      .globalValueSetSuffix, .included]
  | .recordTypes =>
    [.projectDir, .outputDir, .outputClassName, .sourceApiVersion, .includeInactive,
      .ignoreTestClass, .included]

def GenerationKind.optionNamed? (kind : GenerationKind) (name : String) : Option OptionName :=
  kind.options.find? fun option => option.text == name

structure Options where
  kind : GenerationKind
  value : OptionName → Json

namespace Options

def standard (kind : GenerationKind) : Options := ⟨kind, OptionName.default⟩

def set (o : Options) (name : OptionName) (value : Json) : Options :=
  { o with value := fun n => if n = name then value else o.value n }

def ofGiven (kind : GenerationKind) (given : List (OptionName × Json)) : Options :=
  given.foldl (fun o (name, value) => o.set name value) (standard kind)

def members (o : Options) : Json.Members :=
  o.kind.options.map fun name => (name.text, o.value name)

end Options

end ApexConstants
