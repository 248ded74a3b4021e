import ApexConstants.Failure
import ApexConstants.Json
import ApexConstants.Text

namespace ApexConstants.Apex

def escapeChars : List Char → List Char
  | [] => []
  | c :: rest => if c == '\\' || c == '\'' then '\\' :: c :: escapeChars rest else c :: escapeChars rest

def escape (s : String) : String := String.ofList (escapeChars s.toList)

/-- One line of a doc comment. A blank line is the mark alone. -/
def commentLine (mark line : String) : String :=
  if line.toList.all Text.isBlank then mark else mark ++ " " ++ line

def comment (text : String) (mark : String := " *") : String :=
  Text.unlines ((Text.lines text).map (commentLine mark))

def blankLineLimit : Nat := 2

/-- Lines without blanks at their ends; of each run of blank lines as many are kept, empty, as the
limit allows. `blanks` counts the blank lines right before. -/
def tidyLines (blanks : Nat) : List (List Char) → List (List Char)
  | [] => []
  | line :: rest =>
    let kept := Text.trimEnd line
    if kept.isEmpty then
      if blanks < blankLineLimit then [] :: tidyLines (blanks + 1) rest
      else tidyLines (blanks + 1) rest
    else kept :: tidyLines 0 rest

def tidy (code : String) : String :=
  String.ofList (['\n'].intercalate (tidyLines 0 (code.toList.splitOn '\n')))

def notice : String :=
  Text.unlines ["/*", " * This file is generated by sfdx-source-gen.",
    " * Do not modify it manually, changes will be overwritten on the next run.", " */"]

def classLine (name : String) : String := "public inherited sharing class " ++ name ++ " \x7b"

structure Constant where
  name : String
  value : String
deriving DecidableEq, Repr

def Constant.line (c : Constant) : String :=
  "    public static final String " ++ c.name ++ " = '" ++ escape c.value ++ "';"

def valueSetSource (description className : String) (constants : List Constant)
    (opening : String := notice) : String :=
  Text.endLines <|
    [opening, "", "/**", comment description, " */", classLine className, ""] ++
      constants.map Constant.line ++ ["\x7d"]

structure Accessors where
  infoName : String
  idName : String
  objectName : String
  developerName : String
deriving DecidableEq, Repr

def Accessors.lines (a : Accessors) : List String :=
  ["    public static RecordTypeInfo " ++ a.infoName ++ " \x7b",
    "        get \x7b return " ++ a.infoName ++ " = " ++ a.infoName ++ " != null",
    "                ? " ++ a.infoName ++ " : Schema.SObjectType." ++ a.objectName ++
      ".getRecordTypeInfosByDeveloperName().get('" ++ a.developerName ++ "'); \x7d",
    "        private set;",
    "    \x7d",
    "    public static Id " ++ a.idName ++ " \x7b",
    "        get \x7b return " ++ a.infoName ++ ".getRecordTypeId(); \x7d",
    "        private set;",
    "    \x7d"]

def recordTypesSource (className : String) (accessors : List Accessors)
    (opening : String := notice) : String :=
  Text.endLines <|
    [opening, classLine className, ""] ++ accessors.flatMap Accessors.lines ++ ["\x7d"]

def idTestLine (className idName : String) : String :=
  "        notNull(" ++ className ++ "." ++ idName ++ ");"

def recordTypesTestSource (testName className : String) (idNames : List String)
    (opening : String := notice) : String :=
  Text.endLines <|
    [opening, "@IsTest private class " ++ testName ++ " \x7b", "",
      "    private static void notNull(Object it) \x7b",
      "        System.assertNotEquals(null, it);",
      "    \x7d", "",
      "    @IsTest private static void test() \x7b"] ++
      idNames.map (idTestLine className) ++ ["    \x7d", "\x7d"]

def metaSource (apiVersion : String) : String :=
  Text.endLines
    ["<?xml version=\"1.0\" encoding=\"UTF-8\"?>",
      "<ApexClass xmlns=\"http://soap.sforce.com/2006/04/metadata\">",
      "    <apiVersion>" ++ apiVersion ++ "</apiVersion>",
      "    <status>Active</status>",
      "</ApexClass>"]

inductive Template
  | valueSet
  | recordTypes
  | recordTypesTest
  | classMeta
deriving DecidableEq, Repr

/-- Where templates are taken from: the folder that comes with the library, another one that holds
none, one that is not there, or a value in place of a folder that is no path. -/
inductive TemplateFolder
  | shipped
  | bare
  | absent (folder : Option Path)
  | notPath
deriving DecidableEq, Repr

namespace Template

def fileName : Template → String
  | valueSet => "value_set.cls.j2"
  | recordTypes => "record_types.cls.j2"
  | recordTypesTest => "record_types_test.cls.j2"
  | classMeta => "class.cls-meta.xml.j2"

def all : List Template := [valueSet, recordTypes, recordTypesTest, classMeta]

def ofName? (name : String) : Option Template :=
  match Path.namesOf name with
  | [file] => all.find? fun template => template.fileName == file
  | _ => none

def textOf? (context : Json.Members) (name : String) : Option String :=
  (Json.get? context name).map Json.display

def itemsOf? : Json → Option (List Json)
  | .arr items => some items
  | .obj members => some (members.map fun (key, _) => .str key.shown)
  | .str s => some (s.toList.map fun c => .str (String.singleton c))
  | _ => none

def memberText? (item : Json) (name : String) : Option String :=
  match item with
  | .obj members => textOf? members name
  | _ => none

def openingOf (context : Json.Members) : String := (textOf? context "notice").getD notice

def itemsUnder? (context : Json.Members) (name : String) : Option (List Json) := do
  itemsOf? (← Json.get? context name)

/-- Fills the template. A value that the text needs and the context lacks is a fault; one that the
text does not reach is not missed. -/
def fill? (template : Template) (context : Json.Members) : Option String := do
  match template with
  | valueSet =>
    let constants ← (← itemsUnder? context "constants").mapM fun item => do
      some ⟨← memberText? item "name", ← memberText? item "value"⟩
    some (valueSetSource (← textOf? context "description") (← textOf? context "class_name")
      constants (openingOf context))
  | recordTypes =>
    let accessors ← (← itemsUnder? context "properties").mapM fun item => do
      some ⟨← memberText? item "name", ← memberText? item "id_name",
        ← memberText? item "object_name", ← memberText? item "developer_name"⟩
    some (recordTypesSource (← textOf? context "class_name") accessors (openingOf context))
  | recordTypesTest =>
    let idNames ← (← itemsUnder? context "properties").mapM (memberText? · "id_name")
    let className ←
      if idNames.isEmpty then some "" else textOf? context "class_name"
    some (recordTypesTestSource (← textOf? context "test_class_name") className idNames
      (openingOf context))
  | classMeta => some (metaSource (← textOf? context "api_version"))

end Template

namespace TemplateFolder

def check (folder : TemplateFolder) (template : Template) : Except Failure Unit :=
  match folder with
  | shipped => .ok ()
  | bare => .error (.template (.rendering template.fileName))
  | absent folder => .error (.template (.folderMissing folder))
  | notPath => .error (.value .noAttribute)

/-- A context that a template can be filled with: an object in which the name that a template has
for itself is free. -/
def contextOf? : Json → Option (Json.Members)
  | .obj members => if (Json.get? members "self").isSome then none else some members
  | _ => none

def render (folder : TemplateFolder) (name context : Json) : Except Failure String :=
  match folder with
  | notPath => .error (.value .noAttribute)
  | absent folder => .error (.template (.folderMissing folder))
  | bare => .error (.template (.rendering name.display))
  | shipped =>
    match name with
    | .str s =>
      let text := do (← Template.ofName? s).fill? (← contextOf? context)
      match text with
      | some text => .ok text
      | none => .error (.template (.rendering s))
    | _ => .error (.template (.rendering name.display))

end TemplateFolder

end ApexConstants.Apex
