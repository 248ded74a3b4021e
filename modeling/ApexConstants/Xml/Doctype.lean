import ApexConstants.Xml.Markup

namespace ApexConstants.Xml

inductive Entity
  | internal (text : List Char)
  | external
deriving Repr

structure AttributeRule where
  element : RawName
  name : RawName
  isText : Bool
  default : Option String
deriving Repr

/-- What a document type declares. `incomplete` says that declarations may be missing, and `counts`
that declarations are taken. -/
structure Doctype where
  standalone : Bool := false
  entities : List (String × Entity) := []
  attributes : List AttributeRule := []
  incomplete : Bool := false
  counts : Bool := true
deriving Repr

namespace Doctype

inductive Word
  | name (n : RawName)
  | repeated (n : RawName)
  | token (s : String)
  | literal (chars : List Char)
  | keyword (s : String)
  | sign (c : Char)
  | close (repeated : Option Char)
deriving DecidableEq, Repr

def isRepetition (c : Char) : Bool := c == '?' || c == '*' || c == '+'

def endsName : List Char → Bool
  | [] => false
  | c :: _ => isSpace c || ['>', ')', ',', '|', '[', '%'].contains c

/-- The name or token that some name characters and colons make up. In a declaration the part behind
the one colon of a name may start with any name character. -/
def nameOrToken (ordinals : Bool) (cs : List Char) : Word :=
  let isName := cs.head?.any (isNameStart ordinals)
  match isName, cs.splitOn ':' with
  | true, [base] => .name ⟨none, String.ofList base⟩
  | true, [lead, base] =>
    if base.isEmpty then .token (String.ofList cs)
    else .name ⟨some (String.ofList lead), String.ofList base⟩
  | _, _ => .token (String.ofList cs)

def word? (ordinals : Bool) : List Char → Option (Word × List Char)
  | [] => none
  | '"' :: rest => literal? '"' rest
  | '\'' :: rest => literal? '\'' rest
  | '#' :: rest => do
    let (name, rest) ← plainName? ordinals rest
    if endsName rest then some (.keyword name, rest) else none
  | '(' :: rest => some (.sign '(', rest)
  | '|' :: rest => some (.sign '|', rest)
  | ',' :: rest => some (.sign ',', rest)
  | ')' :: rest =>
    match rest with
    | c :: after =>
      if isRepetition c then some (.close (some c), after)
      else if isSpace c || ['>', ',', '|', ')'].contains c then some (.close none, rest)
      else none
    | [] => none
  | '%' :: rest => if rest.head?.any isSpace then some (.sign '%', rest) else none
  | cs =>
    let (chars, rest) := cs.span fun c => c == ':' || isNameChar ordinals c
    if chars.isEmpty then none
    else match nameOrToken ordinals chars, rest with
      | .name n, c :: after =>
        if isRepetition c then some (.repeated n, after)
        else if endsName rest then some (.name n, rest)
        else none
      | word, rest => if endsName rest then some (word, rest) else none
where
  literal? (quote : Char) (cs : List Char) : Option (Word × List Char) :=
    let (chars, rest) := cs.span (· != quote)
    match rest with
    | _ :: c :: after =>
      if isSpace c || ['>', '%', '['].contains c then some (.literal chars, c :: after) else none
    | _ => none

def wordsWithin (ordinals : Bool) : Nat → List Word → List Char → Option (List Word × List Char)
  | 0, _, _ => none
  | fuel + 1, read, cs =>
    match cs with
    | [] => none
    | c :: rest =>
      if c == '>' || c == '[' then some (read.reverse, cs)
      else if isSpace c then wordsWithin ordinals fuel read rest
      else do
        let (word, after) ← word? ordinals (c :: rest)
        wordsWithin ordinals fuel (word :: read) after

def isPublicChar (c : Char) : Bool :=
  c.isAlphanum || isSpace c && c != '\t' || "-'()+,./:=?;!*#@$_%".toList.contains c

def outside? : List Word → Option (List Word)
  | .name ⟨none, "SYSTEM"⟩ :: .literal _ :: rest => some rest
  | .name ⟨none, "PUBLIC"⟩ :: .literal id :: .literal _ :: rest =>
    if id.all isPublicChar then some rest else none
  | _ => none

def replacementWithin (ordinals : Bool) : Nat → List Char → List Char → Option (List Char)
  | 0, _, _ => none
  | fuel + 1, read, cs =>
    match cs with
    | [] => some read.reverse
    | '%' :: _ => none
    | '&' :: '#' :: rest => do
      match ← reference? ordinals ('#' :: rest) with
      | (.coded c, after) => replacementWithin ordinals fuel (c :: read) after
      | _ => none
    | '&' :: rest => do
      let (name, after) ← plainName? ordinals rest
      if after.head? == some ';' then
        replacementWithin ordinals fuel (name.toList.reverse ++ '&' :: read) after
      else none
    | c :: rest => replacementWithin ordinals fuel (c :: read) rest

def replacement? (ordinals : Bool) (cs : List Char) : Option (List Char) :=
  replacementWithin ordinals (cs.length + 1) [] cs

/-- Adds an entity. Of two declarations of one entity the first counts. -/
def addEntity (d : Doctype) (name : String) (entity : Entity) : Doctype :=
  if d.counts && !(d.entities.any fun (n, _) => n == name) then
    { d with entities := d.entities ++ [(name, entity)] }
  else d

def addAttribute (d : Doctype) (rule : AttributeRule) : Doctype :=
  if d.counts && !(d.attributes.any fun a => a.element == rule.element && a.name == rule.name) then
    { d with attributes := d.attributes ++ [rule] }
  else d

def entity? (d : Doctype) (ordinals : Bool) : List Word → Option Doctype
  | [.name ⟨none, name⟩, .literal text] =>
    if d.counts then do some (d.addEntity name (.internal (← replacement? ordinals text))) else some d
  | [.sign '%', .name ⟨none, _⟩, .literal text] =>
    if d.counts then (replacement? ordinals text).map fun _ => d else some d
  | .sign '%' :: .name ⟨none, _⟩ :: rest => do
    match ← outside? rest with
    | [] => some d
    | _ => none
  | .name ⟨none, name⟩ :: rest => do
    match ← outside? rest with
    | [] => some (d.addEntity name .external)
    | [.name ⟨none, "NDATA"⟩, .name ⟨none, _⟩] => some (d.addEntity name .external)
    | _ => none
  | _ => none

def alternatives? (isItem : Word → Bool) : List Word → Option (List Word)
  | item :: .close none :: rest => if isItem item then some rest else none
  | item :: .sign '|' :: rest => if isItem item then alternatives? isItem rest else none
  | _ => none

def typeNames : List String := ["ID", "IDREF", "IDREFS", "ENTITY", "ENTITIES", "NMTOKEN", "NMTOKENS"]

def attributeType? : List Word → Option (Bool × List Word)
  | .name ⟨none, "NOTATION"⟩ :: .sign '(' :: rest =>
    (alternatives? (fun w => match w with | .name ⟨none, _⟩ => true | _ => false) rest).map (false, ·)
  | .name ⟨none, name⟩ :: rest =>
    if name == "CDATA" then some (true, rest)
    else if typeNames.contains name then some (false, rest)
    else none
  | .sign '(' :: rest =>
    (alternatives? (fun w => match w with | .name _ => true | .token _ => true | _ => false) rest).map
      (false, ·)
  | _ => none

def entityNamed? (d : Doctype) (name : String) : Option Entity := d.entities.lookup name

def isOpen (d : Doctype) : Bool := d.incomplete && !d.standalone

def expansionLimit : Nat := 8388608

/-- The value of an attribute: blanks are spaces, unless they are given by number, and references
are replaced by what `entity` gives for them. `budget` bounds the text that references grow to, and
what is left of it is given back. -/
def expandValueWith (entity : Nat → String → Option (List Char × Nat)) (budget : Nat) :
    List Datum → Option (List Char × Nat)
  | [] => some ([], budget)
  | .plain c :: rest => do
    let (outer, budget) ← expandValueWith entity budget rest
    some ((if isSpace c then ' ' else c) :: outer, budget)
  | .coded c :: rest => do
    let (outer, budget) ← expandValueWith entity budget rest
    some (c :: outer, budget)
  | .entity name :: rest => do
    let (inner, budget) ← entity budget name
    let (outer, budget) ← expandValueWith entity budget rest
    some (inner ++ outer, budget)

def expandValueEntity (d : Doctype) (fuel : Nat) (budget : Nat) (name : String) :
    Option (List Char × Nat) :=
  match d.entityNamed? name with
  | some (.internal text) =>
    match fuel with
    | 0 => none
    | fuel + 1 =>
      if budget < text.length then none
      else do
        expandValueWith (d.expandValueEntity fuel) (budget - text.length) (← value? false text)
  | some _ => none
  | none => if d.isOpen then some ([], budget) else none

def expandValue (d : Doctype) (fuel : Nat) (budget : Nat) (data : List Datum) :
    Option (List Char × Nat) := expandValueWith (d.expandValueEntity fuel) budget data

def depthLimit (d : Doctype) : Nat := d.entities.length + 1

def squeeze (cs : List Char) : List Char :=
  [' '].intercalate ((cs.splitOn ' ').filter (!·.isEmpty))

def valueText? (d : Doctype) (isText : Bool) (data : List Datum) : Option String := do
  let (cs, _) ← d.expandValue d.depthLimit expansionLimit data
  some (String.ofList (if isText then cs else squeeze cs))

def default? (d : Doctype) (ordinals : Bool) (isText : Bool) (cs : List Char) :
    Option (Option String) :=
  if d.counts then do some (← d.valueText? isText (← value? ordinals cs)) else some none

def attributeDefault? (d : Doctype) (ordinals : Bool) (isText : Bool) :
    List Word → Option (Option String × List Word)
  | .keyword "IMPLIED" :: rest => some (none, rest)
  | .keyword "REQUIRED" :: rest => some (none, rest)
  | .keyword "FIXED" :: .literal text :: rest =>
    (d.default? ordinals isText text).map fun v => (v, rest)
  | .literal text :: rest => (d.default? ordinals isText text).map fun v => (v, rest)
  | _ => none

def attributesWithin (ordinals : Bool) (element : RawName) :
    Nat → Doctype → List Word → Option Doctype
  | _, d, [] => some d
  | 0, _, _ => none
  | fuel + 1, d, .name name :: rest => do
    let (isText, rest) ← attributeType? rest
    let (default, rest) ← d.attributeDefault? ordinals isText rest
    attributesWithin ordinals element fuel (d.addAttribute ⟨element, name, isText, default⟩) rest
  | _, _, _ => none

/-- Whether the words are the rest of an element's content, groups being open with these
separators, the innermost first. `item` says that an item comes next. -/
def isContent : Bool → List (Option Char) → List Word → Bool
  | _, [], [] => true
  | true, opened, .sign '(' :: rest => isContent true (none :: opened) rest
  | true, opened, .name _ :: rest => isContent false opened rest
  | true, opened, .repeated _ :: rest => isContent false opened rest
  | false, _ :: opened, .close _ :: rest => isContent false opened rest
  | false, separator :: opened, .sign c :: rest =>
    (c == '|' || c == ',') && separator.all (· == c) && isContent true (some c :: opened) rest
  | _, _, _ => false

def isMixed (named : Bool) : List Word → Bool
  | [.close none] => !named
  | [.close (some '*')] => true
  | .sign '|' :: .name _ :: rest => isMixed true rest
  | _ => false

def isElementContent : List Word → Bool
  | [.name ⟨none, "EMPTY"⟩] => true
  | [.name ⟨none, "ANY"⟩] => true
  | .sign '(' :: .keyword "PCDATA" :: rest => isMixed false rest
  | .sign '(' :: rest => isContent true [none] rest
  | _ => false

def declare? (d : Doctype) (ordinals : Bool) (keyword : String) (words : List Word) :
    Option Doctype :=
  match keyword, words with
  | "ENTITY", words => d.entity? ordinals words
  | "ATTLIST", .name element :: rest => attributesWithin ordinals element rest.length d rest
  | "ELEMENT", .name _ :: rest => if isElementContent rest then some d else none
  | "NOTATION", [.name ⟨none, _⟩, .name ⟨none, "PUBLIC"⟩, .literal id] =>
    if id.all isPublicChar then some d else none
  | "NOTATION", .name ⟨none, _⟩ :: rest => if outside? rest == some [] then some d else none
  | _, _ => none

/-- What a reference to a parameter entity does: declarations may be missing from here on. -/
def leaveOff (d : Doctype) : Doctype := { d with incomplete := true, counts := d.standalone }

def subsetWithin (ordinals : Bool) : Nat → Doctype → List Char → Option (Doctype × List Char)
  | 0, _, _ => none
  | fuel + 1, d, cs =>
    match cs with
    | ']' :: rest => some (d, rest)
    | '<' :: '!' :: '-' :: '-' :: rest => do subsetWithin ordinals fuel d (← comment? rest)
    | '<' :: '?' :: rest => do subsetWithin ordinals fuel d (← instruction? ordinals rest)
    | '<' :: '!' :: rest => do
      let (keyword, rest) := rest.span Char.isAlpha
      if !rest.head?.any isSpace then none
      else do
        let (words, after) ← wordsWithin ordinals fuel [] rest
        if after.head? != some '>' then none
        else
          let d ← d.declare? ordinals (String.ofList keyword) words
          subsetWithin ordinals fuel d (after.drop 1)
    | '%' :: rest => do
      let (_, after) ← plainName? ordinals rest
      match after with
      | ';' :: after => subsetWithin ordinals fuel d.leaveOff after
      | _ => none
    | c :: rest => if isSpace c then subsetWithin ordinals fuel d rest else none
    | [] => none

def ofChars? (ordinals standalone : Bool) (cs : List Char) : Option (Doctype × List Char) := do
  if !cs.head?.any isSpace then none
  let (words, after) ← wordsWithin ordinals (cs.length + 1) [] cs
  let elsewhere ← match words with
    | [.name _] => some false
    | .name _ :: words => if outside? words == some [] then some true else none
    | _ => none
  let d : Doctype := { standalone, incomplete := elsewhere }
  match after with
  | '>' :: rest => some (d, rest)
  | '[' :: rest => do
    let (d, rest) ← subsetWithin ordinals (rest.length + 1) d rest
    match rest.dropWhile isSpace with
    | '>' :: rest => some (d, rest)
    | _ => none
  | _ => none

end Doctype

end ApexConstants.Xml
