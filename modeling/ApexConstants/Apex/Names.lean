import ApexConstants.Failure
import ApexConstants.Json
import ApexConstants.Text

namespace ApexConstants.Apex

def isWordChar (c : Char) : Bool := c.isAlphanum || c == '_'

def isIdentifier : List Char → Bool
  | [] => false
  | c :: rest => c.isAlpha && rest.all isWordChar

def dropFinalNewline (cs : List Char) : List Char :=
  if cs.getLast? == some '\n' then cs.dropLast else cs

/-- Whether a developer name can be used in the generated code. One line feed behind it does not
matter. -/
def acceptsName (name : String) : Bool := isIdentifier (dropFinalNewline name.toList)

def reservedWords : List String :=
  ["final", "static", "instanceof", "super", "this", "transient", "with", "without", "sharing",
    "inherited", "public", "private", "protected", "class", "new"]

/-- The rules for making identifiers: the words to avoid, in lower case, and what goes in front of
a name that cannot stand by itself. A lead that was given as another value than text has a text,
too, but cannot stand alone. -/
structure Sanitizer where
  reserved : List String := reservedWords
  lead : String := "a_"
  leadIsText : Bool := true
deriving DecidableEq, Repr

/-- One underscore for every run of other characters than those of a word. `inRun` says whether
the character before belongs to such a run. -/
def collapseRuns (inRun : Bool) : List Char → List Char
  | [] => []
  | c :: rest =>
    if isWordChar c then c :: collapseRuns false rest
    else if inRun then collapseRuns true rest
    else '_' :: collapseRuns true rest

def dropFinalUnderscore (cs : List Char) : List Char :=
  if cs.getLast? == some '_' then cs.dropLast else cs

def core (raw : String) : List Char := dropFinalUnderscore (collapseRuns false raw.toList)

namespace Sanitizer

def isReserved (s : Sanitizer) (name : String) : Bool := s.reserved.contains (Text.lower name)

/-- The identifier for a text. Where nothing is left of it, the lead stands alone, without the
underscores at its end. -/
def sanitize (s : Sanitizer) (raw : String) : String :=
  match core raw with
  | [] => String.ofList (Text.dropTrailing (· == '_') s.lead.toList)
  | c :: rest =>
    let name := String.ofList (c :: rest)
    if !c.isAlpha || s.isReserved name then s.lead ++ name else name

def hasName (s : Sanitizer) (raw : String) : Bool := s.leadIsText || !(core raw).isEmpty

def constantName (s : Sanitizer) (raw : String) : String := Text.upper (s.sanitize raw)

end Sanitizer

structure Namer where
  rules : Sanitizer
  known : List (String × String)
  sound : ∀ entry ∈ known, entry.2 = rules.sanitize entry.1

namespace Namer

def fresh (rules : Sanitizer) : Namer := ⟨rules, [], fun _ h => nomatch h⟩

def standard : Namer := fresh {}

def remember (n : Namer) (raw : String) : Namer where
  rules := n.rules
  known := (raw, n.rules.sanitize raw) :: n.known
  sound := by
    intro entry h
    rcases List.mem_cons.mp h with rfl | h
    · rfl
    · exact n.sound entry h

/-- The identifier for a text, and the namer that knows it. -/
def sanitize (n : Namer) (raw : String) : String × Namer :=
  match n.known.lookup raw with
  | some name => (name, n)
  | none => (n.rules.sanitize raw, n.remember raw)

def constantName (n : Namer) (raw : String) : String × Namer :=
  let (name, after) := n.sanitize raw
  (Text.upper name, after)

inductive Question
  | sanitize (raw : String)
  | constantName (raw : String)
  | isReserved (name : String)
deriving DecidableEq, Repr

inductive Answer
  | name (s : String)
  | verdict (b : Bool)
deriving DecidableEq, Repr

def answer (n : Namer) : Question → Answer × Namer
  | .sanitize raw => let (s, after) := n.sanitize raw; (.name s, after)
  | .constantName raw => let (s, after) := n.constantName raw; (.name s, after)
  | .isReserved name => (.verdict (n.rules.isReserved name), n)

def Question.raw? : Question → Option String
  | sanitize raw => some raw
  | constantName raw => some raw
  | isReserved _ => none

def answer? (n : Namer) (q : Question) : Option Answer × Namer :=
  if q.raw?.all n.rules.hasName then
    let (a, after) := n.answer q
    (some a, after)
  else (none, n)

end Namer

def classNameLimit : Int := 40

structure Affix where
  text : String := ""
  size : Nat := text.length
  quoted : String := Text.quoted text
deriving DecidableEq, Repr

/-- The affix that a value makes. Text counts for its characters, a list for its items and an object
for its members; other values make none. -/
def Affix.ofJson? (value : Json) : Option Affix :=
  match value with
  | .str s => some { text := s }
  | .arr items => some ⟨value.display, items.length, value.quoted⟩
  | .obj members => some ⟨value.display, members.length, value.quoted⟩
  | _ => none

structure ClassName where
  base : String
  lead : Affix := {}
  trail : Affix := {}
deriving DecidableEq, Repr

namespace ClassName

def room (n : ClassName) (limit : Int) : Int := limit - n.lead.size - n.trail.size

def text (n : ClassName) (limit : Int := classNameLimit) : String :=
  n.lead.text ++ String.ofList (n.base.toList.take (n.room limit).toNat) ++ n.trail.text

def excess (lead trail : Affix) (limit : Int) (base : String) : String :=
  "Prefix " ++ lead.quoted ++ " and suffix " ++ trail.quoted ++ " exceed the " ++ toString limit ++
    " character class name limit; base name " ++ base ++ " dropped"

def warning? (n : ClassName) (limit : Int := classNameLimit) : Option String :=
  if n.room limit < 0 then some (excess n.lead n.trail limit (Text.quoted n.base)) else none

end ClassName

def dropMarkers : List Char → List Char
  | '_' :: '_' :: 'c' :: rest => dropMarkers rest
  | '_' :: '_' :: 'm' :: 'd' :: 't' :: rest => dropMarkers rest
  | '_' :: rest => dropMarkers rest
  | c :: rest => c :: dropMarkers rest
  | [] => []

def normalize (name : String) : String := String.ofList (dropMarkers name.toList)

def fieldBase (object field joiner : String) : String :=
  normalize object ++ normalize joiner ++ normalize field

def platformTypeNames : List String := ["LeadStatus"]

/-- The base for a standard value set; an underscore tells it from a name that is taken. -/
def standardBase (name : String) (taken : String → Bool := platformTypeNames.contains) : String :=
  if taken name then name ++ "_" else name

def infoPropertyName (object developer : String) : String :=
  Text.upper (normalize object ++ "_" ++ developer)

def idPropertyName (object developer : String) : String :=
  infoPropertyName object developer ++ "_ID"

/-- The limit that a number sets, in relation to what prefix and suffix take: the whole number that
messages give for it, and the room that is left. There is no room below zero. -/
structure Allowance where
  limit : Int
  room : Option Nat
deriving DecidableEq, Repr

def Allowance.of (taken : Nat) : Json → Except ValueFault Allowance
  | .int n => .ok ⟨n, if n < taken then none else some (n - taken).toNat⟩
  | .bool b =>
    let n : Nat := if b then 1 else 0
    .ok ⟨n, if n < taken then none else some (n - taken)⟩
  | .float x =>
    if !x.isBelow taken then .error .wrongType
    else match x.truncated? with
      | some n => .ok ⟨n, none⟩
      | none => .error .tooLarge
  | _ => .error .wrongType

def cut (n : Nat) : Json → Except ValueFault String
  | .str s => .ok (String.ofList (s.toList.take n))
  | .arr items => .ok (Json.arr (items.take n)).display
  | _ => .error .wrongType

/-- The class name for given values, and what is said when prefix and suffix exceed the limit. It is
said whether or not the base can be cut. -/
def givenName (base lead trail limit : Json) : Option String × Except ValueFault String :=
  match Affix.ofJson? lead, Affix.ofJson? trail with
  | some lead, some trail =>
    match Allowance.of (lead.size + trail.size) limit with
    | .error fault => (none, .error fault)
    | .ok allowance =>
      (if allowance.room.isNone then some (ClassName.excess lead trail allowance.limit base.quoted)
        else none,
        (cut (allowance.room.getD 0) base).map fun base => lead.text ++ base ++ trail.text)
  | _, _ => (none, .error .wrongType)

end ApexConstants.Apex
