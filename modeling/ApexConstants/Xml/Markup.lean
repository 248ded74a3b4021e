import ApexConstants.Xml.Element
import ApexConstants.Xml.Encoding

namespace ApexConstants.Xml

/-- A piece of text: a character as written, one given by its number or by one of the five names
that every document knows, or a reference to an entity. -/
inductive Datum
  | plain (c : Char)
  | coded (c : Char)
  | entity (name : String)
deriving DecidableEq, Repr

/-- A piece of content. Text that stands as written is told apart from text that is given by number
or in a marked section, which cannot stand outside the root. -/
inductive Markup
  | text (chars : List Char)
  | data (chars : List Char)
  | entity (name : String)
  | opening (name : RawName) (attributes : List (RawName × List Datum)) (closed : Bool)
  | closing (name : RawName)
deriving Repr

def knownEntity? : String → Option Char
  | "lt" => some '<'
  | "gt" => some '>'
  | "amp" => some '&'
  | "apos" => some '\''
  | "quot" => some '"'
  | _ => none

def digitIn? (base : Nat) (c : Char) : Option Nat :=
  let n :=
    if c.isDigit then c.toNat - '0'.toNat
    else if 'a' ≤ c ∧ c ≤ 'f' then c.toNat - 'a'.toNat + 10
    else if 'A' ≤ c ∧ c ≤ 'F' then c.toNat - 'A'.toNat + 10
    else 99
  if n < base then some n else none

def charOfNumber? (n : Nat) : Option Char :=
  if n < 0x110000 && !(0xD800 ≤ n && n < 0xE000) && isAllowed (Char.ofNat n) then
    some (Char.ofNat n)
  else none

def numbered? (base : Nat) (cs : List Char) : Option (Char × List Char) :=
  let (digits, rest) := cs.span (· != ';')
  if digits.isEmpty || rest.isEmpty then none
  else do
    let values ← digits.mapM (digitIn? base)
    -- A number that has grown too large stays so.
    let n := values.foldl (fun n d => min (n * base + d) 0x110000) 0
    some (← charOfNumber? n, rest.drop 1)

def reference? (ordinals : Bool) : List Char → Option (Datum × List Char)
  | '#' :: 'x' :: rest => (numbered? 16 rest).map fun (c, after) => (.coded c, after)
  | '#' :: rest => (numbered? 10 rest).map fun (c, after) => (.coded c, after)
  | cs => do
    let (name, rest) ← plainName? ordinals cs
    match rest with
    | ';' :: after =>
      some (match knownEntity? name with
        | some c => .coded c
        | none => .entity name, after)
    | _ => none

/-- Reads the value of an attribute up to `stop`, or to the end where there is no `stop`; `fuel`
bounds the number of characters. -/
def valueWithin (ordinals : Bool) (stop : Option Char) :
    Nat → List Datum → List Char → Option (List Datum × List Char)
  | 0, _, _ => none
  | fuel + 1, read, cs =>
    match cs with
    | [] => if stop.isNone then some (read.reverse, []) else none
    | c :: rest =>
      if stop == some c then some (read.reverse, rest)
      else if c == '<' then none
      else if c == '&' then do
        let (datum, after) ← reference? ordinals rest
        valueWithin ordinals stop fuel (datum :: read) after
      else valueWithin ordinals stop fuel (.plain c :: read) rest

def value? (ordinals : Bool) (cs : List Char) : Option (List Datum) :=
  (valueWithin ordinals none (cs.length + 1) [] cs).map Prod.fst

def attributesWithin (ordinals : Bool) : Nat → List (RawName × List Datum) → List Char →
    Option (List (RawName × List Datum) × Bool × List Char)
  | 0, _, _ => none
  | fuel + 1, read, cs =>
    match cs.dropWhile isSpace with
    | '>' :: rest => some (read.reverse, false, rest)
    | '/' :: '>' :: rest => some (read.reverse, true, rest)
    | start =>
      if !cs.head?.any isSpace then none
      else do
        let (name, rest) ← rawName? ordinals start
        match rest.dropWhile isSpace with
        | '=' :: rest =>
          match rest.dropWhile isSpace with
          | quote :: rest =>
            if quote == '"' || quote == '\'' then
              let (value, rest) ← valueWithin ordinals (some quote) fuel [] rest
              attributesWithin ordinals fuel ((name, value) :: read) rest
            else none
          | [] => none
        | _ => none

def comment? (cs : List Char) : Option (List Char) := do
  let (_, rest) ← upTo? ['-', '-'] cs
  match rest with
  | '>' :: after => some after
  | _ => none

def instruction? (ordinals : Bool) (cs : List Char) : Option (List Char) := do
  let (name, rest) ← plainName? ordinals cs
  if name.toLower == "xml" then none
  else match rest with
    | c :: _ =>
      if isSpace c then (upTo? ['?', '>'] rest).map Prod.snd
      else match rest with
        | '?' :: '>' :: after => some after
        | _ => none
    | [] => none

def sectionMark : List Char := ['[', 'C', 'D', 'A', 'T', 'A', '[']

def tag? (ordinals : Bool) (fuel : Nat) : List Char → Option (Option Markup × List Char)
  | '/' :: rest => do
    let (name, rest) ← rawName? ordinals rest
    match rest.dropWhile isSpace with
    | '>' :: after => some (some (.closing name), after)
    | _ => none
  | '!' :: '-' :: '-' :: rest => (comment? rest).map fun after => (none, after)
  | '!' :: rest =>
    if sectionMark.isPrefixOf rest then
      (upTo? [']', ']', '>'] (rest.drop sectionMark.length)).map fun (text, after) =>
        (some (.data text), after)
    else none
  | '?' :: rest => (instruction? ordinals rest).map fun after => (none, after)
  | cs => do
    let (name, rest) ← rawName? ordinals cs
    let (attributes, closed, after) ← attributesWithin ordinals fuel [] rest
    some (some (.opening name attributes closed), after)

def piece? (ordinals : Bool) (fuel : Nat) : List Char → Option (Option Markup × List Char)
  | [] => none
  | '<' :: rest => tag? ordinals fuel rest
  | '&' :: rest => (reference? ordinals rest).map fun (datum, after) =>
    (some (match datum with
      | .plain c => .data [c]
      | .coded c => .data [c]
      | .entity name => .entity name), after)
  | ']' :: rest =>
    if [']', '>'].isPrefixOf rest then none else some (some (.text [']']), rest)
  | c :: rest =>
    let (text, after) := rest.span fun c => c != '<' && c != '&' && c != ']'
    some (some (.text (c :: text)), after)

def contentWithin (ordinals : Bool) : Nat → List Markup → List Char → Option (List Markup)
  | 0, _, _ => none
  | fuel + 1, read, cs =>
    if cs.isEmpty then some read.reverse
    else do
      let (piece, after) ← piece? ordinals (fuel + 1) cs
      contentWithin ordinals fuel (piece.toList ++ read) after

def content? (ordinals : Bool) (cs : List Char) : Option (List Markup) :=
  contentWithin ordinals (cs.length + 1) [] cs

end ApexConstants.Xml
