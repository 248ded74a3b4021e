import ApexConstants.Text
import ApexConstants.Xml.CodePageTable

namespace ApexConstants.Xml

inductive Fault
  | malformed
  | unknownEncoding
  | multiByteEncoding
  | refusedEncoding
  | undecodable
deriving DecidableEq, Repr

inductive Encoding
  | utf8
  | utf16 (bigEndian : Bool)
  | latin1
  | ascii
  | page (codes : CodePage)
deriving DecidableEq, Repr

def isAllowed (c : Char) : Bool :=
  let n := c.toNat
  (0x20 ≤ n && n != 0xFFFE && n != 0xFFFF) || n == 9 || n == 10 || n == 13

def isSpace (c : Char) : Bool := c == ' ' || c == '\t' || c == '\n' || c == '\r'

namespace Encoding

def units (bigEndian : Bool) : List UInt8 → List Nat
  | a :: b :: rest =>
    (if bigEndian then a.toNat * 256 + b.toNat else b.toNat * 256 + a.toNat) ::
      units bigEndian rest
  | _ => []

/-- The characters of units of two bytes, and whether there are characters for all of them. A first
half takes the next unit as its second half, of which the lower ten bits count; a second half does
not stand alone. -/
def ofUnits : List Nat → List Char × Bool
  | [] => ([], true)
  | [n] => if 0xD800 ≤ n && n < 0xE000 then ([], false) else ([Char.ofNat n], true)
  | n :: m :: rest =>
    if 0xD800 ≤ n && n < 0xDC00 then
      let (cs, complete) := ofUnits rest
      (Char.ofNat (0x10000 + (n - 0xD800) * 0x400 + m % 0x400) :: cs, complete)
    else if 0xDC00 ≤ n && n < 0xE000 then ([], false)
    else
      let (cs, complete) := ofUnits (m :: rest)
      (Char.ofNat n :: cs, complete)

def decode? (e : Encoding) (bytes : List UInt8) : Option (List Char) :=
  match e with
  | utf8 => (String.fromUTF8? ⟨bytes.toArray⟩).map String.toList
  | utf16 bigEndian =>
    let (cs, complete) := ofUnits (units bigEndian bytes)
    if complete && bytes.length % 2 == 0 then some cs else none
  | latin1 => some (bytes.map fun b => Char.ofNat b.toNat)
  | ascii => bytes.mapM fun b => if b < 128 then some (Char.ofNat b.toNat) else none
  | page codes => codes.decode? bytes

/-- What the first bytes say: the encoding unless another is declared, and the bytes without a mark
of their order. -/
def sniff : List UInt8 → Encoding × List UInt8
  | 0xEF :: 0xBB :: 0xBF :: rest => (utf8, rest)
  | 0xFE :: 0xFF :: rest => (utf16 true, rest)
  | 0xFF :: 0xFE :: rest => (utf16 false, rest)
  | 0 :: rest => (utf16 true, 0 :: rest)
  | a :: 0 :: rest => (utf16 false, a :: 0 :: rest)
  | bytes => (utf8, bytes)

def isWide : Encoding → Bool
  | utf16 _ => true
  | _ => false

/-- A name of an encoding in lower case, with one underscore for every run of other characters than
letters, digits and points. -/
def plainName (name : String) : String :=
  let step : List Char × Bool → Char → List Char × Bool := fun (out, gap) c =>
    if c.isAlphanum || c == '.' then
      (c.toLower :: (if gap && !out.isEmpty then '_' :: out else out), false)
    else (out, true)
  String.ofList (name.toList.foldl step ([], false)).1.reverse

def pageNamed (plain : String) : Except Fault CodePage :=
  match CodePage.all.find? (·.names.contain plain) with
  | some codes => .ok codes
  | none =>
    if CodePage.multiByteNames.contain plain then .error .multiByteEncoding
    else if CodePage.displacedNames.contain plain then .error .malformed
    else if plain == "idna" || plain == "undefined" then .error .refusedEncoding
    else if plain == "punycode" then .error .undecodable
    else .error .unknownEncoding

def ofName (sniffed : Encoding) (name : String) : Except Fault Encoding :=
  match Text.upper name with
  | "UTF-8" => if sniffed.isWide then .error .malformed else .ok utf8
  | "ISO-8859-1" => if sniffed.isWide then .error .malformed else .ok latin1
  | "US-ASCII" => if sniffed.isWide then .error .malformed else .ok ascii
  | "UTF-16" => if sniffed.isWide then .ok sniffed else .error .malformed
  | "UTF-16BE" => if sniffed == utf16 true then .ok sniffed else .error .malformed
  | "UTF-16LE" => if sniffed == utf16 false then .ok sniffed else .error .malformed
  | _ => do
    let codes ← pageNamed (plainName name)
    if sniffed.isWide then .error .malformed else .ok (page codes)

def hasOrdinals : Encoding → Bool
  | utf16 _ => true
  | latin1 => true
  | _ => false

end Encoding

structure Declaration where
  encoding : Option String := none
  standalone : Bool := false
deriving Repr

namespace Declaration

inductive Pair
  | pair (name value rest : List Char)
  | finished
  | malformed

def isValueChar (c : Char) : Bool := c.isAlphanum || c == '.' || c == '-' || c == '_'

def pair (cs : List Char) : Pair :=
  let start := cs.dropWhile isSpace
  if start.isEmpty then .finished
  else if start.length == cs.length then .malformed
  else
    let (name, after) := start.span fun c => !isSpace c && c != '='
    match name, after.dropWhile isSpace with
    | [], _ => .malformed
    | name, '=' :: after =>
      match after.dropWhile isSpace with
      | quote :: after =>
        if quote == '"' || quote == '\'' then
          let (value, rest) := after.span isValueChar
          if rest.head? == some quote then .pair name value (rest.drop 1) else .malformed
        else .malformed
      | [] => .malformed
    | _, _ => .malformed

def standalonePair? (d : Declaration) (name value rest : List Char) : Option Declaration :=
  if String.ofList name != "standalone" || !rest.all isSpace then none
  else match String.ofList value with
    | "yes" => some { d with standalone := true }
    | "no" => some d
    | _ => none

def ofChars? (cs : List Char) : Option Declaration :=
  match pair cs with
  | .pair name _ rest =>
    if String.ofList name != "version" then none
    else match pair rest with
      | .finished => some {}
      | .malformed => none
      | .pair name value rest =>
        if String.ofList name == "encoding" then
          if !(value.head?.any Char.isAlpha) then none
          else
            let d : Declaration := { encoding := some (String.ofList value) }
            match pair rest with
            | .finished => some d
            | .malformed => none
            | .pair name value rest => d.standalonePair? name value rest
        else standalonePair? {} name value rest
  | _ => none

end Declaration

def upTo? (mark : List Char) : List Char → Option (List Char × List Char)
  | [] => none
  | c :: rest =>
    if mark.isPrefixOf (c :: rest) then some ([], (c :: rest).drop mark.length)
    else (upTo? mark rest).map fun (before, after) => (c :: before, after)

def splitDeclaration (cs : List Char) : Except Fault (Option Declaration × List Char) :=
  match cs with
  | '<' :: '?' :: 'x' :: 'm' :: 'l' :: c :: rest =>
    if isSpace c || c == '?' then
      match upTo? ['?', '>'] (c :: rest) with
      | none => .error .malformed
      | some (inside, after) =>
        match Declaration.ofChars? inside with
        | some d => .ok (some d, after)
        | none => .error .malformed
    else .ok (none, cs)
  | _ => .ok (none, cs)

def endLines : List Char → List Char
  | [] => []
  | '\r' :: '\n' :: rest => '\n' :: endLines rest
  | '\r' :: rest => '\n' :: endLines rest
  | c :: rest => c :: endLines rest

structure Document where
  declaration : Option Declaration
  text : List Char
  ordinals : Bool

/-- The text as far as a declaration goes, which is ASCII: where characters take one byte or more,
each byte is read as one. -/
def roughText (sniffed : Encoding) (bytes : List UInt8) : List Char :=
  match sniffed with
  | .utf16 bigEndian => (Encoding.ofUnits (Encoding.units bigEndian bytes)).1
  | _ => bytes.map fun b => Char.ofNat b.toNat

def Document.ofBytes (content : ByteArray) : Except Fault Document := do
  let (sniffed, bytes) := Encoding.sniff content.toList
  let (declaration, _) ← splitDeclaration (roughText sniffed bytes)
  let encoding ← match declaration.bind (·.encoding) with
    | none => pure sniffed
    | some name => sniffed.ofName name
  match encoding.decode? bytes with
  | none => throw .malformed
  | some text =>
    if !text.all isAllowed then throw .malformed
    let (_, rest) ← splitDeclaration text
    return ⟨declaration, endLines rest, encoding.hasOrdinals⟩

end ApexConstants.Xml
