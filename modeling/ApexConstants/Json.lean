import ApexConstants.Number
import ApexConstants.Text

namespace ApexConstants

namespace Json

/-- Whether a number is half of a pair, which makes a character only with its other half. -/
def isHalf (n : Nat) : Bool := 0xD800 ≤ n && n < 0xE000

/-- The character with this code. A half without its partner is shown as U+FFFD. -/
def charOf (n : Nat) : Char := if isHalf n then '\uFFFD' else Char.ofNat n

/-- The key of a member: a text, a text in which half of a pair stands alone, or a value that is no
text, known by its form in messages. No key that is read from a text is of the last kind. -/
inductive Key
  | text (s : String)
  | broken (codes : List Nat) (lone : codes.any isHalf = true)
  | foreign (form : String)
deriving DecidableEq, Repr

namespace Key

instance : Coe String Key := ⟨text⟩

def ofCodes (codes : List Nat) : Key :=
  if lone : codes.any isHalf = true then broken codes lone
  else text (String.ofList (codes.map Char.ofNat))

def text? : Key → Option String
  | text s => some s
  | _ => none

def isForeign : Key → Bool
  | foreign _ => true
  | _ => false

def shown : Key → String
  | text s => s
  | broken codes _ => String.ofList (codes.map charOf)
  | foreign form => form

def codes : Key → List Nat
  | text s => s.toList.map Char.toNat
  | broken codes _ => codes
  | foreign _ => []

def precedes (a b : Key) : Bool := !decide (b.codes < a.codes)

def quotedCode (q : Char) (n : Nat) : List Char :=
  if isHalf n then '\\' :: 'u' :: Text.hexDigits 4 n else Text.quotedChar q (Char.ofNat n)

def quoted : Key → String
  | text s => Text.quoted s
  | broken codes _ =>
    let q := Text.quoteFor (codes.map charOf)
    String.ofList (q :: codes.flatMap (quotedCode q) ++ [q])
  | foreign form => form

end Key

end Json

inductive Json
  | null
  | bool (b : Bool)
  | int (n : Int)
  | float (x : Number.Binary64)
  | str (s : String)
  | arr (items : List Json)
  | obj (members : List (Json.Key × Json))
deriving Inhabited, BEq, Repr

namespace Json

abbrev Members := List (Key × Json)

def ofOption : Option String → Json
  | none => null
  | some s => str s

def isTruthy : Json → Bool
  | null => false
  | bool b => b
  | int n => n != 0
  | float x => !x.isZero
  | str s => !s.isEmpty
  | arr items => !items.isEmpty
  | obj members => !members.isEmpty

def isBool : Json → Bool
  | bool _ => true
  | _ => false

def get? (members : Members) (key : Key) : Option Json := members.lookup key

/-- Gives a key its value. A key that is present keeps its place. -/
def insert (key : Key) (value : Json) : Members → Members
  | [] => [(key, value)]
  | (k, v) :: rest => if k == key then (key, value) :: rest else (k, v) :: insert key value rest

def insertAll (members more : Members) : Members :=
  more.foldl (fun all (k, v) => insert k v all) members

mutual

def quoted : Json → String
  | null => "None"
  | bool b => if b then "True" else "False"
  | int n => toString n
  | float x => x.text
  | str s => Text.quoted s
  | arr items => "[" ++ String.intercalate ", " (quotedItems items) ++ "]"
  | obj members => "\x7b" ++ String.intercalate ", " (quotedMembers members) ++ "\x7d"

def quotedItems : List Json → List String
  | [] => []
  | item :: rest => quoted item :: quotedItems rest

def quotedMembers : List (Key × Json) → List String
  | [] => []
  | (key, value) :: rest => (key.quoted ++ ": " ++ quoted value) :: quotedMembers rest

end

/-- The text of the value, a string being its own text. -/
def display : Json → String
  | str s => s
  | value => quoted value

def digitLimit : Nat := 4300

/-- The most values that can stand one inside the other where a text is made of them. -/
def printLimit : Nat := 993

inductive PrintFault
  | tooManyDigits
  | tooDeep
deriving DecidableEq, Repr

mutual

/-- What comes first among the parts of a value that have no text. -/
def printFaultWithin : Nat → Json → Option PrintFault
  | 0, _ => some .tooDeep
  | _ + 1, int n => if Nat.pow 10 digitLimit ≤ n.natAbs then some .tooManyDigits else none
  | room + 1, arr items => printFaultItems room items
  | room + 1, obj members => printFaultMembers room members
  | _ + 1, _ => none

def printFaultItems (room : Nat) : List Json → Option PrintFault
  | [] => none
  | item :: rest => (printFaultWithin room item).or (printFaultItems room rest)

def printFaultMembers (room : Nat) : List (Key × Json) → Option PrintFault
  | [] => none
  | (_, value) :: rest => (printFaultWithin room value).or (printFaultMembers room rest)

end

def printFault? (value : Json) : Option PrintFault := printFaultWithin printLimit value

inductive Fault
  | malformed
  | tooManyDigits (count : Nat)
  | tooDeep
deriving DecidableEq, Repr

def depthLimit : Nat := 988

inductive Token
  | mark (c : Char)
  | scalar (value : Json)
  | text (key : Key)
  | excess (digits : Nat)

namespace Token

/-- How far a piece has been read, the last character first. Inside a string, characters are held
as numbers, since an escape may name half of a pair. -/
inductive Pending
  | nothing
  | word (chars : List Char)
  | text (codes : List Nat)
  | escape (codes : List Nat)
  | digits (codes : List Nat) (count : Nat) (value : Nat)

structure Scan where
  tokens : List Token
  pending : Pending

def hexDigit? (c : Char) : Option Nat :=
  if c.isDigit then some (c.toNat - '0'.toNat)
  else if 'a' ≤ c ∧ c ≤ 'f' then some (c.toNat - 'a'.toNat + 10)
  else if 'A' ≤ c ∧ c ≤ 'F' then some (c.toNat - 'A'.toNat + 10)
  else none

def escaped? : Char → Option Char
  | '"' => some '"'
  | '\\' => some '\\'
  | '/' => some '/'
  | 'b' => some '\x08'
  | 'f' => some '\x0c'
  | 'n' => some '\n'
  | 'r' => some '\r'
  | 't' => some '\t'
  | _ => none

def isHigh (n : Nat) : Bool := 0xD800 ≤ n && n < 0xDC00

def isLow (n : Nat) : Bool := 0xDC00 ≤ n && n < 0xE000

def joinPairs : List Nat → List Nat
  | [] => []
  | [n] => [n]
  | n :: m :: rest =>
    if isHigh n && isLow m then
      (0x10000 + (n - 0xD800) * 0x400 + (m - 0xDC00)) :: joinPairs rest
    else n :: joinPairs (m :: rest)

def decimal? (cs : List Char) : Option Nat :=
  if cs.isEmpty || !cs.all Char.isDigit then none
  else some (cs.foldl (fun n c => 10 * n + (c.toNat - '0'.toNat)) 0)

/-- A number, without its sign: no leading zeros, digits on both sides of a point and after an
exponent mark. -/
def unsigned? (negative : Bool) (cs : List Char) : Option Json := do
  let (whole, rest) := cs.span Char.isDigit
  let n ← decimal? whole
  if 1 < whole.length && whole.head? == some '0' then none
  else if rest.isEmpty then some (.int (if negative then -(n : Int) else n))
  else
    let (fraction, rest) ← match rest with
      | '.' :: more =>
        let (fraction, rest) := more.span Char.isDigit
        if fraction.isEmpty then none else some (fraction, rest)
      | _ => some ([], rest)
    let power : Int ← match rest with
      | [] => some 0
      | letter :: more =>
        if letter != 'e' && letter != 'E' then none
        else match more with
          | '-' :: digits => (decimal? digits).map fun k => -(k : Int)
          | '+' :: digits => (decimal? digits).map fun k => (k : Int)
          | digits => (decimal? digits).map fun k => (k : Int)
    let digits ← decimal? (whole ++ fraction)
    some (.float (.ofDecimal negative digits (power - fraction.length)))

def number? : List Char → Option Json
  | '-' :: cs => unsigned? true cs
  | cs => unsigned? false cs

def goesOn : List Char → Bool
  | '.' :: c :: _ => c.isDigit
  | 'e' :: c :: rest => c.isDigit || (c == '-' || c == '+') && rest.head?.any Char.isDigit
  | 'E' :: c :: rest => c.isDigit || (c == '-' || c == '+') && rest.head?.any Char.isDigit
  | _ => false

/-- The number of digits of the whole number that a word starts with, if they are too many. What
follows the number does not matter. -/
def excessDigits? (cs : List Char) : Option Nat :=
  let (digits, rest) := (if cs.head? == some '-' then cs.drop 1 else cs).span Char.isDigit
  if digits.length ≤ digitLimit || digits.head? == some '0' || goesOn rest then none
  else some digits.length

def ofWord? (cs : List Char) : Option Token :=
  match excessDigits? cs with
  | some count => some (.excess count)
  | none =>
    match String.ofList cs with
    | "null" => some (.scalar .null)
    | "true" => some (.scalar (.bool true))
    | "false" => some (.scalar (.bool false))
    | "NaN" => some (.scalar (.float .notANumber))
    | "Infinity" => some (.scalar (.float (.infinite false)))
    | "-Infinity" => some (.scalar (.float (.infinite true)))
    | _ => (number? cs).map .scalar

def isWordChar (c : Char) : Bool := c.isAlphanum || c == '-' || c == '+' || c == '.'

def isSpace (c : Char) : Bool := c == ' ' || c == '\n' || c == '\r' || c == '\t'

def Scan.begin (tokens : List Token) (c : Char) : Option Scan :=
  if isSpace c then some ⟨tokens, .nothing⟩
  else if c == '"' then some ⟨tokens, .text []⟩
  else if isWordChar c then some ⟨tokens, .word [c]⟩
  else if ['[', ']', '\x7b', '\x7d', ':', ','].contains c then some ⟨.mark c :: tokens, .nothing⟩
  else none

def Scan.step (s : Scan) (c : Char) : Option Scan :=
  match s.pending with
  | .nothing => Scan.begin s.tokens c
  | .word chars =>
    if isWordChar c then some ⟨s.tokens, .word (c :: chars)⟩
    else do
      let token ← ofWord? chars.reverse
      Scan.begin (token :: s.tokens) c
  | .text codes =>
    if c == '"' then
      some ⟨.text (.ofCodes (joinPairs codes.reverse)) :: s.tokens, .nothing⟩
    else if c == '\\' then some ⟨s.tokens, .escape codes⟩
    else if c.toNat < 0x20 then none
    else some ⟨s.tokens, .text (c.toNat :: codes)⟩
  | .escape codes =>
    if c == 'u' then some ⟨s.tokens, .digits codes 0 0⟩
    else (escaped? c).map fun d => ⟨s.tokens, .text (d.toNat :: codes)⟩
  | .digits codes count value => do
    let value := 16 * value + (← hexDigit? c)
    some ⟨s.tokens, if count == 3 then .text (value :: codes) else .digits codes (count + 1) value⟩

def Scan.run (s : Scan) : List Char → List Token × Bool
  | [] => (s.tokens.reverse, match s.pending with
    | .nothing => true
    | _ => false)
  | c :: rest =>
    match s.step c with
    | some after => after.run rest
    | none => (s.tokens.reverse, false)

def ofText (s : String) : List Token × Bool :=
  -- A blank at the end closes a last word.
  Scan.run ⟨[], .nothing⟩ (s.toList ++ ['\n'])

end Token

inductive Frame
  | list (items : List Json)
  | object (members : Members) (key : Key)

/-- What may come next. `first` says that the innermost list or object may still end empty. -/
inductive Building
  | value (opened : List Frame) (first : Bool)
  | key (opened : List Frame) (members : Members) (first : Bool)
  | colon (opened : List Frame) (members : Members) (key : Key)
  | complete (opened : List Frame) (value : Json)

def Building.enter (opened : List Frame) (inside : Building) : Except Fault Building :=
  if depthLimit ≤ opened.length then .error .tooDeep else .ok inside

def Building.step : Building → Token → Except Fault Building
  | .value opened _, .scalar v => .ok (.complete opened v)
  | .value opened _, .text k => .ok (.complete opened (.str k.shown))
  | .value _ _, .excess count => .error (.tooManyDigits count)
  | .value opened _, .mark '[' => Building.enter opened (.value (.list [] :: opened) true)
  | .value opened _, .mark '\x7b' => Building.enter opened (.key opened [] true)
  | .value (.list [] :: opened) true, .mark ']' => .ok (.complete opened (.arr []))
  | .key opened members _, .text k => .ok (.colon opened members k)
  | .key opened members true, .mark '\x7d' => .ok (.complete opened (.obj members))
  | .colon opened members k, .mark ':' => .ok (.value (.object members k :: opened) false)
  | .complete (.list items :: opened) v, .mark ',' => .ok (.value (.list (v :: items) :: opened) false)
  | .complete (.list items :: opened) v, .mark ']' =>
    .ok (.complete opened (.arr (v :: items).reverse))
  | .complete (.object members k :: opened) v, .mark ',' =>
    .ok (.key opened (insert k v members) false)
  | .complete (.object members k :: opened) v, .mark '\x7d' =>
    .ok (.complete opened (.obj (insert k v members)))
  | _, _ => .error .malformed

/-- The value that a text holds, if it holds one and nothing else. `NaN` and the two infinities are
read, too. -/
def read (s : String) : Except Fault Json := do
  let (tokens, isAll) := Token.ofText s
  match ← tokens.foldlM Building.step (.value [] false), isAll with
  | .complete [] v, true => return v
  | _, _ => throw .malformed

end Json

end ApexConstants
