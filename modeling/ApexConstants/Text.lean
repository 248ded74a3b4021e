import ApexConstants.Text.CaseTable
import ApexConstants.Text.CellTable
import ApexConstants.Text.PrintableTable

namespace ApexConstants.Text

/-- The digits zero. Nine more digits follow each. -/
def zeroDigits : List Nat := [
    0x30, 0x660, 0x6F0, 0x7C0, 0x966, 0x9E6, 0xA66, 0xAE6, 0xB66, 0xBE6, 0xC66, 0xCE6, 0xD66,
    0xDE6, 0xE50, 0xED0, 0xF20, 0x1040, 0x1090, 0x17E0, 0x1810, 0x1946, 0x19D0, 0x1A80, 0x1A90,
    0x1B50, 0x1BB0, 0x1C40, 0x1C50, 0xA620, 0xA8D0, 0xA900, 0xA9D0, 0xA9F0, 0xAA50, 0xABF0,
    0xFF10, 0x104A0, 0x10D30, 0x11066, 0x110F0, 0x11136, 0x111D0, 0x112F0, 0x11450, 0x114D0,
    0x11650, 0x116C0, 0x11730, 0x118E0, 0x11950, 0x11C50, 0x11D50, 0x11DA0, 0x16A60, 0x16AC0,
    0x16B50, 0x1D7CE, 0x1D7D8, 0x1D7E2, 0x1D7EC, 0x1D7F6, 0x1E140, 0x1E2F0, 0x1E950, 0x1FBF0]

def isDecimalDigit (c : Char) : Bool :=
  zeroDigits.any fun first => first ≤ c.toNat && c.toNat ≤ first + 9

def pieces (separator : Char) (s : String) : List String :=
  (s.toList.splitOn separator).map String.ofList

/-- The lines of a text. One that ends with a line feed has an empty last line. -/
def lines (s : String) : List String := pieces '\n' s

def unlines (ls : List String) : String := String.intercalate "\n" ls

def endLines (ls : List String) : String := String.join (ls.map (· ++ "\n"))

def occursIn (part : List Char) : List Char → Bool
  | [] => part.isEmpty
  | c :: rest => part.isPrefixOf (c :: rest) || occursIn part rest

/-- White space, line breaks and the separators U+001C to U+001F. A zero width space is not blank.
-/
def isBlank (c : Char) : Bool :=
  let n := c.toNat
  (9 ≤ n && n ≤ 13) || (28 ≤ n && n ≤ 32) || n == 0x85 || n == 0xA0 || n == 0x1680 ||
    (0x2000 ≤ n && n ≤ 0x200A) || n == 0x2028 || n == 0x2029 || n == 0x202F || n == 0x205F ||
    n == 0x3000

def dropTrailing (p : Char → Bool) (cs : List Char) : List Char :=
  (cs.reverse.dropWhile p).reverse

def trimEnd (cs : List Char) : List Char := dropTrailing isBlank cs

def trim (s : String) : String := String.ofList (trimEnd (s.toList.dropWhile isBlank))

def isAscii (c : Char) : Bool := c.val < 128

def upperChar (c : Char) : List Char :=
  if isAscii c then [c.toUpper]
  else match upperExpansions.lookup c.toNat with
    | some codes => codes.map Char.ofNat
    | none => [Char.ofNat (CaseSpan.image upperSpans c.toNat)]

def lowerChar (c : Char) : List Char :=
  if isAscii c then [c.toLower]
  else if c == '\u0130' then ['i', '\u0307']
  else [Char.ofNat (CaseSpan.image lowerSpans c.toNat)]

/-- Passed over when the neighbours of a sigma are sought: marks, and signs such as `'`. -/
def isCaseIgnorable (c : Char) : Bool := inRanges caseIgnorableRanges c.toNat

def isCased (c : Char) : Bool :=
  if isAscii c then c.isAlpha else inRanges casedRanges c.toNat

def cased : List Char → Bool
  | [] => false
  | c :: rest => if isCaseIgnorable c then cased rest else isCased c

/-- Lower case of what follows; `inWord` says whether the last character that counts has case. -/
def lowerFrom (inWord : Bool) : List Char → List Char
  | [] => []
  | c :: rest =>
    let image :=
      if c == '\u03A3' then [if inWord && !cased rest then '\u03C2' else '\u03C3'] else lowerChar c
    image ++ lowerFrom (if isCaseIgnorable c then inWord else isCased c) rest

def upper (s : String) : String := String.ofList (s.toList.flatMap upperChar)

def lower (s : String) : String := String.ofList (lowerFrom false s.toList)

def isPrintable (c : Char) : Bool := !inRanges unprintableRanges c.toNat

def hexDigits (width n : Nat) : List Char :=
  let digits := Nat.toDigits 16 n
  List.replicate (width - digits.length) '0' ++ digits

def quotedChar (q c : Char) : List Char :=
  if c == q || c == '\\' then ['\\', c]
  else if c == '\n' then ['\\', 'n']
  else if c == '\r' then ['\\', 'r']
  else if c == '\t' then ['\\', 't']
  else if isPrintable c then [c]
  else if c.toNat < 0x100 then '\\' :: 'x' :: hexDigits 2 c.toNat
  else if c.toNat < 0x10000 then '\\' :: 'u' :: hexDigits 4 c.toNat
  else '\\' :: 'U' :: hexDigits 8 c.toNat

/-- Apostrophes enclose a text unless it has an apostrophe and no double quote. -/
def quoteFor (cs : List Char) : Char :=
  if cs.contains '\'' && !cs.contains '"' then '"' else '\''

def quoted (s : String) : String :=
  let q := quoteFor s.toList
  String.ofList (q :: s.toList.flatMap (quotedChar q) ++ [q])

def charCells (c : Char) : Nat :=
  if inRanges wideRanges c.toNat then 2 else if inRanges emptyRanges c.toNat then 0 else 1

def cellsOf (cs : List Char) : Nat := (cs.map charCells).foldl (· + ·) 0

def cells (s : String) : Nat := cellsOf s.toList

def spaces (n : Nat) : String := String.ofList (List.replicate n ' ')

def padEnd (width : Nat) (s : String) : String := s ++ spaces (width - cells s)

/-- The text in the middle of a width. A space that is left over goes behind it. -/
def center (width : Nat) (s : String) : String :=
  let room := width - cells s
  spaces (room / 2) ++ s ++ spaces (room - room / 2)

end ApexConstants.Text
