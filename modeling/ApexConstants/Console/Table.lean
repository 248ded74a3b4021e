import ApexConstants.Text

namespace ApexConstants.Console

open Text (charCells cellsOf isBlank)

inductive Overflow
  | fold
  | ellipsis
deriving DecidableEq, Repr

def tabStop : Nat := 8

def tabSpaces (column : Nat) : Nat := 1 + (tabStop - (column + 1) % tabStop) % tabStop

def expandTabs (column : Nat) : List Char → List Char
  | [] => []
  | c :: rest =>
    if c == '\t' then
      List.replicate (tabSpaces column) ' ' ++ expandTabs (column + tabSpaces column) rest
    else c :: expandTabs (column + charCells c) rest

/-- The words with the blanks behind them; the first has those before it too. Blanks alone are no
word. -/
def words (cs : List Char) : List (List Char) :=
  match _h : cs.dropWhile isBlank with
  | [] => []
  | c :: rest =>
    let lead := cs.takeWhile isBlank
    let word := rest.takeWhile fun c => !isBlank c
    let after := rest.dropWhile fun c => !isBlank c
    (lead ++ c :: word ++ after.takeWhile isBlank) :: words (after.dropWhile isBlank)
termination_by cs.length
decreasing_by
  have h₁ := (List.dropWhile_suffix isBlank (l := cs)).length_le
  have h₂ := (List.dropWhile_suffix (fun c => !isBlank c) (l := rest)).length_le
  have h₃ := (List.dropWhile_suffix isBlank
    (l := rest.dropWhile fun c => !isBlank c)).length_le
  simp [_h] at h₁
  omega

/-- The characters in pieces that take no more than `room` cells each; `piece` is the one so far
backwards and `taken` its cells. -/
def chop (room : Nat) (piece : List Char) (taken : Nat) : List Char → List (List Char)
  | [] => [piece.reverse]
  | c :: rest =>
    if taken + charCells c > room then piece.reverse :: chop room [c] (charCells c) rest
    else chop room (c :: piece) (taken + charCells c) rest

structure Breaking where
  done : List (List Char) := []
  line : List (List Char) := []
  taken : Nat := 0

namespace Breaking

def current (b : Breaking) : List Char := b.line.reverse.flatten

def closed (b : Breaking) : List (List Char) :=
  if b.line.isEmpty then b.done else b.current :: b.done

def addWord (room : Nat) (overflow : Overflow) (b : Breaking) (word : List Char) : Breaking :=
  let bare := cellsOf (Text.trimEnd word)
  if b.taken + bare ≤ room then
    { b with line := word :: b.line, taken := b.taken + cellsOf word }
  else if room < bare && overflow == .fold then
    match (chop room [] 0 word).reverse with
    | [] => b
    | last :: before => ⟨before ++ b.closed, [last], cellsOf last⟩
  else ⟨b.closed, [word], cellsOf word⟩

end Breaking

def breakLine (room : Nat) (overflow : Overflow) (line : List Char) : List (List Char) :=
  match words line with
  | [] => [line]
  | ws => (ws.foldl (Breaking.addWord room overflow) {}).closed.reverse

def dropBlanks (room : Nat) (line : List Char) : List Char :=
  let blanks := line.length - (Text.trimEnd line).length
  line.take (line.length - min blanks (line.length - room))

/-- The first characters that take `room` cells, sought by halving the range of their number. A
character that fits by half is a space. -/
def cutWithin (room : Nat) (line : List Char) : Nat → Nat → Nat → List Char
  | 0, _, _ => line
  | fuel + 1, low, high =>
    let middle := (low + high) / 2
    let head := line.take (middle + 1)
    let taken := cellsOf head
    if taken == room + 1 && cellsOf (line.drop middle |>.take 1) == 2 then line.take middle ++ [' ']
    else if taken == room then head
    else if taken > room then cutWithin room line fuel low middle
    else cutWithin room line fuel middle high

def setWidth (room : Nat) (line : List Char) : List Char :=
  if room == 0 then []
  else if cellsOf line ≤ room then line ++ List.replicate (room - cellsOf line) ' '
  else cutWithin room line line.length 0 line.length

def cutLine (room : Nat) (overflow : Overflow) (line : List Char) : List Char :=
  if cellsOf line ≤ room then line
  else match overflow with
    | .fold => setWidth room line
    | .ellipsis => setWidth (room - 1) line ++ ['…']

def linesWithin (room : Nat) (overflow : Overflow) (wraps : Bool) (text : String) : List String :=
  (Text.lines text).flatMap fun line =>
    let line := expandTabs 0 line.toList
    (if wraps then breakLine room overflow line else [line]).map fun line =>
      String.ofList (cutLine room overflow (dropBlanks room line))

def consoleWidth : Nat := 10000

structure Column where
  heading : String
  wraps : Bool
deriving DecidableEq, Repr

def endsMeasuredLine (c : Char) : Bool :=
  (10 ≤ c.toNat && c.toNat ≤ 13) || (28 ≤ c.toNat && c.toNat ≤ 30) || c == '\u0085' ||
    c == '\u2028' || c == '\u2029'

/-- The cells that the widest line of a text takes. A tab takes none. -/
def measure (text : String) : Nat :=
  ((text.toList.splitOnP endsMeasuredLine).map Text.cellsOf).foldl max 0

def frame (columns : Nat) : Nat := 3 * columns + 1

/-- The widths of columns whose cells are given column by column. A column that wraps gives way
where the table would be wider than the console. -/
def columnWidths (columns : List (Column × List String)) : List Nat :=
  let natural := columns.map fun (column, texts) =>
    ((column.heading :: texts).map measure).foldl max 0
  let excess := natural.foldl (· + ·) (frame columns.length) - consoleWidth
  (columns.zip natural).map fun ((column, _), width) =>
    if column.wraps then width - excess else width

def rowLines (columns : List (Column × Nat)) (row : List String) : List String :=
  let cellLines := (columns.zip row).map fun ((column, width), text) =>
    linesWithin width .ellipsis column.wraps text
  let height := (cellLines.map List.length).foldl max 1
  (List.range height).map fun i =>
    let parts := (columns.zip cellLines).map fun ((_, width), lines) =>
      " " ++ Text.padEnd width (lines.getD i "") ++ " "
    "│" ++ String.intercalate "│" parts ++ "│"

def ruleLine (left crossing right : String) (widths : List Nat) : String :=
  left ++ String.intercalate crossing
    (widths.map fun width => String.ofList (List.replicate (width + 2) '─')) ++ right

def titleLines (width : Nat) (title : String) : List String :=
  (linesWithin width .fold true title).map fun line =>
    Text.center width (String.ofList (Text.trimEnd line.toList))

def tableLines (title : String) (columns : List Column) (rows : List (List String)) : List String :=
  let texts := (List.range columns.length).map fun i => rows.map fun row => row.getD i ""
  let widths := columnWidths (columns.zip texts)
  let sized := columns.zip widths
  titleLines (widths.foldl (· + ·) (frame columns.length)) title ++
    [ruleLine "╭" "┬" "╮" widths] ++ rowLines sized (columns.map Column.heading) ++
    [ruleLine "├" "┼" "┤" widths] ++ rows.flatMap (rowLines sized) ++
    [ruleLine "╰" "┴" "╯" widths]

end ApexConstants.Console
