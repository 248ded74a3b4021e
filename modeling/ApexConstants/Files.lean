import ApexConstants.Text

namespace ApexConstants

inductive Anchor
  | here
  | root
  | doubleRoot
deriving DecidableEq, Repr

def Anchor.text : Anchor → String
  | here => ""
  | root => "/"
  | doubleRoot => "//"

/-- A path as it is written, less empty names and points. `..` stays, since what it leads to is
known only in a tree. -/
structure Path where
  anchor : Anchor
  names : List String
deriving DecidableEq, Repr

namespace Path

def here : Path := ⟨.here, []⟩

def namesOf (s : String) : List String :=
  (Text.pieces '/' s).filter fun name => !name.isEmpty && name != "."

/-- The start of a path with this text. Three slashes and more are one. -/
def anchorOf (s : String) : Anchor :=
  match (s.toList.takeWhile (· == '/')).length with
  | 0 => .here
  | 2 => .doubleRoot
  | _ => .root

def ofText (s : String) : Path := ⟨anchorOf s, namesOf s⟩

def text (p : Path) : String :=
  if p.anchor == .here && p.names.isEmpty then "."
  else p.anchor.text ++ String.intercalate "/" p.names

def join (p q : Path) : Path :=
  if q.anchor == .here then ⟨p.anchor, p.names ++ q.names⟩ else q

def child (p : Path) (s : String) : Path := p.join (ofText s)

def parent (p : Path) : Path := ⟨p.anchor, p.names.dropLast⟩

def name (p : Path) : String := p.names.getLastD ""

/-- The last name from its last point on, unless the point stands first or last in it. -/
def extension (p : Path) : String :=
  let cs := p.name.toList
  let ending := (cs.reverse.takeWhile (· != '.')).reverse
  if cs.contains '.' && !ending.isEmpty && ending.length + 1 < cs.length then
    String.ofList ('.' :: ending)
  else ""

def parts (p : Path) : List String :=
  if p.anchor == .here then p.names else p.anchor.text :: p.names

/-- Whether a list of parts comes before another or is the same: the first parts that differ
decide, and a list comes before those that go on from it. -/
def partsPrecede : List String → List String → Bool
  | [], _ => true
  | _ :: _, [] => false
  | a :: as, b :: bs => if a == b then partsPrecede as bs else decide (a ≤ b)

def precedes (p q : Path) : Bool := partsPrecede p.parts q.parts

end Path

abbrev Location := List String

inductive Entry
  | file (content : ByteArray)
  | folder

inductive FileFault
  | missing
  | notFolder
  | isFolder
  | taken
  | nameTooLong
  | tooDeep
  | zeroInPath
deriving DecidableEq, Repr

def Entry.put (location : Location) (entry : Entry) :
    List (Location × Entry) → List (Location × Entry)
  | [] => [(location, entry)]
  | (l, e) :: rest =>
    if l = location then (location, entry) :: rest else (l, e) :: put location entry rest

theorem Entry.keys_put (location : Location) (entry : Entry) (entries : List (Location × Entry)) :
    (Entry.put location entry entries).map Prod.fst =
      if location ∈ entries.map Prod.fst then entries.map Prod.fst
      else entries.map Prod.fst ++ [location] := by
  induction entries with
  | nil => rfl
  | cons head rest ih =>
    obtain ⟨l, e⟩ := head
    by_cases h : l = location
    · subst h
      simp [put]
    · simp only [put, h, if_false, List.map_cons, ih, List.mem_cons, Ne.symm h, false_or]
      split <;> rfl

/-- Files and folders. The folders from the root to `home` are always there and need no entry. -/
structure Tree where
  entries : List (Location × Entry)
  home : Location
  nodup : (entries.map Prod.fst).Nodup

namespace Tree

def empty (home : Location) : Tree := ⟨[], home, List.nodup_nil⟩

def entry? (t : Tree) (location : Location) : Option Entry :=
  if location.isPrefixOf t.home then some .folder else t.entries.lookup location

def put (t : Tree) (location : Location) (entry : Entry) : Tree where
  entries := Entry.put location entry t.entries
  home := t.home
  nodup := by
    rw [Entry.keys_put]
    split
    · exact t.nodup
    · rename_i h
      rw [List.nodup_append]
      refine ⟨t.nodup, by simp, ?_⟩
      intro a ha b hb hab
      simp only [List.mem_singleton] at hb
      exact h (hb ▸ hab ▸ ha)

def erase (t : Tree) (location : Location) : Tree where
  entries := t.entries.filter fun (l, _) => l != location
  home := t.home
  nodup := t.nodup.sublist (List.filter_sublist.map Prod.fst)

def longestName : Nat := 255

def longestPath : Nat := 4095

def deepestFolders : Nat := 985

/-- The most folders that a search goes down, one in the other. It stands on one call more than the
creation of folders. -/
def deepestSearch : Nat := 984

def follow (t : Tree) (location : Location) (name : String) : Except FileFault Location :=
  match t.entry? location with
  | none => .error .missing
  | some (.file _) => .error .notFolder
  | some .folder =>
    if longestName < name.utf8ByteSize then .error .nameTooLong
    else .ok (if name == ".." then location.dropLast else location ++ [name])

def locate (t : Tree) (p : Path) : Except FileFault Location :=
  if p.names.any (·.toList.contains '\x00') then .error .zeroInPath
  else if longestPath < p.text.utf8ByteSize then .error .nameTooLong
  else p.names.foldlM t.follow (if p.anchor == .here then t.home else [])

def find (t : Tree) (p : Path) : Except FileFault Entry := do
  match t.entry? (← t.locate p) with
  | some entry => .ok entry
  | none => .error .missing

/-- What is at the end of a path, if anything is. Only a path that no file can have is a fault. -/
def probe (t : Tree) (p : Path) : Except FileFault (Option Entry) :=
  match t.find p with
  | .ok entry => .ok (some entry)
  | .error .nameTooLong => .error .nameTooLong
  | .error _ => .ok none

def exists? (t : Tree) (p : Path) : Except FileFault Bool := return (← t.probe p).isSome

def isFile (t : Tree) (p : Path) : Except FileFault Bool :=
  return match ← t.probe p with
    | some (.file _) => true
    | _ => false

def isFolder (t : Tree) (p : Path) : Except FileFault Bool :=
  return match ← t.probe p with
    | some .folder => true
    | _ => false

def read (t : Tree) (p : Path) : Except FileFault ByteArray := do
  match ← t.find p with
  | .file content => .ok content
  | .folder => .error .isFolder

def makeFolder (t : Tree) (p : Path) : Except FileFault Tree := do
  let location ← t.locate p
  match t.entry? location with
  | some _ => .error .taken
  | none => .ok (t.put location .folder)

def ensureFolder (t : Tree) (p : Path) : Except FileFault Tree :=
  match t.makeFolder p with
  | .ok after => .ok after
  | .error .missing => .error .missing
  | .error .zeroInPath => .error .zeroInPath
  | .error fault => do if ← t.isFolder p then .ok t else .error fault

/-- Creates the folder that the names lead to and up to `levels` folders on the way, those nearest
the root first. The names stand in reverse. The tree is what remains when a fault stops this
halfway. -/
def ensureFoldersWithin (t : Tree) (anchor : Anchor) : Nat → List String → Tree × Except FileFault Unit
  | 0, _ => (t, .error .tooDeep)
  | _ + 1, [] => (t, t.ensureFolder ⟨anchor, []⟩ |>.map fun _ => ())
  | levels + 1, name :: above =>
    let p : Path := ⟨anchor, (name :: above).reverse⟩
    match t.ensureFolder p with
    | .ok after => (after, .ok ())
    | .error .missing =>
      match t.ensureFoldersWithin anchor levels above with
      | (after, .error fault) => (after, .error fault)
      | (after, .ok ()) =>
        match after.ensureFolder p with
        | .ok done => (done, .ok ())
        | .error fault => (after, .error fault)
    | .error fault => (t, .error fault)

def ensureFolders (t : Tree) (anchor : Anchor) (names : List String) :
    Tree × Except FileFault Unit :=
  t.ensureFoldersWithin anchor deepestFolders names

def writeFile (t : Tree) (p : Path) (content : ByteArray) : Except FileFault Tree := do
  let location ← t.locate p
  match t.entry? location with
  | some .folder => .error .isFolder
  | _ => .ok (t.put location (.file content))

/-- Writes a file, with the folders that lead to it. The tree is what remains when a fault stops
this halfway. -/
def write (t : Tree) (p : Path) (content : ByteArray) : Tree × Except FileFault Unit :=
  match t.ensureFolders p.anchor p.parent.names.reverse with
  | (after, .error fault) => (after, .error fault)
  | (after, .ok ()) =>
    match after.writeFile p content with
    | .ok done => (done, .ok ())
    | .error fault => (after, .error fault)

def remove (t : Tree) (p : Path) : Except FileFault Tree := do
  let location ← t.locate p
  match t.entry? location with
  | none => .error .missing
  | some .folder => .error .isFolder
  | some (.file _) => .ok (t.erase location)

/-- Everything at a location and below, each entry with the names that lead to it from there. -/
def below (t : Tree) (location : Location) : List (List String × Entry) :=
  let ways := (List.range (t.home.length + 1)).map fun n => (t.home.take n, Entry.folder)
  (ways ++ t.entries).filterMap fun (l, entry) =>
    if location.isPrefixOf l then some (l.drop location.length, entry) else none

def filesBelow (t : Tree) (location : Location) : List (List String × ByteArray) :=
  t.entries.filterMap fun (l, entry) =>
    match entry with
    | .file content =>
      if location.isPrefixOf l then some (l.drop location.length, content) else none
    | .folder => none

def changesBelow (before after : Tree) (location : Location) : List (List String × ByteArray) :=
  (after.filesBelow location).filter fun (names, content) =>
    match before.entry? (location ++ names) with
    | some (.file old) => old != content
    | _ => true

def changes (before after : Tree) : List (List String × ByteArray) :=
  before.changesBelow after after.home

end Tree

end ApexConstants
