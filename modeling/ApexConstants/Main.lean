import ApexConstants.CommandLine.Run

namespace ApexConstants.Program

def locationOf (place : String) : Location := Path.namesOf place

def placeOf (location : Location) : String := "/" ++ String.intercalate "/" location

/-- Whether a search does not go into an entry: a folder that is always left out, or a link to a
folder. -/
def isPassedOver (entry : IO.FS.DirEntry) : IO Bool := do
  if !(← entry.path.isDir) then return false
  return isSkippedFolder entry.fileName || (← entry.path.symlinkMetadata).type == .symlink

partial def readPlace (t : Tree) (location : Location) : IO Tree := do
  let place := placeOf location
  match ← (IO.FS.readBinFile place).toBaseIO with
  | .ok content => return t.put location (.file content)
  | .error _ =>
    match ← ((← IO.currentDir) / place).readDir.toBaseIO with
    | .error _ => return t
    | .ok entries =>
      let mut tree := t.put location .folder
      for entry in entries do
        if !(← isPassedOver entry) then
          tree ← readPlace tree (location ++ [entry.fileName])
      return tree

def readPath (t : Tree) (p : Path) : IO Tree := do
  match t.locate p with
  | .error _ => readPlace t ((if p.anchor == .here then t.home else []) ++ p.names)
  | .ok location => readPlace t location

def writeChanges (before after : Tree) : IO Unit := do
  for (location, content) in before.changesBelow after [] do
    IO.FS.createDirAll (placeOf location.dropLast)
    IO.FS.writeBinFile (placeOf location) content

/-- Reads the current folder and what a command line names. A configuration file may name further
folders, so that what it names is looked up once it has been read. -/
def readTree (words : List String) : IO Tree := do
  let home := locationOf (← IO.currentDir).toString
  let here ← readPlace (Tree.empty home) home
  let known ← (CommandLine.placesOf here words).foldlM readPath here
  (CommandLine.placesOf known words).foldlM readPath known

end ApexConstants.Program

open ApexConstants in
/-- Runs the command line. Reports go to the output, the log and complaints beside it. -/
def main (words : List String) : IO UInt32 := do
  let before ← Program.readTree words
  let (outcome, after) := (CommandLine.run words).run { tree := before }
  Program.writeChanges before after.tree
  for entry in after.log do
    IO.eprintln entry.text
  match outcome with
  | .ok ending =>
    for line in ending.output do
      IO.println line
    for line in ending.complaint do
      IO.eprintln line
    return ending.exit.toUInt32
  | .error fault =>
    IO.eprintln (CommandLine.programName ++ ": " ++ fault.message?.getD "a value or a file cannot be used")
    return 1
