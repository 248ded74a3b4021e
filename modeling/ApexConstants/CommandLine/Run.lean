import ApexConstants.CommandLine.Parse
import ApexConstants.Console.Markup
import ApexConstants.Console.Table
import ApexConstants.Failure
import ApexConstants.Generated
import ApexConstants.Generation

namespace ApexConstants.CommandLine

open Console (linesWithin tableLines consoleWidth)

def shownText (markup : String) : Except ValueFault String :=
  match Console.shownText? markup with
  | some text => .ok text
  | none => .error .unmatchedTag

def printed (markup : String) : Except ValueFault (List String) := do
  return linesWithin consoleWidth .fold true (← shownText markup)

/-- The text of a class name in a table. Only text can be printed there, and nothing. -/
def nameCell : Json → Except ValueFault String
  | .str s => .ok s
  | .null => .ok ""
  | _ => .error .notPrintable

def classTable (r : Result) : Except ValueFault (List String) := do
  let cells ← r.classes.mapM fun c => do return [← nameCell c.name, c.source.getD ""]
  let rows ← cells.mapM fun row => row.mapM shownText
  return tableLines "📋 Generated Classes" [⟨"Class", false⟩, ⟨"Source", true⟩] rows

def folderNote (r : Result) : String :=
  match Json.get? r.facts "output_dir" with
  | some folder => " to " ++ folder.display
  | none => ""

/-- What is printed for a result. Names come from files and options, so that markup in them counts.
-/
def report (r : Result) : Except ValueFault (List String) := do
  let table ← if r.classes.isEmpty then printed "[yellow]⚠️ No classes generated[/yellow]"
    else do pure ("" :: (← classTable r))
  let notes ← (r.skipped.map (fun name => "[dim]Skipped (no values): " ++ name ++ "[/dim]") ++
    r.warnings.map (fun warning => "[yellow]⚠️ " ++ warning ++ "[/yellow]") ++
    ["\n[green]✓[/green] Wrote " ++ toString r.written.length ++ " file(s)" ++
      folderNote r]).mapM printed
  return table ++ notes.flatten

def failureReport (fault : Failure) : Except ValueFault (List String) :=
  printed ("[red]✗ Error:[/red] " ++ fault.message?.getD "")

inductive Ending
  | usage (stop : Stop)
  | noOperation
  | printed (exit : Nat) (lines : List String)
deriving Repr

def Ending.exit : Ending → Nat
  | usage (.help _) => 0
  | usage (.fault ..) => 2
  | noOperation => 1
  | printed exit _ => exit

def Parsed.config (p : Parsed) : Option Path :=
  match Json.get? p.values "config" with
  | some (.str s) => if s.isEmpty then none else some (Path.ofText s)
  | _ => none

def run (words : List String) : Work Ending := do
  match parse words with
  | .error stop => return .usage stop
  | .ok parsed =>
    match parsed.operation with
    | none => return .noOperation
    | some kind =>
      match ← Work.attempt (generateFromConfig kind.text parsed.config parsed.overrides) with
      | .ok result => return .printed 0 (← Work.ofExcept ((report result).mapError Failure.value))
      | .error fault =>
        if fault.isReported then
          return .printed 1 (← Work.ofExcept ((failureReport fault).mapError Failure.value))
        else throw fault

def Argument.usage (a : Argument) : String :=
  "[" ++ String.intercalate " | " a.names ++ (if a.takesValue then " " ++ Text.upper a.key else "") ++ "]"

def Command.usage (c : Command) (operands : List String) : List String :=
  ("usage: " ++ String.intercalate " " (c.program :: operands)) ::
    c.arguments.map fun a => "  " ++ a.usage

def mainUsage : List String :=
  mainCommand.usage ["[" ++ String.intercalate " | " (GenerationKind.all.map operationName) ++ "]"]

def usageOf (program : String) : List String :=
  match GenerationKind.all.find? fun kind => (operationCommand kind).program == program with
  | some kind => (operationCommand kind).usage []
  | none => mainUsage

def Ending.output : Ending → List String
  | usage (.help program) => usageOf program
  | usage (.fault ..) => []
  | noOperation => mainUsage
  | printed _ lines => lines

def Ending.complaint : Ending → List String
  | usage (.fault program cause) => usageOf program ++ (Stop.fault program cause).lastLine.toList
  | _ => []

/-- The files and folders that a command line makes the program look at besides the current folder,
as far as the configuration is known in the tree. -/
def placesOf (t : Tree) (words : List String) : List Path :=
  match parse words with
  | .error _ => []
  | .ok parsed =>
    parsed.config.toList ++
      match parsed.operation.map fun kind => loadOptions t kind.text parsed.config parsed.overrides with
      | some (.ok o) =>
        [o.value .projectDir, o.value .outputDir].filterMap fun value => (pathOf value).toOption
      | _ => []

end ApexConstants.CommandLine
