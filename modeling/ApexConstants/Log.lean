import ApexConstants.Text

namespace ApexConstants

inductive Severity
  | unset
  | debug
  | info
  | warning
  | error
  | critical
deriving DecidableEq, Repr

def Severity.text : Severity → String
  | unset => "NOTSET"
  | debug => "DEBUG"
  | info => "INFO"
  | warning => "WARNING"
  | error => "ERROR"
  | critical => "CRITICAL"

def Severity.ofText? : String → Option Severity
  | "NOTSET" => some unset
  | "DEBUG" => some debug
  | "INFO" => some info
  | "WARN" => some warning
  | "WARNING" => some warning
  | "ERROR" => some error
  | "FATAL" => some critical
  | "CRITICAL" => some critical
  | _ => none

structure LogEntry where
  severity : Severity
  message : String
deriving DecidableEq, Repr

namespace LogEntry

def info (message : String) : LogEntry := ⟨.info, message⟩

def warning (message : String) : LogEntry := ⟨.warning, message⟩

def error (message : String) : LogEntry := ⟨.error, message⟩

def text (e : LogEntry) : String := e.severity.text ++ " " ++ e.message

end LogEntry

def rootLogger : String := "source_gen"

/-- The name of the logger for a part of the program. A name that is not below the root is put
there; without a name it is the root. -/
def loggerName : Option String → String
  | none => rootLogger
  | some name =>
    if name.isEmpty || name == rootLogger then rootLogger
    else if (rootLogger ++ ".").isPrefixOf name then name
    else rootLogger ++ "." ++ name

structure LogSettings where
  level : Severity := .info
  handlers : Nat := 0
deriving DecidableEq, Repr

/-- Sets the level, by name unless everything is to be shown, and installs the one handler. A name
that is no level is given back; the handler is installed all the same. -/
def LogSettings.configure (s : LogSettings) (level : String) (verbose : Bool) :
    LogSettings × Except String Unit :=
  if verbose then (⟨.debug, 1⟩, .ok ())
  else
    let name := Text.upper level
    match Severity.ofText? name with
    | some severity => (⟨severity, 1⟩, .ok ())
    | none => (⟨s.level, 1⟩, .error name)

end ApexConstants
