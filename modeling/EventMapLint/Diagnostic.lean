import EventMapLint.Span

namespace EventMapLint

inductive Severity
  | error
  | warning
  deriving DecidableEq, Repr

def Severity.name : Severity → String
  | .error => "error"
  | .warning => "warning"

/-- A remark on a place beside the one that is reported. -/
structure Label where
  span : Span
  text : String
  deriving DecidableEq, Repr

structure Diagnostic where
  rule : String
  span : Span
  message : String
  help : Option String
  severity : Severity
  labels : List Label
  deriving DecidableEq, Repr

namespace Diagnostic

/-- A warning with neither help nor labels. -/
def new (rule : String) (span : Span) (message : String) : Diagnostic where
  rule
  span
  message
  help := none
  severity := .warning
  labels := []

def withHelp (diagnostic : Diagnostic) (help : String) : Diagnostic :=
  { diagnostic with help := some help }

def withSeverity (diagnostic : Diagnostic) (severity : Severity) : Diagnostic :=
  { diagnostic with severity }

def withLabel (diagnostic : Diagnostic) (span : Span) (text : String) : Diagnostic :=
  { diagnostic with labels := diagnostic.labels ++ [⟨span, text⟩] }

def warning (rule : String) (span : Span) (message : String) : Diagnostic :=
  (new rule span message).withSeverity .warning

/-- One step in building up a diagnostic. -/
inductive Step
  | help (text : String)
  | severity (severity : Severity)
  | label (span : Span) (text : String)
  deriving DecidableEq, Repr

def apply (diagnostic : Diagnostic) : Step → Diagnostic
  | .help text => diagnostic.withHelp text
  | .severity severity => diagnostic.withSeverity severity
  | .label span text => diagnostic.withLabel span text

def build (diagnostic : Diagnostic) (steps : List Step) : Diagnostic :=
  steps.foldl apply diagnostic

end Diagnostic

end EventMapLint
