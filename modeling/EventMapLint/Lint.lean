import EventMapLint.Rule
import EventMapLint.Tree.Visit

/-! Running the enabled rules over a program, and what a run amounts to. -/

namespace EventMapLint

/-- The enabled rules: there is one rule, enabled together with the names that it expects. -/
structure Rules where
  eventMapParams : Option Names := some Names.default
  deriving DecidableEq, Repr

namespace Rules

/-- Every rule, with its default options. -/
def all : Rules := {}

def none : Rules := ⟨.none⟩

def withEventMapParams (rules : Rules) (names : Names) : Rules := { rules with eventMapParams := some names }

def count (rules : Rules) : Nat := if rules.eventMapParams.isSome then 1 else 0

def check (rules : Rules) (call : Call) : List Diagnostic :=
  match rules.eventMapParams with
  | .none => []
  | some names => names.check call

end Rules

/-- The diagnostics of a run, in the order in which they were reported. -/
structure Findings where
  diagnostics : List Diagnostic
  deriving DecidableEq, Repr

namespace Findings

def hasErrors (findings : Findings) : Bool := findings.diagnostics.any (·.severity = .error)

/-- Any diagnostic at all counts here, an error too. -/
def hasWarnings (findings : Findings) : Bool := !findings.diagnostics.isEmpty

def errorCount (findings : Findings) : Nat := (findings.diagnostics.filter (·.severity = .error)).length

def warningCount (findings : Findings) : Nat := (findings.diagnostics.filter (·.severity = .warning)).length

end Findings

/-- A source text and what has been reported about it. -/
structure Ledger where
  source : String
  diagnostics : List Diagnostic := []
  deriving Repr

namespace Ledger

def report (ledger : Ledger) (diagnostic : Diagnostic) : Ledger :=
  { ledger with diagnostics := ledger.diagnostics ++ [diagnostic] }

/-- Reports whatever the enabled rules say about a call. -/
def inspect (rules : Rules) (ledger : Ledger) (call : Call) : Ledger :=
  (rules.check call).foldl report ledger

end Ledger

/-- Inspects every call of a program, an outer call before the calls inside it. -/
def Program.run (program : Program) (rules : Rules) (ledger : Ledger) : Ledger :=
  program.visit (Ledger.inspect rules) ledger

/-- The findings of a run that starts with nothing reported. No rule looks at the text, so none is given. -/
def Program.lint (program : Program) (rules : Rules) : Findings :=
  ⟨(program.run rules { source := "" }).diagnostics⟩

end EventMapLint
