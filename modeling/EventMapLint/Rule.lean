import EventMapLint.Diagnostic
import EventMapLint.EventMap
import EventMapLint.Names

/-! The rule `eventmap-params`: the first two parameters of every handler in an event map have the expected
names. A parameter that is not a plain identifier never has the expected name; a missing one is no fault. -/

namespace EventMapLint

namespace Rule

def name : String := "eventmap-params"

inductive Category
  | style
  deriving DecidableEq, Repr

def Category.name : Category → String
  | .style => "Style"

def category : Category := .style

def docsUrl : String :=
  "https://github.com/dferber90/eslint-plugin-meteor/blob/master/docs/rules/" ++ name ++ ".md"

/-- The help for a misnamed parameter. -/
def help (parameter : HandlerParameter) (expected : String) : String :=
  match parameter.name? with
  | some found => "Rename `" ++ found ++ "` to `" ++ expected ++ "`."
  | none => "Bind this parameter to a plain identifier named `" ++ expected ++ "`."

/-- The diagnostic for a misnamed parameter of the handler whose key spans `key`. -/
def diagnostic (parameter : HandlerParameter) (expected : String) (key : Span) : Diagnostic :=
  ((Diagnostic.warning name parameter.span
    ("Invalid parameter name, use \"" ++ expected ++ "\" instead")).withHelp (help parameter expected)).withLabel
    key "event handler declared here"

end Rule

namespace Names

/-- The diagnostics for one handler. A value that is no function has none. -/
def checkHandler (names : Names) (key : Span) (handler : Node) : List Diagnostic :=
  match handler.parameters? with
  | none => []
  | some (parameters, rest) =>
      ((leadingParameters parameters rest names.toList.length).zip names.toList).filterMap
        fun (parameter, expected) =>
          if parameter.name? = some expected then none else some (Rule.diagnostic parameter expected key)

/-- The diagnostics for one entry of an event map. A spread entry holds no handler. -/
def checkEntry (names : Names) : Node → List Diagnostic
  | .property _ _ _ _ _ key value => names.checkHandler key.span value.withoutParens
  | _ => []

/-- The diagnostics for a call, by entry and then by position. -/
def check (names : Names) (call : Call) : List Diagnostic :=
  match call.eventMap? with
  | none => []
  | some entries => entries.flatMap names.checkEntry

end Names

end EventMapLint
