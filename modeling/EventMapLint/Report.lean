import EventMapLint.Lint
import EventMapLint.Options
import EventMapLint.Parser
import EventMapLint.Text.Position

/-! From source text to messages with lines and columns. A run breaks off, without an output or an error, if it has to
tell the position of an offset inside a character; this is the outcome `none`. -/

namespace EventMapLint

/-- A diagnostic with its place in lines and columns. -/
structure Message where
  rule : String
  message : String
  help : Option String
  severity : Severity
  start : Position
  stop : Position
  deriving DecidableEq, Repr

def Message.ofDiagnostic? (source : String) (diagnostic : Diagnostic) : Option Message := do
  let start ← Text.position? source diagnostic.span.start
  let stop ← Text.position? source diagnostic.span.stop
  return ⟨diagnostic.rule, diagnostic.message, diagnostic.help, diagnostic.severity, start, stop⟩

structure Output where
  messages : List Message
  deriving DecidableEq, Repr

def Output.isClean (output : Output) : Bool := output.messages.isEmpty

/-- The messages for a program, as the tree of a source text. -/
def Program.report (program : Program) (source : String) (rules : Rules) : Option Output := do
  return ⟨← (program.lint rules).diagnostics.mapM (Message.ofDiagnostic? source)⟩

/-- Why a file was not linted. -/
inductive LintError
  | parse (filename : String) (messages : List String)
  | options (error : Options.Error)

def LintError.message : LintError → String
  | .parse filename messages => "failed to parse " ++ filename ++ ": " ++ "; ".intercalate messages
  | .options error => error.message

/-- A message without help, its numbers in 32 bits. -/
structure Notice where
  rule : String
  message : String
  severity : String
  line : UInt32
  column : UInt32
  endLine : UInt32
  endColumn : UInt32
  deriving DecidableEq, Repr

def Notice.ofMessage (message : Message) : Notice where
  rule := message.rule
  message := message.message
  severity := message.severity.name
  line := message.start.line.toUInt32
  column := message.start.column.toUInt32
  endLine := message.stop.line.toUInt32
  endColumn := message.stop.column.toUInt32

/-- A result with notices in place of messages; of an error only the text is left. -/
def Notice.ofResult : Except LintError Output → Except String (List Notice)
  | .error error => .error error.message
  | .ok output => .ok (output.messages.map Notice.ofMessage)

namespace Parser

variable (parser : Parser)

/-- The program in a source text, if the parser has nothing against the text. -/
def accept (source filename : String) : Except LintError Program :=
  let parsed := parser.parseFile source filename
  if parsed.errors.isEmpty then .ok parsed.program else .error (.parse filename parsed.errors)

/-- The messages for a source text. Without rules all rules run, with their default options. -/
def lintSource (source filename : String) (rules : Option Rules) : Option (Except LintError Output) :=
  match parser.accept source filename with
  | .error error => some (.error error)
  | .ok program => (program.report source (rules.getD Rules.all)).map .ok

/-- As `lintSource`, with the rule's options array. The options are read before the source. -/
def lintSourceWithOptions (source filename : String) (options : List Json) : Option (Except LintError Output) :=
  match Names.ofOptions options with
  | .error error => some (.error (.options error))
  | .ok names => parser.lintSource source filename (some (Rules.none.withEventMapParams names))

/-- As `lintSourceWithOptions`, with the options array as a text that `read` reads. -/
def lintWithOptionsText (read : Json.ArrayReader) (source : String) (filename optionsText : Option String) :
    Option (Except String (List Notice)) :=
  match (optionsText.map (Names.ofOptionsText read)).getD (.ok Names.default) with
  | .error error => some (.error error.message)
  | .ok names =>
      (parser.lintSource source (filename.getD "input.js") (some (Rules.none.withEventMapParams names))).map
        Notice.ofResult

end Parser

end EventMapLint
