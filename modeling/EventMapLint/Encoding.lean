import EventMapLint.Json.Value
import EventMapLint.Lint
import EventMapLint.Report

/-! Results as JSON values. A help that is absent and a list of labels that is empty are left out. -/

namespace EventMapLint

def Label.toJson (label : Label) : Json :=
  .array [.integer label.span.start, .integer label.span.stop, .string label.text]

def Diagnostic.toJson (diagnostic : Diagnostic) : Json :=
  .object <|
    [("rule", .string diagnostic.rule), ("start", .integer diagnostic.span.start),
      ("end", .integer diagnostic.span.stop), ("message", .string diagnostic.message)] ++
    (diagnostic.help.toList.map fun help => ("help", .string help)) ++
    [("severity", .string diagnostic.severity.name)] ++
    (if diagnostic.labels.isEmpty then [] else [("labels", .array (diagnostic.labels.map Label.toJson))])

def Findings.toJson (findings : Findings) : Json :=
  .object [
    ("diagnostics", .array (findings.diagnostics.map Diagnostic.toJson)),
    ("has_errors", .boolean findings.hasErrors),
    ("has_warnings", .boolean findings.hasWarnings),
    ("error_count", .integer findings.errorCount),
    ("warning_count", .integer findings.warningCount)]

def Message.toJson (message : Message) : Json :=
  .object <|
    [("ruleId", .string message.rule), ("message", .string message.message)] ++
    (message.help.toList.map fun help => ("help", .string help)) ++
    [("severity", .string message.severity.name), ("line", .integer message.start.line),
      ("column", .integer message.start.column), ("endLine", .integer message.stop.line),
      ("endColumn", .integer message.stop.column)]

def Output.toJson (output : Output) : Json :=
  .object [("messages", .array (output.messages.map Message.toJson))]

def Notice.toJson (notice : Notice) : Json :=
  .object [("ruleId", .string notice.rule), ("message", .string notice.message),
    ("severity", .string notice.severity), ("line", .integer notice.line.toNat),
    ("column", .integer notice.column.toNat), ("endLine", .integer notice.endLine.toNat),
    ("endColumn", .integer notice.endColumn.toNat)]

end EventMapLint
