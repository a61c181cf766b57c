import EventMapLint.Proofs.Outcome
import EventMapLint.Proofs.Places
import EventMapLint.Proofs.Text.Position
import EventMapLint.Report
import EventMapLint.Source.Language

/-! Messages with lines and columns, against the diagnostics that they show. -/

namespace EventMapLint

/-- The ends of a span come in order, and neither falls into a character of the source text or beyond its end. -/
structure Span.Within (source : String) (span : Span) : Prop where
  ordered : span.start ≤ span.stop
  start : (String.Pos.Raw.mk span.start).IsValid source
  stop : (String.Pos.Raw.mk span.stop).IsValid source

/-- All spans in a program are spans of the source text. -/
def Program.Within (source : String) (program : Program) : Prop :=
  ∀ statement ∈ program.body, statement.Everywhere fun node => node.span.Within source

theorem Program.Within.of_mem_diagnostics {program : Program} {source : String} {rules : Rules}
    (within : program.Within source) (reported : diagnostic ∈ (program.lint rules).diagnostics) :
    diagnostic.span.Within source := by
  rw [diagnostics_lint] at reported
  obtain ⟨statement, member, found⟩ := List.mem_flatMap.mp reported
  obtain ⟨handler, place, inside, position, same⟩ := Node.exists_function_of_mem_findings found
  rw [same]
  exact within statement member place ((Node.inside_of_mem (Node.mem_children_of_mem_positions position)).trans inside)

/-! ### One message -/

/-- A message shows a diagnostic: it says the same, at the places of the diagnostic's offsets. -/
structure Message.Shows (source : String) (diagnostic : Diagnostic) (message : Message) : Prop where
  rule : message.rule = diagnostic.rule
  text : message.message = diagnostic.message
  help : message.help = diagnostic.help
  severity : message.severity = diagnostic.severity
  start : Text.position? source diagnostic.span.start = some message.start
  stop : Text.position? source diagnostic.span.stop = some message.stop

theorem Message.ofDiagnostic?_eq_some_iff {source : String} {diagnostic : Diagnostic} {message : Message} :
    Message.ofDiagnostic? source diagnostic = some message ↔ message.Shows source diagnostic := by
  simp only [ofDiagnostic?, Option.bind_eq_bind, Option.bind_eq_some_iff, Option.pure_def, Option.some.injEq]
  constructor
  · rintro ⟨start, found, stop, found', rfl⟩
    exact ⟨rfl, rfl, rfl, rfl, found, found'⟩
  · rintro ⟨rule, text, help, severity, found, found'⟩
    refine ⟨message.start, found, message.stop, found', ?_⟩
    rw [← rule, ← text, ← help, ← severity]

theorem Message.exists_ofDiagnostic? {source : String} {diagnostic : Diagnostic}
    (within : diagnostic.span.Within source) : ∃ message, Message.ofDiagnostic? source diagnostic = some message := by
  obtain ⟨start, found⟩ := Text.exists_position? within.start
  obtain ⟨stop, found'⟩ := Text.exists_position? within.stop
  refine ⟨⟨diagnostic.rule, diagnostic.message, diagnostic.help, diagnostic.severity, start, stop⟩, ?_⟩
  exact ofDiagnostic?_eq_some_iff.mpr ⟨rfl, rfl, rfl, rfl, found, found'⟩

theorem Message.Shows.start_le_stop {source : String} {message : Message} {diagnostic : Diagnostic}
    (shown : message.Shows source diagnostic) (within : diagnostic.span.Within source) : message.start ≤ message.stop :=
  (Text.position?_le_iff within.start within.stop shown.start shown.stop).mpr within.ordered

/-! ### All messages -/

/-- The messages of an output show diagnostics in their order. -/
structure Output.Shows (source : String) (output : Output) (diagnostics : List Diagnostic) : Prop where
  count : output.messages.length = diagnostics.length
  each : List.Forall₂ (Message.Shows source) diagnostics output.messages
  ordered : ∀ message ∈ output.messages, message.start ≤ message.stop
  /-- Two messages start in the order in which their diagnostics do. -/
  starts : ∀ shown ∈ diagnostics.zip output.messages, ∀ other ∈ diagnostics.zip output.messages,
    (shown.2.start < other.2.start ↔ shown.1.span.start < other.1.span.start) ∧
      (shown.2.start = other.2.start ↔ shown.1.span.start = other.1.span.start)
  clean : output.isClean = true ↔ diagnostics = []

theorem Output.Shows.of_each {source : String} {output : Output} {diagnostics : List Diagnostic}
    (pairs : List.Forall₂ (Message.Shows source) diagnostics output.messages)
    (within : ∀ diagnostic ∈ diagnostics, diagnostic.span.Within source) : output.Shows source diagnostics := by
  have shown {diagnostic : Diagnostic} {message : Message}
      (paired : (diagnostic, message) ∈ diagnostics.zip output.messages) :
      message.Shows source diagnostic ∧ diagnostic.span.Within source :=
    ⟨List.forall₂_zip pairs paired, within diagnostic (List.of_mem_zip paired).1⟩
  constructor
  · exact pairs.length_eq.symm
  · exact pairs
  · intro message member
    obtain ⟨diagnostic, reported, shown⟩ := exists_of_mem_forall₂ pairs member
    exact shown.start_le_stop (within diagnostic reported)
  · rintro ⟨diagnostic, message⟩ member ⟨other, otherMessage⟩ otherMember
    obtain ⟨same, inside⟩ := shown member
    obtain ⟨same', inside'⟩ := shown otherMember
    exact ⟨Text.position?_lt_iff inside.start inside'.start same.start same'.start,
      Text.position?_eq_iff inside.start inside'.start same.start same'.start⟩
  · rw [Output.isClean, List.isEmpty_iff, ← List.length_eq_zero_iff, ← List.length_eq_zero_iff, pairs.length_eq]

/-- An output is given exactly if each diagnostic has a message, and then it consists of these messages. -/
theorem Program.report_eq_some_iff {program : Program} {source : String} {rules : Rules} {output : Output} :
    program.report source rules = some output ↔
      List.Forall₂ (Message.Shows source) (program.lint rules).diagnostics output.messages := by
  simp only [report, Option.bind_eq_bind, Option.bind_eq_some_iff, Option.pure_def, Option.some.injEq]
  constructor
  · rintro ⟨messages, made, rfl⟩
    exact (mapM_eq_some_iff.mp made).imp fun _ _ => Message.ofDiagnostic?_eq_some_iff.mp
  · intro pairs
    have made := mapM_eq_some_iff.mpr (pairs.imp fun _ _ => Message.ofDiagnostic?_eq_some_iff.mpr)
    exact ⟨output.messages, made, rfl⟩

/-- If the spans of a program keep to the source text, the messages for it can be made, and they show what is found. -/
theorem Program.Within.exists_report {program : Program} {source : String} (within : program.Within source)
    (rules : Rules) :
    ∃ output, program.report source rules = some output ∧ output.Shows source (program.lint rules).diagnostics := by
  have each (diagnostic) (reported : diagnostic ∈ (program.lint rules).diagnostics) :=
    within.of_mem_diagnostics reported
  obtain ⟨messages, made⟩ := exists_mapM fun diagnostic reported =>
    Message.exists_ofDiagnostic? (each diagnostic reported)
  have reported : program.report source rules = some ⟨messages⟩ := by rw [report, made]; rfl
  exact ⟨⟨messages⟩, reported, .of_each (Program.report_eq_some_iff.mp reported) each⟩

/-! ### Source texts -/

namespace Parser

variable {parser : Parser} {source filename : String} {program : Program} {errors : List String}

theorem lintSource_eq_report (parsed : parser.parseFile source filename = ⟨program, []⟩) (rules : Option Rules) :
    parser.lintSource source filename rules = (program.report source (rules.getD Rules.all)).map .ok := by
  simp only [lintSource, accept, parsed, List.isEmpty_nil, if_true]

theorem lintSource_of_errors (parsed : parser.parseFile source filename = ⟨program, errors⟩) (faulty : errors ≠ [])
    (rules : Option Rules) :
    parser.lintSource source filename rules = some (.error (.parse filename errors)) := by
  have refused : errors.isEmpty = false := by simpa using faulty
  simp only [lintSource, accept, parsed, refused, Bool.false_eq_true, if_false]

/-- If the parser has nothing against a source text, and the spans of the program that it reads keep to the text, the
run does not break off, and the messages show what is found in this program, rules that are not given being those with
the default names. If the parser has anything against the text, there are no messages but an error, which names the
file and has all that the parser says. -/
theorem lintSource_shows_lint (parsed : parser.parseFile source filename = ⟨program, errors⟩)
    (rules : Option Rules) :
    (errors = [] → program.Within source →
      ∃ output, parser.lintSource source filename rules = some (.ok output) ∧
        output.Shows source (program.lint (rules.getD ⟨some Names.default⟩)).diagnostics) ∧
    (errors ≠ [] → parser.lintSource source filename rules = some (.error (.parse filename errors))) := by
  constructor
  · rintro rfl within
    obtain ⟨output, made, shown⟩ := within.exists_report (rules.getD ⟨some Names.default⟩)
    refine ⟨output, ?_, shown⟩
    rw [lintSource_eq_report parsed]
    exact congrArg (Option.map Except.ok) made
  · exact fun faulty => lintSource_of_errors parsed faulty rules

end Parser

/-- A statement with a handler whose parameter takes two bytes. -/
def accentedSource : String := "Template.a.events({b(é){}})"

/-- The tree of `accentedSource`. -/
def accentedEvents : Program :=
  ⟨[.expressionStatement ⟨0, 28⟩ (.call ⟨0, 28⟩
    (.member ⟨0, 17⟩ (.member ⟨0, 10⟩ (.identifier ⟨0, 8⟩ "Template") "a" false) "events" false) []
    [.object ⟨18, 27⟩ [.property ⟨19, 26⟩ .init false true false (.identifier ⟨19, 20⟩ "b")
      (.function ⟨20, 26⟩ (.ordinary false false false) []
        [.parameter ⟨21, 23⟩ [] (.identifier ⟨21, 23⟩ "é") [] none false] none [] [])]] false)]⟩

/-- A parser that knows no text but `accentedSource`. -/
def accentedParser : Parser where
  Language := Source.Language
  ofFilename? := Source.Language.ofFilename?
  esModule := {}
  parse _ source := if source = accentedSource then ⟨accentedEvents, []⟩ else ⟨⟨[]⟩, ["Unexpected token"]⟩

theorem accentedParser_reads (filename : String) :
    accentedParser.parseFile accentedSource filename = ⟨accentedEvents, []⟩ := by
  simp only [Parser.parseFile, accentedParser, if_true]

theorem accentedParser_refuses (source filename : String) (other : source ≠ accentedSource) :
    accentedParser.parseFile source filename = ⟨⟨[]⟩, ["Unexpected token"]⟩ := by
  simp only [Parser.parseFile, accentedParser, other, if_false]

theorem accentedEvents_within : accentedEvents.Within accentedSource := by
  repeat' first
    | exact List.forall_mem_nil _
    | refine List.forall_mem_cons.mpr ⟨?_, ?_⟩
    | refine Node.everywhere_iff.mpr ⟨⟨by decide, by decide +kernel, by decide +kernel⟩, ?_⟩

/-- The parameter stands in column 22 and ends before column 23. A parenthesis that nothing opens is a parse error. -/
theorem Parser.lintSource_accentedEvents :
    (∃ output, accentedParser.lintSource accentedSource "a.mjs" none = some (.ok output) ∧
      output.messages.map (fun message => (message.start, message.stop)) = [(⟨1, 22⟩, ⟨1, 23⟩)] ∧
      output.Shows accentedSource (accentedEvents.lint ⟨some Names.default⟩).diagnostics) ∧
    accentedParser.lintSource ")" "a.mjs" none = some (.error (.parse "a.mjs" ["Unexpected token"])) := by
  have read := accentedParser_reads "a.mjs"
  have refused := accentedParser_refuses ")" "a.mjs" (by decide)
  constructor
  · obtain ⟨output, made, shown⟩ := (lintSource_shows_lint read none).1 rfl accentedEvents_within
    refine ⟨output, made, ?_, shown⟩
    have places : (accentedEvents.report accentedSource Rules.all).map (fun output =>
        output.messages.map fun message => (message.start, message.stop)) = some [(⟨1, 22⟩, ⟨1, 23⟩)] := by
      decide +kernel
    rw [lintSource_eq_report read] at made
    obtain ⟨_, reported, same⟩ := Option.map_eq_some_iff.mp made
    cases same
    rw [Option.getD_none] at reported
    rw [reported] at places
    exact Option.some.inj places
  · exact (lintSource_shows_lint refused none).2 (by simp)

end EventMapLint
