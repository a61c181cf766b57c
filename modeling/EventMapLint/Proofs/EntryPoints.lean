import EventMapLint.Proofs.Report
import Mathlib.Algebra.Group.Nat.Defs

/-! The ways to have a source text linted, against each other: with given rules, with an options array, and with the
options array as text, where the messages come back as notices. -/

namespace EventMapLint

/-- A notice carries a message: all of it but the help, with its numbers as they were. -/
structure Notice.Carries (message : Message) (notice : Notice) : Prop where
  rule : notice.rule = message.rule
  text : notice.message = message.message
  severity : notice.severity = message.severity.name
  line : notice.line.toNat = message.start.line
  column : notice.column.toNat = message.start.column
  endLine : notice.endLine.toNat = message.stop.line
  endColumn : notice.endColumn.toNat = message.stop.column

/-- Notices come where messages do, one for each in their order, and the text of an error comes where the error does.
One run breaks off where the other does. -/
inductive Carried : Option (Except LintError Output) → Option (Except String (List Notice)) → Prop
  | ok (each : List.Forall₂ Notice.Carries output.messages notices) : Carried (some (.ok output)) (some (.ok notices))
  | error : Carried (some (.error fault)) (some (.error fault.message))
  | none : Carried none none

/-- No number of a message is too large for a notice, since line and column count no further than the text has bytes. -/
theorem Notice.carries_ofMessage {source : String} {message : Message} {diagnostic : Diagnostic}
    (shown : message.Shows source diagnostic) (short : source.utf8ByteSize < 2 ^ 32 - 1) :
    (Notice.ofMessage message).Carries message := by
  have start := Text.position?_le_offset shown.start
  have stop := Text.position?_le_offset shown.stop
  have lossless {n : Nat} (small : n < 2 ^ 32) : n.toUInt32.toNat = n := UInt32.toNat_ofNat_of_lt small
  exact ⟨rfl, rfl, rfl, lossless (by omega), lossless (by omega), lossless (by omega), lossless (by omega)⟩

namespace Parser

variable {parser : Parser} {source name text : String} {filename : Option String} {program : Program}
  {errors : List String} {options : List Json} {read : Json.ArrayReader}

/-- Every message shows a diagnostic, whatever the spans in the program are. -/
theorem exists_shows_of_lintSource {rules : Option Rules} {output : Output}
    (made : parser.lintSource source name rules = some (.ok output)) {message : Message}
    (member : message ∈ output.messages) : ∃ diagnostic, message.Shows source diagnostic := by
  unfold lintSource at made
  split at made
  · cases made
  · obtain ⟨_, reported, same⟩ := Option.map_eq_some_iff.mp made
    cases same
    obtain ⟨diagnostic, _, shown⟩ := exists_of_mem_forall₂ (Program.report_eq_some_iff.mp reported) member
    exact ⟨diagnostic, shown⟩

theorem carried_lintSource (rules : Option Rules) (short : source.utf8ByteSize < 2 ^ 32 - 1) :
    Carried (parser.lintSource source name rules) ((parser.lintSource source name rules).map Notice.ofResult) := by
  rcases made : parser.lintSource source name rules with _ | fault | output
  · exact .none
  · exact .error
  · refine .ok (List.forall₂_map_right_iff.mpr (List.forall₂_same.mpr ?_))
    intro message member
    obtain ⟨diagnostic, shown⟩ := exists_shows_of_lintSource made member
    exact Notice.carries_ofMessage shown short

theorem carried_lintSourceWithOptions (options : List Json) (short : source.utf8ByteSize < 2 ^ 32 - 1) :
    Carried (parser.lintSourceWithOptions source name options)
      ((parser.lintSourceWithOptions source name options).map Notice.ofResult) := by
  unfold lintSourceWithOptions
  cases Names.ofOptions options with
  | error fault => exact .error
  | ok names => exact carried_lintSource _ short

theorem lintWithOptionsText_none (named : filename.getD "input.js" = name) :
    parser.lintWithOptionsText read source filename none =
      (parser.lintSource source name none).map Notice.ofResult := by
  subst named
  rfl

theorem lintWithOptionsText_some (named : filename.getD "input.js" = name) (made : read text = .ok options) :
    parser.lintWithOptionsText read source filename (some text) =
      (parser.lintSourceWithOptions source name options).map Notice.ofResult := by
  subst named
  simp only [lintWithOptionsText, lintSourceWithOptions, Option.map_some, Option.getD_some, Names.ofOptionsText, made]
  cases Names.ofOptions options with
  | error fault => rfl
  | ok names => rfl

/-- The ways to lint a short source text agree. Without options all give the messages of the default rules, and with
an options array it makes no difference whether it is given as a value or as text; no number is too large for a
notice. Options that are refused, or a text that cannot be read as an array, are reported before the source text is
looked at, and what the parser has against the source text is reported next. A file that is not named counts as
`input.js`. -/
theorem entryPoints_agree (short : source.utf8ByteSize < 2 ^ 32 - 1) (filename : Option String)
    (named : filename.getD "input.js" = name) (parsed : parser.parseFile source name = ⟨program, errors⟩)
    (read : Json.ArrayReader) :
    (Carried (parser.lintSource source name none) (parser.lintWithOptionsText read source filename none) ∧
      parser.lintSourceWithOptions source name [] = parser.lintSource source name none) ∧
    ((∀ text options, read text = .ok options →
        Carried (parser.lintSourceWithOptions source name options)
          (parser.lintWithOptionsText read source filename (some text))) ∧
      ∀ offset position, Text.position? source offset = some position →
        position.line - 1 + (position.column - 1) ≤ offset) ∧
    (∀ options error, Names.ofOptions options = .error error →
      parser.lintSourceWithOptions source name options = some (.error (.options error)) ∧
      ∀ text, read text = .ok options →
        parser.lintWithOptionsText read source filename (some text) = some (.error error.message)) ∧
    (∀ text reason, read text = .error reason →
      parser.lintWithOptionsText read source filename (some text) =
        some (.error ("invalid rule options: " ++ reason))) ∧
    (errors ≠ [] → ∀ options names, Names.ofOptions options = .ok names →
      parser.lintSourceWithOptions source name options = some (.error (.parse name errors)) ∧
      ∀ text, read text = .ok options →
        parser.lintWithOptionsText read source filename (some text) =
          some (.error (LintError.parse name errors).message)) := by
  refine ⟨⟨?_, rfl⟩, ⟨?_, ?_⟩, ?_, ?_, ?_⟩
  · rw [lintWithOptionsText_none named]
    exact carried_lintSource none short
  · intro text options made
    rw [lintWithOptionsText_some named made]
    exact carried_lintSourceWithOptions options short
  · intro offset position found
    exact (Text.position?_le_offset found).trans (Nat.min_le_left _ _)
  · intro options error refused
    have value : parser.lintSourceWithOptions source name options = some (.error (.options error)) := by
      simp only [lintSourceWithOptions, refused]
    refine ⟨value, ?_⟩
    intro text made
    rw [lintWithOptionsText_some named made, value]
    rfl
  · intro text reason refused
    simp only [lintWithOptionsText, Option.map_some, Option.getD_some, Names.ofOptionsText, refused]
    rfl
  · intro faulty options names accepted
    have value : parser.lintSourceWithOptions source name options = some (.error (.parse name errors)) := by
      simp only [lintSourceWithOptions, accepted, lintSource_of_errors parsed faulty]
    refine ⟨value, ?_⟩
    intro text made
    rw [lintWithOptionsText_some named made, value]
    rfl

end Parser

/-- Options as text with `e` as the name of the first parameter. -/
def optionsForE : String := "[\x7b\"eventParamName\":\"e\"\x7d]"

/-- Reads arrays, and of a fault says no more than its class. -/
def plainReader : Json.ArrayReader := Json.readArray Json.Fault.name

/-- With `e` expected, the parameter `é` in column 22 is refused, the name being given as a value or as text. Of a
text that is no statement, options are reported that are no object or no array, and then what the parser says. -/
theorem Parser.entryPoints_accentedEvents :
    (Carried (accentedParser.lintSource accentedSource "a.mjs" none)
        (accentedParser.lintWithOptionsText plainReader accentedSource (some "a.mjs") none) ∧
      plainReader optionsForE = .ok [.object [("eventParamName", .string "e")]] ∧
      (accentedParser.lintWithOptionsText plainReader accentedSource (some "a.mjs") (some optionsForE)).map
        (fun result => result.toOption.map (List.map (·.column))) = some (some [22]) ∧
      Carried (accentedParser.lintSourceWithOptions accentedSource "a.mjs" [.object [("eventParamName", .string "e")]])
        (accentedParser.lintWithOptionsText plainReader accentedSource (some "a.mjs") (some optionsForE))) ∧
    (accentedParser.lintSourceWithOptions ")" "input.js" [.integer 1] =
        some (.error (.options (.notAnObject .number))) ∧
      accentedParser.lintWithOptionsText plainReader ")" none (some "[1]") =
        some (.error "rule options must be an object, got a number") ∧
      accentedParser.lintWithOptionsText plainReader ")" none (some "5") =
        some (.error "invalid rule options: invalid type: integer `5`, expected a sequence at line 1 column 1")) ∧
    accentedParser.lintSourceWithOptions ")" "input.js" [] =
        some (.error (.parse "input.js" ["Unexpected token"])) ∧
      accentedParser.lintWithOptionsText plainReader ")" none (some "[]") =
        some (.error "failed to parse input.js: Unexpected token") := by
  have accented := accentedParser_reads "a.mjs"
  have closing := accentedParser_refuses ")" "input.js" (by decide)
  obtain ⟨⟨plain, _⟩, ⟨array, _⟩, _⟩ :=
    entryPoints_agree (by decide +kernel) (some "a.mjs") rfl accented plainReader
  obtain ⟨_, _, refused, unread, broken⟩ := entryPoints_agree (by decide +kernel) none rfl closing plainReader
  have read : plainReader optionsForE = .ok [.object [("eventParamName", .string "e")]] := by cbv
  have ⟨object, objectText⟩ := refused [.integer 1] _ rfl
  have ⟨parse, parseText⟩ := broken (by simp) [] _ rfl
  refine ⟨⟨plain, read, by decide +kernel, array _ _ read⟩, ⟨object, ?_, ?_⟩, parse, ?_⟩
  · exact objectText "[1]" rfl
  · exact unread "5" _ rfl
  · exact parseText "[]" rfl

end EventMapLint
