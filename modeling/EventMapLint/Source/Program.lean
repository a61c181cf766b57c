import EventMapLint.Grammar.Statement
import EventMapLint.Parser
import EventMapLint.Text.Bytes

/-! Reading whole programs. -/

namespace EventMapLint

open Source Source.Reading

namespace Grammar

/-- The grammar one level deeper: every rule, with the rules behind it one level less deep. -/
def deepen (g : Grammar) : Grammar where
  expression := readExpression g
  assignment := readAssignment g
  unary := readUnary g
  operand := readOperand g
  leftHand := readLeftHand g
  constructor := readConstructor g
  binding := readBinding g
  type := readType g
  statement := readStatement g
  element := readElement g

/-- The grammar for constructs that are nested at most so deeply. -/
def ofDepth : Nat → Grammar
  | 0 => empty
  | depth + 1 => deepen (ofDepth depth)

/-- All statements up to the end, without directives. Every shorthand property with a value has turned out to
belong to a pattern, and without types no name is exported twice. -/
def program (g : Grammar) : Reading Program := do
  let body ← repeated do
    if (← token) == .eof then return none else return some (← g.statement false)
  let state ← get
  check state.coverDefaults.isEmpty
  check ((← isTyped) || state.exported.Nodup)
  return ⟨body.dropWhile isDirective⟩

end Grammar

namespace Source

/-- The text after a line that tells a system how to run the file, and the bytes of that line. -/
def skipInterpreter : List Char → Nat × List Char
  | '#' :: '!' :: rest =>
      let line := rest.takeWhile fun c => !Scan.isLineEnd c
      (2 + Text.byteSize line, rest.drop line.length)
  | text => (0, text)

/-- The state before the first token. -/
def State.initial (source : List Char) : State :=
  let (bytes, rest) := skipInterpreter source
  { stop := bytes, rest }

/-- Reads a program, with `await` a keyword outside of functions or not. A construct cannot be nested more deeply
than the text is long. -/
def parseAs (language : Language) (awaits : Bool) (source : String) : Except Failure (Program × State) :=
  let size := source.utf8ByteSize
  let context : Context :=
    { language, size, inAsync := awaits, inFunction := language.goal = .script, ambient := language.declarations }
  (Grammar.ofDepth (size + 2)).program context ((State.initial source.toList).next size)

/-- Reads a program. If `await` hangs on module syntax, the text is read as a script first; where it turns out to
have module syntax it is read again as a module, and a script that only a module could be is refused. -/
def parse (language : Language) (source : String) : Except Failure Program :=
  match language.goal with
  | .module => (parseAs language true source).map (·.1)
  | .script => (parseAs language false source).map (·.1)
  | .either => do
      let (program, state) ← parseAs language false source
      if state.hasModuleSyntax then
        match parseAs language true source with
        | .ok (program, _) => return program
        | .error failure => if state.awaitsModule then .error failure else return program
      else if state.awaitsModule then .error ⟨source.utf8ByteSize⟩
      else return program

/-- The grammar as a parser. It stops at the first place that does not fit. -/
def parser : Parser where
  Language := Language
  ofFilename? := Language.ofFilename?
  esModule := {}
  parse language source :=
    match parse language source with
    | .ok program => ⟨program, []⟩
    | .error failure => ⟨⟨[]⟩, [failure.message]⟩

end Source

end EventMapLint
