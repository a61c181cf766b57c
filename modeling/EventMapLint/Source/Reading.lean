import EventMapLint.Source.Language
import EventMapLint.Source.Scan
import EventMapLint.Tree.Node

/-! The process of reading a source text, one token at a time. Where a rule does not fit, the whole reading fails;
the state is a value, so a rule that was tried in vain leaves no trace. -/

namespace EventMapLint.Source

/-- What the surroundings of a construct allow. -/
structure Context where
  language : Language
  /-- The bytes of the source text, which bound every repetition. -/
  size : Nat
  /-- Whether `in` may be an operator. -/
  allowsIn : Bool := true
  inGenerator : Bool := false
  inAsync : Bool := false
  inFunction : Bool := false
  /-- Whether bodies and initial values may be missing. -/
  ambient : Bool := false
  inDecorator : Bool := false
  /-- Whether a type may go on with `extends`. -/
  allowsConditionalType : Bool := true
  atTopLevel : Bool := true

structure State where
  token : Token := .eof
  start : Nat := 0
  stop : Nat := 0
  /-- Whether a line ends before the token. -/
  lineBefore : Bool := false
  /-- The source text from the token on. -/
  text : List Char := []
  /-- The source text after the token. -/
  rest : List Char
  /-- The end of the token before. -/
  last : Nat := 0
  hasModuleSyntax : Bool := false
  /-- Whether `await` was a keyword in a place where only module syntax makes it one. -/
  awaitsModule : Bool := false
  /-- The shorthand properties with a value, which only a pattern may have. -/
  coverDefaults : List Nat := []
  /-- The spread elements before a comma, after which an array is no pattern. -/
  innerSpreads : List Nat := []
  exported : List String := []

/-- A source text that does not fit the grammar, and the token where this was found. -/
structure Failure where
  offset : Nat
  deriving DecidableEq, Repr

def Failure.message (failure : Failure) : String := "unexpected token at byte " ++ toString failure.offset

abbrev Reading := ReaderT Context (StateT State (Except Failure))

namespace Reading

variable {α : Type}

def fail : Reading α := fun _ state => .error ⟨state.start⟩

def check (condition : Bool) : Reading Unit := if condition then pure () else fail

/-- Reads something, or nothing if that fails. -/
def attempt (reading : Reading α) : Reading (Option α) := fun context state =>
  match reading context state with
  | .ok (a, state) => .ok (some a, state)
  | .error _ => .ok (none, state)

/-- What would be read here, without reading it. -/
def ahead (reading : Reading α) : Reading (Option α) := fun context state =>
  match reading context state with
  | .ok (a, _) => .ok (some a, state)
  | .error _ => .ok (none, state)

def within (change : Context → Context) (reading : Reading α) : Reading α := fun context => reading (change context)

def context : Reading Context := read

def language : Reading Language := return (← read).language

def isTyped : Reading Bool := return (← language).typed

def repeatUpTo (step : Reading (Option α)) : Nat → Reading (List α)
  | 0 => fail
  | fuel + 1 => do
      match ← step with
      | none => return []
      | some a => return a :: (← repeatUpTo step fuel)

/-- Repeats a step that takes at least a token until it gives nothing. -/
def repeated (step : Reading (Option α)) : Reading (List α) := do
  repeatUpTo step ((← context).size - (← get).start + 2)

def extendUpTo (step : α → Reading (Option α)) : Nat → α → Reading α
  | 0, _ => fail
  | fuel + 1, a => do
      match ← step a with
      | none => return a
      | some next => extendUpTo step fuel next

/-- Extends what has been read by a step that takes at least a token, until it gives nothing. -/
def extended (step : α → Reading (Option α)) (a : α) : Reading α := do
  extendUpTo step ((← context).size - (← get).start + 2) a

end Reading

/-- The state after the current token has been passed. -/
def State.next (state : State) (size : Nat) : State :=
  match Scan.skipGap .open false 0 state.rest with
  | none => { state with token := .invalid, start := state.stop, text := state.rest, last := state.stop }
  | some (lineBefore, gap, text) =>
      let (token, bytes, rest) := Scan.read (size - state.stop + 2) text
      let start := state.stop + gap
      { state with token, start, stop := start + bytes, lineBefore, text, rest, last := state.stop }

/-- Replaces the current token by another reading of the same text. -/
def State.reread (state : State) (token : Token) (bytes : Nat) (rest : List Char) : State :=
  { state with token, stop := state.start + bytes, rest }

namespace Reading

def advance : Reading Unit := do
  let context ← context
  modify fun state => state.next context.size

def token : Reading Token := return (← get).token

/-- The offset where the current token begins. -/
def here : Reading Nat := return (← get).start

def lineBefore : Reading Bool := return (← get).lineBefore

/-- The token after the current one, and whether a line ends before it. -/
def peek : Reading (Token × Bool) := do
  let next := (← get).next (← context).size
  return (next.token, next.lineBefore)

/-- From an offset to the end of what has been read. -/
def spanFrom (start : Nat) : Reading Span := return ⟨start, (← get).last⟩

def atMark (text : String) : Reading Bool := return (← token).isMark text

def atKeyword (name : String) : Reading Bool := return (← token).isKeyword name

def eatMark (text : String) : Reading Bool := do
  if ← atMark text then advance; return true else return false

def eatKeyword (name : String) : Reading Bool := do
  if ← atKeyword name then advance; return true else return false

def expectMark (text : String) : Reading Unit := do check (← eatMark text)

def expectKeyword (name : String) : Reading Unit := do check (← eatKeyword name)

def canInsertSemicolon : Reading Bool := do
  let state ← get
  return state.token.isMark ";" || state.token.isMark "\x7d" || state.token == .eof || state.lineBefore

/-- Ends a statement: at a semicolon, or where one may be missing. -/
def semicolon : Reading Unit := do
  check (← canInsertSemicolon)
  discard <| eatMark ";"

/-- Any word, also one that is no name. -/
def anyName : Reading String := do
  match ← token with
  | .word name _ => advance; return name
  | _ => fail

/-- Whether a word is a keyword here though it is not everywhere. -/
def isTaken (name : String) : Reading Bool := do
  let context ← context
  return (context.inAsync && name == "await") || (context.inGenerator && name == "yield")

/-- A name that is bound or referred to. -/
def name : Reading String := do
  match ← token with
  | .word name _ =>
      check (!Token.isReserved name && !(← isTaken name))
      advance
      return name
  | _ => fail

def identifier : Reading Node := do
  let start ← here
  let name ← name
  return .identifier (← spanFrom start) name

/-- Takes `await` as a keyword. Outside of asynchronous code only module syntax elsewhere in the file can make it
one. -/
def useAwait : Reading Unit := do
  let context ← context
  if !context.inAsync then
    check (context.atTopLevel && context.language.goal == .either)
    modify fun state => { state with awaitsModule := true }

/-- Items separated by commas up to a closing mark, which is passed. Tells whether a comma stood before it. -/
def commaSeparated {α : Type} (close : String) (item : Reading α) : Reading (List α × Bool) := do
  let items ← repeated (α := α × Bool) do
    if ← atMark close then return none
    let a ← item
    if ← eatMark "," then return some (a, true)
    check (← atMark close)
    return some (a, false)
  expectMark close
  return (items.map (·.1), (items.getLast?.map (·.2)).getD false)

/-- Reads the slash at the current place as the beginning of a regular expression. -/
def rereadRegex : Reading Unit := do
  let state ← get
  match Scan.regex (state.text.drop 1) with
  | some (bytes, rest) =>
      set (state.reread (.regex (String.ofList (state.text.take (state.text.length - rest.length)))) bytes rest)
  | none => fail

/-- Reads the brace at the current place as the end of a substitution in a template. -/
def rereadTemplate : Reading Unit := do
  let state ← get
  check (state.token.isMark "\x7d")
  match Scan.template ((← context).size - state.start + 2) (state.text.drop 1) with
  | some (pieces, closes, bytes, rest) =>
      set (state.reread (.template (pieces.map Scan.pieceText) closes) (bytes + 1) rest)
  | none => fail

/-- Reads only the first character of an operator that begins with `<`. -/
def splitLess : Reading Unit := do
  let state ← get
  if state.token.isMark "<<" || state.token.isMark "<=" || state.token.isMark "<<=" then
    set (state.reread (.mark "<") 1 (state.text.drop 1))

/-- Reads all of an operator that begins with `>`. -/
def joinGreater : Reading Unit := do
  let state ← get
  if state.token.isMark ">" then
    match [">>>=", ">>>", ">>=", ">>", ">="].find? fun op => op.toList.isPrefixOf state.text with
    | some op => set (state.reread (.mark op) op.length (state.text.drop op.length))
    | none => pure ()

end Reading

end EventMapLint.Source
