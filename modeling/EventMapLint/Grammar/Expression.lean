import EventMapLint.Grammar.Operand

/-! Whole expressions: arrow functions, assignments, conditionals and sequences. What stands in parentheses is read
once, and is then taken as the parameters of an arrow function if an arrow follows. -/

namespace EventMapLint.Grammar

open Source Source.Reading

/-- Something in parentheses that may be a parameter; with a type it can be nothing else. -/
structure Candidate where
  node : Node
  isParameter : Bool

def candidate (g : Grammar) : Reading Candidate := do
  let start ← here
  if ← eatMark "..." then
    let argument ← g.assignment false
    if (← isTyped) && (← atMark ":") then
      let type ← g.ascription
      let target ← asTarget argument
      check target.isBinding
      return ⟨.rest (← spanFrom start) [] target type, true⟩
    else return ⟨.spread (← spanFrom start) argument, false⟩
  else
    let node ← g.assignment false
    if (← isTyped) && ((← atMark ":") || (← atMark "?")) then
      let optional ← eatMark "?"
      let type ← g.ascription
      let target ← asTarget node
      check target.isBinding
      let value ← g.initializer
      return ⟨.parameter (← spanFrom start) [] target type value optional, true⟩
    else return ⟨node, false⟩

/-- Candidates in parentheses, and whether a comma stands after the last. -/
def candidates (g : Grammar) : Reading (List Candidate × Bool) := do
  expectMark "("
  enclosed (commaSeparated ")" (candidate g))

/-- Takes candidates as the parameters of an arrow function. A rest element comes last, without a comma after it. -/
def asParameters (found : List Candidate) (comma : Bool) : Reading (List Node × Option Node) := do
  let nodes ← found.mapM fun candidate => do
    if candidate.isParameter then return candidate.node
    else match candidate.node with
      | .spread span argument =>
          let target ← asTarget argument
          check target.isBinding
          return .rest span [] target []
      | node => asParameter node
  let (items, last) := splitRest nodes
  check (!(last.isSome && comma))
  check (items.all fun | .rest .. => false | _ => true)
  return (items, last)

/-- The body of an arrow function, and whether it is one expression. -/
def arrowBody (g : Grammar) (async branch : Bool) : Reading (List Node × Bool) :=
  within (fun context =>
    { context with inAsync := async, inGenerator := false, inDecorator := false, atTopLevel := false }) do
    if ← atMark "\x7b" then return (← functionBody g, false)
    else
      let value ← g.assignment branch
      return ([.expressionStatement value.span value], true)

/-- An arrow function from its arrow on, which stands on the line of its parameters. -/
def arrow (g : Grammar) (start : Nat) (async branch : Bool) (generics items : List Node) (last : Option Node)
    (result : List Node) : Reading Node := do
  check (!(← lineBefore))
  expectMark "=>"
  let (body, concise) ← arrowBody g async branch
  return .function (← spanFrom start) (.arrow async concise) generics items last result body

/-- The arrow function that candidates are the parameters of, if they are. A type after them and a colon belongs
to it unless the colon is needed to part the branches of a conditional. -/
def arrowAfter (g : Grammar) (start : Nat) (async branch : Bool) (found : List Candidate) (comma : Bool) :
    Reading (Option Node) := do
  if (← atMark "=>") && !(← lineBefore) then
    let (items, last) ← asParameters found comma
    return some (← arrow g start async branch [] items last [])
  else if (← isTyped) && (← atMark ":") then
    attempt do
      let (items, last) ← asParameters found comma
      let result ← resultAscription g
      let function ← arrow g start async branch [] items last result
      check (!branch || (← atMark ":"))
      return function
  else return none

/-- An arrow function with type parameters. -/
def genericArrow (g : Grammar) (start : Nat) (async branch : Bool) : Reading Node := do
  let generics ← typeParameters g
  let parameters ← inFunction async false (parameters g)
  check parameters.receiver.isNone
  let result ← resultAscription g
  arrow g start async branch generics parameters.items parameters.last result

/-- Whether angle brackets hold type parameters. Beside markup only what follows the first name shows it. -/
def startsGenericArrow : Reading Bool := do
  if !((← isTyped) && (← atMark "<")) then return false
  if !(← language).markup then return true
  let found ← ahead do
    expectMark "<"
    discard <| eatKeyword "const"
    discard name
    if ← eatKeyword "extends" then
      return !((← atMark "=") || (← atMark ">") || (← atMark "/"))
    else return (← atMark ",") || (← atMark "=")
  return found.getD false

def isAssignmentOperator (token : Token) : Bool :=
  match token with
  | .mark text =>
      ["=", "+=", "-=", "*=", "/=", "%=", "**=", "<<=", ">>=", ">>>=", "&=", "|=", "^=", "&&=", "||=",
        "??="].contains text
  | _ => false

/-- Whether a question mark says that a parameter is optional. -/
def marksOptional : Reading Bool := do
  let (next, _) ← peek
  return (← isTyped) && (next.isMark ":" || next.isMark "," || next.isMark ")" || next.isMark "=")

/-- What an arrow, an assignment or a conditional makes of the operand before it. -/
def afterOperand (g : Grammar) (start : Nat) (branch : Bool) (left : Node) : Reading Node := do
  joinGreater
  match left, ← token with
  | .identifier span name, .mark "=>" =>
      arrow g start false branch [] [.parameter span [] (.identifier span name) [] none false] none []
  | _, .mark "?" =>
      if ← marksOptional then return left
      else
        advance
        let consequent ← within (fun context => { context with allowsIn := true }) (g.assignment true)
        expectMark ":"
        let alternate ← g.assignment branch
        return .conditional (← spanFrom start) left consequent alternate
  | _, token =>
      match isAssignmentOperator token, token with
      | true, .mark operator =>
          let target ← if operator == "=" then asTarget left else do
            check left.isSimpleTarget
            pure left
          advance
          let value ← g.assignment branch
          return .assignment (← spanFrom start) operator target value
      | _, _ => return left

/-- Goes on after an expression that links can follow. -/
def afterBase (g : Grammar) (start : Nat) (branch : Bool) (base : Node) : Reading Node := do
  let operand ← updated start (← links g start base)
  let (left, _) ← operations g start 0 operand
  afterOperand g start branch left

/-- An expression that begins with a parenthesis. -/
def fromParenthesis (g : Grammar) (branch : Bool) : Reading Node := do
  let start ← here
  let (found, comma) ← candidates g
  let close := (← get).last
  match ← arrowAfter g start false branch found comma with
  | some function => return function
  | none =>
      check (!comma && found.all fun candidate =>
        !candidate.isParameter && match candidate.node with | .spread .. => false | _ => true)
      let inner ← (match found.map (·.node) with
        | [] => fail
        | [node] => pure node
        | first :: others =>
            pure (.sequence ⟨first.span.start, (others.getLast?.getD first).span.stop⟩ (first :: others)))
      afterBase g start branch (.paren ⟨start, close⟩ inner)

/-- An expression that begins with `async` and a parenthesis: an arrow function, in whose parameters `await` is a
keyword, or a call of that name. -/
def fromAsyncParenthesis (g : Grammar) (branch : Bool) : Reading Node := do
  let start ← here
  let callee ← identifier
  let function ← attempt do
    let (found, comma) ←
      within (fun context => { context with inAsync := true, atTopLevel := false }) (candidates g)
    match ← arrowAfter g start true branch found comma with
    | some function => return function
    | none => fail
  match function with
  | some function => return function
  | none =>
      let arguments ← arguments g
      afterBase g start branch (.call (← spanFrom start) callee [] arguments false)

/-- An asynchronous arrow function with one bare parameter or with type parameters. -/
def asyncArrow (g : Grammar) (branch : Bool) : Reading Node := do
  let start ← here
  expectKeyword "async"
  check (!(← lineBefore))
  if ← startsGenericArrow then genericArrow g start true branch
  else
    let parameterStart ← here
    let name ← name
    let span ← spanFrom parameterStart
    check (name != "await")
    arrow g start true branch [] [.parameter span [] (.identifier span name) [] none false] none []

def yieldExpression (g : Grammar) (branch : Bool) : Reading Node := do
  let start ← here
  advance
  if ← lineBefore then return .compound (← spanFrom start) []
  let delegates ← eatMark "*"
  let token ← token
  let ends := token == .eof || token.isKeyword "in" ||
    [";", "\x7d", ")", "]", ":", ","].any fun text => token.isMark text
  if ends && !delegates then return .compound (← spanFrom start) []
  else
    let argument ← g.assignment branch
    return .compound (← spanFrom start) [argument]

def readAssignment (g : Grammar) (branch : Bool) : Reading Node := do
  let start ← here
  if (← atKeyword "yield") && (← context).inGenerator then yieldExpression g branch
  else if ← atMark "(" then fromParenthesis g branch
  else
    let isAsync ← atKeyword "async"
    let (next, lineBefore) ← peek
    if isAsync && next.isMark "(" && !lineBefore then fromAsyncParenthesis g branch
    else
      let function ← if isAsync && !lineBefore && (next.isIdentifier || next.isMark "<") then
          attempt (asyncArrow g branch)
        else if ← startsGenericArrow then attempt (genericArrow g start false branch)
        else pure none
      match function with
      | some function => return function
      | none =>
          let (left, _) ← readOperand g 0
          afterOperand g start branch left

def readExpression (g : Grammar) : Reading Node := do
  let start ← here
  let first ← readAssignment g false
  let others ← repeated do
    if ← eatMark "," then return some (← g.assignment false) else return none
  if others.isEmpty then return first else return .sequence (← spanFrom start) (first :: others)

end EventMapLint.Grammar
