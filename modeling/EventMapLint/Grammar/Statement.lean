import EventMapLint.Grammar.Module

/-! Statements. -/

namespace EventMapLint.Grammar

open Source Source.Reading

/-- The expression in parentheses after a keyword. -/
def condition (g : Grammar) : Reading Node := do
  expectMark "("
  let test ← enclosed g.expression
  expectMark ")"
  return test

def ifStatement (g : Grammar) : Reading Node := do
  let start ← here
  expectKeyword "if"
  let test ← condition g
  let consequent ← g.statement true
  let alternate ← if ← eatKeyword "else" then some <$> g.statement true else pure none
  return .ifStatement (← spanFrom start) test consequent alternate

def block (g : Grammar) : Reading Node := do
  let start ← here
  let body ← statements g
  return .block (← spanFrom start) body

/-- The rest of a loop after its head, by the nodes of the head so far. -/
def loopBody (g : Grammar) (head : List Node) : Reading (List Node) := do
  expectMark ")"
  return head ++ [← g.statement true]

/-- A loop with a test and an update, after its initial part. -/
def countingLoop (g : Grammar) (initial : List Node) : Reading (List Node) := do
  let optional (close : String) : Reading (List Node) := do
    if ← atMark close then return [] else return [← enclosed g.expression]
  expectMark ";"
  let test ← optional ";"
  expectMark ";"
  let update ← optional ")"
  loopBody g (initial ++ test ++ update)

/-- A loop over keys or values, after what they are assigned to. Only values can be waited for. -/
def iteratingLoop (g : Grammar) (awaited : Bool) (target : List Node) : Reading (List Node) := do
  if ← eatKeyword "of" then loopBody g (target ++ [← g.value])
  else
    check (!awaited)
    expectKeyword "in"
    loopBody g (target ++ [← enclosed g.expression])

def atIteration : Reading Bool := do
  return (← atKeyword "in") || (← atKeyword "of")

def forStatement (g : Grammar) : Reading (List Node) := do
  expectKeyword "for"
  let awaited ← eatKeyword "await"
  if awaited then useAwait
  expectMark "("
  if ← atMark ";" then
    check (!awaited)
    countingLoop g []
  else if let some kind ← variableKind? then
    let found ← within (fun context => { context with allowsIn := false, inDecorator := false }) (declarators g)
    let parts := found.flatMap (·.parts)
    checkNames kind found
    if ← atIteration then iteratingLoop g awaited parts
    else
      check (!awaited)
      checkValues kind found
      countingLoop g parts
  else
    let (next, _) ← peek
    let isLetOf := (← atKeyword "let") && next.isKeyword "of"
    let isAsyncOf := (← atKeyword "async") && next.isKeyword "of"
    let initial ← within (fun context => { context with allowsIn := false, inDecorator := false }) g.expression
    if ← atKeyword "of" then
      check (!isLetOf && !(isAsyncOf && !awaited))
      iteratingLoop g awaited [← asTarget initial]
    else if ← atKeyword "in" then iteratingLoop g awaited [← asTarget initial]
    else
      check (!awaited)
      countingLoop g [initial]

def doStatement (g : Grammar) : Reading (List Node) := do
  expectKeyword "do"
  let body ← g.statement true
  expectKeyword "while"
  let test ← condition g
  discard <| eatMark ";"
  return [body, test]

def switchStatement (g : Grammar) : Reading (List Node) := do
  expectKeyword "switch"
  let subject ← condition g
  expectMark "\x7b"
  let cases ← repeated do
    if ← atMark "\x7d" then return none
    let test ← if ← eatKeyword "default" then pure [] else do
      expectKeyword "case"
      pure [← enclosed g.expression]
    expectMark ":"
    let body ← repeated do
      if (← atMark "\x7d") || (← atKeyword "case") || (← atKeyword "default") then return none
      else return some (← g.statement false)
    return some (test ++ body)
  expectMark "\x7d"
  return subject :: cases.flatten

def tryStatement (g : Grammar) : Reading (List Node) := do
  expectKeyword "try"
  let body ← block g
  let handler ← if ← eatKeyword "catch" then do
      let binding ← if ← eatMark "(" then do
          let target ← enclosed g.binding
          let type ← g.ascription
          expectMark ")"
          pure (target :: type)
        else pure []
      pure (some (binding ++ [← block g]))
    else pure none
  let last ← if ← eatKeyword "finally" then some <$> block g else pure none
  check (handler.isSome || last.isSome)
  return body :: handler.getD [] ++ last.toList

def returnStatement (g : Grammar) : Reading Node := do
  let start ← here
  expectKeyword "return"
  check (← context).inFunction
  if ← canInsertSemicolon then
    semicolon
    return .returnStatement (← spanFrom start) none
  else
    let argument ← enclosed g.expression
    semicolon
    return .returnStatement (← spanFrom start) (some argument)

/-- A jump, with the label that it may have. -/
def jump : Reading (List Node) := do
  advance
  if !(← canInsertSemicolon) then discard name
  semicolon
  return []

/-- An expression as a statement, or a statement after a label. -/
def expressionOrLabel (g : Grammar) : Reading Node := do
  let start ← here
  let expression ← readExpression g
  match expression, ← atMark ":" with
  | .identifier .., true =>
      advance
      let body ← g.statement true
      return .compound (← spanFrom start) [body]
  | _, _ =>
      semicolon
      return .expressionStatement (← spanFrom start) expression

/-- A statement after its decorators, which belong to a class. -/
def decorated (g : Grammar) (start : Nat) (decorators : List Node) (alone : Bool) : Reading Node := do
  if ← atKeyword "export" then compound start (exportDeclaration g start decorators)
  else
    check (!alone)
    if ← isTyped <&&> (eatKeyword "declare" <||> atKeyword "abstract") then discard <| eatKeyword "abstract"
    classRest g start decorators true

/-- A statement that begins with a keyword, or with a word that may be one. -/
def keywordStatement (g : Grammar) (alone : Bool) (name : String) : Reading Node := do
  let start ← here
  let (next, lineBefore) ← peek
  match name with
  | "if" => ifStatement g
  | "for" => compound start (forStatement g)
  | "while" | "with" => compound start do
      advance
      let test ← condition g
      return [test, ← g.statement true]
  | "do" => compound start (doStatement g)
  | "switch" => compound start (switchStatement g)
  | "try" => compound start (tryStatement g)
  | "return" => returnStatement g
  | "break" | "continue" => compound start jump
  | "debugger" => compound start do
      advance
      semicolon
      return []
  | "throw" => compound start do
      advance
      check (!(← Reading.lineBefore))
      let argument ← enclosed g.expression
      semicolon
      return [argument]
  | "class" =>
      check (!alone)
      classRest g start [] true
  | "function" =>
      advance
      check (!(alone && (← atMark "*")))
      functionAfterKeyword g start false true true false
  | "import" =>
      if next.isMark "(" || next.isMark "." then expressionOrLabel g
      else compound start do
        importDeclaration g
        return []
  | "export" => compound start (exportDeclaration g start [])
  | _ =>
      if ← startsTypedDeclaration then typedDeclaration g
      else if alone && name == "let" && !next.isMark "[" then expressionOrLabel g
      else if let some kind ← variableKind? then
        check (!alone || kind == .var)
        return (← variableDeclaration g start kind).1
      else if name == "async" && next.isKeyword "function" && !lineBefore then
        check (!alone)
        advance
        advance
        functionAfterKeyword g start true true true false
      else expressionOrLabel g

def readStatement (g : Grammar) (alone : Bool) : Reading Node := do
  let start ← here
  match ← token with
  | .mark "\x7b" => block g
  | .mark ";" =>
      advance
      return .compound (← spanFrom start) []
  | .mark "@" =>
      let decorators ← g.decorators
      decorated g start decorators alone
  | .word name false => keywordStatement g alone name
  | _ => expressionOrLabel g

end EventMapLint.Grammar
