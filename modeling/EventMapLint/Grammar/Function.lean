import EventMapLint.Grammar.Binding

/-! Parameters, type parameters and arguments, and the bodies of functions. -/

namespace EventMapLint.Grammar

open Source Source.Reading

/-- The type arguments in angle brackets. -/
def typeArguments (g : Grammar) : Reading (List Node) := do
  splitLess
  expectMark "<"
  let (types, _) ← enclosed (commaSeparated ">" g.type)
  check (!types.isEmpty)
  return types.flatten

/-- The type arguments of a class, a heritage clause or an element, if there are any. -/
def typeArgumentsIfAny (g : Grammar) : Reading (List Node) := do
  if (← isTyped) && ((← atMark "<") || (← atMark "<<")) then typeArguments g else return []

def typeParameter (g : Grammar) : Reading (List Node) := do
  discard <| repeated do
    let token ← token
    let (next, _) ← peek
    if token.isKeyword "const" || (next.isIdentifier && (token.isKeyword "in" || token.isKeyword "out")) then
      advance
      return some ()
    else return none
  discard name
  let bound ← if ← eatKeyword "extends" then g.type else pure []
  let default ← if ← eatMark "=" then g.type else pure []
  return bound ++ default

/-- The type parameters of a declaration, where types are written. -/
def typeParameters (g : Grammar) : Reading (List Node) := do
  if ← isTyped <&&> eatMark "<" then
    let (found, _) ← enclosed (commaSeparated ">" (typeParameter g))
    check (!found.isEmpty)
    return found.flatten
  else return []

/-- Whether the current word comes before the name of what it modifies, on the same line. -/
def beforeModified : Reading Bool := do
  let (next, lineBefore) ← peek
  return !lineBefore && (next.isWord || next.isLiteral || next.isMark "[" || next.isMark "\x7b" ||
    next.isMark "*" || next.isMark "..." || (match next with | .privateName _ => true | _ => false))

/-- The words before a parameter that also make it a property. -/
def parameterModifiers : Reading Unit := do
  if ← isTyped then
    discard <| repeated do
      match ← token with
      | .word name false =>
          if ["public", "private", "protected", "readonly", "override"].contains name && (← beforeModified) then
            advance
            return some ()
          else return none
      | _ => return none

/-- The parameters of a function, with the type of `this` and the rest element apart. -/
structure Parameters where
  receiver : Option (List Node)
  items : List Node
  last : Option Node

def Parameters.receiverType (parameters : Parameters) : List Node := parameters.receiver.getD []

def Parameters.toList (parameters : Parameters) : List Node :=
  parameters.receiverType ++ parameters.items ++ parameters.last.toList

/-- One parameter, or a rest element, which is told apart and comes last. The span of a parameter takes in its type
and its value, that of a rest element ends before its type. -/
def parameter (g : Grammar) : Reading Node := do
  let start ← here
  let decorators ← g.decorators
  parameterModifiers
  if ← eatMark "..." then
    let target ← g.binding
    let span ← spanFrom start
    let type ← g.ascription
    check (← atMark ")")
    return .rest span decorators target type
  else
    let target ← g.binding
    let optional ← if ← isTyped then eatMark "?" else pure false
    let type ← g.ascription
    let value ← g.initializer
    return .parameter (← spanFrom start) decorators target type value optional

def splitRest (nodes : List Node) : List Node × Option Node :=
  match nodes.getLast? with
  | some (.rest span decorators target type) => (nodes.dropLast, some (.rest span decorators target type))
  | _ => (nodes, none)

def parameters (g : Grammar) : Reading Parameters := do
  expectMark "("
  let receiver ← if ← isTyped <&&> eatKeyword "this" then
      let type ← g.ascription
      check (← eatMark "," <||> atMark ")")
      pure (some type)
    else pure none
  let (nodes, _) ← enclosed (commaSeparated ")" (parameter g))
  let (items, last) := splitRest nodes
  return ⟨receiver, items, last⟩

/-- A type, or the claim that a name has a type. -/
def resultType (g : Grammar) : Reading (List Node) := do
  let token ← token
  let (next, lineBefore) ← peek
  if (token.isIdentifier || token.isKeyword "this") && next.isKeyword "is" && !lineBefore then
    advance
    advance
  g.type

def resultAscription (g : Grammar) : Reading (List Node) := do
  if ← isTyped <&&> eatMark ":" then resultType g else return []

def isDirective : Node → Bool
  | .expressionStatement _ (.literal _ (.string _)) => true
  | _ => false

/-- The statements in braces. -/
def statements (g : Grammar) : Reading (List Node) := do
  expectMark "\x7b"
  let body ← repeated do
    if ← atMark "\x7d" then return none else return some (← g.statement false)
  expectMark "\x7d"
  return body

/-- The body of a function in braces, without its directives. -/
def functionBody (g : Grammar) : Reading (List Node) :=
  within (fun context =>
    { context with inFunction := true, allowsIn := true, inDecorator := false, atTopLevel := false }) do
    return (← statements g).dropWhile isDirective

/-- Reads under the restrictions of a function's own parameters and body. -/
def inFunction {α : Type} (async generator : Bool) (reading : Reading α) : Reading α :=
  within (fun context =>
    { context with
      inAsync := async, inGenerator := generator, allowsIn := true, inDecorator := false, atTopLevel := false })
    reading

/-- A function from its parameters on. Where types are written, a declaration may lack its body. -/
def functionRest (g : Grammar) (start : Nat) (async generator mayLackBody : Bool) : Reading Node :=
  inFunction async generator do
    let generics ← typeParameters g
    let parameters ← parameters g
    let result ← resultAscription g
    let body ← if ← atMark "\x7b" then functionBody g else do
      check (mayLackBody && (← isTyped))
      semicolon
      pure []
    return .function (← spanFrom start) (.ordinary async generator parameters.receiver.isSome)
      (generics ++ parameters.receiverType) parameters.items parameters.last result body

/-- A method of an object or class from its parameters on. A getter takes no parameter and a setter exactly one. -/
def methodRest (g : Grammar) (kind : PropertyKind) (async generator mayLackBody : Bool) : Reading Node := do
  let method ← functionRest g (← here) async generator mayLackBody
  match kind, method with
  | .get, .function _ _ _ parameters last _ _ => check (parameters.isEmpty && last.isNone)
  | .set, .function _ _ _ parameters last _ _ => check (parameters.length == 1 && last.isNone)
  | _, _ => pure ()
  return method

/-- A function after its keyword. -/
def functionAfterKeyword (g : Grammar) (start : Nat) (async named mayLackBody ownName : Bool) : Reading Node := do
  let generator ← eatMark "*"
  if (← token).isIdentifier then
    if ownName then discard <| inFunction async generator name else discard name
  else check (!named)
  functionRest g start async generator mayLackBody

/-- The arguments of a call in parentheses. -/
def arguments (g : Grammar) : Reading (List Node) := do
  expectMark "("
  let (found, _) ← enclosed <| commaSeparated ")" do
    let start ← here
    if ← eatMark "..." then
      let argument ← g.assignment false
      return .spread (← spanFrom start) argument
    else g.assignment false
  return found

end EventMapLint.Grammar
