import EventMapLint.Grammar.Class
import EventMapLint.Grammar.Markup
import EventMapLint.Grammar.Target

/-! Expressions that operators join: literals, names, functions, classes, and what is made of them by members, calls
and operators before or after them. -/

namespace EventMapLint.Grammar

open Source Source.Reading

/-- A template literal. Every escape in it must be valid unless it is `tagged`. -/
def template (g : Grammar) (tagged : Bool) : Reading Node := do
  let start ← here
  let (quasis, substitutions) ← templateParts g.expression
  check (tagged || quasis.all Option.isSome)
  return .template (← spanFrom start) quasis substitutions

/-- A spread element, or an expression. -/
def spreadOr (g : Grammar) : Reading Node := do
  let start ← here
  if ← eatMark "..." then
    let argument ← g.assignment false
    return .spread (← spanFrom start) argument
  else g.assignment false

def arrayLiteral (g : Grammar) : Reading Node := do
  let start ← here
  expectMark "["
  let items ← enclosed (elements false (spreadOr g))
  return .array (← spanFrom start) items

/-- A property of an object literal. A shorthand property with a value is taken for the time being. -/
def objectProperty (g : Grammar) : Reading Node := do
  let start ← here
  if ← eatMark "..." then
    let argument ← g.assignment false
    if ← atMark "," then modify fun state => { state with innerSpreads := start :: state.innerSpreads }
    return .spread (← spanFrom start) argument
  if let some kind ← accessor? then
    let (key, computed) ← g.key
    let value ← methodRest g kind false false false
    return .property (← spanFrom start) kind computed false false key value
  let async ← eatAsync
  let generator ← eatMark "*"
  let isName := (← token).isIdentifier
  let (key, computed) ← g.key
  if async || generator || (← atMethod) then
    let value ← methodRest g .init async generator false
    return .property (← spanFrom start) .init computed true false key value
  else if ← eatMark ":" then
    let value ← g.assignment false
    return .property (← spanFrom start) .init computed false false key value
  else
    check isName
    match key with
    | .identifier span name =>
        check (!(← isTaken name))
        match ← g.initializer with
        | none => return .property (← spanFrom start) .init false false true key (.identifier span name)
        | some value =>
            modify fun state => { state with coverDefaults := start :: state.coverDefaults }
            let target := Node.defaulted (← spanFrom start) (.identifier span name) value
            return .property (← spanFrom start) .init false false true key target
    | _ => fail

def objectLiteral (g : Grammar) : Reading Node := do
  let start ← here
  expectMark "\x7b"
  let (properties, _) ← enclosed (commaSeparated "\x7d" (objectProperty g))
  return .object (← spanFrom start) properties

def parenthesized (g : Grammar) : Reading Node := do
  let start ← here
  expectMark "("
  let inner ← enclosed g.expression
  expectMark ")"
  return .paren (← spanFrom start) inner

/-- Takes the current token as a literal. -/
def literal (value : Literal) : Reading Node := do
  let start ← here
  advance
  return .literal (← spanFrom start) value

/-- An expression that begins with a word. -/
def wordExpression (g : Grammar) (name : String) : Reading Node := do
  let start ← here
  match name with
  | "this" =>
      advance
      return .this (← spanFrom start)
  | "null" => literal .null
  | "true" => literal (.boolean true)
  | "false" => literal (.boolean false)
  | "function" =>
      advance
      functionAfterKeyword g start false false false true
  | "class" => classRest g start [] false
  | "async" =>
      let (next, lineBefore) ← peek
      if next.isKeyword "function" && !lineBefore then
        advance
        advance
        functionAfterKeyword g start true false false true
      else identifier
  | _ => identifier

def primary (g : Grammar) : Reading Node := do
  match ← token with
  | .string value => literal (.string value)
  | .number text => literal (.number text)
  | .bigint text => literal (.bigint text)
  | .template _ _ => template g false
  | .word name false => wordExpression g name
  | .word _ true => identifier
  | .mark "(" => parenthesized g
  | .mark "[" => arrayLiteral g
  | .mark "\x7b" => objectLiteral g
  | .mark "/" | .mark "/=" =>
      rereadRegex
      match ← token with
      | .regex text => literal (.regex text)
      | _ => fail
  | .mark "@" =>
      let start ← here
      let decorators ← g.decorators
      classRest g start decorators false
  | _ => fail

/-- An import that is part of an expression, from its keyword on. -/
def importExpression (g : Grammar) (callable : Bool) : Reading Node := do
  let start ← here
  expectKeyword "import"
  let isMeta ← (do
    if ← eatMark "." then
      if ← eatKeyword "meta" then return true
      else
        check (← eatKeyword "source" <||> eatKeyword "defer")
        return false
    else return false)
  if isMeta then
    modify fun state => { state with hasModuleSyntax := true }
    return .compound (← spanFrom start) []
  else
    check callable
    expectMark "("
    let source ← g.value
    let options ← if ← eatMark "," then
        if ← atMark ")" then pure [] else
          let options ← g.value
          discard <| eatMark ","
          pure [options]
      else pure []
    expectMark ")"
    return .compound (← spanFrom start) (source :: options)

/-- Marks after which an expression could go on, so that angle brackets before them hold type arguments. -/
def startsExpression (token : Token) : Bool :=
  match token with
  | .word name false => !(["in", "instanceof", "as", "satisfies"].contains name)
  | .word _ true | .privateName _ | .number _ | .bigint _ | .string _ | .template _ _ => true
  | .mark text => ["(", "[", "\x7b", "+", "-", "~", "!", "++", "--", "<", "/", "/=", "@"].contains text
  | _ => false

/-- How tightly an operator between two operands binds. -/
def precedence : Token → Option Nat
  | .mark "??" => some 1
  | .mark "||" => some 2
  | .mark "&&" => some 3
  | .mark "|" => some 4
  | .mark "^" => some 5
  | .mark "&" => some 6
  | .mark "==" | .mark "!=" | .mark "===" | .mark "!==" => some 7
  | .mark "<" | .mark ">" | .mark "<=" | .mark ">=" => some 8
  | .word "in" false | .word "instanceof" false | .word "as" false | .word "satisfies" false => some 8
  | .mark "<<" | .mark ">>" | .mark ">>>" => some 9
  | .mark "+" | .mark "-" => some 10
  | .mark "*" | .mark "/" | .mark "%" => some 11
  | .mark "**" => some 12
  | _ => none

/-- Whether angle brackets that have been passed hold type arguments, by what follows them. An equals sign right behind
them makes a comparison of the last one. -/
def endsTypeArguments : Reading Bool := do
  let state ← get
  if state.start == state.last && state.text.head? == some '=' then return false
  match state.token with
  | .template _ _ => return true
  | .mark "(" => return true
  | .mark "<" | .mark ">" | .mark "+" | .mark "-" => return false
  | token => return state.lineBefore || (precedence token).isSome || !startsExpression token

/-- The name after a point, which may be private. -/
def memberAfterPoint (start : Nat) (receiver : Node) (optional : Bool) : Reading Node := do
  match ← token with
  | .privateName name =>
      advance
      return .privateMember (← spanFrom start) receiver name optional
  | _ =>
      let name ← anyName
      return .member (← spanFrom start) receiver name optional

def indexAfterBracket (g : Grammar) (start : Nat) (receiver : Node) (optional : Bool) : Reading Node := do
  let key ← enclosed g.expression
  expectMark "]"
  return .index (← spanFrom start) receiver key optional

/-- What follows a question mark and a point. -/
def optionalLink (g : Grammar) (start : Nat) (receiver : Node) : Reading Node := do
  if ← eatMark "[" then indexAfterBracket g start receiver true
  else if ← atMark "(" then
    let arguments ← arguments g
    return .call (← spanFrom start) receiver [] arguments true
  else if (← isTyped) && ((← atMark "<") || (← atMark "<<")) then
    let types ← typeArguments g
    let arguments ← arguments g
    return .call (← spanFrom start) receiver types arguments true
  else memberAfterPoint start receiver true

/-- An expression under way to the right, and whether an optional link has occurred in it. -/
structure Chain where
  node : Node
  isOptional : Bool

/-- Type arguments after an expression, with the call or template that they may belong to. -/
def typeApplication (g : Grammar) (start : Nat) (chain : Chain) (calls : Bool) : Reading (Option Chain) := do
  let types ← attempt do
    let types ← typeArguments g
    check (← endsTypeArguments)
    return types
  match types with
  | none => return none
  | some types =>
      if calls && (← atMark "(") then
        let arguments ← arguments g
        return some { chain with node := .call (← spanFrom start) chain.node types arguments false }
      else if let .template _ _ ← token then
        check (!chain.isOptional)
        let quasi ← template g true
        return some { chain with node := .compound (← spanFrom start) (chain.node :: types ++ [quasi]) }
      else return some { chain with node := .typed (← spanFrom start) [] chain.node types }

/-- One more link of an expression: a member, a call, a template, or a type. Without `calls`, as after `new`, there
are neither calls nor optional links. -/
def link (g : Grammar) (start : Nat) (calls : Bool) (chain : Chain) : Reading (Option Chain) := do
  match ← token with
  | .mark "." =>
      advance
      return some { chain with node := ← memberAfterPoint start chain.node false }
  | .mark "?." =>
      check calls
      advance
      return some ⟨← optionalLink g start chain.node, true⟩
  | .mark "[" =>
      if (← context).inDecorator then return none
      else
        advance
        return some { chain with node := ← indexAfterBracket g start chain.node false }
  | .mark "(" =>
      if calls then
        let arguments ← arguments g
        return some { chain with node := .call (← spanFrom start) chain.node [] arguments false }
      else return none
  | .template _ _ =>
      check (!chain.isOptional)
      let quasi ← template g true
      return some { chain with node := .compound (← spanFrom start) [chain.node, quasi] }
  | .mark "!" =>
      if (← isTyped) && !(← lineBefore) then
        advance
        return some { chain with node := .typed (← spanFrom start) [] chain.node [] }
      else return none
  | .mark "<" | .mark "<<" => if ← isTyped then typeApplication g start chain calls else return none
  | _ => return none

/-- An expression with all its links. One that holds an optional link is a chain as a whole. -/
def links (g : Grammar) (start : Nat) (node : Node) : Reading Node := do
  let chain ← extended (link g start true) ⟨node, false⟩
  if chain.isOptional then return .chain (← spanFrom start) chain.node else return chain.node

/-- A new object, from its keyword on; or the target of `new`. -/
def newExpression (g : Grammar) : Reading Node := do
  let start ← here
  expectKeyword "new"
  if ← eatMark "." then
    expectKeyword "target"
    return .compound (← spanFrom start) []
  else
    let callee ← g.constructor
    let arguments ← if ← atMark "(" then arguments g else pure []
    return .new (← spanFrom start) callee [] arguments

/-- An expression that links can follow. -/
def linkBase (g : Grammar) (callable : Bool) : Reading Node := do
  let start ← here
  match ← token with
  | .word "new" false => newExpression g
  | .word "import" false => importExpression g callable
  | .word "super" false =>
      advance
      check ((← atMark ".") || (← atMark "[") || (← atMark "("))
      return .compound (← spanFrom start) []
  | _ => primary g

def readConstructor (g : Grammar) : Reading Node := do
  let start ← here
  let base ← linkBase g false
  return (← extended (link g start false) ⟨base, false⟩).node

def readLeftHand (g : Grammar) : Reading Node := do
  let start ← here
  links g start (← linkBase g true)

/-- The operators after an operand that change it. -/
def updated (start : Nat) (node : Node) : Reading Node := do
  if ((← atMark "++") || (← atMark "--")) && !(← lineBefore) then
    check node.isSimpleTarget
    advance
    return .compound (← spanFrom start) [node]
  else return node

/-- Whether a word that may wait for a value does so here. Outside of asynchronous code it does so only before
something that shows it, and then only module syntax elsewhere in the file makes it right. -/
def awaits : Reading Bool := do
  if !(← atKeyword "await") then return false
  let context ← context
  if context.inAsync then return true
  let (next, lineBefore) ← peek
  if lineBefore || !(next.isWord || match next with | .number _ | .bigint _ | .string _ => true | _ => false) then
    return false
  useAwait
  return true

/-- Takes the current operator and its operand, which must not be raised to a power. -/
def unaryOperation (g : Grammar) : Reading Node := do
  let start ← here
  advance
  let argument ← g.unary
  check (!(← atMark "**"))
  return .compound (← spanFrom start) [argument]

def readUnary (g : Grammar) : Reading Node := do
  let start ← here
  match ← token with
  | .mark "+" | .mark "-" | .mark "~" | .mark "!" => unaryOperation g
  | .word "delete" false | .word "void" false | .word "typeof" false => unaryOperation g
  | .mark "++" | .mark "--" =>
      advance
      let argument ← g.unary
      check argument.isSimpleTarget
      return .compound (← spanFrom start) [argument]
  | .mark "<" =>
      if (← language).markup then
        let node ← readElement g
        advance
        return node
      else
        check (← isTyped)
        advance
        let type ← enclosed g.type
        expectMark ">"
        let expression ← g.unary
        check (!(← atMark "**"))
        return .typed (← spanFrom start) type expression []
  | _ =>
      if ← awaits then
        advance
        let argument ← within (fun context => { context with inAsync := true }) g.unary
        check (!(← atMark "**"))
        return .await (← spanFrom start) argument
      else updated start (← readLeftHand g)

/-- One more operator and its right operand, if it binds more tightly than `least`. -/
def operation (g : Grammar) (start least : Nat) (left : Node × Mix) : Reading (Option (Node × Mix)) := do
  joinGreater
  let token ← token
  let asserts := token.isKeyword "as" || token.isKeyword "satisfies"
  if asserts && (!(← isTyped) || (← lineBefore)) then return none
  if token.isKeyword "in" && !(← context).allowsIn then return none
  match precedence token with
  | none => return none
  | some level =>
      if level ≤ least then return none
      advance
      if asserts then
        let type ← enclosed g.type
        return some (.typed (← spanFrom start) [] left.1 type, .other)
      else
        let right ← g.operand (if token.isMark "**" then level - 1 else level)
        let mix : Mix := match token with
          | .mark "??" => .coalescing
          | .mark "||" | .mark "&&" => .logical
          | _ => .other
        check (!(mix == .coalescing && (left.2 == .logical || right.2 == .logical)))
        check (!(mix == .logical && (left.2 == .coalescing || right.2 == .coalescing)))
        return some (.compound (← spanFrom start) [left.1, right.1], mix)

/-- What operators that bind more tightly than `least` make of their first operand. -/
def operations (g : Grammar) (start least : Nat) (first : Node) : Reading (Node × Mix) :=
  extended (operation g start least) (first, .other)

def readOperand (g : Grammar) (least : Nat) : Reading (Node × Mix) := do
  let start ← here
  match ← token with
  | .privateName _ =>
      advance
      check ((← context).allowsIn && least < 8 && (← atKeyword "in"))
      operations g start least (.compound (← spanFrom start) [])
  | _ => operations g start least (← readUnary g)

end EventMapLint.Grammar
