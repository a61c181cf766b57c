import EventMapLint.Grammar.Expression

/-! Declarations of variables, functions and classes, and those that only exist where types are written. -/

namespace EventMapLint.Grammar

open Source Source.Reading

/-- One variable with its type and value. -/
structure Declarator where
  target : Node
  parts : List Node
  hasValue : Bool

/-- Whether a variable has a name and is no pattern. -/
def Declarator.isName (declarator : Declarator) : Bool := declarator.target matches .identifier ..

def declarator (g : Grammar) : Reading Declarator := do
  let target ← g.binding
  if (← isTyped) && !(← lineBefore) then discard <| eatMark "!"
  let type ← g.ascription
  if ← eatMark "=" then
    let value ← g.assignment false
    return ⟨target, target :: type ++ [value], true⟩
  else return ⟨target, target :: type, false⟩

def declarators (g : Grammar) : Reading (List Declarator) := do
  let first ← declarator g
  let others ← repeated do
    if ← eatMark "," then return some (← declarator g) else return none
  return first :: others

/-- What variables are declared with. -/
inductive VariableKind
  | var
  | let
  | const
  | using
  deriving DecidableEq

/-- Whether the word `let` begins a declaration. -/
def startsLet : Reading Bool := do
  if !(← atKeyword "let") then return false
  let (next, _) ← peek
  return (next.isWord && !next.isKeyword "in" && !next.isKeyword "instanceof") || next.isMark "[" ||
    next.isMark "\x7b"

/-- Whether the word `using` begins a declaration. -/
def startsUsing : Reading Bool := do
  if !(← atKeyword "using") then return false
  let (next, lineBefore) ← peek
  return !lineBefore && next.isIdentifier && !next.isKeyword "of"

/-- Passes the words that a declaration of variables begins with, if one begins here. -/
def variableKind? : Reading (Option VariableKind) := do
  discard <| attempt do
    expectKeyword "await"
    useAwait
    check (!(← lineBefore) && (← startsUsing))
  let kind ← if ← atKeyword "var" then pure (some .var)
    else if ← atKeyword "const" then pure (some .const)
    else if ← startsLet then pure (some .let)
    else if ← startsUsing then pure (some .using)
    else pure none
  if kind.isSome then advance
  return kind

/-- Checks that every variable has a value that needs one: a constant, a pattern, and what is disposed of later,
which cannot be a pattern at all. -/
def checkValues (kind : VariableKind) (found : List Declarator) : Reading Unit := do
  if !(← context).ambient then
    check <| found.all fun declarator =>
      declarator.hasValue || (kind != .const && kind != .using && declarator.isName)

/-- Checks that what is disposed of later has a name. -/
def checkNames (kind : VariableKind) (found : List Declarator) : Reading Unit :=
  check (kind != .using || found.all Declarator.isName)

/-- A declaration of variables after its first words, and the names that it binds. -/
def variableDeclaration (g : Grammar) (start : Nat) (kind : VariableKind) : Reading (Node × List String) := do
  let found ← declarators g
  checkNames kind found
  checkValues kind found
  semicolon
  return (.compound (← spanFrom start) (found.flatMap (·.parts)), found.flatMap (boundNames ·.target))

/-- Whether a declaration that only exists beside types begins here, without the word `declare`. -/
def startsPlainTypedDeclaration : Reading Bool := do
  match ← token with
  | .word name false =>
      let (next, lineBefore) ← peek
      match name with
      | "enum" => return true
      | "const" => return next.isKeyword "enum"
      | "interface" | "type" => return next.isIdentifier && !lineBefore
      | "namespace" | "module" =>
          return (next.isIdentifier || match next with | .string _ => true | _ => false) && !lineBefore
      | "abstract" => return next.isKeyword "class" && !lineBefore
      | "global" => return next.isMark "\x7b"
      | _ => return false
  | _ => return false

/-- Whether a declaration that only exists beside types begins here. -/
def startsTypedDeclaration : Reading Bool := do
  if !(← isTyped) then return false
  else if ← atKeyword "declare" then
    let found ← ahead do
      advance
      if ← lineBefore then return false
      else if ["var", "let", "const", "function", "class", "async", "using"].any (← token).isKeyword then return true
      else startsPlainTypedDeclaration
    return found.getD false
  else startsPlainTypedDeclaration

def typeList (g : Grammar) : Reading (List Node) := do
  let first ← g.type
  extended (fun soFar => do
    if ← eatMark "," then return some (soFar ++ (← g.type)) else return none) first

def interfaceDeclaration (g : Grammar) : Reading (List Node) := do
  expectKeyword "interface"
  discard name
  let generics ← typeParameters g
  let parents ← if ← eatKeyword "extends" then typeList g else pure []
  return generics ++ parents ++ (← typeMembers g)

def typeAlias (g : Grammar) : Reading (List Node) := do
  expectKeyword "type"
  discard name
  let generics ← typeParameters g
  expectMark "="
  let type ← g.type
  semicolon
  return generics ++ type

def enumDeclaration (g : Grammar) : Reading (List Node) := do
  discard <| eatKeyword "const"
  expectKeyword "enum"
  discard name
  expectMark "\x7b"
  let (members, _) ← enclosed <| commaSeparated "\x7d" do
    let (key, computed) ← g.key
    let value ← g.initializer
    return (if computed then [key] else []) ++ value.toList
  return members.flatten

/-- A namespace, or the surroundings of a module or of all modules, which may lack their contents. -/
def namespaceDeclaration (g : Grammar) : Reading (List Node) := do
  let isGlobal ← atKeyword "global"
  advance
  let isSurroundings ← if isGlobal then pure true else
    match ← token with
    | .string _ =>
        advance
        pure true
    | _ =>
        discard name
        discard <| repeated do
          if ← eatMark "." then return some (← anyName) else return none
        pure false
  if isSurroundings && !(← atMark "\x7b") then
    semicolon
    return []
  else within (fun context => { context with inAsync := false, atTopLevel := false }) (statements g)

def typedDeclaration (g : Grammar) : Reading Node := do
  let start ← here
  match ← token with
  | .word name false =>
      match name with
      | "declare" =>
          advance
          within (fun context => { context with ambient := true }) (g.statement false)
      | "abstract" =>
          advance
          classRest g start [] true
      | "interface" => compound start (interfaceDeclaration g)
      | "type" => compound start (typeAlias g)
      | "enum" | "const" => compound start (enumDeclaration g)
      | _ => compound start (namespaceDeclaration g)
  | _ => fail

end EventMapLint.Grammar
