import EventMapLint.Grammar.Declaration

/-! Imports and exports. -/

namespace EventMapLint.Grammar

open Source Source.Reading

def noteModuleSyntax : Reading Unit := modify fun state => { state with hasModuleSyntax := true }

/-- Takes note of a name that is exported. -/
def exportName (name : String) : Reading Unit :=
  modify fun state => { state with exported := name :: state.exported }

/-- A name in a list of imports or exports: any word, or a string. -/
def bindingText : Reading String := do
  match ← token with
  | .string value =>
      advance
      return value
  | _ => anyName

/-- The attributes after the name of a module. -/
def moduleAttributes (g : Grammar) : Reading Unit := do
  if ← eatKeyword "with" <||> (not <$> lineBefore <&&> eatKeyword "assert") then
    expectMark "\x7b"
    discard <| commaSeparated "\x7d" do
      discard g.key
      expectMark ":"
      match ← token with
      | .string _ => advance
      | _ => fail

/-- The name of a module with its attributes, at the end of a statement. -/
def moduleName (g : Grammar) : Reading Unit := do
  match ← token with
  | .string _ =>
      advance
      moduleAttributes g
      semicolon
  | _ => fail

/-- Reads one entry of a list; before it the word `type` may stand where types are written. -/
def listed {α : Type} (entry : Reading α) : Reading α := do
  let plain ← attempt do
    let found ← entry
    check ((← atMark ",") || (← atMark "\x7d"))
    return found
  match plain with
  | some found => return found
  | none =>
      check (← isTyped)
      expectKeyword "type"
      entry

def importEntry : Reading Unit := do
  let token ← token
  discard bindingText
  if ← eatKeyword "as" then discard name
  else
    check token.isIdentifier
    match token with
    | .word name _ => check (!(← isTaken name))
    | _ => fail

/-- The value of an imported name that is given by another name, from the equals sign on. -/
def importAlias : Reading Unit := do
  expectMark "="
  let (next, _) ← peek
  if (← atKeyword "require") && next.isMark "(" then
    advance
    advance
    match ← token with
    | .string _ => advance
    | _ => fail
    expectMark ")"
  else
    discard name
    discard <| repeated do
      if ← eatMark "." then return some (← anyName) else return none
  semicolon

/-- Whether a word before the names of an import says how they are imported. -/
def beforeImported (word : String) : Reading Bool := do
  if !(← atKeyword word) then return false
  let found ← ahead do
    advance
    if (← atMark "\x7b") || (← atMark "*") then return true
    let isFrom ← atKeyword "from"
    discard name
    if isFrom then return (← atKeyword "from") || (← atMark "=") else return true
  return found.getD false

def importDeclaration (g : Grammar) : Reading Unit := do
  expectKeyword "import"
  noteModuleSyntax
  if let .string _ ← token then moduleName g
  else
    if (← isTyped) && (← beforeImported "type") then advance
    else if (← beforeImported "defer") || (← beforeImported "source") then advance
    let hasDefault := (← token).isIdentifier
    if hasDefault then discard name
    if hasDefault && (← isTyped) && (← atMark "=") then importAlias
    else
      if ← pure !hasDefault <||> eatMark "," then
        if ← eatMark "*" then
          expectKeyword "as"
          discard name
        else
          expectMark "\x7b"
          discard <| commaSeparated "\x7d" (listed importEntry)
      expectKeyword "from"
      moduleName g

/-- An entry of a list of exports: the token of the local name, and the name that it is exported under. -/
def exportEntry : Reading (Token × String) := do
  let token ← token
  let own ← bindingText
  if ← eatKeyword "as" then return (token, ← bindingText) else return (token, own)

/-- A list of exports, whose names are local unless they come from another module. -/
def exportList (g : Grammar) : Reading Unit := do
  expectMark "\x7b"
  let (entries, _) ← commaSeparated "\x7d" (listed exportEntry)
  for (_, name) in entries do exportName name
  if ← eatKeyword "from" then moduleName g
  else
    check (entries.all fun (token, _) => token.isIdentifier)
    semicolon

/-- The name of the function or class that is declared next. -/
def declaredName : Reading (Option String) := do
  let found ← ahead do
    discard <| eatKeyword "abstract"
    discard <| eatKeyword "async"
    check (← eatKeyword "function" <||> eatKeyword "class")
    discard <| eatMark "*"
    name
  return found

/-- The decorators of an exported class. They stand before or after the keyword of the export. -/
def exportDecorators (g : Grammar) (before : List Node) : Reading (List Node) := do
  if ← atMark "@" then
    check before.isEmpty
    g.decorators
  else return before

/-- Passes the word before a class that says that it is abstract. Tells whether a class stands there. -/
def startsClass : Reading Bool := do
  let (next, lineBefore) ← peek
  if (← isTyped) && (← atKeyword "abstract") && next.isKeyword "class" && !lineBefore then advance
  atKeyword "class"

/-- What follows the words of a default export, if it is not a class. -/
def exportDefaultValue (g : Grammar) : Reading (List Node) := do
  let start ← here
  let (next, lineBefore) ← peek
  if ← eatKeyword "function" then return [← functionAfterKeyword g start false false true false]
  else if (← atKeyword "async") && next.isKeyword "function" && !lineBefore then
    advance
    advance
    return [← functionAfterKeyword g start true false true false]
  else if (← isTyped) && (← atKeyword "interface") && next.isIdentifier && !lineBefore then
    interfaceDeclaration g
  else
    let value ← g.value
    semicolon
    return [value]

/-- A declaration that is exported, if it is not a class. -/
def exportedDeclaration (g : Grammar) : Reading (List Node) := do
  let start ← here
  if ← startsTypedDeclaration then
    (← declaredName).forM exportName
    return [← g.statement false]
  else
    match ← variableKind? with
    | some kind =>
        let (node, names) ← variableDeclaration g start kind
        names.forM exportName
        return [node]
    | none =>
        let (next, lineBefore) ← peek
        check ((← atKeyword "function") || ((← atKeyword "async") && next.isKeyword "function" && !lineBefore))
        (← declaredName).forM exportName
        return [← g.statement false]

/-- What follows the keyword of an export that is neither a default nor a class. -/
def exportRest (g : Grammar) : Reading (List Node) := do
  let (next, _) ← peek
  if ← eatMark "*" then
    if ← eatKeyword "as" then exportName (← bindingText)
    expectKeyword "from"
    moduleName g
    return []
  else if ← atMark "\x7b" then
    exportList g
    return []
  else if !(← isTyped) then exportedDeclaration g
  else if (← atKeyword "type") && next.isMark "\x7b" then
    advance
    exportList g
    return []
  else if (← atKeyword "type") && next.isMark "*" then
    advance
    advance
    if ← eatKeyword "as" then discard bindingText
    expectKeyword "from"
    moduleName g
    return []
  else if ← eatMark "=" then
    let value ← g.expression
    semicolon
    return [value]
  else if (← atKeyword "as") && next.isKeyword "namespace" then
    advance
    advance
    discard name
    semicolon
    return []
  else if ← atKeyword "import" then
    importDeclaration g
    return []
  else exportedDeclaration g

/-- An export, by the nodes of what it declares, after the decorators that may stand before it. -/
def exportDeclaration (g : Grammar) (start : Nat) (decorators : List Node) : Reading (List Node) := do
  expectKeyword "export"
  noteModuleSyntax
  let isDefault ← eatKeyword "default"
  if isDefault then exportName "default"
  let decorators ← exportDecorators g decorators
  if ← startsClass then
    if !isDefault then (← declaredName).forM exportName
    return [← classRest g start decorators (!isDefault)]
  else
    check decorators.isEmpty
    if isDefault then exportDefaultValue g else exportRest g

end EventMapLint.Grammar
