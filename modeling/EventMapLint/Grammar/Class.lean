import EventMapLint.Grammar.Type

/-! Classes. A class is a compound of its decorators, the class it extends, and the parts of its members. -/

namespace EventMapLint.Grammar

open Source Source.Reading

/-- Whether the current word is followed by the key of the member or property that it belongs to: on the same line
if `sameLine`, and after a star if `star`. -/
def beforeKey (sameLine star : Bool) : Reading Bool := do
  let (next, lineBefore) ← peek
  return !(sameLine && lineBefore) && (next.isWord || next.isLiteral || next.isMark "[" ||
    (star && next.isMark "*") || next matches .privateName _)

/-- Passes the word before the key of a getter or setter. -/
def accessor? : Reading (Option PropertyKind) := do
  if (← atKeyword "get") && (← beforeKey false false) then
    advance
    return some .get
  else if (← atKeyword "set") && (← beforeKey false false) then
    advance
    return some .set
  else return none

/-- Passes the word before the key of an asynchronous method. -/
def eatAsync : Reading Bool := do
  if (← atKeyword "async") && (← beforeKey true true) then
    advance
    return true
  else return false

/-- Passes the words before a member of a class, each of which occurs once, and tells whether `static` is one. -/
def memberModifiers : Reading Bool := do
  let known := ["static", "accessor"] ++
    if ← isTyped then ["abstract", "declare", "public", "private", "protected", "readonly", "override"] else []
  let found ← repeated do
    match ← token with
    | .word name false =>
        if known.contains name && (← beforeKey (name != "static") true) then
          advance
          return some name
        else return none
    | _ => return none
  check found.Nodup
  return found.contains "static"

/-- The name of a member: a key, or a private name. -/
def memberKey (g : Grammar) : Reading (Node × Bool) := do
  let start ← here
  match ← token with
  | .privateName name =>
      check (name != "constructor")
      advance
      return (.identifier (← spanFrom start) name, false)
  | _ => g.key

/-- The text of a member's name, unless it is computed. -/
def keyText? : Node × Bool → Option String
  | (.identifier _ name, false) => some name
  | (.literal _ (.string value), false) => some value
  | _ => none

/-- The value of a field. -/
def fieldValue (g : Grammar) : Reading (List Node) := do
  if ← eatMark "=" then
    let value ← within (fun context =>
      { context with
        allowsIn := true, inDecorator := false, inAsync := false, inGenerator := false, atTopLevel := false })
      (g.assignment false)
    return [value]
  else return []

def method (g : Grammar) (kind : PropertyKind) (async generator isStatic : Bool) (key : Node × Bool) :
    Reading (List Node) := do
  if isStatic then check (keyText? key != some "prototype")
  else check (keyText? key != some "constructor" || (kind == .init && !async && !generator))
  let function ← methodRest g kind async generator true
  return [key.1, function]

def field (g : Grammar) (isStatic : Bool) (key : Node × Bool) : Reading (List Node) := do
  check (keyText? key != some "constructor" && !(isStatic && keyText? key == some "prototype"))
  let type ← g.ascription
  let value ← fieldValue g
  semicolon
  return key.1 :: type ++ value

def atMethod : Reading Bool := do
  return (← atMark "(") || ((← isTyped) && (← atMark "<"))

/-- The block that runs when a class is made. -/
def staticBlock (g : Grammar) : Reading (List Node) :=
  within (fun context =>
    { context with
      allowsIn := true, inDecorator := false, inAsync := true, inGenerator := false, inFunction := false
      atTopLevel := false })
    (statements g)

/-- A member of a class after its decorators, by its parts. -/
def plainMember (g : Grammar) : Reading (List Node) := do
  let (next, _) ← peek
  if (← atKeyword "static") && next.isMark "\x7b" then
    advance
    staticBlock g
  else
    let isStatic ← memberModifiers
    if (← isTyped) && (← startsIndexSignature) then
      let parts ← indexSignature g
      semicolon
      return parts
    else
      match ← accessor? with
      | some kind => method g kind false false isStatic (← memberKey g)
      | none =>
          let async ← eatAsync
          let generator ← eatMark "*"
          let key ← memberKey g
          discard <| isTyped <&&> (eatMark "?" <||> (not <$> lineBefore <&&> eatMark "!"))
          if async || generator || (← atMethod) then method g .init async generator isStatic key
          else field g isStatic key

/-- A member of a class; a semicolon on its own has no parts. -/
def member (g : Grammar) : Reading (List Node) := do
  if ← eatMark ";" then return []
  else
    let start ← here
    let decorators ← g.decorators
    return [← compound start do return decorators ++ (← plainMember g)]

/-- What a class extends and implements. -/
def heritage (g : Grammar) : Reading (List Node) := do
  let parent ← if ← eatKeyword "extends" then
      let parent ← g.leftHand
      let types ← typeArgumentsIfAny g
      pure (parent :: types)
    else pure []
  let interfaces ← if ← isTyped <&&> eatKeyword "implements" then
      let first ← g.type
      extended (fun soFar => do
        if ← eatMark "," then return some (soFar ++ (← g.type)) else return none) first
    else pure []
  return parent ++ interfaces

/-- A class from its keyword on, after its decorators. -/
def classRest (g : Grammar) (start : Nat) (decorators : List Node) (named : Bool) : Reading Node := do
  expectKeyword "class"
  let isName := (← token).isIdentifier && !((← isTyped) && (← atKeyword "implements"))
  if isName then discard name else check (!named)
  let generics ← typeParameters g
  let parents ← heritage g
  expectMark "\x7b"
  let members ← within (fun context => { context with inDecorator := false }) <| repeated do
    if ← atMark "\x7d" then return none else return some (← member g)
  expectMark "\x7d"
  return .compound (← spanFrom start) (decorators ++ generics ++ parents ++ members.flatten)

end EventMapLint.Grammar
