import EventMapLint.Grammar.Function

/-! Types. Of a type only the parts are kept in which an expression can stand: computed keys, and the parameters of
function types. -/

namespace EventMapLint.Grammar

open Source Source.Reading

/-- Whether a parenthesis begins the parameters of a function type. -/
def startsParameters (g : Grammar) : Reading Bool := do
  let found ← ahead do
    expectMark "("
    if (← atMark ")") || (← atMark "...") then return true
    parameterModifiers
    if !(← eatKeyword "this") then discard g.binding
    if (← atMark ":") || (← atMark ",") || (← atMark "?") || (← atMark "=") then return true
    if ← eatMark ")" then atMark "=>" else return false
  return found.getD false

/-- A function type from its type parameters on. -/
def functionType (g : Grammar) : Reading (List Node) := do
  let generics ← typeParameters g
  let parameters ← parameters g
  expectMark "=>"
  let result ← resultType g
  return generics ++ parameters.toList ++ result

/-- A name of a type, with its qualifiers and type arguments. -/
def typeReference (g : Grammar) : Reading (List Node) := do
  discard <| repeated do
    if ← eatMark "." then return some (← anyName) else return none
  if (← atMark "<" <||> atMark "<<") && !(← lineBefore) then typeArguments g else return []

/-- A template literal whose substitutions `part` reads, in the order of the source. -/
def templateParts {α : Type} (part : Reading α) : Reading (List (Option String) × List α) := do
  match ← token with
  | .template cooked true =>
      advance
      return ([cooked], [])
  | .template cooked false =>
      advance
      let first ← enclosed part
      rereadTemplate
      let others ← repeated do
        match ← token with
        | .template cooked false =>
            advance
            let next ← enclosed part
            rereadTemplate
            return some (cooked, next)
        | _ => return none
      match ← token with
      | .template last true =>
          advance
          return (cooked :: others.map (·.1) ++ [last], first :: others.map (·.2))
      | _ => fail
  | _ => fail

/-- Ends a member of an object type: at a separator, or where one may be missing. -/
def memberEnd : Reading Unit := do
  if !(← eatMark "," <||> eatMark ";") then check (← canInsertSemicolon)

/-- A signature from its type parameters on. -/
def signature (g : Grammar) : Reading (List Node) := do
  let generics ← typeParameters g
  let parameters ← parameters g
  let result ← resultAscription g
  return generics ++ parameters.toList ++ result

/-- Whether a bracket begins an index signature. -/
def startsIndexSignature : Reading Bool := do
  let found ← ahead do
    expectMark "["
    discard anyName
    atMark ":"
  return found.getD false

/-- An index signature after its modifiers. -/
def indexSignature (g : Grammar) : Reading (List Node) := do
  expectMark "["
  discard anyName
  expectMark ":"
  let key ← g.type
  expectMark "]"
  let type ← g.ascription
  return key ++ type

/-- A member of an object type or interface. -/
def typeMember (g : Grammar) : Reading (List Node) := do
  let parts ← do
    if (← atMark "(") || (← atMark "<") then signature g
    else
      let (next, _) ← peek
      if (← atKeyword "new") && (next.isMark "(" || next.isMark "<") then
        advance
        signature g
      else
        if (← atKeyword "readonly") && (← beforeModified) then advance
        if ← startsIndexSignature then indexSignature g
        else
          if ((← atKeyword "get") || (← atKeyword "set")) && (← beforeModified) then advance
          let (key, computed) ← g.key
          discard <| eatMark "?"
          let type ← if (← atMark "(") || (← atMark "<") then signature g else g.ascription
          pure ((if computed then [key] else []) ++ type)
  memberEnd
  return parts

/-- The members of an object type or interface in braces. -/
def typeMembers (g : Grammar) : Reading (List Node) := do
  expectMark "\x7b"
  let members ← enclosed <| repeated do
    if ← atMark "\x7d" then return none
    let parts ← typeMember g
    return some parts
  expectMark "\x7d"
  return members.flatten

/-- Whether a brace begins a mapped type. -/
def startsMappedType : Reading Bool := do
  let found ← ahead do
    expectMark "\x7b"
    if ← eatMark "+" <||> eatMark "-" then atKeyword "readonly"
    else
      let (next, _) ← peek
      if (← atKeyword "readonly") && next.isMark "[" then advance
      expectMark "["
      discard name
      atKeyword "in"
  return found.getD false

def mappedType (g : Grammar) : Reading (List Node) := do
  expectMark "\x7b"
  discard <| eatMark "+" <||> eatMark "-"
  discard <| eatKeyword "readonly"
  expectMark "["
  discard name
  expectKeyword "in"
  let domain ← enclosed g.type
  let renamed ← if ← eatKeyword "as" then enclosed g.type else pure []
  expectMark "]"
  discard <| eatMark "+" <||> eatMark "-"
  discard <| eatMark "?"
  let type ← g.ascription
  discard <| eatMark ";"
  expectMark "\x7d"
  return domain ++ renamed ++ type

/-- An element of a tuple type, which may be named, optional or a rest. -/
def tupleElement (g : Grammar) : Reading (List Node) := do
  discard <| eatMark "..."
  let named ← ahead do
    discard anyName
    discard <| eatMark "?"
    expectMark ":"
  if named.isSome then
    advance
    discard <| eatMark "?"
    advance
  let type ← g.type
  discard <| eatMark "?"
  return type

/-- The type of a module's contents, after its keyword. -/
def importType (g : Grammar) : Reading (List Node) := do
  expectMark "("
  let source ← enclosed g.type
  let options ← if ← eatMark "," then
      if ← atMark ")" then pure [] else
        let options ← g.value
        discard <| eatMark ","
        pure [options]
    else pure []
  expectMark ")"
  return source ++ options ++ (← typeReference g)

/-- The names of types that take no arguments: a bracket behind one of them compares, as in `x as number < 5`. -/
def plainTypes : List String :=
  ["any", "unknown", "number", "bigint", "string", "symbol", "boolean", "object", "undefined", "never"]

/-- A type without operators before or after it. -/
def primaryType (g : Grammar) : Reading (List Node) := do
  match ← token with
  | .mark "\x7b" => if ← startsMappedType then mappedType g else typeMembers g
  | .mark "[" =>
      advance
      let (elements, _) ← enclosed (commaSeparated "]" (tupleElement g))
      return elements.flatten
  | .mark "(" =>
      advance
      let type ← enclosed g.type
      expectMark ")"
      return type
  | .mark "-" =>
      advance
      match ← token with
      | .number _ | .bigint _ =>
          advance
          return []
      | _ => fail
  | .string _ | .number _ | .bigint _ =>
      advance
      return []
  | .template _ _ => return (← templateParts g.type).2.flatten
  | .word name escaped =>
      if !escaped && name == "typeof" then
        advance
        if ← eatKeyword "import" then importType g
        else
          discard anyName
          typeReference g
      else if !escaped && name == "import" then
        advance
        importType g
      else if !escaped && ["void", "null", "true", "false"].contains name then
        advance
        return []
      else if !escaped && name == "this" then
        advance
        if (← atKeyword "is") && !(← lineBefore) then
          advance
          g.type
        else return []
      else
        let (next, lineBefore) ← peek
        if !escaped && name == "asserts" && !lineBefore && (next.isIdentifier || next.isKeyword "this") then
          advance
          advance
          if ← eatKeyword "is" then g.type else return []
        else if !escaped && plainTypes.contains name && !next.isMark "." then
          advance
          return []
        else
          check (!Token.isReserved name || name == "const")
          advance
          typeReference g
  | _ => fail

/-- A type with what may follow it on its line: brackets, for an array or a property of the type. -/
def postfixType (g : Grammar) : Reading (List Node) := do
  let first ← primaryType g
  extended (fun soFar => do
    if ← lineBefore then return none
    else if ← eatMark "!" then return some soFar
    else if ← eatMark "[" then
      if ← eatMark "]" then return some soFar
      else
        let index ← enclosed g.type
        expectMark "]"
        return some (soFar ++ index)
    else return none) first

/-- A type with the words that may stand before it. -/
def prefixedType (g : Grammar) : Reading (List Node) := do
  discard <| repeated do
    if ["keyof", "unique", "readonly"].any (← token).isKeyword then
      advance
      return some ()
    else return none
  let (next, _) ← peek
  if (← atKeyword "infer") && next.isIdentifier then
    advance
    discard name
    let bound ← attempt do
      expectKeyword "extends"
      let type ← within (fun context => { context with allowsConditionalType := false }) g.type
      check (!(← context).allowsConditionalType || !(← atMark "?"))
      return type
    return bound.getD []
  else postfixType g

/-- Types joined by a mark, which may also stand before the first. -/
def joinedTypes (mark : String) (part : Reading (List Node)) : Reading (List Node) := do
  discard <| eatMark mark
  let first ← part
  extended (fun soFar => do
    if ← eatMark mark then return some (soFar ++ (← part)) else return none) first

def unionType (g : Grammar) : Reading (List Node) := joinedTypes "|" (joinedTypes "&" (do
  let (next, _) ← peek
  if (← atMark "<") || (← atKeyword "new") || ((← atMark "(") && (← startsParameters g)) ||
      ((← atKeyword "abstract") && next.isKeyword "new") then
    discard <| eatKeyword "abstract"
    discard <| eatKeyword "new"
    functionType g
  else prefixedType g))

/-- A type; after `extends` it goes on with the two results of the comparison. -/
def readType (g : Grammar) : Reading (List Node) := do
  let tested ← unionType g
  let mayGoOn := (← context).allowsConditionalType && !(← lineBefore)
  if ← pure mayGoOn <&&> eatKeyword "extends" then
    let bound ← within (fun context => { context with allowsConditionalType := false }) g.type
    expectMark "?"
    let positive ← g.type
    expectMark ":"
    let negative ← g.type
    return tested ++ bound ++ positive ++ negative
  else return tested

end EventMapLint.Grammar
