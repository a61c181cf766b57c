import EventMapLint.Grammar.Basic

/-! Patterns that bind names. -/

namespace EventMapLint.Grammar

open Source Source.Reading

/-- A pattern with a default value. -/
def bindingElement (g : Grammar) : Reading Node := do
  let start ← here
  if ← eatMark "..." then
    let target ← g.binding
    return .rest (← spanFrom start) [] target []
  else
    let target ← g.binding
    match ← g.initializer with
    | none => return target
    | some value => return .defaulted (← spanFrom start) target value

/-- A property of an object pattern. A name on its own is both key and target. -/
def bindingProperty (g : Grammar) : Reading Node := do
  let start ← here
  if ← eatMark "..." then
    let target ← identifier
    check (← atMark "\x7d")
    return .rest (← spanFrom start) [] target []
  else
    let isName := (← token).isIdentifier
    let (key, computed) ← g.key
    if ← eatMark ":" then
      let target ← bindingElement g
      return .property (← spanFrom start) .init computed false false key target
    else
      check isName
      match key with
      | .identifier span name =>
          check (!(← isTaken name))
          match ← g.initializer with
          | none => return .property (← spanFrom start) .init false false true key key
          | some value =>
              let target := Node.defaulted (← spanFrom start) (.identifier span name) value
              return .property (← spanFrom start) .init false false true key target
      | _ => fail

def readBinding (g : Grammar) : Reading Node := do
  let start ← here
  if ← eatMark "[" then
    let items ← enclosed (elements true (bindingElement g))
    return .arrayPattern (← spanFrom start) items
  else if ← eatMark "\x7b" then
    let (properties, _) ← enclosed (commaSeparated "\x7d" (bindingProperty g))
    return .objectPattern (← spanFrom start) properties
  else identifier

/-- The names that a pattern binds. -/
def boundNames : Node → List String
  | .identifier _ name => [name]
  | .arrayPattern _ items => many items
  | .objectPattern _ properties => many properties
  | .property _ _ _ _ _ _ value => boundNames value
  | .defaulted _ target _ => boundNames target
  | .rest _ _ target _ => boundNames target
  | _ => []
where
  many : List Node → List String
    | [] => []
    | node :: nodes => boundNames node ++ many nodes

end EventMapLint.Grammar
