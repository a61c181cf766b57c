import EventMapLint.Grammar.Function
import EventMapLint.Text.Bytes

/-! Elements of markup inside expressions. Text, names and strings in them follow rules of their own, so they are
read from the characters after the current token and not from tokens. -/

namespace EventMapLint.Grammar

open Source Source.Reading

/-- A name in markup goes on where a hyphen would end any other name. -/
def markupNameText : List Char → List Char
  | c :: cs => if Text.isIdentifierPart c || c == '-' then c :: markupNameText cs else []
  | [] => []

/-- One name, which may be a keyword. -/
def markupName : Reading String := do
  let state ← get
  match state.token with
  | .word _ false =>
      let text := markupNameText state.text
      let bytes := Text.byteSize text
      set (state.reread (.word (String.ofList text) false) bytes (state.text.drop text.length))
      advance
      return String.ofList text
  | _ => fail

/-- The name of an element: a name, two names with a colon, or names with points, which hold no hyphens. -/
def elementName : Reading (List String) := do
  let first ← markupName
  if ← eatMark ":" then return [first, ":", ← markupName]
  else
    let others ← repeated do
      if ← eatMark "." then return some (← markupName) else return none
    check (others.isEmpty || (first :: others).all fun name => !name.contains '-')
    return first :: others.flatMap fun name => [".", name]

/-- The text up to the next brace or tag. A brace or bracket that closes nothing cannot stand in it. -/
def skipText : (bytes : Nat) → List Char → Option (Nat × List Char)
  | bytes, c :: cs =>
      if c == '\x7b' || c == '<' then some (bytes, c :: cs)
      else if c == '\x7d' || c == '>' then none
      else skipText (bytes + c.utf8Size) cs
  | _, [] => none

/-- Goes from the mark that ends a tag or a substitution to the next brace or tag. -/
def advanceText : Reading Unit := do
  let state ← get
  match skipText 0 state.rest with
  | some (bytes, c :: rest) =>
      let start := state.stop + bytes
      set { state with
        token := .mark c.toString, start, stop := start + 1, lineBefore := false, text := c :: rest, rest
        last := state.stop }
  | _ => fail

/-- The bytes of a string in markup up to its closing quote. It has no escapes. -/
def skipString (quote : Char) : (bytes : Nat) → List Char → Option (Nat × List Char)
  | bytes, c :: cs => if c == quote then some (bytes + c.utf8Size, cs) else skipString quote (bytes + c.utf8Size) cs
  | _, [] => none

/-- Goes from an equals sign to the value of an attribute, and tells whether it is a string. -/
def advanceAttribute : Reading Bool := do
  let context ← context
  let state ← get
  match Scan.skipGap .open false 0 state.rest with
  | some (_, gap, c :: rest) =>
      if c == '"' || c == '\'' then
        match skipString c 1 rest with
        | some (bytes, after) =>
            let start := state.stop + gap
            set { state with
              token := .string "", start, stop := start + bytes, text := c :: rest, rest := after
              last := state.stop }
            return true
        | none => fail
      else
        set (state.next context.size)
        return false
  | _ => fail

/-- The expression in a pair of braces, before the closing one. It has no comma outside brackets. -/
def embedded (g : Grammar) : Reading Node := do
  let node ← within (fun context =>
    { context with allowsIn := true, inDecorator := false, inGenerator := false }) g.expression
  match node with
  | .sequence .. => fail
  | node => return node

/-- An attribute, by the nodes of its value. -/
def elementAttribute (g : Grammar) : Reading (List Node) := do
  if ← eatMark "\x7b" then
    expectMark "..."
    let argument ← g.value
    expectMark "\x7d"
    return [argument]
  else
    discard markupName
    if ← eatMark ":" then discard markupName
    if ← atMark "=" then
      if ← advanceAttribute then
        advance
        return []
      else if ← eatMark "\x7b" then
        let node ← embedded g
        expectMark "\x7d"
        return [node]
      else
        check (← atMark "<")
        let node ← g.element
        advance
        return [node]
    else return []

/-- A child in braces up to its closing brace. It may be empty or a spread. -/
def embeddedChild (g : Grammar) : Reading (List Node) := do
  expectMark "\x7b"
  if ← atMark "\x7d" then return []
  else if ← eatMark "..." then
    let node ← g.value
    check (← atMark "\x7d")
    return [node]
  else
    let node ← embedded g
    check (← atMark "\x7d")
    return [node]

/-- An element up to the bracket that ends it, which is not passed. -/
def readElement (g : Grammar) : Reading Node := do
  let start ← here
  expectMark "<"
  let isFragment ← atMark ">"
  let name ← if isFragment then pure [] else elementName
  let generics ← if isFragment then pure [] else typeArgumentsIfAny g
  let attributes ← if isFragment then pure [] else repeated do
    if (← atMark ">") || (← atMark "/") then return none else return some (← elementAttribute g)
  if ← eatMark "/" then
    check (← atMark ">")
    return .compound ⟨start, (← get).stop⟩ (generics ++ attributes.flatten)
  else
    check (← atMark ">")
    let children ← repeated do
      advanceText
      if ← atMark "\x7b" then return some (← embeddedChild g)
      else
        let (next, _) ← peek
        if next.isMark "/" then return none else return some [← g.element]
    expectMark "<"
    expectMark "/"
    let closing ← if ← atMark ">" then pure [] else elementName
    check (closing == name)
    check (← atMark ">")
    return .compound ⟨start, (← get).stop⟩ (generics ++ attributes.flatten ++ children.flatten)

end EventMapLint.Grammar
