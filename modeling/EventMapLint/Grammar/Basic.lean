import EventMapLint.Source.Reading

/-! The rules of the grammar call each other in circles. The circles are cut here: a rule gets the readings that
lie behind it on a circle as the fields of a record, and the record is closed up to a given depth at the end. -/

namespace EventMapLint

open Source

/-- The operators that must not be mixed without parentheses. -/
inductive Mix
  | other
  | logical
  | coalescing
  deriving DecidableEq, Repr

structure Grammar where
  /-- Expressions separated by commas. -/
  expression : Reading Node
  /-- One expression without a comma; `branch` if it stands between `?` and `:`. -/
  assignment : (branch : Bool) → Reading Node
  unary : Reading Node
  /-- Operands joined by operators that bind more tightly than `precedence`. -/
  operand : (precedence : Nat) → Reading (Node × Mix)
  /-- An expression that can be called or assigned to. -/
  leftHand : Reading Node
  /-- The same without calls. -/
  constructor : Reading Node
  binding : Reading Node
  /-- A type, by the expressions inside it. -/
  type : Reading (List Node)
  /-- A statement or declaration; `alone` if it is the body of another statement. -/
  statement : (alone : Bool) → Reading Node
  /-- An element of markup up to the bracket that ends it, which is not passed. -/
  element : Reading Node

namespace Grammar

/-- The grammar that fits nothing. -/
def empty : Grammar where
  expression := Reading.fail
  assignment _ := Reading.fail
  unary := Reading.fail
  operand _ := Reading.fail
  leftHand := Reading.fail
  constructor := Reading.fail
  binding := Reading.fail
  type := Reading.fail
  statement _ := Reading.fail
  element := Reading.fail

open Reading

/-- Reads something inside brackets, where the restrictions of the surroundings end. -/
def enclosed {α : Type} (reading : Reading α) : Reading α :=
  within (fun context => { context with allowsIn := true, inDecorator := false, allowsConditionalType := true })
    reading

/-- A construct that is known by its parts only, from an offset on. -/
def compound (start : Nat) (parts : Reading (List Node)) : Reading Node := do
  let parts ← parts
  return .compound (← spanFrom start) parts

/-- An expression without a comma, with all operators. -/
def value (g : Grammar) : Reading Node := enclosed (g.assignment false)

/-- The key of a property or member, and whether it is computed. -/
def key (g : Grammar) : Reading (Node × Bool) := do
  let start ← here
  match ← token with
  | .word name _ =>
      advance
      return (.identifier (← spanFrom start) name, false)
  | .string value =>
      advance
      return (.literal (← spanFrom start) (.string value), false)
  | .number text =>
      advance
      return (.literal (← spanFrom start) (.number text), false)
  | .bigint text =>
      advance
      return (.literal (← spanFrom start) (.bigint text), false)
  | _ =>
      expectMark "["
      let key ← g.value
      expectMark "]"
      return (key, true)

/-- A type after a colon, where types are written. -/
def ascription (g : Grammar) : Reading (List Node) := do
  if ← isTyped <&&> eatMark ":" then enclosed g.type else return []

/-- A value after an equals sign. -/
def initializer (g : Grammar) : Reading (Option Node) := do
  if ← eatMark "=" then return some (← g.value) else return none

def decorators (g : Grammar) : Reading (List Node) := repeated do
  if ← eatMark "@" then
    return some (← within (fun context => { context with inDecorator := true }) g.leftHand)
  else return none

/-- Elements up to a closing bracket, any of which may be missing. A spread element must be last if `restLast`. -/
def elements (restLast : Bool) (element : Reading Node) : Reading (List Node) := do
  let items ← repeated do
    let start ← here
    if ← atMark "]" then return none
    else if ← eatMark "," then return some (.hole ⟨start, start⟩)
    else
      let isSpread ← atMark "..."
      let node ← element
      if ← atMark "," then
        check (!(restLast && isSpread))
        if isSpread then
          modify fun state => { state with innerSpreads := start :: state.innerSpreads }
        advance
      else check (← atMark "]")
      return some node
  expectMark "]"
  return items

end Grammar

end EventMapLint
