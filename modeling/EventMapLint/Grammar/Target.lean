import EventMapLint.Grammar.Basic

/-! What can be assigned to. An array or object literal is read before it is known whether it will turn out to be a
pattern; then it is turned into one, if every part of it fits. -/

namespace EventMapLint

open Source Source.Reading

/-- Whether an expression can be assigned to as a whole. -/
def Node.isSimpleTarget : Node → Bool
  | .identifier .. | .member .. | .index .. | .privateMember .. => true
  | .paren _ inner => inner.isSimpleTarget
  | .typed _ _ expression _ => expression.isSimpleTarget
  | _ => false

mutual

/-- The pattern that an expression can be read as. -/
def Node.toTarget? : Node → Option Node
  | .array span elements => (Node.elementTargets? elements).map (.arrayPattern span)
  | .object span properties => (Node.propertyTargets? properties).map (.objectPattern span)
  | node => if node.isSimpleTarget then some node else none

def Node.elementTargets? : List Node → Option (List Node)
  | [] => some []
  | [.spread span argument] => do return [.rest span [] (← argument.toTarget?) []]
  | .hole span :: others => do return .hole span :: (← Node.elementTargets? others)
  | .assignment span "=" target value :: others => do
      return .defaulted span target value :: (← Node.elementTargets? others)
  | element :: others => do return (← element.toTarget?) :: (← Node.elementTargets? others)

def Node.propertyTargets? : List Node → Option (List Node)
  | [] => some []
  | [.spread span argument] => if argument.isSimpleTarget then some [.rest span [] argument []] else none
  | .property span .init computed false true key value :: others => do
      return .property span .init computed false true key value :: (← Node.propertyTargets? others)
  | .property span .init computed false false key (.assignment whole "=" target value) :: others => do
      return .property span .init computed false false key (.defaulted whole target value) ::
        (← Node.propertyTargets? others)
  | .property span .init computed false false key value :: others => do
      return .property span .init computed false false key (← value.toTarget?) ::
        (← Node.propertyTargets? others)
  | _ => none

end

mutual

/-- Whether a pattern binds names only. -/
def Node.isBinding : Node → Bool
  | .identifier .. | .hole _ => true
  | .arrayPattern _ elements => Node.areBindings elements
  | .objectPattern _ properties => Node.areBindings properties
  | .property _ _ _ _ _ _ value => value.isBinding
  | .defaulted _ target _ => target.isBinding
  | .rest _ _ target _ => target.isBinding
  | _ => false

def Node.areBindings : List Node → Bool
  | [] => true
  | node :: nodes => node.isBinding && Node.areBindings nodes

end

mutual

/-- The offsets of the shorthand properties with a value in a pattern. -/
def Node.coverOffsets : Node → List Nat
  | .arrayPattern _ elements => Node.coverOffsetsOfList elements
  | .objectPattern _ properties => Node.coverOffsetsOfList properties
  | .property span _ _ _ true _ (.defaulted ..) => [span.start]
  | .property _ _ _ _ _ _ value => value.coverOffsets
  | .defaulted _ target _ => target.coverOffsets
  | .rest _ _ target _ => target.coverOffsets
  | _ => []

def Node.coverOffsetsOfList : List Node → List Nat
  | [] => []
  | node :: nodes => node.coverOffsets ++ Node.coverOffsetsOfList nodes

end

mutual

/-- The offsets of the rest elements in a pattern. -/
def Node.restOffsets : Node → List Nat
  | .arrayPattern _ elements => Node.restOffsetsOfList elements
  | .objectPattern _ properties => Node.restOffsetsOfList properties
  | .property _ _ _ _ _ _ value => value.restOffsets
  | .defaulted _ target _ => target.restOffsets
  | .rest span _ target _ => span.start :: target.restOffsets
  | _ => []

def Node.restOffsetsOfList : List Node → List Nat
  | [] => []
  | node :: nodes => node.restOffsets ++ Node.restOffsetsOfList nodes

end

namespace Grammar

/-- Accepts a pattern: the values of its shorthand properties are now in order. -/
def settle (target : Node) : Reading Unit := do
  let state ← get
  check (target.restOffsets.all fun offset => !state.innerSpreads.contains offset)
  let settled := target.coverOffsets
  set { state with coverDefaults := state.coverDefaults.filter fun offset => !settled.contains offset }

/-- Takes an expression as what is assigned to, or as a pattern where one is allowed. -/
def asTarget (node : Node) : Reading Node := do
  match node.toTarget? with
  | none => fail
  | some target =>
      settle target
      return target

/-- Takes an expression as the parameter of an arrow function. -/
def asParameter (node : Node) : Reading Node := do
  let (target, value) ← (match node with
    | .assignment _ "=" target value => pure (target, some value)
    | node => do return (← asTarget node, none))
  check target.isBinding
  return .parameter node.span [] target [] value false

end Grammar

end EventMapLint
