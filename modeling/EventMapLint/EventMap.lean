import EventMapLint.Tree.Calls

/-! What an event map looks like: a call of the `events` property of a template whose first argument is an object
literal. Parentheses around the callee, the template, the object and a handler are looked through; parentheses
around the name `Template` itself or around the key of a computed member are not. -/

namespace EventMapLint

namespace Node

/-- The name that a computed key spells: a string, or a template literal without substitutions. -/
def keyName? : Node → Option String
  | .literal _ (.string value) => some value
  | .template _ quasis [] => quasis.head?.join
  | _ => none

/-- The property name of a member access, where it is known from the text. -/
def memberName? : Node → Option String
  | .member _ _ name _ => some name
  | .index _ _ key _ => key.keyName?
  | _ => none

def isMember : Node → Bool
  | .member .. | .index .. | .privateMember .. => true
  | _ => false

/-- Whether a node is the identifier that templates hang off. -/
def isTemplateGlobal : Node → Bool
  | .identifier _ name => name == "Template"
  | _ => false

/-- Whether a node is `Template.name` or `Template[key]`, whatever the key. -/
def isTemplate (node : Node) : Bool :=
  match node.withoutParens with
  | .member _ receiver _ _ | .index _ receiver _ _ => receiver.isTemplateGlobal
  | _ => false

/-- Whether a node is the property `name` of a template. -/
def isTemplateProperty (node : Node) (name : String) : Bool :=
  match node.withoutParens with
  | .member _ receiver found _ => found == name && receiver.isTemplate
  | .index _ receiver key _ => key.keyName? == some name && receiver.isTemplate
  | _ => false

/-- The parameters of a function or arrow, and its rest element. -/
def parameters? : Node → Option (List Node × Option Node)
  | .function _ _ _ parameters last _ _ => some (parameters, last)
  | _ => none

def isFunction (node : Node) : Bool := node.parameters?.isSome

end Node

/-- A positional parameter of a handler. It has a name if it is a plain identifier without a default value. -/
structure HandlerParameter where
  span : Span
  name? : Option String
  deriving DecidableEq, Repr

def HandlerParameter.ofNode : Node → HandlerParameter
  | .parameter span _ (.identifier _ name) _ none _ => ⟨span, some name⟩
  | node => ⟨node.span, none⟩

/-- The first `count` positional parameters. A rest element stands in the position after the last parameter. -/
def leadingParameters (parameters : List Node) (rest : Option Node) (count : Nat) : List HandlerParameter :=
  let leading := (parameters.take count).map HandlerParameter.ofNode
  if leading.length < count then leading ++ rest.toList.map fun node => ⟨node.span, none⟩ else leading

/-- The properties of the event map that a call declares, if it declares one. -/
def Call.eventMap? (call : Call) : Option (List Node) :=
  match call.arguments with
  | [] => none
  | first :: _ =>
      if call.callee.isTemplateProperty "events" then
        match first.withoutParens with
        | .object _ properties => some properties
        | _ => none
      else none

end EventMapLint
