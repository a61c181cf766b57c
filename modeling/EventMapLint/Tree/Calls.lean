import EventMapLint.Tree.Node

/-! All calls of a tree, each before the calls inside it and otherwise in the order of the source. -/

namespace EventMapLint

/-- A call expression as the rule reads it. -/
structure Call where
  span : Span
  callee : Node
  arguments : List Node
  deriving Repr

mutual

def Node.calls : Node → List Call
  | .identifier _ _ | .literal _ _ | .this _ | .hole _ => []
  | .template _ _ substitutions => Node.callsOfList substitutions
  | .paren _ inner => inner.calls
  | .member _ receiver _ _ => receiver.calls
  | .index _ receiver key _ => receiver.calls ++ key.calls
  | .privateMember _ receiver _ _ => receiver.calls
  | .call span callee typeArguments arguments _ =>
      ⟨span, callee, arguments⟩ ::
        (callee.calls ++ Node.callsOfList typeArguments ++ Node.callsOfList arguments)
  | .new _ callee typeArguments arguments =>
      callee.calls ++ Node.callsOfList typeArguments ++ Node.callsOfList arguments
  | .object _ properties => Node.callsOfList properties
  | .property _ _ _ _ _ key value => key.calls ++ value.calls
  | .array _ elements => Node.callsOfList elements
  | .spread _ argument => argument.calls
  | .function _ _ typeParameters parameters last returnType body =>
      Node.callsOfList typeParameters ++ Node.callsOfList parameters ++ Node.callsOfOption last ++
        Node.callsOfList returnType ++ Node.callsOfList body
  | .parameter _ decorators pattern ascription value _ =>
      Node.callsOfList decorators ++ pattern.calls ++ Node.callsOfList ascription ++ Node.callsOfOption value
  | .rest _ decorators pattern ascription =>
      Node.callsOfList decorators ++ pattern.calls ++ Node.callsOfList ascription
  | .sequence _ expressions => Node.callsOfList expressions
  | .conditional _ test consequent alternate => test.calls ++ consequent.calls ++ alternate.calls
  | .await _ argument => argument.calls
  | .chain _ expression => expression.calls
  | .typed _ before expression after => Node.callsOfList before ++ expression.calls ++ Node.callsOfList after
  | .assignment _ _ target value => target.calls ++ value.calls
  | .objectPattern _ properties => Node.callsOfList properties
  | .arrayPattern _ elements => Node.callsOfList elements
  | .defaulted _ target value => target.calls ++ value.calls
  | .expressionStatement _ expression => expression.calls
  | .block _ body => Node.callsOfList body
  | .returnStatement _ argument => Node.callsOfOption argument
  | .ifStatement _ test consequent alternate =>
      test.calls ++ consequent.calls ++ Node.callsOfOption alternate
  | .compound _ parts => Node.callsOfList parts

def Node.callsOfList : List Node → List Call
  | [] => []
  | node :: nodes => node.calls ++ Node.callsOfList nodes

def Node.callsOfOption : Option Node → List Call
  | none => []
  | some node => node.calls

end

def Program.calls (program : Program) : List Call := Node.callsOfList program.body

end EventMapLint
