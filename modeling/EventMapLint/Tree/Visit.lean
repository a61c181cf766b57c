import EventMapLint.Tree.Calls

/-! Walking through a tree with a state. The walk meets every call, an outer call before the calls inside it. -/

namespace EventMapLint

mutual

/-- Hands the calls inside a node to `onCall` one after the other, each with the state that the one before left. -/
def Node.visit (onCall : σ → Call → σ) : Node → σ → σ
  | .identifier _ _, state | .literal _ _, state | .this _, state | .hole _, state => state
  | .template _ _ substitutions, state => state |> Node.visitList onCall substitutions
  | .paren _ inner, state => state |> inner.visit onCall
  | .member _ receiver _ _, state => state |> receiver.visit onCall
  | .index _ receiver key _, state => state |> receiver.visit onCall |> key.visit onCall
  | .privateMember _ receiver _ _, state => state |> receiver.visit onCall
  | .call span callee typeArguments arguments _, state =>
      onCall state ⟨span, callee, arguments⟩ |> callee.visit onCall |> Node.visitList onCall typeArguments
        |> Node.visitList onCall arguments
  | .new _ callee typeArguments arguments, state =>
      state |> callee.visit onCall |> Node.visitList onCall typeArguments |> Node.visitList onCall arguments
  | .object _ properties, state => state |> Node.visitList onCall properties
  | .property _ _ _ _ _ key value, state => state |> key.visit onCall |> value.visit onCall
  | .array _ elements, state => state |> Node.visitList onCall elements
  | .spread _ argument, state => state |> argument.visit onCall
  | .function _ _ typeParameters parameters last returnType body, state =>
      state |> Node.visitList onCall typeParameters |> Node.visitList onCall parameters
        |> Node.visitOption onCall last |> Node.visitList onCall returnType |> Node.visitList onCall body
  | .parameter _ decorators pattern ascription value _, state =>
      state |> Node.visitList onCall decorators |> pattern.visit onCall |> Node.visitList onCall ascription
        |> Node.visitOption onCall value
  | .rest _ decorators pattern ascription, state =>
      state |> Node.visitList onCall decorators |> pattern.visit onCall |> Node.visitList onCall ascription
  | .sequence _ expressions, state => state |> Node.visitList onCall expressions
  | .conditional _ test consequent alternate, state =>
      state |> test.visit onCall |> consequent.visit onCall |> alternate.visit onCall
  | .await _ argument, state => state |> argument.visit onCall
  | .chain _ expression, state => state |> expression.visit onCall
  | .typed _ before expression after, state =>
      state |> Node.visitList onCall before |> expression.visit onCall |> Node.visitList onCall after
  | .assignment _ _ target value, state => state |> target.visit onCall |> value.visit onCall
  | .objectPattern _ properties, state => state |> Node.visitList onCall properties
  | .arrayPattern _ elements, state => state |> Node.visitList onCall elements
  | .defaulted _ target value, state => state |> target.visit onCall |> value.visit onCall
  | .expressionStatement _ expression, state => state |> expression.visit onCall
  | .block _ body, state => state |> Node.visitList onCall body
  | .returnStatement _ argument, state => state |> Node.visitOption onCall argument
  | .ifStatement _ test consequent alternate, state =>
      state |> test.visit onCall |> consequent.visit onCall |> Node.visitOption onCall alternate
  | .compound _ parts, state => state |> Node.visitList onCall parts

def Node.visitList (onCall : σ → Call → σ) : List Node → σ → σ
  | [], state => state
  | node :: nodes, state => state |> node.visit onCall |> Node.visitList onCall nodes

def Node.visitOption (onCall : σ → Call → σ) : Option Node → σ → σ
  | none, state => state
  | some node, state => state |> node.visit onCall

end

def Program.visit (onCall : σ → Call → σ) (program : Program) (state : σ) : σ :=
  Node.visitList onCall program.body state

end EventMapLint
