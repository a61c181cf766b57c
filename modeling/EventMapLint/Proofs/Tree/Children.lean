import EventMapLint.Tree.Visit
import Mathlib.Data.List.Forall2

/-! The parts of a node in the order in which a walk meets them. Both the list of all calls and the walk itself
come down to one step: what the node is, and then its parts from left to right. -/

namespace EventMapLint

namespace Node

/-- The parts of a node in the order of the source. -/
def children : Node → List Node
  | .identifier _ _ | .literal _ _ | .this _ | .hole _ => []
  | .template _ _ substitutions => substitutions
  | .paren _ inner => [inner]
  | .member _ receiver _ _ | .privateMember _ receiver _ _ => [receiver]
  | .index _ receiver key _ => [receiver, key]
  | .call _ callee typeArguments arguments _ | .new _ callee typeArguments arguments =>
      callee :: (typeArguments ++ arguments)
  | .object _ properties | .objectPattern _ properties => properties
  | .property _ _ _ _ _ key value => [key, value]
  | .array _ elements | .arrayPattern _ elements => elements
  | .spread _ argument | .await _ argument => [argument]
  | .function _ _ typeParameters parameters last returnType body =>
      typeParameters ++ (parameters ++ (last.toList ++ (returnType ++ body)))
  | .parameter _ decorators pattern ascription value _ => decorators ++ pattern :: (ascription ++ value.toList)
  | .rest _ decorators pattern ascription => decorators ++ pattern :: ascription
  | .sequence _ expressions => expressions
  | .conditional _ test consequent alternate => [test, consequent, alternate]
  | .chain _ expression | .expressionStatement _ expression => [expression]
  | .typed _ before expression after => before ++ expression :: after
  | .assignment _ _ target value | .defaulted _ target value => [target, value]
  | .block _ body => body
  | .returnStatement _ argument => argument.toList
  | .ifStatement _ test consequent alternate => test :: consequent :: alternate.toList
  | .compound _ parts => parts

/-- The call that a node itself is. -/
def call? : Node → Option Call
  | .call span callee _ arguments _ => some ⟨span, callee, arguments⟩
  | _ => none

/-- Induction on the tree: a property that passes from the children of a node to the node holds of every node. -/
theorem children_induction {motive : Node → Prop}
    (step : ∀ node : Node, (∀ child ∈ node.children, motive child) → motive node) (node : Node) : motive node := by
  revert node
  -- The recursor speaks of lists and options of nodes as well; of those it is asked for the property of each member.
  apply @Node.rec motive (fun nodes => ∀ child ∈ nodes, motive child) (fun node => ∀ child ∈ node.toList, motive child)
  case nil | none => simp
  case cons =>
    intro head tail first rest child member
    rcases List.mem_cons.mp member with same | inTail
    · exact same.symm ▸ first
    · exact rest child inTail
  case some =>
    intro node found child member
    have same : child = node := by simpa using member
    exact same.symm ▸ found
  all_goals
    intros
    apply step
    clear step
    simp_all [children, or_imp]

theorem callsOfList_eq (nodes : List Node) : callsOfList nodes = nodes.flatMap calls := by
  induction nodes with
  | nil => rfl
  | cons node nodes ih => simp [callsOfList, ih]

theorem callsOfOption_eq (node : Option Node) : callsOfOption node = node.toList.flatMap calls := by
  cases node <;> simp [callsOfOption]

theorem visitList_eq (onCall : σ → Call → σ) (nodes : List Node) (state : σ) :
    visitList onCall nodes state = nodes.foldl (fun state node => node.visit onCall state) state := by
  induction nodes generalizing state with
  | nil => rfl
  | cons node nodes ih => simp [visitList, ih]

theorem visitOption_eq (onCall : σ → Call → σ) (node : Option Node) (state : σ) :
    visitOption onCall node state = node.toList.foldl (fun state node => node.visit onCall state) state := by
  cases node <;> simp [visitOption]

/-- The calls of a node are itself, if it is one, and then the calls of its children. -/
theorem calls_eq (node : Node) : node.calls = node.call?.toList ++ node.children.flatMap calls := by
  cases node <;> simp [calls, call?, children, callsOfList_eq, callsOfOption_eq]

theorem visit_eq (onCall : σ → Call → σ) (node : Node) (state : σ) :
    node.visit onCall state =
      node.children.foldl (fun state child => child.visit onCall state) (node.call?.toList.foldl onCall state) := by
  cases node <;> simp [visit, call?, children, visitList_eq, visitOption_eq]

theorem map_eq_map {f : Node → α} {nodes others : List Node}
    (same : List.Forall₂ (fun node other => f node = f other) nodes others) : nodes.map f = others.map f := by
  induction same with
  | nil => rfl
  | cons first _ ih => rw [List.map_cons, List.map_cons, first, ih]

theorem flatMap_eq_flatMap {f : Node → List α} {nodes others : List Node}
    (same : List.Forall₂ (fun node other => f node = f other) nodes others) : nodes.flatMap f = others.flatMap f := by
  rw [List.flatMap_def, List.flatMap_def, map_eq_map same]

theorem withoutParens_of_ne_paren {node : Node} (plain : ∀ extent inner, node ≠ .paren extent inner) :
    node.withoutParens = node := by
  cases node with
  | paren extent inner => exact absurd rfl (plain extent inner)
  | _ => rfl

/-- Parentheses are no calls. -/
theorem calls_withoutParens (node : Node) : node.withoutParens.calls = node.calls := by
  fun_induction withoutParens node with
  | case1 extent inner ih => exact ih
  | case2 => rfl

end Node

end EventMapLint
