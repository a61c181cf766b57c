import EventMapLint.Proofs.Tree.Children

/-! Putting other children in the place of a node's own. -/

namespace EventMapLint

namespace Node

/-- The node with these children, of which there are to be as many as it has. What else the node says stays. -/
def withChildren : Node → List Node → Node
  | .identifier extent name, _ => .identifier extent name
  | .literal extent value, _ => .literal extent value
  | .this extent, _ => .this extent
  | .template extent quasis _, parts => .template extent quasis parts
  | .paren extent inner, parts => .paren extent (parts.headD inner)
  | .member extent receiver name marked, parts => .member extent (parts.headD receiver) name marked
  | .index extent receiver key marked, parts =>
      .index extent (parts.headD receiver) (parts.tail.headD key) marked
  | .privateMember extent receiver field marked, parts => .privateMember extent (parts.headD receiver) field marked
  | .call extent callee typeArguments _ marked, parts =>
      .call extent (parts.headD callee) (parts.tail.take typeArguments.length) (parts.tail.drop typeArguments.length)
        marked
  | .new extent callee typeArguments _, parts =>
      .new extent (parts.headD callee) (parts.tail.take typeArguments.length) (parts.tail.drop typeArguments.length)
  | .object extent _, parts => .object extent parts
  | .property extent kind computed method shorthand key value, parts =>
      .property extent kind computed method shorthand (parts.headD key) (parts.tail.headD value)
  | .array extent _, parts => .array extent parts
  | .hole extent, _ => .hole extent
  | .spread extent argument, parts => .spread extent (parts.headD argument)
  | .function extent form typeParameters parameters last returnType _, parts =>
      let items := parts.drop typeParameters.length
      let behind := items.drop parameters.length
      let result := behind.drop last.toList.length
      .function extent form (parts.take typeParameters.length) (items.take parameters.length)
        (behind.take last.toList.length).head? (result.take returnType.length) (result.drop returnType.length)
  | .parameter extent decorators pattern ascription _ marked, parts =>
      let bound := parts.drop decorators.length
      .parameter extent (parts.take decorators.length) (bound.headD pattern) (bound.tail.take ascription.length)
        (bound.tail.drop ascription.length).head? marked
  | .rest extent decorators pattern _, parts =>
      let bound := parts.drop decorators.length
      .rest extent (parts.take decorators.length) (bound.headD pattern) bound.tail
  | .sequence extent _, parts => .sequence extent parts
  | .conditional extent test consequent alternate, parts =>
      .conditional extent (parts.headD test) (parts.tail.headD consequent) (parts.tail.tail.headD alternate)
  | .await extent argument, parts => .await extent (parts.headD argument)
  | .chain extent expression, parts => .chain extent (parts.headD expression)
  | .typed extent before expression _, parts =>
      let inner := parts.drop before.length
      .typed extent (parts.take before.length) (inner.headD expression) inner.tail
  | .assignment extent operator target value, parts =>
      .assignment extent operator (parts.headD target) (parts.tail.headD value)
  | .objectPattern extent _, parts => .objectPattern extent parts
  | .arrayPattern extent _, parts => .arrayPattern extent parts
  | .defaulted extent target value, parts => .defaulted extent (parts.headD target) (parts.tail.headD value)
  | .expressionStatement extent expression, parts => .expressionStatement extent (parts.headD expression)
  | .block extent _, parts => .block extent parts
  | .returnStatement extent _, parts => .returnStatement extent parts.head?
  | .ifStatement extent test consequent _, parts =>
      .ifStatement extent (parts.headD test) (parts.tail.headD consequent) parts.tail.tail.head?
  | .compound extent _, parts => .compound extent parts

private theorem toList_head? {nodes : List Node} (few : nodes.length ≤ 1) : nodes.head?.toList = nodes := by
  match nodes with
  | [] | [_] => rfl
  | _ :: _ :: _ => simp at few

private theorem length_toList_le (node : Option Node) : node.toList.length ≤ 1 := by
  cases node <;> simp

private theorem headD_cons_tail {nodes : List Node} (some : 0 < nodes.length) (other : Node) :
    nodes.headD other :: nodes.tail = nodes := by
  cases nodes with
  | nil => simp at some
  | cons => rfl

private theorem headD_drop_cons_tail {nodes : List Node} (more : count < nodes.length) (other : Node) :
    (nodes.drop count).headD other :: (nodes.drop count).tail = nodes.drop count :=
  headD_cons_tail (by rw [List.length_drop]; omega) other

/-- The new children are the children of the new node. -/
theorem children_withChildren {node : Node} {parts : List Node} (same : parts.length = node.children.length) :
    (node.withChildren parts).children = parts := by
  cases node with
  | identifier | literal | this | hole => exact (List.eq_nil_of_length_eq_zero same).symm
  | template | object | array | sequence | objectPattern | arrayPattern | block | compound => rfl
  | paren | member | privateMember | spread | await | chain | expressionStatement =>
    match parts, same with
    | [_], _ => rfl
  | index | property | assignment | defaulted =>
    match parts, same with
    | [_, _], _ => rfl
  | conditional =>
    match parts, same with
    | [_, _, _], _ => rfl
  | ifStatement extent test consequent alternate =>
    match parts, same with
    | first :: second :: others, same =>
      have few : others.length = alternate.toList.length := by simpa [children] using same
      have single := few ▸ length_toList_le alternate
      simp only [withChildren, children, List.headD_cons, List.tail_cons, toList_head? single]
  | call | new =>
    have some : 0 < parts.length := by simp [same, children]
    simp only [withChildren, children, List.take_append_drop, headD_cons_tail some]
  | function extent form typeParameters parameters last returnType body =>
    have few := Nat.le_trans (List.length_take_le last.toList.length
      ((parts.drop typeParameters.length).drop parameters.length)) (length_toList_le last)
    simp only [withChildren, children, toList_head? few, List.take_append_drop]
  | parameter extent decorators pattern ascription value marked =>
    simp only [children, List.length_append, List.length_cons] at same
    have more : decorators.length < parts.length := by omega
    have single := length_toList_le value
    have few : ((parts.drop decorators.length).tail.drop ascription.length).length ≤ 1 := by
      simp only [List.length_drop, List.length_tail]
      omega
    simp only [withChildren, children, toList_head? few, List.take_append_drop, headD_drop_cons_tail more]
  | rest extent decorators | typed extent decorators =>
    simp only [children, List.length_append, List.length_cons] at same
    have more : decorators.length < parts.length := by omega
    simp only [withChildren, children, headD_drop_cons_tail more, List.take_append_drop]
  | returnStatement extent argument =>
    have few : parts.length ≤ 1 := same ▸ length_toList_le argument
    exact toList_head? few

/-- The node with another child in the place of one of its own. -/
def exchange (node : Node) (step : Fin node.children.length) (child : Node) : Node :=
  node.withChildren (node.children.take step ++ child :: node.children.drop (step + 1))

theorem children_exchange (node : Node) (step : Fin node.children.length) (child : Node) :
    (node.exchange step child).children = node.children.take step ++ child :: node.children.drop (step + 1) := by
  have inside := step.isLt
  apply children_withChildren
  simp only [List.length_append, List.length_take, List.length_cons, List.length_drop]
  omega

end Node

end EventMapLint
