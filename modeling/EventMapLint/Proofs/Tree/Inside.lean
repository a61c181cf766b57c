import EventMapLint.Proofs.Tree.Children

/-! Nodes inside other nodes, at any depth. -/

namespace EventMapLint

namespace Node

/-- A node is inside itself and inside whatever one of the nodes around it is a child of. -/
inductive Inside (inner : Node) : Node → Prop
  | self : Inside inner inner
  | child (member : child ∈ node.children) (deeper : Inside inner child) : Inside inner node

theorem Inside.trans {inner middle outer : Node} (first : inner.Inside middle) (second : middle.Inside outer) :
    inner.Inside outer := by
  induction second with
  | self => exact first
  | child member _ ih => exact .child member ih

theorem inside_of_mem {child node : Node} (member : child ∈ node.children) : child.Inside node := .child member .self

theorem inside_withoutParens (node : Node) : node.withoutParens.Inside node := by
  fun_induction withoutParens node with
  | case1 extent inner ih => exact .child List.mem_cons_self ih
  | case2 => exact .self

/-- The calls of a node are the calls that stand inside it. -/
theorem mem_calls {node : Node} {call : Call} :
    call ∈ node.calls ↔ ∃ place, Inside place node ∧ place.call? = some call := by
  constructor
  · intro member
    induction node using children_induction with
    | step node ih =>
      rw [calls_eq, List.mem_append, Option.mem_toList, List.mem_flatMap] at member
      rcases member with here | ⟨child, present, below⟩
      · exact ⟨node, .self, here⟩
      · obtain ⟨place, deeper, standing⟩ := ih child present below
        exact ⟨place, .child present deeper, standing⟩
  · rintro ⟨place, inside, standing⟩
    induction inside with
    | self => simp [calls_eq place, standing]
    | child present _ ih =>
      rw [calls_eq, List.mem_append, List.mem_flatMap]
      exact .inr ⟨_, present, ih⟩

/-- Something holds of a node and of every node inside it. -/
def Everywhere (holds : Node → Prop) (node : Node) : Prop := ∀ inner, Inside inner node → holds inner

theorem everywhere_iff {holds : Node → Prop} {node : Node} :
    Everywhere holds node ↔ holds node ∧ ∀ child ∈ node.children, Everywhere holds child := by
  constructor
  · intro every
    exact ⟨every node .self, fun child member inner deeper => every inner (.child member deeper)⟩
  · rintro ⟨here, below⟩ inner inside
    cases inside with
    | self => exact here
    | child member deeper => exact below _ member inner deeper

theorem Everywhere.inside {holds : Node → Prop} {node inner : Node} (every : Everywhere holds node)
    (deeper : inner.Inside node) : Everywhere holds inner :=
  fun _ deepest => every _ (deepest.trans deeper)

end Node

end EventMapLint
