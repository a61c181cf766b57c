import EventMapLint.Proofs.Repair.Amend
import EventMapLint.Proofs.Run

/-! Doing what the help says everywhere in a program. Which calls declare an event map does not change by it, so the
event maps that were amended are the ones that are looked at afterwards. -/

namespace EventMapLint

mutual

/-- Amends every event map of a tree, the ones inside a handler before the one that it belongs to. -/
def Node.repair (names : Names) : Node → Node
  | .identifier extent name => .identifier extent name
  | .literal extent value => .literal extent value
  | .this extent => .this extent
  | .template extent quasis substitutions => .template extent quasis (Node.repairList names substitutions)
  | .paren extent inner => .paren extent (inner.repair names)
  | .member extent receiver name marked => .member extent (receiver.repair names) name marked
  | .index extent receiver key marked => .index extent (receiver.repair names) (key.repair names) marked
  | .privateMember extent receiver field marked => .privateMember extent (receiver.repair names) field marked
  | .call extent callee typeArguments arguments marked =>
      .call extent (callee.repair names) (Node.repairList names typeArguments)
        (names.amendArguments callee (Node.repairList names arguments)) marked
  | .new extent callee typeArguments arguments =>
      .new extent (callee.repair names) (Node.repairList names typeArguments) (Node.repairList names arguments)
  | .object extent properties => .object extent (Node.repairList names properties)
  | .property extent kind computed method shorthand key value =>
      .property extent kind computed method shorthand (key.repair names) (value.repair names)
  | .array extent elements => .array extent (Node.repairList names elements)
  | .hole extent => .hole extent
  | .spread extent argument => .spread extent (argument.repair names)
  | .function extent form typeParameters parameters last returnType body =>
      .function extent form (Node.repairList names typeParameters) (Node.repairList names parameters)
        (Node.repairOption names last) (Node.repairList names returnType) (Node.repairList names body)
  | .parameter extent decorators pattern ascription value marked =>
      .parameter extent (Node.repairList names decorators) (pattern.repair names) (Node.repairList names ascription)
        (Node.repairOption names value) marked
  | .rest extent decorators pattern ascription =>
      .rest extent (Node.repairList names decorators) (pattern.repair names) (Node.repairList names ascription)
  | .sequence extent expressions => .sequence extent (Node.repairList names expressions)
  | .conditional extent test consequent alternate =>
      .conditional extent (test.repair names) (consequent.repair names) (alternate.repair names)
  | .await extent argument => .await extent (argument.repair names)
  | .chain extent expression => .chain extent (expression.repair names)
  | .typed extent before expression after =>
      .typed extent (Node.repairList names before) (expression.repair names) (Node.repairList names after)
  | .assignment extent operator target value => .assignment extent operator (target.repair names) (value.repair names)
  | .objectPattern extent properties => .objectPattern extent (Node.repairList names properties)
  | .arrayPattern extent elements => .arrayPattern extent (Node.repairList names elements)
  | .defaulted extent target value => .defaulted extent (target.repair names) (value.repair names)
  | .expressionStatement extent expression => .expressionStatement extent (expression.repair names)
  | .block extent body => .block extent (Node.repairList names body)
  | .returnStatement extent argument => .returnStatement extent (Node.repairOption names argument)
  | .ifStatement extent test consequent alternate =>
      .ifStatement extent (test.repair names) (consequent.repair names) (Node.repairOption names alternate)
  | .compound extent parts => .compound extent (Node.repairList names parts)

def Node.repairList (names : Names) : List Node → List Node
  | [] => []
  | node :: nodes => node.repair names :: Node.repairList names nodes

def Node.repairOption (names : Names) : Option Node → Option Node
  | none => none
  | some node => some (node.repair names)

end

def Program.repair (names : Names) (program : Program) : Program := ⟨Node.repairList names program.body⟩

namespace Node

theorem repairList_eq_map (names : Names) (nodes : List Node) : repairList names nodes = nodes.map (repair names) := by
  induction nodes with
  | nil => rfl
  | cons node nodes ih => simp [repairList, ih]

theorem repairOption_eq_map (names : Names) (node : Option Node) :
    repairOption names node = node.map (repair names) := by
  cases node <;> rfl

theorem repairList_eq_self {names : Names} {nodes : List Node} (each : ∀ node ∈ nodes, node.repair names = node) :
    repairList names nodes = nodes := by
  rw [repairList_eq_map, List.map_congr_left each, List.map_id']

theorem repairOption_eq_self {names : Names} {node : Option Node}
    (each : ∀ found ∈ node.toList, found.repair names = found) : repairOption names node = node := by
  cases node with
  | none => rfl
  | some found => rw [repairOption, each found (by simp)]

/-- Of a node that is no call only the children change. -/
theorem children_repair {names : Names} {node : Node} (other : node.call? = none) :
    (node.repair names).children = node.children.map (repair names) := by
  cases node with
  | call => cases other
  | _ => simp [repair, children, repairList_eq_map, repairOption_eq_map, Option.toList_map]

theorem call?_repair {names : Names} {node : Node} (other : node.call? = none) : (node.repair names).call? = none := by
  cases node with
  | call => cases other
  | _ => rfl

theorem repair_eq_self {names : Names} {node : Node} (other : node.call? = none)
    (each : ∀ child ∈ node.children, child.repair names = child) : node.repair names = node := by
  cases node with
  | call => cases other
  | _ => simp_all [repair, children, or_imp, forall_and, repairList_eq_self, repairOption_eq_self]

end Node

/-! ### What a repair does not change -/

namespace Node

theorem withoutParens_repair (names : Names) (node : Node) :
    (node.repair names).withoutParens = node.withoutParens.repair names := by
  fun_induction withoutParens node with
  | case1 extent inner ih => exact ih
  | case2 node other =>
    cases node with
    | paren extent inner => exact absurd rfl (other extent inner)
    | _ => rfl

theorem isTemplateGlobal_repair (names : Names) (node : Node) :
    (node.repair names).isTemplateGlobal = node.isTemplateGlobal := by
  cases node <;> rfl

theorem keyName?_repair (names : Names) (node : Node) : (node.repair names).keyName? = node.keyName? := by
  cases node with
  | template extent quasis substitutions => cases substitutions <;> rfl
  | _ => rfl

theorem isTemplate_repair (names : Names) (node : Node) : (node.repair names).isTemplate = node.isTemplate := by
  rw [isTemplate, isTemplate, withoutParens_repair]
  cases node.withoutParens with
  | member extent receiver name marked => exact receiver.isTemplateGlobal_repair names
  | index extent receiver key marked => exact receiver.isTemplateGlobal_repair names
  | _ => rfl

theorem isTemplateProperty_repair (names : Names) (node : Node) (name : String) :
    (node.repair names).isTemplateProperty name = node.isTemplateProperty name := by
  rw [isTemplateProperty, isTemplateProperty, withoutParens_repair]
  cases node.withoutParens with
  | member extent receiver found marked => simp only [repair, isTemplate_repair]
  | index extent receiver key marked => simp only [repair, isTemplate_repair, keyName?_repair]
  | _ => rfl

end Node

/-! ### What a repair achieves -/

/-- Nothing is reported about any call of a node. -/
def Names.Clean (names : Names) (node : Node) : Prop := ∀ call ∈ node.calls, names.check call = []

namespace Node

theorem clean_iff {names : Names} {node : Node} :
    names.Clean node ↔
      (∀ call, node.call? = some call → names.check call = []) ∧ ∀ child ∈ node.children, names.Clean child := by
  simp only [Names.Clean, calls_eq node, List.mem_append, Option.mem_toList, List.mem_flatMap]
  grind

theorem clean_repair (names : Names) (node : Node) : names.Clean (node.repair names) := by
  induction node using children_induction with
  | step node ih =>
    cases node with
    | call extent callee typeArguments arguments marked =>
      have same := callee.isTemplateProperty_repair names "events"
      have repaired (nodes : List Node) (parts : ∀ node ∈ nodes, node ∈ callee :: (typeArguments ++ arguments))
          (call : Call) (inside : call ∈ (nodes.map (repair names)).flatMap calls) : names.check call = [] := by
        obtain ⟨_, present, inNode⟩ := List.mem_flatMap.mp inside
        obtain ⟨node, listed, rfl⟩ := List.mem_map.mp present
        exact ih node (parts node listed) call inNode
      intro call member
      simp only [repair, calls, callsOfList_eq, repairList_eq_map, List.mem_cons, List.mem_append] at member
      rcases member with here | (inCallee | inTypes) | inArguments
      · exact here ▸ names.check_amendArguments extent callee (callee.repair names) _ same
      · exact ih callee List.mem_cons_self call inCallee
      · exact repaired typeArguments (by simp +contextual) call inTypes
      · -- An amended event map may have lost calls, with the default values that are gone, but has no new ones.
        have before := names.calls_amendArguments_subset callee _ inArguments
        exact repaired arguments (by simp +contextual) call before
    | _ =>
      refine clean_iff.mpr ⟨?_, ?_⟩
      · intro call standing
        cases (call?_repair rfl).symm.trans standing
      · rw [children_repair rfl]
        simpa using ih

theorem repair_of_clean {names : Names} {node : Node} (clean : names.Clean node) : node.repair names = node := by
  induction node using children_induction with
  | step node ih =>
    obtain ⟨here, below⟩ := clean_iff.mp clean
    have each (child : Node) (member : child ∈ node.children) : child.repair names = child :=
      ih child member (below child member)
    cases node with
    | call extent callee typeArguments arguments marked =>
      have types : repairList names typeArguments = typeArguments :=
        repairList_eq_self fun node member => each node (by simp [children, member])
      have listed : repairList names arguments = arguments :=
        repairList_eq_self fun node member => each node (by simp [children, member])
      rw [repair, each callee (by simp [children]), types, listed, Names.amendArguments_eq_self (here _ rfl)]
    | _ => exact repair_eq_self rfl each

end Node

namespace Program

theorem lint_eq_nil_iff {names : Names} {program : Program} :
    (program.lint ⟨some names⟩).diagnostics = [] ↔ ∀ node ∈ program.body, names.Clean node := by
  rw [lint_eq, calls, Node.callsOfList_eq]
  simp only [List.flatMap_eq_nil_iff, List.mem_flatMap, Names.Clean, Rules.check]
  grind

theorem lint_repair (names : Names) (program : Program) :
    ((program.repair names).lint ⟨some names⟩).diagnostics = [] := by
  refine lint_eq_nil_iff.mpr ?_
  rw [repair, Node.repairList_eq_map]
  simpa using fun node _ => node.clean_repair names

theorem repair_eq_self {names : Names} {program : Program} (silent : (program.lint ⟨some names⟩).diagnostics = []) :
    program.repair names = program := by
  have clean := lint_eq_nil_iff.mp silent
  rw [repair, Node.repairList_eq_self fun node member => Node.repair_of_clean (clean node member)]

/-- A repaired program is silent, a second repair finds nothing to do, and a program is silent exactly if a repair
leaves it as it is. -/
theorem repair_silences (names : Names) (program : Program) :
    ((program.repair names).lint ⟨some names⟩).diagnostics = [] ∧
      (program.repair names).repair names = program.repair names ∧
      ((program.lint ⟨some names⟩).diagnostics = [] ↔ program.repair names = program) := by
  have silent := program.lint_repair names
  refine ⟨silent, repair_eq_self silent, repair_eq_self, ?_⟩
  intro same
  rw [← same]
  exact silent

end Program

end EventMapLint
