import EventMapLint.Proofs.Faults
import EventMapLint.Proofs.Run
import EventMapLint.Proofs.Tree.WithChildren

/-! Programs with a hole for statements. The rule never looks at statements, so what stands in the hole changes nothing
about the calls around it, and its own calls are reported where a program of its own would report them. -/

namespace EventMapLint

/-! ### What the rule can read of a node -/

/-- The name of a plain identifier. -/
def Node.identifierName? : Node → Option String
  | .identifier _ name => some name
  | _ => none

/-- What is reported about a node in the place of an event map. -/
def Names.checkMap (names : Names) (node : Node) : List Diagnostic :=
  match node.withoutParens with
  | .object _ properties => properties.flatMap names.checkEntry
  | _ => []

theorem Names.check_cons (names : Names) (extent : Span) (callee first : Node) (more : List Node) :
    names.check ⟨extent, callee, first :: more⟩ =
      if callee.isTemplateProperty "events" then names.checkMap first else [] := by
  simp only [check, Call.eventMap?, checkMap]
  by_cases template : callee.isTemplateProperty "events" = true
  · simp only [template, ite_true]
    cases first.withoutParens <;> rfl
  · simp [template]

namespace Node

theorem isTemplateGlobal_eq (node : Node) : node.isTemplateGlobal = (node.identifierName? == some "Template") := by
  cases node <;> rfl

theorem ofNode_parameter (extent : Span) (decorators : List Node) (pattern : Node) (ascription : List Node)
    (value : Option Node) (marked : Bool) :
    HandlerParameter.ofNode (.parameter extent decorators pattern ascription value marked) =
      ⟨extent, if value.isNone then pattern.identifierName? else none⟩ := by
  cases pattern <;> cases value <;> rfl

/-- Two nodes that the rule cannot tell apart, in whatever place of a call they stand. -/
structure Resembles (node other : Node) : Prop where
  identifier : node.identifierName? = other.identifierName?
  template : node.isTemplate = other.isTemplate
  property : ∀ name, node.isTemplateProperty name = other.isTemplateProperty name
  key : node.keyName? = other.keyName?
  parameter : HandlerParameter.ofNode node = HandlerParameter.ofNode other
  handler : ∀ names : Names, names.slots node.withoutParens = names.slots other.withoutParens
  entry : ∀ names : Names, names.checkEntry node = names.checkEntry other
  map : ∀ names : Names, names.checkMap node = names.checkMap other

namespace Resembles

theorem refl (node : Node) : node.Resembles node :=
  ⟨rfl, rfl, fun _ => rfl, rfl, rfl, fun _ => rfl, fun _ => rfl, fun _ => rfl⟩

theorem span_eq (alike : Resembles node other) : node.span = other.span := by
  rw [← HandlerParameter.span_ofNode, alike.parameter, HandlerParameter.span_ofNode]

theorem headD (alike : List.Forall₂ Resembles nodes others) (node : Node) :
    (nodes.headD node).Resembles (others.headD node) := by
  cases alike with
  | nil => exact refl node
  | cons first _ => exact first

theorem tail (alike : List.Forall₂ Resembles nodes others) : List.Forall₂ Resembles nodes.tail others.tail := by
  cases alike with
  | nil => exact .nil
  | cons _ more => exact more

theorem isNone_head? (alike : List.Forall₂ Resembles nodes others) : nodes.head?.isNone = others.head?.isNone := by
  cases alike <;> rfl

theorem positional (items : List.Forall₂ Resembles parameters parameters')
    (behind : List.Forall₂ Resembles nodes nodes') :
    HandlerParameter.positional parameters nodes.head? = HandlerParameter.positional parameters' nodes'.head? := by
  refine HandlerParameter.positional_congr (map_eq_map (items.imp fun _ _ => parameter)) ?_
  cases behind with
  | nil => rfl
  | cons last _ => exact congrArg some last.span_eq

/-- The children of a node with one or the other in the place of one of them. -/
theorem exchanged (node : Node) (step : Nat) (alike : child.Resembles other) :
    List.Forall₂ Resembles (node.children.take step ++ child :: node.children.drop (step + 1))
      (node.children.take step ++ other :: node.children.drop (step + 1)) := by
  have same (nodes : List Node) : List.Forall₂ Resembles nodes nodes := List.forall₂_same.mpr fun node _ => refl node
  exact List.rel_append (same _) (.cons alike (same _))

/-- A node is read by what it says itself and by what can be read of its children. -/
theorem withChildren (node : Node) (alike : List.Forall₂ Resembles parts parts') :
    (node.withChildren parts).Resembles (node.withChildren parts') := by
  cases node with
  | identifier | literal => exact refl _
  | template extent quasis =>
    refine ⟨rfl, rfl, fun _ => rfl, ?_, rfl, fun _ => rfl, fun _ => rfl, fun _ => rfl⟩
    cases alike <;> rfl
  | paren extent inner =>
    have inside := headD alike inner
    exact ⟨rfl, inside.template, inside.property, rfl, rfl, inside.handler, fun _ => rfl, inside.map⟩
  | member extent receiver name marked =>
    have object := headD alike receiver
    refine ⟨rfl, ?_, ?_, rfl, rfl, fun _ => rfl, fun _ => rfl, fun _ => rfl⟩
    · simp only [isTemplate, withoutParens, Node.withChildren, isTemplateGlobal_eq, object.identifier]
    · simp only [isTemplateProperty, withoutParens, Node.withChildren, object.template, implies_true]
  | index extent receiver key marked =>
    have object := headD alike receiver
    have within := headD (tail alike) key
    refine ⟨rfl, ?_, ?_, rfl, rfl, fun _ => rfl, fun _ => rfl, fun _ => rfl⟩
    · simp only [isTemplate, withoutParens, Node.withChildren, isTemplateGlobal_eq, object.identifier]
    · simp only [isTemplateProperty, withoutParens, Node.withChildren, object.template, within.key, implies_true]
  | object extent =>
    refine ⟨rfl, rfl, fun _ => rfl, rfl, rfl, fun _ => rfl, fun _ => rfl, fun names => ?_⟩
    exact flatMap_eq_flatMap (alike.imp fun _ _ same => same.entry names)
  | property extent kind computed method shorthand key value =>
    have before := headD alike key
    have after := headD (tail alike) value
    refine ⟨rfl, rfl, fun _ => rfl, rfl, rfl, fun _ => rfl, fun names => ?_, fun _ => rfl⟩
    simp only [Node.withChildren, Names.checkEntry, Names.checkHandler_eq, before.span_eq, after.handler]
  | function extent form typeParameters parameters last returnType body =>
    refine ⟨rfl, rfl, fun _ => rfl, rfl, rfl, fun names => ?_, fun _ => rfl, fun _ => rfl⟩
    have items := List.forall₂_drop typeParameters.length alike
    have behind := List.forall₂_take last.toList.length (List.forall₂_drop parameters.length items)
    simp only [Node.withChildren, withoutParens, Names.slots, parameters?,
      positional (List.forall₂_take parameters.length items) behind]
  | parameter extent decorators pattern ascription value marked =>
    have bound := List.forall₂_drop decorators.length alike
    have values := List.forall₂_drop ascription.length (tail bound)
    refine ⟨rfl, rfl, fun _ => rfl, rfl, ?_, fun _ => rfl, fun _ => rfl, fun _ => rfl⟩
    simp only [Node.withChildren, ofNode_parameter, (headD bound pattern).identifier, isNone_head? values]
  | _ => exact ⟨rfl, rfl, fun _ => rfl, rfl, rfl, fun _ => rfl, fun _ => rfl, fun _ => rfl⟩

/-- The rules say the same of two calls that can be read alike. -/
theorem check_call?_withChildren (node : Node) (alike : List.Forall₂ Resembles parts parts') (rules : Rules) :
    (node.withChildren parts).call?.toList.flatMap rules.check =
      (node.withChildren parts').call?.toList.flatMap rules.check := by
  cases node with
  | call extent callee typeArguments arguments marked =>
    have called := headD alike callee
    have values := List.forall₂_drop typeArguments.length (tail alike)
    rcases rules with ⟨_ | names⟩
    · rfl
    · simp only [Node.withChildren, call?, Option.toList_some, List.flatMap_singleton, Rules.check]
      generalize parts.tail.drop typeArguments.length = found at values ⊢
      generalize parts'.tail.drop typeArguments.length = found' at values ⊢
      cases values with
      | nil => rfl
      | cons first _ => rw [Names.check_cons, Names.check_cons, called.property, first.map]
  | _ => rfl

end Resembles

/-! ### Holes -/

/-- A node with a hole for statements: in a block, in the body of a function or arrow, or among the parts of another
construct that holds statements. Such a node may stand inside another in the place of any one of its children, as a
block does in the branch of an `if`, or a handler in an event map. -/
inductive Context
  | block (extent : Span) (before after : List Node)
  | body (extent : Span) (form : FunctionForm) (typeParameters parameters : List Node) (last : Option Node)
      (returnType before after : List Node)
  | compound (extent : Span) (before after : List Node)
  | within (node : Node) (step : Fin node.children.length) (inside : Context)

namespace Context

def fill (statements : List Node) : Context → Node
  | .block extent before after => .block extent (before ++ (statements ++ after))
  | .body extent form typeParameters parameters last returnType before after =>
      .function extent form typeParameters parameters last returnType (before ++ (statements ++ after))
  | .compound extent before after => .compound extent (before ++ (statements ++ after))
  | .within node step inside => node.exchange step (inside.fill statements)

/-- The calls that the hole is inside of, from the outermost on. -/
def enclosing (statements : List Node) : Context → List Call
  | .within node step inside =>
      ((Context.within node step inside).fill statements).call?.toList ++ inside.enclosing statements
  | _ => []

/-- The rule cannot tell what stands in the hole. -/
theorem fill_resembles (context : Context) (statements others : List Node) :
    (context.fill statements).Resembles (context.fill others) := by
  induction context with
  | block | compound | body => exact ⟨rfl, rfl, fun _ => rfl, rfl, rfl, fun _ => rfl, fun _ => rfl, fun _ => rfl⟩
  | within node step inside ih => exact .withChildren node (Resembles.exchanged node step ih)

private theorem findings_of_children {node : Node} (rules : Rules) (plain : node.call? = none)
    (parts : node.children = before ++ (statements ++ after)) :
    node.findings rules =
      before.flatMap (findings rules) ++ (statements.flatMap (findings rules) ++ after.flatMap (findings rules)) := by
  rw [findings_eq, plain, parts, List.flatMap_append, List.flatMap_append]
  rfl

/-- What is said about the calls around the hole comes before what is said about the statements in it, and neither it
nor anything else that is said outside of the hole depends on them. -/
theorem findings_fill (context : Context) (rules : Rules) :
    ∃ outer before after, outer.Sublist before ∧ ∀ statements : List Node,
      (context.enclosing statements).flatMap rules.check = outer ∧
        (context.fill statements).findings rules = before ++ (statements.flatMap (findings rules) ++ after) := by
  induction context with
  | block extent first others | compound extent first others =>
    exact ⟨[], _, _, List.nil_sublist _, fun statements => ⟨rfl, findings_of_children rules rfl rfl⟩⟩
  | body extent form typeParameters parameters last returnType first others =>
    let front := typeParameters ++ (parameters ++ (last.toList ++ (returnType ++ first)))
    refine ⟨[], front.flatMap (findings rules), others.flatMap (findings rules), List.nil_sublist _, ?_⟩
    intro statements
    exact ⟨rfl, findings_of_children rules rfl (by simp [fill, children, front])⟩
  | within node step inside ih =>
    obtain ⟨outer, before, after, early, found⟩ := ih
    let here := ((Context.within node step inside).fill []).call?.toList.flatMap rules.check
    have same (statements : List Node) :
        ((Context.within node step inside).fill statements).call?.toList.flatMap rules.check = here :=
      Resembles.check_call?_withChildren node (Resembles.exchanged node step (inside.fill_resembles statements []))
        rules
    refine ⟨here ++ outer, here ++ ((node.children.take step).flatMap (findings rules) ++ before),
      after ++ (node.children.drop (step + 1)).flatMap (findings rules), ?_, ?_⟩
    · exact (early.trans (List.sublist_append_right _ _)).append_left here
    · intro statements
      obtain ⟨outside, filled⟩ := found statements
      constructor
      · rw [enclosing, List.flatMap_append, same, outside]
      · rw [findings_eq, same, fill, children_exchange, List.flatMap_append, List.flatMap_cons, filled]
        simp only [List.append_assoc]

end Context

end Node

namespace Program

/-- A program with a hole for statements, among its own or inside one of them. -/
inductive Context
  | top (before after : List Node)
  | statement (before : List Node) (inside : Node.Context) (after : List Node)

namespace Context

def fill (statements : List Node) : Context → Program
  | .top before after => ⟨before ++ (statements ++ after)⟩
  | .statement before inside after => ⟨before ++ inside.fill statements :: after⟩

/-- The calls that the hole is inside of, from the outermost on. -/
def enclosing (statements : List Node) : Context → List Call
  | .top _ _ => []
  | .statement _ inside _ => inside.enclosing statements

/-- Statements are reported as if they were a program of their own, between findings that do not depend on them. What
is said about the calls around the statements is among the findings before them. -/
theorem lint_fill (context : Context) (rules : Rules) :
    ∃ before after : List Diagnostic, ∃ outer, outer.Sublist before ∧ ∀ statements : List Node,
      (context.enclosing statements).flatMap rules.check = outer ∧
        ((context.fill statements).lint rules).diagnostics =
          before ++ ((Program.mk statements).lint rules).diagnostics ++ after := by
  cases context with
  | top first others =>
    refine ⟨first.flatMap (Node.findings rules), others.flatMap (Node.findings rules), [], List.nil_sublist _, ?_⟩
    intro statements
    refine ⟨rfl, ?_⟩
    rw [diagnostics_lint, diagnostics_lint, fill, List.flatMap_append, List.flatMap_append, List.append_assoc]
  | statement first inside others =>
    obtain ⟨outer, before, after, early, found⟩ := inside.findings_fill rules
    refine ⟨first.flatMap (Node.findings rules) ++ before, after ++ others.flatMap (Node.findings rules), outer,
      early.trans (List.sublist_append_right _ _), ?_⟩
    intro statements
    obtain ⟨outside, filled⟩ := found statements
    refine ⟨outside, ?_⟩
    rw [diagnostics_lint, diagnostics_lint, fill, List.flatMap_append, List.flatMap_cons, filled]
    simp only [List.append_assoc]

end Context

end Program

end EventMapLint
