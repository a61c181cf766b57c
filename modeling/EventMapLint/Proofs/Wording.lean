import EventMapLint.Proofs.Faults
import EventMapLint.Proofs.Run

/-! Programs in other words. The rule looks through the parentheses around a callee, a template, an event map and a
handler, and it reads no flag, so programs that differ in nothing else have the same findings. -/

namespace EventMapLint

namespace Node

mutual

/-- Two nodes of the same kind, with parts that differ only in parentheses around expressions and in flags. What is
no expression, such as a parameter or an entry of an object, has no parentheses to differ in, and the keys of
properties and of computed members keep theirs. -/
inductive Alike : Node → Node → Prop
  | identifier : Alike (.identifier extent name) (.identifier extent name)
  | literal : Alike (.literal extent value) (.literal extent value)
  | this : Alike (.this extent) (.this extent)
  | template (parts : List.Forall₂ AlikeInParens substitutions substitutions') :
      Alike (.template extent quasis substitutions) (.template extent quasis substitutions')
  | paren (inside : AlikeInParens argument argument') : Alike (.paren extent argument) (.paren extent argument')
  /-- A plain name keeps its parentheses in front of a dot. -/
  | member (object : AlikeInParens receiver receiver')
      (named : ∀ place word, receiver.withoutParens = .identifier place word → receiver' = receiver) :
      Alike (.member extent receiver name marked) (.member extent receiver' name marked')
  | index (object : AlikeInParens receiver receiver')
      (named : ∀ place word, receiver.withoutParens = .identifier place word → receiver' = receiver)
      (within : Alike key key') : Alike (.index extent receiver key marked) (.index extent receiver' key' marked')
  | privateMember (object : AlikeInParens receiver receiver')
      (named : ∀ place word, receiver.withoutParens = .identifier place word → receiver' = receiver) :
      Alike (.privateMember extent receiver field marked) (.privateMember extent receiver' field marked')
  | call (called : AlikeInParens callee callee') (types : List.Forall₂ AlikeInParens typeArguments typeArguments')
      (values : List.Forall₂ AlikeInParens arguments arguments') :
      Alike (.call extent callee typeArguments arguments marked)
        (.call extent callee' typeArguments' arguments' marked')
  | new (called : AlikeInParens callee callee') (types : List.Forall₂ AlikeInParens typeArguments typeArguments')
      (values : List.Forall₂ AlikeInParens arguments arguments') :
      Alike (.new extent callee typeArguments arguments) (.new extent callee' typeArguments' arguments')
  | object (entries : List.Forall₂ Alike properties properties') :
      Alike (.object extent properties) (.object extent properties')
  | property (before : Alike key key') (after : AlikeInParens value value') :
      Alike (.property extent kind computed method shorthand key value)
        (.property extent kind' computed' method' shorthand' key' value')
  | array (parts : List.Forall₂ AlikeInParens elements elements') :
      Alike (.array extent elements) (.array extent elements')
  | hole : Alike (.hole extent) (.hole extent)
  | spread (inside : AlikeInParens argument argument') : Alike (.spread extent argument) (.spread extent argument')
  | function (types : List.Forall₂ AlikeInParens typeParameters typeParameters')
      (items : List.Forall₂ Alike parameters parameters') (behind : Option.Rel Alike last last')
      (result : List.Forall₂ AlikeInParens returnType returnType')
      (statements : List.Forall₂ AlikeInParens body body') :
      Alike (.function extent form typeParameters parameters last returnType body)
        (.function extent form' typeParameters' parameters' last' returnType' body')
  | parameter (before : List.Forall₂ AlikeInParens decorators decorators') (bound : Alike pattern pattern')
      (types : List.Forall₂ AlikeInParens ascription ascription') (after : Option.Rel AlikeInParens value value') :
      Alike (.parameter extent decorators pattern ascription value marked)
        (.parameter extent decorators' pattern' ascription' value' marked')
  | rest (before : List.Forall₂ AlikeInParens decorators decorators') (bound : Alike pattern pattern')
      (types : List.Forall₂ AlikeInParens ascription ascription') :
      Alike (.rest extent decorators pattern ascription) (.rest extent decorators' pattern' ascription')
  | sequence (parts : List.Forall₂ AlikeInParens expressions expressions') :
      Alike (.sequence extent expressions) (.sequence extent expressions')
  | conditional (first : AlikeInParens test test') (second : AlikeInParens consequent consequent')
      (third : AlikeInParens alternate alternate') :
      Alike (.conditional extent test consequent alternate) (.conditional extent test' consequent' alternate')
  | await (inside : AlikeInParens argument argument') : Alike (.await extent argument) (.await extent argument')
  | chain (inside : AlikeInParens expression expression') :
      Alike (.chain extent expression) (.chain extent expression')
  | typed (types : List.Forall₂ AlikeInParens before before') (inside : AlikeInParens expression expression')
      (others : List.Forall₂ AlikeInParens after after') :
      Alike (.typed extent before expression after) (.typed extent before' expression' after')
  | assignment (left : AlikeInParens target target') (right : AlikeInParens value value') :
      Alike (.assignment extent operator target value) (.assignment extent operator target' value')
  | objectPattern (entries : List.Forall₂ Alike properties properties') :
      Alike (.objectPattern extent properties) (.objectPattern extent properties')
  | arrayPattern (parts : List.Forall₂ AlikeInParens elements elements') :
      Alike (.arrayPattern extent elements) (.arrayPattern extent elements')
  | defaulted (left : AlikeInParens target target') (right : AlikeInParens value value') :
      Alike (.defaulted extent target value) (.defaulted extent target' value')
  | expressionStatement (inside : AlikeInParens expression expression') :
      Alike (.expressionStatement extent expression) (.expressionStatement extent expression')
  | block (statements : List.Forall₂ AlikeInParens body body') : Alike (.block extent body) (.block extent body')
  | returnStatement (inside : Option.Rel AlikeInParens argument argument') :
      Alike (.returnStatement extent argument) (.returnStatement extent argument')
  | ifStatement (first : AlikeInParens test test') (second : AlikeInParens consequent consequent')
      (third : Option.Rel AlikeInParens alternate alternate') :
      Alike (.ifStatement extent test consequent alternate) (.ifStatement extent test' consequent' alternate')
  | compound (parts : List.Forall₂ AlikeInParens elements elements') :
      Alike (.compound extent elements) (.compound extent elements')

/-- Two nodes that are alike after any number of parentheses around either of them. -/
inductive AlikeInParens : Node → Node → Prop
  | alike (same : Alike node other) : AlikeInParens node other
  | left (inside : AlikeInParens node other) : AlikeInParens (.paren extent node) other
  | right (inside : AlikeInParens node other) : AlikeInParens node (.paren extent other)

end

/-! ### What like nodes agree in -/

/-- Without the parentheses around them, both nodes are of the same kind. -/
theorem AlikeInParens.withoutParens (alike : AlikeInParens node other) :
    Alike node.withoutParens other.withoutParens := by
  -- Parentheses may stand inside each other on both sides, so this goes through both relations at once.
  apply @AlikeInParens.rec (fun node other _ => Alike node.withoutParens other.withoutParens)
    (fun node other _ => Alike node.withoutParens other.withoutParens)
    (fun _ _ _ => True) (fun _ _ _ => True) (fun _ _ _ => True) (fun _ _ _ => True)
  case t => exact alike
  case paren | alike | left | right =>
    intros
    assumption
  all_goals
    intros
    first | trivial | constructor <;> assumption

theorem Alike.span_eq (alike : Alike node other) : node.span = other.span := by
  cases alike <;> rfl

private theorem forall₂_toList (related : Option.Rel R first second) :
    List.Forall₂ R first.toList second.toList := by
  cases related with
  | some same => exact .cons same .nil
  | none => exact .nil

theorem Alike.children (alike : Alike node other) : List.Forall₂ AlikeInParens node.children other.children := by
  have strict {nodes others : List Node} (same : List.Forall₂ Alike nodes others) :
      List.Forall₂ AlikeInParens nodes others := same.imp fun _ _ => .alike
  cases alike with
  | identifier | literal | this | hole => exact .nil
  | template parts | array parts | sequence parts | arrayPattern parts | compound parts | block parts => exact parts
  | object entries | objectPattern entries => exact strict entries
  | paren inside | spread inside | await inside | chain inside | expressionStatement inside => exact .cons inside .nil
  | member object | privateMember object => exact .cons object .nil
  | index object _ within => exact .cons object (.cons (.alike within) .nil)
  | call called types values | new called types values => exact .cons called (List.rel_append types values)
  | property before after => exact .cons (.alike before) (.cons after .nil)
  | function types items behind result statements =>
    exact List.rel_append types (List.rel_append (strict items)
      (List.rel_append (strict (forall₂_toList behind)) (List.rel_append result statements)))
  | parameter before bound types after =>
    exact List.rel_append before (.cons (.alike bound) (List.rel_append types (forall₂_toList after)))
  | rest before bound types => exact List.rel_append before (.cons (.alike bound) types)
  | conditional first second third => exact .cons first (.cons second (.cons third .nil))
  | typed types inside others => exact List.rel_append types (.cons inside others)
  | assignment left right | defaulted left right => exact .cons left (.cons right .nil)
  | returnStatement inside => exact forall₂_toList inside
  | ifStatement first second third => exact .cons first (.cons second (forall₂_toList third))

/-! ### The callee of an event map -/

theorem AlikeInParens.isTemplateGlobal_eq (alike : AlikeInParens node other)
    (named : ∀ place word, node.withoutParens = .identifier place word → other = node) :
    node.isTemplateGlobal = other.isTemplateGlobal := by
  have inside := alike.withoutParens
  have nameless {node : Node} (unnamed : ∀ place word, node.withoutParens ≠ .identifier place word) :
      node.isTemplateGlobal = false := by
    cases node with
    | identifier place word => exact absurd rfl (unnamed place word)
    | _ => rfl
  cases bare : node.withoutParens with
  | identifier place word => rw [named place word bare]
  | _ =>
    rw [bare] at inside
    rw [nameless (by simp [bare]), nameless]
    intro place word same
    rw [same] at inside
    cases inside

theorem AlikeInParens.isTemplate_eq (alike : AlikeInParens node other) : node.isTemplate = other.isTemplate := by
  rw [isTemplate, isTemplate]
  have inside := alike.withoutParens
  generalize node.withoutParens = first, other.withoutParens = second at inside ⊢
  cases inside with
  | member object named | index object named => exact object.isTemplateGlobal_eq named
  | _ => rfl

theorem Alike.keyName?_eq (alike : Alike node other) : node.keyName? = other.keyName? := by
  cases alike with
  | template parts => cases parts <;> rfl
  | _ => rfl

theorem AlikeInParens.isTemplateProperty_eq (alike : AlikeInParens node other) (name : String) :
    node.isTemplateProperty name = other.isTemplateProperty name := by
  rw [isTemplateProperty, isTemplateProperty]
  have inside := alike.withoutParens
  generalize node.withoutParens = first, other.withoutParens = second at inside ⊢
  cases inside with
  | member object => simp only [object.isTemplate_eq]
  | index object _ within => simp only [object.isTemplate_eq, within.keyName?_eq]
  | _ => rfl

/-! ### The handlers of an event map -/

theorem Alike.ofNode_eq (alike : Alike node other) : HandlerParameter.ofNode node = HandlerParameter.ofNode other := by
  cases alike with
  | parameter _ bound _ after => cases bound <;> cases after <;> rfl
  | _ => rfl

private theorem positional_eq (items : List.Forall₂ Alike parameters parameters')
    (behind : Option.Rel Alike last last') :
    HandlerParameter.positional parameters last = HandlerParameter.positional parameters' last' := by
  refine HandlerParameter.positional_congr (map_eq_map (items.imp fun _ _ => Alike.ofNode_eq)) ?_
  cases behind with
  | some last => exact congrArg some last.span_eq
  | none => rfl

theorem Alike.slots_eq (alike : Alike node other) (names : Names) : names.slots node = names.slots other := by
  cases alike with
  | function _ items behind => simp only [Names.slots, parameters?, positional_eq items behind]
  | _ => rfl

theorem Alike.checkEntry_eq (alike : Alike node other) (names : Names) :
    names.checkEntry node = names.checkEntry other := by
  cases alike with
  | property before after =>
    simp only [Names.checkEntry, Names.checkHandler_eq, before.span_eq, after.withoutParens.slots_eq]
  | _ => rfl

/-- The rule says the same about calls with like callees and arguments. -/
theorem check_eq_of_alike (names : Names) (extent : Span) (called : AlikeInParens callee callee')
    (values : List.Forall₂ AlikeInParens arguments arguments') :
    names.check ⟨extent, callee, arguments⟩ = names.check ⟨extent, callee', arguments'⟩ := by
  cases values with
  | nil => rfl
  | @cons first first' _ _ same =>
    have inside := same.withoutParens
    simp only [Names.check, Call.eventMap?, called.isTemplateProperty_eq]
    generalize first.withoutParens = map, first'.withoutParens = map' at inside ⊢
    cases inside with
    | object entries =>
      have each := flatMap_eq_flatMap (entries.imp fun _ _ same => same.checkEntry_eq names)
      by_cases template : callee'.isTemplateProperty "events" = true
      · simp only [template, ite_true, each]
      · simp [template]
    | _ => rfl

/-! ### Programs in other words -/

theorem Alike.check_call?_eq (alike : Alike node other) (rules : Rules) :
    node.call?.toList.flatMap rules.check = other.call?.toList.flatMap rules.check := by
  cases alike with
  | call called _ values =>
    rcases rules with ⟨_ | names⟩
    · rfl
    · simp [call?, Rules.check, check_eq_of_alike names _ called values]
  | _ => rfl

/-- What is said about the calls of a node does not depend on the parentheses around it or inside it. -/
theorem flatMap_calls_eq (rules : Rules) (node other : Node) (alike : Alike node.withoutParens other.withoutParens) :
    node.calls.flatMap rules.check = other.calls.flatMap rules.check := by
  induction node using children_induction generalizing other with
  | step node ih =>
    -- The parentheses around the first node come off one by one, those around the other all together.
    by_cases wrapped : ∃ extent inner, node = .paren extent inner
    · obtain ⟨extent, inner, rfl⟩ := wrapped
      exact ih inner List.mem_cons_self other alike
    · rw [withoutParens_of_ne_paren (by simpa using wrapped)] at alike
      have below := ((List.forall₂_and_left _ _).mpr ⟨ih, alike.children⟩).imp
        fun child other ⟨same, within⟩ => same other within.withoutParens
      show node.findings rules = other.findings rules
      rw [← other.findings_withoutParens, node.findings_eq, other.withoutParens.findings_eq, alike.check_call?_eq,
        flatMap_eq_flatMap (f := findings rules) below]

end Node

/-- The same program up to parentheses around expressions and flags. -/
def Program.Alike (program other : Program) : Prop := List.Forall₂ Node.AlikeInParens program.body other.body

/-- Programs that differ in parentheses around expressions and in flags only have the same findings. -/
theorem Program.lint_eq_of_alike {program other : Program} (alike : program.Alike other) (rules : Rules) :
    program.lint rules = other.lint rules := by
  have each := alike.imp fun node other same => node.flatMap_calls_eq rules other same.withoutParens
  rw [lint_eq, lint_eq, calls, calls, Node.callsOfList_eq, Node.callsOfList_eq, List.flatMap_assoc, List.flatMap_assoc,
    Node.flatMap_eq_flatMap each]

/-- A handler with the parameter `e`. -/
def handlerOfE (form : FunctionForm) : Node :=
  .function ⟨27, 33⟩ form [] [.parameter ⟨28, 29⟩ [] (.identifier ⟨28, 29⟩ "e") [] none false] none [] []

/-- `Template.foo.events({ click(e) {} })`. -/
def plainEvents : Program :=
  ⟨[.expressionStatement ⟨0, 36⟩ (.call ⟨0, 36⟩
    (.member ⟨0, 19⟩ (.member ⟨0, 12⟩ (.identifier ⟨0, 8⟩ "Template") "foo" false) "events" false) []
    [.object ⟨20, 35⟩ [.property ⟨22, 33⟩ .init false true false (.identifier ⟨22, 27⟩ "click")
      (handlerOfE (.ordinary false false false))]] false)]⟩

/-- `((Template.foo)).events?.(({ get click: (async (e) => {}) }))`, with the spans of `plainEvents`. -/
def wrappedEvents : Program :=
  ⟨[.expressionStatement ⟨0, 36⟩ (.call ⟨0, 36⟩
    (.member ⟨0, 19⟩
      (.paren ⟨0, 12⟩ (.paren ⟨0, 12⟩ (.member ⟨0, 12⟩ (.identifier ⟨0, 8⟩ "Template") "foo" false))) "events" false) []
    [.paren ⟨20, 35⟩ (.object ⟨20, 35⟩ [.property ⟨22, 33⟩ .get false false false (.identifier ⟨22, 27⟩ "click")
      (.paren ⟨27, 33⟩ (handlerOfE (.arrow true false)))])] true)]⟩

theorem handlerOfE_alike (form form' : FunctionForm) : (handlerOfE form).Alike (handlerOfE form') :=
  .function .nil (.cons (.parameter .nil .identifier .nil .none) .nil) .none .nil .nil

theorem plainEvents_alike : plainEvents.Alike wrappedEvents := by
  refine .cons (.alike (.expressionStatement (.alike (.call (.alike (.member ?_ ?_)) .nil ?_)))) .nil
  · exact .right (.right (.alike (.member (.alike .identifier) fun _ _ _ => rfl)))
  · intro place word same
    cases same
  · exact .cons (.right (.alike (.object
      (.cons (.property .identifier (.right (.alike (handlerOfE_alike _ _)))) .nil)))) .nil

/-- The parameter is refused once, with and without the parentheses. -/
theorem Program.lint_eq_in_parens :
    plainEvents.Alike wrappedEvents ∧ (plainEvents.lint Rules.all).diagnostics.length = 1 ∧
      plainEvents.lint Rules.all = wrappedEvents.lint Rules.all :=
  ⟨plainEvents_alike, by decide, lint_eq_of_alike plainEvents_alike Rules.all⟩

end EventMapLint
