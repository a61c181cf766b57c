import EventMapLint.Span

/-! The syntax tree that the rule reads. One type holds expressions, patterns, parameters, properties and
statements, because a call may stand in any of them and every shape that the rule does not know is passed over. -/

namespace EventMapLint

/-- The value of a literal. Numbers, big integers and regular expressions keep their text. -/
inductive Literal
  | string (value : String)
  | number (text : String)
  | boolean (value : Bool)
  | bigint (text : String)
  | regex (text : String)
  | null
  deriving DecidableEq, Repr

/-- How a function is written: with `function` or as a method or accessor, or as an arrow. `takesThis` says that
a typed `this` stands before the parameters, `concise` that an arrow's body is a single expression. -/
inductive FunctionForm
  | ordinary (async generator takesThis : Bool)
  | arrow (async concise : Bool)
  deriving DecidableEq, Repr

inductive PropertyKind
  | init
  | get
  | set
  deriving DecidableEq, Repr

/-- A node of the tree. Of a type only the expressions inside it are kept, so the fields `typeArguments`,
`typeParameters`, `ascription` and `returnType` hold expressions and are nearly always empty. -/
inductive Node
  | identifier (span : Span) (name : String)
  | literal (span : Span) (value : Literal)
  | this (span : Span)
  | template (span : Span) (quasis : List (Option String)) (substitutions : List Node)
  | paren (span : Span) (inner : Node)
  | member (span : Span) (receiver : Node) (name : String) (optional : Bool)
  | index (span : Span) (receiver key : Node) (optional : Bool)
  | privateMember (span : Span) (receiver : Node) (field : String) (optional : Bool)
  | call (span : Span) (callee : Node) (typeArguments arguments : List Node) (optional : Bool)
  | new (span : Span) (callee : Node) (typeArguments arguments : List Node)
  | object (span : Span) (properties : List Node)
  | property (span : Span) (kind : PropertyKind) (computed method shorthand : Bool) (key value : Node)
  | array (span : Span) (elements : List Node)
  | hole (span : Span)
  | spread (span : Span) (argument : Node)
  | function (span : Span) (form : FunctionForm) (typeParameters parameters : List Node) (last : Option Node)
      (returnType body : List Node)
  | parameter (span : Span) (decorators : List Node) (pattern : Node) (ascription : List Node)
      (value : Option Node) (optional : Bool)
  | rest (span : Span) (decorators : List Node) (pattern : Node) (ascription : List Node)
  | sequence (span : Span) (expressions : List Node)
  | conditional (span : Span) (test consequent alternate : Node)
  | await (span : Span) (argument : Node)
  | chain (span : Span) (expression : Node)
  /-- An expression with a type beside it: an assertion on either side, or `!`. -/
  | typed (span : Span) (before : List Node) (expression : Node) (after : List Node)
  | assignment (span : Span) (operator : String) (target value : Node)
  | objectPattern (span : Span) (properties : List Node)
  | arrayPattern (span : Span) (elements : List Node)
  | defaulted (span : Span) (target value : Node)
  | expressionStatement (span : Span) (expression : Node)
  | block (span : Span) (body : List Node)
  | returnStatement (span : Span) (argument : Option Node)
  | ifStatement (span : Span) (test consequent : Node) (alternate : Option Node)
  /-- Any other construct, by its parts in source order. -/
  | compound (span : Span) (parts : List Node)
  deriving Repr, Inhabited

def Node.span : Node → Span
  | .identifier span _ | .literal span _ | .this span | .template span _ _ | .paren span _ | .member span _ _ _
  | .index span _ _ _ | .privateMember span _ _ _ | .call span _ _ _ _ | .new span _ _ _ | .object span _
  | .property span _ _ _ _ _ _ | .array span _ | .hole span | .spread span _ | .function span _ _ _ _ _ _
  | .parameter span _ _ _ _ _ | .rest span _ _ _ | .sequence span _ | .conditional span _ _ _ | .await span _
  | .chain span _ | .typed span _ _ _ | .assignment span _ _ _ | .objectPattern span _ | .arrayPattern span _
  | .defaulted span _ _ | .expressionStatement span _ | .block span _ | .returnStatement span _
  | .ifStatement span _ _ _ | .compound span _ => span

/-- The expression inside all the parentheses that stand around a node. -/
def Node.withoutParens : Node → Node
  | .paren _ inner => inner.withoutParens
  | node => node

/-- A program by its statements; directives are not among them. -/
structure Program where
  body : List Node
  deriving Repr

end EventMapLint
