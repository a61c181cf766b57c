import EventMapLint.EventMap
import EventMapLint.Proofs.Tree.Children

/-! The spellings of a property of a template, `Template.a.events` and its like. Parentheses may stand around the
whole access and around the template, and nowhere else. -/

namespace EventMapLint

namespace Node

/-- A key in brackets that spells a name: a string, or a template literal of one cooked piece. -/
inductive SpellsName (name : String) : Node → Prop
  | string : SpellsName name (.literal extent (.string name))
  | template : SpellsName name (.template extent (some name :: quasis) [])

/-- A template: a property of the bare name `Template`, whichever it is, in any number of parentheses. -/
inductive Template : Node → Prop
  | member : Template (.member extent (.identifier place "Template") found marked)
  | index : Template (.index extent (.identifier place "Template") key marked)
  | paren (inside : Template argument) : Template (.paren extent argument)

/-- The property `name` of a template, with a dot or in brackets, in any number of parentheses. -/
inductive PropertyOfTemplate (name : String) : Node → Prop
  | member (object : Template receiver) : PropertyOfTemplate name (.member extent receiver name marked)
  | index (object : Template receiver) (spells : SpellsName name key) :
      PropertyOfTemplate name (.index extent receiver key marked)
  | paren (inside : PropertyOfTemplate name argument) : PropertyOfTemplate name (.paren extent argument)

/-! ### What is read, and as what -/

theorem isTemplateGlobal_iff {node : Node} :
    node.isTemplateGlobal = true ↔ ∃ place, node = .identifier place "Template" := by
  constructor
  · intro global
    cases node with
    | identifier place name =>
      obtain rfl : name = "Template" := by simpa [isTemplateGlobal] using global
      exact ⟨place, rfl⟩
    | _ => cases global
  · rintro ⟨place, rfl⟩
    rfl

theorem keyName?_eq_some_iff {key : Node} : key.keyName? = some name ↔ key.SpellsName name := by
  constructor
  · intro spelled
    unfold keyName? at spelled
    split at spelled
    · cases spelled
      exact .string
    · rename_i extent quasis
      obtain ⟨more, rfl⟩ : ∃ more, quasis = some name :: more := by
        rcases quasis with _ | ⟨_ | found, more⟩ <;> cases spelled
        exact ⟨more, rfl⟩
      exact .template
    · cases spelled
  · rintro (_ | _) <;> rfl

theorem Template.isTemplate (template : Template node) : node.isTemplate = true := by
  induction template with
  | member | index => rfl
  | paren inside ih => exact ih

theorem template_of_isTemplate {node : Node} (found : node.isTemplate = true) : Template node := by
  unfold isTemplate at found
  fun_induction withoutParens node with
  | case1 extent argument ih => exact .paren (ih found)
  | case2 node bare =>
    split at found
    · obtain ⟨place, rfl⟩ := isTemplateGlobal_iff.mp found
      exact .member
    · obtain ⟨place, rfl⟩ := isTemplateGlobal_iff.mp found
      exact .index
    · cases found

theorem PropertyOfTemplate.isTemplateProperty (property : PropertyOfTemplate name node) :
    node.isTemplateProperty name = true := by
  induction property with
  | member object => simp [Node.isTemplateProperty, withoutParens, object.isTemplate]
  | index object spells =>
    simp [Node.isTemplateProperty, withoutParens, object.isTemplate, keyName?_eq_some_iff.mpr spells]
  | paren inside ih => exact ih

theorem propertyOfTemplate_of_isTemplateProperty {node : Node} (found : node.isTemplateProperty name = true) :
    PropertyOfTemplate name node := by
  unfold isTemplateProperty at found
  fun_induction withoutParens node with
  | case1 extent argument ih => exact .paren (ih found)
  | case2 node bare =>
    split at found
    · obtain ⟨same, template⟩ := Bool.and_eq_true_iff.mp found
      obtain rfl := eq_of_beq same
      exact .member (template_of_isTemplate template)
    · obtain ⟨spelled, template⟩ := Bool.and_eq_true_iff.mp found
      exact .index (template_of_isTemplate template) (keyName?_eq_some_iff.mp (eq_of_beq spelled))
    · cases found

/-! ### What is not read -/

/-- What may be mistaken for the bare name `Template` in front of a property: any parenthesis, the name itself
among them, a wrapped name, and an access in its turn. -/
inductive NotBare : Node → Prop
  | paren : NotBare (.paren extent argument)
  | chain : NotBare (.chain extent expression)
  | typed : NotBare (.typed extent before expression after)
  | member : NotBare (.member extent receiver found marked)
  | index : NotBare (.index extent receiver key marked)
  | privateMember : NotBare (.privateMember extent receiver field marked)

/-- What may be mistaken for a template. -/
inductive NotTemplate : Node → Prop
  | name : NotTemplate (.identifier place name)
  | chain : NotTemplate (.chain extent expression)
  | typed : NotTemplate (.typed extent before expression after)
  | privateMember : NotTemplate (.privateMember extent receiver field marked)
  | member (object : NotBare receiver) : NotTemplate (.member extent receiver found marked)
  | index (object : NotBare receiver) : NotTemplate (.index extent receiver key marked)
  | paren (inside : NotTemplate argument) : NotTemplate (.paren extent argument)

/-- A key in brackets that may be mistaken for the spelling of a name: one in parentheses, and a template literal
with substitutions or without a first piece that is cooked. -/
inductive NotSpelled : Node → Prop
  | paren : NotSpelled (.paren extent argument)
  | substituted : NotSpelled (.template extent quasis (first :: others))
  | uncooked : NotSpelled (.template extent (none :: quasis) [])
  | missing : NotSpelled (.template extent [] [])

/-- What may be mistaken for a property of a template. -/
inductive NotPropertyOfTemplate : Node → Prop
  | chain : NotPropertyOfTemplate (.chain extent expression)
  | typed : NotPropertyOfTemplate (.typed extent before expression after)
  | privateMember : NotPropertyOfTemplate (.privateMember extent receiver field marked)
  | member (object : NotTemplate receiver) : NotPropertyOfTemplate (.member extent receiver found marked)
  | index (object : NotTemplate receiver) : NotPropertyOfTemplate (.index extent receiver key marked)
  | key (unspelled : NotSpelled key) : NotPropertyOfTemplate (.index extent receiver key marked)
  | paren (inside : NotPropertyOfTemplate argument) : NotPropertyOfTemplate (.paren extent argument)

theorem NotTemplate.not_template (mistaken : NotTemplate node) : ¬ Template node := by
  induction mistaken with
  | name | chain | typed | privateMember => rintro ⟨⟩
  | member object | index object =>
    rintro ⟨⟩
    cases object
  | paren inside ih =>
    rintro (_ | _ | template)
    exact ih template

theorem NotPropertyOfTemplate.not_property (mistaken : NotPropertyOfTemplate node) :
    ¬ PropertyOfTemplate name node := by
  induction mistaken with
  | chain | typed | privateMember => rintro ⟨⟩
  | member object | index object =>
    rintro (template | ⟨template, _⟩)
    exact object.not_template template
  | key unspelled =>
    rintro (_ | ⟨_, spells⟩)
    cases unspelled <;> cases spells
  | paren inside ih =>
    rintro (_ | _ | property)
    exact ih property

/-- Exactly the spellings of a property of a template are taken for one, and so nothing is that comes close. -/
theorem isTemplateProperty_iff_spelled (node : Node) (name : String) :
    (node.isTemplateProperty name = true ↔ PropertyOfTemplate name node) ∧
      (NotPropertyOfTemplate node → node.isTemplateProperty name = false) := by
  refine ⟨⟨propertyOfTemplate_of_isTemplateProperty, PropertyOfTemplate.isTemplateProperty⟩, ?_⟩
  intro mistaken
  refine Bool.eq_false_iff.mpr fun found => ?_
  exact mistaken.not_property (propertyOfTemplate_of_isTemplateProperty found)

/-- In `((Template.a)["events"])` the property `events` is found, and in `(Template).a.events` it is not. -/
theorem isTemplateProperty_around_parens :
    (Node.paren ⟨0, 24⟩ (.index ⟨1, 23⟩
      (.paren ⟨1, 13⟩ (.member ⟨2, 12⟩ (.identifier ⟨2, 10⟩ "Template") "a" false))
      (.literal ⟨14, 22⟩ (.string "events")) false)).isTemplateProperty "events" = true ∧
    NotPropertyOfTemplate (.member ⟨0, 19⟩ (.member ⟨0, 12⟩
      (.paren ⟨0, 10⟩ (.identifier ⟨1, 9⟩ "Template")) "a" false) "events" false) ∧
    (Node.member ⟨0, 19⟩ (.member ⟨0, 12⟩
      (.paren ⟨0, 10⟩ (.identifier ⟨1, 9⟩ "Template")) "a" false) "events" false).isTemplateProperty "events" =
        false := by
  refine ⟨?_, .member (.member .paren), ?_⟩
  · exact (isTemplateProperty_iff_spelled _ "events").1.mpr (.paren (.index (.paren .member) .string))
  · exact (isTemplateProperty_iff_spelled _ "events").2 (.member (.member .paren))

end Node

end EventMapLint
