import EventMapLint.Proofs.Places

/-! Findings in the order of the source. In a tree whose spans fit each other, what is reported about one call is in
source order, and no two findings of a run start at the same place. -/

namespace EventMapLint

def Span.Contains (outer inner : Span) : Prop := outer.start ≤ inner.start ∧ inner.stop ≤ outer.stop

def Span.Before (first second : Span) : Prop := first.stop ≤ second.start

instance (outer inner : Span) : Decidable (outer.Contains inner) :=
  inferInstanceAs (Decidable (outer.start ≤ inner.start ∧ inner.stop ≤ outer.stop))

instance (first second : Span) : Decidable (first.Before second) :=
  inferInstanceAs (Decidable (first.stop ≤ second.start))

theorem Span.Contains.trans {outer middle inner : Span} (first : outer.Contains middle)
    (second : middle.Contains inner) : outer.Contains inner :=
  ⟨Nat.le_trans first.1 second.1, Nat.le_trans second.2 first.2⟩

theorem Span.Before.inner {first second inner other : Span} (before : first.Before second)
    (left : first.Contains inner) (right : second.Contains other) : inner.Before other :=
  Nat.le_trans left.2 (Nat.le_trans before right.1)

namespace Node

/-- One node ends before the other begins. -/
abbrev Before (first second : Node) : Prop := first.span.Before second.span

/-- A shorthand property, whose key and value are the same name of the source. In a pattern a default may follow. -/
inductive IsShorthand : Node → Prop
  | plain (same : key.span = place) : IsShorthand
      (.property extent kind computed method true key (.identifier place name))
  | defaulted : IsShorthand
      (.property extent kind computed method true (.identifier place name) (.defaulted whole target value))

/-- The spans of a node and its children fit: the children lie inside the node, one behind the other, and a parameter
or rest element is not empty and starts before any call inside it. -/
structure Fits (node : Node) : Prop where
  contains : ∀ child ∈ node.children, node.span.Contains child.span
  ordered : node.children.Pairwise Before ∨ node.IsShorthand
  positions : ∀ place ∈ node.positions,
    place.span.start < place.span.stop ∧ ∀ call ∈ place.calls, place.span.start < call.span.start

/-- The spans fit everywhere in a node. -/
def WellSpanned : Node → Prop := Everywhere Fits

theorem WellSpanned.inside {node inner : Node} (well : node.WellSpanned) (deeper : inner.Inside node) :
    inner.WellSpanned :=
  Everywhere.inside well deeper

theorem WellSpanned.child {node child : Node} (well : node.WellSpanned) (member : child ∈ node.children) :
    child.WellSpanned :=
  well.inside (inside_of_mem member)

theorem WellSpanned.contains {node inner : Node} (well : node.WellSpanned) (inside : inner.Inside node) :
    node.span.Contains inner.span := by
  induction inside with
  | self => exact ⟨Nat.le_refl _, Nat.le_refl _⟩
  | child member _ ih =>
    have outer := (well _ .self).contains _ member
    exact outer.trans (ih (well.child member))

theorem WellSpanned.of_mem_positions {node handler place : Node} (well : node.WellSpanned)
    (inside : handler.Inside node) (position : place ∈ handler.positions) :
    place.span.start < place.span.stop ∧ node.span.Contains place.span := by
  refine ⟨((well handler inside).positions place position).1, well.contains ?_⟩
  exact (inside_of_mem (mem_children_of_mem_positions position)).trans inside

/-- What is found in a node points into the node and is not empty. -/
theorem WellSpanned.of_mem_findings {node : Node} (well : node.WellSpanned) {rules : Rules}
    (found : diagnostic ∈ node.findings rules) :
    diagnostic.span.start < diagnostic.span.stop ∧ node.span.Contains diagnostic.span := by
  obtain ⟨handler, place, inside, position, same⟩ := exists_function_of_mem_findings found
  rw [same]
  exact well.of_mem_positions inside position

/-! ### One call -/

/-- The positions of a handler lie one behind the other. -/
theorem Fits.positions_ordered {handler : Node} (fits : handler.Fits) : handler.positions.Pairwise Before := by
  cases handler with
  | function extent form typeParameters parameters last returnType body =>
    rcases fits.ordered with ordered | shorthand
    · have listed := (List.sublist_append_left (parameters ++ last.toList) (returnType ++ body)).trans
        (List.sublist_append_right typeParameters _)
      simp only [List.append_assoc] at listed
      exact ordered.sublist listed
    · cases shorthand
  | _ => exact .nil

private theorem pairwise_getElem? {R : α → α → Prop} {items : List α} {i j : Nat} (ordered : items.Pairwise R)
    (first : items[i]? = some item) (second : items[j]? = some other) (less : i < j) : R item other := by
  obtain ⟨_, rfl⟩ := List.getElem?_eq_some_iff.mp first
  obtain ⟨_, rfl⟩ := List.getElem?_eq_some_iff.mp second
  exact List.pairwise_iff_getElem.mp ordered i j _ _ less

/-- What the rule reports on a call is in source order. -/
theorem WellSpanned.check_ordered {node : Node} (well : node.WellSpanned) {call : Call}
    (standing : node.call? = some call) (rules : Rules) :
    (rules.check call).Pairwise fun first second => first.span.Before second.span := by
  rcases rules with ⟨_ | names⟩
  · exact .nil
  show (names.check call).Pairwise _
  cases map : call.eventMap? with
  | none => simp [Names.check, map]
  | some entries =>
    have checked : names.check call = entries.flatMap names.checkEntry := by simp [Names.check, map]
    obtain ⟨extent, inside⟩ := object_inside standing (Call.eventMap?_eq_some_iff.mp map)
    have object := well.inside inside
    rw [checked, Names.check_eq_map_faults]
    refine List.pairwise_map.mpr ((names.faults_ordered entries).imp_of_mem ?_)
    rintro ⟨i, j, diagnostic⟩ ⟨i', j', later⟩ member laterMember order
    obtain ⟨declared, _, parameters, last, place, entry, handles, position, same⟩ :=
      (Names.mem_faults_iff.mp member).placed
    obtain ⟨declared', _, parameters', last', place', entry', handles', position', same'⟩ :=
      (Names.mem_faults_iff.mp laterMember).placed
    obtain ⟨handler, deeper, positions⟩ := handles.exists_function
    obtain ⟨handler', deeper', positions'⟩ := handles'.exists_function
    have within : declared.WellSpanned := object.child (List.mem_of_getElem? entry)
    have within' : declared'.WellSpanned := object.child (List.mem_of_getElem? entry')
    show diagnostic.span.Before later.span
    rw [same, same']
    rcases order with less | ⟨rfl, less⟩
    · -- The faults are in two entries, one behind the other.
      rcases (object _ .self).ordered with ordered | shorthand
      · have before := pairwise_getElem? ordered entry entry' less
        refine before.inner (within.of_mem_positions deeper ?_).2 (within'.of_mem_positions deeper' ?_).2
        · exact positions ▸ List.mem_of_getElem? position
        · exact positions' ▸ List.mem_of_getElem? position'
      · cases shorthand
    · -- They are in one handler, in two of its positions.
      cases Option.some.inj (entry.symm.trans entry')
      obtain ⟨rfl, rfl⟩ := handles.unique handles'
      have ordered := (within handler deeper).positions_ordered
      rw [positions] at ordered
      have before := pairwise_getElem? ordered position position' less
      exact before

/-! ### A whole run -/

/-- A place inside a node, at whose start nothing that is found in the node begins. -/
structure Clear (rules : Rules) (node place : Node) : Prop where
  contains : node.span.Contains place.span
  apart : ∀ diagnostic ∈ node.findings rules, diagnostic.span.start ≠ place.span.start

/-- Whatever is clear of the findings in a child is clear of those in the other children too. -/
theorem WellSpanned.apart_of_child {node child place : Node} {rules : Rules} (well : node.WellSpanned)
    (ordered : node.children.Pairwise Before) (member : child ∈ node.children)
    (some : place.span.start < place.span.stop) (clear : Clear rules child place) :
    ∀ diagnostic ∈ node.children.flatMap (findings rules), diagnostic.span.start ≠ place.span.start := by
  intro diagnostic reported
  obtain ⟨other, present, found⟩ := List.mem_flatMap.mp reported
  obtain ⟨nonempty, inside⟩ := (well.child present).of_mem_findings found
  obtain ⟨front, back, split⟩ := List.append_of_mem member
  rw [split] at ordered present
  obtain ⟨_, ordered, before⟩ := List.pairwise_append.mp ordered
  have behind := (List.pairwise_cons.mp ordered).1
  rcases List.mem_append.mp present with earlier | here
  · have apart := (before other earlier child List.mem_cons_self).inner inside clear.contains
    exact Nat.ne_of_lt (Nat.lt_of_lt_of_le nonempty apart)
  · rcases List.mem_cons.mp here with rfl | later
    · exact clear.apart diagnostic found
    · have apart := (behind other later).inner clear.contains inside
      exact Nat.ne_of_gt (Nat.lt_of_lt_of_le some apart)

theorem Clear.of_child {node child place : Node} {rules : Rules} (well : node.WellSpanned) (plain : node.call? = none)
    (ordered : node.children.Pairwise Before) (member : child ∈ node.children)
    (some : place.span.start < place.span.stop) (clear : Clear rules child place) : Clear rules node place where
  contains := ((well _ .self).contains child member).trans clear.contains
  apart := by
    rw [findings_eq, plain]
    exact well.apart_of_child ordered member some clear

theorem Clear.of_withoutParens {node place : Node} {rules : Rules} (well : node.WellSpanned)
    (clear : Clear rules node.withoutParens place) : Clear rules node place where
  contains := (well.contains (inside_withoutParens node)).trans clear.contains
  apart := findings_withoutParens rules node ▸ clear.apart

theorem mem_findings_of_call? {node : Node} {call : Call} {rules : Rules} (standing : node.call? = some call)
    (reported : diagnostic ∈ rules.check call) : diagnostic ∈ node.findings rules := by
  rw [findings_eq, standing]
  exact List.mem_append_left _ (by simpa using reported)

/-- What is found in a parameter begins behind the start of the parameter. -/
theorem Clear.of_position {handler place : Node} {rules : Rules} (well : handler.WellSpanned)
    (position : place ∈ handler.positions) : Clear rules handler place := by
  have fits := well _ .self
  obtain ⟨some, later⟩ := fits.positions place position
  have member := mem_children_of_mem_positions position
  have inPlace : Clear rules place place := by
    refine ⟨⟨Nat.le_refl _, Nat.le_refl _⟩, ?_⟩
    intro diagnostic found
    obtain ⟨call, present, reported⟩ := List.mem_flatMap.mp found
    obtain ⟨around, inside, standing⟩ := mem_calls.mp present
    have within := (well.child member).inside inside
    have contains := (within.of_mem_findings (mem_findings_of_call? standing reported)).2
    rw [(children_of_call? standing).1] at contains
    exact Nat.ne_of_gt (Nat.lt_of_lt_of_le (later call present) contains.1)
  cases handler with
  | function => exact .of_child well rfl (fits.ordered.resolve_right nofun) member some inPlace
  | _ => cases position

/-- A parameter of a handler is clear of what is found in the entry that declares the handler, its key included. -/
theorem Clear.of_handles {declared place : Node} {rules : Rules} (well : declared.WellSpanned)
    (handles : Handles declared key parameters last) (position : place ∈ parameters ++ last.toList) :
    place.span.start < place.span.stop ∧ Clear rules declared place := by
  cases handles with
  | @property entry kind computed method shorthand _ value _ _ _ _ _ _ _ handler =>
    have member : value ∈ (Node.property entry kind computed method shorthand key value).children :=
      List.mem_cons_of_mem _ List.mem_cons_self
    have within : value.withoutParens.WellSpanned := (well.child member).inside (inside_withoutParens value)
    have position : place ∈ value.withoutParens.positions := handler ▸ position
    have some := (within.of_mem_positions .self position).1
    -- The value of a shorthand property is no function.
    have long : ¬ (Node.property entry kind computed method shorthand key value).IsShorthand := by
      rintro ⟨⟩ <;> cases handler
    have inValue : Clear rules value place := .of_withoutParens (well.child member) (.of_position within position)
    exact ⟨some, .of_child well rfl ((well _ .self).ordered.resolve_right long) member some inValue⟩

/-- Nothing that is found inside a call begins where a parameter begins that is reported for the call itself. -/
theorem WellSpanned.apart_of_call {node : Node} {call : Call} {rules : Rules} (well : node.WellSpanned)
    (standing : node.call? = some call) (reported : diagnostic ∈ rules.check call) :
    ∀ other ∈ node.children.flatMap (findings rules), other.span.start ≠ diagnostic.span.start := by
  obtain ⟨place, holds, same⟩ := Call.exists_holds reported
  rw [same]
  cases holds with
  | @intro entries declared key parameters last declares entry handles position =>
    obtain ⟨_, first, more, extent, arguments, map⟩ := declares
    obtain ⟨_, typeArguments, parts⟩ := children_of_call? standing
    have inFirst : first ∈ node.children := by simp [parts, arguments]
    have object : (Node.object extent entries).WellSpanned :=
      map ▸ (well.child inFirst).inside (inside_withoutParens first)
    -- From the entry outwards, what is clear of the findings so far is clear of those one level up.
    obtain ⟨some, inEntry⟩ := Clear.of_handles (object.child entry) handles position
    have inMap : Clear rules (.object extent entries) place :=
      .of_child object rfl ((object _ .self).ordered.resolve_right nofun) entry some inEntry
    have inArgument : Clear rules first place := .of_withoutParens (well.child inFirst) (map ▸ inMap)
    refine well.apart_of_child ((well _ .self).ordered.resolve_right ?_) inFirst some inArgument
    rintro ⟨⟩ <;> cases standing

/-- Nodes one behind the other have no findings that begin at the same place, if none of them has any. -/
theorem distinct_of_ordered {nodes : List Node} {rules : Rules} (well : ∀ node ∈ nodes, node.WellSpanned)
    (ordered : nodes.Pairwise Before)
    (each : ∀ node ∈ nodes, (node.findings rules).Pairwise fun first second => first.span.start ≠ second.span.start) :
    (nodes.flatMap (findings rules)).Pairwise fun first second => first.span.start ≠ second.span.start := by
  refine List.pairwise_flatMap.mpr ⟨each, ordered.imp_of_mem ?_⟩
  intro node other member present before diagnostic found later foundLater
  obtain ⟨some, inside⟩ := (well node member).of_mem_findings found
  obtain ⟨_, inside'⟩ := (well other present).of_mem_findings foundLater
  have apart := before.inner inside inside'
  exact Nat.ne_of_lt (Nat.lt_of_lt_of_le some apart)

theorem WellSpanned.distinct {node : Node} (well : node.WellSpanned) (rules : Rules) :
    (node.findings rules).Pairwise fun first second => first.span.start ≠ second.span.start := by
  induction node using children_induction with
  | step node ih =>
    have each (child : Node) (member : child ∈ node.children) := ih child member (well.child member)
    rw [findings_eq]
    refine List.pairwise_append.mpr ⟨?_, ?_, ?_⟩
    · cases standing : node.call? with
      | none => exact .nil
      | some call =>
        simp only [Option.toList_some, List.flatMap_singleton]
        refine (well.check_ordered standing rules).imp_of_mem ?_
        intro diagnostic later member _ before
        have some := (well.of_mem_findings (mem_findings_of_call? standing member)).1
        exact Nat.ne_of_lt (Nat.lt_of_lt_of_le some before)
    · rcases (well _ .self).ordered with ordered | shorthand
      · exact distinct_of_ordered (fun _ => well.child) ordered each
      · -- The name that the key and the value of a shorthand property share is no call.
        cases shorthand with
        | plain => simpa [children, findings, calls] using each _ List.mem_cons_self
        | defaulted => simpa [children, findings, calls] using each _ (List.mem_cons_of_mem _ List.mem_cons_self)
    · intro diagnostic reported other found
      cases standing : node.call? with
      | none => simp [standing] at reported
      | some call =>
        have reported : diagnostic ∈ rules.check call := by simpa [standing] using reported
        exact (well.apart_of_call standing reported other found).symm

end Node

/-- The spans fit everywhere in a program, and its statements lie one behind the other. -/
structure Program.WellSpanned (program : Program) : Prop where
  ordered : program.body.Pairwise Node.Before
  statements : ∀ statement ∈ program.body, statement.WellSpanned

/-- What the rule reports on one call is in strict source order, each finding ending before the next one starts, and
no two findings of a whole run start at the same place, however event maps are nested. -/
theorem findings_in_order_and_once :
    (∀ (names : Names) (node : Node) (call : Call), node.call? = some call → node.WellSpanned →
      (names.check call).Pairwise fun first second =>
        first.span.start < second.span.start ∧ first.span.stop ≤ second.span.start) ∧
    ∀ (rules : Rules) (program : Program), program.WellSpanned →
      (program.lint rules).diagnostics.Pairwise fun first second => first.span.start ≠ second.span.start := by
  constructor
  · intro names node call standing well
    refine (well.check_ordered standing ⟨some names⟩).imp_of_mem ?_
    intro diagnostic later member _ before
    have some := (well.of_mem_findings (Node.mem_findings_of_call? standing member)).1
    exact ⟨Nat.lt_of_lt_of_le some before, before⟩
  · intro rules program well
    rw [Program.diagnostics_lint]
    exact Node.distinct_of_ordered well.statements well.ordered fun statement member =>
      (well.statements statement member).distinct rules

/-- The call in the statement `Template.a.events({b(x=Template.c.events({d(y){}})){}})`: the default of a parameter
declares an event map of its own. -/
def nestedEvents : Node :=
  .call ⟨0, 55⟩ (.member ⟨0, 17⟩ (.member ⟨0, 10⟩ (.identifier ⟨0, 8⟩ "Template") "a" false) "events" false) []
    [.object ⟨18, 54⟩ [.property ⟨19, 53⟩ .init false true false (.identifier ⟨19, 20⟩ "b")
      (.function ⟨20, 53⟩ (.ordinary false false false) [] [.parameter ⟨21, 50⟩ [] (.identifier ⟨21, 22⟩ "x") []
        (some (.call ⟨23, 50⟩
          (.member ⟨23, 40⟩ (.member ⟨23, 33⟩ (.identifier ⟨23, 31⟩ "Template") "c" false) "events" false) []
          [.object ⟨41, 49⟩ [.property ⟨42, 48⟩ .init false true false (.identifier ⟨42, 43⟩ "d")
            (.function ⟨43, 48⟩ (.ordinary false false false) []
              [.parameter ⟨44, 45⟩ [] (.identifier ⟨44, 45⟩ "y") [] none false] none [] [])]] false)) false]
        none [] [])]] false

theorem nestedEvents_wellSpanned : nestedEvents.WellSpanned := by
  repeat' first
    | exact List.forall_mem_nil _
    | refine List.forall_mem_cons.mpr ⟨?_, ?_⟩
    | refine Node.everywhere_iff.mpr ⟨⟨by decide, .inl (by decide), by decide⟩, ?_⟩

/-- The parameter `x` is reported before the parameter `y` in its default, which begins elsewhere. -/
theorem findings_in_nested_events :
    (∃ call, nestedEvents.call? = some call ∧ (Names.default.check call).map (·.span) = [⟨21, 50⟩] ∧
      (Names.default.check call).Pairwise fun first second =>
        first.span.start < second.span.start ∧ first.span.stop ≤ second.span.start) ∧
    ((Program.mk [.expressionStatement ⟨0, 55⟩ nestedEvents]).lint Rules.all).diagnostics.map (·.span) =
      [⟨21, 50⟩, ⟨44, 45⟩] ∧
    ((Program.mk [.expressionStatement ⟨0, 55⟩ nestedEvents]).lint Rules.all).diagnostics.Pairwise fun first second =>
      first.span.start ≠ second.span.start := by
  refine ⟨⟨_, rfl, by decide, ?_⟩, by decide, ?_⟩
  · exact findings_in_order_and_once.1 Names.default nestedEvents _ rfl nestedEvents_wellSpanned
  · refine findings_in_order_and_once.2 Rules.all _ ⟨List.pairwise_singleton _ _, ?_⟩
    refine List.forall_mem_singleton.mpr (Node.everywhere_iff.mpr ⟨⟨by decide, .inl (by decide), by decide⟩, ?_⟩)
    exact List.forall_mem_singleton.mpr nestedEvents_wellSpanned

end EventMapLint
