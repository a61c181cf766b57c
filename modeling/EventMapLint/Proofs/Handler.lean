import EventMapLint.EventMap

/-! The parts of an event map and the positions of a handler's parameters. -/

namespace EventMapLint

/-- A call declares an event map: its callee is the `events` property of a template, and its first argument is an
object literal with these entries. -/
structure Call.Declares (call : Call) (entries : List Node) : Prop where
  callee : call.callee.isTemplateProperty "events" = true
  map : ∃ first more span, call.arguments = first :: more ∧ first.withoutParens = .object span entries

theorem Call.eventMap?_eq_some_iff {call : Call} : call.eventMap? = some entries ↔ call.Declares entries := by
  constructor
  · intro found
    unfold eventMap? at found
    split at found
    · cases found
    · rename_i first more listed
      split at found
      · rename_i callee
        split at found
        · rename_i span properties object
          cases found
          exact ⟨callee, first, more, span, listed, object⟩
        · cases found
      · cases found
  · rintro ⟨callee, first, more, span, listed, object⟩
    simp [eventMap?, listed, callee, object]

/-- An entry of an event map declares a handler under a key. -/
inductive Node.Handles : Node → (key : Node) → (parameters : List Node) → (last : Option Node) → Prop
  | property (handler : value.withoutParens = .function extent form typeParameters parameters last returnType body) :
      Handles (.property entry kind computed method shorthand key value) key parameters last

theorem Node.parameters?_eq_some_iff {node : Node} :
    node.parameters? = some (parameters, last) ↔
      ∃ extent form typeParameters returnType body,
        node = .function extent form typeParameters parameters last returnType body := by
  constructor
  · intro found
    cases node with
    | function extent form typeParameters _ _ returnType body =>
      cases found
      exact ⟨extent, form, typeParameters, returnType, body, rfl⟩
    | _ => cases found
  · rintro ⟨_, _, _, _, _, rfl⟩
    rfl

/-- A parameter that is a plain identifier without a default value. -/
inductive Node.Binds : Node → String → Prop
  | identifier : Binds (.parameter extent decorators (.identifier place name) ascription none marked) name

namespace HandlerParameter

theorem span_ofNode (node : Node) : (ofNode node).span = node.span := by
  unfold ofNode
  split <;> rfl

theorem name?_ofNode {node : Node} : (ofNode node).name? = some name ↔ node.Binds name := by
  constructor
  · intro named
    unfold ofNode at named
    split at named
    · cases named
      exact .identifier
    · cases named
  · rintro ⟨⟩
    rfl

theorem name?_ofNode_eq_none {node : Node} : (ofNode node).name? = none ↔ ∀ name, ¬ node.Binds name := by
  simp only [← name?_ofNode, Option.eq_none_iff_forall_ne_some, ne_eq]

/-- A slot describes a regular parameter: it spans the parameter and has the name that the parameter binds, if it
binds one. -/
structure Describes (slot : HandlerParameter) (parameter : Node) : Prop where
  span : slot.span = parameter.span
  name : ∀ name, slot.name? = some name ↔ parameter.Binds name

theorem describes_iff {slot : HandlerParameter} {parameter : Node} :
    slot.Describes parameter ↔ slot = ofNode parameter := by
  constructor
  · intro describes
    rcases slot with ⟨span, name?⟩
    have place : span = (ofNode parameter).span := describes.span.trans (span_ofNode parameter).symm
    have named : name? = (ofNode parameter).name? :=
      Option.ext fun name => (describes.name name).trans name?_ofNode.symm
    rw [place, named]
  · rintro rfl
    exact ⟨span_ofNode parameter, fun _ => name?_ofNode⟩

/-- All positional parameters. A rest element stands behind the others and has no name. -/
def positional (parameters : List Node) (rest : Option Node) : List HandlerParameter :=
  parameters.map ofNode ++ rest.toList.map fun node => ⟨node.span, none⟩

theorem positional_cons (parameter : Node) (parameters : List Node) (rest : Option Node) :
    positional (parameter :: parameters) rest = ofNode parameter :: positional parameters rest := rfl

/-- The slots depend on nothing but how each parameter reads and where the rest element stands. -/
theorem positional_congr {last last' : Option Node} (regular : parameters.map ofNode = parameters'.map ofNode)
    (rest : last.map Node.span = last'.map Node.span) : positional parameters last = positional parameters' last' := by
  have unnamed (last : Option Node) : (last.toList.map fun node => (⟨node.span, none⟩ : HandlerParameter)) =
      (last.map Node.span).toList.map fun span => ⟨span, none⟩ := by
    cases last <;> rfl
  rw [positional, positional, regular, unnamed, unnamed, rest]

/-- The slots in all positions of a handler: one for each parameter, in their order, and behind them one without a
name for the rest element, if there is one. -/
inductive Lists : List Node → Option Node → List HandlerParameter → Prop
  | nothing : Lists [] none []
  | rest : Lists [] (some last) [⟨last.span, none⟩]
  | parameter (describes : slot.Describes parameter) (behind : Lists parameters last slots) :
      Lists (parameter :: parameters) last (slot :: slots)

theorem lists_positional (parameters : List Node) (last : Option Node) :
    Lists parameters last (positional parameters last) := by
  induction parameters with
  | nil =>
    cases last with
    | none => exact .nothing
    | some _ => exact .rest
  | cons parameter parameters ih => exact .parameter (describes_iff.mpr rfl) ih

/-- What is listed is determined by the parameters. -/
theorem lists_iff : Lists parameters last slots ↔ slots = positional parameters last := by
  constructor
  · intro lists
    induction lists with
    | nothing => rfl
    | rest => rfl
    | parameter describes _ ih => rw [positional_cons, describes_iff.mp describes, ih]
  · rintro rfl
    exact lists_positional parameters last

theorem length_positional (parameters : List Node) (last : Option Node) :
    (positional parameters last).length = parameters.length + if last.isSome then 1 else 0 := by
  cases last <;> simp [positional]

/-- Behind the last parameter stands the rest element. -/
theorem getElem?_positional_length (parameters : List Node) (last : Option Node) :
    (positional parameters last)[parameters.length]? = last.map fun node => ⟨node.span, none⟩ := by
  cases last <;> simp [positional]

theorem getElem?_positional {parameters : List Node} {rest : Option Node} {j : Nat} :
    (positional parameters rest)[j]? = some slot ↔
      (∃ parameter, parameters[j]? = some parameter ∧ slot = ofNode parameter) ∨
        ∃ last, rest = some last ∧ j = parameters.length ∧ slot = ⟨last.span, none⟩ := by
  rcases Nat.lt_or_ge j parameters.length with inside | behind
  · have other : j ≠ parameters.length := by omega
    simp [positional, List.getElem?_append_left, inside, other, eq_comm]
  · have outside : parameters[j]? = none := by simpa using behind
    cases rest with
    | none => simp [positional, outside]
    | some last =>
      rw [positional, List.getElem?_append_right (by simpa using behind)]
      simp [outside, List.getElem?_singleton, eq_comm]
      omega

end HandlerParameter

open HandlerParameter

theorem leadingParameters_eq_take (parameters : List Node) (rest : Option Node) (count : Nat) :
    leadingParameters parameters rest count = (HandlerParameter.positional parameters rest).take count := by
  have size : ((parameters.take count).map HandlerParameter.ofNode).length = min count parameters.length := by simp
  simp only [leadingParameters, size, HandlerParameter.positional]
  split
  · rename_i short
    have fits : parameters.length < count := by omega
    have few : rest.toList.length ≤ 1 := by cases rest <;> simp
    rw [List.take_of_length_le (Nat.le_of_lt fits), List.take_of_length_le]
    simp only [List.length_append, List.length_map]
    omega
  · have full : count ≤ (parameters.map HandlerParameter.ofNode).length := by
      simp only [List.length_map]
      omega
    rw [List.take_append_of_le_length full, List.map_take]

/-- The leading parameters of a handler are the first of the slots in all its positions, however many are asked for. So
there are as many of them as are asked for or as there are positions, whichever is less. Fewer of them come first among
more. The rest element is among them if and only if more are asked for than there are regular parameters, and then it
stands right behind these, each of which keeps its own place. -/
theorem leadingParameters_are_first_positions (parameters : List Node) (last : Option Node) (count : Nat) :
    (∀ slots, Lists parameters last slots ↔ slots = positional parameters last) ∧
    leadingParameters parameters last count = (positional parameters last).take count ∧
    (leadingParameters parameters last count).length =
      min count (parameters.length + if last.isSome then 1 else 0) ∧
    (∀ fewer ≤ count, leadingParameters parameters last fewer <+: leadingParameters parameters last count) ∧
    (leadingParameters parameters last count)[parameters.length]? =
      (if parameters.length < count then last.map fun node => ⟨node.span, none⟩ else none) ∧
    ∀ i < count, ∀ parameter, parameters[i]? = some parameter →
      ∃ slot, (leadingParameters parameters last count)[i]? = some slot ∧ slot.Describes parameter := by
  refine ⟨fun _ => lists_iff, leadingParameters_eq_take parameters last count, ?_, ?_, ?_, ?_⟩
  · rw [leadingParameters_eq_take, List.length_take, length_positional]
  · intro fewer le
    rw [leadingParameters_eq_take, leadingParameters_eq_take]
    exact List.take_prefix_take_left le
  · rw [leadingParameters_eq_take, List.getElem?_take, getElem?_positional_length]
  · intro i asked parameter found
    refine ⟨ofNode parameter, ?_, describes_iff.mpr rfl⟩
    rw [leadingParameters_eq_take, List.getElem?_take_of_lt asked]
    exact getElem?_positional.mpr (.inl ⟨parameter, found, rfl⟩)

/-- The parameters `event`, `[]` and `limit = 5`, written one behind the other. -/
def mixedParameters : List Node :=
  [.parameter ⟨1, 6⟩ [] (.identifier ⟨1, 6⟩ "event") [] none false,
    .parameter ⟨8, 10⟩ [] (.arrayPattern ⟨8, 10⟩ []) [] none false,
    .parameter ⟨12, 21⟩ [] (.identifier ⟨12, 17⟩ "limit") [] (some (.literal ⟨20, 21⟩ (.number "5"))) false]

/-- The rest element `...more` behind them. -/
def mixedRest : Node := .rest ⟨23, 30⟩ [] (.identifier ⟨26, 30⟩ "more") []

/-- Of four positions three are asked for, then all. Only then the rest element is there, behind the parameter with a
default value, which has no name either and keeps its place. -/
theorem leadingParameters_mixed :
    3 ≤ 4 ∧ 2 < 4 ∧ mixedParameters.length = 3 ∧
      leadingParameters mixedParameters (some mixedRest) 3 <+: leadingParameters mixedParameters (some mixedRest) 4 ∧
      (leadingParameters mixedParameters (some mixedRest) 3)[3]? = none ∧
      (leadingParameters mixedParameters (some mixedRest) 4)[3]? = some ⟨⟨23, 30⟩, none⟩ ∧
      ∃ parameter slot, mixedParameters[2]? = some parameter ∧
        (leadingParameters mixedParameters (some mixedRest) 4)[2]? = some slot ∧ slot.Describes parameter := by
  obtain ⟨_, _, _, _, hidden, _⟩ := leadingParameters_are_first_positions mixedParameters (some mixedRest) 3
  obtain ⟨_, _, _, leads, shown, kept⟩ := leadingParameters_are_first_positions mixedParameters (some mixedRest) 4
  obtain ⟨slot, found, describes⟩ := kept 2 (by decide) _ rfl
  exact ⟨by decide, by decide, rfl, leads 3 (by decide), hidden, shown, _, slot, rfl, found, describes⟩

end EventMapLint
