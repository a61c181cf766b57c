import EventMapLint.Proofs.Faults
import EventMapLint.Proofs.Tree.Children

/-! Doing what the help says to one event map: each misnamed parameter of its handlers becomes a plain identifier of
the expected name. An amended event map has no faults, one without faults is left as it is, and no call is added. -/

namespace EventMapLint

namespace Node

/-- A plain identifier of the expected name in the place of a parameter or rest element. A default value goes, and
with the pattern whatever is inside it; decorators and the expressions in a type stay. -/
def bound (expected : String) : Node → Node
  | .parameter extent decorators pattern ascription _ marked =>
      .parameter extent decorators (.identifier pattern.span expected) ascription none marked
  | .rest extent decorators pattern ascription =>
      .parameter extent decorators (.identifier pattern.span expected) ascription none false
  | node => .parameter node.span [] (.identifier node.span expected) [] none false

/-- A parameter that has the expected name already is not touched. -/
def amended (expected : String) (parameter : Node) : Node :=
  if (HandlerParameter.ofNode parameter).name? = some expected then parameter else parameter.bound expected

/-- Applies a function to the expression inside all parentheses, which stay around it. -/
def underParens (change : Node → Node) : Node → Node
  | .paren extent inner => .paren extent (inner.underParens change)
  | node => change node

end Node

/-- The parameters and the rest element after amending those in the positions of expected names. A rest element in
such a position becomes a parameter. -/
def amendParameters : (expected : List String) → List Node → Option Node → List Node × Option Node
  | [], parameters, last => (parameters, last)
  | _ :: _, [], none => ([], none)
  | name :: _, [], some last => ([last.bound name], none)
  | name :: expected, parameter :: parameters, last =>
      (parameter.amended name :: (amendParameters expected parameters last).1,
        (amendParameters expected parameters last).2)

namespace Names

def amendFunction (names : Names) : Node → Node
  | .function extent form typeParameters parameters last returnType body =>
      .function extent form typeParameters (amendParameters names.toList parameters last).1
        (amendParameters names.toList parameters last).2 returnType body
  | node => node

def amendEntry (names : Names) : Node → Node
  | .property extent kind computed method shorthand key value =>
      .property extent kind computed method shorthand key (value.underParens names.amendFunction)
  | node => node

def amendObject (names : Names) : Node → Node
  | .object extent entries => .object extent (entries.map names.amendEntry)
  | node => node

/-- The arguments of a call with the event map amended, if there is one. -/
def amendArguments (names : Names) (callee : Node) : List Node → List Node
  | [] => []
  | first :: more =>
      if callee.isTemplateProperty "events" then first.underParens names.amendObject :: more else first :: more

end Names

/-! ### An amended event map has no faults -/

theorem Node.binds_bound (expected : String) (node : Node) : (node.bound expected).Binds expected := by
  cases node <;> exact .identifier

theorem Node.name?_amended (expected : String) (parameter : Node) :
    (HandlerParameter.ofNode (parameter.amended expected)).name? = some expected := by
  unfold amended
  split
  · assumption
  · exact HandlerParameter.name?_ofNode.mpr (parameter.binds_bound expected)

theorem amendParameters_named (expected : List String) (parameters : List Node) (last : Option Node) :
    ∀ slot ∈ (HandlerParameter.positional (amendParameters expected parameters last).1
      (amendParameters expected parameters last).2).zip expected, slot.1.name? = some slot.2 := by
  induction expected generalizing parameters with
  | nil => simp
  | cons name expected ih =>
    intro slot member
    match parameters, last with
    | [], none => simp [amendParameters, HandlerParameter.positional] at member
    | [], some last =>
      have same : slot = (HandlerParameter.ofNode (last.bound name), name) := by
        simpa [amendParameters, HandlerParameter.positional] using member
      rw [same]
      exact HandlerParameter.name?_ofNode.mpr (last.binds_bound name)
    | parameter :: parameters, last =>
      rw [amendParameters, HandlerParameter.positional_cons, List.zip_cons_cons] at member
      rcases List.mem_cons.mp member with same | later
      · rw [same]
        exact parameter.name?_amended name
      · exact ih parameters slot later

/-- A handler without faults has nothing to amend. -/
theorem amendParameters_eq_self {expected : List String} {parameters : List Node} {last : Option Node}
    (named : ∀ slot ∈ (HandlerParameter.positional parameters last).zip expected, slot.1.name? = some slot.2) :
    amendParameters expected parameters last = (parameters, last) := by
  induction expected generalizing parameters with
  | nil => rfl
  | cons name expected ih =>
    match parameters, last with
    | [], none => rfl
    | [], some last =>
      have wrong := named (⟨last.span, none⟩, name) (by simp [HandlerParameter.positional])
      cases wrong
    | parameter :: parameters, last =>
      rw [HandlerParameter.positional_cons, List.zip_cons_cons] at named
      have first : parameter.amended name = parameter := by
        rw [Node.amended, ite_cond_eq_true _ _ (eq_true (named _ List.mem_cons_self))]
      have others := ih fun slot member => named slot (List.mem_cons_of_mem _ member)
      rw [amendParameters, first, others]

namespace Node

theorem withoutParens_underParens {change : Node → Node}
    (plain : ∀ node, (change node).withoutParens = change node ∨ change node = node)
    (node : Node) : (node.underParens change).withoutParens = change node.withoutParens := by
  fun_induction underParens change node with
  | case1 extent inner ih => exact ih
  | case2 node other =>
    have bare := withoutParens_of_ne_paren other
    rcases plain node with unwrapped | unchanged
    · rw [unwrapped, bare]
    · rw [bare, unchanged, bare]

theorem underParens_eq_self {change : Node → Node} {node : Node}
    (same : change node.withoutParens = node.withoutParens) : node.underParens change = node := by
  fun_induction underParens change node with
  | case1 extent inner ih => rw [ih same]
  | case2 node other => rwa [withoutParens_of_ne_paren other] at same

end Node

namespace Names

theorem checkHandler_amendFunction (names : Names) (key : Span) (node : Node) :
    names.checkHandler key (names.amendFunction node) = [] := by
  apply checkHandler_eq_nil_iff.mpr
  cases node with
  | function => exact amendParameters_named _ _ _
  | _ => simp [amendFunction, slots, Node.parameters?]

theorem amendFunction_eq_self {names : Names} {key : Span} {node : Node}
    (clean : names.checkHandler key node = []) : names.amendFunction node = node := by
  cases node with
  | function =>
    have named := checkHandler_eq_nil_iff.mp clean
    rw [amendFunction, amendParameters_eq_self named]
  | _ => rfl

theorem checkEntry_amendEntry (names : Names) (entry : Node) : names.checkEntry (names.amendEntry entry) = [] := by
  cases entry with
  | property extent kind computed method shorthand key value =>
    have plain (node : Node) : (names.amendFunction node).withoutParens = names.amendFunction node ∨
        names.amendFunction node = node := by
      cases node with
      | function => exact .inl rfl
      | _ => exact .inr rfl
    rw [amendEntry, checkEntry, Node.withoutParens_underParens plain]
    exact names.checkHandler_amendFunction key.span value.withoutParens
  | _ => rfl

theorem amendEntry_eq_self {names : Names} {entry : Node} (clean : names.checkEntry entry = []) :
    names.amendEntry entry = entry := by
  cases entry with
  | property extent kind computed method shorthand key value =>
    rw [amendEntry, Node.underParens_eq_self (amendFunction_eq_self clean)]
  | _ => rfl

/-- An event map that has been amended has no faults, whatever the callee. -/
theorem check_amendArguments (names : Names) (extent : Span) (callee other : Node) (arguments : List Node)
    (same : other.isTemplateProperty "events" = callee.isTemplateProperty "events") :
    names.check ⟨extent, other, names.amendArguments callee arguments⟩ = [] := by
  cases arguments with
  | nil => rfl
  | cons first more =>
    by_cases template : callee.isTemplateProperty "events" = true
    · have plain (node : Node) : (names.amendObject node).withoutParens = names.amendObject node ∨
          names.amendObject node = node := by
        cases node with
        | object => exact .inl rfl
        | _ => exact .inr rfl
      have object := Node.withoutParens_underParens plain first
      simp only [amendArguments, template, ite_true, check, Call.eventMap?, same, object]
      cases first.withoutParens with
      | object extent entries => simp [amendObject, checkEntry_amendEntry]
      | _ => simp [amendObject]
    · simp [check, Call.eventMap?, amendArguments, template, same]

theorem amendArguments_eq_self {names : Names} {extent : Span} {callee : Node} {arguments : List Node}
    (clean : names.check ⟨extent, callee, arguments⟩ = []) : names.amendArguments callee arguments = arguments := by
  cases arguments with
  | nil => rfl
  | cons first more =>
    by_cases template : callee.isTemplateProperty "events" = true
    · rw [amendArguments, ite_cond_eq_true _ _ (eq_true template), Node.underParens_eq_self]
      simp only [check, Call.eventMap?, template, ite_true] at clean
      cases object : first.withoutParens with
      | object extent entries =>
        simp only [object, List.flatMap_eq_nil_iff] at clean
        have each : entries.map names.amendEntry = entries :=
          (List.map_congr_left fun entry member => amendEntry_eq_self (clean entry member)).trans (List.map_id entries)
        rw [amendObject, each]
      | _ => rfl
    · simp [amendArguments, template]

end Names

/-! ### Amending adds no call -/

namespace Node

theorem calls_bound_subset (expected : String) (node : Node) : (node.bound expected).calls ⊆ node.calls := by
  intro call member
  cases node with
  | parameter | rest =>
    simp only [bound, calls, callsOfOption, List.append_nil, List.mem_append] at member ⊢
    grind
  | _ => simp [bound, calls, callsOfList, callsOfOption] at member

theorem calls_amended_subset (expected : String) (parameter : Node) :
    (parameter.amended expected).calls ⊆ parameter.calls := by
  unfold amended
  split
  · exact List.Subset.refl _
  · exact parameter.calls_bound_subset expected

theorem calls_underParens_subset {change : Node → Node} (fewer : ∀ node, (change node).calls ⊆ node.calls)
    (node : Node) : (node.underParens change).calls ⊆ node.calls := by
  fun_induction underParens change node with
  | case1 extent inner ih => exact ih
  | case2 node => exact fewer node

end Node

theorem calls_amendParameters_subset (expected : List String) (parameters : List Node) (last : Option Node) :
    Node.callsOfList (amendParameters expected parameters last).1 ++
        Node.callsOfOption (amendParameters expected parameters last).2 ⊆
      Node.callsOfList parameters ++ Node.callsOfOption last := by
  fun_induction amendParameters expected parameters last with
  | case1 | case2 => exact List.Subset.refl _
  | case3 name expected last =>
    simpa [Node.callsOfList, Node.callsOfOption] using last.calls_bound_subset name
  | case4 name expected parameter parameters last ih =>
    intro call member
    simp only [Node.callsOfList, List.append_assoc, List.mem_append] at member ih ⊢
    rcases member with first | later
    · exact .inl (parameter.calls_amended_subset name first)
    · exact .inr (List.mem_append.mp (ih (List.mem_append.mpr later)))

namespace Names

theorem calls_amendFunction_subset (names : Names) (node : Node) : (names.amendFunction node).calls ⊆ node.calls := by
  cases node with
  | function extent form typeParameters parameters last returnType body =>
    intro call member
    have fewer := calls_amendParameters_subset names.toList parameters last
    simp only [amendFunction, Node.calls, List.mem_append] at member ⊢
    have kept (inside : call ∈ Node.callsOfList (amendParameters names.toList parameters last).1 ∨
        call ∈ Node.callsOfOption (amendParameters names.toList parameters last).2) :
        call ∈ Node.callsOfList parameters ∨ call ∈ Node.callsOfOption last :=
      List.mem_append.mp (fewer (List.mem_append.mpr inside))
    grind
  | _ => exact List.Subset.refl _

theorem calls_amendEntry_subset (names : Names) (entry : Node) : (names.amendEntry entry).calls ⊆ entry.calls := by
  cases entry with
  | property extent kind computed method shorthand key value =>
    have fewer := Node.calls_underParens_subset names.calls_amendFunction_subset value
    intro call member
    rcases List.mem_append.mp member with inKey | inValue
    · exact List.mem_append_left _ inKey
    · exact List.mem_append_right _ (fewer inValue)
  | _ => exact List.Subset.refl _

theorem calls_amendObject_subset (names : Names) (node : Node) : (names.amendObject node).calls ⊆ node.calls := by
  cases node with
  | object extent entries =>
    intro call member
    simp only [amendObject, Node.calls, Node.callsOfList_eq, List.flatMap_map] at member ⊢
    obtain ⟨entry, present, inside⟩ := List.mem_flatMap.mp member
    exact List.mem_flatMap.mpr ⟨entry, present, names.calls_amendEntry_subset entry inside⟩
  | _ => exact List.Subset.refl _

theorem calls_amendArguments_subset (names : Names) (callee : Node) (arguments : List Node) :
    (names.amendArguments callee arguments).flatMap Node.calls ⊆ arguments.flatMap Node.calls := by
  cases arguments with
  | nil => exact List.Subset.refl _
  | cons first more =>
    rw [amendArguments]
    split
    · intro call member
      rw [List.flatMap_cons] at member ⊢
      rcases List.mem_append.mp member with inFirst | inMore
      · exact List.mem_append_left _ (Node.calls_underParens_subset names.calls_amendObject_subset first inFirst)
      · exact List.mem_append_right _ inMore
    · exact List.Subset.refl _

end Names

end EventMapLint
