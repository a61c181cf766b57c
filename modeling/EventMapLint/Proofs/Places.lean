import EventMapLint.Proofs.Faults
import EventMapLint.Proofs.Run
import EventMapLint.Proofs.Tree.Inside

/-! What a diagnostic points at: a parameter or rest element of a handler, which is a node of the tree. -/

namespace EventMapLint

namespace Node

/-- The parameters of a function and then its rest element. -/
def positions (node : Node) : List Node :=
  match node.parameters? with
  | none => []
  | some (parameters, last) => parameters ++ last.toList

theorem mem_children_of_mem_positions {node place : Node} (member : place ∈ node.positions) :
    place ∈ node.children := by
  cases node with
  | function extent form typeParameters parameters last returnType body =>
    have present : place ∈ parameters ++ last.toList := member
    simp only [children, List.mem_append] at present ⊢
    tauto
  | _ => simp [positions, parameters?] at member

/-- A handler has the parameters of the function that its entry holds as a value. -/
theorem Handles.exists_function (handles : Handles declared key parameters last) :
    ∃ handler : Node, handler.Inside declared ∧ handler.positions = parameters ++ last.toList := by
  obtain ⟨handler⟩ := handles
  refine ⟨_, .child (List.mem_cons_of_mem _ List.mem_cons_self) (inside_withoutParens _), ?_⟩
  rw [handler]
  rfl

/-- An entry declares one handler at most. -/
theorem Handles.unique (handles : Handles declared key parameters last)
    (other : Handles declared key' parameters' last') : parameters = parameters' ∧ last = last' := by
  obtain ⟨handler⟩ := handles
  obtain ⟨handler'⟩ := other
  cases handler.symm.trans handler'
  exact ⟨rfl, rfl⟩

end Node

/-- The place of a fault is the parameter or rest element in its position. -/
theorem Names.Fault.placed {names : Names} (fault : names.Fault entries i j diagnostic) :
    ∃ declared key parameters last place, entries[i]? = some declared ∧ declared.Handles key parameters last ∧
      (parameters ++ last.toList)[j]? = some place ∧ diagnostic.span = place.span := by
  cases fault with
  | renamed entry handler position | unnamed entry handler position =>
    refine ⟨_, _, _, _, _, entry, handler, ?_, rfl⟩
    rw [List.getElem?_append_left (List.getElem?_eq_some_iff.mp position).1, position]
  | rest entry handler => exact ⟨_, _, _, _, _, entry, handler, by simp, rfl⟩

theorem Names.mem_check_iff {names : Names} {call : Call} :
    diagnostic ∈ names.check call ↔ ∃ entries i j, call.Declares entries ∧ names.Fault entries i j diagnostic := by
  simp only [← Call.eventMap?_eq_some_iff, ← mem_faults_iff]
  cases map : call.eventMap? with
  | none => simp [check, map]
  | some entries => simp [check, map, check_eq_map_faults]

/-- A node is a parameter or rest element of a handler in the event map that a call declares. -/
inductive Call.Holds (call : Call) (place : Node) : Prop
  | intro (declares : call.Declares entries) (entry : declared ∈ entries)
      (handles : declared.Handles key parameters last) (position : place ∈ parameters ++ last.toList) :
      Call.Holds call place

theorem Call.exists_holds {rules : Rules} {call : Call} (reported : diagnostic ∈ rules.check call) :
    ∃ place, call.Holds place ∧ diagnostic.span = place.span := by
  rcases rules with ⟨_ | names⟩
  · cases reported
  · obtain ⟨entries, i, j, declares, fault⟩ := Names.mem_check_iff.mp reported
    obtain ⟨declared, key, parameters, last, place, entry, handles, position, same⟩ := fault.placed
    exact ⟨place, .intro declares (List.mem_of_getElem? entry) handles (List.mem_of_getElem? position), same⟩

namespace Node

theorem children_of_call? {node : Node} {call : Call} (standing : node.call? = some call) :
    node.span = call.span ∧ ∃ typeArguments, node.children = call.callee :: (typeArguments ++ call.arguments) := by
  cases node with
  | call extent callee typeArguments arguments marked =>
    cases standing
    exact ⟨rfl, typeArguments, rfl⟩
  | _ => cases standing

/-- The event map that a call declares is a node inside the call. -/
theorem object_inside {node : Node} {call : Call} (standing : node.call? = some call)
    (declares : call.Declares entries) : ∃ extent, Inside (.object extent entries) node := by
  obtain ⟨_, first, more, extent, arguments, map⟩ := declares
  obtain ⟨_, typeArguments, parts⟩ := children_of_call? standing
  have member : first ∈ node.children := by simp [parts, arguments]
  exact ⟨extent, map ▸ (inside_withoutParens first).trans (inside_of_mem member)⟩

/-- Where an event map holds a place, the place is a parameter of a function inside the call. -/
theorem exists_function_of_holds {node : Node} {call : Call} (standing : node.call? = some call)
    (holds : call.Holds place) : ∃ handler : Node, handler.Inside node ∧ place ∈ handler.positions := by
  obtain ⟨declares, entry, handles, position⟩ := holds
  obtain ⟨extent, map⟩ := object_inside standing declares
  obtain ⟨handler, inside, same⟩ := handles.exists_function
  exact ⟨handler, inside.trans (.trans (.child entry .self) map), same ▸ position⟩

/-- Every finding points at a parameter or rest element of a function inside the node. -/
theorem exists_function_of_mem_findings {rules : Rules} {node : Node} (found : diagnostic ∈ node.findings rules) :
    ∃ handler place : Node, handler.Inside node ∧ place ∈ handler.positions ∧ diagnostic.span = place.span := by
  obtain ⟨call, member, reported⟩ := List.mem_flatMap.mp found
  obtain ⟨around, inside, standing⟩ := mem_calls.mp member
  obtain ⟨place, holds, same⟩ := Call.exists_holds reported
  obtain ⟨handler, deeper, position⟩ := exists_function_of_holds standing holds
  exact ⟨handler, place, deeper.trans inside, position, same⟩

end Node

end EventMapLint
