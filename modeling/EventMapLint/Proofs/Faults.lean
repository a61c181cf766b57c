import EventMapLint.Proofs.Handler
import EventMapLint.Rule

/-! Soundness and completeness of the rule on one call: what it reports are the faults of the event map, one for
each misnamed parameter, by entry and then by position. -/

namespace EventMapLint

/-- What is reported about a place where `expected` should stand, in the handler declared under a key. -/
def misnaming (place key : Span) (expected help : String) : Diagnostic where
  rule := "eventmap-params"
  span := place
  message := "Invalid parameter name, use \"" ++ expected ++ "\" instead"
  help := some help
  severity := .warning
  labels := [⟨key, "event handler declared here"⟩]

/-- The entry `i` of an event map declares a handler whose parameter in position `j` is misnamed: it is a plain
identifier of another name, or no plain identifier, or the rest element. -/
inductive Names.Fault (names : Names) (entries : List Node) : (i j : Nat) → Diagnostic → Prop
  | renamed (entry : entries[i]? = some declared) (handler : declared.Handles key parameters last)
      (position : parameters[j]? = some parameter) (binds : parameter.Binds found)
      (expected : [names.event, names.templateInstance][j]? = some name) (different : found ≠ name) :
      Fault names entries i j
        (misnaming parameter.span key.span name ("Rename `" ++ found ++ "` to `" ++ name ++ "`."))
  | unnamed (entry : entries[i]? = some declared) (handler : declared.Handles key parameters last)
      (position : parameters[j]? = some parameter) (nameless : ∀ found, ¬ parameter.Binds found)
      (expected : [names.event, names.templateInstance][j]? = some name) :
      Fault names entries i j
        (misnaming parameter.span key.span name ("Bind this parameter to a plain identifier named `" ++ name ++ "`."))
  | rest (entry : entries[i]? = some declared) (handler : declared.Handles key parameters (some last))
      (expected : [names.event, names.templateInstance][parameters.length]? = some name) :
      Fault names entries i parameters.length
        (misnaming last.span key.span name ("Bind this parameter to a plain identifier named `" ++ name ++ "`."))

namespace Names

/-- The verdict on a parameter beside the name it should have. -/
def judge (key : Span) : HandlerParameter × String → Option Diagnostic
  | (parameter, expected) =>
      if parameter.name? = some expected then none else some (Rule.diagnostic parameter expected key)

/-- The parameters of a handler, each beside the name it should have. What is no function has none. -/
def slots (names : Names) (handler : Node) : List (HandlerParameter × String) :=
  match handler.parameters? with
  | none => []
  | some (parameters, last) => (HandlerParameter.positional parameters last).zip names.toList

/-- The verdicts on the parameters of one entry, by position. -/
def verdicts (names : Names) : Node → List (Option Diagnostic)
  | .property _ _ _ _ _ key value => (names.slots value.withoutParens).map (judge key.span)
  | _ => []

private theorem zip_take (parameters : List HandlerParameter) (expected : List String) :
    (parameters.take expected.length).zip expected = parameters.zip expected := by
  induction parameters generalizing expected with
  | nil => simp
  | cons parameter parameters ih =>
    cases expected with
    | nil => simp
    | cons name expected => simp [ih]

theorem checkHandler_eq (names : Names) (key : Span) (handler : Node) :
    names.checkHandler key handler = (names.slots handler).filterMap (judge key) := by
  cases found : handler.parameters? with
  | none => simp [checkHandler, slots, found]
  | some pair =>
    simp only [checkHandler, slots, found, leadingParameters_eq_take, zip_take]
    rfl

/-- A handler is in order if each of its parameters has the name that is expected beside it. -/
theorem checkHandler_eq_nil_iff {names : Names} {key : Span} {handler : Node} :
    names.checkHandler key handler = [] ↔ ∀ slot ∈ names.slots handler, slot.1.name? = some slot.2 := by
  simp [checkHandler_eq, List.filterMap_eq_nil_iff, judge]

theorem checkEntry_eq (names : Names) (entry : Node) :
    names.checkEntry entry = (names.verdicts entry).filterMap id := by
  cases entry with
  | property => simp [checkEntry, verdicts, checkHandler_eq, List.filterMap_map]
  | _ => rfl

/-- All faults of an event map with their places. -/
def faults (names : Names) (entries : List Node) : List (Nat × Nat × Diagnostic) :=
  entries.zipIdx.flatMap fun (entry, i) =>
    (names.verdicts entry).zipIdx.filterMap fun (verdict, j) => verdict.map fun diagnostic => (i, j, diagnostic)

theorem check_eq_map_faults (names : Names) (entries : List Node) :
    entries.flatMap names.checkEntry = (names.faults entries).map fun fault => fault.2.2 := by
  have inner (i : Nat) (verdicts : List (Option Diagnostic)) :
      (verdicts.zipIdx.filterMap fun (verdict, j) => verdict.map fun diagnostic => (i, j, diagnostic)).map
        (fun fault => fault.2.2) = verdicts.filterMap id := by
    conv => rhs; rw [← List.zipIdx_map_fst 0 verdicts]
    rw [List.map_filterMap, List.filterMap_map]
    congr 1
    funext (verdict, j)
    cases verdict <;> rfl
  conv => lhs; rw [← List.zipIdx_map_fst 0 entries]
  simp only [faults, List.map_flatMap, List.flatMap_map, inner, checkEntry_eq]

theorem faults_ordered (names : Names) (entries : List Node) :
    (names.faults entries).Pairwise fun first second =>
      first.1 < second.1 ∨ first.1 = second.1 ∧ first.2.1 < second.2.1 := by
  have ascending {α : Type} (items : List α) : items.zipIdx.Pairwise fun first second => first.2 < second.2 := by
    rw [← List.pairwise_map (f := Prod.snd), List.zipIdx_map_snd]
    exact List.pairwise_lt_range' 1
  refine List.pairwise_flatMap.mpr ⟨?_, ?_⟩
  · rintro ⟨entry, i⟩ _
    refine List.pairwise_filterMap.mpr ((ascending _).imp ?_)
    rintro ⟨verdict, j⟩ ⟨other, k⟩ less fault found later foundLater
    obtain ⟨_, _, rfl⟩ := Option.map_eq_some_iff.mp found
    obtain ⟨_, _, rfl⟩ := Option.map_eq_some_iff.mp foundLater
    exact .inr ⟨rfl, less⟩
  · refine (ascending entries).imp ?_
    rintro ⟨entry, i⟩ ⟨other, k⟩ less fault found later foundLater
    obtain ⟨_, _, same⟩ := List.mem_filterMap.mp found
    obtain ⟨_, _, rfl⟩ := Option.map_eq_some_iff.mp same
    obtain ⟨_, _, sameLater⟩ := List.mem_filterMap.mp foundLater
    obtain ⟨_, _, rfl⟩ := Option.map_eq_some_iff.mp sameLater
    exact .inl less

theorem mem_faults {names : Names} {entries : List Node} :
    (i, j, diagnostic) ∈ names.faults entries ↔
      ∃ entry, entries[i]? = some entry ∧ (names.verdicts entry)[j]? = some (some diagnostic) := by
  simp only [faults, List.mem_flatMap, List.mem_filterMap, Option.map_eq_some_iff, List.mem_zipIdx_iff_getElem?]
  constructor
  · rintro ⟨⟨entry, _⟩, present, ⟨verdict, _⟩, position, found, same, place⟩
    cases place
    exact ⟨entry, present, same ▸ position⟩
  · rintro ⟨entry, present, position⟩
    exact ⟨(entry, i), present, (some diagnostic, j), position, diagnostic, rfl, rfl⟩

private theorem getElem?_slots {names : Names} {handler : Node} {j : Nat} :
    (names.slots handler)[j]? = some (slot, expected) ↔
      ∃ parameters last, handler.parameters? = some (parameters, last) ∧
        (HandlerParameter.positional parameters last)[j]? = some slot ∧ names.toList[j]? = some expected := by
  cases found : handler.parameters? with
  | none => simp [slots, found]
  | some pair =>
    simp only [slots, found, List.getElem?_zip_eq_some, Option.some.injEq]
    constructor
    · rintro ⟨position, name⟩
      exact ⟨pair.1, pair.2, rfl, position, name⟩
    · rintro ⟨_, _, rfl, position, name⟩
      exact ⟨position, name⟩

private theorem judge_eq_some_iff {key : Span} :
    judge key (slot, expected) = some diagnostic ↔
      slot.name? ≠ some expected ∧ diagnostic = Rule.diagnostic slot expected key := by
  by_cases named : slot.name? = some expected
  · simp [judge, named]
  · simp [judge, named, eq_comm]

theorem getElem?_verdicts {names : Names} {entry : Node} {j : Nat} :
    (names.verdicts entry)[j]? = some (some diagnostic) ↔
      ∃ key parameters last slot expected, entry.Handles key parameters last ∧
        (HandlerParameter.positional parameters last)[j]? = some slot ∧ names.toList[j]? = some expected ∧
        slot.name? ≠ some expected ∧ diagnostic = Rule.diagnostic slot expected key.span := by
  constructor
  · intro verdict
    cases entry with
    | property extent kind computed method shorthand key value =>
      rw [verdicts, List.getElem?_map] at verdict
      obtain ⟨⟨slot, expected⟩, position, judged⟩ := Option.map_eq_some_iff.mp verdict
      obtain ⟨parameters, last, function, position, name⟩ := getElem?_slots.mp position
      obtain ⟨_, _, _, _, _, handler⟩ := Node.parameters?_eq_some_iff.mp function
      obtain ⟨wrong, same⟩ := judge_eq_some_iff.mp judged
      exact ⟨key, parameters, last, slot, expected, .property handler, position, name, wrong, same⟩
    | _ => simp [verdicts] at verdict
  · rintro ⟨key, parameters, last, slot, expected, ⟨handler⟩, position, name, wrong, same⟩
    have function := Node.parameters?_eq_some_iff.mpr ⟨_, _, _, _, _, handler⟩
    have found := getElem?_slots.mpr ⟨parameters, last, function, position, name⟩
    simp [verdicts, found, judge_eq_some_iff.mpr ⟨wrong, same⟩]

private theorem diagnostic_of_binds {parameter : Node} {key : Span} (binds : parameter.Binds found) :
    Rule.diagnostic (HandlerParameter.ofNode parameter) expected key =
      misnaming parameter.span key expected ("Rename `" ++ found ++ "` to `" ++ expected ++ "`.") := by
  cases binds
  rfl

private theorem diagnostic_of_nameless {slot : HandlerParameter} {key : Span} (nameless : slot.name? = none) :
    Rule.diagnostic slot expected key =
      misnaming slot.span key expected ("Bind this parameter to a plain identifier named `" ++ expected ++ "`.") := by
  have helped : Rule.help slot expected = "Bind this parameter to a plain identifier named `" ++ expected ++ "`." := by
    simp [Rule.help, nameless]
  rw [← helped]
  rfl

/-- The computed faults are the faults. -/
theorem mem_faults_iff {names : Names} {entries : List Node} :
    (i, j, diagnostic) ∈ names.faults entries ↔ names.Fault entries i j diagnostic := by
  rw [mem_faults]
  constructor
  · rintro ⟨entry, present, verdict⟩
    obtain ⟨key, parameters, last, slot, expected, handler, position, name, wrong, rfl⟩ :=
      getElem?_verdicts.mp verdict
    rcases HandlerParameter.getElem?_positional.mp position with
      ⟨parameter, regular, rfl⟩ | ⟨rest, rfl, rfl, rfl⟩
    · cases named : (HandlerParameter.ofNode parameter).name? with
      | some found =>
        have binds := HandlerParameter.name?_ofNode.mp named
        have different : found ≠ expected := by
          intro same
          exact wrong (same ▸ named)
        rw [diagnostic_of_binds binds]
        exact .renamed present handler regular binds name different
      | none =>
        rw [diagnostic_of_nameless named, HandlerParameter.span_ofNode]
        exact .unnamed present handler regular (HandlerParameter.name?_ofNode_eq_none.mp named) name
    · exact .rest present handler name
  · intro fault
    cases fault with
    | renamed entry handler position binds expected different =>
      have named := HandlerParameter.name?_ofNode.mpr binds
      refine ⟨_, entry, getElem?_verdicts.mpr ⟨_, _, _, _, _, handler,
        HandlerParameter.getElem?_positional.mpr (.inl ⟨_, position, rfl⟩), expected, ?_, ?_⟩⟩
      · simpa [named] using different
      · exact (diagnostic_of_binds binds).symm
    | unnamed entry handler position nameless expected =>
      have named := HandlerParameter.name?_ofNode_eq_none.mpr nameless
      refine ⟨_, entry, getElem?_verdicts.mpr ⟨_, _, _, _, _, handler,
        HandlerParameter.getElem?_positional.mpr (.inl ⟨_, position, rfl⟩), expected, ?_, ?_⟩⟩
      · simp [named]
      · rw [diagnostic_of_nameless named, HandlerParameter.span_ofNode]
    | rest entry handler expected =>
      refine ⟨_, entry, getElem?_verdicts.mpr ⟨_, _, _, _, _, handler,
        HandlerParameter.getElem?_positional.mpr (.inr ⟨_, rfl, rfl, rfl⟩), expected, ?_, rfl⟩⟩
      simp

/-- What the rule reports on a call are the faults of its event map, all of them and nothing else, ordered by entry
and then by position. On a call that declares no event map it reports nothing. -/
theorem check_eq_faults_in_order (names : Names) (call : Call) :
    (names.check call = [] ∨ ∃ entries, call.Declares entries) ∧
      ∃ faults : List (Nat × Nat × Diagnostic),
        names.check call = faults.map (fun fault => fault.2.2) ∧
        (faults.Pairwise fun first second => first.1 < second.1 ∨ first.1 = second.1 ∧ first.2.1 < second.2.1) ∧
        ∀ i j diagnostic, (i, j, diagnostic) ∈ faults ↔
          ∃ entries, call.Declares entries ∧ names.Fault entries i j diagnostic := by
  cases map : call.eventMap? with
  | none =>
    have silent : names.check call = [] := by simp [check, map]
    have undeclared (entries : List Node) : ¬ call.Declares entries := by
      intro declares
      rw [Call.eventMap?_eq_some_iff.mpr declares] at map
      cases map
    exact ⟨.inl silent, [], silent, .nil, by simp [undeclared]⟩
  | some entries =>
    have declares := Call.eventMap?_eq_some_iff.mp map
    have checked : names.check call = entries.flatMap names.checkEntry := by simp [check, map]
    refine ⟨.inr ⟨entries, declares⟩, names.faults entries, ?_, names.faults_ordered entries, ?_⟩
    · rw [checked, check_eq_map_faults]
    · intro i j diagnostic
      rw [mem_faults_iff]
      constructor
      · exact fun fault => ⟨entries, declares, fault⟩
      · rintro ⟨others, declaresOthers, fault⟩
        have same := Option.some.inj (map.symm.trans (Call.eventMap?_eq_some_iff.mpr declaresOthers))
        exact same ▸ fault

end Names

end EventMapLint
