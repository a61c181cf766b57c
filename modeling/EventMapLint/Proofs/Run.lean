import EventMapLint.Lint
import EventMapLint.Proofs.Tree.Path

/-! What a run reports. A walk that passes a state along is a fold over the list of all calls, so a run adds to its
ledger what the rules say about each call, in source order and once for every place where a call stands. -/

namespace EventMapLint

namespace Node

private theorem foldl_visit (onCall : σ → Call → σ) (nodes : List Node)
    (each : ∀ node ∈ nodes, ∀ state, node.visit onCall state = node.calls.foldl onCall state) (state : σ) :
    nodes.foldl (fun state node => node.visit onCall state) state = (nodes.flatMap calls).foldl onCall state := by
  induction nodes generalizing state with
  | nil => rfl
  | cons node nodes ih =>
    rw [List.foldl_cons, List.flatMap_cons, List.foldl_append, each node List.mem_cons_self]
    exact ih (fun other member => each other (List.mem_cons_of_mem node member)) _

/-- Walking through a node is going through its calls. -/
theorem visit_eq_foldl (onCall : σ → Call → σ) (node : Node) (state : σ) :
    node.visit onCall state = node.calls.foldl onCall state := by
  induction node using children_induction generalizing state with
  | step node ih =>
    rw [visit_eq, calls_eq, List.foldl_append]
    exact foldl_visit onCall node.children ih _

/-- What the rules say about the calls of a node. -/
def findings (rules : Rules) (node : Node) : List Diagnostic := node.calls.flatMap rules.check

theorem findings_eq (rules : Rules) (node : Node) :
    node.findings rules = node.call?.toList.flatMap rules.check ++ node.children.flatMap (findings rules) := by
  rw [findings, calls_eq, List.flatMap_append, List.flatMap_assoc]
  rfl

theorem findings_withoutParens (rules : Rules) (node : Node) :
    node.withoutParens.findings rules = node.findings rules := by
  rw [findings, calls_withoutParens, findings]

end Node

theorem Program.visit_eq_foldl (onCall : σ → Call → σ) (program : Program) (state : σ) :
    program.visit onCall state = program.calls.foldl onCall state := by
  rw [visit, Node.visitList_eq, calls, Node.callsOfList_eq]
  exact Node.foldl_visit onCall program.body (fun node _ => node.visit_eq_foldl onCall) state

namespace Ledger

theorem foldl_report (found : List Diagnostic) (ledger : Ledger) :
    found.foldl report ledger = { ledger with diagnostics := ledger.diagnostics ++ found } := by
  induction found generalizing ledger with
  | nil => simp
  | cons diagnostic found ih => simp [ih, report]

theorem inspect_eq (rules : Rules) (ledger : Ledger) (call : Call) :
    ledger.inspect rules call = { ledger with diagnostics := ledger.diagnostics ++ rules.check call } :=
  foldl_report (rules.check call) ledger

theorem foldl_inspect (rules : Rules) (calls : List Call) (ledger : Ledger) :
    calls.foldl (inspect rules) ledger =
      { ledger with diagnostics := ledger.diagnostics ++ calls.flatMap rules.check } := by
  induction calls generalizing ledger with
  | nil => simp
  | cons call calls ih => simp [ih, inspect_eq]

end Ledger

namespace Program

/-- A run keeps what has been reported before and adds the findings on all calls. -/
theorem run_eq (program : Program) (rules : Rules) (ledger : Ledger) :
    program.run rules ledger =
      { ledger with diagnostics := ledger.diagnostics ++ program.calls.flatMap rules.check } := by
  rw [run, visit_eq_foldl]
  exact Ledger.foldl_inspect rules program.calls ledger

theorem lint_eq (program : Program) (rules : Rules) : program.lint rules = ⟨program.calls.flatMap rules.check⟩ := by
  rw [lint, run_eq, List.nil_append]

theorem diagnostics_lint (program : Program) (rules : Rules) :
    (program.lint rules).diagnostics = program.body.flatMap (Node.findings rules) := by
  rw [lint_eq, calls, Node.callsOfList_eq, List.flatMap_assoc]
  rfl

/-- With the rule enabled, a run reports what the rule says about the call at each place where one stands. The
places are taken once each and in source order: a call before anything inside it, its callee before its arguments,
and the children of any other node from left to right. A `new` expression is no such place, but its parts are
gone through like any others. With no rule enabled, nothing is reported. -/
theorem lint_eq_checks_in_source_order (program : Program) :
    ∃ paths : List Path,
      paths.Pairwise Path.Before ∧ paths.Nodup ∧
      (∀ path, path ∈ paths ↔ ∃ call, program.call? path = some call) ∧
      (∀ names : Names, (program.lint ⟨some names⟩).diagnostics =
        paths.flatMap fun path => (program.call? path).elim [] names.check) ∧
      (∀ (names : Names) (ledger : Ledger), (program.run ⟨some names⟩ ledger).diagnostics =
        ledger.diagnostics ++ paths.flatMap fun path => (program.call? path).elim [] names.check) ∧
      (program.lint Rules.none).diagnostics = [] ∧
      ∀ path span callee typeArguments arguments,
        program.node? path = some (.new span callee typeArguments arguments) →
          path ∉ paths ∧ ∀ (step : Nat) (part : Node), (callee :: (typeArguments ++ arguments))[step]? = some part →
            program.node? (path ++ [step]) = some part := by
  obtain ⟨paths, listed⟩ := program.exists_enumerates_calls
  have gathered (names : Names) : program.calls.flatMap (Rules.check ⟨some names⟩) =
      paths.flatMap fun path => (program.call? path).elim [] names.check := listed.flatMap_eq names.check
  refine ⟨paths, listed.ordered, listed.nodup, listed.mem_iff, ?_, ?_, ?_, ?_⟩
  · intro names
    rw [lint_eq, ← gathered]
  · intro names ledger
    rw [run_eq, ← gathered]
  · rw [lint_eq]
    exact List.flatMap_eq_nil_iff.mpr fun call _ => rfl
  · intro path span callee typeArguments arguments found
    constructor
    · intro member
      obtain ⟨call, standing⟩ := (listed.mem_iff path).mp member
      simp [call?, found, Node.call?] at standing
    · intro step part present
      rw [node?_child found]
      exact present

end Program

end EventMapLint
