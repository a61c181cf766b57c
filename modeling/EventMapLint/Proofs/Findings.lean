import EventMapLint.Proofs.Places

/-! The summary of a run's findings. The two counts make up the whole and there are errors if some are counted, but
findings that are errors throughout pass for warnings. A run reports no errors, so its own summary is consistent. -/

namespace EventMapLint

theorem Severity.ne_error_iff {severity : Severity} : severity ≠ .error ↔ severity = .warning := by
  cases severity <;> decide

/-- The rule reports warnings only. -/
theorem Program.severity_of_mem_lint {program : Program} {rules : Rules}
    (reported : diagnostic ∈ (program.lint rules).diagnostics) : diagnostic.severity = .warning := by
  rw [lint_eq] at reported
  obtain ⟨call, _, found⟩ := List.mem_flatMap.mp reported
  rcases rules with ⟨_ | names⟩
  · cases found
  · obtain ⟨_, _, _, _, fault⟩ := Names.mem_check_iff.mp found
    cases fault with
    | renamed | unnamed | rest => rfl

namespace Findings

theorem hasErrors_iff (findings : Findings) : findings.hasErrors = true ↔ 0 < findings.errorCount := by
  rw [hasErrors, errorCount, List.any_eq_true, List.length_pos_iff_exists_mem]
  simp only [List.mem_filter]

theorem hasWarnings_iff (findings : Findings) : findings.hasWarnings = true ↔ 0 < findings.diagnostics.length := by
  rw [hasWarnings, List.length_pos_iff]
  simp

/-- Every diagnostic is counted once, as an error or as a warning. -/
theorem errorCount_add_warningCount (findings : Findings) :
    findings.errorCount + findings.warningCount = findings.diagnostics.length := by
  have others : findings.diagnostics.filter (·.severity = .warning) =
      findings.diagnostics.filter fun diagnostic => !decide (diagnostic.severity = .error) := by
    congr
    funext diagnostic
    rw [← decide_not, decide_eq_decide]
    exact Severity.ne_error_iff.symm
  rw [errorCount, warningCount, others, ← List.length_eq_length_filter_add]

theorem errorCount_lint (program : Program) (rules : Rules) : (program.lint rules).errorCount = 0 := by
  rw [errorCount, List.length_eq_zero_iff, List.filter_eq_nil_iff]
  intro diagnostic reported
  rw [Program.severity_of_mem_lint reported]
  decide

/-- The counts bear out that there are warnings unless nothing but errors is counted. -/
theorem hasWarnings_iff_warningCount (findings : Findings) :
    (findings.hasWarnings = true ↔ 0 < findings.warningCount) ↔
      findings.errorCount = 0 ∨ 0 < findings.warningCount := by
  have all := findings.errorCount_add_warningCount
  rw [hasWarnings_iff, ← all]
  omega

/-- The counts make up all findings, and there are errors if and only if some are counted. There are said to be
warnings as soon as there is a finding at all, which is right if and only if the findings are not errors throughout.
It is right for the findings of a run. -/
theorem summary_consistent_iff (findings : Findings) :
    (findings.hasErrors = true ↔ 0 < findings.errorCount) ∧
    findings.errorCount + findings.warningCount = findings.diagnostics.length ∧
    (findings.hasWarnings = true ↔ 0 < findings.diagnostics.length) ∧
    ((findings.hasWarnings = true ↔ 0 < findings.warningCount) ↔
      findings.errorCount = 0 ∨ 0 < findings.warningCount) ∧
    ∀ (program : Program) (rules : Rules),
      (program.lint rules).hasWarnings = true ↔ 0 < (program.lint rules).warningCount := by
  refine ⟨findings.hasErrors_iff, findings.errorCount_add_warningCount, findings.hasWarnings_iff,
    findings.hasWarnings_iff_warningCount, ?_⟩
  intro program rules
  exact (hasWarnings_iff_warningCount _).mpr (.inl (errorCount_lint program rules))

/-- A single error is said to be a warning, and none is counted. -/
theorem not_hasWarnings_iff_warningCount :
    ¬ ∀ findings : Findings, findings.hasWarnings = true ↔ 0 < findings.warningCount := by
  intro consistent
  have counted := (consistent ⟨[(Diagnostic.new "rule" ⟨0, 1⟩ "message").withSeverity .error]⟩).mp rfl
  exact absurd counted (by decide)

end Findings

end EventMapLint
