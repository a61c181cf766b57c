import EventMapLint.Diagnostic
import Mathlib.Data.List.Induction

/-! Diagnostics built step by step. What is reported, and where, stays as it was at the start. The last help and the
last severity count, and every label. So steps of different kinds do not get in each other's way. -/

namespace EventMapLint

namespace Diagnostic

namespace Step

inductive Kind
  | help
  | severity
  | label
  deriving DecidableEq, Repr

def kind : Step → Kind
  | .help _ => .help
  | .severity _ => .severity
  | .label _ _ => .label

def help? : Step → Option String
  | .help text => some text
  | _ => none

def severity? : Step → Option Severity
  | .severity level => some level
  | _ => none

def label? : Step → Option Label
  | .label span text => some ⟨span, text⟩
  | _ => none

/-- The help of the last step that gives one. -/
def lastHelp? (steps : List Step) : Option String := (steps.filterMap help?).getLast?

/-- The severity of the last step that sets one, that of a warning if none does. -/
def lastSeverity (steps : List Step) : Severity := (steps.filterMap severity?).getLastD .warning

/-- The labels that the steps add, in their order. -/
def addedLabels (steps : List Step) : List Label := steps.filterMap label?

/-- The same steps in another order, in which those of each kind follow each other as before. -/
def Interleaved (steps others : List Step) : Prop :=
  ∀ kind, steps.filter (·.kind = kind) = others.filter (·.kind = kind)

/-- What is picked out of the steps of one kind alone is the same in both orders. -/
theorem Interleaved.filterMap_eq {α : Type} {steps others : List Step} {select : Step → Option α} {kind : Kind}
    (same : Interleaved steps others) (other : ∀ step, step.kind ≠ kind → select step = none) :
    steps.filterMap select = others.filterMap select := by
  have ofKind (steps : List Step) : (steps.filter (·.kind = kind)).filterMap select = steps.filterMap select := by
    rw [List.filterMap_filter]
    congr
    funext step
    by_cases own : step.kind = kind
    · rw [if_pos (decide_eq_true own)]
    · rw [if_neg (by simpa using own), other step own]
  rw [← ofKind steps, same kind, ofKind others]

theorem help?_of_kind_ne {step : Step} (other : step.kind ≠ .help) : help? step = none := by
  cases step with
  | help _ => exact absurd rfl other
  | severity _ | label _ _ => rfl

theorem severity?_of_kind_ne {step : Step} (other : step.kind ≠ .severity) : severity? step = none := by
  cases step with
  | severity _ => exact absurd rfl other
  | help _ | label _ _ => rfl

theorem label?_of_kind_ne {step : Step} (other : step.kind ≠ .label) : label? step = none := by
  cases step with
  | label _ _ => exact absurd rfl other
  | help _ | severity _ => rfl

end Step

open Step

theorem build_concat (diagnostic : Diagnostic) (steps : List Step) (step : Step) :
    diagnostic.build (steps ++ [step]) = (diagnostic.build steps).apply step := by
  simp [build]

/-- What the steps make of a new diagnostic, field by field. -/
theorem build_new (rule : String) (span : Span) (message : String) (steps : List Step) :
    (new rule span message).build steps =
      ⟨rule, span, message, lastHelp? steps, lastSeverity steps, addedLabels steps⟩ := by
  induction steps using List.reverseRecOn with
  | nil => rfl
  | append_singleton steps step ih =>
    rw [build_concat, ih]
    cases step with
    | help text => simp [apply, withHelp, lastHelp?, lastSeverity, addedLabels, help?, severity?, label?]
    | severity level => simp [apply, withSeverity, lastHelp?, lastSeverity, addedLabels, help?, severity?, label?]
    | label place text => simp [apply, withLabel, lastHelp?, lastSeverity, addedLabels, help?, severity?, label?]

theorem build_new_interleaved (rule : String) (span : Span) (message : String) {steps others : List Step}
    (same : Interleaved steps others) :
    (new rule span message).build steps = (new rule span message).build others := by
  have helps := same.filterMap_eq fun _ => help?_of_kind_ne
  have severities := same.filterMap_eq fun _ => severity?_of_kind_ne
  have labels := same.filterMap_eq fun _ => label?_of_kind_ne
  rw [build_new, build_new, lastHelp?, lastHelp?, helps, lastSeverity, lastSeverity, severities, addedLabels,
    addedLabels, labels]

/-- A diagnostic that is built in steps keeps its rule, its place and its message, and has the last help, the last
severity and all labels of the steps. So two of them are equal if and only if these are, steps of different kinds may
change places, and it makes no difference whether the diagnostic began as a warning. -/
theorem build_keeps_fields_apart (rule : String) (span : Span) (message : String) (steps : List Step) :
    (new rule span message).build steps =
      ⟨rule, span, message, lastHelp? steps, lastSeverity steps, addedLabels steps⟩ ∧
    (warning rule span message).build steps = (new rule span message).build steps ∧
    (∀ rule' span' message' others,
      (new rule span message).build steps = (new rule' span' message').build others ↔
        rule = rule' ∧ span = span' ∧ message = message' ∧ lastHelp? steps = lastHelp? others ∧
          lastSeverity steps = lastSeverity others ∧ addedLabels steps = addedLabels others) ∧
    ∀ others, Interleaved steps others →
      (new rule span message).build steps = (new rule span message).build others := by
  refine ⟨build_new rule span message steps, rfl, ?_, ?_⟩
  · intro rule' span' message' others
    rw [build_new, build_new, Diagnostic.mk.injEq]
  · exact fun others same => build_new_interleaved rule span message same

/-- A label may move behind a change of severity and in between two helps, the last of which still counts. The span
ends before it starts. -/
theorem build_label_between :
    Interleaved [.label ⟨0, 3⟩ "here", .help "first", .severity .error, .help "second"]
        [.help "first", .severity .error, .label ⟨0, 3⟩ "here", .help "second"] ∧
      (new "rule" ⟨9, 4⟩ "message").build [.label ⟨0, 3⟩ "here", .help "first", .severity .error, .help "second"] =
        (new "rule" ⟨9, 4⟩ "message").build [.help "first", .severity .error, .label ⟨0, 3⟩ "here", .help "second"] ∧
      (new "rule" ⟨9, 4⟩ "message").build [.help "first", .severity .error, .label ⟨0, 3⟩ "here", .help "second"] =
        ⟨"rule", ⟨9, 4⟩, "message", some "second", .error, [⟨⟨0, 3⟩, "here"⟩]⟩ := by
  have same : Interleaved [.label ⟨0, 3⟩ "here", .help "first", .severity .error, .help "second"]
      [.help "first", .severity .error, .label ⟨0, 3⟩ "here", .help "second"] := by
    intro kind
    cases kind <;> rfl
  obtain ⟨_, _, _, interleaved⟩ := build_keeps_fields_apart "rule" ⟨9, 4⟩ "message"
    [.label ⟨0, 3⟩ "here", .help "first", .severity .error, .help "second"]
  exact ⟨same, interleaved _ same, rfl⟩

end Diagnostic

end EventMapLint
