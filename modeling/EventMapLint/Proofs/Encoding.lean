import EventMapLint.Encoding
import EventMapLint.Proofs.Json.Unambiguous

/-! Results as JSON lose nothing. Different results have different values and different texts, in whatever order the
keys are written. -/

namespace EventMapLint

namespace Json

/-- An encoding from which everything can be told again: what differs has different values, whatever the order of
their keys, and no text that is written for the one in some order of its keys is written for the other. -/
structure Lossless {α : Type} (encode : α → Json) : Prop where
  value : ∀ a b, Rearranged (encode a) (encode b) ↔ a = b
  text : ∀ a b, write (encode a) = write (encode b) ↔ a = b
  anyText : ∀ a b, (∃ json other, Rearranged (encode a) json ∧ Rearranged (encode b) other ∧
    write json = write other) ↔ a = b

section

variable {α : Type} {encode : α → Json}

/-- Without floats it is enough that the values can be told apart. -/
theorem Lossless.of_inj (free : ∀ a, FloatFree (encode a))
    (inj : ∀ {a b}, Rearranged (encode a) (encode b) → a = b) : Lossless encode := by
  have anyText (a b : α) (json other : Json) (first : Rearranged (encode a) json)
      (second : Rearranged (encode b) other) (same : write json = write other) : a = b := by
    obtain rfl := write_inj (first.floatFree (free a)) (second.floatFree (free b)) same
    exact inj (first.trans second.symm)
  constructor
  · intro a b
    refine ⟨inj, ?_⟩
    rintro rfl
    exact .refl
  · intro a b
    exact ⟨anyText a b _ _ .refl .refl, fun same => same ▸ rfl⟩
  · intro a b
    constructor
    · rintro ⟨json, other, first, second, same⟩
      exact anyText a b json other first second same
    · rintro rfl
      exact ⟨_, _, .refl, .refl, rfl⟩

theorem Rearranged.map_inj (inj : ∀ {a b}, Rearranged (encode a) (encode b) → a = b) {items others : List α}
    (same : Rearranged (.array (items.map encode)) (.array (others.map encode))) : items = others := by
  obtain ⟨_, form, each⟩ := same.exists_elements rfl
  cases form
  rw [List.forall₂_map_left_iff, List.forall₂_map_right_iff] at each
  have equal := each.imp fun _ _ => inj
  rwa [List.forall₂_eq_eq_eq] at equal

end

section

variable {json other : Json} {key : String}

theorem Rearranged.eq_of_get? {value value' : Json} (same : Rearranged json other) (found : json.get? key = some value)
    (found' : other.get? key = some value') (scalar : value.isScalar = true) : value = value' := by
  have paired := same.get? key
  rw [found, found'] at paired
  cases paired with
  | some inside => exact (inside.eq_of_isScalar scalar).symm

theorem Rearranged.string_eq {text text' : String} (same : Rearranged json other)
    (found : json.get? key = some (.string text)) (found' : other.get? key = some (.string text')) : text = text' :=
  Json.string.inj (same.eq_of_get? found found' rfl)

theorem Rearranged.natural_eq {n n' : Nat} (same : Rearranged json other)
    (found : json.get? key = some (.integer n)) (found' : other.get? key = some (.integer n')) : n = n' :=
  Int.ofNat.inj (Json.integer.inj (same.eq_of_get? found found' rfl))

theorem Rearranged.optional_eq {text text' : Option String} (same : Rearranged json other)
    (found : json.get? key = text.map .string) (found' : other.get? key = text'.map .string) : text = text' := by
  have paired := same.get? key
  rw [found, found'] at paired
  cases text with
  | none =>
    cases text' with
    | none => rfl
    | some _ => cases paired
  | some _ =>
    cases text' with
    | none => cases paired
    | some _ => exact congrArg some (same.string_eq found found')

end

end Json

open Json

theorem Severity.name_inj {severity other : Severity} (same : severity.name = other.name) : severity = other := by
  revert same
  cases severity <;> cases other <;> decide

/-! ### Diagnostics -/

theorem Label.eq_of_rearranged {label other : Label} (same : Rearranged label.toJson other.toJson) : label = other := by
  obtain ⟨⟨start, stop⟩, text⟩ := label
  obtain ⟨⟨start', stop'⟩, text'⟩ := other
  obtain ⟨_, form, each⟩ := same.exists_elements rfl
  cases form
  simp only [List.forall₂_cons] at each
  obtain ⟨starts, stops, texts, _⟩ := each
  obtain rfl := Int.ofNat.inj (Json.integer.inj (starts.eq_of_isScalar rfl))
  obtain rfl := Int.ofNat.inj (Json.integer.inj (stops.eq_of_isScalar rfl))
  obtain rfl := Json.string.inj (texts.eq_of_isScalar rfl)
  rfl

theorem Diagnostic.get?_toJson (diagnostic : Diagnostic) :
    diagnostic.toJson.get? "rule" = some (.string diagnostic.rule) ∧
    diagnostic.toJson.get? "start" = some (.integer diagnostic.span.start) ∧
    diagnostic.toJson.get? "end" = some (.integer diagnostic.span.stop) ∧
    diagnostic.toJson.get? "message" = some (.string diagnostic.message) ∧
    diagnostic.toJson.get? "help" = diagnostic.help.map .string ∧
    diagnostic.toJson.get? "severity" = some (.string diagnostic.severity.name) ∧
    diagnostic.toJson.get? "labels" =
      if diagnostic.labels = [] then none else some (.array (diagnostic.labels.map Label.toJson)) := by
  obtain ⟨rule, span, message, help, severity, labels⟩ := diagnostic
  cases help <;> cases labels <;> simp [toJson, Json.get?]

theorem Diagnostic.eq_of_rearranged {diagnostic other : Diagnostic}
    (same : Rearranged diagnostic.toJson other.toJson) : diagnostic = other := by
  obtain ⟨rule, start, stop, message, help, severity, labels⟩ := diagnostic.get?_toJson
  obtain ⟨rule', start', stop', message', help', severity', labels'⟩ := other.get?_toJson
  have rules := same.string_eq rule rule'
  have starts := same.natural_eq start start'
  have stops := same.natural_eq stop stop'
  have messages := same.string_eq message message'
  have helps := same.optional_eq help help'
  have severities := Severity.name_inj (same.string_eq severity severity')
  have labels : diagnostic.labels = other.labels := by
    have paired := same.get? "labels"
    rw [labels, labels'] at paired
    -- A list of labels is there on both sides or on neither.
    split at paired
    · rename_i none
      split at paired
      · rename_i none'
        rw [none, none']
      · cases paired
    · split at paired
      · cases paired
      · cases paired with
        | some inside => exact inside.map_inj Label.eq_of_rearranged
  obtain ⟨_, ⟨_, _⟩, _, _, _, _⟩ := diagnostic
  obtain ⟨_, ⟨_, _⟩, _, _, _, _⟩ := other
  simp only [Diagnostic.mk.injEq, Span.mk.injEq]
  exact ⟨rules, ⟨starts, stops⟩, messages, helps, severities, labels⟩

theorem Label.toJson_floatFree (label : Label) : FloatFree label.toJson := by
  simp [toJson, floatFree_array_iff, FloatFree.integer, FloatFree.string]

theorem Diagnostic.toJson_floatFree (diagnostic : Diagnostic) : FloatFree diagnostic.toJson := by
  obtain ⟨rule, span, message, help, severity, labels⟩ := diagnostic
  cases help <;> cases labels <;>
    simp [toJson, floatFree_object_iff, floatFree_array_iff, FloatFree.integer, FloatFree.string,
      Label.toJson_floatFree]

/-! ### Messages -/

theorem Message.get?_toJson (message : Message) :
    message.toJson.get? "ruleId" = some (.string message.rule) ∧
    message.toJson.get? "message" = some (.string message.message) ∧
    message.toJson.get? "help" = message.help.map .string ∧
    message.toJson.get? "severity" = some (.string message.severity.name) ∧
    message.toJson.get? "line" = some (.integer message.start.line) ∧
    message.toJson.get? "column" = some (.integer message.start.column) ∧
    message.toJson.get? "endLine" = some (.integer message.stop.line) ∧
    message.toJson.get? "endColumn" = some (.integer message.stop.column) := by
  obtain ⟨rule, text, help, severity, start, stop⟩ := message
  cases help <;> simp [toJson, Json.get?]

theorem Message.eq_of_rearranged {message other : Message} (same : Rearranged message.toJson other.toJson) :
    message = other := by
  obtain ⟨rule, text, help, severity, line, column, endLine, endColumn⟩ := message.get?_toJson
  obtain ⟨rule', text', help', severity', line', column', endLine', endColumn'⟩ := other.get?_toJson
  have rules := same.string_eq rule rule'
  have texts := same.string_eq text text'
  have helps := same.optional_eq help help'
  have severities := Severity.name_inj (same.string_eq severity severity')
  have lines := same.natural_eq line line'
  have columns := same.natural_eq column column'
  have endLines := same.natural_eq endLine endLine'
  have endColumns := same.natural_eq endColumn endColumn'
  obtain ⟨_, _, _, _, ⟨_, _⟩, ⟨_, _⟩⟩ := message
  obtain ⟨_, _, _, _, ⟨_, _⟩, ⟨_, _⟩⟩ := other
  simp only [Message.mk.injEq, Position.mk.injEq]
  exact ⟨rules, texts, helps, severities, ⟨lines, columns⟩, endLines, endColumns⟩

theorem Message.toJson_floatFree (message : Message) : FloatFree message.toJson := by
  obtain ⟨rule, text, help, severity, start, stop⟩ := message
  cases help <;> simp [toJson, floatFree_object_iff, FloatFree.integer, FloatFree.string]

theorem Output.eq_of_rearranged {output other : Output} (same : Rearranged output.toJson other.toJson) :
    output = other := by
  have paired := same.get? "messages"
  cases paired with
  | some inside =>
    obtain ⟨messages⟩ := output
    obtain ⟨messages'⟩ := other
    exact congrArg Output.mk (inside.map_inj Message.eq_of_rearranged)

theorem Output.toJson_floatFree (output : Output) : FloatFree output.toJson := by
  simp [toJson, floatFree_object_iff, floatFree_array_iff, Message.toJson_floatFree]

/-- Diagnostics, messages and outputs can be told again from their JSON. -/
theorem toJson_lossless : Lossless Diagnostic.toJson ∧ Lossless Message.toJson ∧ Lossless Output.toJson :=
  ⟨.of_inj Diagnostic.toJson_floatFree Diagnostic.eq_of_rearranged,
    .of_inj Message.toJson_floatFree Message.eq_of_rearranged,
    .of_inj Output.toJson_floatFree Output.eq_of_rearranged⟩

end EventMapLint
