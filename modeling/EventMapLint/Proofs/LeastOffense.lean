import EventMapLint.Proofs.Options
import EventMapLint.Proofs.Text.ByteOrder

/-! Which problem of an options object is reported: that of the least key with one, bytes being compared. So neither
the order in which the entries were written nor anything under a greater key makes a difference. -/

namespace EventMapLint

namespace Options

/-- A key offends in an object if the entry under it does. -/
def Offending (object : Json) (key : String) : Prop :=
  ∃ value error, object.get? key = some value ∧ Offends (key, value) error

/-- The offending key before all others, with what is wrong there. -/
structure LeastOffense (object : Json) (key : String) (value : Json) (error : Options.Error) : Prop where
  present : object.get? key = some value
  offends : Offends (key, value) error
  least : ∀ other, Offending object other → ¬ Text.bytes other < Text.bytes key

theorem Offends.unique (first : Offends entry error) (second : Offends entry fault) : error = fault := by
  cases first with
  | unknownField event templateInstance =>
    cases second with
    | unknownField => rfl
    | notAString known _ => exact absurd known (not_or.mpr ⟨event, templateInstance⟩)
  | notAString known other =>
    cases second with
    | unknownField event templateInstance => exact absurd known (not_or.mpr ⟨event, templateInstance⟩)
    | notAString => rfl

theorem detail_unknownField (key : String) :
    (Error.unknownField key).detail =
      "unknown field `" ++ key ++ "`, expected `eventParamName` or `templateInstanceParamName`" := by
  have form : (Error.unknownField key).detail =
      "unknown field `" ++ key ++ "`, expected `" ++ eventKey ++ "` or `" ++ templateInstanceKey ++ "`" := rfl
  have words : "`, expected `" ++ (eventKey ++ ("` or `" ++ (templateInstanceKey ++ "`"))) =
      "`, expected `eventParamName` or `templateInstanceParamName`" := by decide
  rw [form]
  simp only [String.append_assoc, words]

/-- The words for an offending entry: an unknown key is named, and under a known key the value is described. -/
theorem Offends.detail_eq (offends : Offends (key, value) error) :
    error.detail =
      if key = "eventParamName" ∨ key = "templateInstanceParamName" then
        "invalid type: " ++ value.describe ++ ", expected a string"
      else "unknown field `" ++ key ++ "`, expected `eventParamName` or `templateInstanceParamName`" := by
  cases offends with
  | unknownField event templateInstance =>
    have unknown : ¬ (key = "eventParamName" ∨ key = "templateInstanceParamName") :=
      not_or.mpr ⟨event, templateInstance⟩
    rw [detail_unknownField, if_neg unknown]
  | notAString known =>
    have known : key = "eventParamName" ∨ key = "templateInstanceParamName" := known
    rw [if_pos known]
    rfl

theorem Offends.message_eq (offends : Offends entry error) :
    error.message = "invalid rule options: " ++ error.detail := by
  cases offends <;> rfl

theorem LeastOffense.offending (offense : LeastOffense object key value error) : Offending object key :=
  ⟨value, error, offense.present, offense.offends⟩

theorem LeastOffense.unique (first : LeastOffense object key value error)
    (second : LeastOffense object other found fault) : error = fault := by
  have same : key = other := by
    apply String.le_antisymm
    · exact fun less => first.least other second.offending (Text.bytes_lt_of_lt less)
    · exact fun less => second.least key first.offending (Text.bytes_lt_of_lt less)
  subst same
  obtain rfl := Option.some.inj (first.present.symm.trans second.present)
  exact first.offends.unique second.offends

/-- A key offends before all others if no key of the object is less. -/
theorem LeastOffense.of_entries {entries : List (String × Json)}
    (present : (Json.object entries).get? key = some value) (offends : Offends (key, value) error)
    (least : ∀ entry ∈ entries, ¬ Text.bytes entry.1 < Text.bytes key) :
    LeastOffense (.object entries) key value error := by
  refine ⟨present, offends, ?_⟩
  rintro other ⟨found, _, present, _⟩
  exact least (other, found) (Json.mem_of_get? present)

/-- What stands under greater keys has no influence on the least offense. -/
theorem LeastOffense.of_get?_eq (offense : LeastOffense object key value error)
    (same : ∀ other, ¬ Text.bytes key < Text.bytes other → changed.get? other = object.get? other) :
    LeastOffense changed key value error := by
  refine ⟨?_, offense.offends, ?_⟩
  · rw [same key (List.lt_irrefl _)]
    exact offense.present
  · rintro other ⟨found, fault, present, offends⟩ less
    rw [same other (List.lt_asymm less)] at present
    exact offense.least other ⟨found, fault, present, offends⟩ less

end Options

namespace Names

open Options

/-- The entries are read in the order of their keys, so the one at which reading ends has the least of the keys that
offend. -/
theorem ofEntries_reports (entries : List (String × Json)) :
    ((∀ key, ¬ Offending (.object entries) key) ∧ ∃ names, ofEntries entries = .ok names) ∨
    ∃ key value error, LeastOffense (.object entries) key value error ∧ ofEntries entries = .error error := by
  rcases foldlM_withOption_cases default (Json.sortEntries entries) with
    ⟨names, made, _, clean⟩ | ⟨before, ⟨key, value⟩, after, error, split, clean, offends, made⟩
  · refine .inl ⟨?_, names, made⟩
    rintro key ⟨value, error, present, offends⟩
    exact clean (key, value) (Json.mem_sortEntries.mpr present) error offends
  · have sorted := Json.sortEntries_ascending entries
    rw [split] at sorted
    have behind := List.pairwise_cons.mp (List.pairwise_append.mp sorted).2.1
    refine .inr ⟨key, value, error, ⟨?_, offends, ?_⟩, made⟩
    · apply Json.mem_sortEntries.mp
      rw [split]
      exact List.mem_append_right _ List.mem_cons_self
    · rintro other ⟨found, fault, present, offends'⟩ less
      have less := Text.bytes_lt_iff.mp less
      have member : (other, found) ∈ before ++ (key, value) :: after := split ▸ Json.mem_sortEntries.mpr present
      rcases List.mem_append.mp member with earlier | later
      · exact clean _ earlier fault offends'
      · rcases List.mem_cons.mp later with same | greater
        · obtain rfl : other = key := (Prod.mk.inj same).1
          exact String.lt_irrefl _ less
        · exact String.lt_asymm less (behind.1 _ greater)

theorem ofEntries_of_leastOffense {entries : List (String × Json)}
    (offense : LeastOffense (.object entries) key value error) : ofEntries entries = .error error := by
  rcases ofEntries_reports entries with ⟨clean, _⟩ | ⟨_, _, _, offense', refused⟩
  · exact absurd offense.offending (clean key)
  · rw [offense.unique offense']
    exact refused

/-- An options object of which no key offends is read. Otherwise there is a least key that offends, and the object is
refused for it, in words that name the key if it is unknown and describe its value if not. Entries that agree on all
keys up to this one are refused for the same, whatever stands under the others, and the order of the entries makes no
difference. -/
theorem ofOptions_reports_least (entries : List (String × Json)) (more : List Json) :
    ((∀ key, ¬ Offending (.object entries) key) → ∃ names, ofOptions (.object entries :: more) = .ok names) ∧
    (∀ key, Offending (.object entries) key →
      ∃ least value error, LeastOffense (.object entries) least value error) ∧
    (∀ key value error, LeastOffense (.object entries) key value error →
      ofOptions (.object entries :: more) = .error error ∧
      error.message = "invalid rule options: " ++ error.detail ∧
      error.detail =
        (if key = "eventParamName" ∨ key = "templateInstanceParamName" then
          "invalid type: " ++ value.describe ++ ", expected a string"
        else "unknown field `" ++ key ++ "`, expected `eventParamName` or `templateInstanceParamName`") ∧
      ∀ others : List (String × Json),
        (∀ other, ¬ Text.bytes key < Text.bytes other →
          (Json.object others).get? other = (Json.object entries).get? other) →
        ofOptions (.object others :: more) = .error error) ∧
    ∀ others, entries.Perm others → (entries.map (·.1)).Nodup →
      ofOptions (.object others :: more) = ofOptions (.object entries :: more) := by
  refine ⟨?_, ?_, ?_, ?_⟩
  · intro clean
    rcases ofEntries_reports entries with ⟨_, read⟩ | ⟨key, _, _, offense, _⟩
    · exact read
    · exact absurd offense.offending (clean key)
  · intro key offending
    rcases ofEntries_reports entries with ⟨clean, _⟩ | ⟨least, value, error, offense, _⟩
    · exact absurd offending (clean key)
    · exact ⟨least, value, error, offense⟩
  · intro key value error offense
    refine ⟨ofEntries_of_leastOffense offense, offense.offends.message_eq, offense.offends.detail_eq, ?_⟩
    exact fun others same => ofEntries_of_leastOffense (offense.of_get?_eq same)
  · exact fun others rearranged distinct => (ofEntries_perm rearranged distinct).symm

/-- The ligature `ﬁ` comes before `😀`, whose bytes are greater though its UTF-16 units are less. A list under a known
key is reported whether or not there is an unknown key behind it. -/
theorem ofOptions_reports_ligature :
    (LeastOffense (.object [("😀", .null), ("ﬁ", .null)]) "ﬁ" .null (.unknownField "ﬁ") ∧
      ofOptions [.object [("😀", .null), ("ﬁ", .null)]] = .error (.unknownField "ﬁ") ∧
      (Error.unknownField "ﬁ").message =
        "invalid rule options: unknown field `ﬁ`, expected `eventParamName` or `templateInstanceParamName`" ∧
      ofOptions [.object [("ﬁ", .null), ("😀", .null)]] = ofOptions [.object [("😀", .null), ("ﬁ", .null)]]) ∧
    LeastOffense (.object [(eventKey, .array []), ("zeta", .null)]) eventKey (.array []) (.notAString (.array [])) ∧
      (Error.notAString (.array [])).detail = "invalid type: sequence, expected a string" ∧
      ofOptions [.object [(eventKey, .array [])]] = .error (.notAString (.array [])) := by
  obtain ⟨_, _, reported, reordered⟩ := ofOptions_reports_least [("😀", .null), ("ﬁ", .null)] []
  obtain ⟨_, _, reported', _⟩ := ofOptions_reports_least [(eventKey, .array []), ("zeta", .null)] []
  have ligature : LeastOffense (.object [("😀", .null), ("ﬁ", .null)]) "ﬁ" .null (.unknownField "ﬁ") :=
    .of_entries rfl (.unknownField (by decide) (by decide)) (by decide +kernel)
  have list : LeastOffense (.object [(eventKey, .array []), ("zeta", .null)]) eventKey (.array [])
      (.notAString (.array [])) :=
    .of_entries rfl (.notAString (.inl rfl) (by simp)) (by decide +kernel)
  obtain ⟨refused, message, detail, _⟩ := reported _ _ _ ligature
  obtain ⟨_, _, detail', unchanged⟩ := reported' _ _ _ list
  refine ⟨⟨ligature, refused, ?_, ?_⟩, list, detail', ?_⟩
  · rw [message, detail]
    decide
  · exact reordered _ (.swap _ _ []) (by decide)
  · apply unchanged
    intro other notGreater
    by_cases same : other = "zeta"
    · subst same
      exact absurd (by decide +kernel) notGreater
    · have found := Json.get?_concat [(eventKey, .array [])] ("zeta", .null) other
      rw [if_neg (Ne.symm same)] at found
      exact found.symm

end Names

end EventMapLint
