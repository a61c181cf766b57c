import EventMapLint.Options
import EventMapLint.Proofs.Json.Entries
import EventMapLint.Proofs.Json.Schema

/-! Options as JSON values. Their schema and their reader are two descriptions of the same values: the reader takes
just what fits the schema, and nothing at all for the defaults. -/

namespace EventMapLint

namespace Options

/-- What is wrong with one entry of an options object, whatever stands beside it. -/
inductive Offends : String × Json → Options.Error → Prop
  | unknownField (event : key ≠ eventKey) (templateInstance : key ≠ templateInstanceKey) :
      Offends (key, value) (.unknownField key)
  | notAString (known : key = eventKey ∨ key = templateInstanceKey) (other : ∀ text, value ≠ .string text) :
      Offends (key, value) (.notAString value)

/-- What is wrong with the entry of an options array that decides: it is no object, or one of its entries offends. -/
inductive Refuses : Json → Options.Error → Prop
  | array : Refuses (.array elements) (.notAnObject .array)
  | string : Refuses (.string text) (.notAnObject .string)
  | integer : Refuses (.integer n) (.notAnObject .number)
  | float : Refuses (.float x) (.notAnObject .number)
  | boolean : Refuses (.boolean verdict) (.notAnObject .boolean)
  | entry (present : (Json.object entries).get? key = some value) (offends : Offends (key, value) error) :
      Refuses (.object entries) error

/-- An object sets names: each to the string under its key, and without that key it leaves the name as it was. -/
structure Sets (object : Json) (before after : Names) : Prop where
  event : object.get? eventKey = some (.string after.event) ∨
    object.get? eventKey = none ∧ after.event = before.event
  templateInstance : object.get? templateInstanceKey = some (.string after.templateInstance) ∨
    object.get? templateInstanceKey = none ∧ after.templateInstance = before.templateInstance

theorem Sets.nothing (object : Json) (event : object.get? eventKey = none)
    (templateInstance : object.get? templateInstanceKey = none) (names : Names) : Sets object names names :=
  ⟨.inr ⟨event, rfl⟩, .inr ⟨templateInstance, rfl⟩⟩

theorem Sets.of_get?_eq {object other : Json} (sets : Sets object before after)
    (same : ∀ key, object.get? key = other.get? key) : Sets other before after := by
  obtain ⟨event, templateInstance⟩ := sets
  rw [same] at event templateInstance
  exact ⟨event, templateInstance⟩

theorem eventKey_ne_templateInstanceKey : eventKey ≠ templateInstanceKey := by
  decide

theorem Sets.concat_event {entries : List (String × Json)} (sets : Sets (.object entries) before after)
    (text : String) :
    Sets (.object (entries ++ [(eventKey, .string text)])) before (after.withEvent text) := by
  refine ⟨.inl ?_, ?_⟩
  · rw [Json.get?_concat, if_pos rfl]
    rfl
  · rw [Json.get?_concat, if_neg eventKey_ne_templateInstanceKey]
    exact sets.templateInstance

theorem Sets.concat_templateInstance {entries : List (String × Json)} (sets : Sets (.object entries) before after)
    (text : String) :
    Sets (.object (entries ++ [(templateInstanceKey, .string text)])) before (after.withTemplateInstance text) := by
  refine ⟨?_, .inl ?_⟩
  · rw [Json.get?_concat, if_neg eventKey_ne_templateInstanceKey.symm]
    exact sets.event
  · rw [Json.get?_concat, if_pos rfl]
    rfl

theorem not_offends_iff {key : String} {value : Json} :
    (∀ error, ¬ Offends (key, value) error) ↔
      (key = eventKey ∨ key = templateInstanceKey) ∧ ∃ text, value = .string text := by
  constructor
  · intro clean
    have known : key = eventKey ∨ key = templateInstanceKey := by
      by_contra unknown
      obtain ⟨event, templateInstance⟩ := not_or.mp unknown
      exact clean _ (.unknownField event templateInstance)
    refine ⟨known, ?_⟩
    by_contra other
    exact clean _ (.notAString known (not_exists.mp other))
  · rintro ⟨known, text, rfl⟩ error (⟨event, templateInstance⟩ | ⟨_, other⟩)
    · exact known.elim event templateInstance
    · exact other text rfl

/-! ### What the schema says -/

/-- A value fits the schema of the options entry if it is an object without an entry that offends. -/
theorem accepts_schema_iff {schema value : Json} (entry : Options.schema = .array [schema]) :
    schema.accepts value = true ↔
      ∃ entries, value = .object entries ∧
        ∀ key found, value.get? key = some found → ∀ error, ¬ Offends (key, found) error := by
  obtain rfl : Json.stringsSchema [eventKey, templateInstanceKey] = schema :=
    (List.cons.inj (Json.array.inj entry)).1
  simp only [Json.accepts_stringsSchema_iff, not_offends_iff, List.mem_cons, List.not_mem_nil, or_false]

end Options

namespace Names

open Options

/-! ### What the reader does -/

/-- An entry sets a name to its string, or it offends. -/
theorem withOption_cases (names : Names) (entry : String × Json) :
    (∃ text, entry = (eventKey, .string text) ∧ names.withOption entry = .ok (names.withEvent text)) ∨
    (∃ text, entry = (templateInstanceKey, .string text) ∧
      names.withOption entry = .ok (names.withTemplateInstance text)) ∨
    ∃ error, Offends entry error ∧ names.withOption entry = .error error := by
  obtain ⟨key, value⟩ := entry
  simp only [withOption]
  split
  · rename_i event
    cases event
    split
    · exact .inl ⟨_, rfl, rfl⟩
    · rename_i other
      exact .inr (.inr ⟨_, .notAString (.inl rfl) other, rfl⟩)
  · rename_i event
    split
    · rename_i templateInstance
      cases templateInstance
      split
      · exact .inr (.inl ⟨_, rfl, rfl⟩)
      · rename_i other
        exact .inr (.inr ⟨_, .notAString (.inr rfl) other, rfl⟩)
    · rename_i templateInstance
      exact .inr (.inr ⟨_, .unknownField event templateInstance, rfl⟩)

theorem foldlM_withOption_concat (names : Names) (entries : List (String × Json)) (entry : String × Json) :
    (entries ++ [entry]).foldlM withOption names = entries.foldlM withOption names >>= (withOption · entry) := by
  simp

/-- Reading entries one after the other sets the names, or it ends at the first entry that offends. -/
theorem foldlM_withOption_cases (names : Names) (entries : List (String × Json)) :
    (∃ result, entries.foldlM withOption names = .ok result ∧ Sets (.object entries) names result ∧
      ∀ entry ∈ entries, ∀ error, ¬ Offends entry error) ∨
    ∃ before entry after error, entries = before ++ entry :: after ∧
      (∀ other ∈ before, ∀ error, ¬ Offends other error) ∧ Offends entry error ∧
      entries.foldlM withOption names = .error error := by
  induction entries using List.reverseRecOn with
  | nil => exact .inl ⟨names, rfl, .nothing _ rfl rfl names, List.forall_mem_nil _⟩
  | append_singleton entries entry ih =>
    rw [foldlM_withOption_concat]
    rcases ih with ⟨result, made, sets, clean⟩ | ⟨before, first, after, error, rfl, clean, offends, made⟩
    · rw [made]
      rcases withOption_cases result entry with
        ⟨text, rfl, event⟩ | ⟨text, rfl, templateInstance⟩ | ⟨error, offends, refused⟩
      · have fine := not_offends_iff.mpr ⟨.inl rfl, text, rfl⟩
        refine .inl ⟨_, event, sets.concat_event text, ?_⟩
        exact List.forall_mem_append.mpr ⟨clean, List.forall_mem_singleton.mpr fine⟩
      · have fine := not_offends_iff.mpr ⟨.inr rfl, text, rfl⟩
        refine .inl ⟨_, templateInstance, sets.concat_templateInstance text, ?_⟩
        exact List.forall_mem_append.mpr ⟨clean, List.forall_mem_singleton.mpr fine⟩
      · exact .inr ⟨entries, entry, [], error, rfl, clean, offends, refused⟩
    · refine .inr ⟨before, first, after ++ [entry], error, by simp, clean, offends, ?_⟩
      rw [made]
      rfl

/-- An object of which no entry offends sets the names, and any other is refused for an entry that does. -/
theorem ofEntries_cases (entries : List (String × Json)) :
    (∃ names, ofEntries entries = .ok names ∧ Sets (.object entries) default names ∧
      ∀ key value, (Json.object entries).get? key = some value → ∀ error, ¬ Offends (key, value) error) ∨
    ∃ error, ofEntries entries = .error error ∧ Refuses (.object entries) error ∧
      ∃ key value, (Json.object entries).get? key = some value ∧ Offends (key, value) error := by
  rcases foldlM_withOption_cases default (Json.sortEntries entries) with
    ⟨names, made, sets, clean⟩ | ⟨before, ⟨key, value⟩, after, error, split, _, offends, made⟩
  · refine .inl ⟨names, made, sets.of_get?_eq (Json.get?_sortEntries entries), ?_⟩
    exact fun key value found => clean (key, value) (Json.mem_sortEntries.mpr found)
  · have member : (key, value) ∈ Json.sortEntries entries := by
      rw [split]
      exact List.mem_append_right _ List.mem_cons_self
    have present := Json.mem_sortEntries.mp member
    exact .inr ⟨error, made, .entry present offends, key, value, present, offends⟩

/-- The entry that decides is nothing or fits the schema, and sets the names, or it is refused and does not fit. -/
theorem ofOptions_cases {schema : Json} (entry : Options.schema = .array [schema]) (value : Json) (more : List Json) :
    ((value = .null ∨ schema.accepts value = true) ∧
      ∃ names, ofOptions (value :: more) = .ok names ∧ Sets value default names) ∨
    (¬ (value = .null ∨ schema.accepts value = true) ∧
      ∃ error, ofOptions (value :: more) = .error error ∧ Refuses value error) := by
  rw [accepts_schema_iff entry]
  cases value with
  | null => exact .inl ⟨.inl rfl, default, rfl, .nothing _ rfl rfl default⟩
  | object entries =>
    rcases ofEntries_cases entries with
      ⟨names, made, sets, clean⟩ | ⟨error, made, refuses, key, found, present, offends⟩
    · exact .inl ⟨.inr ⟨entries, rfl, clean⟩, names, made, sets⟩
    · refine .inr ⟨?_, error, made, refuses⟩
      rintro (missing | ⟨_, _, clean⟩)
      · cases missing
      · exact clean key found present error offends
  | array | string | integer | float | boolean => exact .inr ⟨by simp, _, rfl, by constructor⟩

theorem ofEntries_perm {entries others : List (String × Json)} (rearranged : entries.Perm others)
    (distinct : (entries.map (·.1)).Nodup) : ofEntries entries = ofEntries others := by
  rw [ofEntries, ofEntries, Json.sortEntries_eq_of_get?_eq (Json.get?_perm rearranged distinct)]

/-- Options are read if and only if they fit the schema, or there are none. Names that are read are those that the
object sets, the others being the defaults; what does not fit is refused for what is wrong with it. Neither the order
of an object's keys nor a second entry makes a difference. -/
theorem ofOptions_ok_iff_accepts :
    ∃ schema, Options.schema = .array [schema] ∧
      ofOptions [] = .ok ⟨"event", "templateInstance"⟩ ∧
      ∀ value more,
        ((∃ names, ofOptions (value :: more) = .ok names) ↔ value = .null ∨ schema.accepts value = true) ∧
        (∀ names, ofOptions (value :: more) = .ok names → Sets value ⟨"event", "templateInstance"⟩ names) ∧
        (¬ (value = .null ∨ schema.accepts value = true) →
          ∃ error, ofOptions (value :: more) = .error error ∧ Refuses value error) ∧
        (∀ entries others, value = .object entries → entries.Perm others → (entries.map (·.1)).Nodup →
          ofOptions (.object others :: more) = ofOptions (value :: more)) ∧
        ofOptions (value :: more) = ofOptions [value] := by
  refine ⟨_, rfl, rfl, fun value more => ⟨?_, ?_, ?_, ?_, ?_⟩⟩
  · rcases ofOptions_cases rfl value more with ⟨fits, names, made, _⟩ | ⟨unfit, error, made, _⟩
    · exact iff_of_true ⟨names, made⟩ fits
    · refine iff_of_false ?_ unfit
      rintro ⟨names, made'⟩
      cases made.symm.trans made'
  · intro names made
    rcases ofOptions_cases rfl value more with ⟨_, _, made', sets⟩ | ⟨_, error, made', _⟩
    · cases made.symm.trans made'
      exact sets
    · cases made.symm.trans made'
  · intro unfit
    rcases ofOptions_cases rfl value more with ⟨fits, _⟩ | ⟨_, refused⟩
    · exact absurd fits unfit
    · exact refused
  · rintro entries others rfl rearranged distinct
    exact (ofEntries_perm rearranged distinct).symm
  · cases value <;> rfl

/-- An object with both keys sets both names, in either order; one with the second key leaves the first name as it
is; two strings in an array are refused. -/
theorem ofOptions_partial_swapped_unfit :
    ((ofOptions [.object [(templateInstanceKey, .string "t")]] = .ok ⟨"event", "t"⟩ ∧
        Sets (.object [(templateInstanceKey, .string "t")]) ⟨"event", "templateInstance"⟩ ⟨"event", "t"⟩) ∧
      ([(eventKey, Json.string "e"), (templateInstanceKey, .string "t")].Perm
          [(templateInstanceKey, .string "t"), (eventKey, .string "e")] ∧
        ([(eventKey, Json.string "e"), (templateInstanceKey, .string "t")].map (·.1)).Nodup ∧
        ofOptions [.object [(templateInstanceKey, .string "t"), (eventKey, .string "e")]] =
          ofOptions [.object [(eventKey, .string "e"), (templateInstanceKey, .string "t")]])) ∧
    (¬ (Json.array [.string "e", .string "t"] = .null ∨
        (Json.stringsSchema [eventKey, templateInstanceKey]).accepts (.array [.string "e", .string "t"]) = true) ∧
      ∃ error, ofOptions [.array [.string "e", .string "t"]] = .error error ∧
        Refuses (.array [.string "e", .string "t"]) error) := by
  obtain ⟨schema, entry, _, each⟩ := ofOptions_ok_iff_accepts
  obtain rfl : Json.stringsSchema [eventKey, templateInstanceKey] = schema :=
    (List.cons.inj (Json.array.inj entry)).1
  have made : ofOptions [.object [(templateInstanceKey, .string "t")]] = .ok ⟨"event", "t"⟩ := rfl
  have swapped := List.Perm.swap (templateInstanceKey, Json.string "t") (eventKey, .string "e") []
  have distinct : ([(eventKey, Json.string "e"), (templateInstanceKey, .string "t")].map (·.1)).Nodup := by decide
  have unfit : ¬ (Json.array [.string "e", .string "t"] = .null ∨
      (Json.stringsSchema [eventKey, templateInstanceKey]).accepts (.array [.string "e", .string "t"]) = true) := by
    rintro (missing | fits)
    · cases missing
    · cases fits
  refine ⟨⟨⟨made, (each _ []).2.1 _ made⟩, swapped, distinct, ?_⟩, unfit, (each _ []).2.2.1 unfit⟩
  exact (each _ []).2.2.2.1 _ _ rfl swapped distinct

end Names

end EventMapLint
