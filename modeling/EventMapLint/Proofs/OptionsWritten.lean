import EventMapLint.Options
import EventMapLint.Proofs.Json.Array
import EventMapLint.Proofs.Json.Reading
import EventMapLint.Proofs.Json.Writing

/-! Options that are written and read again. -/

namespace EventMapLint

namespace Names

open Options

/-- The keys are written in the order in which they are read. -/
theorem sortEntries_toJson (event templateInstance : Json) :
    Json.sortEntries [(eventKey, event), (templateInstanceKey, templateInstance)] =
      [(eventKey, event), (templateInstanceKey, templateInstance)] := by
  have later : ¬ templateInstanceKey < eventKey := by decide
  have other : ¬ templateInstanceKey = eventKey := by decide
  simp [Json.sortEntries, Json.insertEntry, later, other]

theorem ofOptions_toJson (names : Names) (more : List Json) : ofOptions (names.toJson :: more) = .ok names := by
  simp only [toJson, ofOptions, ofEntries, sortEntries_toJson]
  rfl

theorem ofOptionsText_of_read {read : Json.ArrayReader} (made : read text = .ok options) :
    ofOptionsText read text = ofOptions options := by
  simp only [ofOptionsText, made]

/-- The object for names is an object of strings, so an array of such objects can be written. -/
theorem writable_array_toJson (all : List Names) : Json.Writable (depth + 2) (.array (all.map toJson)) := by
  apply Json.Writable.array
  intro element found
  obtain ⟨names, _, rfl⟩ := List.mem_map.mp found
  apply Json.Writable.object
  intro entry found
  rcases List.mem_pair.mp found with rfl | rfl <;> exact .string

/-- Names come back from the JSON text of an options array that begins with them, whether it was written here or is
any other text for that array, and from the array itself. How the reader explains faults makes no difference. -/
theorem ofOptions_roundTrip (explain : Json.Fault → String) (names : Names) (others : List Names) :
    let options := Json.array ((names :: others).map toJson)
    ofOptionsText (Json.readArray explain) (Json.write options) = .ok names ∧
    Json.Spells Json.Reader.maxDepth options (Json.write options).toList ∧
    (∀ text : String, Json.Spells Json.Reader.maxDepth options text.toList →
      ofOptionsText (Json.readArray explain) text = .ok names) ∧
    ofOptions [names.toJson] = .ok names := by
  intro options
  have spelled : Json.Spells Json.Reader.maxDepth options (Json.write options).toList := by
    rw [Json.write, String.toList_ofList]
    exact Json.Writer.value_spells (writable_array_toJson _)
  have any (text : String) (spelled : Json.Spells Json.Reader.maxDepth options text.toList) :
      ofOptionsText (Json.readArray explain) text = .ok names := by
    rw [ofOptionsText_of_read (Json.readArray_of_read (Json.read_of_spells spelled) explain)]
    exact ofOptions_toJson names _
  exact ⟨any _ spelled, spelled, any, ofOptions_toJson names []⟩

/-- An options text with blanks in which each character of a name is escaped, one as a pair of surrogates. -/
def escapedOptions : String :=
  " [\x7b\"eventParamName\": \"\\u0065\\uD83D\\ude00\\/\",\"templateInstanceParamName\":\"\"\x7d ]"

theorem escapedName_spelled : Json.SpellsText ['e', '😀', '/'] "\\u0065\\uD83D\\ude00\\/".toList := by
  have letter : Json.HexNumber 'e'.toNat ['0', '0', '6', '5'] :=
    .digits (.decimal (n := 0) (by decide)) (.decimal (n := 0) (by decide)) (.decimal (n := 6) (by decide))
      (.decimal (n := 5) (by decide))
  have leading : Json.HexNumber (0xd800 + ('😀'.toNat - 0x10000) / 0x400) ['D', '8', '3', 'D'] :=
    .digits (.upper (n := 3) (by decide)) (.decimal (n := 8) (by decide)) (.decimal (n := 3) (by decide))
      (.upper (n := 3) (by decide))
  have trailing : Json.HexNumber (0xdc00 + ('😀'.toNat - 0x10000) % 0x400) ['d', 'e', '0', '0'] :=
    .digits (.lower (n := 3) (by decide)) (.lower (n := 4) (by decide)) (.decimal (n := 0) (by decide))
      (.decimal (n := 0) (by decide))
  exact .cons (.code letter) (.cons (.pair (by decide) leading trailing) (.cons .slash .nil))

theorem escapedOptions_spelled :
    Json.Spells Json.Reader.maxDepth (.array [toJson ⟨"e😀/", ""⟩]) escapedOptions.toList := by
  have gap : Json.Blank [' '] := by simp [Json.Blank]
  have event : Json.Spells 125 (.string "e😀/")
      ([' '] ++ ('"' :: "\\u0065\\uD83D\\ude00\\/".toList ++ ['"']) ++ []) :=
    .padded gap (.string escapedName_spelled) Json.blank_nil
  have templateInstance : Json.Spells 125 (.string "") ['"', '"'] := .string .nil
  have entries := Json.SpellsEntries.more (Json.Writer.key_spells eventKey) event
    (.last (Json.Writer.key_spells templateInstanceKey) templateInstance)
  have options : Json.Spells 127 (.array [toJson ⟨"e😀/", ""⟩]) _ :=
    .padded gap (.array (.last (.padded Json.blank_nil (.object entries) gap))) Json.blank_nil
  exact options

/-- The escapes and the blanks make no difference. -/
theorem ofOptions_escapedOptions :
    Json.Spells Json.Reader.maxDepth (.array [toJson ⟨"e😀/", ""⟩]) escapedOptions.toList ∧
      ofOptionsText (Json.readArray Json.Fault.name) escapedOptions = .ok ⟨"e😀/", ""⟩ :=
  ⟨escapedOptions_spelled, (ofOptions_roundTrip Json.Fault.name ⟨"e😀/", ""⟩ []).2.2.1 _ escapedOptions_spelled⟩

end Names

end EventMapLint
