import EventMapLint.Proofs.Json.Entries

/-! JSON Schema, as far as a type and the properties of an object go. A schema is itself a JSON value. -/

namespace EventMapLint

namespace Json

/-- The keys of an object, in the order in which they were written. -/
def keys : Json → List String
  | object entries => entries.map (·.1)
  | _ => []

/-- Whether a value is of the type with this name. A float without a fraction counts as an integer too. -/
def hasType (json : Json) (name : String) : Bool :=
  match json with
  | null => name == "null"
  | boolean _ => name == "boolean"
  | integer _ => name == "integer" || name == "number"
  | float value => name == "number" || name == "integer" && value.floor == value
  | string _ => name == "string"
  | array _ => name == "array"
  | object _ => name == "object"

/-- The properties that a schema with these keywords lists. -/
def listed (keywords : List (String × Json)) : List String :=
  ((object keywords).get? "properties").elim [] keys

mutual

/-- Whether a value fits a schema, which is `true` for anything, `false` for nothing, or an object of keywords. -/
def accepts : (schema value : Json) → Bool
  | boolean verdict, _ => verdict
  | object keywords, value => acceptsAll (listed keywords) keywords value
  | _, _ => false

/-- Whether a value meets each keyword: `type` names its type, `properties` gives a schema for each key that is there,
and `additionalProperties` one for all keys but the listed ones. Other keywords ask for nothing. -/
def acceptsAll (listed : List String) : (keywords : List (String × Json)) → (value : Json) → Bool
  | [], _ => true
  | ("type", string name) :: keywords, value => value.hasType name && acceptsAll listed keywords value
  | ("properties", object properties) :: keywords, value =>
      acceptsEach properties value && acceptsAll listed keywords value
  | ("additionalProperties", schema) :: keywords, value =>
      (value.keys.all fun key => listed.contains key || (value.get? key).all (accepts schema)) &&
        acceptsAll listed keywords value
  | _ :: keywords, value => acceptsAll listed keywords value

def acceptsEach : (properties : List (String × Json)) → (value : Json) → Bool
  | [], _ => true
  | (key, schema) :: properties, value => (value.get? key).all (accepts schema) && acceptsEach properties value

end

/-! ### Objects of strings -/

theorem mem_keys_iff {entries : List (String × Json)} :
    key ∈ (object entries).keys ↔ ∃ found, (object entries).get? key = some found :=
  get?_isSome_iff.symm.trans Option.isSome_iff_exists

/-- The schema of a string. -/
def stringSchema : Json := object [("type", string "string")]

/-- The schema of an object that has no other keys than these, and strings under those that it has. -/
def stringsSchema (names : List String) : Json :=
  object [("type", string "object"), ("properties", object (names.map fun name => (name, stringSchema))),
    ("additionalProperties", boolean false)]

theorem accepts_stringSchema_iff {value : Json} : stringSchema.accepts value = true ↔ ∃ text, value = string text := by
  cases value <;> simp [stringSchema, accepts, acceptsAll, hasType]

theorem acceptsEach_stringSchema_iff {names : List String} {value : Json} :
    acceptsEach (names.map fun name => (name, stringSchema)) value = true ↔
      ∀ name ∈ names, ∀ found, value.get? name = some found → ∃ text, found = string text := by
  induction names with
  | nil => simp [acceptsEach]
  | cons name names ih =>
    rw [List.map_cons, acceptsEach, Bool.and_eq_true, ih, List.forall_mem_cons, Option.all_eq_true]
    simp only [accepts_stringSchema_iff]

theorem listed_stringsSchema (names : List String) :
    listed [("type", string "object"), ("properties", object (names.map fun name => (name, stringSchema))),
      ("additionalProperties", boolean false)] = names := by
  simp [listed, get?, keys, Function.comp_def]

theorem accepts_stringsSchema_iff {names : List String} {value : Json} :
    (stringsSchema names).accepts value = true ↔
      ∃ entries, value = object entries ∧
        ∀ key found, value.get? key = some found → key ∈ names ∧ ∃ text, found = string text := by
  rw [stringsSchema, accepts, listed_stringsSchema]
  cases value with
  | object entries =>
    have closed (key : String) :
        (names.contains key || ((object entries).get? key).all (accepts (boolean false))) = true ↔
          ∀ found, (object entries).get? key = some found → key ∈ names := by
      cases present : (object entries).get? key <;> simp [accepts]
    simp only [acceptsAll, hasType, beq_self_eq_true, Bool.true_and, Bool.and_true, Bool.and_eq_true,
      acceptsEach_stringSchema_iff, List.all_eq_true, mem_keys_iff, closed]
    constructor
    · rintro ⟨strings, others⟩
      refine ⟨entries, rfl, fun key found present => ?_⟩
      have named := others key ⟨found, present⟩ found present
      exact ⟨named, strings key named found present⟩
    · rintro ⟨_, _, each⟩
      exact ⟨fun key _ found present => (each key found present).2,
        fun key _ found present => (each key found present).1⟩
  | _ => simp [acceptsAll, hasType]

end Json

end EventMapLint
