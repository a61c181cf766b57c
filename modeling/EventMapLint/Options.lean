import EventMapLint.Json.Array
import EventMapLint.Names

/-! Reading the rule's options. They come as an array whose first entry decides: an object with a string for either
name, or nothing. The keys of the object are visited in sorted order and the first problem is reported. -/

namespace EventMapLint

namespace Options

def eventKey : String := "eventParamName"

def templateInstanceKey : String := "templateInstanceParamName"

/-- The JSON schema of the options array. -/
def schema : Json :=
  .array [.object [
    ("type", .string "object"),
    ("properties", .object [
      (eventKey, .object [("type", .string "string")]),
      (templateInstanceKey, .object [("type", .string "string")])]),
    ("additionalProperties", .boolean false)]]

/-- What an entry was that should have been an object. -/
inductive Kind
  | array
  | string
  | number
  | boolean
  deriving DecidableEq, Repr

def Kind.name : Kind → String
  | .array => "an array"
  | .string => "a string"
  | .number => "a number"
  | .boolean => "a boolean"

inductive Error
  | notAnObject (kind : Kind)
  | unknownField (key : String)
  | notAString (found : Json)
  /-- A text that holds no array, for the reason that the reader gives. -/
  | unreadable (reason : String)

def Error.detail : Error → String
  | .notAnObject kind => "rule options must be an object, got " ++ kind.name
  | .unknownField key =>
      "unknown field `" ++ key ++ "`, expected `" ++ eventKey ++ "` or `" ++ templateInstanceKey ++ "`"
  | .notAString found => "invalid type: " ++ found.describe ++ ", expected a string"
  | .unreadable reason => reason

def Error.message : Error → String
  | .notAnObject kind => (Error.notAnObject kind).detail
  | error => "invalid rule options: " ++ error.detail

end Options

namespace Names

/-- Takes one entry of an options object into account. -/
def withOption (names : Names) (entry : String × Json) : Except Options.Error Names :=
  if entry.1 = Options.eventKey then
    match entry.2 with
    | .string name => .ok (names.withEvent name)
    | found => .error (.notAString found)
  else if entry.1 = Options.templateInstanceKey then
    match entry.2 with
    | .string name => .ok (names.withTemplateInstance name)
    | found => .error (.notAString found)
  else .error (.unknownField entry.1)

/-- The names in the entries of an options object; a name that is not there keeps its default. -/
def ofEntries (entries : List (String × Json)) : Except Options.Error Names :=
  (Json.sortEntries entries).foldlM withOption default

/-- The names in an options array, of which only the first entry counts. -/
def ofOptions : List Json → Except Options.Error Names
  | [] | .null :: _ => .ok default
  | .object entries :: _ => ofEntries entries
  | .array _ :: _ => .error (.notAnObject .array)
  | .string _ :: _ => .error (.notAnObject .string)
  | .integer _ :: _ | .float _ :: _ => .error (.notAnObject .number)
  | .boolean _ :: _ => .error (.notAnObject .boolean)

/-- The names in the text of an options array, which `read` reads. -/
def ofOptionsText (read : Json.ArrayReader) (text : String) : Except Options.Error Names :=
  match read text with
  | .error reason => .error (.unreadable reason)
  | .ok options => ofOptions options

/-- The options object that gives these names. -/
def toJson (names : Names) : Json :=
  .object [(Options.eventKey, .string names.event), (Options.templateInstanceKey, .string names.templateInstance)]

end Names

end EventMapLint
