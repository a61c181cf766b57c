import EventMapLint.Decimal.Shortest
import EventMapLint.Text.Quoted

namespace EventMapLint

/-- A JSON value. A number without fraction and exponent that fits 64 bits is an integer, any other a float. An
object holds its entries as they were written, repeated keys included. -/
inductive Json
  | null
  | boolean (value : Bool)
  | integer (value : Int)
  | float (value : Float)
  | string (value : String)
  | array (elements : List Json)
  | object (entries : List (String × Json))
  deriving Inhabited

namespace Json

/-- Floats are positional from a hundred-thousandth up to but without ten to the sixteenth. -/
def floatLayout : Decimal.Layout := ⟨-5, 16⟩

/-- What a value is, for a message that wanted something else. -/
def describe : Json → String
  | null => "null"
  | boolean value => "boolean `" ++ toString value ++ "`"
  | integer value => "integer `" ++ toString value ++ "`"
  | float value => "floating point `" ++ Decimal.text floatLayout value ++ "`"
  | string value => "string " ++ Text.quoted value
  | array _ => "sequence"
  | object _ => "map"

/-- Puts an entry into a list that is sorted by key, in place of an entry with the same key. -/
def insertEntry {α : Type} (key : String) (value : α) : List (String × α) → List (String × α)
  | [] => [(key, value)]
  | (other, found) :: rest =>
      if key = other then (key, value) :: rest
      else if key < other then (key, value) :: (other, found) :: rest
      else (other, found) :: insertEntry key value rest

/-- Entries sorted by key; of a key that is written more than once the last value counts. -/
def sortEntries {α : Type} (entries : List (String × α)) : List (String × α) :=
  entries.foldl (fun sorted entry => insertEntry entry.1 entry.2 sorted) []

/-- A value that is neither an array nor an object. -/
def isScalar : Json → Bool
  | array _ | object _ => false
  | _ => true

/-- The value of a key in an object. -/
def get? (json : Json) (key : String) : Option Json :=
  match json with
  | object entries => (entries.reverse.find? (·.1 = key)).map (·.2)
  | _ => none

end Json

end EventMapLint
