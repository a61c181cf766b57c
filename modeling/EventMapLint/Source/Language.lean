/-! Which language a file is written in, by its name. -/

namespace EventMapLint.Source

/-- How `await` is read outside of functions: as a keyword, as a name, or as a keyword in those files that turn out
to have module syntax. -/
inductive Goal
  | module
  | script
  | either
  deriving DecidableEq, Repr

structure Language where
  goal : Goal := .module
  typed : Bool := false
  markup : Bool := false
  declarations : Bool := false
  deriving DecidableEq, Repr

namespace Language

/-- The parts of a text between its separators. -/
def parts (separator : Char) (text : String) : List String := (text.toList.splitOn separator).map String.ofList

/-- The last component of a path. A path that ends in the parent directory has none; a slash at the end and
components that mean the directory itself do not count. -/
def fileName? (path : String) : Option String :=
  match ((parts '/' path).filter fun part => part != "" && part != ".").getLast? with
  | some ".." => none
  | found => found

/-- The parts of a file name between its dots, last first. -/
def dotted (name : String) : List String := (parts '.' name).reverse

/-- The language for the parts of a file name, last first, if the name tells. A name that is nothing but an extension
after a dot has no extension. -/
def ofParts? : List String → Option Language
  | [] | [_] | [_, ""] => none
  | extension :: stem =>
      let declarations := stem.head? = some "d" || stem[1]? = some "d"
      match extension with
      | "js" => some { goal := .either }
      | "jsx" => some { goal := .either, markup := true }
      | "mjs" => some {}
      | "cjs" => some { goal := .script }
      | "ts" => some { goal := .either, typed := true, declarations }
      | "tsx" => some { goal := .either, typed := true, markup := true }
      | "mts" => some { typed := true, declarations }
      | "cts" => some { goal := .script, typed := true, declarations }
      | _ => none

/-- The language of a file, if its name tells. -/
def ofFilename? (path : String) : Option Language := (fileName? path).bind fun name => ofParts? (dotted name)

end Language

end EventMapLint.Source
