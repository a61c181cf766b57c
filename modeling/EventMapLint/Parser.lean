import EventMapLint.Tree.Node

/-! What is asked of a parser. -/

namespace EventMapLint

/-- What a parser makes of a source text: a program, and all that is wrong with the text. -/
structure Parsed where
  program : Program
  errors : List String

structure Parser where
  /-- The languages that a source text can be written in. -/
  Language : Type
  /-- The language of a file, if its name tells. -/
  ofFilename? : String → Option Language
  /-- The language of modules. -/
  esModule : Language
  parse : Language → String → Parsed

namespace Parser

variable (parser : Parser)

/-- The language of a file, which is a module where the name does not tell. -/
def language (filename : String) : parser.Language := (parser.ofFilename? filename).getD parser.esModule

def parseFile (source filename : String) : Parsed := parser.parse (parser.language filename) source

end Parser

end EventMapLint
