/-! The words and signs that a source text is made of. -/

namespace EventMapLint.Source

/-- A token. An escaped word is never a keyword. A template token runs up to the next substitution, or to the end
of the template if it `closes`; its text is absent if an escape in it is invalid. -/
inductive Token
  | word (name : String) (escaped : Bool)
  | privateName (name : String)
  | mark (text : String)
  | number (text : String)
  | bigint (text : String)
  | string (value : String)
  | template (cooked : Option String) (closes : Bool)
  | regex (text : String)
  | eof
  | invalid
  deriving DecidableEq, Repr, Inhabited

namespace Token

/-- The words that are never names. -/
def reserved : List String :=
  ["break", "case", "catch", "class", "const", "continue", "debugger", "default", "delete", "do", "else", "enum",
    "export", "extends", "false", "finally", "for", "function", "if", "import", "in", "instanceof", "new", "null",
    "return", "super", "switch", "this", "throw", "true", "try", "typeof", "var", "void", "while", "with"]

def isReserved (name : String) : Bool := reserved.contains name

/-- Whether a token can stand for a name that is bound or referred to. -/
def isIdentifier : Token → Bool
  | .word name _ => !isReserved name
  | _ => false

def isWord : Token → Bool
  | .word _ _ => true
  | _ => false

/-- Whether a token is the keyword `name`. -/
def isKeyword (token : Token) (name : String) : Bool := token == .word name false

def isMark (token : Token) (text : String) : Bool := token == .mark text

def isLiteral : Token → Bool
  | .string _ | .number _ | .bigint _ | .template _ _ => true
  | _ => false

end Token

end EventMapLint.Source
