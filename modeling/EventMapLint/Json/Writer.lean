import EventMapLint.Json.Value

/-! Writing JSON text, without blanks. -/

namespace EventMapLint.Json

namespace Writer

def hexDigit (n : Nat) : Char := if n < 10 then Char.ofNat ('0'.toNat + n) else Char.ofNat ('a'.toNat + (n - 10))

/-- One character inside a string: quotes, backslashes and control characters are escaped and nothing else. -/
def escape (c : Char) : List Char :=
  if c = '"' then ['\\', '"']
  else if c = '\\' then ['\\', '\\']
  else if c = '\x08' then ['\\', 'b']
  else if c = '\x0c' then ['\\', 'f']
  else if c = '\n' then ['\\', 'n']
  else if c = '\r' then ['\\', 'r']
  else if c = '\t' then ['\\', 't']
  else if c.toNat < 0x20 then ['\\', 'u', '0', '0', hexDigit (c.toNat / 16), hexDigit (c.toNat % 16)]
  else [c]

def string (text : String) : List Char := '"' :: text.toList.flatMap escape ++ ['"']

mutual

def value : Json → List Char
  | .null => ['n', 'u', 'l', 'l']
  | .boolean true => ['t', 'r', 'u', 'e']
  | .boolean false => ['f', 'a', 'l', 's', 'e']
  | .integer n => (toString n).toList
  | .float x => (Decimal.text floatLayout x).toList
  | .string text => string text
  | .array [] => ['[', ']']
  | .array (first :: others) => '[' :: value first ++ elements others ++ [']']
  | .object [] => ['\x7b', '\x7d']
  | .object ((key, first) :: others) =>
      '\x7b' :: string key ++ ':' :: value first ++ entries others ++ ['\x7d']

/-- Further elements, each after a comma. -/
def elements : List Json → List Char
  | [] => []
  | next :: others => ',' :: value next ++ elements others

/-- Further entries, each after a comma. -/
def entries : List (String × Json) → List Char
  | [] => []
  | (key, next) :: others => ',' :: string key ++ ':' :: value next ++ entries others

end

end Writer

def write (json : Json) : String := String.ofList (Writer.value json)

end EventMapLint.Json
