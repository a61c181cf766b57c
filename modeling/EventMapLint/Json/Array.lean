import EventMapLint.Json.Reader

/-! Reading JSON text that has to hold an array. -/

namespace EventMapLint.Json

/-- Gives the elements of the array in a text, or a reason why there is none. -/
abbrev ArrayReader := String → Except String (List Json)

/-- The reason why a text holds no array but `found`, which ends before `rest`. It names the line, and the byte of the
line that the value ends with. -/
def notAnArray (text rest : List Char) (found : Json) : String :=
  let before := text.take (text.length - rest.length)
  let lastLine := before.reverse.takeWhile (· != '\n')
  "invalid type: " ++ found.describe ++ ", expected a sequence at line " ++ toString (before.count '\n' + 1) ++
    " column " ++ toString (Text.byteSize lastLine)

/-- Reads arrays, with `explain` for the faults. A text that holds something else is refused at its end, but an object
already at its opening brace. -/
def readArray (explain : Fault → String) : ArrayReader := fun text =>
  let text := text.toList
  match Reader.skipBlank text with
  | '[' :: _ =>
      match read text with
      | .ok (.array elements) => .ok elements
      -- Nothing but an array begins with a bracket.
      | .ok _ => .error (explain .malformed)
      | .error fault => .error (explain fault)
  | '\x7b' :: rest => .error (notAnArray text ('\x7b' :: rest) (.object []))
  | start =>
      match Reader.scalar start with
      | .ok (found, rest) => .error (notAnArray text rest found)
      | .error fault => .error (explain fault)

end EventMapLint.Json
