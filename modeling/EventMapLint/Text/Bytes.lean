/-! Byte offsets into a text. They count the bytes of its UTF-8 encoding. -/

namespace EventMapLint.Text

/-- The bytes that characters take. -/
def byteSize : List Char → Nat
  | [] => 0
  | c :: cs => c.utf8Size + byteSize cs

/-- The characters in the first `count` bytes of a text, or nothing if the count ends inside a character. -/
def takeBytes? : (count : Nat) → List Char → Option (List Char)
  | 0, _ => some []
  | _ + 1, [] => none
  | count + 1, c :: rest =>
      if c.utf8Size ≤ count + 1 then (takeBytes? (count + 1 - c.utf8Size) rest).map (c :: ·) else none

end EventMapLint.Text
