import EventMapLint.Text.Bytes

/-! Lines and columns of byte offsets. Both count from one; a line ends at a line feed only, and a column counts
characters, however many bytes or UTF-16 units they take. -/

namespace EventMapLint

structure Position where
  line : Nat
  column : Nat
  deriving DecidableEq, Repr

namespace Text

/-- The position just after the characters of `before`: its line feeds are counted, and its last line measured. -/
def positionAfter (before : List Char) : Position where
  line := before.count '\n' + 1
  column := (before.reverse.takeWhile (· != '\n')).length + 1

/-- The position of a byte offset. One past the end counts as the end; one inside a character has no position. -/
def position? (text : String) (offset : Nat) : Option Position :=
  (takeBytes? (min offset text.utf8ByteSize) text.toList).map positionAfter

end Text

end EventMapLint
