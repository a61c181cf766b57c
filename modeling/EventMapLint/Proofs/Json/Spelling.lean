import EventMapLint.Json.Value
import Mathlib.Algebra.Order.Ring.Int

/-! The texts that stand for a JSON value, by the grammar of the format: blanks may stand between any two tokens, and
any character of a string may be escaped. Numbers with a fraction or an exponent are left out. -/

namespace EventMapLint

namespace Json

/-! ### Characters and strings -/

/-- A hexadecimal digit, in either case. -/
inductive HexDigit : Nat → Char → Prop
  | decimal (small : n < 10) : HexDigit n (Char.ofNat ('0'.toNat + n))
  | lower (small : n < 6) : HexDigit (10 + n) (Char.ofNat ('a'.toNat + n))
  | upper (small : n < 6) : HexDigit (10 + n) (Char.ofNat ('A'.toNat + n))

/-- Four hexadecimal digits. -/
inductive HexNumber : Nat → List Char → Prop
  | digits (first : HexDigit k a) (second : HexDigit l b) (third : HexDigit m c) (fourth : HexDigit n d) :
      HexNumber (((k * 16 + l) * 16 + m) * 16 + n) [a, b, c, d]

/-- The texts that stand for one character between quotes. A character beyond the first plane is escaped as the pair
of its surrogates. -/
inductive SpellsChar : Char → List Char → Prop
  | plain (visible : 0x20 ≤ c.toNat) (quote : c ≠ '"') (backslash : c ≠ '\\') : SpellsChar c [c]
  | quote : SpellsChar '"' ['\\', '"']
  | backslash : SpellsChar '\\' ['\\', '\\']
  | slash : SpellsChar '/' ['\\', '/']
  | backspace : SpellsChar '\x08' ['\\', 'b']
  | formFeed : SpellsChar '\x0c' ['\\', 'f']
  | lineFeed : SpellsChar '\n' ['\\', 'n']
  | carriageReturn : SpellsChar '\r' ['\\', 'r']
  | tab : SpellsChar '\t' ['\\', 't']
  | code (number : HexNumber c.toNat digits) : SpellsChar c ('\\' :: 'u' :: digits)
  | pair (high : 0x10000 ≤ c.toNat) (leading : HexNumber (0xd800 + (c.toNat - 0x10000) / 0x400) digits)
      (trailing : HexNumber (0xdc00 + (c.toNat - 0x10000) % 0x400) digits') :
      SpellsChar c ('\\' :: 'u' :: digits ++ '\\' :: 'u' :: digits')

/-- The texts that stand for characters between quotes. -/
inductive SpellsText : List Char → List Char → Prop
  | nil : SpellsText [] []
  | cons (first : SpellsChar c piece) (rest : SpellsText text written) : SpellsText (c :: text) (piece ++ written)

/-- Blanks between tokens. -/
def Blank (gap : List Char) : Prop := ∀ c ∈ gap, c = ' ' ∨ c = '\t' ∨ c = '\n' ∨ c = '\r'

theorem blank_nil : Blank [] :=
  List.forall_mem_nil _

/-! ### Values -/

/-- The texts that stand for a key, up to the colon behind it. -/
inductive SpellsKey : String → List Char → Prop
  | quoted (before : Blank blanks) (inside : SpellsText text written) (after : Blank blanks') :
      SpellsKey (String.ofList text) (blanks ++ '"' :: written ++ '"' :: blanks' ++ [':'])

mutual

/-- The texts that stand for a value, blanks around it included, with at most `depth` arrays and objects inside each
other. -/
inductive Spells : (depth : Nat) → Json → List Char → Prop
  | null : Spells depth .null ['n', 'u', 'l', 'l']
  | true : Spells depth (.boolean true) ['t', 'r', 'u', 'e']
  | false : Spells depth (.boolean false) ['f', 'a', 'l', 's', 'e']
  | natural {n : Nat} (fits : n < 2 ^ 64) : Spells depth (.integer n) (Nat.toDigits 10 n)
  | negative {n : Nat} (positive : 0 < n) (fits : n ≤ 2 ^ 63) :
      Spells depth (.integer (-n)) ('-' :: Nat.toDigits 10 n)
  | string (inside : SpellsText text written) : Spells depth (.string (String.ofList text)) ('"' :: written ++ ['"'])
  | emptyArray (gap : Blank blanks) : Spells (depth + 1) (.array []) ('[' :: blanks ++ [']'])
  | array (inside : SpellsElements depth elements written) :
      Spells (depth + 1) (.array elements) ('[' :: written ++ [']'])
  | emptyObject (gap : Blank blanks) : Spells (depth + 1) (.object []) ('\x7b' :: blanks ++ ['\x7d'])
  | object (inside : SpellsEntries depth entries written) :
      Spells (depth + 1) (.object entries) ('\x7b' :: written ++ ['\x7d'])
  | padded (before : Blank blanks) (value : Spells depth json written) (after : Blank blanks') :
      Spells depth json (blanks ++ written ++ blanks')

/-- The texts that stand for the elements of an array, of which there is at least one. -/
inductive SpellsElements : (depth : Nat) → List Json → List Char → Prop
  | last (value : Spells depth json written) : SpellsElements depth [json] written
  | more (value : Spells depth json written) (others : SpellsElements depth elements written') :
      SpellsElements depth (json :: elements) (written ++ ',' :: written')

/-- The texts that stand for the entries of an object, of which there is at least one. -/
inductive SpellsEntries : (depth : Nat) → List (String × Json) → List Char → Prop
  | last (before : SpellsKey key name) (value : Spells depth json written) :
      SpellsEntries depth [(key, json)] (name ++ written)
  | more (before : SpellsKey key name) (value : Spells depth json written)
      (others : SpellsEntries depth entries written') :
      SpellsEntries depth ((key, json) :: entries) (name ++ written ++ ',' :: written')

end

end Json

end EventMapLint
