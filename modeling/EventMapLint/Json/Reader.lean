import EventMapLint.Decimal.Scaled
import EventMapLint.Json.Value
import EventMapLint.Text.Bytes
import EventMapLint.Text.Hexadecimal

/-! Reading JSON text. There are two ways to go wrong: the text ends too early, or something stands in it that
cannot stand there. Whichever is met first from the left decides. -/

namespace EventMapLint.Json

inductive Fault
  | ended
  | malformed
  deriving DecidableEq, Repr

/-- The class that a fault belongs to. -/
def Fault.name : Fault → String
  | .ended => "eof"
  | .malformed => "syntax"

namespace Reader

def isBlank (c : Char) : Bool := c == ' ' || c == '\n' || c == '\r' || c == '\t'

def skipBlank (cs : List Char) : List Char := cs.dropWhile isBlank

/-- Reads the rest of a word whose first letter has been read. -/
def word : (letters : List Char) → List Char → Except Fault (List Char)
  | [], cs => .ok cs
  | _ :: _, [] => .error .ended
  | letter :: letters, c :: cs => if c = letter then word letters cs else .error .malformed

/-- The fault in an escape by code point without four digits: the text has ended if fewer than four bytes remain. -/
def shortEscape (cs : List Char) : Fault :=
  if Text.byteSize cs < 4 then .ended else .malformed

/-- The character of an escape other than by code point. -/
def escaped? : Char → Option Char
  | '"' => some '"'
  | '\\' => some '\\'
  | '/' => some '/'
  | 'b' => some '\x08'
  | 'f' => some '\x0c'
  | 'n' => some '\n'
  | 'r' => some '\r'
  | 't' => some '\t'
  | _ => none

/-- The character that a leading and a trailing surrogate make. -/
def joinSurrogates (leading trailing : Nat) : Char :=
  Char.ofNat ((leading - 0xd800) * 0x400 + (trailing - 0xdc00) + 0x10000)

/-- Reads a string after its opening quote. A surrogate must come as one of a pair of escapes. -/
def string : List Char → Except Fault (List Char × List Char)
  | [] => .error .ended
  | '"' :: rest => .ok ([], rest)
  | ['\\'] => .error .ended
  | '\\' :: 'u' :: a :: b :: c :: d :: rest =>
      match Text.hexNumber? [a, b, c, d] with
      | none => .error .malformed
      | some code =>
          if 0xdc00 ≤ code ∧ code < 0xe000 then .error .malformed
          else if 0xd800 ≤ code ∧ code < 0xdc00 then
            match rest with
            | [] => .error .ended
            | ['\\'] => .error .ended
            | '\\' :: 'u' :: e :: f :: g :: h :: rest =>
                match Text.hexNumber? [e, f, g, h] with
                | none => .error .malformed
                | some trailing =>
                    if 0xdc00 ≤ trailing ∧ trailing < 0xe000 then do
                      let (text, rest) ← string rest
                      return (joinSurrogates code trailing :: text, rest)
                    else .error .malformed
            | '\\' :: 'u' :: rest => .error (shortEscape rest)
            | _ => .error .malformed
          else do
            let (text, rest) ← string rest
            return (Char.ofNat code :: text, rest)
  | '\\' :: 'u' :: rest => .error (shortEscape rest)
  | '\\' :: c :: rest =>
      match escaped? c with
      | none => .error .malformed
      | some c => do
          let (text, rest) ← string rest
          return (c :: text, rest)
  | c :: rest =>
      if c.toNat < 0x20 then .error .malformed
      else do
        let (text, rest) ← string rest
        return (c :: text, rest)

def digitsOf (cs : List Char) : List Nat := cs.map fun c => c.toNat - '0'.toNat

/-- The number that decimal digits write. -/
def decimal (digits : List Nat) : Nat := digits.foldl (fun n d => n * 10 + d) 0

/-- At least one digit, and what follows the last. -/
def digits (cs : List Char) : Except Fault (List Nat × List Char) :=
  match cs.takeWhile Char.isDigit, cs with
  | [], [] => .error .ended
  | [], _ :: _ => .error .malformed
  | found, _ => .ok (digitsOf found, cs.dropWhile Char.isDigit)

/-- The digits before the point: a zero alone, or digits that do not begin with one. -/
def wholeDigits : List Char → Except Fault (List Nat × List Char)
  | '0' :: c :: rest => if c.isDigit then .error .malformed else .ok ([0], c :: rest)
  | cs => digits cs

/-- The sign and the digits of an exponent, after its letter. -/
def exponent : List Char → Except Fault (Int × List Char)
  | '+' :: cs => do
      let (ds, rest) ← digits cs
      return (decimal ds, rest)
  | '-' :: cs => do
      let (ds, rest) ← digits cs
      return (-decimal ds, rest)
  | cs => do
      let (ds, rest) ← digits cs
      return (decimal ds, rest)

def finish (negative : Bool) (scaled : Decimal.Scaled) (rest : List Char) : Except Fault (Json × List Char) :=
  match scaled.toFloat? with
  | none => .error .malformed
  | some value => .ok (.float (if negative then -value else value), rest)

/-- The value of a number that has neither fraction nor exponent. -/
def whole (negative : Bool) (digits : List Nat) : Option Json :=
  let value := decimal digits
  if negative then
    if 0 < value ∧ value ≤ Nat.pow 2 63 then some (.integer (-value)) else none
  else if value < Nat.pow 2 64 then some (.integer value) else none

/-- Reads a number after its sign. -/
def unsigned (negative : Bool) (cs : List Char) : Except Fault (Json × List Char) := do
  let (front, rest) ← wholeDigits cs
  let scaled := Decimal.Scaled.wholeDigits ⟨0, 0⟩ front
  match rest with
  | '.' :: rest =>
      let (back, rest) ← digits rest
      let scaled := scaled.fractionDigits back
      match rest with
      | 'e' :: rest | 'E' :: rest =>
          let (power, rest) ← exponent rest
          finish negative { scaled with exponent := scaled.exponent + power } rest
      | rest => finish negative scaled rest
  | 'e' :: rest | 'E' :: rest =>
      let (power, rest) ← exponent rest
      finish negative { scaled with exponent := scaled.exponent + power } rest
  | rest =>
      match whole negative front with
      | some json => .ok (json, rest)
      | none => finish negative scaled rest

/-- Reads a value that is neither an array nor an object. -/
def scalar : List Char → Except Fault (Json × List Char)
  | [] => .error .ended
  | 'n' :: cs => do return (.null, ← word ['u', 'l', 'l'] cs)
  | 't' :: cs => do return (.boolean true, ← word ['r', 'u', 'e'] cs)
  | 'f' :: cs => do return (.boolean false, ← word ['a', 'l', 's', 'e'] cs)
  | '"' :: cs => do
      let (text, rest) ← string cs
      return (.string (String.ofList text), rest)
  | '-' :: cs => unsigned true cs
  | c :: cs => if c.isDigit then unsigned false (c :: cs) else .error .malformed

mutual

/-- Reads a value, in at most `depth` further levels of arrays and objects. -/
def value : (fuel depth : Nat) → List Char → Except Fault (Json × List Char)
  | 0, _, _ => .error .malformed
  | fuel + 1, depth, cs =>
      match skipBlank cs with
      | '[' :: rest =>
          match depth with
          | 0 => .error .malformed
          | depth + 1 =>
              match skipBlank rest with
              | ']' :: rest => .ok (.array [], rest)
              | rest => do
                  let (elements, rest) ← elements fuel depth rest
                  return (.array elements, rest)
      | '\x7b' :: rest =>
          match depth with
          | 0 => .error .malformed
          | depth + 1 =>
              match skipBlank rest with
              | '\x7d' :: rest => .ok (.object [], rest)
              | rest => do
                  let (entries, rest) ← entries fuel depth rest
                  return (.object entries, rest)
      | rest => scalar rest

/-- Reads the elements of an array up to its closing bracket; there is at least one. -/
def elements : (fuel depth : Nat) → List Char → Except Fault (List Json × List Char)
  | 0, _, _ => .error .malformed
  | fuel + 1, depth, cs => do
      let (first, rest) ← value fuel depth cs
      match skipBlank rest with
      | [] => .error .ended
      | ']' :: rest => return ([first], rest)
      | ',' :: rest =>
          let (others, rest) ← elements fuel depth rest
          return (first :: others, rest)
      | _ :: _ => .error .malformed

/-- Reads the entries of an object up to its closing brace; there is at least one. -/
def entries : (fuel depth : Nat) → List Char → Except Fault (List (String × Json) × List Char)
  | 0, _, _ => .error .malformed
  | fuel + 1, depth, cs => do
      match skipBlank cs with
      | [] => .error .ended
      | '"' :: rest =>
          let (key, rest) ← string rest
          match skipBlank rest with
          | [] => .error .ended
          | ':' :: rest =>
              let (first, rest) ← value fuel depth rest
              match skipBlank rest with
              | [] => .error .ended
              | '\x7d' :: rest => return ([(String.ofList key, first)], rest)
              | ',' :: rest =>
                  let (others, rest) ← entries fuel depth rest
                  return ((String.ofList key, first) :: others, rest)
              | _ :: _ => .error .malformed
          | _ :: _ => .error .malformed
      | _ :: _ => .error .malformed

end

/-- The deepest nesting of arrays and objects that is read. -/
def maxDepth : Nat := 127

end Reader

/-- Reads a text that holds one value and blanks around it. -/
def read (text : List Char) : Except Fault Json := do
  let (json, rest) ← Reader.value (2 * text.length + 1) Reader.maxDepth text
  if (Reader.skipBlank rest).isEmpty then return json else .error .malformed

end EventMapLint.Json
