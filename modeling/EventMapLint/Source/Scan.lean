import EventMapLint.Source.Token
import EventMapLint.Text.Hexadecimal
import EventMapLint.Text.Letter

/-! Reading tokens. Each function takes what it reads off the front of a list of characters and gives the number of
bytes that it took with the rest of the list; where it gives nothing, no token begins there. -/

namespace EventMapLint.Source.Scan

def isLineEnd (c : Char) : Bool := c == '\n' || c == '\r' || c == '\u2028' || c == '\u2029'

def isBlank (c : Char) : Bool :=
  c == ' ' || c == '\t' || c == '\x0b' || c == '\x0c' || c == '\u0085' || c == '\u00a0' || c == '\u1680' ||
    c == '\u180e' || ('\u2000' ≤ c && c ≤ '\u200b') || c == '\u202f' || c == '\u205f' || c == '\u3000' ||
    c == '\ufeff'

/-- Where in the space between tokens a character stands. -/
inductive Gap
  | open
  | lineComment
  | blockComment

/-- Skips blanks and comments. Tells whether a line ended, the bytes skipped, and what follows; nothing if a
comment does not end. -/
def skipGap : Gap → (lineEnded : Bool) → (bytes : Nat) → List Char → Option (Bool × Nat × List Char)
  | .open, ended, bytes, '/' :: '/' :: cs => skipGap .lineComment ended (bytes + 2) cs
  | .open, ended, bytes, '/' :: '*' :: cs => skipGap .blockComment ended (bytes + 2) cs
  | .open, ended, bytes, c :: cs =>
      if isLineEnd c then skipGap .open true (bytes + c.utf8Size) cs
      else if isBlank c then skipGap .open ended (bytes + c.utf8Size) cs
      else some (ended, bytes, c :: cs)
  | .lineComment, ended, bytes, c :: cs =>
      if isLineEnd c then skipGap .open true (bytes + c.utf8Size) cs
      else skipGap .lineComment ended (bytes + c.utf8Size) cs
  | .blockComment, ended, bytes, '*' :: '/' :: cs => skipGap .open ended (bytes + 2) cs
  | .blockComment, ended, bytes, c :: cs => skipGap .blockComment (ended || isLineEnd c) (bytes + c.utf8Size) cs
  | .blockComment, _, _, [] => none
  | _, ended, bytes, [] => some (ended, bytes, [])

/-- The digits of an escape in braces, and what follows the closing brace. The number is a code point. -/
def bracedCode : (soFar : Option Nat) → (bytes : Nat) → List Char → Option (Nat × Nat × List Char)
  | some code, bytes, '\x7d' :: cs => some (code, bytes + 1, cs)
  | soFar, bytes, c :: cs =>
      match Text.hexDigit? c with
      | none => none
      | some digit =>
          if soFar.getD 0 * 16 + digit < 0x110000 then bracedCode (some (soFar.getD 0 * 16 + digit)) (bytes + 1) cs
          else none
  | _, _, [] => none

/-- The code of an escape after its backslash and letter, in four digits or in braces. -/
def escapedCode : List Char → Option (Nat × Nat × List Char)
  | '\x7b' :: cs => bracedCode none 1 cs
  | a :: b :: c :: d :: cs => (Text.hexNumber? [a, b, c, d]).map (·, 4, cs)
  | _ => none

def isSurrogate (code : Nat) : Bool := 0xd800 ≤ code && code < 0xe000

/-- Reads a name up to the first character that cannot continue it. The name, whether an escape occurs in it, its
bytes, and what follows; nothing if an escape does not fit. -/
def name : (fuel : Nat) → (first : Bool) → List Char → Option (List Char × Bool × Nat × List Char)
  | 0, _, _ => none
  | fuel + 1, first, cs =>
      let fits (c : Char) : Bool := if first then Text.isIdentifierStart c else Text.isIdentifierPart c
      match cs with
      | '\\' :: 'u' :: cs => do
          let (code, bytes, cs) ← escapedCode cs
          if isSurrogate code || !fits (Char.ofNat code) then none
          else
            let (rest, _, more, cs) ← name fuel false cs
            return (Char.ofNat code :: rest, true, 2 + bytes + more, cs)
      | '\\' :: _ => none
      | c :: cs =>
          if fits c then do
            let (rest, escaped, bytes, cs) ← name fuel false cs
            return (c :: rest, escaped, c.utf8Size + bytes, cs)
          else if first then none else some ([], false, 0, c :: cs)
      | [] => if first then none else some ([], false, 0, [])

/-- A run of digits with single separators between them, by its length; nothing if there is no digit or a
separator does not stand between two. -/
def digitRun (isDigit : Char → Bool) : (afterDigit : Bool) → List Char → Option (Nat × List Char)
  | afterDigit, c :: cs =>
      if isDigit c then (digitRun isDigit true cs).map fun (n, cs) => (n + 1, cs)
      else if afterDigit then
        if c == '_' then (digitRun isDigit false cs).map fun (n, cs) => (n + 1, cs) else some (0, c :: cs)
      else none
  | afterDigit, [] => if afterDigit then some (0, []) else none

/-- The exponent of a number, if there is one. -/
def exponent : List Char → Option (Nat × List Char)
  | e :: sign :: cs =>
      if e == 'e' || e == 'E' then
        if sign == '+' || sign == '-' then (digitRun Char.isDigit false cs).map fun (n, cs) => (n + 2, cs)
        else (digitRun Char.isDigit false (sign :: cs)).map fun (n, cs) => (n + 1, cs)
      else some (0, e :: sign :: cs)
  | [e] => if e == 'e' || e == 'E' then none else some (0, [e])
  | [] => some (0, [])

/-- What follows the point of a number: digits that may be missing, and an exponent. -/
def fraction (cs : List Char) : Option (Nat × List Char) := do
  let (digits, cs) ←
    if (cs.head?.map Char.isDigit).getD false then digitRun Char.isDigit false cs else some (0, cs)
  let (power, cs) ← exponent cs
  return (digits + power, cs)

/-- The length of a number, whether it is a big integer, and what follows. -/
def numberLength (cs : List Char) : Option (Nat × Bool × List Char) := do
  let radix (isDigit : Char → Bool) (cs : List Char) : Option (Nat × Bool × List Char) := do
    let (n, cs) ← digitRun isDigit false cs
    match cs with
    | 'n' :: cs => return (n + 3, true, cs)
    | cs => return (n + 2, false, cs)
  match cs with
  | '0' :: 'x' :: cs | '0' :: 'X' :: cs => radix (fun c => (Text.hexDigit? c).isSome) cs
  | '0' :: 'o' :: cs | '0' :: 'O' :: cs => radix (fun c => '0' ≤ c && c ≤ '7') cs
  | '0' :: 'b' :: cs | '0' :: 'B' :: cs => radix (fun c => c == '0' || c == '1') cs
  | '.' :: cs => do
      let (n, cs) ← fraction cs
      return (n + 1, false, cs)
  | '0' :: 'n' :: cs => return (2, true, cs)
  | '0' :: c :: cs =>
      if c.isDigit then
        let digits := (c :: cs).takeWhile Char.isDigit
        let rest := (c :: cs).dropWhile Char.isDigit
        if digits.all (· ≤ '7') then return (digits.length + 1, false, rest)
        else
          match rest with
          | '.' :: rest =>
              let (n, rest) ← fraction rest
              return (digits.length + 2 + n, false, rest)
          | rest =>
              let (n, rest) ← exponent rest
              return (digits.length + 1 + n, false, rest)
      else if c == '.' then
        let (n, cs) ← fraction cs
        return (n + 2, false, cs)
      else
        let (n, cs) ← exponent (c :: cs)
        return (n + 1, false, cs)
  | cs =>
      let (n, cs) ← digitRun Char.isDigit false cs
      match cs with
      | 'n' :: cs => return (n + 1, true, cs)
      | '.' :: cs =>
          let (m, cs) ← fraction cs
          return (n + 1 + m, false, cs)
      | cs =>
          let (m, cs) ← exponent cs
          return (n + m, false, cs)

/-- One unit of a string's value: a character, or half of a surrogate pair that stands alone. -/
inductive Piece
  | char (c : Char)
  | half (code : Nat)

def hex4 (n : Nat) : List Char :=
  let digits := Nat.toDigits 16 n
  List.replicate (4 - digits.length) '0' ++ digits

/-- The value of a string. If a surrogate stands alone in it, each is written as a replacement character and its
code, and so is a replacement character itself. -/
def pieceText (pieces : List Piece) : String :=
  if pieces.any fun | .half _ => true | .char _ => false then
    String.ofList <| pieces.flatMap fun
      | .half code => '\ufffd' :: hex4 code
      | .char c => if c == '\ufffd' then '\ufffd' :: hex4 0xfffd else [c]
  else
    String.ofList <| pieces.filterMap fun
      | .char c => some c
      | .half _ => none

/-- The escape by code point after its backslash and letter: a pair of surrogates makes one character. -/
def codePiece (cs : List Char) : Option (Piece × Nat × List Char) := do
  let (code, bytes, rest) ← escapedCode cs
  if 0xd800 ≤ code && code < 0xdc00 && bytes == 4 then
    match rest with
    | '\\' :: 'u' :: a :: b :: c :: d :: more =>
        match Text.hexNumber? [a, b, c, d] with
        | some low =>
            if 0xdc00 ≤ low && low < 0xe000 then
              return (.char (Char.ofNat ((code - 0xd800) * 0x400 + (low - 0xdc00) + 0x10000)), 10, more)
            else return (.half code, bytes, rest)
        | none => return (.half code, bytes, rest)
    | _ => return (.half code, bytes, rest)
  else if isSurrogate code then return (.half code, bytes, rest)
  else return (.char (Char.ofNat code), bytes, rest)

/-- The character of a one-letter escape. -/
def simpleEscape? : Char → Option Char
  | 'n' => some '\n'
  | 't' => some '\t'
  | 'r' => some '\r'
  | 'b' => some '\x08'
  | 'f' => some '\x0c'
  | 'v' => some '\x0b'
  | _ => none

def isOctal (c : Char) : Bool := '0' ≤ c && c ≤ '7'

/-- The longest octal escape below 256: the character, the digits taken, and what follows. -/
def octalEscape (first : Char) (cs : List Char) : Char × Nat × List Char :=
  let digits := first :: (cs.take (if first ≤ '3' then 2 else 1)).takeWhile isOctal
  (Char.ofNat (digits.foldl (fun n c => n * 8 + (c.toNat - '0'.toNat)) 0), digits.length,
    cs.drop (digits.length - 1))

/-- An escape in a string, after its backslash. A line that is continued adds nothing. -/
def stringEscape : List Char → Option (List Piece × Nat × List Char)
  | '\r' :: '\n' :: cs => some ([], 2, cs)
  | 'x' :: a :: b :: cs => (Text.hexNumber? [a, b]).map fun code => ([.char (Char.ofNat code)], 3, cs)
  | 'x' :: _ => none
  | 'u' :: cs => (codePiece cs).map fun (piece, bytes, cs) => ([piece], bytes + 1, cs)
  | c :: cs =>
      if isLineEnd c then some ([], c.utf8Size, cs)
      else if isOctal c then
        let (c, bytes, cs) := octalEscape c cs
        some ([.char c], bytes, cs)
      else some ([.char ((simpleEscape? c).getD c)], c.utf8Size, cs)
  | [] => none

/-- Reads a string after its opening quote: its pieces, its bytes, and what follows. -/
def string (quote : Char) : (fuel : Nat) → List Char → Option (List Piece × Nat × List Char)
  | 0, _ => none
  | _ + 1, [] => none
  | fuel + 1, '\\' :: cs => do
      let (pieces, bytes, cs) ← stringEscape cs
      let (rest, more, cs) ← string quote fuel cs
      return (pieces ++ rest, 1 + bytes + more, cs)
  | fuel + 1, c :: cs =>
      if c == quote then some ([], c.utf8Size, cs)
      else if c == '\n' || c == '\r' then none
      else do
        let (rest, more, cs) ← string quote fuel cs
        return (.char c :: rest, c.utf8Size + more, cs)

/-- An escape in a template, after its backslash. Octal escapes are not allowed there. -/
def templateEscape : List Char → Option (List Piece × Nat × List Char)
  | '0' :: cs => if (cs.head?.map Char.isDigit).getD false then none else some ([.char (Char.ofNat 0)], 1, cs)
  | c :: cs => if c.isDigit then none else stringEscape (c :: cs)
  | [] => none

/-- Reads a template up to the next substitution or its end: the pieces, if every escape is valid, whether the
template ends, the bytes and what follows. A line ends with a line feed, however it is written. -/
def template : (fuel : Nat) → List Char → Option (Option (List Piece) × Bool × Nat × List Char)
  | 0, _ => none
  | fuel + 1, cs =>
      match cs with
      | [] => none
      | '\x60' :: cs => some (some [], true, 1, cs)
      | '$' :: '\x7b' :: cs => some (some [], false, 2, cs)
      | '\\' :: cs =>
          match templateEscape cs, cs with
          | some (pieces, bytes, cs), _ => do
              let (rest, closes, more, cs) ← template fuel cs
              return (rest.map (pieces ++ ·), closes, 1 + bytes + more, cs)
          | none, c :: cs => do
              let (_, closes, more, cs) ← template fuel cs
              return (none, closes, 1 + c.utf8Size + more, cs)
          | none, [] => none
      | '\r' :: '\n' :: cs => do
          let (rest, closes, more, cs) ← template fuel cs
          return (rest.map (.char '\n' :: ·), closes, 2 + more, cs)
      | c :: cs => do
          let (rest, closes, more, cs) ← template fuel cs
          return (rest.map (.char (if c == '\r' then '\n' else c) :: ·), closes, c.utf8Size + more, cs)

/-- Reads the body of a regular expression after its first slash, by its bytes. A slash inside brackets does not
end it. -/
def regexBody : (inClass : Bool) → (bytes : Nat) → List Char → Option (Nat × List Char)
  | inClass, bytes, '\\' :: c :: cs => if isLineEnd c then none else regexBody inClass (bytes + 1 + c.utf8Size) cs
  | inClass, bytes, c :: cs =>
      if isLineEnd c then none
      else if c == '/' && !inClass then some (bytes + 1, cs)
      else regexBody (c == '[' || (inClass && c != ']')) (bytes + c.utf8Size) cs
  | _, _, [] => none

/-- Reads a whole regular expression. Its flags are known letters, each at most once. -/
def regex (cs : List Char) : Option (Nat × List Char) := do
  let (body, cs) ← regexBody false 1 cs
  let flags := cs.takeWhile Text.isIdentifierPart
  if flags.all (['d', 'g', 'i', 'm', 's', 'u', 'v', 'y'].contains ·) && flags.Nodup then
    return (body + flags.length, cs.drop flags.length)
  else none

/-- All punctuation, longer marks before their beginnings. Of the marks that begin with `>` only the shortest is
here, because the others are two closing brackets as often as one operator. -/
def marks : List (String × List Char) :=
  ["...", "===", "!==", "**=", "<<=", "&&=", "||=", "??=", "=>", "==", "!=", "<=", "++", "--", "<<", "&&", "||",
    "??", "?.", "+=", "-=", "*=", "/=", "%=", "&=", "|=", "^=", "**", "\x7b", "\x7d", "(", ")", "[", "]", ";", ",",
    "<", ">", "+", "-", "*", "/", "%", "&", "|", "^", "!", "~", "?", ":", "=", ".", "@"].map fun m => (m, m.toList)

/-- The mark that a text begins with. A question mark and a point are two marks before a digit. -/
def mark? (cs : List Char) : Option (String × Nat × List Char) :=
  match cs with
  | '?' :: '.' :: c :: _ =>
      if c.isDigit then some ("?", 1, cs.drop 1) else some ("?.", 2, cs.drop 2)
  | _ =>
      (marks.find? fun (_, chars) => chars.isPrefixOf cs).map fun (text, chars) =>
        (text, chars.length, cs.drop chars.length)

/-- Reads the token that a text begins with: the token, its bytes, and what follows. The fuel is more than the
length of the text. -/
def read (fuel : Nat) (cs : List Char) : Token × Nat × List Char :=
  match cs with
  | [] => (.eof, 0, [])
  | '#' :: rest =>
      match name fuel true rest with
      | some (text, _, bytes, rest) => (.privateName (String.ofList text), bytes + 1, rest)
      | none => (.invalid, 0, cs)
  | '\x60' :: rest =>
      match template fuel rest with
      | some (pieces, closes, bytes, rest) => (.template (pieces.map pieceText) closes, bytes + 1, rest)
      | none => (.invalid, 0, cs)
  | c :: rest =>
      if c == '"' || c == '\'' then
        match string c fuel rest with
        | some (pieces, bytes, rest) => (.string (pieceText pieces), bytes + 1, rest)
        | none => (.invalid, 0, cs)
      else if c.isDigit || (c == '.' && (rest.head?.map Char.isDigit).getD false) then
        match numberLength cs with
        | some (length, big, rest) =>
            if (rest.head?.map fun c => c.isDigit || Text.isIdentifierStart c).getD false then (.invalid, 0, cs)
            else
              let text := String.ofList (cs.take length)
              (if big then .bigint text else .number text, length, rest)
        | none => (.invalid, 0, cs)
      else if c == '\\' || Text.isIdentifierStart c then
        match name fuel true cs with
        | some (text, escaped, bytes, rest) => (.word (String.ofList text) escaped, bytes, rest)
        | none => (.invalid, 0, cs)
      else
        match mark? cs with
        | some (text, bytes, rest) => (.mark text, bytes, rest)
        | none => (.invalid, 0, cs)

end EventMapLint.Source.Scan
