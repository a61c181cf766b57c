import EventMapLint.Json.Reader
import EventMapLint.Proofs.Json.Spelling
import Mathlib.Data.List.DropRight
import Mathlib.Tactic.Tauto

/-! Reading what the grammar allows. Every text that stands for a value is read as that value. -/

namespace EventMapLint

namespace Json

namespace Reader

/-! ### Reading strings -/

theorem hexDigit?_of_hexDigit (digit : HexDigit n c) : Text.hexDigit? c = some n := by
  cases digit with
  | decimal small => revert n; decide
  | lower small => rename_i n; revert n; decide
  | upper small => rename_i n; revert n; decide

theorem exists_hexNumber (number : HexNumber n written) :
    ∃ a b c d, written = [a, b, c, d] ∧ Text.hexNumber? [a, b, c, d] = some n := by
  obtain ⟨first, second, third, fourth⟩ := number
  refine ⟨_, _, _, _, rfl, ?_⟩
  simp [Text.hexNumber?, hexDigit?_of_hexDigit first, hexDigit?_of_hexDigit second, hexDigit?_of_hexDigit third,
    hexDigit?_of_hexDigit fourth]

/-- The numbers of characters leave out the surrogates. -/
theorem char_codes (c : Char) : c.toNat < 0xd800 ∨ 0xdfff < c.toNat ∧ c.toNat < 0x110000 := c.valid

/-- The surrogates of a character beyond the first plane make that character. -/
theorem joinSurrogates_eq (high : 0x10000 ≤ c.toNat) :
    joinSurrogates (0xd800 + (c.toNat - 0x10000) / 0x400) (0xdc00 + (c.toNat - 0x10000) % 0x400) = c := by
  have sum : (0xd800 + (c.toNat - 0x10000) / 0x400 - 0xd800) * 0x400 +
      (0xdc00 + (c.toNat - 0x10000) % 0x400 - 0xdc00) + 0x10000 = c.toNat := by omega
  rw [joinSurrogates, sum, Char.ofNat_toNat]

/-- A character is read from any text that stands for it. -/
theorem string_spellsChar (spelled : SpellsChar c written) (cs : List Char) :
    string (written ++ cs) = do
      let (text, rest) ← string cs
      return (c :: text, rest) := by
  cases spelled with
  | plain visible quote backslash =>
    rw [List.singleton_append, string]
    · rw [if_neg (Nat.not_lt.mpr visible)]
    all_goals simp_all
  | quote | backslash | slash | backspace | formFeed | lineFeed | carriageReturn | tab => rfl
  | code number =>
    obtain ⟨a, b, d, e, rfl, found⟩ := exists_hexNumber number
    have codes := char_codes c
    simp only [List.cons_append, List.nil_append, string, found]
    rw [if_neg (by omega), if_neg (by omega), Char.ofNat_toNat]
  | pair high leading trailing =>
    obtain ⟨a, b, d, e, rfl, first⟩ := exists_hexNumber leading
    obtain ⟨a', b', d', e', rfl, second⟩ := exists_hexNumber trailing
    have codes := char_codes c
    simp only [List.cons_append, List.nil_append, string, first, second]
    rw [if_neg (by omega), if_pos (by omega), if_pos (by omega), joinSurrogates_eq high]

/-- What stands between two quotes is read up to the closing one. -/
theorem string_spellsText (spelled : SpellsText text written) (rest : List Char) :
    string (written ++ '"' :: rest) = .ok (text, rest) := by
  induction spelled with
  | nil => simp [string]
  | cons first _ read => rw [List.append_assoc, string_spellsChar first, read]; rfl

/-! ### Blanks and numbers -/

theorem isBlank_eq_true_iff : isBlank c = true ↔ c = ' ' ∨ c = '\t' ∨ c = '\n' ∨ c = '\r' := by
  simp only [isBlank, Bool.or_eq_true, beq_iff_eq]
  tauto

theorem skipBlank_append (gap : Blank blanks) (cs : List Char) : skipBlank (blanks ++ cs) = skipBlank cs :=
  List.dropWhile_append_of_pos fun c found => isBlank_eq_true_iff.mpr (gap c found)

theorem skipBlank_cons (visible : isBlank c = false) : skipBlank (c :: cs) = c :: cs :=
  List.dropWhile_cons_of_neg (by simp [visible])

@[simp]
theorem skipBlank_skipBlank (cs : List Char) : skipBlank (skipBlank cs) = skipBlank cs :=
  List.dropWhile_idempotent isBlank cs

/-- What may follow a number: it does not go on as one. -/
def EndsNumber (rest : List Char) : Prop :=
  ∀ c ∈ rest.head?, c.isDigit = false ∧ c ≠ '.' ∧ c ≠ 'e' ∧ c ≠ 'E'

theorem EndsNumber.append (gap : Blank blanks) (ends : EndsNumber rest) : EndsNumber (blanks ++ rest) := by
  cases blanks with
  | nil => exact ends
  | cons c blanks =>
    rintro _ ⟨⟩
    rcases gap c (by simp) with rfl | rfl | rfl | rfl <;> decide

theorem decimal_digitsOf_toDigits (n : Nat) : decimal (digitsOf (Nat.toDigits 10 n)) = n := by
  have value : Nat.ofDigitChars 10 (Nat.toDigits 10 n) 0 = n := Nat.ofDigitChars_ten_toDigits
  rw [Nat.ofDigitChars_eq_foldl] at value
  simpa only [decimal, digitsOf, List.foldl_map, Nat.mul_comm] using value

theorem ne_of_isDigit {c d : Char} (digit : c.isDigit = true) (other : d.isDigit = false) : c ≠ d := by
  rintro rfl
  rw [digit] at other
  cases other

theorem exists_digit_cons (n : Nat) : ∃ c digits, Nat.toDigits 10 n = c :: digits ∧ c.isDigit = true := by
  obtain ⟨c, digits, form⟩ := List.exists_cons_of_ne_nil (Nat.toDigits_ne_nil (b := 10) (n := n))
  exact ⟨c, digits, form,
    Nat.isDigit_of_mem_toDigits (b := 10) (n := n) (by decide) (by decide) (form ▸ List.mem_cons_self)⟩

/-- A number other than zero does not begin with the digit zero. -/
theorem eq_zero_of_head?_toDigits (n : Nat) : (Nat.toDigits 10 n).head? = some '0' → n = 0 := by
  induction n using Nat.strongRecOn with
  | ind n earlier =>
    intro zero
    rw [Nat.toDigits_eq_if (by decide)] at zero
    split at zero
    · rename_i small
      clear earlier
      revert n
      decide
    · rename_i large
      rw [List.head?_append_of_ne_nil _ Nat.toDigits_ne_nil] at zero
      have tenth := earlier (n / 10) (by omega) zero
      omega

theorem digits_append (found : ∀ c ∈ written, c.isDigit = true) (some : written ≠ []) (ends : EndsNumber rest) :
    digits (written ++ rest) = .ok (digitsOf written, rest) := by
  have stops : rest.takeWhile Char.isDigit = [] ∧ rest.dropWhile Char.isDigit = rest := by
    cases rest with
    | nil => simp
    | cons c rest => simp [(ends c rfl).1]
  have taken : (written ++ rest).takeWhile Char.isDigit = written := by
    rw [List.takeWhile_append_of_pos found, stops.1, List.append_nil]
  have dropped : (written ++ rest).dropWhile Char.isDigit = rest := by
    rw [List.dropWhile_append_of_pos found, stops.2]
  obtain ⟨c, written, rfl⟩ := List.exists_cons_of_ne_nil some
  simp only [digits, taken, dropped]

theorem digits_toDigits (n : Nat) (ends : EndsNumber rest) :
    digits (Nat.toDigits 10 n ++ rest) = .ok (digitsOf (Nat.toDigits 10 n), rest) :=
  digits_append (fun _ => Nat.isDigit_of_mem_toDigits (by decide) (by decide)) Nat.toDigits_ne_nil ends

theorem wholeDigits_toDigits (n : Nat) (ends : EndsNumber rest) :
    wholeDigits (Nat.toDigits 10 n ++ rest) = .ok (digitsOf (Nat.toDigits 10 n), rest) := by
  rcases Nat.eq_zero_or_pos n with rfl | positive
  · rw [Nat.toDigits_zero]
    cases rest with
    | nil => rfl
    | cons c rest => simp [wholeDigits, (ends c rfl).1, digitsOf]
  · rw [wholeDigits]
    · exact digits_toDigits n ends
    · intro c cs zero
      have first : (Nat.toDigits 10 n).head? = some '0' := by
        rw [← List.head?_append_of_ne_nil _ Nat.toDigits_ne_nil, zero, List.head?_cons]
      have none := eq_zero_of_head?_toDigits n first
      omega

theorem unsigned_toDigits (found : whole negative (digitsOf (Nat.toDigits 10 n)) = some json)
    (ends : EndsNumber rest) : unsigned negative (Nat.toDigits 10 n ++ rest) = .ok (json, rest) := by
  rw [unsigned, wholeDigits_toDigits n ends]
  cases rest with
  | nil => simp [found, bind, Except.bind]
  | cons c rest =>
    obtain ⟨-, point, lower, upper⟩ := ends c rfl
    simp [found, bind, Except.bind, point, lower, upper]

/-! ### Reading values -/

@[simp]
theorem value_skipBlank (fuel depth : Nat) (cs : List Char) :
    value fuel depth (skipBlank cs) = value fuel depth cs := by
  cases fuel <;> simp only [value, skipBlank_skipBlank]

theorem value_append (gap : Blank blanks) (fuel depth : Nat) (cs : List Char) :
    value fuel depth (blanks ++ cs) = value fuel depth cs := by
  rw [← value_skipBlank, skipBlank_append gap, value_skipBlank]

@[simp]
theorem elements_skipBlank (fuel depth : Nat) (cs : List Char) :
    elements fuel depth (skipBlank cs) = elements fuel depth cs := by
  cases fuel <;> simp only [elements, value_skipBlank]

@[simp]
theorem entries_skipBlank (fuel depth : Nat) (cs : List Char) :
    entries fuel depth (skipBlank cs) = entries fuel depth cs := by
  cases fuel <;> simp only [entries, skipBlank_skipBlank]

/-- The text is read as the value wherever it stands, except for blanks behind it. -/
def Readable (depth : Nat) (json : Json) (written : List Char) : Prop :=
  ∀ fuel rest, 2 * written.length < fuel → EndsNumber rest →
    ∃ left, value fuel depth (written ++ rest) = .ok (json, left) ∧ skipBlank left = skipBlank rest

/-- The text is read as the elements if the bracket follows. -/
def ElementsReadable (depth : Nat) (found : List Json) (written : List Char) : Prop :=
  ∀ fuel rest, 2 * written.length + 1 < fuel → elements fuel depth (written ++ ']' :: rest) = .ok (found, rest)

/-- The text is read as the entries if the brace follows. -/
def EntriesReadable (depth : Nat) (found : List (String × Json)) (written : List Char) : Prop :=
  ∀ fuel rest, 2 * written.length + 1 < fuel → entries fuel depth (written ++ '\x7d' :: rest) = .ok (found, rest)

theorem Readable.intro (read : ∀ fuel rest, 2 * written.length < fuel + 1 → EndsNumber rest →
    value (fuel + 1) depth (written ++ rest) = .ok (json, rest)) : Readable depth json written := by
  intro fuel rest enough ends
  cases fuel with
  | zero => omega
  | succ fuel => exact ⟨rest, read fuel rest enough ends, rfl⟩

/-- A value that begins with neither a blank nor a bracket is a scalar. -/
theorem value_cons (visible : isBlank c = false) (bracket : c ≠ '[') (brace : c ≠ '\x7b') :
    value (fuel + 1) depth (c :: cs) = scalar (c :: cs) := by
  rw [value, skipBlank_cons visible]
  simp_all

theorem scalar_of_isDigit (digit : c.isDigit = true) : scalar (c :: cs) = unsigned false (c :: cs) := by
  unfold scalar
  split <;> simp_all

theorem readable_natural {n : Nat} (fits : n < 2 ^ 64) : Readable depth (.integer n) (Nat.toDigits 10 n) := by
  apply Readable.intro
  intro fuel rest _ ends
  have value : whole false (digitsOf (Nat.toDigits 10 n)) = some (.integer n) := by
    simp only [whole, decimal_digitsOf_toDigits]
    exact if_pos fits
  have number : unsigned false (Nat.toDigits 10 n ++ rest) = .ok (.integer n, rest) := unsigned_toDigits value ends
  obtain ⟨c, cs, form, digit⟩ := exists_digit_cons n
  have visible : isBlank c = false := by simp [isBlank, ne_of_isDigit digit]
  rw [form, List.cons_append] at number ⊢
  rw [value_cons visible (ne_of_isDigit digit rfl) (ne_of_isDigit digit rfl), scalar_of_isDigit digit, number]

theorem readable_negative {n : Nat} (positive : 0 < n) (fits : n ≤ 2 ^ 63) :
    Readable depth (.integer (-n)) ('-' :: Nat.toDigits 10 n) := by
  apply Readable.intro
  intro fuel rest _ ends
  have value : whole true (digitsOf (Nat.toDigits 10 n)) = some (.integer (-n)) := by
    simp only [whole, decimal_digitsOf_toDigits]
    exact if_pos (And.intro positive fits)
  rw [List.cons_append, value_cons rfl (by decide) (by decide), scalar, unsigned_toDigits value ends]

theorem readable_string (inside : SpellsText text written) :
    Readable depth (.string (String.ofList text)) ('"' :: written ++ ['"']) := by
  apply Readable.intro
  intro fuel rest _ _
  have form : '"' :: written ++ ['"'] ++ rest = '"' :: (written ++ '"' :: rest) := by simp
  rw [form, value_cons rfl (by decide) (by decide), scalar, string_spellsText inside]
  rfl

theorem readable_emptyArray (gap : Blank blanks) : Readable (depth + 1) (.array []) ('[' :: blanks ++ [']']) := by
  apply Readable.intro
  intro fuel rest _ _
  have form : '[' :: blanks ++ [']'] ++ rest = '[' :: (blanks ++ ']' :: rest) := by simp
  rw [form, value, skipBlank_cons rfl]
  simp only [skipBlank_append gap]
  rfl

theorem readable_array (inside : ElementsReadable depth found written) :
    Readable (depth + 1) (.array found) ('[' :: written ++ [']']) := by
  apply Readable.intro
  intro fuel rest enough _
  simp only [List.length_cons, List.length_append] at enough
  have read := inside fuel rest (by omega)
  rw [← elements_skipBlank] at read
  -- The array is not taken for an empty one, as no value begins with the closing bracket.
  have start : ∀ cs, skipBlank (written ++ ']' :: rest) ≠ ']' :: cs := by
    intro cs bracket
    rw [bracket] at read
    rcases fuel with _ | _ | fuel <;> cases read
  have form : '[' :: written ++ [']'] ++ rest = '[' :: (written ++ ']' :: rest) := by simp
  rw [form, value, skipBlank_cons rfl]
  simp only
  rw [read]
  rfl

theorem readable_emptyObject (gap : Blank blanks) :
    Readable (depth + 1) (.object []) ('\x7b' :: blanks ++ ['\x7d']) := by
  apply Readable.intro
  intro fuel rest _ _
  have form : '\x7b' :: blanks ++ ['\x7d'] ++ rest = '\x7b' :: (blanks ++ '\x7d' :: rest) := by simp
  rw [form, value, skipBlank_cons rfl]
  simp only [skipBlank_append gap]
  rfl

theorem readable_object (inside : EntriesReadable depth found written) :
    Readable (depth + 1) (.object found) ('\x7b' :: written ++ ['\x7d']) := by
  apply Readable.intro
  intro fuel rest enough _
  simp only [List.length_cons, List.length_append] at enough
  have read := inside fuel rest (by omega)
  rw [← entries_skipBlank] at read
  -- The object is not taken for an empty one, as no key begins with the closing brace.
  have start : ∀ cs, skipBlank (written ++ '\x7d' :: rest) ≠ '\x7d' :: cs := by
    intro cs brace
    rw [brace] at read
    cases fuel <;> cases read
  have form : '\x7b' :: written ++ ['\x7d'] ++ rest = '\x7b' :: (written ++ '\x7d' :: rest) := by simp
  rw [form, value, skipBlank_cons rfl]
  simp only
  rw [read]
  rfl

theorem readable_padded (before : Blank blanks) (read : Readable depth json written) (after : Blank blanks') :
    Readable depth json (blanks ++ written ++ blanks') := by
  intro fuel rest enough ends
  simp only [List.length_append] at enough
  obtain ⟨left, read, same⟩ := read fuel (blanks' ++ rest) (by omega) (ends.append after)
  refine ⟨left, ?_, same.trans (skipBlank_append after rest)⟩
  rw [List.append_assoc, List.append_assoc, value_append before, read]

theorem elementsReadable_last (value : Readable depth json written) : ElementsReadable depth [json] written := by
  intro fuel rest enough
  cases fuel with
  | zero => omega
  | succ fuel =>
    obtain ⟨left, read, same⟩ := value fuel (']' :: rest) (by omega) (by rintro _ ⟨⟩; decide)
    rw [skipBlank_cons rfl] at same
    simp only [elements, read, bind, Except.bind, same]
    rfl

theorem elementsReadable_more (value : Readable depth json written) (others : ElementsReadable depth found written') :
    ElementsReadable depth (json :: found) (written ++ ',' :: written') := by
  intro fuel rest enough
  simp only [List.length_cons, List.length_append] at enough
  cases fuel with
  | zero => omega
  | succ fuel =>
    obtain ⟨left, first, same⟩ :=
      value fuel (',' :: (written' ++ ']' :: rest)) (by omega) (by rintro _ ⟨⟩; decide)
    rw [skipBlank_cons rfl] at same
    rw [List.append_assoc, List.cons_append]
    simp only [elements, first, bind, Except.bind, same, others fuel rest (by omega)]
    rfl

theorem exists_of_spellsKey (spelled : SpellsKey key name) (cs : List Char) :
    ∃ inside text after, skipBlank (name ++ cs) = '"' :: inside ∧ string inside = .ok (text, after) ∧
      skipBlank after = ':' :: cs ∧ String.ofList text = key := by
  obtain ⟨before, inside, after⟩ := spelled
  rename_i blanks text written blanks'
  refine ⟨written ++ '"' :: (blanks' ++ ':' :: cs), text, blanks' ++ ':' :: cs, ?_, ?_, ?_, rfl⟩
  · simp only [List.append_assoc, List.cons_append, List.nil_append, skipBlank_append before]
    rfl
  · exact string_spellsText inside _
  · rw [skipBlank_append after]
    rfl

theorem entriesReadable_last (before : SpellsKey key name) (value : Readable depth json written) :
    EntriesReadable depth [(key, json)] (name ++ written) := by
  intro fuel rest enough
  simp only [List.length_append] at enough
  cases fuel with
  | zero => omega
  | succ fuel =>
    obtain ⟨left, read, same⟩ := value fuel ('\x7d' :: rest) (by omega) (by rintro _ ⟨⟩; decide)
    obtain ⟨_, _, _, quote, inside, colon, rfl⟩ := exists_of_spellsKey before (written ++ '\x7d' :: rest)
    rw [skipBlank_cons rfl] at same
    rw [List.append_assoc]
    simp only [entries, quote, inside, colon, read, bind, Except.bind, same]
    rfl

theorem entriesReadable_more (before : SpellsKey key name) (value : Readable depth json written)
    (others : EntriesReadable depth found written') :
    EntriesReadable depth ((key, json) :: found) (name ++ written ++ ',' :: written') := by
  intro fuel rest enough
  simp only [List.length_cons, List.length_append] at enough
  cases fuel with
  | zero => omega
  | succ fuel =>
    obtain ⟨left, read, same⟩ :=
      value fuel (',' :: (written' ++ '\x7d' :: rest)) (by omega) (by rintro _ ⟨⟩; decide)
    obtain ⟨_, _, _, quote, inside, colon, rfl⟩ :=
      exists_of_spellsKey before (written ++ ',' :: (written' ++ '\x7d' :: rest))
    rw [skipBlank_cons rfl] at same
    rw [List.append_assoc, List.append_assoc, List.cons_append]
    simp only [entries, quote, inside, colon, read, bind, Except.bind, same, others fuel rest (by omega)]
    rfl

/-- Whatever stands for a value is read as that value. -/
theorem readable_of_spells (spelled : Spells depth json written) : Readable depth json written := by
  -- Values stand inside elements and entries and the other way round, so this goes through all three relations.
  refine @Spells.rec (fun depth json written _ => Readable depth json written)
    (fun depth found written _ => ElementsReadable depth found written)
    (fun depth found written _ => EntriesReadable depth found written)
    ?null ?true ?false ?natural ?negative ?string ?emptyArray ?array ?emptyObject ?object ?padded
    ?lastElement ?moreElements ?lastEntry ?moreEntries depth json written spelled
  case null | true | false =>
    intro depth
    exact Readable.intro fun fuel rest _ _ => rfl
  case natural => exact fun fits => readable_natural fits
  case negative => exact fun positive fits => readable_negative positive fits
  case string => exact fun inside => readable_string inside
  case emptyArray => exact fun gap => readable_emptyArray gap
  case array => exact fun _ inside => readable_array inside
  case emptyObject => exact fun gap => readable_emptyObject gap
  case object => exact fun _ inside => readable_object inside
  case padded => exact fun before _ after value => readable_padded before value after
  case lastElement => exact fun _ value => elementsReadable_last value
  case moreElements => exact fun _ _ value others => elementsReadable_more value others
  case lastEntry => exact fun before _ value => entriesReadable_last before value
  case moreEntries => exact fun before _ _ value others => entriesReadable_more before value others

end Reader

/-- Every text that stands for a value, nested as deep as is read, is read as that value. -/
theorem read_of_spells (spelled : Spells Reader.maxDepth json written) : read written = .ok json := by
  obtain ⟨left, value, same⟩ :=
    Reader.readable_of_spells spelled (2 * written.length + 1) [] (by omega) (by rintro _ ⟨⟩)
  have blank : Reader.skipBlank left = [] := same
  rw [List.append_nil] at value
  simp only [read, value, bind, Except.bind, blank]
  rfl

end Json

end EventMapLint
