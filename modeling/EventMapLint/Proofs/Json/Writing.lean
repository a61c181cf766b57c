import EventMapLint.Json.Writer
import EventMapLint.Proofs.Json.Spelling

/-! Writing. The text that is written for a value is one of those that stand for it. -/

namespace EventMapLint

namespace Json

/-- A value without floats whose integers fit 64 bits, with at most `depth` arrays and objects inside each other. -/
inductive Writable : (depth : Nat) → Json → Prop
  | null : Writable depth .null
  | boolean : Writable depth (.boolean value)
  | integer {n : Int} (least : -2 ^ 63 ≤ n) (greatest : n < 2 ^ 64) : Writable depth (.integer n)
  | string : Writable depth (.string text)
  | array (inside : ∀ element ∈ elements, Writable depth element) : Writable (depth + 1) (.array elements)
  | object (inside : ∀ entry ∈ entries, Writable depth entry.2) : Writable (depth + 1) (.object entries)

namespace Writer

/-! ### Strings -/

theorem hexDigit_spec (small : n < 16) : HexDigit n (hexDigit n) := by
  rcases Nat.lt_or_ge n 10 with decimal | letter
  · rw [hexDigit, if_pos decimal]
    exact .decimal decimal
  · obtain ⟨n, rfl⟩ := Nat.exists_eq_add_of_le letter
    rw [hexDigit, if_neg (by omega), Nat.add_sub_cancel_left]
    exact .lower (by omega)

theorem escape_spells (c : Char) : SpellsChar c (escape c) := by
  unfold escape
  split
  · subst c; exact .quote
  split
  · subst c; exact .backslash
  split
  · subst c; exact .backspace
  split
  · subst c; exact .formFeed
  split
  · subst c; exact .lineFeed
  split
  · subst c; exact .carriageReturn
  split
  · subst c; exact .tab
  split
  · rename_i control
    apply SpellsChar.code
    have number := HexNumber.digits (hexDigit_spec (n := 0) (by decide)) (hexDigit_spec (n := 0) (by decide))
      (hexDigit_spec (n := c.toNat / 16) (by omega)) (hexDigit_spec (n := c.toNat % 16) (by omega))
    have code : ((0 * 16 + 0) * 16 + c.toNat / 16) * 16 + c.toNat % 16 = c.toNat := by omega
    rw [code] at number
    exact number
  · rename_i quote backslash _ _ _ _ _ visible
    exact .plain (Nat.not_lt.mp visible) quote backslash

theorem flatMap_escape_spells (text : List Char) : SpellsText text (text.flatMap escape) := by
  induction text with
  | nil => exact .nil
  | cons c text spelled => exact .cons (escape_spells c) spelled

theorem string_spells (text : String) : Spells depth (.string text) (string text) := by
  have spelled : Spells depth (.string (String.ofList text.toList)) (string text) :=
    .string (flatMap_escape_spells text.toList)
  rwa [String.ofList_toList] at spelled

theorem key_spells (key : String) : SpellsKey key (string key ++ [':']) := by
  have spelled := SpellsKey.quoted blank_nil (flatMap_escape_spells key.toList) blank_nil
  simpa [String.ofList_toList, string] using spelled

/-! ### Values -/

theorem toList_toString_ofNat (n : Nat) : (toString (Int.ofNat n)).toList = Nat.toDigits 10 n :=
  String.toList_ofList

theorem toList_toString_negSucc (n : Nat) : (toString (Int.negSucc n)).toList = '-' :: Nat.toDigits 10 (n + 1) := by
  change ("-" ++ Nat.repr (n + 1)).toList = _
  simp only [String.toList_append, Nat.repr, String.toList_ofList]
  rfl

theorem integer_spells {n : Int} (least : -2 ^ 63 ≤ n) (greatest : n < 2 ^ 64) :
    Spells depth (.integer n) (toString n).toList := by
  cases n with
  | ofNat n =>
    rw [toList_toString_ofNat]
    rw [Int.ofNat_eq_natCast] at greatest
    exact .natural (by omega)
  | negSucc n =>
    rw [toList_toString_negSucc]
    exact .negative (n := n + 1) (by omega) (by omega)

theorem elements_spell {first : Json} {others : List Json}
    (spelled : ∀ element ∈ first :: others, Spells depth element (value element)) :
    SpellsElements depth (first :: others) (value first ++ elements others) := by
  induction others generalizing first with
  | nil =>
    rw [elements, List.append_nil]
    exact .last (spelled first (by simp))
  | cons next others spell =>
    rw [elements]
    exact .more (spelled first (by simp)) (spell fun element found => spelled element (List.mem_cons_of_mem _ found))

theorem entries_spell {key : String} {first : Json} {others : List (String × Json)}
    (spelled : ∀ entry ∈ (key, first) :: others, Spells depth entry.2 (value entry.2)) :
    SpellsEntries depth ((key, first) :: others) (string key ++ ':' :: value first ++ entries others) := by
  have form (key : String) (first : Json) : string key ++ ':' :: value first = string key ++ [':'] ++ value first := by
    simp
  induction others generalizing key first with
  | nil =>
    rw [entries, List.append_nil, form]
    exact .last (key_spells key) (spelled (key, first) (by simp))
  | cons next others spell =>
    have behind := spell fun entry found => spelled entry (List.mem_cons_of_mem _ found)
    rw [entries, form]
    exact .more (key_spells key) (spelled (key, first) (by simp)) behind

/-- What is written for a value stands for it. -/
theorem value_spells (writable : Writable depth json) : Spells depth json (value json) := by
  induction writable with
  | null => exact .null
  | @boolean _ value =>
    cases value with
    | true => exact .true
    | false => exact .false
  | integer least greatest => exact integer_spells least greatest
  | string => exact string_spells _
  | @array elements _ _ spelled =>
    cases elements with
    | nil => exact .emptyArray blank_nil
    | cons first others => exact .array (elements_spell spelled)
  | @object entries _ _ spelled =>
    cases entries with
    | nil => exact .emptyObject blank_nil
    | cons first others => exact .object (entries_spell spelled)

end Writer

end Json

end EventMapLint
