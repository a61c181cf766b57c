import EventMapLint.Proofs.Json.Rearranged
import EventMapLint.Proofs.Json.Reading
import EventMapLint.Proofs.Json.Writing

/-! Written values can be told apart. The text of a value shows where it ends, so two values are written alike only if
they are the same, however large their numbers are. -/

namespace EventMapLint

namespace Json

/-- A value without floats. -/
inductive FloatFree : Json → Prop
  | null : FloatFree .null
  | boolean : FloatFree (.boolean value)
  | integer : FloatFree (.integer n)
  | string : FloatFree (.string text)
  | array (inside : ∀ element ∈ elements, FloatFree element) : FloatFree (.array elements)
  | object (inside : ∀ entry ∈ entries, FloatFree entry.2) : FloatFree (.object entries)

theorem floatFree_array_iff : FloatFree (.array elements) ↔ ∀ element ∈ elements, FloatFree element :=
  ⟨fun | .array inside => inside, .array⟩

theorem floatFree_object_iff : FloatFree (.object entries) ↔ ∀ entry ∈ entries, FloatFree entry.2 :=
  ⟨fun | .object inside => inside, .object⟩

theorem Rearranged.floatFree (same : Rearranged json other) (free : FloatFree json) : FloatFree other := by
  induction same with
  | refl => exact free
  | trans _ _ first second => exact second (first free)
  | order rearranged =>
    rw [floatFree_object_iff] at free ⊢
    exact fun entry found => free entry (rearranged.mem_iff.mpr found)
  | element _ inside =>
    rw [floatFree_array_iff, List.forall_mem_append, List.forall_mem_cons] at free ⊢
    exact ⟨free.1, inside free.2.1, free.2.2⟩
  | entry _ inside =>
    rw [floatFree_object_iff, List.forall_mem_append, List.forall_mem_cons] at free ⊢
    exact ⟨free.1, inside free.2.1, free.2.2⟩

namespace Writer

/-! ### Kinds of values -/

inductive Kind
  | null
  | boolean
  | integer
  | float
  | string
  | array
  | object
  deriving DecidableEq

def kind : Json → Kind
  | .null => .null
  | .boolean _ => .boolean
  | .integer _ => .integer
  | .float _ => .float
  | .string _ => .string
  | .array _ => .array
  | .object _ => .object

/-- The kind of the values that are written with this character first. -/
def kindOfFirst? (c : Char) : Option Kind :=
  if c = 'n' then some .null
  else if c = 't' ∨ c = 'f' then some .boolean
  else if c = '"' then some .string
  else if c = '[' then some .array
  else if c = '\x7b' then some .object
  else if c = '-' ∨ c.isDigit = true then some .integer
  else none

theorem kindOfFirst?_of_isDigit {c : Char} (digit : c.isDigit = true) : kindOfFirst? c = some .integer := by
  simp [kindOfFirst?, Reader.ne_of_isDigit digit, digit]

/-! ### Numbers and strings -/

theorem natural_append_inj {m n : Nat} {left right : List Char} (ends : Reader.EndsNumber left)
    (ends' : Reader.EndsNumber right) (same : Nat.toDigits 10 m ++ left = Nat.toDigits 10 n ++ right) :
    m = n ∧ left = right := by
  have found := Reader.digits_toDigits m ends
  rw [same, Reader.digits_toDigits n ends'] at found
  obtain ⟨digits, rest⟩ := Prod.mk.inj (Except.ok.inj found)
  refine ⟨?_, rest.symm⟩
  rw [← Reader.decimal_digitsOf_toDigits m, ← digits, Reader.decimal_digitsOf_toDigits]

theorem integer_append_inj {m n : Int} {left right : List Char} (ends : Reader.EndsNumber left)
    (ends' : Reader.EndsNumber right) (same : (toString m).toList ++ left = (toString n).toList ++ right) :
    m = n ∧ left = right := by
  -- A number below zero has a sign before its digits, and no digit is the sign.
  have unsigned (m n : Nat) (left right : List Char) :
      Nat.toDigits 10 m ++ left ≠ '-' :: Nat.toDigits 10 (n + 1) ++ right := by
    intro same
    obtain ⟨c, digits, form, digit⟩ := Reader.exists_digit_cons m
    rw [form] at same
    exact Reader.ne_of_isDigit digit rfl (List.cons.inj same).1
  cases m with
  | ofNat m =>
    cases n with
    | ofNat n =>
      rw [toList_toString_ofNat, toList_toString_ofNat] at same
      obtain ⟨rfl, rest⟩ := natural_append_inj ends ends' same
      exact ⟨rfl, rest⟩
    | negSucc n =>
      rw [toList_toString_ofNat, toList_toString_negSucc] at same
      exact absurd same (unsigned m n left right)
  | negSucc m =>
    cases n with
    | ofNat n =>
      rw [toList_toString_ofNat, toList_toString_negSucc] at same
      exact absurd same.symm (unsigned n m right left)
    | negSucc n =>
      rw [toList_toString_negSucc, toList_toString_negSucc] at same
      obtain ⟨digits, rest⟩ := natural_append_inj ends ends' (List.cons.inj same).2
      exact ⟨by rw [Nat.succ.inj digits], rest⟩

theorem string_append_inj {text other : String} {left right : List Char}
    (same : string text ++ left = string other ++ right) : text = other ∧ left = right := by
  have read (text : String) (rest : List Char) :
      Reader.string (text.toList.flatMap escape ++ '"' :: rest) = .ok (text.toList, rest) :=
    Reader.string_spellsText (flatMap_escape_spells text.toList) rest
  have inside : text.toList.flatMap escape ++ '"' :: left = other.toList.flatMap escape ++ '"' :: right := by
    simpa [string] using same
  have found := read text left
  rw [inside, read other right] at found
  obtain ⟨characters, rest⟩ := Prod.mk.inj (Except.ok.inj found)
  exact ⟨String.toList_inj.mp characters.symm, rest.symm⟩

/-! ### Lists -/

section

variable {α : Type} {item : α → List Char} {fine : α → Prop} {items others : List α} {stop : Char}
  {left right : List Char}

/-- An item can be told from others with the same beginning: its text shows where it ends, as long as no number goes on
behind it. -/
def Delimited (item : α → List Char) (fine : α → Prop) (a : α) : Prop :=
  ∀ b left right, fine b → Reader.EndsNumber left → Reader.EndsNumber right → item a ++ left = item b ++ right →
    a = b ∧ left = right

/-- Items with commas between them. -/
def separated (item : α → List Char) : List α → List Char
  | [] => []
  | first :: others => item first ++ others.flatMap fun next => ',' :: item next

theorem endsNumber_cons {c : Char} (mark : c = ',' ∨ c = ']' ∨ c = '\x7d') (rest : List Char) :
    Reader.EndsNumber (c :: rest) := by
  rintro _ ⟨⟩
  rcases mark with rfl | rfl | rfl <;> decide

theorem endsNumber_further (closing : stop = ']' ∨ stop = '\x7d') (items : List α) (left : List Char) :
    Reader.EndsNumber ((items.flatMap fun next => ',' :: item next) ++ stop :: left) := by
  cases items with
  | nil => exact endsNumber_cons (.inr closing) left
  | cons first others => exact endsNumber_cons (.inl rfl) _

theorem further_append_inj (closing : stop = ']' ∨ stop = '\x7d') (each : ∀ a ∈ items, Delimited item fine a)
    (fineOthers : ∀ b ∈ others, fine b)
    (same : (items.flatMap fun next => ',' :: item next) ++ stop :: left =
      (others.flatMap fun next => ',' :: item next) ++ stop :: right) :
    items = others ∧ left = right := by
  have comma : stop ≠ ',' := by rcases closing with rfl | rfl <;> decide
  induction items generalizing others with
  | nil =>
    cases others with
    | nil => exact ⟨rfl, (List.cons.inj same).2⟩
    | cons b others => exact absurd (List.cons.inj same).1 comma
  | cons a items ih =>
    cases others with
    | nil => exact absurd (List.cons.inj same).1.symm comma
    | cons b others =>
      simp only [List.flatMap_cons, List.cons_append, List.append_assoc, List.cons.injEq, true_and] at same
      have ⟨own, further⟩ := List.forall_mem_cons.mp each
      have ⟨fineOwn, fineFurther⟩ := List.forall_mem_cons.mp fineOthers
      obtain ⟨rfl, behind⟩ := own b _ _ fineOwn (endsNumber_further closing items left)
        (endsNumber_further closing others right) same
      obtain ⟨rfl, rest⟩ := ih further fineFurther behind
      exact ⟨rfl, rest⟩

theorem separated_append_inj (closing : stop = ']' ∨ stop = '\x7d')
    (start : ∀ a, fine a → ∀ cs rest, item a ++ cs ≠ stop :: rest) (each : ∀ a ∈ items, Delimited item fine a)
    (fineItems : ∀ a ∈ items, fine a) (fineOthers : ∀ b ∈ others, fine b)
    (same : separated item items ++ stop :: left = separated item others ++ stop :: right) :
    items = others ∧ left = right := by
  cases items with
  | nil =>
    cases others with
    | nil => exact ⟨rfl, (List.cons.inj same).2⟩
    | cons b others =>
      rw [separated, separated, List.append_assoc] at same
      exact absurd same.symm (start b (fineOthers b List.mem_cons_self) _ _)
  | cons a items =>
    cases others with
    | nil =>
      rw [separated, separated, List.append_assoc] at same
      exact absurd same (start a (fineItems a List.mem_cons_self) _ _)
    -- With a comma in front either list is one of further items.
    | cons b others => exact further_append_inj closing each fineOthers (congrArg (',' :: ·) same)

end

/-! ### Values -/

def entry (written : String × Json) : List Char := string written.1 ++ ':' :: value written.2

theorem value_array (items : List Json) : value (.array items) = '[' :: separated value items ++ [']'] := by
  have further (items : List Json) : elements items = items.flatMap fun next => ',' :: value next := by
    induction items with
    | nil => rfl
    | cons next others ih => rw [elements, ih]; rfl
  cases items with
  | nil => rfl
  | cons first others => rw [value, further]; rfl

theorem value_object (items : List (String × Json)) :
    value (.object items) = '\x7b' :: separated entry items ++ ['\x7d'] := by
  have further (items : List (String × Json)) : entries items = items.flatMap fun next => ',' :: entry next := by
    induction items with
    | nil => rfl
    | cons next others ih => rw [entries, ih]; simp [entry]
  cases items with
  | nil => rfl
  | cons first others => rw [value, further]; simp [separated, entry]

theorem exists_first (free : FloatFree json) :
    ∃ c rest, value json = c :: rest ∧ kindOfFirst? c = some (kind json) := by
  cases free with
  | null => exact ⟨_, _, rfl, rfl⟩
  | @boolean value => cases value <;> exact ⟨_, _, rfl, rfl⟩
  | @integer n =>
    cases n with
    | ofNat n =>
      obtain ⟨c, digits, form, digit⟩ := Reader.exists_digit_cons n
      exact ⟨c, digits, by rw [value, toList_toString_ofNat, form], kindOfFirst?_of_isDigit digit⟩
    | negSucc n => exact ⟨'-', _, by rw [value, toList_toString_negSucc], rfl⟩
  | string => exact ⟨_, _, rfl, rfl⟩
  | array => exact ⟨_, _, value_array _, rfl⟩
  | object => exact ⟨_, _, value_object _, rfl⟩

theorem kind_eq_of_append_eq {json other : Json} {left right : List Char} (free : FloatFree json)
    (free' : FloatFree other) (same : value json ++ left = value other ++ right) : kind json = kind other := by
  obtain ⟨c, cs, form, first⟩ := exists_first free
  obtain ⟨d, ds, form', first'⟩ := exists_first free'
  rw [form, form'] at same
  obtain rfl := (List.cons.inj same).1
  exact Option.some.inj (first.symm.trans first')

theorem delimited_entry {written : String × Json} (own : Delimited value FloatFree written.2) :
    Delimited entry (fun other => FloatFree other.2) written := by
  rintro ⟨key, other⟩ left right free ends ends' same
  simp only [entry, List.append_assoc, List.cons_append] at same
  obtain ⟨keys, same⟩ := string_append_inj same
  obtain ⟨values, rest⟩ := own other left right free ends ends' (List.cons.inj same).2
  exact ⟨Prod.ext keys values, rest⟩

/-- A value need only be told from others of its kind. -/
theorem delimited_of_kind (free : FloatFree json)
    (own : ∀ other left right, FloatFree other → kind json = kind other → Reader.EndsNumber left →
      Reader.EndsNumber right → value json ++ left = value other ++ right → json = other ∧ left = right) :
    Delimited value FloatFree json :=
  fun other left right free' ends ends' same =>
    own other left right free' (kind_eq_of_append_eq free free' same) ends ends' same

/-- What is written for a value cannot be taken for another one, whatever follows. -/
theorem delimited_value (free : FloatFree json) : Delimited value FloatFree json := by
  induction free with
  | null =>
    refine delimited_of_kind .null fun other left right free' kinds _ _ same => ?_
    cases free' with
    | null => exact ⟨rfl, List.append_cancel_left same⟩
    | _ => cases kinds
  | @boolean verdict =>
    refine delimited_of_kind .boolean fun other left right free' kinds _ _ same => ?_
    cases free' with
    | @boolean verdict' =>
      cases verdict <;> cases verdict'
      · exact ⟨rfl, List.append_cancel_left same⟩
      · cases (List.cons.inj same).1
      · cases (List.cons.inj same).1
      · exact ⟨rfl, List.append_cancel_left same⟩
    | _ => cases kinds
  | integer =>
    refine delimited_of_kind .integer fun other left right free' kinds ends ends' same => ?_
    cases free' with
    | integer =>
      obtain ⟨rfl, rest⟩ := integer_append_inj ends ends' same
      exact ⟨rfl, rest⟩
    | _ => cases kinds
  | string =>
    refine delimited_of_kind .string fun other left right free' kinds _ _ same => ?_
    cases free' with
    | string =>
      obtain ⟨rfl, rest⟩ := string_append_inj same
      exact ⟨rfl, rest⟩
    | _ => cases kinds
  | array inside each =>
    refine delimited_of_kind (.array inside) fun other left right free' kinds _ _ same => ?_
    cases free' with
    | array inside' =>
      have start (json) (free : FloatFree json) (cs rest : List Char) : value json ++ cs ≠ ']' :: rest := by
        intro bracket
        obtain ⟨c, _, form, first⟩ := exists_first free
        rw [form] at bracket
        obtain rfl := (List.cons.inj bracket).1
        cases first
      rw [value_array, value_array] at same
      simp only [List.cons_append, List.append_assoc, List.cons.injEq, true_and, List.nil_append] at same
      obtain ⟨rfl, rest⟩ := separated_append_inj (.inl rfl) start each inside inside' same
      exact ⟨rfl, rest⟩
    | _ => cases kinds
  | object inside each =>
    refine delimited_of_kind (.object inside) fun other left right free' kinds _ _ same => ?_
    cases free' with
    | object inside' =>
      have start (written : String × Json) (_ : FloatFree written.2) (cs rest : List Char) :
          entry written ++ cs ≠ '\x7d' :: rest := by
        intro brace
        cases (List.cons.inj brace).1
      rw [value_object, value_object] at same
      simp only [List.cons_append, List.append_assoc, List.cons.injEq, true_and, List.nil_append] at same
      have apart := fun found member => delimited_entry (each found member)
      obtain ⟨rfl, rest⟩ := separated_append_inj (.inr rfl) start apart inside inside' same
      exact ⟨rfl, rest⟩
    | _ => cases kinds

end Writer

/-- Values without floats are written alike only if they are the same. -/
theorem write_inj (free : FloatFree json) (free' : FloatFree other) (same : write json = write other) :
    json = other := by
  have same : Writer.value json ++ [] = Writer.value other ++ [] := by
    simpa [write] using congrArg String.toList same
  exact (Writer.delimited_value free other [] [] free' (by rintro _ ⟨⟩) (by rintro _ ⟨⟩) same).1

end Json

end EventMapLint
