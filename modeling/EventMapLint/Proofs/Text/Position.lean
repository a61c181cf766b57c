import EventMapLint.Text.Position
import Mathlib.Data.List.Infix
import Mathlib.Data.Prod.Lex

/-! Positions of byte offsets. An offset has a position unless it falls into a character, and positions come in the
order of the offsets. -/

namespace EventMapLint

namespace Text

/-! ### Bytes -/

@[simp] theorem byteSize_append (first second : List Char) :
    byteSize (first ++ second) = byteSize first + byteSize second := by
  induction first with
  | nil => simp [byteSize]
  | cons c rest ih => simp [byteSize, ih, Nat.add_assoc]

theorem utf8ByteSize_ofList (text : List Char) : (String.ofList text).utf8ByteSize = byteSize text := by
  induction text with
  | nil => rfl
  | cons c rest ih => simp [String.ofList_cons, byteSize, ih]

theorem byteSize_toList (text : String) : byteSize text.toList = text.utf8ByteSize := by
  rw [← utf8ByteSize_ofList, String.ofList_toList]

theorem length_le_byteSize (text : List Char) : text.length ≤ byteSize text := by
  induction text with
  | nil => exact Nat.le_refl _
  | cons c rest ih =>
    have one := c.utf8Size_pos
    simp only [List.length_cons, byteSize]
    omega

theorem byteSize_eq_zero_iff {text : List Char} : byteSize text = 0 ↔ text = [] := by
  constructor
  · intro empty
    exact List.length_eq_zero_iff.mp (Nat.le_zero.mp (empty ▸ length_le_byteSize text))
  · rintro rfl
    rfl

/-- Taking bytes gives the prefix with that many bytes, if there is one. -/
theorem takeBytes?_eq_some_iff {count : Nat} {text before : List Char} :
    takeBytes? count text = some before ↔ before <+: text ∧ byteSize before = count := by
  fun_induction takeBytes? count text generalizing before with
  | case1 text =>
    rw [byteSize_eq_zero_iff, Option.some_inj]
    constructor
    · rintro rfl
      exact ⟨List.nil_prefix, rfl⟩
    · rintro ⟨_, empty⟩
      exact empty.symm
  | case2 count =>
    simp only [reduceCtorEq, List.prefix_nil, false_iff, not_and]
    rintro rfl
    simp [byteSize]
  | case3 count c rest fits ih =>
    simp only [Option.map_eq_some_iff, ih, List.prefix_cons_iff]
    constructor
    · rintro ⟨inner, ⟨initial, size⟩, rfl⟩
      exact ⟨.inr ⟨inner, rfl, initial⟩, by simp only [byteSize]; omega⟩
    · rintro ⟨rfl | ⟨inner, rfl, initial⟩, size⟩
      · simp [byteSize] at size
      · refine ⟨inner, ⟨initial, ?_⟩, rfl⟩
        simp only [byteSize] at size
        omega
  | case4 count c rest tight =>
    simp only [reduceCtorEq, List.prefix_cons_iff, false_iff, not_and]
    rintro (rfl | ⟨inner, rfl, initial⟩) <;> simp only [byteSize] <;> omega

/-- The offsets that do not fall into a character are the sizes of the prefixes. -/
theorem isValid_iff_exists_prefix {text : String} {offset : Nat} :
    (String.Pos.Raw.mk offset).IsValid text ↔ ∃ before, before <+: text.toList ∧ byteSize before = offset := by
  rw [String.Pos.Raw.isValid_iff_exists_append]
  constructor
  · rintro ⟨before, after, rfl, size⟩
    refine ⟨before.toList, ⟨after.toList, by simp⟩, ?_⟩
    rw [byteSize_toList]
    exact (congrArg String.Pos.Raw.byteIdx size).symm
  · rintro ⟨before, ⟨after, whole⟩, rfl⟩
    refine ⟨String.ofList before, String.ofList after, ?_, ?_⟩
    · rw [← String.ofList_append, whole, String.ofList_toList]
    · rw [← utf8ByteSize_ofList]
      rfl

end Text

/-! ### Positions -/

namespace Position

/-- The position behind one more character. -/
def next (position : Position) (c : Char) : Position :=
  if c = '\n' then ⟨position.line + 1, 1⟩ else ⟨position.line, position.column + 1⟩

/-- Positions are compared by their lines, and on one line by their columns. -/
instance : LinearOrder Position :=
  LinearOrder.lift' (fun position => toLex (position.line, position.column)) fun first second same => by
    cases first
    cases second
    simpa using same

theorem lt_iff {first second : Position} :
    first < second ↔ first.line < second.line ∨ first.line = second.line ∧ first.column < second.column :=
  Prod.Lex.toLex_lt_toLex

theorem lt_next (position : Position) (c : Char) : position < position.next c := by
  rw [lt_iff, next]
  split <;> simp

theorem le_foldl_next (position : Position) (text : List Char) : position ≤ text.foldl next position := by
  induction text generalizing position with
  | nil => exact le_refl _
  | cons c rest ih => exact (position.lt_next c).le.trans (ih _)

end Position

namespace Text

theorem positionAfter_concat (before : List Char) (c : Char) :
    positionAfter (before ++ [c]) = (positionAfter before).next c := by
  by_cases feed : c = '\n'
  · simp [positionAfter, Position.next, feed]
  · simp [positionAfter, Position.next, feed]

theorem positionAfter_append (before more : List Char) :
    positionAfter (before ++ more) = more.foldl Position.next (positionAfter before) := by
  induction more generalizing before with
  | nil => simp
  | cons c rest ih => rw [List.append_cons, ih, positionAfter_concat, List.foldl_cons]

/-- Every character moves the position on. -/
theorem positionAfter_lt {before after : List Char} (initial : before <+: after)
    (size : byteSize before < byteSize after) : positionAfter before < positionAfter after := by
  obtain ⟨more, rfl⟩ := initial
  cases more with
  | nil => simp at size
  | cons c rest =>
    rw [positionAfter_append, List.foldl_cons]
    exact lt_of_lt_of_le (Position.lt_next _ c) (Position.le_foldl_next _ rest)

/-- Lines and columns count from one, and a character adds to one of them only. -/
theorem positionAfter_le_byteSize (before : List Char) :
    (positionAfter before).line - 1 + ((positionAfter before).column - 1) ≤ byteSize before := by
  refine Nat.le_trans ?_ (length_le_byteSize before)
  induction before using List.reverseRecOn with
  | nil => exact Nat.le_refl _
  | append_singleton before c ih =>
    have line : 0 < (positionAfter before).line := Nat.succ_pos _
    have column : 0 < (positionAfter before).column := Nat.succ_pos _
    rw [positionAfter_concat, List.length_append, List.length_singleton]
    by_cases feed : c = '\n'
    · simp only [Position.next, feed, if_true]
      omega
    · simp only [Position.next, feed, if_false]
      omega

section

variable {text : String} {offset : Nat} {position : Position}

theorem position?_eq_some_iff :
    position? text offset = some position ↔
      ∃ before, before <+: text.toList ∧ byteSize before = min offset text.utf8ByteSize ∧
        positionAfter before = position := by
  simp only [position?, Option.map_eq_some_iff, takeBytes?_eq_some_iff, and_assoc]

/-- Line and column together count no further than the offset, nor beyond the text. -/
theorem position?_le_offset (found : position? text offset = some position) :
    position.line - 1 + (position.column - 1) ≤ min offset text.utf8ByteSize := by
  obtain ⟨before, _, size, rfl⟩ := position?_eq_some_iff.mp found
  exact size ▸ positionAfter_le_byteSize before

theorem position?_eq_some_iff_of_isValid (valid : (String.Pos.Raw.mk offset).IsValid text) :
    position? text offset = some position ↔
      ∃ before, before <+: text.toList ∧ byteSize before = offset ∧ positionAfter before = position := by
  have inside : offset ≤ text.utf8ByteSize := valid.le_rawEndPos
  rw [position?_eq_some_iff, Nat.min_eq_left inside]

theorem exists_position? (valid : (String.Pos.Raw.mk offset).IsValid text) :
    ∃ position, position? text offset = some position := by
  obtain ⟨before, initial, size⟩ := isValid_iff_exists_prefix.mp valid
  exact ⟨_, (position?_eq_some_iff_of_isValid valid).mpr ⟨before, initial, size, rfl⟩⟩

end

section

variable {text : String} {first second : Nat} {position other : Position}

/-- A later offset has a later position. -/
theorem position?_lt_of_lt (valid : (String.Pos.Raw.mk first).IsValid text)
    (valid' : (String.Pos.Raw.mk second).IsValid text) (found : position? text first = some position)
    (found' : position? text second = some other) (less : first < second) : position < other := by
  obtain ⟨before, initial, rfl, rfl⟩ := (position?_eq_some_iff_of_isValid valid).mp found
  obtain ⟨after, initial', rfl, rfl⟩ := (position?_eq_some_iff_of_isValid valid').mp found'
  rcases List.prefix_or_prefix_of_prefix initial initial' with shorter | ⟨more, rfl⟩
  · exact positionAfter_lt shorter less
  · simp only [byteSize_append] at less
    omega

theorem position?_lt_iff (valid : (String.Pos.Raw.mk first).IsValid text)
    (valid' : (String.Pos.Raw.mk second).IsValid text) (found : position? text first = some position)
    (found' : position? text second = some other) : position < other ↔ first < second := by
  refine ⟨fun less => ?_, position?_lt_of_lt valid valid' found found'⟩
  rcases Nat.lt_trichotomy first second with before | rfl | after
  · exact before
  · cases found.symm.trans found'
    exact absurd less (lt_irrefl _)
  · exact absurd less (position?_lt_of_lt valid' valid found' found after).asymm

theorem position?_le_iff (valid : (String.Pos.Raw.mk first).IsValid text)
    (valid' : (String.Pos.Raw.mk second).IsValid text) (found : position? text first = some position)
    (found' : position? text second = some other) : position ≤ other ↔ first ≤ second := by
  rw [← not_lt, position?_lt_iff valid' valid found' found, not_lt]

theorem position?_eq_iff (valid : (String.Pos.Raw.mk first).IsValid text)
    (valid' : (String.Pos.Raw.mk second).IsValid text) (found : position? text first = some position)
    (found' : position? text second = some other) : position = other ↔ first = second := by
  rw [le_antisymm_iff, le_antisymm_iff, position?_le_iff valid valid' found found',
    position?_le_iff valid' valid found' found]

end

end Text

end EventMapLint
