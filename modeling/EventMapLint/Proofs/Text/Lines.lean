import EventMapLint.Proofs.Text.Position
import Mathlib.Algebra.Ring.Nat

/-! Positions as places on the lines of a text. Every position that the lines have belongs to one offset, which is
found again by counting the bytes of the lines above and of the characters before it. -/

namespace EventMapLint

namespace Text

/-- The lines of a text. A line feed ends a line and belongs to none, so the last line may be empty. -/
def lines (text : String) : List (List Char) := text.toList.splitOn '\n'

/-- A text has a position if the line is one of its lines, and the column is that of a character on it or of its end. -/
structure HasPosition (text : String) (position : Position) : Prop where
  line_pos : 1 ≤ position.line
  line_le : position.line ≤ (lines text).length
  column_pos : 1 ≤ position.column
  column_le : position.column ≤ ((lines text).getD (position.line - 1) []).length + 1

/-- The bytes before a position: those of the lines above with their line feeds, and those of the characters before
it on its own line. -/
def bytesBefore (text : String) (position : Position) : Nat :=
  (((lines text).take (position.line - 1)).map fun line => byteSize (line ++ ['\n'])).sum +
    byteSize (((lines text).getD (position.line - 1) []).take (position.column - 1))

/-! ### The beginnings of a text -/

/-- The first `above` lines with their line feeds, and `along` characters of the next. -/
def beginning (lines : List (List Char)) (above along : Nat) : List Char :=
  (lines.take above).flatMap (· ++ ['\n']) ++ (lines.getD above []).take along

theorem beginning_zero (line : List Char) (more : List (List Char)) (along : Nat) :
    beginning (line :: more) 0 along = line.take along := by
  simp [beginning]

theorem beginning_succ (line : List Char) (more : List (List Char)) (above along : Nat) :
    beginning (line :: more) (above + 1) along = line ++ '\n' :: beginning more above along := by
  simp [beginning]

theorem byteSize_beginning (lines : List (List Char)) (above along : Nat) :
    byteSize (beginning lines above along) =
      ((lines.take above).map fun line => byteSize (line ++ ['\n'])).sum +
        byteSize ((lines.getD above []).take along) := by
  have whole (items : List (List Char)) :
      byteSize (items.flatMap (· ++ ['\n'])) = (items.map fun line => byteSize (line ++ ['\n'])).sum := by
    induction items with
    | nil => rfl
    | cons line items ih => rw [List.flatMap_cons, byteSize_append, ih, List.map_cons, List.sum_cons]
  rw [beginning, byteSize_append, whole]

theorem beginning_prefix {lines : List (List Char)} {above : Nat} (inside : above < lines.length) (along : Nat) :
    beginning lines above along <+: ['\n'].intercalate lines := by
  induction lines generalizing above with
  | nil => cases inside
  | cons line more ih =>
    cases above with
    | zero =>
      rw [beginning_zero]
      cases more with
      | nil => simpa using List.take_prefix along line
      | cons next more =>
        rw [List.intercalate_cons_cons, List.append_assoc]
        exact (List.take_prefix along line).trans (List.prefix_append _ _)
    | succ above =>
      have rest : above < more.length := Nat.lt_of_succ_lt_succ inside
      obtain ⟨next, others, rfl⟩ := List.exists_cons_of_length_pos (Nat.zero_lt_of_lt rest)
      rw [beginning_succ, List.intercalate_cons_cons, List.append_assoc]
      exact (List.prefix_append_right_inj _).mpr ((List.prefix_append_right_inj ['\n']).mpr (ih rest))

/-- Whatever a text begins with reaches some way along one of its lines. -/
theorem exists_eq_beginning {lines : List (List Char)} {before : List Char} (nonempty : lines ≠ [])
    (initial : before <+: ['\n'].intercalate lines) :
    ∃ above along, above < lines.length ∧ along ≤ (lines.getD above []).length ∧
      before = beginning lines above along := by
  induction lines generalizing before with
  | nil => exact absurd rfl nonempty
  | cons line more ih =>
    by_cases short : before <+: line
    · refine ⟨0, before.length, Nat.zero_lt_succ _, by simpa using short.length_le, ?_⟩
      rw [beginning_zero]
      exact List.prefix_iff_eq_take.mp short
    · cases more with
      | nil => exact absurd (by simpa using initial) short
      | cons next more =>
        rw [List.intercalate_cons_cons, List.append_assoc] at initial
        rcases List.prefix_or_prefix_of_prefix initial (List.prefix_append line _) with shorter | ⟨beyond, rfl⟩
        · exact absurd shorter short
        · have behind := (List.prefix_append_right_inj line).mp initial
          rcases List.prefix_cons_iff.mp behind with rfl | ⟨rest, rfl, further⟩
          · exact absurd (by simp) short
          · obtain ⟨above, along, inside, reach, rfl⟩ := ih (by simp) further
            refine ⟨above + 1, along, Nat.succ_lt_succ inside, by simpa using reach, ?_⟩
            rw [beginning_succ]

/-! ### Where a beginning ends -/

theorem not_mem_of_mem_splitOn {text line : List Char} (member : line ∈ text.splitOn '\n') : '\n' ∉ line := by
  induction text generalizing line with
  | nil =>
    obtain rfl : line = [] := by simpa using member
    simp
  | cons c rest ih =>
    rw [List.splitOn_cons_eq_if_modifyHead] at member
    split at member
    · rcases List.mem_cons.mp member with rfl | later
      · simp
      · exact ih later
    · rename_i other
      obtain ⟨first, more, split⟩ := List.exists_cons_of_ne_nil (List.splitOn_ne_nil '\n' rest)
      rw [split, List.modifyHead_cons] at member
      rw [split] at ih
      rcases List.mem_cons.mp member with rfl | later
      · intro feed
        rcases List.mem_cons.mp feed with same | behind
        · exact other (beq_iff_eq.mpr same.symm)
        · exact ih List.mem_cons_self behind
      · exact ih (List.mem_cons_of_mem first later)

theorem foldl_next_of_not_mem {line : List Char} (unbroken : '\n' ∉ line) (position : Position) :
    line.foldl Position.next position = ⟨position.line, position.column + line.length⟩ := by
  induction line generalizing position with
  | nil => rfl
  | cons c rest ih =>
    have ⟨other, rest⟩ : '\n' ≠ c ∧ '\n' ∉ rest := by simpa using unbroken
    rw [List.foldl_cons, ih rest, Position.next, if_neg (Ne.symm other), List.length_cons]
    simp only [Position.mk.injEq, true_and]
    omega

theorem foldl_next_lines {lines : List (List Char)} (unbroken : ∀ line ∈ lines, '\n' ∉ line) (number : Nat) :
    (lines.flatMap (· ++ ['\n'])).foldl Position.next ⟨number, 1⟩ = ⟨number + lines.length, 1⟩ := by
  induction lines generalizing number with
  | nil => rfl
  | cons line more ih =>
    have ⟨first, rest⟩ := List.forall_mem_cons.mp unbroken
    rw [List.flatMap_cons, List.foldl_append, List.foldl_append, foldl_next_of_not_mem first, List.foldl_cons,
      List.foldl_nil, Position.next, if_pos rfl, ih rest, List.length_cons]
    simp only [Position.mk.injEq, and_true]
    omega

theorem positionAfter_beginning {lines : List (List Char)} (unbroken : ∀ line ∈ lines, '\n' ∉ line)
    {above along : Nat} (inside : above < lines.length) (reach : along ≤ (lines.getD above []).length) :
    positionAfter (beginning lines above along) = ⟨above + 1, along + 1⟩ := by
  have own : lines.getD above [] ∈ lines := by
    rw [List.getD_eq_getElem?_getD, List.getElem?_eq_getElem inside, Option.getD_some]
    exact List.getElem_mem inside
  have here : '\n' ∉ (lines.getD above []).take along :=
    fun feed => unbroken _ own (List.mem_of_mem_take feed)
  have earlier : ∀ line ∈ lines.take above, '\n' ∉ line :=
    fun line member => unbroken line (List.mem_of_mem_take member)
  have start : positionAfter [] = ⟨1, 1⟩ := rfl
  rw [← List.nil_append (beginning lines above along), positionAfter_append, start, beginning, List.foldl_append,
    foldl_next_lines earlier, foldl_next_of_not_mem here, List.length_take_of_le reach,
    List.length_take_of_le (Nat.le_of_lt inside)]
  simp only [Position.mk.injEq]
  omega

/-! ### Lines against offsets -/

theorem intercalate_lines (text : String) : ['\n'].intercalate (lines text) = text.toList :=
  List.intercalate_splitOn '\n'

/-- A character boundary is a way along one of the lines, and this gives its position. -/
theorem exists_beginning_of_isValid {text : String} {offset : Nat} (valid : (String.Pos.Raw.mk offset).IsValid text) :
    ∃ above along, above < (lines text).length ∧ along ≤ ((lines text).getD above []).length ∧
      offset = byteSize (beginning (lines text) above along) ∧
      position? text offset = some ⟨above + 1, along + 1⟩ := by
  obtain ⟨before, initial, rfl⟩ := isValid_iff_exists_prefix.mp valid
  obtain ⟨above, along, inside, reach, rfl⟩ :=
    exists_eq_beginning (List.splitOn_ne_nil '\n' text.toList) ((intercalate_lines text).symm ▸ initial)
  refine ⟨above, along, inside, reach, rfl, ?_⟩
  exact (position?_eq_some_iff_of_isValid valid).mpr
    ⟨_, initial, rfl, positionAfter_beginning (fun _ => not_mem_of_mem_splitOn) inside reach⟩

theorem HasPosition.exists_offset {text : String} {position : Position} (has : HasPosition text position) :
    ∃ offset, (String.Pos.Raw.mk offset).IsValid text ∧ position? text offset = some position := by
  obtain ⟨line, column⟩ := position
  obtain ⟨linePos, lineLe, columnPos, columnLe⟩ := has
  obtain ⟨above, rfl⟩ := Nat.exists_eq_add_of_le' linePos
  obtain ⟨along, rfl⟩ := Nat.exists_eq_add_of_le' columnPos
  have initial : beginning (lines text) above along <+: text.toList := by
    rw [← intercalate_lines]
    exact beginning_prefix lineLe along
  have valid := isValid_iff_exists_prefix.mpr ⟨_, initial, rfl⟩
  refine ⟨_, valid, (position?_eq_some_iff_of_isValid valid).mpr ⟨_, initial, rfl, ?_⟩⟩
  exact positionAfter_beginning (fun _ => not_mem_of_mem_splitOn) lineLe (Nat.le_of_succ_le_succ columnLe)

/-- Positions are strictly ordered by their offsets and can be undone. A boundary is found again by counting the
bytes before its position, and each position that the lines have is that of one boundary and no other. -/
theorem position?_monotone_invertible (text : String) :
    (∀ first second, first < second → (String.Pos.Raw.mk first).IsValid text →
      (String.Pos.Raw.mk second).IsValid text →
      ∃ position other, position? text first = some position ∧ position? text second = some other ∧
        (position.line < other.line ∨ position.line = other.line ∧ position.column < other.column)) ∧
    (∀ offset, (String.Pos.Raw.mk offset).IsValid text →
      ∃ position, position? text offset = some position ∧ HasPosition text position ∧
        bytesBefore text position = offset) ∧
    ∀ position, HasPosition text position →
      ∃! offset, (String.Pos.Raw.mk offset).IsValid text ∧ position? text offset = some position := by
  refine ⟨?_, ?_, ?_⟩
  · intro first second less valid valid'
    obtain ⟨position, found⟩ := exists_position? valid
    obtain ⟨other, found'⟩ := exists_position? valid'
    exact ⟨position, other, found, found', Position.lt_iff.mp (position?_lt_of_lt valid valid' found found' less)⟩
  · intro offset valid
    obtain ⟨above, along, inside, reach, size, found⟩ := exists_beginning_of_isValid valid
    refine ⟨_, found, ⟨Nat.succ_pos _, inside, Nat.succ_pos _, Nat.succ_le_succ reach⟩, ?_⟩
    rw [size, byteSize_beginning]
    rfl
  · intro position has
    obtain ⟨offset, valid, found⟩ := has.exists_offset
    refine ⟨offset, ⟨valid, found⟩, ?_⟩
    rintro other ⟨valid', found'⟩
    exact (position?_eq_iff valid' valid found' found).mp rfl

/-- Of `é`, a carriage return, two line feeds and `b`: the first line feed stands in column 3 of line 1, four bytes
lie before the empty line 2, and the end in column 2 of line 3 is that of one boundary. -/
theorem position?_around_feeds :
    ((String.Pos.Raw.mk 3).IsValid "é\r\n\nb" ∧ (String.Pos.Raw.mk 4).IsValid "é\r\n\nb" ∧
      ∃ position other, position? "é\r\n\nb" 3 = some position ∧ position? "é\r\n\nb" 4 = some other ∧
        (position.line < other.line ∨ position.line = other.line ∧ position.column < other.column)) ∧
    (∃ position, position? "é\r\n\nb" 4 = some position ∧ HasPosition "é\r\n\nb" position ∧
      bytesBefore "é\r\n\nb" position = 4) ∧
    HasPosition "é\r\n\nb" ⟨3, 2⟩ ∧
      ∃! offset, (String.Pos.Raw.mk offset).IsValid "é\r\n\nb" ∧ position? "é\r\n\nb" offset = some ⟨3, 2⟩ := by
  obtain ⟨ordered, undone, taken⟩ := position?_monotone_invertible "é\r\n\nb"
  have feed : (String.Pos.Raw.mk 3).IsValid "é\r\n\nb" := by decide +kernel
  have blank : (String.Pos.Raw.mk 4).IsValid "é\r\n\nb" := by decide +kernel
  have last : HasPosition "é\r\n\nb" ⟨3, 2⟩ :=
    ⟨by decide, by decide +kernel, by decide, by decide +kernel⟩
  exact ⟨⟨feed, blank, ordered 3 4 (by decide) feed blank⟩, undone 4 blank, last, taken _ last⟩

end Text

end EventMapLint
