import EventMapLint.Proofs.Text.Position

/-! Positions by reading a text one character at a time. An offset has the position that the characters before it lead
to, and behind another text it has the same position counted on from where that text ends. -/

namespace EventMapLint

namespace Position

/-- A position, counted on from where a text before it ends. Only what stands on the first line moves along it. -/
def behind (last here : Position) : Position :=
  if here.line = 1 then ⟨last.line, last.column + here.column - 1⟩ else ⟨last.line + here.line - 1, here.column⟩

theorem behind_start (last : Position) : last.behind ⟨1, 1⟩ = last := rfl

/-- A further character adds the same whether or not a text stands before. -/
theorem behind_next (last : Position) {here : Position} (line : 1 ≤ here.line) (column : 1 ≤ here.column) (c : Char) :
    last.behind (here.next c) = (last.behind here).next c := by
  by_cases feed : c = '\n'
  · have further : here.line + 1 ≠ 1 := by omega
    by_cases first : here.line = 1
    · simp [behind, next, feed, first]
    · simp only [behind, next, feed, first, further, if_true, if_false, mk.injEq, and_true]
      omega
  · by_cases first : here.line = 1
    · simp only [behind, next, feed, first, if_true, if_false, mk.injEq, true_and]
      omega
    · simp [behind, next, feed, first]

end Position

namespace Text

/-- The position that the characters of a text lead to, read one after the other from line 1 and column 1. -/
def scan (text : List Char) : Position := text.foldl Position.next ⟨1, 1⟩

theorem scan_concat (text : List Char) (c : Char) : scan (text ++ [c]) = (scan text).next c := by
  simp [scan]

/-- Counting line feeds and measuring the last line comes to the same as reading every character. -/
theorem positionAfter_eq_scan (text : List Char) : positionAfter text = scan text :=
  positionAfter_append [] text

theorem one_le_scan (text : List Char) : 1 ≤ (scan text).line ∧ 1 ≤ (scan text).column := by
  rw [← positionAfter_eq_scan]
  exact ⟨Nat.succ_pos _, Nat.succ_pos _⟩

/-- Reading on in a second text is reading it from the start, behind the first. -/
theorem scan_append (first second : List Char) : scan (first ++ second) = (scan first).behind (scan second) := by
  induction second using List.reverseRecOn with
  | nil => rw [List.append_nil]; exact (Position.behind_start _).symm
  | append_singleton second c ih =>
    have ⟨line, column⟩ := one_le_scan second
    rw [← List.append_assoc, scan_concat, scan_concat, ih, Position.behind_next _ line column]

/-! ### Offsets at a character and inside one -/

/-- An offset inside a text ends a prefix or falls into a character. -/
theorem exists_prefix_or_inside {text : List Char} {offset : Nat} (inside : offset ≤ byteSize text) :
    (∃ before, before <+: text ∧ byteSize before = offset) ∨
      ∃ before c after, text = before ++ c :: after ∧ byteSize before < offset ∧
        offset < byteSize before + c.utf8Size := by
  induction text generalizing offset with
  | nil => exact .inl ⟨[], List.nil_prefix, (Nat.le_zero.mp inside).symm⟩
  | cons c rest ih =>
    rcases Nat.eq_zero_or_pos offset with rfl | positive
    · exact .inl ⟨[], List.nil_prefix, rfl⟩
    · rcases Nat.lt_or_ge offset c.utf8Size with short | whole
      · exact .inr ⟨[], c, rest, rfl, positive, by simpa [byteSize] using short⟩
      · have further : offset - c.utf8Size ≤ byteSize rest := by
          simp only [byteSize] at inside
          omega
        rcases ih further with ⟨before, initial, size⟩ | ⟨before, d, after, rfl, lower, upper⟩
        · refine .inl ⟨c :: before, List.cons_prefix_cons.mpr ⟨rfl, initial⟩, ?_⟩
          simp only [byteSize]
          omega
        · refine .inr ⟨c :: before, d, after, rfl, ?_, ?_⟩
          · simp only [byteSize]
            omega
          · simp only [byteSize]
            omega

/-- No prefix ends inside a character. -/
theorem byteSize_ne_of_inside {before after initial : List Char} {c : Char} (lower : byteSize before < offset)
    (upper : offset < byteSize before + c.utf8Size) (isPrefix : initial <+: before ++ c :: after) :
    byteSize initial ≠ offset := by
  intro size
  rcases List.prefix_or_prefix_of_prefix isPrefix (List.prefix_append before _) with ⟨more, rfl⟩ | ⟨more, rfl⟩
  · rw [byteSize_append] at lower
    omega
  · rcases List.prefix_cons_iff.mp ((List.prefix_append_right_inj before).mp isPrefix) with rfl | ⟨rest, rfl, _⟩
    · rw [List.append_nil] at size
      omega
    · rw [byteSize_append, byteSize] at size
      omega

section

variable {text : String} {offset : Nat}

/-- An offset falls into a character if it lies behind the first byte of the character and before its end. -/
theorem not_isValid_min_iff :
    ¬ (String.Pos.Raw.mk (min offset text.utf8ByteSize)).IsValid text ↔
      ∃ before c after, text.toList = before ++ c :: after ∧ 1 < c.utf8Size ∧ byteSize before < offset ∧
        offset < byteSize before + c.utf8Size := by
  have size {before after : List Char} {c : Char} (form : text.toList = before ++ c :: after) :
      text.utf8ByteSize = byteSize before + (c.utf8Size + byteSize after) := by
    rw [← byteSize_toList, form, byteSize_append, byteSize]
  refine (not_congr isValid_iff_exists_prefix).trans ?_
  constructor
  · intro unaligned
    have clamped : min offset text.utf8ByteSize ≤ byteSize text.toList := by
      rw [byteSize_toList]
      exact Nat.min_le_right _ _
    rcases exists_prefix_or_inside clamped with aligned | ⟨before, c, after, form, lower, upper⟩
    · exact absurd aligned unaligned
    · have whole := size form
      exact ⟨before, c, after, form, by omega, by omega, by omega⟩
  · rintro ⟨before, c, after, form, _, lower, upper⟩ ⟨initial, isPrefix, aligned⟩
    have whole := size form
    rw [Nat.min_eq_left (by omega)] at aligned
    exact byteSize_ne_of_inside lower upper (form ▸ isPrefix) aligned

/-! ### Positions of offsets -/

theorem position?_byteSize {before : List Char} (initial : before <+: text.toList) :
    position? text (byteSize before) = some (scan before) := by
  have valid := isValid_iff_exists_prefix.mpr ⟨before, initial, rfl⟩
  exact (position?_eq_some_iff_of_isValid valid).mpr ⟨before, initial, rfl, positionAfter_eq_scan before⟩

theorem position?_utf8ByteSize (text : String) : position? text text.utf8ByteSize = some (scan text.toList) := by
  rw [← byteSize_toList]
  exact position?_byteSize (List.prefix_refl _)

theorem position?_min (text : String) (offset : Nat) :
    position? text (min offset text.utf8ByteSize) = position? text offset := by
  simp only [position?, Nat.min_assoc, Nat.min_self]

theorem position?_eq_none_iff :
    position? text offset = none ↔ ¬ (String.Pos.Raw.mk (min offset text.utf8ByteSize)).IsValid text := by
  rw [← position?_min]
  constructor
  · intro missing valid
    obtain ⟨position, found⟩ := exists_position? valid
    cases missing.symm.trans found
  · intro invalid
    refine Option.eq_none_iff_forall_ne_some.mpr fun position found => invalid ?_
    obtain ⟨before, initial, size, _⟩ := position?_eq_some_iff.mp found
    rw [Nat.min_assoc, Nat.min_self] at size
    exact isValid_iff_exists_prefix.mpr ⟨before, initial, size⟩

end

/-- The position of an offset is found by reading the characters before it one at a time, those of the whole text if
it lies beyond. It has none if and only if it does not lie between two characters, which is inside a character of
several bytes. -/
theorem position?_eq_scan (text : String) (offset : Nat) :
    ((String.Pos.Raw.mk (min offset text.utf8ByteSize)).IsValid text →
      ∃ before after : String, text = before ++ after ∧ before.utf8ByteSize = min offset text.utf8ByteSize ∧
        position? text offset = some (scan before.toList)) ∧
    (text.utf8ByteSize ≤ offset → position? text offset = some (scan text.toList)) ∧
    (position? text offset = none ↔ ¬ (String.Pos.Raw.mk (min offset text.utf8ByteSize)).IsValid text) ∧
    (position? text offset = none ↔
      ∃ before c after, text.toList = before ++ c :: after ∧ 1 < c.utf8Size ∧ byteSize before < offset ∧
        offset < byteSize before + c.utf8Size) := by
  refine ⟨?_, ?_, position?_eq_none_iff, position?_eq_none_iff.trans not_isValid_min_iff⟩
  · intro valid
    obtain ⟨before, after, rfl, bound⟩ := String.Pos.Raw.isValid_iff_exists_append.mp valid
    have size : before.utf8ByteSize = min offset (before ++ after).utf8ByteSize :=
      (congrArg String.Pos.Raw.byteIdx bound).symm
    refine ⟨before, after, rfl, size, ?_⟩
    rw [← position?_min, ← size, ← byteSize_toList]
    exact position?_byteSize ⟨after.toList, by simp⟩
  · intro beyond
    rw [← position?_min, Nat.min_eq_right beyond, position?_utf8ByteSize]

/-- Of `é`, a line feed and `b`: offset 1 falls into the `é`, offset 3 lies on line 2, and 9 counts as the end. -/
theorem position?_in_accent :
    (position? "é\nb" 1 = none ∧ ¬ (String.Pos.Raw.mk 1).IsValid "é\nb") ∧
    ((String.Pos.Raw.mk 3).IsValid "é\nb" ∧
      ∃ before after : String, "é\nb" = before ++ after ∧ before.utf8ByteSize = 3 ∧
        position? "é\nb" 3 = some (scan before.toList)) ∧
    position? "é\nb" 9 = some (scan ['é', '\n', 'b']) ∧ scan ['é', '\n', 'b'] = ⟨2, 2⟩ := by
  have unaligned := (position?_eq_scan "é\nb" 1).2.2.2.mpr
    ⟨[], 'é', ['\n', 'b'], rfl, by decide, by decide, by decide⟩
  have aligned : (String.Pos.Raw.mk 3).IsValid "é\nb" := by decide +kernel
  refine ⟨⟨unaligned, (position?_eq_scan "é\nb" 1).2.2.1.mp unaligned⟩, ?_, ?_, rfl⟩
  · exact ⟨aligned, (position?_eq_scan "é\nb" 3).1 aligned⟩
  · exact (position?_eq_scan "é\nb" 9).2.1 (by decide +kernel)

/-! ### Texts that stand one behind the other -/

/-- The position of a place in the second of two texts comes from its position there and from where the first text
ends: it moves on along the last line of the first if it is on the first line of the second, and down otherwise. What
stands behind a place has no influence. -/
theorem position?_append (first second : String) (offset : Nat) (valid : (String.Pos.Raw.mk offset).IsValid second) :
    ∃ last here, position? first first.utf8ByteSize = some last ∧ position? second offset = some here ∧
      1 ≤ here.line ∧
      (here.line = 1 → position? (first ++ second) (first.utf8ByteSize + offset) =
        some ⟨last.line, last.column + here.column - 1⟩) ∧
      (1 < here.line → position? (first ++ second) (first.utf8ByteSize + offset) =
        some ⟨last.line + here.line - 1, here.column⟩) ∧
      ∀ more, position? (second ++ more) offset = position? second offset := by
  obtain ⟨before, initial, rfl⟩ := isValid_iff_exists_prefix.mp valid
  have found := position?_byteSize initial
  have joined : position? (first ++ second) (first.utf8ByteSize + byteSize before) =
      some ((scan first.toList).behind (scan before)) := by
    rw [← byteSize_toList, ← byteSize_append, ← scan_append]
    apply position?_byteSize
    rw [String.toList_append]
    exact (List.prefix_append_right_inj _).mpr initial
  refine ⟨scan first.toList, scan before, position?_utf8ByteSize first, found, (one_le_scan before).1, ?_, ?_, ?_⟩
  · intro same
    rw [joined, Position.behind, if_pos same]
  · intro further
    rw [joined, Position.behind, if_neg (Nat.ne_of_gt further)]
  · intro more
    rw [found]
    apply position?_byteSize
    rw [String.toList_append]
    exact initial.trans (List.prefix_append _ _)

/-- Behind `a`, a line feed and `é` the end of `ü` stands in column 3 of line 2, and the end of a line feed in column
1 of line 3. -/
theorem position?_append_accents :
    ((String.Pos.Raw.mk 2).IsValid "ü" ∧ position? ("a\né" ++ "ü") (4 + 2) = some ⟨2, 3⟩ ∧
      position? ("ü" ++ "\n") 2 = position? "ü" 2) ∧
    (String.Pos.Raw.mk 1).IsValid "\n" ∧ position? ("a\né" ++ "\n") (4 + 1) = some ⟨3, 1⟩ := by
  have along : (String.Pos.Raw.mk 2).IsValid "ü" := by decide +kernel
  have down : (String.Pos.Raw.mk 1).IsValid "\n" := by decide +kernel
  refine ⟨⟨along, ?_⟩, down, ?_⟩
  · obtain ⟨last, here, atLast, atHere, _, same, _, cut⟩ := position?_append "a\né" "ü" 2 along
    obtain rfl : (⟨2, 2⟩ : Position) = last := Option.some.inj atLast
    obtain rfl : (⟨1, 2⟩ : Position) = here := Option.some.inj atHere
    exact ⟨same rfl, cut "\n"⟩
  · obtain ⟨last, here, atLast, atHere, _, _, further, _⟩ := position?_append "a\né" "\n" 1 down
    obtain rfl : (⟨2, 2⟩ : Position) = last := Option.some.inj atLast
    obtain rfl : (⟨2, 1⟩ : Position) = here := Option.some.inj atHere
    exact further (by decide)

end Text

end EventMapLint
