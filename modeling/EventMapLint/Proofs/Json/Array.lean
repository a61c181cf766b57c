import EventMapLint.Json.Array
import EventMapLint.Proofs.Outcome

/-! Reading a text as an array against reading it as any value. -/

namespace EventMapLint

namespace Json

namespace Reader

theorem finish_isScalar {negative : Bool} {scaled : Decimal.Scaled} {rest : List Char} {result : Json × List Char}
    (read : finish negative scaled rest = .ok result) : result.1.isScalar = true := by
  unfold finish at read
  split at read <;> cases read
  rfl

theorem whole_isScalar {negative : Bool} {digits : List Nat} {json : Json} (found : whole negative digits = some json) :
    json.isScalar = true := by
  simp only [whole] at found
  split at found <;> split at found <;> cases found <;> rfl

theorem unsigned_isScalar {negative : Bool} {cs : List Char} {result : Json × List Char}
    (read : unsigned negative cs = .ok result) : result.1.isScalar = true := by
  obtain ⟨⟨front, rest⟩, _, read⟩ := exists_of_bind_eq_ok read
  dsimp only at read
  split at read
  · obtain ⟨⟨back, rest⟩, _, read⟩ := exists_of_bind_eq_ok read
    dsimp only at read
    split at read
    · obtain ⟨_, _, read⟩ := exists_of_bind_eq_ok read
      exact finish_isScalar read
    · obtain ⟨_, _, read⟩ := exists_of_bind_eq_ok read
      exact finish_isScalar read
    · exact finish_isScalar read
  · obtain ⟨_, _, read⟩ := exists_of_bind_eq_ok read
    exact finish_isScalar read
  · obtain ⟨_, _, read⟩ := exists_of_bind_eq_ok read
    exact finish_isScalar read
  · split at read
    · rename_i json found
      cases read
      exact whole_isScalar found
    · exact finish_isScalar read

/-- What is read as a scalar is one. -/
theorem scalar_isScalar {cs : List Char} {result : Json × List Char} (read : scalar cs = .ok result) :
    result.1.isScalar = true := by
  unfold scalar at read
  split at read
  · cases read
  -- The three words and a string.
  iterate 4
    · obtain ⟨_, _, read⟩ := exists_of_bind_eq_ok read
      cases read
      rfl
  · exact unsigned_isScalar read
  · split at read
    · exact unsigned_isScalar read
    · cases read

/-- An array begins with its bracket. -/
theorem exists_of_value_eq_array {fuel depth : Nat} {cs rest : List Char} {elements : List Json}
    (read : value fuel depth cs = .ok (.array elements, rest)) : ∃ inner, skipBlank cs = '[' :: inner := by
  cases fuel with
  | zero => cases read
  | succ fuel =>
    unfold value at read
    split at read
    · rename_i inner found
      exact ⟨inner, found⟩
    · split at read
      · cases read
      · split at read
        · cases read
        · obtain ⟨_, _, read⟩ := exists_of_bind_eq_ok read
          cases read
    · cases scalar_isScalar read

end Reader

/-- A text that is read as an array has the elements of this array. -/
theorem readArray_of_read {text : String} {elements : List Json} (made : read text.toList = .ok (.array elements))
    (explain : Fault → String) : readArray explain text = .ok elements := by
  have ⟨inner, bracket⟩ : ∃ inner, Reader.skipBlank text.toList = '[' :: inner := by
    obtain ⟨⟨json, rest⟩, first, made⟩ := exists_of_bind_eq_ok made
    dsimp only at made
    split at made <;> cases made
    exact Reader.exists_of_value_eq_array first
  simp only [readArray, bracket, made]

end Json

end EventMapLint
