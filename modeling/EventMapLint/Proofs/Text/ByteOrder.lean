import Mathlib.Data.List.Basic
import Mathlib.Order.Defs.LinearOrder

/-! Texts compared by their bytes. The encoding keeps the order of the characters, so texts come in one order whether
they are compared by characters or by bytes. -/

namespace EventMapLint

namespace Text

/-- The bytes of a text in UTF-8. -/
def bytes (text : String) : List UInt8 := text.toUTF8.data.toList

theorem bytes_eq_flatMap (text : String) : bytes text = text.toList.flatMap String.utf8EncodeChar := by
  rw [bytes, String.toUTF8_eq_toByteArray, ← String.utf8Encode_toList, List.utf8Encode, List.toList_data_toByteArray]

/-! ### One character -/

theorem cons_byte_lt_iff {m n : Nat} (fits : m < 256) (fits' : n < 256) {first second : List UInt8} :
    UInt8.ofNat m :: first < UInt8.ofNat n :: second ↔ m < n ∨ m = n ∧ first < second := by
  rw [List.cons_lt_cons_iff, UInt8.lt_iff_toNat_lt, ← UInt8.toNat_inj, UInt8.toNat_ofNat_of_lt' fits,
    UInt8.toNat_ofNat_of_lt' fits']

/-- Of two numbers in base 64 the lesser has the lesser digit where they first differ. -/
theorem digits_lt {m n : Nat} (less : m < n) :
    m / 262144 < n / 262144 ∨ m / 262144 = n / 262144 ∧ (m / 4096 % 64 < n / 4096 % 64 ∨
      m / 4096 % 64 = n / 4096 % 64 ∧ (m / 64 % 64 < n / 64 % 64 ∨
        m / 64 % 64 = n / 64 % 64 ∧ m % 64 < n % 64)) := by
  have third : 4096 = 64 * 64 := rfl
  have fourth : 262144 = 64 * 64 * 64 := rfl
  simp only [third, fourth, ← Nat.div_div_eq_div_mul]
  omega

/-- A character before another has bytes before those of the other, and what follows them makes no difference. -/
theorem utf8EncodeChar_append_lt {c d : Char} (less : c < d) (first second : List UInt8) :
    String.utf8EncodeChar c ++ first < String.utf8EncodeChar d ++ second := by
  have codes : c.val.toNat < d.val.toNat := less
  have last : d.val.toNat < 0x110000 := by
    rcases d.valid with low | ⟨_, high⟩
    · exact Nat.lt_trans low (by decide)
    · exact high
  simp only [String.utf8EncodeChar]
  generalize c.val.toNat = m at codes
  generalize d.val.toNat = n at codes last
  have digits := digits_lt codes
  have leading : m / 262144 % 8 = m / 262144 := Nat.mod_eq_of_lt (by omega)
  have leading' : n / 262144 % 8 = n / 262144 := Nat.mod_eq_of_lt (by omega)
  -- Of two lengths the longer has the greater first byte; of one length the first digit that differs decides.
  split_ifs <;>
    simp (disch := omega) only [List.cons_append, List.nil_append, cons_byte_lt_iff, leading, leading'] <;>
    omega

/-! ### Texts -/

theorem flatMap_utf8EncodeChar_lt {first second : List Char} (less : first < second) :
    first.flatMap String.utf8EncodeChar < second.flatMap String.utf8EncodeChar := by
  induction (less : List.Lex (· < ·) first second) with
  | @nil c rest =>
    obtain ⟨byte, more, form⟩ := List.exists_cons_of_ne_nil (String.utf8EncodeChar_ne_nil (c := c))
    rw [List.flatMap_cons, form]
    exact List.nil_lt_cons byte _
  | rel less =>
    rw [List.flatMap_cons, List.flatMap_cons]
    exact utf8EncodeChar_append_lt less _ _
  | cons less ih =>
    rw [List.flatMap_cons, List.flatMap_cons]
    exact List.append_left_lt ih

theorem bytes_lt_of_lt {first second : String} (less : first < second) : bytes first < bytes second := by
  rw [bytes_eq_flatMap, bytes_eq_flatMap]
  exact flatMap_utf8EncodeChar_lt less

/-- One text comes before another if and only if its bytes do. -/
theorem bytes_lt_iff {first second : String} : bytes first < bytes second ↔ first < second := by
  refine ⟨fun less => ?_, bytes_lt_of_lt⟩
  refine Decidable.byContradiction fun notLess => ?_
  by_cases same : first = second
  · exact List.lt_irrefl _ (same ▸ less)
  · have greater : second < first :=
      Decidable.byContradiction fun notGreater => same (String.le_antisymm notGreater notLess)
    exact List.lt_asymm less (bytes_lt_of_lt greater)

end Text

end EventMapLint
