import EventMapLint.Json.Value
import Mathlib.Data.List.Induction
import Mathlib.Data.List.Nodup

/-! Entries of objects. Sorting them keeps what stands under each key and forgets in which order it was written. -/

namespace EventMapLint

namespace Json

/-- Entries in the order of their keys, with no key twice. -/
def Ascending {α : Type} (entries : List (String × α)) : Prop :=
  entries.Pairwise fun first second => first.1 < second.1

/-! ### Looking up a key -/

@[simp] theorem get?_nil (key : String) : (object []).get? key = none := rfl

theorem get?_concat (entries : List (String × Json)) (entry : String × Json) (key : String) :
    (object (entries ++ [entry])).get? key = if entry.1 = key then some entry.2 else (object entries).get? key := by
  by_cases same : entry.1 = key
  · simp [get?, same]
  · simp [get?, same]

/-- A value that is found is one that was written under the key. -/
theorem mem_of_get? {entries : List (String × Json)} (found : (object entries).get? key = some value) :
    (key, value) ∈ entries := by
  induction entries using List.reverseRecOn with
  | nil => cases found
  | append_singleton entries entry ih =>
    rw [get?_concat] at found
    split at found
    · rename_i same
      cases found
      exact List.mem_append_right _ (same ▸ List.mem_singleton_self entry)
    · exact List.mem_append_left _ (ih found)

theorem get?_isSome_iff {entries : List (String × Json)} :
    ((object entries).get? key).isSome = true ↔ key ∈ entries.map (·.1) := by
  induction entries using List.reverseRecOn with
  | nil => simp
  | append_singleton entries entry ih =>
    rw [get?_concat, List.map_append, List.mem_append, ← ih]
    by_cases same : entry.1 = key
    · simp [same]
    · have other : key ≠ entry.1 := Ne.symm same
      simp [same, other]

theorem get?_eq_some_iff_mem {entries : List (String × Json)} (distinct : (entries.map (·.1)).Nodup) :
    (object entries).get? key = some value ↔ (key, value) ∈ entries := by
  refine ⟨mem_of_get?, fun member => ?_⟩
  obtain ⟨found, present⟩ := Option.isSome_iff_exists.mp
    (get?_isSome_iff.mpr (List.mem_map.mpr ⟨_, member, rfl⟩))
  have same := List.inj_on_of_nodup_map distinct member (mem_of_get? present) rfl
  rw [present, (Prod.mk.inj same).2]

theorem get?_perm {entries others : List (String × Json)} (rearranged : entries.Perm others)
    (distinct : (entries.map (·.1)).Nodup) (key : String) :
    (object entries).get? key = (object others).get? key := by
  have distinct' : (others.map (·.1)).Nodup := (rearranged.map _).nodup_iff.mp distinct
  refine Option.ext fun value => ?_
  rw [get?_eq_some_iff_mem distinct, get?_eq_some_iff_mem distinct', rearranged.mem_iff]

/-! ### Sorting -/

section

variable {α : Type} {key : String} {value : α} {entries : List (String × α)}

theorem Ascending.keys_nodup (sorted : Ascending entries) : (entries.map (·.1)).Nodup :=
  List.pairwise_map.mpr (sorted.imp String.ne_of_lt)

theorem Ascending.nodup (sorted : Ascending entries) : entries.Nodup := sorted.keys_nodup.of_map

/-- An entry takes the place of the one with its key, and leaves the others. -/
theorem mem_insertEntry (sorted : Ascending entries) {entry : String × α} :
    entry ∈ insertEntry key value entries ↔ entry = (key, value) ∨ entry.1 ≠ key ∧ entry ∈ entries := by
  induction entries with
  | nil => simp [insertEntry]
  | cons first rest ih =>
    obtain ⟨before, ordered⟩ := List.pairwise_cons.mp sorted
    -- What stands behind a key that is no less than `key` has other keys.
    have behind (less : key ≤ first.1) (member : entry ∈ rest) : entry.1 ≠ key := by
      rintro rfl
      exact less (before entry member)
    simp only [insertEntry]
    split
    · rename_i same
      constructor
      · intro member
        rcases List.mem_cons.mp member with new | later
        · exact .inl new
        · exact .inr ⟨behind (same ▸ String.le_refl _) later, List.mem_cons_of_mem _ later⟩
      · rintro (rfl | ⟨other, member⟩)
        · exact List.mem_cons_self
        · rcases List.mem_cons.mp member with rfl | later
          · exact absurd same.symm other
          · exact List.mem_cons_of_mem _ later
    · rename_i different
      split
      · rename_i less
        constructor
        · intro member
          rcases List.mem_cons.mp member with new | old
          · exact .inl new
          · refine .inr ⟨?_, old⟩
            rcases List.mem_cons.mp old with rfl | later
            · exact Ne.symm different
            · exact behind (String.lt_asymm less) later
        · rintro (rfl | ⟨_, member⟩)
          · exact List.mem_cons_self
          · exact List.mem_cons_of_mem _ member
      · rw [List.mem_cons, ih ordered, List.mem_cons]
        constructor
        · rintro (rfl | rfl | ⟨other, later⟩)
          · exact .inr ⟨Ne.symm different, .inl rfl⟩
          · exact .inl rfl
          · exact .inr ⟨other, .inr later⟩
        · rintro (rfl | ⟨other, rfl | later⟩)
          · exact .inr (.inl rfl)
          · exact .inl rfl
          · exact .inr (.inr ⟨other, later⟩)

theorem Ascending.insertEntry (sorted : Ascending entries) (key : String) (value : α) :
    Ascending (insertEntry key value entries) := by
  induction entries with
  | nil => exact List.pairwise_singleton _ _
  | cons first rest ih =>
    obtain ⟨before, ordered⟩ := List.pairwise_cons.mp sorted
    simp only [Json.insertEntry]
    split
    · rename_i same
      exact List.pairwise_cons.mpr ⟨fun entry member => same ▸ before entry member, ordered⟩
    · rename_i different
      split
      · rename_i less
        refine List.pairwise_cons.mpr ⟨fun entry member => ?_, sorted⟩
        rcases List.mem_cons.mp member with rfl | later
        · exact less
        · exact String.lt_trans less (before entry later)
      · rename_i notLess
        have less : first.1 < key := by
          refine Decidable.byContradiction fun notGreater => ?_
          exact different (String.le_antisymm notGreater notLess)
        refine List.pairwise_cons.mpr ⟨fun entry member => ?_, ih ordered⟩
        rcases (mem_insertEntry ordered).mp member with rfl | ⟨_, later⟩
        · exact less
        · exact before entry later

theorem sortEntries_concat (entries : List (String × α)) (entry : String × α) :
    sortEntries (entries ++ [entry]) = Json.insertEntry entry.1 entry.2 (sortEntries entries) := by
  simp [sortEntries]

theorem sortEntries_ascending (entries : List (String × α)) : Ascending (sortEntries entries) := by
  induction entries using List.reverseRecOn with
  | nil => exact .nil
  | append_singleton entries entry ih =>
    rw [sortEntries_concat]
    exact ih.insertEntry entry.1 entry.2

end

/-- The sorted entries are what is found under some key. -/
theorem mem_sortEntries {entries : List (String × Json)} :
    (key, value) ∈ sortEntries entries ↔ (object entries).get? key = some value := by
  induction entries using List.reverseRecOn with
  | nil => simp [sortEntries]
  | append_singleton entries entry ih =>
    rw [sortEntries_concat, mem_insertEntry (sortEntries_ascending entries), ih, get?_concat]
    by_cases same : entry.1 = key
    · simp [same, Prod.ext_iff, eq_comm]
    · have other : key ≠ entry.1 := Ne.symm same
      simp [same, other, Prod.ext_iff]

theorem get?_sortEntries (entries : List (String × Json)) (key : String) :
    (object (sortEntries entries)).get? key = (object entries).get? key := by
  refine Option.ext fun value => ?_
  rw [get?_eq_some_iff_mem (sortEntries_ascending entries).keys_nodup, mem_sortEntries]

/-- Objects with the same values under the same keys are the same once they are sorted. -/
theorem sortEntries_eq_of_get?_eq {entries others : List (String × Json)}
    (same : ∀ key, (object entries).get? key = (object others).get? key) :
    sortEntries entries = sortEntries others := by
  have sorted := sortEntries_ascending entries
  have sorted' := sortEntries_ascending others
  have alike : (sortEntries entries).Perm (sortEntries others) := by
    refine (List.perm_ext_iff_of_nodup sorted.nodup sorted'.nodup).mpr ?_
    rintro ⟨key, value⟩
    rw [mem_sortEntries, mem_sortEntries, same]
  exact alike.eq_of_pairwise (fun _ _ _ _ less greater => absurd greater (String.lt_asymm less)) sorted sorted'

end Json

end EventMapLint
