import EventMapLint.Proofs.Json.Entries
import Mathlib.Data.List.Forall2

/-! JSON values up to the order of keys. What stands under a key, and at a place in an array, stands there in every
order. -/

namespace EventMapLint

namespace Json

/-- One value becomes another in that the entries of objects in it change places. -/
inductive Rearranged : Json → Json → Prop
  | refl : Rearranged json json
  | trans (first : Rearranged json middle) (second : Rearranged middle other) : Rearranged json other
  | order (rearranged : entries.Perm others) (distinct : (entries.map (·.1)).Nodup) :
      Rearranged (.object entries) (.object others)
  | element (inside : Rearranged json other) :
      Rearranged (.array (before ++ json :: after)) (.array (before ++ other :: after))
  | entry (inside : Rearranged json other) :
      Rearranged (.object (before ++ (key, json) :: after)) (.object (before ++ (key, other) :: after))

theorem Rearranged.symm (same : Rearranged json other) : Rearranged other json := by
  induction same with
  | refl => exact .refl
  | trans _ _ first second => exact .trans second first
  | order rearranged distinct => exact .order rearranged.symm ((rearranged.map _).nodup_iff.mp distinct)
  | element _ back => exact .element back
  | entry _ back => exact .entry back

/-! ### Relations on the elements -/

section

variable {α : Type} {r : α → α → Prop}

theorem optionRel_refl (refl : ∀ a, r a a) (found : Option α) : Option.Rel r found found := by
  cases found with
  | none => exact .none
  | some a => exact .some (refl a)

theorem optionRel_trans (trans : ∀ {a b c}, r a b → r b c → r a c) {first second third : Option α}
    (earlier : Option.Rel r first second) (later : Option.Rel r second third) : Option.Rel r first third := by
  cases earlier with
  | none => exact later
  | some same =>
    cases later with
    | some same' => exact .some (trans same same')

theorem forall₂_trans (trans : ∀ {a b c}, r a b → r b c → r a c) {first second third : List α}
    (earlier : List.Forall₂ r first second) (later : List.Forall₂ r second third) : List.Forall₂ r first third := by
  induction earlier generalizing third with
  | nil => exact later
  | cons same _ ih =>
    cases later with
    | cons same' rest => exact .cons (trans same same') (ih rest)

theorem forall₂_exchange (refl : ∀ a, r a a) {a b : α} (same : r a b) (before after : List α) :
    List.Forall₂ r (before ++ a :: after) (before ++ b :: after) :=
  List.rel_append (List.forall₂_same.mpr fun c _ => refl c) (.cons same (List.forall₂_same.mpr fun c _ => refl c))

end

/-! ### What stays in its place -/

/-- Only arrays and objects have something inside that could change its place. -/
theorem Rearranged.eq_of_isScalar (same : Rearranged json other) (scalar : json.isScalar = true) : other = json := by
  induction same with
  | refl => rfl
  | trans _ _ first second =>
    have middle := first scalar
    rw [← middle] at scalar ⊢
    exact second scalar
  | order | element | entry => cases scalar

theorem Rearranged.exists_elements {elements : List Json} (same : Rearranged json other)
    (form : json = .array elements) :
    ∃ others, other = .array others ∧ List.Forall₂ Rearranged elements others := by
  induction same generalizing elements with
  | refl => exact ⟨elements, form, List.forall₂_same.mpr fun _ _ => .refl⟩
  | trans _ _ first second =>
    obtain ⟨between, form, earlier⟩ := first form
    obtain ⟨others, form, later⟩ := second form
    exact ⟨others, form, forall₂_trans .trans earlier later⟩
  | order | entry => cases form
  | element inside =>
    cases form
    exact ⟨_, rfl, forall₂_exchange (fun _ => .refl) inside _ _⟩

theorem get?_append (entries others : List (String × Json)) (key : String) :
    (object (entries ++ others)).get? key = ((object others).get? key).or ((object entries).get? key) := by
  simp only [Json.get?, List.reverse_append, List.find?_append, Option.map_or]

/-- What is found under a key is what was found there, rearranged. -/
theorem Rearranged.get? (same : Rearranged json other) (key : String) :
    Option.Rel Rearranged (json.get? key) (other.get? key) := by
  induction same with
  | refl => exact optionRel_refl (fun _ => .refl) _
  | trans _ _ first second => exact optionRel_trans .trans first second
  | order rearranged distinct =>
    rw [get?_perm rearranged distinct]
    exact optionRel_refl (fun _ => .refl) _
  | element => exact .none
  | @entry json other before own after inside =>
    have single (json : Json) : before ++ (own, json) :: after = before ++ [(own, json)] ++ after := by simp
    rw [single, single, get?_append, get?_append _ after]
    cases (Json.object after).get? key with
    | some found => exact .some .refl
    | none =>
      rw [Option.none_or, Option.none_or, get?_concat, get?_concat]
      split
      · exact .some inside
      · exact optionRel_refl (fun _ => .refl) _

end Json

end EventMapLint
