import Mathlib.Data.List.Forall2

/-! Computations that may fail: what has succeeded when the whole succeeds. -/

namespace EventMapLint

theorem exists_of_bind_eq_ok {x : Except ε α} {f : α → Except ε β} (made : x >>= f = .ok result) :
    ∃ a, x = .ok a ∧ f a = .ok result := by
  cases x with
  | error fault => cases made
  | ok a => exact ⟨a, rfl, made⟩

section

variable {f : α → Option β} {items : List α}

/-- All items have results exactly if each has one. -/
theorem mapM_eq_some_iff :
    items.mapM f = some results ↔ List.Forall₂ (fun item result => f item = some result) items results := by
  induction items generalizing results with
  | nil =>
    rw [List.mapM_nil, List.forall₂_nil_left_iff]
    exact ⟨fun same => (Option.some.inj same).symm, fun none => congrArg some none.symm⟩
  | cons item items ih =>
    simp only [List.mapM_cons, List.forall₂_cons_left_iff, Option.bind_eq_bind, Option.bind_eq_some_iff,
      Option.pure_def, Option.some.injEq, ih]
    exact ⟨fun ⟨result, first, others, rest, same⟩ => ⟨result, others, first, rest, same.symm⟩,
      fun ⟨result, others, first, rest, same⟩ => ⟨result, first, others, rest, same.symm⟩⟩

theorem exists_mapM (each : ∀ item ∈ items, ∃ result, f item = some result) :
    ∃ results, items.mapM f = some results := by
  induction items with
  | nil => exact ⟨[], rfl⟩
  | cons item items ih =>
    obtain ⟨result, first⟩ := each item List.mem_cons_self
    obtain ⟨results, rest⟩ := ih fun other member => each other (List.mem_cons_of_mem item member)
    exact ⟨result :: results, by rw [List.mapM_cons, first, rest]; rfl⟩

end

theorem exists_of_mem_forall₂ (pairs : List.Forall₂ R items results) (member : result ∈ results) :
    ∃ item ∈ items, R item result := by
  rw [← List.map_snd_zip (Nat.le_of_eq pairs.length_eq.symm)] at member
  obtain ⟨⟨item, _⟩, paired, rfl⟩ := List.mem_map.mp member
  exact ⟨item, (List.of_mem_zip paired).1, List.forall₂_zip pairs paired⟩

end EventMapLint
