import Mathlib.Data.List.Forall2

/-!
Contract: outcomes of computations of several steps.

Owns:
- when two steps after each other succeed, and when they fail;
- when a step succeeds whose result is changed, or of which only the result is known;
- readings of lists item by item.

Does not own: any particular step.
-/

namespace RemoteConfig

variable {ε α β : Type}

/-- A computation of two steps fails in the first or in the second. -/
theorem bind_eq_error {first : Except ε α} {second : α → Except ε β} {error : ε}
    (fails : first.bind second = .error error) :
    first = .error error ∨ ∃ value, first = .ok value ∧ second value = .error error := by
  cases first with
  | error _ => exact .inl (by simpa [Except.bind] using fails)
  | ok value => exact .inr ⟨value, rfl, fails⟩

/-- A computation of two steps succeeds when both do. -/
theorem bind_eq_ok {first : Except ε α} {second : α → Except ε β} {result : β}
    (succeeds : first.bind second = .ok result) :
    ∃ value, first = .ok value ∧ second value = .ok result := by
  cases first with
  | error _ => cases succeeds
  | ok value => exact ⟨value, rfl, succeeds⟩

/-- A result that was changed afterwards was there before. -/
theorem map_eq_ok {first : Except ε α} {change : α → β} {result : β}
    (succeeds : first.map change = .ok result) :
    ∃ value, first = .ok value ∧ change value = result := by
  cases first with
  | error _ => cases succeeds
  | ok value => exact ⟨value, rfl, Except.ok.inj succeeds⟩

theorem map_eq_error_iff {first : Except ε α} {change : α → β} {error : ε} :
    first.map change = .error error ↔ first = .error error := by
  cases first <;> simp [Except.map]

/-- A computation that has a result succeeds with it. -/
theorem eq_ok_of_toOption {outcome : Except ε α} {value : α}
    (reached : outcome.toOption = some value) : outcome = .ok value := by
  cases outcome with
  | error fault => cases reached
  | ok other =>
      cases reached
      rfl

/-- A list is read when each of its items is. -/
theorem mapM_eq_some_iff {read : α → Option β} {items : List α}
    {values : List β} :
    items.mapM read = some values ↔
      List.Forall₂ (fun item value => read item = some value) items values := by
  induction items generalizing values with
  | nil =>
      rw [List.forall₂_nil_left_iff, List.mapM_nil]
      exact ⟨fun same => (Option.some.inj same).symm, fun isEmpty => isEmpty ▸ rfl⟩
  | cons item rest inductionHypothesis =>
      simp only [List.mapM_cons, Option.bind_eq_bind, Option.bind_eq_some_iff, Option.pure_def,
        Option.some.injEq, List.forall₂_cons_left_iff, inductionHypothesis]
      constructor
      · intro reads
        obtain ⟨value, isRead, others, othersRead, same⟩ := reads
        exact ⟨value, others, isRead, othersRead, same.symm⟩
      · intro reads
        obtain ⟨value, others, isRead, othersRead, same⟩ := reads
        exact ⟨value, isRead, others, othersRead, same.symm⟩

theorem mem_of_mapM {read : α → Option β} {items : List α} {values : List β}
    (reads : items.mapM read = some values) {value : β} (member : value ∈ values) :
    ∃ item ∈ items, read item = some value := by
  obtain ⟨index, inside, rfl⟩ := List.getElem_of_mem member
  have items := mapM_eq_some_iff.mp reads
  have before := items.length_eq ▸ inside
  exact ⟨_, List.getElem_mem before, items.get before inside⟩

end RemoteConfig
