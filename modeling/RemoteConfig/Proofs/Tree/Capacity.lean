import RemoteConfig.Proofs.Tree.Writes

/-!
Contract: which paths lists of a bounded length have room for.

Owns:
- paths whose positions stand below a capacity, for which there is room in every tree;
- settings, one after the other, have room exactly if each of their paths has.

Does not own: positions that are counted from the end of a list.
-/

namespace RemoteConfig.Tree

/-- A position of a step stands below a capacity. -/
def Step.FitsIn (capacity : Nat) : Step → Prop
  | .child _ => True
  | .position index => index.toNat < capacity

instance (capacity : Nat) : (step : Step) → Decidable (step.FitsIn capacity)
  | .child _ => inferInstanceAs (Decidable True)
  | .position index => inferInstanceAs (Decidable (index.toNat < capacity))

/-- Every position of a path stands below a capacity. -/
def Path.FitsIn (capacity : Nat) (path : Path) : Prop :=
  ∀ step ∈ path.steps, step.FitsIn capacity

instance (capacity : Nat) (path : Path) : Decidable (path.FitsIn capacity) :=
  inferInstanceAs (Decidable (∀ step ∈ path.steps, step.FitsIn capacity))

/-- Whether there is room for positions counted from the start does not depend on the tree. -/
theorem hasRoom_iff_fitsIn {capacity : Nat} {steps : List Step}
    (plain : ∀ step ∈ steps, step.IsPlain) (target : Tree) :
    hasRoom capacity steps target = true ↔ ∀ step ∈ steps, step.FitsIn capacity := by
  induction steps generalizing target with
  | nil => simp [hasRoom]
  | cons step rest inductionHypothesis =>
      obtain ⟨isPlain, restPlain⟩ := List.forall_mem_cons.mp plain
      rw [List.forall_mem_cons]
      cases step with
      | child name => simp only [hasRoom, inductionHypothesis restPlain, Step.FitsIn, true_and]
      | position index =>
          have fromStart : 0 ≤ index := isPlain
          simp only [hasRoom, hasRoomAt, if_pos fromStart, Bool.and_eq_true, decide_eq_true_eq,
            inductionHypothesis restPlain, Step.FitsIn]

theorem hasRoom_descent_iff {capacity : Nat} {path : Path}
    (plain : ∀ step ∈ path.descent, step.IsPlain) (tree : Tree) :
    hasRoom capacity path.descent tree = true ↔ path.FitsIn capacity := by
  rw [hasRoom_iff_fitsIn plain, Path.descent, List.forall_mem_cons, Path.FitsIn]
  exact and_iff_right trivial

/-- Settings can be made one after the other if there is room for each of their paths. -/
theorem isSome_foldlM_setWithin?_iff {capacity : Nat} {settings : List (Path × Json)}
    (plain : ∀ setting ∈ settings, ∀ step ∈ setting.1.descent, step.IsPlain) (tree : Tree) :
    (settings.foldlM (fun (tree : Tree) setting =>
        tree.setWithin? capacity setting.1 (ofJson setting.2)) tree).isSome = true ↔
      ∀ setting ∈ settings, setting.1.FitsIn capacity := by
  induction settings generalizing tree with
  | nil => simp
  | cons setting rest inductionHypothesis =>
      obtain ⟨settingPlain, restPlain⟩ := List.forall_mem_cons.mp plain
      have room_iff : hasRoom capacity setting.1.descent tree = true ↔ setting.1.FitsIn capacity :=
        hasRoom_descent_iff settingPlain tree
      rw [List.foldlM_cons, List.forall_mem_cons]
      by_cases fits : setting.1.FitsIn capacity
      · have isSet : tree.setWithin? capacity setting.1 (ofJson setting.2) =
            some (tree.set setting.1 (ofJson setting.2)) := if_pos (room_iff.mpr fits)
        rw [isSet]
        exact (inductionHypothesis restPlain _).trans (and_iff_right fits).symm
      · have notSet : tree.setWithin? capacity setting.1 (ofJson setting.2) = Option.none :=
          if_neg fun room => fits (room_iff.mp room)
        rw [notSet]
        exact iff_of_false (by simp) fun all => fits all.1

end RemoteConfig.Tree
