/-!
Contract: the order in which headers are sorted.

Owns:
- headers by name, and under one name by value;
- that order is total: two headers that stand before each other are equal, so that every list of
  headers has exactly one sorted permutation.

Does not own: where sorted headers are used.
-/

namespace RemoteConfig.Header

/-- A header stands before another by name, and under one name by value. -/
def IsBefore (first second : String × String) : Prop :=
  first.1 < second.1 ∨ (first.1 = second.1 ∧ first.2 ≤ second.2)

variable {first second third : String × String}

theorem IsBefore.trans (before : IsBefore first second) (behind : IsBefore second third) :
    IsBefore first third := by
  rcases before with less | ⟨same, value⟩ <;> rcases behind with later | ⟨alike, other⟩
  · exact .inl (String.lt_trans less later)
  · exact .inl (alike ▸ less)
  · exact .inl (same ▸ later)
  · exact .inr ⟨same.trans alike, String.le_trans value other⟩

theorem IsBefore.total (first second : String × String) :
    IsBefore first second ∨ IsBefore second first := by
  by_cases less : first.1 < second.1
  · exact .inl (.inl less)
  · by_cases more : second.1 < first.1
    · exact .inr (.inl more)
    · have same : first.1 = second.1 :=
        String.le_antisymm (String.not_lt.mp more) (String.not_lt.mp less)
      exact (String.le_total first.2 second.2).imp (fun below => .inr ⟨same, below⟩)
        fun above => .inr ⟨same.symm, above⟩

theorem IsBefore.antisymm (before : IsBefore first second) (behind : IsBefore second first) :
    first = second := by
  rcases before with less | ⟨same, value⟩ <;> rcases behind with later | ⟨alike, other⟩
  · exact absurd later (String.lt_asymm less)
  · exact absurd less (alike ▸ String.lt_irrefl _)
  · exact absurd later (same ▸ String.lt_irrefl _)
  · exact Prod.ext same (String.le_antisymm value other)

/-- Headers have one sorted permutation. -/
theorem eq_of_perm_of_pairwise {headers others : List (String × String)}
    (sorted : headers.Pairwise IsBefore) (othersSorted : others.Pairwise IsBefore)
    (permuted : headers.Perm others) : headers = others :=
  permuted.eq_of_pairwise (fun _ _ _ _ => IsBefore.antisymm) sorted othersSorted

end RemoteConfig.Header
