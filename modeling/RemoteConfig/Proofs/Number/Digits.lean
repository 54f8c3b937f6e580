/-!
Contract: the digits of numbers in base sixteen.

Owns:
- which characters they are;
- `toDigits_sixteen_injective`: a number is told by its digits.

Does not own: reading digits.
-/

namespace RemoteConfig.Number

theorem digitChar_inj {digit other : Nat} (below : digit < 16) (otherBelow : other < 16)
    (same : digit.digitChar = other.digitChar) : digit = other := by
  have table : ∀ first second : Fin 16,
      first.val.digitChar = second.val.digitChar → first = second := by decide
  exact congrArg Fin.val (table ⟨digit, below⟩ ⟨other, otherBelow⟩ same)

theorem toDigits_sixteen_injective : Function.Injective (Nat.toDigits 16) := by
  intro first
  -- Numbers of one digit are told by it, all others by the last digit and the number before it.
  induction first using Nat.strongRecOn with
  | _ first inductionHypothesis =>
      intro second same
      rw [Nat.toDigits_eq_if (by omega), Nat.toDigits_eq_if (n := second) (by omega)] at same
      by_cases small : first < 16 <;> by_cases otherSmall : second < 16
      · rw [if_pos small, if_pos otherSmall] at same
        exact digitChar_inj small otherSmall (List.head_eq_of_cons_eq same)
      · rw [if_pos small, if_neg otherSmall] at same
        have lengths := congrArg List.length same
        have positive := Nat.length_toDigits_pos (b := 16) (n := second / 16)
        simp only [List.length_append, List.length_singleton] at lengths
        omega
      · rw [if_neg small, if_pos otherSmall] at same
        have lengths := congrArg List.length same
        have positive := Nat.length_toDigits_pos (b := 16) (n := first / 16)
        simp only [List.length_append, List.length_singleton] at lengths
        omega
      · rw [if_neg small, if_neg otherSmall] at same
        have parts := List.append_inj' same rfl
        have quotients := inductionHypothesis (first / 16) (by omega) parts.1
        have remainders := digitChar_inj (Nat.mod_lt first (by omega))
          (Nat.mod_lt second (by omega)) (List.head_eq_of_cons_eq parts.2)
        omega

theorem exists_of_mem_toDigits_sixteen {character : Char} {value : Nat}
    (member : character ∈ Nat.toDigits 16 value) :
    ∃ digit : Fin 16, character = digit.val.digitChar := by
  induction value using Nat.strongRecOn with
  | _ value inductionHypothesis =>
      rw [Nat.toDigits_eq_if (by omega)] at member
      split at member
      · next small => exact ⟨⟨value, small⟩, List.mem_singleton.mp member⟩
      · next large =>
          rcases List.mem_append.mp member with before | last
          · exact inductionHypothesis (value / 16) (by omega) before
          · exact ⟨⟨value % 16, Nat.mod_lt value (by omega)⟩, List.mem_singleton.mp last⟩

end RemoteConfig.Number
