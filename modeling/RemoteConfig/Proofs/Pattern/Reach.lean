import Mathlib.Tactic.Set
import RemoteConfig.Pattern.Basic

/-!
Contract: what a pattern matches, apart from how the matches are found.

Owns:
- the stretches of a text that a pattern spans, by recursion on the pattern;
- chains of rounds, and that more rounds than there are positions make no difference;
- `mem_reach`: the positions that are reached are the ends of the stretches that start at the given
  ones.

Does not own: which patterns are read from text.
-/

namespace RemoteConfig.Pattern

/-! ### Stretches of a text -/

/-- A number of rounds, each from where the last one stopped. -/
def Rounds (round : Nat → Nat → Prop) : Nat → Nat → Nat → Prop
  | 0, start, stop => stop = start
  | count + 1, start, stop => ∃ middle, round start middle ∧ Rounds round count middle stop

/-- A count of rounds that a repetition allows; no bound below the least one counts. -/
def Allows (least : Nat) (greatest : Option Nat) (count : Nat) : Prop :=
  least ≤ count ∧ ∀ most ∈ greatest, count ≤ max least most

/-- The number of rounds behind the least ones after which a repetition finds nothing more. -/
def furthest (least : Nat) (greatest : Option Nat) (size : Nat) : Nat :=
  match greatest with
  | some most => min (most - least) (size + 1)
  | none => size + 1

/-- The pattern matches the text from one position to another. -/
def Spans (text : Array Char) : Pattern → Nat → Nat → Prop
  | empty, start, stop => stop = start
  | one set, start, stop =>
    ∃ character, text[start]? = some character ∧ set.contains character = true ∧ stop = start + 1
  | condition required, start, stop =>
    required.holds (before? text start) text[start]? = true ∧ stop = start
  | sequence first second, start, stop =>
    ∃ middle, Spans text first start middle ∧ Spans text second middle stop
  | either left right, start, stop => Spans text left start stop ∨ Spans text right start stop
  | repeated body least greatest, start, stop =>
    ∃ count, Allows least greatest count ∧ Rounds (Spans text body) count start stop

/-! ### Chains of rounds -/

section Rounds

variable {round : Nat → Nat → Prop}

theorem rounds_add {first second start stop : Nat} :
    Rounds round (first + second) start stop ↔
      ∃ middle, Rounds round first start middle ∧ Rounds round second middle stop := by
  induction first generalizing start with
  | zero => simp [Rounds]
  | succ first inductionHypothesis =>
      rw [Nat.succ_add]
      simp only [Rounds, inductionHypothesis]
      constructor
      · rintro ⟨next, once, middle, before, behind⟩
        exact ⟨middle, ⟨next, once, before⟩, behind⟩
      · rintro ⟨middle, ⟨next, once, before⟩, behind⟩
        exact ⟨next, once, middle, before, behind⟩

/-- Rounds that never go back: a chain of more rounds than it has steps contains an idle one, which
can be left out or done twice. -/
theorem rounds_succ_iff (forward : ∀ start stop, round start stop → start ≤ stop)
    {count start stop : Nat} (idle : stop < start + count) :
    Rounds round (count + 1) start stop ↔ Rounds round count start stop := by
  induction count generalizing start with
  | zero =>
      constructor
      · rintro ⟨middle, once, rfl⟩
        have ahead := forward start stop once
        omega
      · rintro rfl
        omega
  | succ count inductionHypothesis =>
      constructor
      · rintro ⟨middle, once, behind⟩
        rcases Nat.eq_or_lt_of_le (forward start middle once) with rfl | ahead
        · exact behind
        · exact ⟨middle, once, (inductionHypothesis (by omega)).mp behind⟩
      · rintro ⟨middle, once, behind⟩
        rcases Nat.eq_or_lt_of_le (forward start middle once) with rfl | ahead
        · exact ⟨start, once, start, once, behind⟩
        · exact ⟨middle, once, (inductionHypothesis (by omega)).mpr behind⟩

/-- Above the number of steps all counts of rounds are alike. -/
theorem rounds_iff_of_lt (forward : ∀ start stop, round start stop → start ≤ stop)
    {count other start stop : Nat} (idle : stop < start + count) (more : count ≤ other) :
    Rounds round other start stop ↔ Rounds round count start stop := by
  obtain ⟨further, rfl⟩ := Nat.exists_eq_add_of_le more
  clear more
  induction further with
  | zero => exact Iff.rfl
  | succ further inductionHypothesis =>
      rw [← Nat.add_assoc, rounds_succ_iff forward (by omega), inductionHypothesis]

theorem Rounds.preserves {holds : Nat → Prop}
    (preserved : ∀ start stop, round start stop → holds start → holds stop) {count start stop : Nat}
    (rounds : Rounds round count start stop) (initially : holds start) : holds stop := by
  induction count generalizing start with
  | zero =>
      obtain rfl := rounds
      exact initially
  | succ count inductionHypothesis =>
      obtain ⟨middle, once, behind⟩ := rounds
      exact inductionHypothesis behind (preserved start middle once initially)

theorem Rounds.forward (forward : ∀ start stop, round start stop → start ≤ stop)
    {count start stop : Nat} (rounds : Rounds round count start stop) : start ≤ stop :=
  rounds.preserves (fun middle stop once ahead => Nat.le_trans ahead (forward middle stop once))
    (Nat.le_refl start)

theorem Rounds.inside {size : Nat} (inside : ∀ start stop, round start stop → stop ≤ max start size)
    {count start stop : Nat} (rounds : Rounds round count start stop) : stop ≤ max start size := by
  have bounded (middle stop : Nat) (once : round middle stop) (bound : middle ≤ max start size) :
      stop ≤ max start size := by
    have further := inside middle stop once
    omega
  exact rounds.preserves bounded (Nat.le_max_left start size)

end Rounds

/-- A stretch does not go back. -/
theorem Spans.forward {text : Array Char} (pattern : Pattern) :
    ∀ start stop, Spans text pattern start stop → start ≤ stop := by
  induction pattern with
  | empty =>
      rintro start stop rfl
      exact Nat.le_refl _
  | one set =>
      rintro start stop ⟨_, _, _, rfl⟩
      exact Nat.le_succ start
  | condition required =>
      rintro start stop ⟨_, rfl⟩
      exact Nat.le_refl _
  | sequence first second firstForward secondForward =>
      rintro start stop ⟨middle, before, behind⟩
      exact Nat.le_trans (firstForward start middle before) (secondForward middle stop behind)
  | either left right leftForward rightForward =>
      rintro start stop (isLeft | isRight)
      · exact leftForward start stop isLeft
      · exact rightForward start stop isRight
  | repeated body least greatest bodyForward =>
      rintro start stop ⟨count, _, rounds⟩
      exact rounds.forward bodyForward

/-- A stretch does not leave the text. -/
theorem Spans.inside {text : Array Char} (pattern : Pattern) :
    ∀ start stop, Spans text pattern start stop → stop ≤ max start text.size := by
  induction pattern with
  | empty =>
      rintro start stop rfl
      exact Nat.le_max_left _ _
  | one set =>
      rintro start stop ⟨_, there, _, rfl⟩
      obtain ⟨inside, _⟩ := Array.getElem?_eq_some_iff.mp there
      omega
  | condition required =>
      rintro start stop ⟨_, rfl⟩
      exact Nat.le_max_left _ _
  | sequence first second firstInside secondInside =>
      rintro start stop ⟨middle, before, behind⟩
      have firstBound := firstInside start middle before
      have secondBound := secondInside middle stop behind
      omega
  | either left right leftInside rightInside =>
      rintro start stop (isLeft | isRight)
      · exact leftInside start stop isLeft
      · exact rightInside start stop isRight
  | repeated body least greatest bodyInside =>
      rintro start stop ⟨count, _, rounds⟩
      exact rounds.inside bodyInside

/-! ### How the positions are found -/

theorem mem_merge {known found : List Nat} {position : Nat} :
    position ∈ merge known found ↔ position ∈ known ∨ position ∈ found := by
  unfold merge
  induction found generalizing known with
  | nil => simp
  | cons first rest inductionHypothesis =>
      rw [List.foldl_cons, inductionHypothesis, List.mem_cons]
      by_cases isKnown : known.contains first = true
      · rw [if_pos isKnown]
        have member : first ∈ known := List.contains_iff_mem.mp isKnown
        constructor
        · exact Or.imp_right Or.inr
        · rintro (known | rfl | found)
          · exact .inl known
          · exact .inl member
          · exact .inr found
      · rw [if_neg isKnown, List.mem_append, List.mem_singleton, or_assoc]

section Steps

variable {step : List Nat → List Nat} {round : Nat → Nat → Prop}
  (isStep : ∀ starts stop, stop ∈ step starts ↔ ∃ start ∈ starts, round start stop)

include isStep

theorem mem_iterate (count : Nat) (starts : List Nat) (stop : Nat) :
    stop ∈ iterate step count starts ↔ ∃ start ∈ starts, Rounds round count start stop := by
  induction count generalizing starts with
  | zero => simp [iterate, Rounds]
  | succ count inductionHypothesis =>
      unfold iterate
      split
      · rename_i none
        simp [List.isEmpty_iff.mp none]
      · rw [inductionHypothesis]
        simp only [isStep, Rounds]
        constructor
        · rintro ⟨middle, ⟨start, isStart, once⟩, behind⟩
          exact ⟨start, isStart, middle, once, behind⟩
        · rintro ⟨start, isStart, middle, once, behind⟩
          exact ⟨middle, ⟨start, isStart, once⟩, behind⟩

/-- All that was reached before the frontier has its successors among what is reached, so the rounds
from the frontier find whatever a chain of as many rounds finds. -/
theorem mem_closure_of_frontier (count : Nat) {reached frontier : List Nat}
    (isReached : frontier ⊆ reached)
    (done : ∀ start ∈ reached, start ∉ frontier → ∀ stop, round start stop → stop ∈ reached)
    (stop : Nat) :
    stop ∈ closure step count reached frontier ↔
      ∃ start ∈ reached, ∃ fewer ≤ count, Rounds round fewer start stop := by
  induction count generalizing reached frontier with
  | zero =>
      unfold closure
      constructor
      · intro member
        exact ⟨stop, member, 0, Nat.le_refl _, rfl⟩
      · rintro ⟨start, member, fewer, isZero, rounds⟩
        obtain rfl := Nat.le_zero.mp isZero
        obtain rfl := rounds
        exact member
  | succ count inductionHypothesis =>
      unfold closure
      set fresh := (merge [] (step frontier)).filter fun position => !reached.contains position
        with isFresh
      have mem_fresh (position : Nat) : position ∈ fresh ↔
          (∃ start ∈ frontier, round start position) ∧ position ∉ reached := by
        rw [isFresh, List.mem_filter, mem_merge, isStep]
        simp
      -- One round from anywhere stays in what is reached then.
      have next (start : Nat) (member : start ∈ reached) (stop : Nat) (once : round start stop) :
          stop ∈ reached ∨ stop ∈ fresh := by
        by_cases isFrontier : start ∈ frontier
        · by_cases known : stop ∈ reached
          · exact .inl known
          · exact .inr ((mem_fresh stop).mpr ⟨⟨start, isFrontier, once⟩, known⟩)
        · exact .inl (done start member isFrontier stop once)
      dsimp only
      split
      · rename_i nothing
        have noneFresh : fresh = [] := List.isEmpty_iff.mp nothing
        constructor
        · intro member
          exact ⟨stop, member, 0, Nat.zero_le _, rfl⟩
        · rintro ⟨start, member, fewer, _, rounds⟩
          refine rounds.preserves (fun start stop once member => ?_) member
          simpa [noneFresh] using next start member stop once
      · rw [inductionHypothesis (List.subset_append_right reached fresh)]
        · constructor
          · rintro ⟨start, member, fewer, isFewer, rounds⟩
            rcases List.mem_append.mp member with known | found
            · exact ⟨start, known, fewer, Nat.le_succ_of_le isFewer, rounds⟩
            · obtain ⟨⟨first, isFrontier, once⟩, _⟩ := (mem_fresh start).mp found
              exact ⟨first, isReached isFrontier, fewer + 1, Nat.succ_le_succ isFewer, start, once,
                rounds⟩
          · rintro ⟨start, member, fewer, isFewer, rounds⟩
            cases fewer with
            | zero => exact ⟨start, List.mem_append_left _ member, 0, Nat.zero_le _, rounds⟩
            | succ fewer =>
                obtain ⟨middle, once, behind⟩ := rounds
                exact ⟨middle, List.mem_append.mpr (next start member middle once), fewer,
                  Nat.le_of_succ_le_succ isFewer, behind⟩
        · intro start member notFresh stop once
          have known : start ∈ reached := (List.mem_append.mp member).resolve_right notFresh
          exact List.mem_append.mpr (next start known stop once)

theorem mem_closure (count : Nat) (starts : List Nat) (stop : Nat) :
    stop ∈ closure step count starts starts ↔
      ∃ start ∈ starts, ∃ fewer ≤ count, Rounds round fewer start stop :=
  mem_closure_of_frontier isStep count (fun _ member => member)
    (fun _ member outside => absurd member outside) stop

end Steps

/-- The least number of rounds of a repetition and then the further ones, each cut off at the number
of positions, are the counts that the repetition allows. -/
theorem exists_rounds_iff {round : Nat → Nat → Prop} {size : Nat}
    (forward : ∀ start stop, round start stop → start ≤ stop)
    (inside : ∀ start stop, round start stop → stop ≤ max start size)
    (least : Nat) (greatest : Option Nat) (start stop : Nat) :
    (∃ count, Allows least greatest count ∧ Rounds round count start stop) ↔
      ∃ middle, Rounds round (min least (size + 1)) start middle ∧
        ∃ further ≤ furthest least greatest size, Rounds round further middle stop := by
  constructor
  · rintro ⟨count, ⟨atLeast, atMost⟩, rounds⟩
    obtain ⟨further, rfl⟩ := Nat.exists_eq_add_of_le atLeast
    have bounded : further ≤ furthest least greatest size ∨
        size + 1 ≤ further ∧ furthest least greatest size = size + 1 := by
      cases greatest with
      | none => exact (Nat.le_total further (size + 1)).imp_right fun many => ⟨many, rfl⟩
      | some most =>
          have bound := atMost most rfl
          simp only [furthest]
          omega
    rcases Nat.le_total least (size + 1) with isShort | isLong
    · -- The least rounds are all made; the further ones are cut off where all of them are alike.
      obtain ⟨middle, before, behind⟩ := rounds_add.mp rounds
      rw [Nat.min_eq_left isShort]
      refine ⟨middle, before, ?_⟩
      rcases bounded with few | ⟨many, enough⟩
      · exact ⟨further, few, behind⟩
      · have near := behind.inside inside
        have ahead := behind.forward forward
        rw [enough]
        exact ⟨size + 1, Nat.le_refl _, (rounds_iff_of_lt forward (by omega) many).mp behind⟩
    · -- The least rounds are cut off, and no further one is needed behind them.
      have near := rounds.inside inside
      have ahead := rounds.forward forward
      rw [Nat.min_eq_right isLong]
      exact ⟨stop, (rounds_iff_of_lt forward (by omega) (by omega)).mp rounds, 0, Nat.zero_le _, rfl⟩
  · rintro ⟨middle, before, further, few, behind⟩
    have rounds := rounds_add.mpr ⟨middle, before, behind⟩
    have near := rounds.inside inside
    have ahead := rounds.forward forward
    refine ⟨least + further, ⟨Nat.le_add_right _ _, ?_⟩, ?_⟩
    · rintro most isMost
      rw [Option.mem_def.mp isMost] at few
      simp only [furthest] at few
      omega
    · rcases Nat.le_total least (size + 1) with isShort | isLong
      · rwa [Nat.min_eq_left isShort] at rounds
      · rw [Nat.min_eq_right isLong] at rounds
        exact (rounds_iff_of_lt forward (by omega) (by omega)).mpr rounds

/-! ### What is reached -/

/-- The positions that a pattern reaches are where its stretches from the given positions stop. -/
theorem mem_reach {text : Array Char} (pattern : Pattern) (starts : List Nat) (stop : Nat) :
    stop ∈ reach text pattern starts ↔ ∃ start ∈ starts, Spans text pattern start stop := by
  induction pattern generalizing starts stop with
  | empty =>
      constructor
      · intro member
        exact ⟨stop, member, rfl⟩
      · rintro ⟨start, member, rfl⟩
        exact member
  | one set =>
      simp only [reach, Spans, List.mem_filterMap]
      refine exists_congr fun start => and_congr_right fun _ => ?_
      cases text[start]? with
      | none => simp
      | some character =>
          simp only [Option.ite_none_right_eq_some, Option.some.injEq, exists_eq_left']
          rw [eq_comm (a := stop)]
  | condition required =>
      simp only [reach, Spans, List.mem_filter]
      constructor
      · rintro ⟨member, holds⟩
        exact ⟨stop, member, holds, rfl⟩
      · rintro ⟨start, member, holds, rfl⟩
        exact ⟨member, holds⟩
  | sequence first second firstReach secondReach =>
      simp only [reach, Spans, firstReach, secondReach]
      constructor
      · rintro ⟨middle, ⟨start, member, before⟩, behind⟩
        exact ⟨start, member, middle, before, behind⟩
      · rintro ⟨start, member, middle, before, behind⟩
        exact ⟨middle, ⟨start, member, before⟩, behind⟩
  | either left right leftReach rightReach =>
      simp only [reach, Spans, mem_merge, leftReach, rightReach]
      constructor
      · rintro (⟨start, member, spans⟩ | ⟨start, member, spans⟩)
        · exact ⟨start, member, .inl spans⟩
        · exact ⟨start, member, .inr spans⟩
      · rintro ⟨start, member, spans | spans⟩
        · exact .inl ⟨start, member, spans⟩
        · exact .inr ⟨start, member, spans⟩
  | repeated body least greatest bodyReach =>
      have unfolded : reach text (.repeated body least greatest) starts =
          closure (reach text body) (furthest least greatest text.size)
            (iterate (reach text body) (min least (text.size + 1)) starts)
            (iterate (reach text body) (min least (text.size + 1)) starts) := by
        cases greatest <;> rfl
      rw [unfolded, mem_closure bodyReach]
      simp only [mem_iterate bodyReach, Spans,
        exists_rounds_iff (Spans.forward body) (Spans.inside body)]
      constructor
      · rintro ⟨middle, ⟨start, member, before⟩, behind⟩
        exact ⟨start, member, middle, before, behind⟩
      · rintro ⟨start, member, middle, before, behind⟩
        exact ⟨middle, ⟨start, member, before⟩, behind⟩

/-- A pattern occurs in a text when one of its stretches starts at a position of the text. -/
theorem occursIn_iff (pattern : Pattern) (text : String) :
    pattern.occursIn text = true ↔
      ∃ start stop, start ≤ text.toList.length ∧ Spans text.toList.toArray pattern start stop := by
  unfold occursIn
  rw [Bool.not_eq_true', List.isEmpty_eq_false_iff_exists_mem]
  simp only [mem_reach, List.mem_range, Nat.lt_succ_iff, List.size_toArray]
  constructor
  · rintro ⟨stop, start, inside, spans⟩
    exact ⟨start, stop, inside, spans⟩
  · rintro ⟨start, stop, inside, spans⟩
    exact ⟨stop, start, inside, spans⟩

end RemoteConfig.Pattern
