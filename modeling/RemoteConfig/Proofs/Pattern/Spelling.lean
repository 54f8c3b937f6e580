import RemoteConfig.Proofs.Pattern.Reach

/-!
Contract: the stretches of a text that start behind a given part of it.

Owns:
- what single characters, runs of characters and spelled words match of the rest of a text;
- the conditions on the place between the two parts;
- the size of a pattern whose parts follow each other.

Does not own: how a pattern is written.
-/

namespace RemoteConfig.Pattern

/-- Characters of a set, any number of them. -/
def run (set : CharSet) : Pattern :=
  .repeated (.one set) 0 none

/-- The characters of a word, one by one. -/
def spelled (word : List Char) : List Pattern :=
  word.map fun character => .one (.single character)

theorem size_sequenceOf_append (first second : List Pattern) :
    size (sequenceOf (first ++ second)) = size (sequenceOf first) + size (sequenceOf second) := by
  induction first with
  | nil => exact (Nat.zero_add _).symm
  | cons pattern rest inductionHypothesis =>
      have unfolded (patterns : List Pattern) :
          size (sequenceOf (pattern :: patterns)) = size pattern + size (sequenceOf patterns) :=
        rfl
      rw [List.cons_append, unfolded, unfolded, inductionHypothesis, Nat.add_assoc]

section Parts

variable {read rest : List Char} {stop : Nat}

theorem getElem?_behind : (read ++ rest).toArray[read.length]? = rest.head? := by
  rw [List.getElem?_toArray, List.getElem?_append_right (Nat.le_refl _), Nat.sub_self,
    List.head?_eq_getElem?]

theorem before?_behind : before? (read ++ rest).toArray read.length = read.getLast? := by
  rcases List.eq_nil_or_concat read with rfl | ⟨front, last, rfl⟩
  · rfl
  · rw [List.concat_eq_append, List.length_append, List.length_singleton, before?, List.getLast?_concat,
      List.getElem?_toArray, List.append_assoc, List.getElem?_append_right (Nat.le_refl _)]
    simp

theorem eq_zero_of_before? {text : Array Char} {position : Nat} (inside : position ≤ text.size)
    (isStart : Condition.textStart.holds (before? text position) text[position]? = true) :
    position = 0 := by
  cases position with
  | zero => rfl
  | succ before =>
      have there : before < text.size := inside
      simp [Condition.holds, before?, there] at isStart

theorem spans_condition (required : Condition) :
    Spans (read ++ rest).toArray (.condition required) read.length stop ↔
      required.holds read.getLast? rest.head? = true ∧ stop = read.length := by
  simp only [Spans, before?_behind, getElem?_behind]

theorem spans_one (set : CharSet) :
    Spans (read ++ rest).toArray (.one set) read.length stop ↔
      ∃ character behind, rest = character :: behind ∧ set.contains character = true ∧
        stop = (read ++ [character]).length := by
  simp only [Spans, getElem?_behind, List.head?_eq_some_iff, List.length_append,
    List.length_singleton]
  constructor
  · rintro ⟨character, ⟨behind, isRest⟩, contained, isStop⟩
    exact ⟨character, behind, isRest, contained, isStop⟩
  · rintro ⟨character, behind, isRest, contained, isStop⟩
    exact ⟨character, ⟨behind, isRest⟩, contained, isStop⟩

/-- A number of characters of a set. -/
theorem rounds_one (set : CharSet) (count : Nat) :
    Rounds (Spans (read ++ rest).toArray (.one set)) count read.length stop ↔
      ∃ taken behind, rest = taken ++ behind ∧ taken.length = count ∧
        (∀ character ∈ taken, set.contains character = true) ∧ stop = (read ++ taken).length := by
  induction count generalizing read rest with
  | zero =>
      constructor
      · rintro rfl
        exact ⟨[], rest, rfl, rfl, by simp, by simp⟩
      · rintro ⟨taken, behind, -, isEmpty, -, rfl⟩
        rw [List.length_eq_zero_iff.mp isEmpty, List.append_nil]
        rfl
  | succ count inductionHypothesis =>
      constructor
      · rintro ⟨middle, once, further⟩
        obtain ⟨character, behind, rfl, contained, rfl⟩ := (spans_one set).mp once
        rw [List.append_cons] at further
        obtain ⟨taken, others, rfl, length, all, rfl⟩ := inductionHypothesis.mp further
        exact ⟨character :: taken, others, rfl, by simp [length],
          List.forall_mem_cons.mpr ⟨contained, all⟩, by simp⟩
      · rintro ⟨taken, behind, rfl, length, all, rfl⟩
        cases taken with
        | nil => cases length
        | cons character taken =>
            obtain ⟨contained, others⟩ := List.forall_mem_cons.mp all
            refine ⟨(read ++ [character]).length,
              (spans_one set).mpr ⟨character, taken ++ behind, rfl, contained, rfl⟩, ?_⟩
            rw [List.cons_append, List.append_cons read]
            exact inductionHypothesis.mpr
              ⟨taken, behind, rfl, Nat.succ.inj length, others, by simp⟩

theorem spans_run (set : CharSet) :
    Spans (read ++ rest).toArray (run set) read.length stop ↔
      ∃ taken behind, rest = taken ++ behind ∧
        (∀ character ∈ taken, set.contains character = true) ∧ stop = (read ++ taken).length := by
  have unfolded : Spans (read ++ rest).toArray (run set) read.length stop ↔
      ∃ count, Allows 0 none count ∧
        Rounds (Spans (read ++ rest).toArray (.one set)) count read.length stop := Iff.rfl
  rw [unfolded]
  simp only [rounds_one]
  constructor
  · rintro ⟨count, _, taken, behind, isRest, _, all, isStop⟩
    exact ⟨taken, behind, isRest, all, isStop⟩
  · rintro ⟨taken, behind, isRest, all, isStop⟩
    exact ⟨taken.length, ⟨Nat.zero_le _, by simp⟩, taken, behind, isRest, rfl, all, isStop⟩

/-- A spelled word matches itself, and what follows it in a pattern matches behind it. -/
theorem spans_spelled (word : List Char) (others : List Pattern) :
    Spans (read ++ rest).toArray (sequenceOf (spelled word ++ others)) read.length stop ↔
      ∃ behind, rest = word ++ behind ∧
        Spans (read ++ word ++ behind).toArray (sequenceOf others) (read ++ word).length stop := by
  induction word generalizing read rest with
  | nil => simp [spelled]
  | cons character word inductionHypothesis =>
      have unfolded : sequenceOf (spelled (character :: word) ++ others) =
          .sequence (.one (.single character)) (sequenceOf (spelled word ++ others)) := rfl
      rw [unfolded, Spans]
      constructor
      · rintro ⟨middle, once, further⟩
        obtain ⟨same, behind, rfl, isSame, rfl⟩ := (spans_one _).mp once
        obtain rfl : same = character := eq_of_beq isSame
        rw [List.append_cons] at further
        obtain ⟨beyond, rfl, others⟩ := inductionHypothesis.mp further
        exact ⟨beyond, rfl, by simpa using others⟩
      · rintro ⟨behind, rfl, further⟩
        refine ⟨(read ++ [character]).length, (spans_one _).mpr
          ⟨character, word ++ behind, rfl, beq_self_eq_true character, rfl⟩, ?_⟩
        rw [List.cons_append, List.append_cons read]
        exact inductionHypothesis.mpr ⟨behind, rfl, by simpa using further⟩

end Parts

end RemoteConfig.Pattern
