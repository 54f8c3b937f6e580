import RemoteConfig.Proofs.Number.Digits
import RemoteConfig.Text.Diagnostic

/-!
Contract: what can be read back from a diagnostic text.

Owns:
- forms that end where they can be seen to end, whatever stands behind them;
- `quoted_isPrefixFree`: a text in quotes is such a form, for all its escapes;
- the text of a record, cut at one of its fields.

Does not own: which values are shown, and under which names.
-/

namespace RemoteConfig

/-- Whatever stands behind the form of a value, the value and what stands behind it can be told. -/
def IsPrefixFree {α : Type} (form : α → List Char) : Prop :=
  ∀ (first second : α) (behind rest : List Char),
    form first ++ behind = form second ++ rest → first = second ∧ behind = rest

namespace IsPrefixFree

variable {α β : Type} {form : α → List Char} {next : β → List Char}

theorem injective (free : IsPrefixFree form) : Function.Injective form := by
  intro first second same
  exact (free first second [] [] (by rw [same])).1

/-- What is always the same may stand before and behind. -/
theorem between (free : IsPrefixFree form) (front back : List Char) :
    IsPrefixFree fun value => front ++ (form value ++ back) := by
  intro first second behind rest same
  simp only [List.append_assoc, List.append_cancel_left_eq] at same
  have parts := free first second _ _ same
  exact ⟨parts.1, List.append_cancel_left parts.2⟩

/-- Two forms behind each other show a pair. -/
theorem pair (free : IsPrefixFree form) (nextFree : IsPrefixFree next) :
    IsPrefixFree fun both : α × β => form both.1 ++ next both.2 := by
  intro first second behind rest same
  simp only [List.append_assoc] at same
  have parts := free first.1 second.1 _ _ same
  have nextParts := nextFree first.2 second.2 _ _ parts.2
  exact ⟨Prod.ext parts.1 nextParts.1, nextParts.2⟩

/-- A form without a certain mark ends where the mark stands. -/
theorem upTo {mark : Char} (injective : Function.Injective form)
    (unmarked : ∀ value, mark ∉ form value) : IsPrefixFree fun value => form value ++ [mark] := by
  intro first second behind rest same
  simp only [List.append_assoc, List.singleton_append] at same
  -- Neither form goes on behind the other, for the mark would be in it.
  have ends : ∀ (value other : α) (between before after : List Char),
      form other = form value ++ between → mark :: before = between ++ mark :: after →
        value = other ∧ before = after := by
    intro value other between before after longer tail
    cases between with
    | nil =>
        rw [List.append_nil] at longer
        exact ⟨injective longer.symm, List.tail_eq_of_cons_eq tail⟩
    | cons character characters =>
        have isMark : mark = character := List.head_eq_of_cons_eq tail
        exact absurd (by simp [longer, isMark]) (unmarked other)
  rcases List.append_eq_append_iff.mp same with ⟨between, longer, tail⟩ | ⟨between, longer, tail⟩
  · exact ends first second between behind rest longer tail
  · have parts := ends second first between rest behind longer tail
    exact ⟨parts.1.symm, parts.2.symm⟩

/-- Values behind each other can be told up to a mark that none of them begins with. -/
theorem marked {mark : Char} (free : IsPrefixFree form)
    (unmarked : ∀ value behind rest, form value ++ behind ≠ mark :: rest) :
    IsPrefixFree fun values : List α => values.flatMap form ++ [mark] := by
  intro first
  induction first with
  | nil =>
      intro second behind rest same
      cases second with
      | nil => exact ⟨rfl, List.append_cancel_left same⟩
      | cons value values =>
          simp only [List.flatMap_nil, List.flatMap_cons, List.append_assoc] at same
          exact absurd same.symm (unmarked value _ _)
  | cons value values inductionHypothesis =>
      intro second behind rest same
      cases second with
      | nil =>
          simp only [List.flatMap_nil, List.flatMap_cons, List.append_assoc] at same
          exact absurd same (unmarked value _ _)
      | cons other others =>
          simp only [List.flatMap_cons, List.append_assoc] at same
          have head := free value other _ _ same
          have tail := inductionHypothesis others behind rest (by simpa using head.2)
          exact ⟨by rw [head.1, tail.1], tail.2⟩

end IsPrefixFree

/-! ### Escapes -/

namespace Diagnostic

theorem codeEscape_isPrefixFree : IsPrefixFree codeEscape := by
  have noDigit : ∀ digit : Fin 16, digit.val.digitChar ≠ '\x7d' := by decide
  have unmarked : ∀ value : Nat, '\x7d' ∉ Nat.toDigits 16 value := by
    intro value member
    obtain ⟨digit, isDigit⟩ := Number.exists_of_mem_toDigits_sixteen member
    exact noDigit digit isDigit.symm
  have digits := (IsPrefixFree.upTo Number.toDigits_sixteen_injective unmarked).between
    ['\\', 'u', '\x7b'] []
  intro first second behind rest same
  have parts := digits first.toNat second.toNat behind rest (by simpa [codeEscape] using same)
  exact ⟨Char.toNat_inj.mp parts.1, parts.2⟩

/-- The characters with an escape of their own, each with the mark that stands for it. -/
def shortEscapes : List (Char × Char) :=
  [('"', '"'), ('\\', '\\'), ('\n', 'n'), ('\r', 'r'), ('\t', 't'), ('\x00', '0')]

/-- A character has a short escape, is shown by its number, or stands for itself. -/
theorem escaped_cases (character : Char) :
    (∃ mark, (character, mark) ∈ shortEscapes ∧ escaped character = ['\\', mark]) ∨
      escaped character = codeEscape character ∨
      escaped character = [character] ∧ character ≠ '\\' ∧ character ≠ '"' := by
  by_cases short : character ∈ shortEscapes.map Prod.fst
  · obtain ⟨⟨_, mark⟩, entry, rfl⟩ := List.mem_map.mp short
    refine .inl ⟨mark, entry, ?_⟩
    simp only [shortEscapes, List.mem_cons, Prod.mk.injEq, List.not_mem_nil, or_false] at entry
    rcases entry with ⟨rfl, rfl⟩ | ⟨rfl, rfl⟩ | ⟨rfl, rfl⟩ | ⟨rfl, rfl⟩ | ⟨rfl, rfl⟩ | ⟨rfl, rfl⟩
    all_goals rfl
  · simp only [shortEscapes, List.map_cons, List.map_nil, List.mem_cons, List.not_mem_nil,
      or_false, not_or] at short
    obtain ⟨quote, backslash, lineFeed, carriageReturn, tab, null⟩ := short
    right
    unfold escaped
    rw [if_neg quote, if_neg backslash, if_neg lineFeed, if_neg carriageReturn, if_neg tab,
      if_neg null]
    split
    · exact .inr ⟨rfl, backslash, quote⟩
    · split
      · exact .inl rfl
      · exact .inr ⟨rfl, backslash, quote⟩

theorem shortEscapes_inj : ∀ entry ∈ shortEscapes, ∀ other ∈ shortEscapes,
    entry.2 = other.2 → entry.1 = other.1 := by decide

theorem shortEscapes_ne_code : ∀ entry ∈ shortEscapes, entry.2 ≠ 'u' := by decide

/-- The escapes of two different characters differ before either of them ends. -/
theorem escaped_isPrefixFree : IsPrefixFree escaped := by
  intro first second behind rest same
  rcases escaped_cases first with ⟨mark, entry, form⟩ | form | ⟨form, noEscape, _⟩ <;>
    rcases escaped_cases second with ⟨other, otherEntry, otherForm⟩ | otherForm |
      ⟨otherForm, otherNoEscape, _⟩ <;>
    rw [form, otherForm] at same
  case inl.inl =>
    simp only [List.cons_append, List.nil_append, List.cons.injEq, true_and] at same
    exact ⟨shortEscapes_inj _ entry _ otherEntry same.1, same.2⟩
  case inl.inr.inl =>
    simp only [codeEscape, List.cons_append, List.cons.injEq, true_and] at same
    exact absurd same.1 (shortEscapes_ne_code _ entry)
  case inr.inl.inl =>
    simp only [codeEscape, List.cons_append, List.cons.injEq, true_and] at same
    exact absurd same.1.symm (shortEscapes_ne_code _ otherEntry)
  case inr.inl.inr.inl => exact codeEscape_isPrefixFree first second behind rest same
  case inr.inr.inr.inr =>
    simp only [List.cons_append, List.nil_append, List.cons.injEq] at same
    exact same
  case inl.inr.inr | inr.inl.inr.inr =>
    simp only [codeEscape, List.cons_append, List.cons.injEq] at same
    exact absurd same.1.symm otherNoEscape
  case inr.inr.inl | inr.inr.inr.inl =>
    simp only [codeEscape, List.cons_append, List.cons.injEq] at same
    exact absurd same.1 noEscape

theorem escaped_append_ne_quote (character : Char) (behind rest : List Char) :
    escaped character ++ behind ≠ '"' :: rest := by
  intro same
  rcases escaped_cases character with ⟨mark, _, form⟩ | form | ⟨form, _, noQuote⟩ <;>
    rw [form] at same
  · exact absurd (List.head_eq_of_cons_eq same) (by decide)
  · exact absurd (List.head_eq_of_cons_eq same) (by decide)
  · exact noQuote (List.head_eq_of_cons_eq same)

/-! ### Texts and optional texts -/

theorem quoted_isPrefixFree : IsPrefixFree fun text => (quoted text).toList := by
  have characters := (escaped_isPrefixFree.marked escaped_append_ne_quote).between ['"'] []
  intro first second behind rest same
  have parts := characters first.toList second.toList behind rest (by simpa [quoted] using same)
  exact ⟨String.toList_injective parts.1, parts.2⟩

theorem option_isPrefixFree {α : Type} {form : α → String}
    (free : IsPrefixFree fun value => (form value).toList) :
    IsPrefixFree fun value => (option form value).toList := by
  have present := free.between "Some(".toList ")".toList
  intro first second behind rest same
  cases first with
  | none =>
      cases second with
      | none => exact ⟨rfl, List.append_cancel_left same⟩
      | some value => simp [option] at same
  | some value =>
      cases second with
      | none => simp [option] at same
      | some other =>
          have parts := present value other behind rest (by simpa [option] using same)
          exact ⟨congrArg some parts.1, parts.2⟩

/-! ### Records -/

/-- What a record shows up to one of its fields. -/
def opening (name : String) (before : List (String × String)) : List Char :=
  name.toList ++ " \x7b ".toList ++
    before.flatMap fun field => field.1.toList ++ ": ".toList ++ field.2.toList ++ ", ".toList

/-- A field that is not the first one. -/
def later (field : String × String) : List Char :=
  ", ".toList ++ field.1.toList ++ ": ".toList ++ field.2.toList

/-- What a record shows after one of its fields. -/
def closing (after : List (String × String)) : List Char :=
  after.flatMap later ++ " \x7d".toList

theorem toList_commaJoined_append (before after : List String) (text : String) :
    (commaJoined (before ++ text :: after)).toList =
      (before.flatMap fun part => part.toList ++ ", ".toList) ++ text.toList ++
        after.flatMap fun part => ", ".toList ++ part.toList := by
  induction before generalizing text with
  | nil =>
      induction after generalizing text with
      | nil => simp [commaJoined]
      | cons next after inductionHypothesis =>
          have rest := inductionHypothesis next
          simp only [List.nil_append] at rest
          simp [commaJoined, rest]
  | cons part before inductionHypothesis =>
      have rest := inductionHypothesis text
      cases before <;> simp_all [commaJoined]

theorem toList_record (name : String) (before after : List (String × String))
    (field text : String) :
    (record name (before ++ (field, text) :: after)).toList =
      opening name before ++ (field.toList ++ ": ".toList) ++ (text.toList ++ closing after) := by
  unfold record opening closing later
  rw [List.map_append, List.map_cons]
  simp only [String.toList_append, toList_commaJoined_append]
  simp [List.flatMap_map]

theorem closing_append_cons (between after : List (String × String)) (field text : String) :
    closing (between ++ (field, text) :: after) =
      between.flatMap later ++ (", ".toList ++ field.toList ++ ": ".toList) ++
        (text.toList ++ closing after) := by
  simp [closing, later]

section Fields

variable {α β : Type} {form : α → String} {next : β → String}

/-- A record tells the value of a field in such a form. -/
theorem record_isPrefixFree (free : IsPrefixFree fun value => (form value).toList) (name : String)
    (before after : List (String × String)) (field : String) :
    IsPrefixFree fun value => (record name (before ++ (field, form value) :: after)).toList := by
  simp only [toList_record]
  exact free.between _ _

/-- A record tells the values of two fields in such forms. -/
theorem record_isPrefixFree_pair (free : IsPrefixFree fun value => (form value).toList)
    (nextFree : IsPrefixFree fun value => (next value).toList) (name : String)
    (before between after : List (String × String)) (field other : String) :
    IsPrefixFree fun both : α × β => (record name
      (before ++ (field, form both.1) :: (between ++ (other, next both.2) :: after))).toList := by
  simp only [toList_record, closing_append_cons]
  have values := free.pair (nextFree.between
    (between.flatMap later ++ (", ".toList ++ other.toList ++ ": ".toList)) (closing after))
  simpa only [List.append_nil] using
    values.between (opening name before ++ (field.toList ++ ": ".toList)) []

end Fields

end Diagnostic

end RemoteConfig
