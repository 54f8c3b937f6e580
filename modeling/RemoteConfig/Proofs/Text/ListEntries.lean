import Mathlib.Data.List.DropRight
import RemoteConfig.Text.Split

/-!
Contract: comma-delimited lists, next to the texts that are their entries.

Owns:
- texts that are trimmed, and that several of them with anything between are trimmed too;
- an entry: a trimmed text without commas, which is what splitting yields;
- splitting of joined texts: it splits each of them, and gives back those that are entries.

Does not own: what the entries of a list mean.
-/

namespace RemoteConfig.Text

/-! ### Trimmed texts -/

/-- There is text, and no blank at either end of it. -/
def IsTrimmed (text : String) : Prop :=
  text ≠ "" ∧ trim text = text

instance (text : String) : Decidable (IsTrimmed text) :=
  inferInstanceAs (Decidable (_ ∧ _))

/-- Trimming leaves a text alone when neither end of it is to be removed. -/
theorem trimBy_eq_self_iff {test : Char → Bool} {text : List Char} :
    trimBy test text = text ↔
      (∀ first, text.head? = some first → test first = false) ∧
        ∀ last, text.getLast? = some last → test last = false := by
  have atStart : text.dropWhile test = text ↔
      ∀ first, text.head? = some first → test first = false := by
    rw [List.dropWhile_eq_self_iff]
    cases text <;> simp
  have atEnd : text.rdropWhile test = text ↔
      ∀ last, text.getLast? = some last → test last = false := by
    rw [List.rdropWhile_eq_self_iff]
    cases text <;> simp [List.getLast?_eq_some_getLast]
  have inTurn : trimBy test text = (text.dropWhile test).rdropWhile test := rfl
  rw [← atStart, ← atEnd, inTurn]
  constructor
  · intro same
    -- What is removed at the start cannot come back at the end.
    have kept : text.dropWhile test = text := by
      have shorter := (List.rdropWhile_prefix test (text.dropWhile test)).length_le
      rw [same] at shorter
      exact (List.dropWhile_sublist _).eq_of_length_le shorter
    exact ⟨kept, by rwa [kept] at same⟩
  · rintro ⟨start, ending⟩
    rw [start, ending]

/-- A text is trimmed when it has a first and a last character that are no blanks. -/
theorem isTrimmed_iff {text : String} :
    IsTrimmed text ↔
      (∃ first, text.toList.head? = some first ∧ isBlankChar first = false) ∧
        ∃ last, text.toList.getLast? = some last ∧ isBlankChar last = false := by
  have trimmed : trim text = text ↔ trimBy isBlankChar text.toList = text.toList := by
    rw [trim, String.ext_iff, String.toList_ofList]
  rw [IsTrimmed, trimmed, trimBy_eq_self_iff]
  cases characters : text.toList with
  | nil => simp [String.toList_eq_nil_iff.mp characters]
  | cons first rest =>
      have some : text ≠ "" := by
        rintro rfl
        cases characters
      simp [some, List.getLast?_eq_some_getLast]

/-- A list of trimmed names is trimmed, whatever separates them. -/
theorem isTrimmed_join {separator : String} {names : List String} (some : names ≠ [])
    (trimmed : ∀ name ∈ names, IsTrimmed name) : IsTrimmed (join separator names) := by
  induction names with
  | nil => exact absurd rfl some
  | cons first others inductionHypothesis =>
      obtain ⟨isFirst, areOthers⟩ := List.forall_mem_cons.mp trimmed
      cases others with
      | nil => exact isFirst
      | cons second rest =>
          obtain ⟨⟨start, starts, startIsText⟩, _⟩ := isTrimmed_iff.mp isFirst
          obtain ⟨_, last, ends, lastIsText⟩ :=
            isTrimmed_iff.mp (inductionHypothesis (List.cons_ne_nil _ _) areOthers)
          refine isTrimmed_iff.mpr ⟨⟨start, ?_, startIsText⟩, last, ?_, lastIsText⟩
          · simp [join, String.toList_append, starts]
          · simp [join, String.toList_append, ends]

/-- What is trimmed is trimmed for good. -/
theorem trimBy_trimBy (test : Char → Bool) (text : List Char) :
    trimBy test (trimBy test text) = trimBy test text := by
  rw [trimBy_eq_self_iff]
  constructor
  · intro first begins
    -- The beginning is the one of the text whose end still stands there.
    obtain ⟨removed, whole⟩ := List.rdropWhile_prefix test (text.dropWhile test)
    have start : (text.dropWhile test).head? = some first := by
      rw [← whole, List.head?_append]
      exact congrArg (Option.or · _) begins
    have isKept := List.head?_dropWhile_not test text
    rwa [start] at isKept
  · intro last ends
    rw [trimBy, List.getLast?_reverse] at ends
    have isKept := List.head?_dropWhile_not test (text.dropWhile test).reverse
    rwa [ends] at isKept

theorem trim_trim (text : String) : trim (trim text) = trim text := by
  rw [trim, trim, String.toList_ofList, trimBy_trimBy]

/-! ### Entries -/

/-- What an entry of a comma-delimited list is. -/
def IsEntry (text : String) : Prop :=
  IsTrimmed text ∧ ',' ∉ text.toList

instance (text : String) : Decidable (IsEntry text) :=
  inferInstanceAs (Decidable (_ ∧ _))

/-- Splitting yields entries, whatever stands between the commas. -/
theorem isEntry_of_mem_splitList {text entry : String} (member : entry ∈ splitList text) :
    IsEntry entry := by
  obtain ⟨isPart, hasCharacters⟩ := List.mem_filter.mp member
  obtain ⟨part, _, rfl⟩ := List.mem_map.mp isPart
  have nonempty : trim part ≠ "" := by
    intro isEmpty
    rw [isEmpty] at hasCharacters
    cases hasCharacters
  exact ⟨⟨nonempty, trim_trim part⟩, not_mem_of_mem_splitList member⟩

/-- An entry is a list by itself. -/
theorem splitList_of_isEntry {text : String} (isEntry : IsEntry text) : splitList text = [text] := by
  obtain ⟨⟨nonempty, trimmed⟩, noComma⟩ := isEntry
  have single : splitAt ',' text = [text] := by
    rw [splitAt, splitChars_of_not_mem noComma, List.map_singleton, String.ofList_toList]
  rw [splitList, single, List.map_singleton, trimmed, List.filter_cons_of_pos, List.filter_nil]
  simpa using nonempty

/-! ### Joined lists -/

/-- A comma between two texts belongs to no entry of either. -/
theorem splitList_comma (first second : String) :
    splitList (first ++ "," ++ second) = splitList first ++ splitList second := by
  have characters : (first ++ "," ++ second).toList = first.toList ++ ',' :: second.toList := by
    simp [String.toList_append]
  unfold splitList splitAt
  rw [characters, splitChars_append, List.map_append, List.map_append, List.filter_append]

/-- The entries of joined texts are those of each text in turn. -/
theorem splitList_join (texts : List String) :
    splitList (join "," texts) = texts.flatMap splitList := by
  induction texts with
  | nil => rfl
  | cons first others inductionHypothesis =>
      cases others with
      | nil => rw [join, List.flatMap_singleton]
      | cons second rest =>
          rw [join, splitList_comma, List.flatMap_cons, inductionHypothesis]

/-- Splitting recovers a joined list exactly when each of its texts is an entry. -/
theorem splitList_join_eq_self_iff {texts : List String} :
    splitList (join "," texts) = texts ↔ ∀ text ∈ texts, IsEntry text := by
  constructor
  · intro recovered text member
    rw [← recovered] at member
    exact isEntry_of_mem_splitList member
  · intro entries
    rw [splitList_join]
    calc texts.flatMap splitList
      _ = texts.flatMap fun text => [text] :=
        List.flatMap_congr fun text member => splitList_of_isEntry (entries text member)
      _ = texts := List.flatMap_singleton' texts

/-- What splitting yields is recovered from its joined text. -/
theorem splitList_join_splitList (text : String) :
    splitList (join "," (splitList text)) = splitList text :=
  splitList_join_eq_self_iff.mpr fun _ => isEntry_of_mem_splitList

end RemoteConfig.Text
