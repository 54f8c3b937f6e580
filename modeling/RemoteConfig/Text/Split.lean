import RemoteConfig.Text.Blank

/-!
Contract: cutting text at a separator and joining it again.

Owns:
- splitting a character list at every occurrence of one character;
- joining strings with a separator;
- reading a comma-delimited list: trimmed entries, empty ones dropped.

Does not own: what the entries of a list mean.
-/

namespace RemoteConfig.Text

/-- Splits at every occurrence of the separator; there is always at least one part. -/
def splitChars (separator : Char) : List Char → List (List Char)
  | [] => [[]]
  | character :: rest =>
    match splitChars separator rest with
    | [] => [[character]]
    | part :: parts =>
      if character = separator then [] :: part :: parts else (character :: part) :: parts

def splitAt (separator : Char) (text : String) : List String :=
  (splitChars separator text.toList).map String.ofList

def join (separator : String) : List String → String
  | [] => ""
  | [single] => single
  | first :: second :: rest => first ++ separator ++ join separator (second :: rest)

/-- The entries of a comma-delimited list: each is trimmed, and empty ones are dropped. -/
def splitList (text : String) : List String :=
  ((splitAt ',' text).map trim).filter fun entry => !entry.isEmpty

/-- Every character of joined texts stands in the separator or in one of them. -/
theorem mem_of_mem_join {separator : String} {texts : List String} {character : Char}
    (member : character ∈ (join separator texts).toList) :
    character ∈ separator.toList ∨ ∃ text ∈ texts, character ∈ text.toList := by
  induction texts with
  | nil => cases member
  | cons first others inductionHypothesis =>
      cases others with
      | nil => exact .inr ⟨first, List.mem_cons_self, member⟩
      | cons second rest =>
          rw [join, String.toList_append, String.toList_append, List.mem_append,
            List.mem_append] at member
          rcases member with (inFirst | inSeparator) | later
          · exact .inr ⟨first, List.mem_cons_self, inFirst⟩
          · exact .inl inSeparator
          · rcases inductionHypothesis later with inSeparator | ⟨text, isText, inside⟩
            · exact .inl inSeparator
            · exact .inr ⟨text, List.mem_cons_of_mem _ isText, inside⟩

/-- There is always at least one part. -/
theorem splitChars_ne_nil (separator : Char) (text : List Char) :
    splitChars separator text ≠ [] := by
  cases text with
  | nil => simp [splitChars]
  | cons character rest =>
    simp only [splitChars]
    split
    · simp
    · split <;> simp

theorem splitChars_append (separator : Char) (first second : List Char) :
    splitChars separator (first ++ separator :: second) =
      splitChars separator first ++ splitChars separator second := by
  induction first with
  | nil =>
      cases parts : splitChars separator second with
      | nil => exact absurd parts (splitChars_ne_nil _ _)
      | cons part others => simp [splitChars, parts]
  | cons character rest inductionHypothesis =>
      cases parts : splitChars separator rest with
      | nil => exact absurd parts (splitChars_ne_nil _ _)
      | cons part others =>
          rw [List.cons_append, splitChars, inductionHypothesis, splitChars, parts]
          simp only [List.cons_append]
          split <;> rfl

/-- Every character is the separator or stands in a part. -/
theorem mem_splitChars {separator character : Char} {text : List Char} (member : character ∈ text) :
    character = separator ∨ ∃ part ∈ splitChars separator text, character ∈ part := by
  induction text with
  | nil => cases member
  | cons first rest inductionHypothesis =>
      cases parts : splitChars separator rest with
      | nil => exact absurd parts (splitChars_ne_nil _ _)
      | cons part others =>
          rw [splitChars, parts]
          simp only
          by_cases isSeparator : first = separator
          · rw [if_pos isSeparator]
            rcases List.mem_cons.mp member with rfl | later
            · exact .inl isSeparator
            · rcases inductionHypothesis later with same | ⟨found, foundMember, inside⟩
              · exact .inl same
              · exact .inr ⟨found, List.mem_cons_of_mem _ (parts ▸ foundMember), inside⟩
          · rw [if_neg isSeparator]
            rcases List.mem_cons.mp member with rfl | later
            · exact .inr ⟨character :: part, List.mem_cons_self, List.mem_cons_self⟩
            · rcases inductionHypothesis later with same | ⟨found, foundMember, inside⟩
              · exact .inl same
              · rw [parts] at foundMember
                rcases List.mem_cons.mp foundMember with rfl | behind
                · exact .inr ⟨first :: found, List.mem_cons_self, List.mem_cons_of_mem _ inside⟩
                · exact .inr ⟨found, List.mem_cons_of_mem _ behind, inside⟩

/-- No part has the separator. -/
theorem not_mem_of_mem_splitChars {separator : Char} {text part : List Char}
    (member : part ∈ splitChars separator text) : separator ∉ part := by
  induction text generalizing part with
  | nil =>
      rw [splitChars, List.mem_singleton] at member
      simp [member]
  | cons first rest inductionHypothesis =>
      cases parts : splitChars separator rest with
      | nil => exact absurd parts (splitChars_ne_nil _ _)
      | cons next others =>
          rw [parts] at inductionHypothesis
          obtain ⟨nextFree, othersFree⟩ := List.forall_mem_cons.mp fun _ => inductionHypothesis
          rw [splitChars, parts] at member
          simp only at member
          by_cases isSeparator : first = separator
          · rw [if_pos isSeparator] at member
            rcases List.mem_cons.mp member with rfl | later
            · exact List.not_mem_nil
            · exact inductionHypothesis later
          · rw [if_neg isSeparator] at member
            rcases List.mem_cons.mp member with rfl | later
            · simp [Ne.symm isSeparator, nextFree]
            · exact othersFree _ later

/-- The entries of a list have no commas. -/
theorem not_mem_of_mem_splitList {text entry : String} (member : entry ∈ splitList text) :
    ',' ∉ entry.toList := by
  unfold splitList splitAt at member
  obtain ⟨isEntry, _⟩ := List.mem_filter.mp member
  obtain ⟨_, isPart, rfl⟩ := List.mem_map.mp isEntry
  obtain ⟨part, isSplit, rfl⟩ := List.mem_map.mp isPart
  intro comma
  have inside := mem_of_mem_trim comma
  rw [String.toList_ofList] at inside
  exact not_mem_of_mem_splitChars isSplit inside

/-- Text that is appended makes the last part longer, up to its own first separator. -/
theorem splitChars_glued (separator : Char) (first second : List Char) :
    ∃ front last next back, splitChars separator first = front ++ [last] ∧
      splitChars separator second = next :: back ∧
      splitChars separator (first ++ second) = front ++ (last ++ next) :: back := by
  induction first with
  | nil =>
      cases parts : splitChars separator second with
      | nil => exact absurd parts (splitChars_ne_nil _ _)
      | cons next back => exact ⟨[], [], next, back, rfl, rfl, parts⟩
  | cons character rest inductionHypothesis =>
      obtain ⟨front, last, next, back, left, right, both⟩ := inductionHypothesis
      by_cases isSeparator : character = separator
      · refine ⟨[] :: front, last, next, back, ?_, right, ?_⟩
        · cases front <;> simp [splitChars, left, isSeparator]
        · cases front <;> simp [splitChars, both, isSeparator]
      · cases front with
        | nil =>
            refine ⟨[], character :: last, next, back, ?_, right, ?_⟩
            · simp [splitChars, left, isSeparator]
            · simp [splitChars, both, isSeparator]
        | cons part others =>
            refine ⟨(character :: part) :: others, last, next, back, ?_, right, ?_⟩
            · simp [splitChars, left, isSeparator]
            · simp [splitChars, both, isSeparator]

/-- A text without the separator is one part. -/
theorem splitChars_of_not_mem {separator : Char} {text : List Char} (free : separator ∉ text) :
    splitChars separator text = [text] := by
  induction text with
  | nil => rfl
  | cons character rest inductionHypothesis =>
      rw [List.mem_cons, not_or] at free
      rw [splitChars, inductionHypothesis free.2]
      exact if_neg (Ne.symm free.1)

end RemoteConfig.Text
