import RemoteConfig.Environment.Label
import RemoteConfig.Text.Blank

/-!
Contract: the two forms of a label, as texts.

Owns:
- the wire form has no slash, and is the label itself when the label has none;
- the plain form has no placeholder, and is the label itself when the label has none;
- reading the wire form of a label is reading the label, and writing its plain form is writing it;
- `coding_laws`: the two forms of a label, each from the other;
- the wire form is as blank as the label, and at least as long.

Does not own: where labels are sent and read.
-/

namespace RemoteConfig.Label

/-! ### The wire form -/

theorem slash_not_mem_wireChars (text : List Char) : '/' ∉ wireChars text := by
  induction text with
  | nil => exact List.not_mem_nil
  | cons character rest inductionHypothesis =>
      rw [wireChars]
      split
      · simp [inductionHypothesis]
      · rename_i noSlash
        simp [inductionHypothesis, Ne.symm noSlash]

theorem wireChars_of_noSlash {text : List Char} (noSlash : '/' ∉ text) : wireChars text = text := by
  induction text with
  | nil => rfl
  | cons character rest inductionHypothesis =>
      rw [List.mem_cons, not_or] at noSlash
      rw [wireChars, if_neg (Ne.symm noSlash.1), inductionHypothesis noSlash.2]

theorem length_le_wireChars (text : List Char) : text.length ≤ (wireChars text).length := by
  induction text with
  | nil => exact Nat.le_refl 0
  | cons character rest inductionHypothesis =>
      rw [wireChars]
      split
      all_goals
        simp only [List.length_cons]
        omega

theorem mem_wireChars {text : List Char} {character : Char} (member : character ∈ wireChars text) :
    character ∈ text ∨ character ∈ ['(', '_', ')'] := by
  induction text with
  | nil => cases member
  | cons first rest inductionHypothesis =>
      rw [wireChars] at member
      split at member
      · have cut : character ∈ ['(', '_', ')'] ++ wireChars rest := member
        rcases List.mem_append.mp cut with inPlaceholder | later
        · exact .inr inPlaceholder
        · exact (inductionHypothesis later).imp_left (List.mem_cons_of_mem first)
      · rcases List.mem_cons.mp member with isFirst | later
        · exact .inl (List.mem_cons.mpr (.inl isFirst))
        · exact (inductionHypothesis later).imp_left (List.mem_cons_of_mem first)

theorem opening_mem_wireChars {text : List Char} (slash : '/' ∈ text) : '(' ∈ wireChars text := by
  induction text with
  | nil => cases slash
  | cons first rest inductionHypothesis =>
      rw [wireChars]
      split
      · exact List.mem_cons_self
      · rename_i noSlash
        rcases List.mem_cons.mp slash with isFirst | later
        · exact absurd isFirst.symm noSlash
        · exact List.mem_cons_of_mem first (inductionHypothesis later)

/-- Placeholders and slashes are no blanks. -/
theorem any_wireChars_notBlank (text : List Char) :
    (wireChars text).any (fun character => !Text.isBlankChar character) =
      text.any fun character => !Text.isBlankChar character := by
  have notBlank : (!Text.isBlankChar '(') = true ∧ (!Text.isBlankChar '/') = true := by decide
  induction text with
  | nil => rfl
  | cons character rest inductionHypothesis =>
      rw [wireChars]
      split
      · rename_i isSlash
        subst isSlash
        simp only [List.any_cons, notBlank, Bool.true_or]
      · simp only [List.any_cons, inductionHypothesis]

/-! ### Reading the wire form -/

/-- The wire form begins with another character than a parenthesis only where the text does. -/
theorem wireChars_eq_cons {text rest : List Char} {character : Char} (notOpening : character ≠ '(')
    (begins : wireChars text = character :: rest) :
    ∃ behind, text = character :: behind ∧ rest = wireChars behind := by
  cases text with
  | nil => cases begins
  | cons first behind =>
      rw [wireChars] at begins
      split at begins
      · exact absurd (List.cons.inj begins).1.symm notOpening
      · obtain ⟨rfl, rfl⟩ := List.cons.inj begins
        exact ⟨behind, rfl, rfl⟩

/-- Reading the wire form of a text is reading the text: no placeholder arises across two characters
that were not one before. -/
theorem plainChars_wireChars (text : List Char) : plainChars (wireChars text) = plainChars text := by
  induction text using plainChars.induct with
  | case1 rest inductionHypothesis =>
      have encoded : wireChars ('(' :: '_' :: ')' :: rest) = '(' :: '_' :: ')' :: wireChars rest := by
        simp [wireChars]
      rw [encoded, plainChars, plainChars, inductionHypothesis]
  | case2 character rest noPlaceholder inductionHypothesis =>
      rw [wireChars, plainChars.eq_2 character rest noPlaceholder]
      split
      · rename_i isSlash
        rw [plainChars, inductionHypothesis, isSlash]
      · rw [plainChars.eq_2, inductionHypothesis]
        intro behind isOpening begins
        obtain ⟨second, rfl, encoded⟩ := wireChars_eq_cons (by decide) begins
        obtain ⟨third, rfl, _⟩ := wireChars_eq_cons (by decide) encoded.symm
        exact noPlaceholder third isOpening rfl
  | case3 => rfl

/-! ### The plain form -/

/-- What stands for a slash in the wire form. -/
def placeholder : List Char := ['(', '_', ')']

/-- The plain form begins with another character than a slash only where the text does. -/
theorem plainChars_eq_cons {text rest : List Char} {character : Char} (notSlash : character ≠ '/')
    (begins : plainChars text = character :: rest) :
    ∃ behind, text = character :: behind ∧ rest = plainChars behind := by
  cases text using plainChars.fun_cases with
  | case1 behind =>
      rw [plainChars] at begins
      exact absurd (List.cons.inj begins).1.symm notSlash
  | case2 first behind noPlaceholder =>
      rw [plainChars.eq_2 first behind noPlaceholder] at begins
      obtain ⟨rfl, rfl⟩ := List.cons.inj begins
      exact ⟨behind, rfl, rfl⟩
  | case3 => cases begins

/-- No placeholder is left: a slash that was read closes none and opens none, and between characters
that were kept there is none that was not there before. -/
theorem placeholder_not_infix_plainChars (text : List Char) :
    ¬ placeholder <:+: plainChars text := by
  induction text using plainChars.induct with
  | case1 rest inductionHypothesis =>
      rw [plainChars, List.infix_cons_iff, not_or]
      refine ⟨?_, inductionHypothesis⟩
      rintro ⟨behind, begins⟩
      exact absurd (List.cons.inj begins).1 (by decide)
  | case2 character rest noPlaceholder inductionHypothesis =>
      rw [plainChars.eq_2 character rest noPlaceholder, List.infix_cons_iff, not_or]
      refine ⟨?_, inductionHypothesis⟩
      rintro ⟨behind, begins⟩
      obtain ⟨isOpening, inside⟩ := List.cons.inj begins
      obtain ⟨second, rfl, closing⟩ := plainChars_eq_cons (by decide) inside.symm
      obtain ⟨third, rfl, _⟩ := plainChars_eq_cons (by decide) closing.symm
      exact noPlaceholder third isOpening.symm rfl
  | case3 => exact fun inside => absurd (List.infix_nil.mp inside) (by decide)

theorem plainChars_of_noPlaceholder {text : List Char} (free : ¬ placeholder <:+: text) :
    plainChars text = text := by
  induction text using plainChars.induct with
  | case1 rest _ => exact absurd ⟨[], rest, rfl⟩ free
  | case2 character rest noPlaceholder inductionHypothesis =>
      rw [List.infix_cons_iff, not_or] at free
      rw [plainChars.eq_2 character rest noPlaceholder, inductionHypothesis free.2]
  | case3 => rfl

/-- Writing the plain form of a text is writing the text. -/
theorem wireChars_plainChars (text : List Char) : wireChars (plainChars text) = wireChars text := by
  induction text using plainChars.induct with
  | case1 rest inductionHypothesis => simp [plainChars, wireChars, inductionHypothesis]
  | case2 character rest noPlaceholder inductionHypothesis =>
      rw [plainChars.eq_2 character rest noPlaceholder, wireChars, wireChars, inductionHypothesis]
  | case3 => rfl

/-! ### Labels -/

variable (label : String)

theorem slash_not_mem_toWire : '/' ∉ (toWire label).toList := by
  rw [toWire, String.toList_ofList]
  exact slash_not_mem_wireChars label.toList

theorem length_le_toWire : label.toList.length ≤ (toWire label).toList.length := by
  rw [toWire, String.toList_ofList]
  exact length_le_wireChars label.toList

theorem ofWire_toWire : ofWire (toWire label) = ofWire label := by
  rw [ofWire, ofWire, toWire, String.toList_ofList, plainChars_wireChars]

theorem toWire_ofWire : toWire (ofWire label) = toWire label := by
  rw [toWire, toWire, ofWire, String.toList_ofList, wireChars_plainChars]

theorem placeholder_not_infix_ofWire : ¬ placeholder <:+: (ofWire label).toList := by
  rw [ofWire, String.toList_ofList]
  exact placeholder_not_infix_plainChars label.toList

theorem hasText_of_slash {label : String} (slash : '/' ∈ label.toList) :
    Text.hasText label = true :=
  List.any_eq_true.mpr ⟨'/', slash, by decide⟩

theorem hasText_toWire : Text.hasText (toWire label) = Text.hasText label := by
  rw [Text.hasText, toWire, String.toList_ofList, any_wireChars_notBlank]
  rfl

theorem toWire_of_noSlash {label : String} (noSlash : '/' ∉ label.toList) : toWire label = label := by
  rw [toWire, wireChars_of_noSlash noSlash, String.ofList_toList]

theorem ofWire_of_noPlaceholder {label : String} (free : ¬ placeholder <:+: label.toList) :
    ofWire label = label := by
  rw [ofWire, plainChars_of_noPlaceholder free, String.ofList_toList]

theorem toWire_eq_self_iff : toWire label = label ↔ '/' ∉ label.toList := by
  constructor
  · intro same
    rw [← same]
    exact slash_not_mem_toWire label
  · exact toWire_of_noSlash

theorem ofWire_eq_self_iff : ofWire label = label ↔ ¬ placeholder <:+: label.toList := by
  constructor
  · intro same
    rw [← same]
    exact placeholder_not_infix_ofWire label
  · exact ofWire_of_noPlaceholder

/-- Neither form of a label has a mark of the other one, and each can be had from the other, so taking a
form twice is taking it once. Through the wire form and back a label stays as it is exactly when it has no
placeholder, through the plain form and back exactly when it has no slash. -/
theorem coding_laws :
    ofWire (toWire label) = ofWire label ∧ toWire (ofWire label) = toWire label ∧
      '/' ∉ (toWire label).toList ∧ ¬ placeholder <:+: (ofWire label).toList ∧
      ofWire (ofWire label) = ofWire label ∧ toWire (toWire label) = toWire label ∧
      (ofWire (toWire label) = label ↔ ¬ placeholder <:+: label.toList) ∧
      (toWire (ofWire label) = label ↔ '/' ∉ label.toList) := by
  have noSlash := slash_not_mem_toWire label
  have noPlaceholder := placeholder_not_infix_ofWire label
  refine ⟨ofWire_toWire label, toWire_ofWire label, noSlash, noPlaceholder,
    ofWire_of_noPlaceholder noPlaceholder, toWire_of_noSlash noSlash, ?_, ?_⟩
  · rw [ofWire_toWire]
    exact ofWire_eq_self_iff label
  · rw [toWire_ofWire]
    exact toWire_eq_self_iff label

/-- Around the slash that is read first, what is left of the parentheses makes no placeholder. -/
example : ofWire "((_)_)" = "(/_)" ∧ toWire "(/_)" = "((_)_)" := by decide

/-- A text without parentheses is the wire form of no other label. -/
theorem toWire_ne {label plain : String} (noOpening : '(' ∉ plain.toList) (differs : label ≠ plain) :
    toWire label ≠ plain := by
  intro isPlain
  apply differs
  rw [← isPlain]
  refine (toWire_of_noSlash ?_).symm
  intro slash
  apply noOpening
  rw [← isPlain, toWire, String.toList_ofList]
  exact opening_mem_wireChars slash

end RemoteConfig.Label
