import RemoteConfig.Json.Reader
import RemoteConfig.Json.Writer

/-!
Contract: documents that are written and read again.

Owns:
- strings: the escapes that are written are read as the characters they stand for;
- values between commas, and what announces them;
- `parse?_compact`: a document without numbers is read out of its text, in canonical form.

Does not own: the texts of numbers, and documents that are nested deeper than reading goes.
-/

namespace RemoteConfig.Json

open Reader Writer

/-! ### Strings -/

theorem hexValue?_hexDigit {value : Nat} (below : value < 16) :
    hexValue? (hexDigit value) = some value := by
  have each : ∀ value < 16, hexValue? (hexDigit value) = some value := by decide
  exact each value below

theorem unitEscape?_control {character : Char} (control : character.toNat < 0x20)
    (rest : List Char) :
    unitEscape? ('0' :: '0' :: hexDigit (character.toNat / 16) ::
      hexDigit (character.toNat % 16) :: rest) = some (character, rest) := by
  have zero : hexValue? '0' = some 0 := by decide
  have high : hexValue? (hexDigit (character.toNat / 16)) = some (character.toNat / 16) :=
    hexValue?_hexDigit (by omega)
  have low : hexValue? (hexDigit (character.toNat % 16)) = some (character.toNat % 16) :=
    hexValue?_hexDigit (by omega)
  have unit : ((0 * 16 + 0) * 16 + character.toNat / 16) * 16 + character.toNat % 16 =
      character.toNat := by omega
  have noHigh : isHighSurrogate character.toNat = false := by
    simp only [isHighSurrogate, Bool.and_eq_false_iff, decide_eq_false_iff_not]
    omega
  have noLow : isLowSurrogate character.toNat = false := by
    simp only [isLowSurrogate, Bool.and_eq_false_iff, decide_eq_false_iff_not]
    omega
  unfold unitEscape? hex4?
  simp only [zero, high, low, Option.bind_eq_bind, Option.bind_some, Option.pure_def, unit, noLow,
    noHigh, Bool.false_eq_true, if_false, Char.ofNat_toNat]

/-- A character of a string is written as an escape that is read back, or as it stands. -/
theorem escaped_cases (character : Char) :
    (∃ marks, escaped character = '\\' :: marks ∧
        ∀ rest, escape? (marks ++ rest) = some (character, rest)) ∨
      escaped character = [character] ∧ character ≠ '"' ∧ character ≠ '\\' ∧
        ¬ character.toNat < 0x20 := by
  by_cases short : character ∈ ['"', '\\', '\x08', '\x0c', '\n', '\r', '\t']
  · left
    simp only [List.mem_cons, List.not_mem_nil, or_false] at short
    rcases short with rfl | rfl | rfl | rfl | rfl | rfl | rfl <;> exact ⟨_, rfl, fun _ => rfl⟩
  · simp only [List.mem_cons, List.not_mem_nil, or_false, not_or] at short
    obtain ⟨quote, backslash, backspace, formFeed, lineFeed, carriageReturn, tab⟩ := short
    unfold escaped
    rw [if_neg quote, if_neg backslash, if_neg backspace, if_neg formFeed, if_neg lineFeed,
      if_neg carriageReturn, if_neg tab]
    split
    · next control => exact .inl ⟨_, rfl, fun rest => unitEscape?_control control rest⟩
    · next visible => exact .inr ⟨rfl, quote, backslash, visible⟩

/-- The characters of a string are read up to the quote behind them. -/
theorem stringChars?_escaped (text read rest : List Char) {bound : Nat}
    (enough : text.length < bound) :
    stringChars? bound read (text.flatMap escaped ++ '"' :: rest) =
      some (text.reverse ++ read, rest) := by
  induction text generalizing read bound with
  | nil =>
      cases bound with
      | zero => exact absurd enough (Nat.lt_irrefl 0)
      | succ bound => rfl
  | cons character text inductionHypothesis =>
      cases bound with
      | zero => exact absurd enough (Nat.not_lt_zero _)
      | succ bound =>
          have later := inductionHypothesis (character :: read) (Nat.lt_of_succ_lt_succ enough)
          rw [List.reverse_cons, List.append_assoc, List.singleton_append, ← later]
          rw [List.flatMap_cons, List.append_assoc]
          rcases escaped_cases character with
            ⟨marks, form, reads⟩ | ⟨form, quote, backslash, visible⟩
          · rw [form, List.cons_append, stringChars?]
            simp only [reads]
          · rw [form, List.singleton_append, stringChars?]
            · rw [if_neg visible]
            · exact fun isQuote => quote isQuote
            · exact fun isBackslash => backslash isBackslash

theorem length_le_escaped (text : List Char) : text.length ≤ (text.flatMap escaped).length := by
  induction text with
  | nil => exact Nat.le_refl 0
  | cons character text inductionHypothesis =>
      have some : 0 < (escaped character).length := by
        rcases escaped_cases character with ⟨marks, form, _⟩ | ⟨form, _⟩ <;> rw [form] <;> simp
      rw [List.flatMap_cons, List.length_append, List.length_cons]
      omega

theorem string?_escaped (text : String) (rest : List Char) :
    string? (text.toList.flatMap escaped ++ '"' :: rest) = some (text, rest) := by
  have shorter := length_le_escaped text.toList
  unfold string?
  rw [stringChars?_escaped]
  · simp
  · simp only [List.length_append, List.length_cons]
    omega

/-! ### Values between commas -/

/-- The forms of values, separated by commas. -/
def joined {α : Type} (form : α → List Char) : List α → List Char
  | [] => []
  | [value] => form value
  | value :: second :: rest => form value ++ ',' :: joined form (second :: rest)

theorem itemChars_eq_joined (items : List Json) : itemChars items = joined chars items := by
  induction items with
  | nil => rfl
  | cons item rest inductionHypothesis =>
      cases rest with
      | nil => rfl
      | cons second rest => rw [itemChars, joined, inductionHypothesis]

/-- The text of a field. -/
def fieldForm (field : String × Json) : List Char :=
  quoted field.1 ++ ':' :: chars field.2

theorem fieldChars_eq_joined (fields : List (String × Json)) :
    fieldChars fields = joined fieldForm fields := by
  induction fields with
  | nil => rfl
  | cons field rest inductionHypothesis =>
      cases rest with
      | nil => rfl
      | cons second rest =>
          rw [fieldChars, joined, inductionHypothesis]
          rfl

theorem skipSpace_cons {character : Char} (visible : isSpace character = false)
    (rest : List Char) : skipSpace (character :: rest) = character :: rest :=
  List.dropWhile_cons_of_neg (by simp [visible])

/-- A text begins with a character that is neither a blank nor the closing one. -/
def IsAnnounced (closing : Char) (text : List Char) : Prop :=
  ∃ first behind, text = first :: behind ∧ isSpace first = false ∧ first ≠ closing

namespace IsAnnounced

variable {closing : Char} {text : List Char}

theorem append (announced : IsAnnounced closing text) (rest : List Char) :
    IsAnnounced closing (text ++ rest) := by
  obtain ⟨first, behind, form, visible, opens⟩ := announced
  exact ⟨first, behind ++ rest, by rw [form, List.cons_append], visible, opens⟩

theorem skipSpace (announced : IsAnnounced closing text) : skipSpace text = text := by
  obtain ⟨first, behind, form, visible, _⟩ := announced
  rw [form, skipSpace_cons visible]

theorem ne_cons (announced : IsAnnounced closing text) (rest : List Char) :
    text ≠ closing :: rest := by
  obtain ⟨first, behind, form, _, opens⟩ := announced
  intro closes
  exact opens (List.head_eq_of_cons_eq (form.symm.trans closes))

end IsAnnounced

section Joined

variable {α : Type} {form : α → List Char} {item : List Char → Option (α × Rest)} {closing : Char}

theorem length_le_joined (form : α → List Char) (values : List α) :
    values.length ≤ (joined form values).length + 1 := by
  induction values with
  | nil => exact Nat.zero_le _
  | cons value rest inductionHypothesis =>
      cases rest with
      | nil => exact Nat.succ_le_succ (Nat.zero_le _)
      | cons second rest =>
          simp only [joined, List.length_append, List.length_cons] at inductionHypothesis ⊢
          omega

theorem isAnnounced_joined {value : α} (announced : IsAnnounced closing (form value))
    (rest : List α) : IsAnnounced closing (joined form (value :: rest)) := by
  cases rest with
  | nil => exact announced
  | cons second rest => exact announced.append _

theorem separated?_joined_of_bound (notComma : closing ≠ ',') (visible : isSpace closing = false)
    {values : List α} (some : values ≠ [])
    (announced : ∀ value ∈ values, IsAnnounced closing (form value))
    (reads : ∀ value ∈ values, ∀ rest, item (form value ++ rest) = .some (value, rest))
    {bound : Nat} (enough : values.length ≤ bound) (rest : List Char) :
    separated? item closing bound (joined form values ++ closing :: rest) =
      .some (values, rest) := by
  induction values generalizing bound with
  | nil => exact absurd rfl some
  | cons value others inductionHypothesis =>
      obtain ⟨first, otherFirsts⟩ := List.forall_mem_cons.mp announced
      obtain ⟨read, otherReads⟩ := List.forall_mem_cons.mp reads
      cases bound with
      | zero => exact absurd enough (Nat.not_succ_le_zero _)
      | succ bound =>
          cases others with
          | nil =>
              rw [joined, separated?, (first.append _).skipSpace, read]
              simp [skipSpace_cons visible]
          | cons second others =>
              have later := inductionHypothesis (List.cons_ne_nil _ _) otherFirsts otherReads
                (Nat.le_of_succ_le_succ enough)
              have comma : isSpace ',' = false := by decide
              rw [joined, List.append_assoc, List.cons_append, separated?,
                (first.append _).skipSpace, read]
              simp [skipSpace_cons comma, Ne.symm notComma, later]

/-- Values that are read one by one are read between commas, up to the closing character. -/
theorem separated?_joined (notComma : closing ≠ ',') (visible : isSpace closing = false)
    {values : List α} (some : values ≠ [])
    (announced : ∀ value ∈ values, IsAnnounced closing (form value))
    (reads : ∀ value ∈ values, ∀ rest, item (form value ++ rest) = .some (value, rest))
    (rest : List Char) :
    separated? item closing ((joined form values ++ closing :: rest).length + 1)
        (joined form values ++ closing :: rest) = .some (values, rest) := by
  apply separated?_joined_of_bound notComma visible some announced reads
  have enough := length_le_joined form values
  simp only [List.length_append, List.length_cons]
  omega

end Joined

/-! ### Documents -/

/-- A document without numbers whose lists and objects are nested at most so deep. -/
inductive NumberFree : Nat → Json → Prop
  | null {depth : Nat} : NumberFree depth .null
  | bool {depth : Nat} (value : Bool) : NumberFree depth (.bool value)
  | string {depth : Nat} (text : String) : NumberFree depth (.string text)
  | array {depth : Nat} {items : List Json} (free : ∀ item ∈ items, NumberFree depth item) :
      NumberFree (depth + 1) (.array items)
  | object {depth : Nat} {fields : List (String × Json)}
      (free : ∀ field ∈ fields, NumberFree depth field.2) : NumberFree (depth + 1) (.object fields)

theorem NumberFree.isAnnounced {depth : Nat} {document : Json} (free : NumberFree depth document) :
    IsAnnounced ']' (chars document) := by
  cases free with
  | null => exact ⟨'n', _, rfl, by decide, by decide⟩
  | bool value =>
      cases value with
      | true => exact ⟨'t', _, rfl, by decide, by decide⟩
      | false => exact ⟨'f', _, rfl, by decide, by decide⟩
  | string text => exact ⟨'"', _, rfl, by decide, by decide⟩
  | array _ => exact ⟨'[', _, rfl, by decide, by decide⟩
  | object _ => exact ⟨'\x7b', _, rfl, by decide, by decide⟩

theorem isAnnounced_fieldForm (field : String × Json) : IsAnnounced '\x7d' (fieldForm field) :=
  ⟨'"', _, rfl, by decide, by decide⟩

theorem field?_fieldForm {depth : Nat} {field : String × Json} (free : NumberFree depth field.2)
    (reads : ∀ rest, value? depth (chars field.2 ++ rest) = some (field.2, rest))
    (rest : List Char) :
    field? (value? depth) (fieldForm field ++ rest) = some (field, rest) := by
  have colon : isSpace ':' = false := by decide
  have form : fieldForm field ++ rest =
      '"' :: (field.1.toList.flatMap escaped ++ '"' :: ':' :: (chars field.2 ++ rest)) := by
    simp [fieldForm, quoted]
  rw [form]
  simp only [field?, string?_escaped, Option.bind_eq_bind, Option.bind_some, skipSpace_cons colon,
    (free.isAnnounced.append _).skipSpace, reads]
  rfl

theorem value?_list {depth : Nat} {text : List Char} (announced : IsAnnounced ']' text) :
    value? (depth + 1) ('[' :: text) =
      (separated? (value? depth) ']' (text.length + 1) text).map
        fun (items, rest) => (.array items, rest) := by
  rw [value?]
  simp only [announced.skipSpace]
  split
  · next closes => exact absurd rfl (announced.ne_cons _)
  · rfl

theorem value?_record {depth : Nat} {text : List Char} (announced : IsAnnounced '\x7d' text) :
    value? (depth + 1) ('\x7b' :: text) =
      (separated? (field? (value? depth)) '\x7d' (text.length + 1) text).map
        fun (fields, rest) => (.object fields, rest) := by
  rw [value?]
  simp only [announced.skipSpace]
  split
  · next closes => exact absurd rfl (announced.ne_cons _)
  · rfl

/-- The text of a document without numbers is read as the document. -/
theorem value?_chars {depth : Nat} {document : Json} (free : NumberFree depth document)
    (rest : List Char) : value? depth (chars document ++ rest) = some (document, rest) := by
  induction free generalizing rest with
  | null =>
      show value? _ ('n' :: 'u' :: 'l' :: 'l' :: rest) = _
      rw [value?]
      rfl
  | bool value =>
      cases value with
      | true =>
          show value? _ ('t' :: 'r' :: 'u' :: 'e' :: rest) = _
          rw [value?]
          rfl
      | false =>
          show value? _ ('f' :: 'a' :: 'l' :: 's' :: 'e' :: rest) = _
          rw [value?]
          rfl
  | string text =>
      have form : chars (.string text) ++ rest =
          '"' :: (text.toList.flatMap escaped ++ '"' :: rest) := by
        simp [chars, quoted]
      rw [form, value?, string?_escaped]
      rfl
  | @array depth items free inductionHypothesis =>
      cases items with
      | nil =>
          show value? _ ('[' :: ']' :: rest) = _
          rw [value?]
          rfl
      | cons item others =>
          have whole : chars (.array (item :: others)) ++ rest =
              '[' :: (joined chars (item :: others) ++ ']' :: rest) := by
            simp [chars, itemChars_eq_joined]
          have first := isAnnounced_joined (free item List.mem_cons_self).isAnnounced others
          rw [whole, value?_list (first.append _),
            separated?_joined (by decide) (by decide) (List.cons_ne_nil item others)
              (fun value member => (free value member).isAnnounced) inductionHypothesis]
          rfl
  | @object depth fields free inductionHypothesis =>
      cases fields with
      | nil =>
          show value? _ ('\x7b' :: '\x7d' :: rest) = _
          rw [value?]
          rfl
      | cons field others =>
          have whole : chars (.object (field :: others)) ++ rest =
              '\x7b' :: (joined fieldForm (field :: others) ++ '\x7d' :: rest) := by
            simp [chars, fieldChars_eq_joined]
          have first := isAnnounced_joined (isAnnounced_fieldForm field) others
          rw [whole, value?_record (first.append _),
            separated?_joined (by decide) (by decide) (List.cons_ne_nil field others)
              (fun field _ => isAnnounced_fieldForm field)
              fun field member => field?_fieldForm (free field member)
                (inductionHypothesis field member)]
          rfl

/-- A document without numbers that is not nested too deep is read out of its text. -/
theorem parse?_compact {document : Json} (free : NumberFree nestingLimit document) :
    parse? document.compact = some document.canonical := by
  have start := free.isAnnounced.skipSpace
  have read := value?_chars free []
  rw [List.append_nil] at read
  unfold parse? parseBy? compact
  rw [String.toList_ofList, start, read]
  rfl

end RemoteConfig.Json
