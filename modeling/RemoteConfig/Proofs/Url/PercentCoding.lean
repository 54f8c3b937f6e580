import RemoteConfig.Proofs.Text.Utf8
import RemoteConfig.Url.Path

/-!
Contract: the encoding of text inside locators, and what is read back from it.

Owns:
- digits of base sixteen and escapes of bytes;
- the characters that an encoding consists of, its length, and the texts that are encoded as they
  stand;
- decoding undoes every encoding that escapes the percent sign;
- such an encoding makes no dot segment out of a text that is none.

Does not own: which characters a part of a locator escapes.
-/

namespace RemoteConfig.Percent

/-! ### Escapes of bytes -/

theorem hexValue?_hexDigit {value : Nat} (below : value < 16) :
    hexValue? (hexDigit value) = some value := by
  have each : ∀ value < 16, hexValue? (hexDigit value) = some value := by decide
  exact each value below

/-- The digits of base sixteen that escapes are written with. -/
def isEscapeDigit (character : Char) : Bool :=
  character.isDigit || ['A', 'B', 'C', 'D', 'E', 'F'].contains character

theorem isEscapeDigit_hexDigit {value : Nat} (below : value < 16) :
    isEscapeDigit (hexDigit value) = true := by
  have each : ∀ value < 16, isEscapeDigit (hexDigit value) = true := by decide
  exact each value below

theorem hexDigit_ne {value : Nat} (below : value < 16) {character : Char}
    (noDigit : isEscapeDigit character = false) : hexDigit value ≠ character := by
  intro same
  have isDigit := isEscapeDigit_hexDigit below
  rw [same, noDigit] at isDigit
  cases isDigit

theorem hexDigit_ne_percent {value : Nat} (below : value < 16) : hexDigit value ≠ '%' :=
  hexDigit_ne below (by decide)

theorem mem_escapeByte {byte : UInt8} {character : Char} (member : character ∈ escapeByte byte) :
    character = '%' ∨ isEscapeDigit character = true := by
  have bound := byte.toNat_lt
  rcases List.mem_cons.mp member with isPercent | inDigits
  · exact .inl isPercent
  · right
    rcases List.mem_cons.mp inDigits with isHigh | inLow
    · rw [isHigh]
      exact isEscapeDigit_hexDigit (by omega)
    · rw [List.mem_singleton.mp inLow]
      exact isEscapeDigit_hexDigit (by omega)

theorem decode_escapeByte (byte : UInt8) (rest : List Char) :
    decode (escapeByte byte ++ rest) = byte :: decode rest := by
  have bound := byte.toNat_lt
  have isByte : escaped? (hexDigit (byte.toNat / 16)) (hexDigit (byte.toNat % 16)) = some byte := by
    unfold escaped?
    rw [hexValue?_hexDigit (by omega), hexValue?_hexDigit (by omega)]
    have whole : byte.toNat / 16 * 16 + byte.toNat % 16 = byte.toNat := by omega
    show some (UInt8.ofNat (byte.toNat / 16 * 16 + byte.toNat % 16)) = some byte
    rw [whole, UInt8.ofNat_toNat]
  show decode ('%' :: hexDigit (byte.toNat / 16) :: hexDigit (byte.toNat % 16) :: rest) = _
  rw [decode, isByte]

theorem decode_escapes (bytes : Bytes) (rest : List Char) :
    decode (bytes.flatMap escapeByte ++ rest) = bytes ++ decode rest := by
  induction bytes with
  | nil => rfl
  | cons byte others inductionHypothesis =>
      rw [List.flatMap_cons, List.append_assoc, decode_escapeByte, inductionHypothesis]
      rfl

theorem decode_cons {character : Char} (notPercent : character ≠ '%') (rest : List Char) :
    decode (character :: rest) = Utf8.encodeChar character ++ decode rest := by
  rw [decode]
  intro _ _ _ isPercent
  exact absurd isPercent notPercent

theorem decode_of_noPercent {text : List Char} (noPercent : '%' ∉ text) :
    decode text = Utf8.encodeChars text := by
  induction text with
  | nil => rw [decode, Utf8.encodeChars, List.flatMap_nil]
  | cons character rest inductionHypothesis =>
      rw [List.mem_cons, not_or] at noPercent
      show _ = Utf8.encodeChar character ++ Utf8.encodeChars rest
      rw [decode_cons (Ne.symm noPercent.1), inductionHypothesis noPercent.2]

/-! ### Encoding of characters -/

variable {inSet : Char → Bool}

/-- The characters that stand for themselves beside the escapes of a set. -/
def IsFree (inSet : Char → Bool) (character : Char) : Prop :=
  character.toNat < 0x80 ∧ inSet character = false

instance (inSet : Char → Bool) (character : Char) : Decidable (IsFree inSet character) :=
  inferInstanceAs (Decidable (_ ∧ _))

theorem encodeChar_of_free {character : Char} (free : IsFree inSet character) :
    encodeChar inSet character = [character] := by
  unfold encodeChar
  rw [free.2, decide_eq_true free.1]
  rfl

theorem encodeChar_of_not_free {character : Char} (notFree : ¬ IsFree inSet character) :
    encodeChar inSet character = (Utf8.encodeChar character).flatMap escapeByte := by
  unfold encodeChar
  rw [if_neg]
  intro both
  rw [Bool.and_eq_true, decide_eq_true_eq, Bool.not_eq_true'] at both
  exact notFree both

theorem IsFree.ne_percent {character : Char} (free : IsFree inSet character)
    (escapesPercent : inSet '%' = true) : character ≠ '%' := by
  rintro rfl
  rw [free.2] at escapesPercent
  cases escapesPercent

theorem decode_encodeChar (escapesPercent : inSet '%' = true) (character : Char)
    (rest : List Char) :
    decode (encodeChar inSet character ++ rest) = Utf8.encodeChar character ++ decode rest := by
  by_cases free : IsFree inSet character
  · rw [encodeChar_of_free free, List.singleton_append,
      decode_cons (free.ne_percent escapesPercent)]
  · rw [encodeChar_of_not_free free, decode_escapes]

theorem mem_encodeChar {character written : Char} (member : written ∈ encodeChar inSet character) :
    IsFree inSet written ∨ written = '%' ∨ isEscapeDigit written = true := by
  by_cases free : IsFree inSet character
  · rw [encodeChar_of_free free, List.mem_singleton] at member
    rw [member]
    exact .inl free
  · rw [encodeChar_of_not_free free] at member
    obtain ⟨byte, _, inEscape⟩ := List.mem_flatMap.mp member
    exact .inr (mem_escapeByte inEscape)

/-! ### Encoding of texts -/

theorem mem_encode {text : List Char} {written : Char} (member : written ∈ encode inSet text) :
    IsFree inSet written ∨ written = '%' ∨ isEscapeDigit written = true := by
  obtain ⟨character, _, inCode⟩ := List.mem_flatMap.mp member
  exact mem_encodeChar inCode

/-- An encoded character, other than the percent sign and the digits of escapes, is in no code. -/
theorem not_mem_encode {character : Char} (isEncoded : inSet character = true)
    (notPercent : character ≠ '%') (noDigit : isEscapeDigit character = false) (text : List Char) :
    character ∉ encode inSet text := by
  intro member
  rcases mem_encode member with ⟨_, free⟩ | isPercent | isDigit
  · rw [isEncoded] at free
    cases free
  · exact notPercent isPercent
  · rw [noDigit] at isDigit
    cases isDigit

theorem encode_of_free {text : List Char} (free : ∀ character ∈ text, IsFree inSet character) :
    encode inSet text = text := by
  induction text with
  | nil => rfl
  | cons character rest inductionHypothesis =>
      obtain ⟨isFree, restFree⟩ := List.forall_mem_cons.mp free
      show encodeChar inSet character ++ encode inSet rest = _
      rw [encodeChar_of_free isFree, inductionHypothesis restFree]
      rfl

theorem length_escapes (bytes : Bytes) : (bytes.flatMap escapeByte).length = 3 * bytes.length := by
  induction bytes with
  | nil => rfl
  | cons byte others inductionHypothesis =>
      rw [List.flatMap_cons, List.length_append, inductionHypothesis, List.length_cons]
      show 3 + _ = _
      omega

theorem length_le_encodeChar (inSet : Char → Bool) (character : Char) :
    1 ≤ (encodeChar inSet character).length ∧
      ((encodeChar inSet character).length = 1 → IsFree inSet character) := by
  by_cases free : IsFree inSet character
  · rw [encodeChar_of_free free]
    exact ⟨Nat.le_refl 1, fun _ => free⟩
  · have bytes := Utf8.length_encodeChar_pos character
    rw [encodeChar_of_not_free free, length_escapes]
    constructor
    · omega
    · intro single
      omega

/-- An encoding is never shorter than its text, and as long only where all characters are free. -/
theorem length_le_encode (inSet : Char → Bool) (text : List Char) :
    text.length ≤ (encode inSet text).length ∧
      ((encode inSet text).length = text.length → ∀ character ∈ text, IsFree inSet character) := by
  induction text with
  | nil => exact ⟨Nat.le_refl 0, fun _ => List.forall_mem_nil _⟩
  | cons character rest inductionHypothesis =>
      obtain ⟨restLength, restFree⟩ := inductionHypothesis
      obtain ⟨charLength, charFree⟩ := length_le_encodeChar inSet character
      have whole : (encode inSet (character :: rest)).length =
          (encodeChar inSet character).length + (encode inSet rest).length := by
        rw [encode, List.flatMap_cons, List.length_append]
        rfl
      rw [whole, List.length_cons]
      constructor
      · omega
      · intro same
        exact List.forall_mem_cons.mpr ⟨charFree (by omega), restFree (by omega)⟩

theorem encode_eq_self_iff {text : List Char} :
    encode inSet text = text ↔ ∀ character ∈ text, IsFree inSet character := by
  constructor
  · intro same
    exact (length_le_encode inSet text).2 (congrArg List.length same)
  · exact encode_of_free

theorem decode_encode (escapesPercent : inSet '%' = true) (text : List Char) :
    decode (encode inSet text) = Utf8.encodeChars text := by
  induction text with
  | nil => rw [encode, List.flatMap_nil, decode, Utf8.encodeChars, List.flatMap_nil]
  | cons character rest inductionHypothesis =>
      show decode (encodeChar inSet character ++ encode inSet rest) =
        Utf8.encodeChar character ++ Utf8.encodeChars rest
      rw [decode_encodeChar escapesPercent, inductionHypothesis]

/-- The text that an encoded text stands for; nothing when its bytes are no text. -/
def decodeText? (encoded : String) : Option String :=
  Utf8.decode? (decode encoded.toList)

theorem decodeText?_encode (escapesPercent : inSet '%' = true) (text : String) :
    decodeText? (String.ofList (encode inSet text.toList)) = some text := by
  rw [decodeText?, String.toList_ofList, decode_encode escapesPercent, Utf8.decode?_encodeChars,
    String.ofList_toList]

end RemoteConfig.Percent

namespace RemoteConfig.UrlPath

open Percent

/-! ### Dot segments -/

theorem plainDots_cons {character : Char} (notPercent : character ≠ '%') (rest : List Char) :
    plainDots (character :: rest) = character :: plainDots rest := by
  rw [plainDots]
  intro _ _ isPercent
  exact absurd isPercent notPercent

/-- Only the escape of the dot reads as a dot. -/
theorem plainDots_escapeByte {byte : UInt8} (noDot : byte ≠ 0x2E) (rest : List Char) :
    plainDots (escapeByte byte ++ rest) = escapeByte byte ++ plainDots rest := by
  have bound := byte.toNat_lt
  have high : byte.toNat / 16 < 16 := by omega
  have low : byte.toNat % 16 < 16 := by omega
  show plainDots ('%' :: hexDigit (byte.toNat / 16) :: hexDigit (byte.toNat % 16) :: rest) =
    '%' :: hexDigit (byte.toNat / 16) :: hexDigit (byte.toNat % 16) :: plainDots rest
  by_cases isTwo : hexDigit (byte.toNat / 16) = '2'
  · have notLower : hexDigit (byte.toNat % 16) ≠ 'e' := hexDigit_ne low (by decide)
    have notUpper : hexDigit (byte.toNat % 16) ≠ 'E' := by
      intro isUpper
      have highValue := hexValue?_hexDigit high
      have lowValue := hexValue?_hexDigit low
      rw [isTwo] at highValue
      rw [isUpper] at lowValue
      have isTwoValue : 2 = byte.toNat / 16 := Option.some.inj highValue
      have isUpperValue : 14 = byte.toNat % 16 := Option.some.inj lowValue
      apply noDot
      apply UInt8.toNat_inj.mp
      show byte.toNat = 46
      omega
    rw [isTwo, plainDots]
    simp only [notLower, notUpper, decide_false, Bool.or_self, Bool.false_eq_true, if_false]
    rw [plainDots_cons (hexDigit_ne_percent low)]
  · have goesOn : plainDots ('%' :: hexDigit (byte.toNat / 16) :: hexDigit (byte.toNat % 16) :: rest) =
        '%' :: plainDots (hexDigit (byte.toNat / 16) :: hexDigit (byte.toNat % 16) :: rest) := by
      rw [plainDots]
      intro letter behind _ isCut
      exact isTwo (List.cons.inj isCut).1
    rw [goesOn, plainDots_cons (hexDigit_ne_percent high), plainDots_cons (hexDigit_ne_percent low)]

theorem decode_plainDots_escapeByte (byte : UInt8) (rest : List Char) :
    decode (plainDots (escapeByte byte ++ rest)) = byte :: decode (plainDots rest) := by
  by_cases isDot : byte = 0x2E
  · subst isDot
    have reads : plainDots (escapeByte 0x2E ++ rest) = '.' :: plainDots rest := by
      show plainDots ('%' :: '2' :: 'E' :: rest) = _
      rw [plainDots]
      rfl
    rw [reads, decode_cons (by decide)]
    rfl
  · rw [plainDots_escapeByte isDot, decode_escapeByte]

theorem decode_plainDots_escapes (bytes : Bytes) (rest : List Char) :
    decode (plainDots (bytes.flatMap escapeByte ++ rest)) = bytes ++ decode (plainDots rest) := by
  induction bytes with
  | nil => rfl
  | cons byte others inductionHypothesis =>
      rw [List.flatMap_cons, List.append_assoc, decode_plainDots_escapeByte, inductionHypothesis]
      rfl

variable {inSet : Char → Bool}

/-- Reading the escaped dots of an encoding does not change what it stands for. -/
theorem decode_plainDots_encode (escapesPercent : inSet '%' = true) (text : List Char) :
    decode (plainDots (encode inSet text)) = Utf8.encodeChars text := by
  induction text with
  | nil => rw [encode, List.flatMap_nil, plainDots, decode, Utf8.encodeChars, List.flatMap_nil]
  | cons character rest inductionHypothesis =>
      show decode (plainDots (encodeChar inSet character ++ encode inSet rest)) =
        Utf8.encodeChar character ++ Utf8.encodeChars rest
      by_cases free : IsFree inSet character
      · have notPercent : character ≠ '%' := free.ne_percent escapesPercent
        rw [encodeChar_of_free free, List.singleton_append, plainDots_cons notPercent,
          decode_cons notPercent, inductionHypothesis]
      · rw [encodeChar_of_not_free free, decode_plainDots_escapes, inductionHypothesis]

/-- An encoding reads as a text without percent signs only when it is the code of that text. -/
theorem eq_of_plainDots_encode (escapesPercent : inSet '%' = true) {text plain : List Char}
    (noPercent : '%' ∉ plain) (reads : plainDots (encode inSet text) = plain) : text = plain := by
  have bytes := decode_plainDots_encode escapesPercent text
  rw [reads, decode_of_noPercent noPercent] at bytes
  exact (Utf8.encodeChars_injective bytes).symm

theorem isHere_encode (escapesPercent : inSet '%' = true) {text : List Char} (notHere : text ≠ ['.']) :
    isHere (encode inSet text) = false := by
  apply beq_eq_false_iff_ne.mpr
  intro reads
  exact notHere (eq_of_plainDots_encode escapesPercent (by decide) reads)

theorem isUp_encode (escapesPercent : inSet '%' = true) {text : List Char}
    (notUp : text ≠ ['.', '.']) : isUp (encode inSet text) = false := by
  apply beq_eq_false_iff_ne.mpr
  intro reads
  exact notUp (eq_of_plainDots_encode escapesPercent (by decide) reads)

end RemoteConfig.UrlPath
