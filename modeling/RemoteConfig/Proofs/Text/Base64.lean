import RemoteConfig.Text.Base64

/-!
Contract: text of 64 characters is read back as the bytes that it was written for.

Owns:
- forms whose digits are legible, and that the three forms are;
- `decode?_encodeChars`: decoding undoes encoding in every legible form.

Does not own: text that was not written by the encoding.
-/

namespace RemoteConfig.Base64

/-- Every digit of a form stands for its six bits and is no padding. -/
def Form.Legible (form : Form) : Prop :=
  ∀ value < 64, value? form (digit form value) = some value ∧ digit form value ≠ '='

theorem legible_forms : ∀ form ∈ [standard, locator, compactLocator], form.Legible := by
  unfold Form.Legible
  decide

theorem decode?_cons (form : Form) {a b c d : Char} (notPadding : d ≠ '=') (rest : List Char) :
    decode? form (a :: b :: c :: d :: rest) =
      (group? form a b c d).bind fun bytes =>
        (decode? form rest).bind fun others => some (bytes ++ others) := by
  rw [decode?]
  · rfl
  · intro _ isPadding
    simp_all
  · intro isPadding
    simp_all

theorem byte_eq {value : Nat} {byte : UInt8} (same : value = byte.toNat) :
    Utf8.byte value = byte := by
  rw [same]
  exact UInt8.ofNat_toNat

section Legible

variable {form : Form} (legible : form.Legible)

include legible

theorem value?_digit {value : Nat} (below : value < 64) :
    value? form (digit form value) = some value :=
  (legible value below).1

theorem group?_digits (first second third : UInt8) :
    let value := (first.toNat * 256 + second.toNat) * 256 + third.toNat
    group? form (digit form (value / 262144)) (digit form (value / 4096 % 64))
      (digit form (value / 64 % 64)) (digit form (value % 64)) = some [first, second, third] := by
  intro value
  have firstBelow := first.toNat_lt
  have secondBelow := second.toNat_lt
  have thirdBelow := third.toNat_lt
  unfold group?
  rw [value?_digit legible (by omega), value?_digit legible (by omega),
    value?_digit legible (by omega), value?_digit legible (by omega)]
  simp only [Option.bind_eq_bind, Option.bind_some, Option.pure_def, Option.some.injEq,
    List.cons.injEq, and_true]
  refine ⟨byte_eq ?_, byte_eq ?_, byte_eq ?_⟩ <;> omega

theorem lastTwo?_digits (first second : UInt8) :
    let value := (first.toNat * 256 + second.toNat) * 4
    lastTwo? form (digit form (value / 4096)) (digit form (value / 64 % 64))
      (digit form (value % 64)) = some [first, second] := by
  intro value
  have firstBelow := first.toNat_lt
  have secondBelow := second.toNat_lt
  have noBits : value % 64 % 4 = 0 := by omega
  unfold lastTwo?
  rw [value?_digit legible (by omega), value?_digit legible (by omega),
    value?_digit legible (by omega)]
  simp only [Option.bind_eq_bind, Option.bind_some, noBits, ↓reduceIte, Option.some.injEq,
    List.cons.injEq, and_true]
  refine ⟨byte_eq ?_, byte_eq ?_⟩ <;> omega

theorem lastOne?_digits (first : UInt8) :
    let value := first.toNat * 16
    lastOne? form (digit form (value / 64)) (digit form (value % 64)) = some [first] := by
  intro value
  have firstBelow := first.toNat_lt
  have noBits : value % 64 % 16 = 0 := by omega
  unfold lastOne?
  rw [value?_digit legible (by omega), value?_digit legible (by omega)]
  simp only [Option.bind_eq_bind, Option.bind_some, noBits, ↓reduceIte, Option.some.injEq,
    List.cons.injEq, and_true]
  refine byte_eq ?_
  omega

/-- Decoding undoes encoding. -/
theorem decode?_encodeChars (bytes : Bytes) :
    decode? form (encodeChars form bytes) = some bytes := by
  induction bytes using encodeChars.induct with
  | case1 => rfl
  | case2 first =>
      have last := lastOne?_digits legible first
      cases padded : form.padded <;> simp [encodeChars, padding, padded, decode?, last]
  | case3 first second =>
      have last := lastTwo?_digits legible first second
      cases padded : form.padded with
      | false => simp [encodeChars, padding, padded, decode?, last]
      | true =>
          -- The case of two paddings comes first in the decoding; this rules it out.
          have notPadding := (legible ((first.toNat * 256 + second.toNat) * 4 % 64) (by omega)).2
          simp [encodeChars, padding, padded, decode?, last]
  | case4 first second third rest inductionHypothesis =>
      have group := group?_digits legible first second third
      have notPadding :=
        (legible (((first.toNat * 256 + second.toNat) * 256 + third.toNat) % 64) (by omega)).2
      rw [encodeChars, decode?_cons form notPadding, group, inductionHypothesis]
      rfl

/-- Different bytes are written differently. -/
theorem encode_injective {first second : Bytes} (same : encode form first = encode form second) :
    first = second := by
  have chars : encodeChars form first = encodeChars form second := String.ofList_injective same
  have decoded := decode?_encodeChars legible first
  rw [chars, decode?_encodeChars legible second] at decoded
  exact (Option.some.inj decoded).symm

end Legible

end RemoteConfig.Base64
