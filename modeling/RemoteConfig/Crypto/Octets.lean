import RemoteConfig.Text.Utf8

/-!
Contract: byte sequences as numbers, as blocks and as text in base sixteen.

Owns:
- numbers as bytes, the most significant one first;
- blocks of equal length, and the bitwise difference of two sequences.

Does not own: what the bytes stand for.
-/

namespace RemoteConfig.Octets

/-- The number whose digits of base 256 are given. -/
def toNat (bytes : Bytes) : Nat :=
  bytes.foldl (fun value byte => value * 256 + byte.toNat) 0

/-- The last digits of base 256 of a number, as many as are asked for. -/
def ofNat : Nat → Nat → Bytes
  | 0, _ => []
  | length + 1, value => ofNat length (value / 256) ++ [Utf8.byte (value % 256)]

/-- The bitwise difference of two sequences, as long as the shorter one. -/
def xor (left right : Bytes) : Bytes :=
  List.zipWith (fun first second => first ^^^ second) left right

/-- Blocks of one size; the last one holds what is left. -/
def blocks (size : Nat) (bytes : Bytes) : List Bytes :=
  if size = 0 ∨ bytes = [] then [] else bytes.take size :: blocks size (bytes.drop size)
termination_by bytes.length
decreasing_by
  rename_i proper
  have nonempty : bytes.length ≠ 0 := fun empty => proper (Or.inr (List.length_eq_zero_iff.1 empty))
  have positive : size ≠ 0 := fun zero => proper (Or.inl zero)
  rw [List.length_drop]
  omega

/-- A digit of base sixteen. -/
def hexDigit (value : Nat) : Char :=
  if value < 10 then Char.ofNat (48 + value) else Char.ofNat (87 + value)

/-- The text of bytes in base sixteen, with small letters. -/
def hex (bytes : Bytes) : String :=
  String.ofList (bytes.flatMap fun byte => [hexDigit (byte.toNat / 16), hexDigit (byte.toNat % 16)])

end RemoteConfig.Octets
