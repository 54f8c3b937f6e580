/-!
Contract: the powers and bounds in which the widths of numbers are stated.

Owns:
- powers of two and of ten;
- the least and the greatest integers of 32 and of 64 bits.

Does not own: what is done with a number beyond its bounds.
-/

namespace RemoteConfig.Number

/-- A power of two. -/
abbrev twoTo (exponent : Nat) : Nat :=
  Nat.pow 2 exponent

/-- A power of ten. -/
abbrev tenTo (exponent : Nat) : Nat :=
  Nat.pow 10 exponent

/-- The greatest signed integer of 32 bits. -/
abbrev greatest32 : Int := 2147483647

/-- The least signed integer of 32 bits. -/
abbrev least32 : Int := -2147483648

/-- The greatest signed integer of 64 bits. -/
abbrev greatest64 : Int := 9223372036854775807

/-- The least signed integer of 64 bits. -/
abbrev least64 : Int := -9223372036854775808

/-- The greatest unsigned integer of 64 bits. -/
abbrev greatestUnsigned64 : Int := 18446744073709551615

end RemoteConfig.Number
