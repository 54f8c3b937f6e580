import RemoteConfig.Text.Utf8

/-!
Contract: text is read back from its bytes.

Owns:
- the number of bytes of a text;
- what the first byte of a character announces, for each number of bytes;
- the bytes of a character are one unit, whatever follows them;
- `decode?_encodeChars`: decoding undoes encoding, so different texts have different bytes.

Does not own: bytes that no text was encoded into.
-/

namespace RemoteConfig.Utf8

theorem toNat_byte {value : Nat} (below : value < 256) : (byte value).toNat = value :=
  UInt8.toNat_ofNat_of_lt below

theorem length_encodeChar_pos (character : Char) : 1 ≤ (encodeChar character).length := by
  unfold encodeChar
  dsimp only
  split
  · exact Nat.le_refl 1
  · split
    · exact Nat.le_add_left 1 1
    · split <;> exact Nat.le_add_left 1 _

/-- Text has at most as many characters as bytes. -/
theorem length_le_encode (text : String) : text.toList.length ≤ (encode text).length := by
  unfold encode encodeChars
  rw [List.length_flatMap]
  induction text.toList with
  | nil => exact Nat.le_refl _
  | cons character rest inductionHypothesis =>
      have first := length_encodeChar_pos character
      rw [List.map_cons, List.sum_cons, List.length_cons]
      omega

/-! ### Announcements -/

variable {code : Nat}

theorem announcement?_oneByte (below : code < 0x80) :
    announcement? (byte code).toNat = some ⟨0, 0, 0, code⟩ := by
  rw [toNat_byte (by omega)]
  exact if_pos below

theorem announcement?_twoBytes (above : 0x80 ≤ code) (below : code < 0x800) :
    announcement? (byte (0xC0 + code / 64)).toNat = some ⟨1, 0x80, 0xBF, code / 64⟩ := by
  rw [toNat_byte (by omega)]
  unfold announcement?
  rw [if_neg (by omega), if_neg (by omega), if_pos (by omega), Nat.add_sub_cancel_left]

/-- The range of the second byte depends on the first: short forms and surrogates are no characters. -/
theorem announcement?_threeBytes (above : 0x800 ≤ code) (below : code < 0x10000)
    (noSurrogate : code < 0xD800 ∨ 0xDFFF < code) :
    ∃ low high, announcement? (byte (0xE0 + code / 4096)).toNat = some ⟨2, low, high, code / 4096⟩ ∧
      low ≤ 0x80 + code / 64 % 64 ∧ 0x80 + code / 64 % 64 ≤ high := by
  rw [toNat_byte (by omega)]
  unfold announcement?
  rw [if_neg (by omega), if_neg (by omega), if_neg (by omega)]
  by_cases isLeast : code / 4096 = 0
  · exact ⟨_, _, by rw [if_pos (by omega), isLeast], by omega, by omega⟩
  · rw [if_neg (by omega)]
    by_cases hasSurrogates : code / 4096 = 13
    · exact ⟨_, _, by rw [if_pos (by omega), Nat.add_sub_cancel_left], by omega, by omega⟩
    · rw [if_neg (by omega), if_pos (by omega), Nat.add_sub_cancel_left]
      exact ⟨_, _, rfl, by omega, by omega⟩

theorem announcement?_fourBytes (above : 0x10000 ≤ code) (below : code < 0x110000) :
    ∃ low high,
      announcement? (byte (0xF0 + code / 262144)).toNat = some ⟨3, low, high, code / 262144⟩ ∧
      low ≤ 0x80 + code / 4096 % 64 ∧ 0x80 + code / 4096 % 64 ≤ high := by
  rw [toNat_byte (by omega)]
  unfold announcement?
  rw [if_neg (by omega), if_neg (by omega), if_neg (by omega), if_neg (by omega),
    if_neg (by omega), if_neg (by omega)]
  by_cases isLeast : code / 262144 = 0
  · exact ⟨_, _, by rw [if_pos (by omega), isLeast], by omega, by omega⟩
  · rw [if_neg (by omega)]
    by_cases isGreatest : code / 262144 = 4
    · rw [if_neg (by omega), if_pos (by omega), Nat.add_sub_cancel_left]
      exact ⟨_, _, rfl, by omega, by omega⟩
    · rw [if_pos (by omega), Nat.add_sub_cancel_left]
      exact ⟨_, _, rfl, by omega, by omega⟩

/-! ### Units -/

/-- A byte with an announcement begins a unit, which ends where the collecting stops. -/
theorem units_cons {first : UInt8} {announced : Announcement}
    (isAnnounced : announcement? first.toNat = some announced) {rest left : Bytes}
    {value : Option Nat}
    (collected : collect announced.following announced.low announced.high announced.bits rest =
      (value, left)) :
    units (first :: rest) = value.map Char.ofNat :: units left := by
  rw [units]
  split
  · rename_i isNone
    rw [isAnnounced] at isNone
    cases isNone
  · rename_i other isOther
    rw [isAnnounced] at isOther
    cases isOther
    split
    rename_i found
    rw [collected] at found
    cases found
    rfl

theorem collect_continuation {low high value : Nat} (above : low ≤ 0x80 + value % 64)
    (below : 0x80 + value % 64 ≤ high) (following bits : Nat) (rest : Bytes) :
    collect (following + 1) low high bits (continuation value :: rest) =
      collect following 0x80 0xBF (bits * 64 + value % 64) rest := by
  have isByte : (continuation value).toNat = 0x80 + value % 64 := toNat_byte (by omega)
  rw [collect, isByte, if_pos ⟨above, below⟩, Nat.add_sub_cancel_left]

/-- A continuation byte that is not the first of its kind may hold any six bits. -/
theorem collect_laterContinuation (following value bits : Nat) (rest : Bytes) :
    collect (following + 1) 0x80 0xBF bits (continuation value :: rest) =
      collect following 0x80 0xBF (bits * 64 + value % 64) rest :=
  collect_continuation (by omega) (by omega) following bits rest

theorem units_encodeChar (character : Char) (rest : Bytes) :
    units (encodeChar character ++ rest) = some character :: units rest := by
  have valid : character.toNat < 0xD800 ∨
      0xDFFF < character.toNat ∧ character.toNat < 0x110000 := character.valid
  have isCharacter {number : Nat} (same : number = character.toNat) :
      (some number).map Char.ofNat = some character := by
    rw [same, Option.map_some, Char.ofNat_toNat]
  unfold encodeChar
  generalize character.toNat = code at valid isCharacter ⊢
  dsimp only
  split
  · rename_i one
    show units (byte code :: rest) = _
    rw [units_cons (announcement?_oneByte one) rfl, isCharacter rfl]
  · split
    · rename_i notOne two
      show units (byte (0xC0 + code / 64) :: continuation code :: rest) = _
      have collected := collect_laterContinuation 0 code (code / 64) rest
      rw [units_cons (announcement?_twoBytes (by omega) two) collected, isCharacter (by omega)]
    · split
      · rename_i _ notTwo three
        obtain ⟨low, high, announced, above, below⟩ :=
          announcement?_threeBytes (by omega) three (by omega)
        show units (byte (0xE0 + code / 4096) :: continuation (code / 64) :: continuation code ::
          rest) = _
        have collected := collect_continuation above below 1 (code / 4096) (continuation code :: rest)
        rw [collect_laterContinuation] at collected
        rw [units_cons announced collected, isCharacter (by omega)]
      · rename_i _ _ notThree
        obtain ⟨low, high, announced, above, below⟩ :=
          @announcement?_fourBytes code (by omega) (by omega)
        show units (byte (0xF0 + code / 262144) :: continuation (code / 4096) ::
          continuation (code / 64) :: continuation code :: rest) = _
        have collected := collect_continuation above below 2 (code / 262144)
          (continuation (code / 64) :: continuation code :: rest)
        rw [collect_laterContinuation, collect_laterContinuation] at collected
        rw [units_cons announced collected, isCharacter (by omega)]

/-! ### Texts -/

theorem units_encodeChars (text : List Char) : units (encodeChars text) = text.map some := by
  induction text with
  | nil => simp [encodeChars, units]
  | cons character rest inductionHypothesis =>
      show units (encodeChar character ++ encodeChars rest) = _
      rw [units_encodeChar, inductionHypothesis]
      rfl

theorem decode?_encodeChars (text : List Char) :
    decode? (encodeChars text) = some (String.ofList text) := by
  have whole : (text.map some).mapM id = some text := by
    rw [List.mapM_map]
    exact List.mapM_pure.trans (congrArg some (List.map_id text))
  rw [decode?, units_encodeChars, whole]
  rfl

theorem encodeChars_injective : Function.Injective encodeChars := by
  intro first second same
  have decoded := decode?_encodeChars first
  rw [same, decode?_encodeChars] at decoded
  exact (String.ofList_injective (Option.some.inj decoded)).symm

theorem encode_injective : Function.Injective encode := by
  intro first second same
  exact String.toList_injective (encodeChars_injective same)

end RemoteConfig.Utf8
