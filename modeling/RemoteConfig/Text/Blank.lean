/-!
Contract: blank characters, blank text, and trimming at both ends.

Owns:
- the class of characters with the Unicode property `White_Space`;
- trimming of character lists and strings;
- the test whether a string has text, that is, a character that is not blank.

Does not own: how a list or a label is split.
-/

namespace RemoteConfig.Text

/-- The characters with the Unicode property `White_Space`. -/
def isBlankChar (character : Char) : Bool :=
  let code := character.toNat
  (9 ≤ code && code ≤ 13) || code == 0x20 || code == 0x85 || code == 0xA0 || code == 0x1680
    || (0x2000 ≤ code && code ≤ 0x200A) || code == 0x2028 || code == 0x2029 || code == 0x202F
    || code == 0x205F || code == 0x3000

/-- Removes the longest run that satisfies the test from both ends. -/
def trimBy (test : Char → Bool) (text : List Char) : List Char :=
  (((text.dropWhile test).reverse).dropWhile test).reverse

/-- The string without leading and trailing blanks. -/
def trim (text : String) : String :=
  String.ofList (trimBy isBlankChar text.toList)

/-- Trimming adds no character. -/
theorem mem_of_mem_trim {text : String} {character : Char} (member : character ∈ (trim text).toList) :
    character ∈ text.toList := by
  rw [trim, String.toList_ofList, trimBy, List.mem_reverse] at member
  have reversed := (List.dropWhile_sublist _).subset member
  exact (List.dropWhile_sublist _).subset (List.mem_reverse.mp reversed)

/-- Behind a beginning that is kept, only the end is trimmed. -/
theorem trimBy_append {test : Char → Bool} {front : List Char} (nonempty : front ≠ [])
    (kept : ∀ character ∈ front, test character = false) (tail : List Char) :
    trimBy test (front ++ tail) = front ++ (tail.reverse.dropWhile test).reverse := by
  have untouched {first : Char} (rest : List Char) (member : first ∈ front) :
      (first :: rest).dropWhile test = first :: rest := by
    rw [List.dropWhile_cons, kept first member, if_neg Bool.false_ne_true]
  have start : (front ++ tail).dropWhile test = front ++ tail := by
    obtain ⟨first, rest, rfl⟩ := List.exists_cons_of_ne_nil nonempty
    exact untouched (rest ++ tail) List.mem_cons_self
  have ending : front.reverse.dropWhile test = front.reverse := by
    cases reversed : front.reverse with
    | nil => rfl
    | cons last others =>
      apply untouched
      rw [← List.mem_reverse, reversed]
      exact List.mem_cons_self
  rw [trimBy, start, List.reverse_append, List.dropWhile_append]
  split
  · rename_i isEmpty
    rw [ending, List.isEmpty_iff.mp isEmpty, List.reverse_reverse, List.reverse_nil, List.append_nil]
  · rw [List.reverse_append, List.reverse_reverse]

/-- A string has text when some character of it is not blank. -/
def hasText (text : String) : Bool :=
  text.toList.any fun character => !isBlankChar character

/-- Keeps an optional string only when it has text. -/
def nonBlank (text : Option String) : Option String :=
  text.filter hasText

theorem nonBlank_of_hasText {text : String} (isText : hasText text = true) :
    nonBlank (some text) = some text := by
  simp [nonBlank, isText]

theorem nonBlank_of_blank {text : String} (isBlank : hasText text = false) :
    nonBlank (some text) = none := by
  simp [nonBlank, isBlank]

end RemoteConfig.Text
