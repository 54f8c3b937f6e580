import RemoteConfig.Tree.Path

/-!
Contract: the canonical text of a path.

Owns:
- canonical paths: names of small letters, digits, underscores and hyphens, and positions counted
  from the start;
- their text, from which the path is read back as long as its positions fit into 64 bits;
- a text belongs to one path only, as long as no name has a dot or an opening bracket.

Does not own: the other spellings that the grammar of paths accepts.
-/

namespace RemoteConfig

namespace Text

theorem lowerFrom_of_ascii {characters : List Char}
    (small : ∀ character ∈ characters, character.toNat < 0x80 ∧ character.toLower = character)
    (before : List Char) : lowerFrom before characters = characters := by
  induction characters generalizing before with
  | nil => rfl
  | cons character rest inductionHypothesis =>
      obtain ⟨ascii, lower⟩ := small character List.mem_cons_self
      have notSigma : character.toNat ≠ 0x3A3 := by omega
      have later := inductionHypothesis
        (fun other member => small other (List.mem_cons_of_mem _ member)) (character :: before)
      simp [lowerFrom, notSigma, lowerChar, ascii, lower, later]

/-- Text of small characters of ASCII is in lower case. -/
theorem lowercase_of_ascii {text : String}
    (small : ∀ character ∈ text.toList, character.toNat < 0x80 ∧ character.toLower = character) :
    lowercase text = text := by
  rw [lowercase, lowerFrom_of_ascii small, String.ofList_toList]

end Text

namespace Number

theorem digitsValue_toDigits (value : Nat) : digitsValue (Nat.toDigits 10 value) = value := by
  have fold := Nat.ofDigitChars_ten_toDigits (n := value)
  rw [Nat.ofDigitChars_eq_foldl] at fold
  have zero : '0'.toNat = 48 := rfl
  simpa [digitsValue, digitValue, Nat.mul_comm, zero] using fold

/-- The digits of a number are read as the number, when it fits. -/
theorem signed64?_toDigits (value : Nat) :
    signed64? (Nat.toDigits 10 value) =
      if (value : Int) ≤ greatest64 then some (value : Int) else none := by
  have digits : ∀ character ∈ Nat.toDigits 10 value, character.isDigit = true :=
    fun _ member => Nat.isDigit_of_mem_toDigits (by decide) (by decide) member
  have noSign : takeSign (Nat.toDigits 10 value) = (false, Nat.toDigits 10 value) := by
    unfold takeSign
    split
    · rename_i isMinus
      have isDigit := digits '-' (by simp [isMinus])
      exact absurd isDigit (by decide)
    · rename_i isPlus
      have isDigit := digits '+' (by simp [isPlus])
      exact absurd isDigit (by decide)
    · rfl
  have whole : integer? (Nat.toDigits 10 value) = some (value : Int) := by
    have allDigits : (Nat.toDigits 10 value).all Char.isDigit = true := List.all_eq_true.mpr digits
    simp [integer?, noSign, Nat.toDigits_ne_nil, allDigits, digitsValue_toDigits]
  have least : least64 ≤ (value : Int) := by
    unfold least64
    omega
  by_cases fits : (value : Int) ≤ greatest64
  · simp [signed64?, integerWithin?, whole, least, fits]
  · simp [signed64?, integerWithin?, whole, least, fits, Int.not_le.mp fits]

end Number

namespace Tree

/-- The characters of canonical names. -/
def isSmallNameChar (character : Char) : Bool :=
  character.isLower || character.isDigit || character == '_' || character == '-'

/-- A name of at least one small letter, digit, underscore or hyphen. -/
def IsSmallName (name : String) : Prop :=
  name ≠ "" ∧ ∀ character ∈ name.toList, isSmallNameChar character = true

/-- A canonical step: a small name, or a position counted from the start. -/
def Step.IsCanonical : Step → Prop
  | .child name => IsSmallName name
  | .position index => 0 ≤ index

/-- A position of a step fits into 64 bits with a sign. -/
def Step.InRange : Step → Prop
  | .child _ => True
  | .position index => index ≤ Number.greatest64

instance : (step : Step) → Decidable step.InRange
  | .child _ => inferInstanceAs (Decidable True)
  | .position index => inferInstanceAs (Decidable (index ≤ Number.greatest64))

/-- The text of a step; a position is written in decimal. -/
def Step.characters : Step → List Char
  | .child name => '.' :: name.toList
  | .position index => '[' :: (toString index.toNat).toList ++ [']']

namespace Path

/-- A canonical path. -/
def IsCanonical (path : Path) : Prop :=
  IsSmallName path.root ∧ ∀ step ∈ path.steps, step.IsCanonical

/-- Every position fits into 64 bits with a sign. -/
def InRange (path : Path) : Prop :=
  ∀ step ∈ path.steps, step.InRange

instance (path : Path) : Decidable path.InRange :=
  inferInstanceAs (Decidable (∀ step ∈ path.steps, step.InRange))

/-- The text of a path. -/
def text (path : Path) : String :=
  String.ofList (path.root.toList ++ path.steps.flatMap Step.characters)

end Path

/-! ### Names in texts -/

/-- The signs that end a name in the text of a path. -/
def endsName (character : Char) : Bool :=
  character == '.' || character == '['

/-- A name without the signs that end one. -/
def IsUnmarkedName (name : String) : Prop :=
  ∀ character ∈ name.toList, endsName character = false

/-- A step of an unmarked name, or a position counted from the start. -/
def Step.IsUnmarked : Step → Prop
  | .child name => IsUnmarkedName name
  | .position index => 0 ≤ index

/-- An unmarked name ends where the steps behind it begin. -/
theorem span_unmarkedName {name : String} (unmarked : IsUnmarkedName name) (steps : List Step) :
    (name.toList ++ steps.flatMap Step.characters).takeWhile (fun c => !endsName c) = name.toList ∧
      (name.toList ++ steps.flatMap Step.characters).dropWhile (fun c => !endsName c) =
        steps.flatMap Step.characters := by
  have inName : ∀ character ∈ name.toList, (!endsName character) = true := by
    intro character member
    rw [unmarked character member]
    rfl
  rw [List.takeWhile_append_of_pos inName, List.dropWhile_append_of_pos inName]
  cases steps with
  | nil => simp
  | cons step rest => cases step <;> simp [Step.characters, endsName]

/-! ### Names and positions -/

/-- Characters of canonical names are small characters of ASCII that names in paths may have. -/
theorem smallNameChar_facts {character : Char} (small : isSmallNameChar character = true) :
    character.toNat < 0x80 ∧ character.toLower = character ∧
      Path.isNameChar character = true := by
  have ascii : character.toNat < 0x80 := by
    have number : character.toNat = character.val.toNat := rfl
    simp only [isSmallNameChar, Bool.or_eq_true] at small
    rcases small with ((lower | digit) | underscore) | hyphen
    · have bounds := Bool.and_eq_true_iff.mp lower
      have below : character.val.toNat ≤ 122 :=
        UInt32.le_iff_toNat_le.mp (of_decide_eq_true bounds.2)
      omega
    · have below : character.toNat ≤ 57 := (Char.isDigit_iff_toNat.mp digit).2
      omega
    · rw [beq_iff_eq.mp underscore]
      decide
    · rw [beq_iff_eq.mp hyphen]
      decide
  have table : ∀ code < 0x80, isSmallNameChar (Char.ofNat code) = true →
      (Char.ofNat code).toLower = Char.ofNat code ∧ Path.isNameChar (Char.ofNat code) = true := by
    decide +kernel
  have entry := table character.toNat ascii
  rw [Char.ofNat_toNat] at entry
  exact ⟨ascii, entry small⟩

theorem IsSmallName.isUnmarked {name : String} (small : IsSmallName name) :
    IsUnmarkedName name := by
  intro character member
  have isSmall := small.2 character member
  have noDot : character ≠ '.' := by
    rintro rfl
    exact absurd isSmall (by decide)
  have noBracket : character ≠ '[' := by
    rintro rfl
    exact absurd isSmall (by decide)
  simp [endsName, noDot, noBracket]

theorem Step.IsCanonical.isUnmarked {step : Step} (canonical : step.IsCanonical) :
    step.IsUnmarked := by
  cases step with
  | child name => exact IsSmallName.isUnmarked canonical
  | position index => exact canonical

theorem lowercase_of_isSmallName {name : String} (small : IsSmallName name) :
    Text.lowercase name = name :=
  Text.lowercase_of_ascii fun character member =>
    have facts := smallNameChar_facts (small.2 character member)
    ⟨facts.1, facts.2.1⟩

/-- No step begins with a character of names. -/
theorem takeWhile_steps (steps : List Step) :
    (steps.flatMap Step.characters).takeWhile Path.isNameChar = [] ∧
      (steps.flatMap Step.characters).dropWhile Path.isNameChar =
        steps.flatMap Step.characters := by
  cases steps with
  | nil => simp
  | cons step rest =>
      cases step with
      | child name =>
          have notName : Path.isNameChar '.' = false := by decide
          simp [Step.characters, notName]
      | position index =>
          have notName : Path.isNameChar '[' = false := by decide
          simp [Step.characters, notName]

/-- A name ends where the steps behind it begin. -/
theorem span_name {name : String} (small : IsSmallName name) (steps : List Step) :
    (name.toList ++ steps.flatMap Step.characters).takeWhile Path.isNameChar = name.toList ∧
      (name.toList ++ steps.flatMap Step.characters).dropWhile Path.isNameChar =
        steps.flatMap Step.characters := by
  have names : ∀ character ∈ name.toList, Path.isNameChar character = true :=
    fun character member => (smallNameChar_facts (small.2 character member)).2.2
  rw [List.takeWhile_append_of_pos names, List.dropWhile_append_of_pos names,
    (takeWhile_steps steps).1, (takeWhile_steps steps).2, List.append_nil]
  exact ⟨rfl, rfl⟩

theorem name_ne_nil {name : String} (small : IsSmallName name) : name.toList ≠ [] := by
  simpa using small.1

/-- The digits of a position end at its bracket. -/
theorem span_digits (value : Nat) (rest : List Char) :
    ((toString value).toList ++ ']' :: rest).takeWhile (· != ']') = (toString value).toList ∧
      ((toString value).toList ++ ']' :: rest).dropWhile (· != ']') = ']' :: rest := by
  have digits : ∀ character ∈ (toString value).toList, (character != ']') = true := by
    intro character member
    have isDigit : character.isDigit = true := by
      rw [Nat.toString_eq_ofList_toDigits, String.toList_ofList] at member
      exact Nat.isDigit_of_mem_toDigits (by decide) (by decide) member
    have different : character ≠ ']' := by
      rintro rfl
      exact absurd isDigit (by decide)
    simpa using different
  rw [List.takeWhile_append_of_pos digits, List.dropWhile_append_of_pos digits]
  simp

theorem position?_digits (value : Nat) :
    Path.position? (toString value).toList =
      if (value : Int) ≤ Number.greatest64 then some (value : Int) else Option.none := by
  have digits : ∀ character ∈ Nat.toDigits 10 value, Path.isLayout character = false := by
    intro character member
    have isDigit := Nat.isDigit_of_mem_toDigits (by decide) (by decide) member
    have noBlank : character ≠ ' ' := by
      rintro rfl
      exact absurd isDigit (by decide)
    have noTab : character ≠ '\t' := by
      rintro rfl
      exact absurd isDigit (by decide)
    simp [Path.isLayout, noBlank, noTab]
  have untrimmed (text : List Char) (plain : ∀ character ∈ text, Path.isLayout character = false) :
      text.dropWhile Path.isLayout = text := by
    cases text with
    | nil => rfl
    | cons character rest => simp [plain character List.mem_cons_self]
  have trimmed : Text.trimBy Path.isLayout (Nat.toDigits 10 value) = Nat.toDigits 10 value := by
    rw [Text.trimBy, untrimmed _ digits,
      untrimmed _ fun character member => digits character (List.mem_reverse.mp member),
      List.reverse_reverse]
  have noPlus : (Nat.toDigits 10 value).head? ≠ some '+' := by
    intro isPlus
    have isDigit := Nat.isDigit_of_mem_toDigits (by decide) (by decide) (List.mem_of_head? isPlus)
    exact absurd isDigit (by decide)
  have characters : (toString value).toList = Nat.toDigits 10 value := by simp
  rw [characters, Path.position?, trimmed]
  simp [noPlus, Number.signed64?_toDigits]

/-! ### Reading the text of a path -/

namespace Path

theorem steps?_characters {steps : List Step} (canonical : ∀ step ∈ steps, step.IsCanonical)
    {bound : Nat} (enough : steps.length ≤ bound) :
    steps? bound (steps.flatMap Step.characters) =
      if ∀ step ∈ steps, step.InRange then some steps else Option.none := by
  induction steps generalizing bound with
  | nil => simp [steps?]
  | cons step rest inductionHypothesis =>
      obtain ⟨bound, rfl⟩ : ∃ less, bound = less + 1 :=
        ⟨bound - 1, by simp only [List.length_cons] at enough; omega⟩
      have fits : rest.length ≤ bound := by simpa using enough
      have later := inductionHypothesis
        (fun other member => canonical other (List.mem_cons_of_mem _ member)) fits
      simp only [List.forall_mem_cons]
      cases step with
      | child name =>
          have small : IsSmallName name := canonical _ List.mem_cons_self
          obtain ⟨taken, left⟩ := span_name small rest
          rw [List.flatMap_cons, Step.characters, List.cons_append, steps?]
          simp only [taken, left, later, List.isEmpty_iff, name_ne_nil small, if_false]
          by_cases fit : ∀ step ∈ rest, step.InRange
          · rw [if_pos fit, if_pos ⟨trivial, fit⟩, String.ofList_toList]
            rfl
          · rw [if_neg fit, if_neg fun all => fit all.2]
            rfl
      | position index =>
          have fromStart : 0 ≤ index := canonical _ List.mem_cons_self
          have whole : ((index.toNat : Nat) : Int) = index := Int.toNat_of_nonneg fromStart
          obtain ⟨taken, left⟩ := span_digits index.toNat (rest.flatMap Step.characters)
          have read := position?_digits index.toNat
          rw [whole] at read
          rw [List.flatMap_cons, Step.characters, List.cons_append, List.cons_append,
            List.append_assoc, List.singleton_append, steps?, taken, left, read]
          by_cases first : index ≤ Number.greatest64
          · rw [if_pos first]
            simp only [later]
            by_cases fit : ∀ step ∈ rest, step.InRange
            · rw [if_pos fit, if_pos ⟨first, fit⟩]
              rfl
            · rw [if_neg fit, if_neg fun all => fit all.2]
              rfl
          · rw [if_neg first, if_neg fun all => first all.1]

theorem length_le_characters (steps : List Step) :
    steps.length ≤ (steps.flatMap Step.characters).length := by
  induction steps with
  | nil => simp
  | cons step rest inductionHypothesis =>
      have atLeastOne : 1 ≤ step.characters.length := by
        cases step <;> simp [Step.characters]
      simp only [List.flatMap_cons, List.length_append, List.length_cons]
      omega

/-- The text of a canonical path is read as that path exactly when its positions fit. -/
theorem parse?_text {path : Path} (canonical : path.IsCanonical) :
    parse? path.text = if path.InRange then some path else Option.none := by
  obtain ⟨small, steps⟩ := canonical
  obtain ⟨taken, left⟩ := span_name small path.steps
  have enough : path.steps.length ≤
      (path.root.toList ++ path.steps.flatMap Step.characters).length := by
    have atMost := length_le_characters path.steps
    rw [List.length_append]
    omega
  have read : steps? (path.root.toList ++ path.steps.flatMap Step.characters).length
      (path.steps.flatMap Step.characters) =
        if path.InRange then some path.steps else Option.none :=
    steps?_characters steps enough
  simp only [parse?, text, String.toList_ofList, taken, left, read, List.isEmpty_iff,
    name_ne_nil small, if_false]
  by_cases fit : path.InRange
  · rw [if_pos fit, if_pos fit, String.ofList_toList]
    rfl
  · rw [if_neg fit, if_neg fit]
    rfl

/-! ### One path for a text -/

/-- Behind unmarked names, what steps are written as begins with a sign that no name has. -/
theorem name_of_append {first second : String} (firstUnmarked : IsUnmarkedName first)
    (secondUnmarked : IsUnmarkedName second) {firstSteps secondSteps : List Step}
    (same : first.toList ++ firstSteps.flatMap Step.characters =
      second.toList ++ secondSteps.flatMap Step.characters) :
    first = second ∧ firstSteps.flatMap Step.characters = secondSteps.flatMap Step.characters := by
  have taken := congrArg (List.takeWhile fun character => !endsName character) same
  have left := congrArg (List.dropWhile fun character => !endsName character) same
  rw [(span_unmarkedName firstUnmarked _).1, (span_unmarkedName secondUnmarked _).1] at taken
  rw [(span_unmarkedName firstUnmarked _).2, (span_unmarkedName secondUnmarked _).2] at left
  exact ⟨String.toList_inj.mp taken, left⟩

theorem toString_injective {first second : Nat}
    (same : (toString first).toList = (toString second).toList) : first = second := by
  have digits : Nat.toDigits 10 first = Nat.toDigits 10 second := by
    simpa [Nat.toString_eq_ofList_toDigits] using same
  calc
    first = Nat.ofDigitChars 10 (Nat.toDigits 10 first) 0 := Nat.ofDigitChars_ten_toDigits.symm
    _ = Nat.ofDigitChars 10 (Nat.toDigits 10 second) 0 := by rw [digits]
    _ = second := Nat.ofDigitChars_ten_toDigits

/-- Steps of unmarked names, each written behind a sign that no name has, are told apart by their
text. -/
theorem steps_injective {first second : List Step}
    (firstUnmarked : ∀ step ∈ first, step.IsUnmarked)
    (secondUnmarked : ∀ step ∈ second, step.IsUnmarked)
    (same : first.flatMap Step.characters = second.flatMap Step.characters) : first = second := by
  induction first generalizing second with
  | nil =>
      cases second with
      | nil => rfl
      | cons other _ => cases other <;> simp [Step.characters] at same
  | cons step rest inductionHypothesis =>
      cases second with
      | nil => cases step <;> simp [Step.characters] at same
      | cons other otherRest =>
          have later (rests : rest.flatMap Step.characters = otherRest.flatMap Step.characters) :
              rest = otherRest :=
            inductionHypothesis
              (fun step member => firstUnmarked step (List.mem_cons_of_mem _ member))
              (fun step member => secondUnmarked step (List.mem_cons_of_mem _ member)) rests
          have unmarked := firstUnmarked step List.mem_cons_self
          have otherUnmarked := secondUnmarked other List.mem_cons_self
          cases step with
          | child name =>
              cases other with
              | position index => simp [Step.characters] at same
              | child otherName =>
                  simp only [List.flatMap_cons, Step.characters, List.cons_append,
                    List.cons.injEq, true_and] at same
                  obtain ⟨sameName, sameRest⟩ := name_of_append unmarked otherUnmarked same
                  rw [sameName, later sameRest]
          | position index =>
              cases other with
              | child otherName => simp [Step.characters] at same
              | position otherIndex =>
                  simp only [List.flatMap_cons, Step.characters, List.cons_append,
                    List.append_assoc, List.cons.injEq, true_and] at same
                  have taken := congrArg (List.takeWhile (· != ']')) same
                  have left := congrArg (List.dropWhile (· != ']')) same
                  rw [(span_digits index.toNat _).1, (span_digits otherIndex.toNat _).1] at taken
                  rw [(span_digits index.toNat _).2, (span_digits otherIndex.toNat _).2,
                    List.cons.injEq] at left
                  have sameIndex : index = otherIndex := by
                    have fromStart : 0 ≤ index := unmarked
                    have otherFromStart : 0 ≤ otherIndex := otherUnmarked
                    have sameNumber := toString_injective taken
                    omega
                  rw [sameIndex, later left.2]

/-- A path of unmarked names is told apart from all others by its text. -/
theorem eq_of_text {first second : Path} (firstUnmarked : IsUnmarkedName first.root)
    (firstSteps : ∀ step ∈ first.steps, step.IsUnmarked)
    (secondUnmarked : IsUnmarkedName second.root)
    (secondSteps : ∀ step ∈ second.steps, step.IsUnmarked) (same : first.text = second.text) :
    first = second := by
  obtain ⟨sameRoot, sameSteps⟩ :=
    name_of_append firstUnmarked secondUnmarked (String.ofList_injective same)
  rw [Path.mk.injEq]
  exact ⟨sameRoot, steps_injective firstSteps secondSteps sameSteps⟩

theorem text_injective {first second : Path} (firstCanonical : first.IsCanonical)
    (secondCanonical : second.IsCanonical) (same : first.text = second.text) : first = second :=
  eq_of_text firstCanonical.1.isUnmarked
    (fun step member => (firstCanonical.2 step member).isUnmarked)
    secondCanonical.1.isUnmarked
    (fun step member => (secondCanonical.2 step member).isUnmarked) same

end Path

end Tree

end RemoteConfig
