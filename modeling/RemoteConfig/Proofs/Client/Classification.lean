import RemoteConfig.Client.Layer
import RemoteConfig.Proofs.Pattern.Spelling
import RemoteConfig.Text.Ascii

/-!
Contract: which layers are for a profile whose name is a word.

Owns:
- what the pattern of the layers for such a profile reads as, and when it can be made;
- `occursIn_layered`: the names in which that pattern occurs;
- `classify_eq_profileSpecific_iff`: the layers that are for one of several such profiles.

Does not own: profiles that are patterns of their own.
-/

namespace RemoteConfig.Profile

open Pattern

/-- A letter or digit of ASCII, or an underscore. -/
def IsWordChar (character : Char) : Prop :=
  character.isAlphanum = true ∨ character = '_'

instance (character : Char) : Decidable (IsWordChar character) :=
  inferInstanceAs (Decidable (_ ∨ _))

/-- A word of ASCII letters, digits and underscores. -/
def IsWord (profile : String) : Prop :=
  profile ≠ "" ∧ ∀ character ∈ profile.toList, IsWordChar character

instance (profile : String) : Decidable (IsWord profile) :=
  @instDecidableAnd _ _ _ (List.decidableBAll _ profile.toList)

/-! ### Reading the pattern of a profile -/

/-- The characters of a line. -/
def inLine : CharSet :=
  .complement (.single '\n')

/-- The characters in front of a profile in the name of a layer. -/
def separators : CharSet :=
  .union (.single '-') (.single ',')

/-- What the pattern of the layers for a profile has in front of the profile. -/
def opening : List Pattern :=
  [.condition .textStart, run inLine, .one separators]

/-- What the pattern of the layers for a profile has behind the profile. -/
def ending : List Pattern :=
  [.condition (.wordBoundary .wordChars), run inLine, .condition .textEnd]

/-- What the pattern of the layers for a word reads as. -/
def layered (profile : String) : Pattern :=
  sequenceOf (opening ++ (spelled profile.toList ++ ending))

/-- A character of a word is read as itself. -/
theorem group?_wordChar {character : Char} (isWordChar : IsWordChar character) (bound : Nat)
    (progress : Parse.Progress) (rest : List Char) :
    Parse.group? (bound + 1) false Flags.start progress (character :: rest) =
      Parse.group? bound false Flags.start
        (Parse.push progress (some (.one (.single character)))) rest := by
  conv => lhs; unfold Parse.group?
  have plain : Parse.skip Flags.start (character :: rest) = character :: rest := rfl
  rw [plain]
  split
  all_goals
    rename_i same
    cases same
  -- A sign with a meaning of its own is no character of a word.
  all_goals first
    | exact absurd isWordChar (by decide)
    | rfl

theorem group?_word {word : List Char} (isWord : ∀ character ∈ word, IsWordChar character)
    (bound : Nat) (items : List (Option Pattern)) (rest : List Char) :
    Parse.group? (word.length + bound) false Flags.start ⟨[], items, []⟩ (word ++ rest) =
      Parse.group? bound false Flags.start ⟨[], ((spelled word).map some).reverse ++ items, []⟩
        rest := by
  induction word generalizing items with
  | nil => simp [spelled]
  | cons character word inductionHypothesis =>
      obtain ⟨isWordChar, others⟩ := List.forall_mem_cons.mp isWord
      rw [List.length_cons, Nat.succ_add, List.cons_append, group?_wordChar isWordChar]
      refine (inductionHypothesis others (some (.one (.single character)) :: items)).trans ?_
      simp [spelled]

/-- The pattern of the layers for a word is read, up to its end. -/
theorem group?_layerPattern {profile : String} (isWord : IsWord profile) :
    Parse.group? ((layerPattern profile).toList.length + 1) false Flags.start ⟨[], [], []⟩
        (layerPattern profile).toList = some (layered profile, [], []) := by
  have characters : (layerPattern profile).toList =
      '^' :: '.' :: '*' :: '[' :: '-' :: ',' :: ']' ::
        (profile.toList ++ ['\\', 'b', '.', '*', '$']) := by
    simp [layerPattern]
  have opened (rest : List Char) (bound : Nat) :
      Parse.group? (bound + 4) false Flags.start ⟨[], [], []⟩
          ('^' :: '.' :: '*' :: '[' :: '-' :: ',' :: ']' :: rest) =
        Parse.group? bound false Flags.start ⟨[], (opening.map some).reverse, []⟩ rest := by
    rfl
  have closed (items : List (Option Pattern)) (bound : Nat) :
      Parse.group? (bound + 5) false Flags.start ⟨[], items, []⟩ ['\\', 'b', '.', '*', '$'] =
        some (sequenceOf (((ending.map some).reverse ++ items).reverse.filterMap id), [], []) := by
    rfl
  have bound : (layerPattern profile).toList.length + 1 = profile.toList.length + (4 + 5) + 4 := by
    simp [characters]
  have kept (patterns : List Pattern) : (patterns.map some).filterMap id = patterns := by
    rw [List.filterMap_map]
    exact List.filterMap_some
  rw [bound, characters, opened, group?_word isWord.2, closed]
  simp only [List.reverse_append, List.reverse_reverse, List.filterMap_append, kept,
    List.append_assoc]
  rfl

/-- The characters of words are in ASCII. -/
theorem toNat_wordChar {character : Char} (isWordChar : IsWordChar character) :
    character.toNat < 0x80 := by
  rcases isWordChar with isAlphanum | rfl
  · exact Text.toNat_lt_of_isAlphanum isAlphanum
  · decide

/-- Each character of a word is a state of the machine. -/
theorem size_spelled {word : List Char} (isWord : ∀ character ∈ word, IsWordChar character) :
    size (sequenceOf (spelled word)) = CharSet.stateSize * word.length := by
  induction word with
  | nil => rfl
  | cons character word inductionHypothesis =>
      obtain ⟨isWordChar, others⟩ := List.forall_mem_cons.mp isWord
      have single : character.utf8Size = 1 :=
        Char.utf8Size_eq_one_iff.mpr (Nat.le_of_lt_succ (toNat_wordChar isWordChar))
      have unfolded : size (sequenceOf (spelled (character :: word))) =
          CharSet.stateSize * character.utf8Size + size (sequenceOf (spelled word)) := rfl
      rw [unfolded, single, inductionHypothesis others, ← Nat.mul_add, List.length_cons,
        Nat.add_comm 1]

theorem size_layered {profile : String} (isWord : IsWord profile) :
    size (layered profile) = CharSet.stateSize * profile.toList.length + 2248 := by
  have opens : size (sequenceOf opening) = 1144 := by decide
  have ends : size (sequenceOf ending) = 1104 := by decide
  rw [layered, size_sequenceOf_append, size_sequenceOf_append, size_spelled isWord.2, opens, ends]
  omega

theorem ofString?_layerPattern {profile : String} (isWord : IsWord profile) :
    Pattern.ofString? (layerPattern profile) =
      if fits (layered profile) then some (layered profile) else none := by
  unfold Pattern.ofString?
  dsimp only
  rw [group?_layerPattern isWord]

/-- The pattern of the layers for a profile can be made. -/
def MakesPattern (profile : String) : Prop :=
  (Pattern.ofString? (layerPattern profile)).isSome = true

/-- A word makes a pattern if the machine of that pattern fits. -/
theorem makesPattern_iff_fits {profile : String} (isWord : IsWord profile) :
    MakesPattern profile ↔ fits (layered profile) = true := by
  rw [MakesPattern, ofString?_layerPattern isWord]
  split <;> simp_all

/-- A word makes a pattern if its characters, and the states around them, have room in the machine. -/
theorem makesPattern_iff_length {profile : String} (isWord : IsWord profile) :
    MakesPattern profile ↔ CharSet.stateSize * profile.toList.length + 2312 ≤ sizeLimit := by
  rw [makesPattern_iff_fits isWord, fits, decide_eq_true_iff, size_layered isWord]
  rfl

/-- A word makes a pattern unless it is as long as a book. -/
theorem makesPattern_of_isWord {profile : String} (isWord : IsWord profile)
    (short : profile.toList.length ≤ 300000) : MakesPattern profile := by
  rw [makesPattern_iff_length isWord, CharSet.stateSize, sizeLimit]
  omega

/-! ### The names in which the pattern occurs -/

/-- A profile stands in a name: behind a separator, and no word goes on behind it. -/
def StandsIn (profile name : String) : Prop :=
  ∃ front separator behind, name.toList = front ++ separator :: (profile.toList ++ behind) ∧
    (separator = '-' ∨ separator = ',') ∧ behind.head?.any Unicode.isWordChar = false

theorem contains_separators (character : Char) :
    separators.contains character = true ↔ character = '-' ∨ character = ',' := by
  simp [separators, CharSet.contains]

/-- A run of characters of a line is any text without line ends. -/
theorem spans_line {read rest : List Char} {stop : Nat} :
    Spans (read ++ rest).toArray (run inLine) read.length stop ↔
      ∃ taken behind, rest = taken ++ behind ∧ '\n' ∉ taken ∧ stop = (read ++ taken).length := by
  have inLine_iff (taken : List Char) :
      (∀ character ∈ taken, inLine.contains character = true) ↔ '\n' ∉ taken := by
    simp only [inLine, CharSet.contains, Bool.not_eq_true', beq_eq_false_iff_ne]
    exact List.forall_mem_ne'
  simp only [spans_run, inLine_iff]

theorem IsWordChar.isWordChar {character : Char} (isWordChar : IsWordChar character) :
    Unicode.isWordChar character = true := by
  unfold Unicode.isWordChar
  rw [if_pos (toNat_wordChar isWordChar)]
  simpa [IsWordChar] using isWordChar

theorem any_getLast?_word {profile : String} (isWord : IsWord profile) (front : List Char) :
    (front ++ profile.toList).getLast?.any Unicode.isWordChar = true := by
  obtain ⟨nonempty, characters⟩ := isWord
  have some : profile.toList ≠ [] := by simpa using nonempty
  rw [List.getLast?_append, List.getLast?_eq_some_getLast some, Option.some_or, Option.any_some]
  exact (characters _ (List.getLast_mem some)).isWordChar

/-- Behind a character of a word, what is left of the pattern matches the rest of the line, unless the
word goes on. -/
theorem spans_ending {read : List Char} (isWord : read.getLast?.any Unicode.isWordChar = true)
    (behind : List Char) :
    (∃ stop, Spans (read ++ behind).toArray (sequenceOf ending) read.length stop) ↔
      behind.head?.any Unicode.isWordChar = false ∧ '\n' ∉ behind := by
  have boundary : (Condition.wordBoundary .wordChars).holds read.getLast? behind.head? = true ↔
      behind.head?.any Unicode.isWordChar = false := by
    have last : read.getLast?.any (CharSet.contains .wordChars) = true := isWord
    rw [Condition.holds, last]
    cases isNext : behind.head?.any (CharSet.contains .wordChars) with
    | false => exact iff_of_true rfl isNext
    | true => exact iff_of_false (by decide) fun ends => absurd (isNext.symm.trans ends) (by decide)
  constructor
  · rintro ⟨stop, second, isBoundary, third, isLine, fourth, isEnd, _⟩
    obtain ⟨holds, rfl⟩ := (spans_condition _).mp isBoundary
    obtain ⟨taken, left, rfl, oneLine, rfl⟩ := spans_line.mp isLine
    rw [← List.append_assoc] at isEnd
    obtain ⟨noMore, _⟩ := (spans_condition _).mp isEnd
    have nothing : left = [] := List.head?_eq_none_iff.mp (Option.isNone_iff_eq_none.mp noMore)
    refine ⟨boundary.mp holds, ?_⟩
    rw [nothing, List.append_nil]
    exact oneLine
  · rintro ⟨ends, oneLine⟩
    have atBoundary : Spans (read ++ behind).toArray (.condition (.wordBoundary .wordChars))
        read.length read.length := (spans_condition _).mpr ⟨boundary.mpr ends, rfl⟩
    have isLine : Spans (read ++ behind).toArray (run inLine) read.length (read ++ behind).length :=
      spans_line.mpr ⟨behind, [], (List.append_nil _).symm, oneLine, rfl⟩
    have atEnd : Spans (read ++ behind ++ []).toArray (.condition .textEnd)
        (read ++ behind).length (read ++ behind).length := (spans_condition _).mpr ⟨rfl, rfl⟩
    rw [List.append_nil] at atEnd
    exact ⟨_, _, atBoundary, _, isLine, _, atEnd, rfl⟩

/-- In front of a profile the pattern matches all of a line from the start of the text, up to a
separator. -/
theorem spans_opening {text : List Char} (others : List Pattern) :
    (∃ start stop, start ≤ text.length ∧
        Spans text.toArray (sequenceOf (opening ++ others)) start stop) ↔
      ∃ front separator rest stop, text = front ++ separator :: rest ∧ '\n' ∉ front ∧
        (separator = '-' ∨ separator = ',') ∧
          Spans (front ++ [separator] ++ rest).toArray (sequenceOf others)
            (front ++ [separator]).length stop := by
  constructor
  · rintro ⟨start, stop, inside, second, isStart, third, isLine, fourth, isSeparator, further⟩
    obtain ⟨noneBefore, rfl⟩ := isStart
    obtain rfl : second = 0 := eq_zero_of_before? inside noneBefore
    have fromStart : Spans ([] ++ text).toArray (run inLine) ([] : List Char).length third := isLine
    obtain ⟨front, left, rfl, oneLine, rfl⟩ := spans_line.mp fromStart
    obtain ⟨separator, rest, rfl, contained, rfl⟩ := (spans_one separators).mp isSeparator
    refine ⟨front, separator, rest, stop, rfl, oneLine,
      (contains_separators separator).mp contained, ?_⟩
    rw [← List.append_cons]
    exact further
  · rintro ⟨front, separator, rest, stop, rfl, oneLine, isSeparator, further⟩
    have isLine : Spans ([] ++ (front ++ separator :: rest)).toArray (run inLine)
        ([] : List Char).length front.length :=
      spans_line.mpr ⟨front, separator :: rest, rfl, oneLine, rfl⟩
    have isOne : Spans (front ++ separator :: rest).toArray (.one separators) front.length
        (front ++ [separator]).length :=
      (spans_one separators).mpr
        ⟨separator, rest, rfl, (contains_separators separator).mpr isSeparator, rfl⟩
    rw [← List.append_cons] at further
    exact ⟨0, stop, Nat.zero_le _, 0, ⟨rfl, rfl⟩, front.length, isLine, _, isOne, further⟩

/-- The pattern of a word occurs in the names of a single line in which the word stands. -/
theorem occursIn_layered {profile : String} (isWord : IsWord profile) (name : String) :
    (layered profile).occursIn name = true ↔ '\n' ∉ name.toList ∧ StandsIn profile name := by
  rw [occursIn_iff, layered, spans_opening]
  simp only [spans_spelled]
  have oneLineWord : '\n' ∉ profile.toList :=
    fun member => absurd (isWord.2 _ member) (by decide)
  constructor
  · rintro ⟨front, separator, rest, stop, isName, oneLine, isSeparator, behind, rfl, further⟩
    obtain ⟨ends, oneLineBehind⟩ :=
      (spans_ending (any_getLast?_word isWord _) behind).mp ⟨stop, further⟩
    refine ⟨?_, front, separator, behind, isName, isSeparator, ends⟩
    have notSeparator : '\n' ≠ separator := by
      rcases isSeparator with rfl | rfl <;> decide
    simp [isName, oneLine, notSeparator, oneLineWord, oneLineBehind]
  · rintro ⟨oneLine, front, separator, behind, isName, isSeparator, ends⟩
    have oneLineBehind : '\n' ∉ behind := by
      intro member
      simp [isName, member] at oneLine
    have oneLineFront : '\n' ∉ front := by
      intro member
      simp [isName, member] at oneLine
    obtain ⟨stop, further⟩ := (spans_ending
      (any_getLast?_word isWord (front ++ [separator])) behind).mpr ⟨ends, oneLineBehind⟩
    exact ⟨front, separator, profile.toList ++ behind, stop, isName, oneLineFront, isSeparator,
      behind, rfl, further⟩

/-! ### The layers of words -/

theorem servedName_ne_overridesName {source : String} (other : source ≠ "overrides") :
    Layer.servedName source ≠ Layer.overridesName := by
  intro same
  exact other ((String.append_right_inj "configserver:").mp same)

/-- A layer is for a profile if it holds fixed properties, or if the pattern of some accepted profile
occurs in its name. -/
theorem classify_eq_profileSpecific_iff_occurs (layer : String) (accepted : List String) :
    classify layer accepted = .profileSpecific ↔
      layer = Layer.overridesName ∨ ∃ profile ∈ named accepted, ∃ pattern,
        Pattern.ofString? (layerPattern profile) = some pattern ∧ pattern.occursIn layer = true := by
  have matching : (patterns accepted).any (fun pattern => pattern.occursIn layer) = true ↔
      ∃ profile ∈ named accepted, ∃ pattern,
        Pattern.ofString? (layerPattern profile) = some pattern ∧ pattern.occursIn layer = true := by
    simp only [patterns, List.any_eq_true, List.mem_filterMap]
    constructor
    · rintro ⟨pattern, ⟨profile, member, reads⟩, occurs⟩
      exact ⟨profile, member, pattern, reads, occurs⟩
    · rintro ⟨profile, member, pattern, reads, occurs⟩
      exact ⟨pattern, ⟨profile, member, reads⟩, occurs⟩
  unfold classify classifyBy
  rw [← matching]
  split
  · rename_i isSpecific
    simpa using isSpecific
  · rename_i isGeneral
    simpa using isGeneral

/-- With words as profiles, a layer is for a profile that makes a pattern and stands in its name. -/
theorem classify_eq_profileSpecific_iff {accepted : List String}
    (areWords : ∀ profile ∈ named accepted, IsWord profile) (layer : String) :
    classify layer accepted = .profileSpecific ↔
      layer = Layer.overridesName ∨ ∃ profile ∈ named accepted,
        MakesPattern profile ∧ '\n' ∉ layer.toList ∧ StandsIn profile layer := by
  rw [classify_eq_profileSpecific_iff_occurs]
  refine or_congr Iff.rfl (exists_congr fun profile => and_congr_right fun member => ?_)
  have isWord := areWords profile member
  simp only [makesPattern_iff_fits isWord, ofString?_layerPattern isWord,
    Option.ite_none_right_eq_some, Option.some.injEq]
  constructor
  · rintro ⟨_, ⟨makes, rfl⟩, occurs⟩
    exact ⟨makes, (occursIn_layered isWord layer).mp occurs⟩
  · rintro ⟨makes, occurs⟩
    exact ⟨_, ⟨makes, rfl⟩, (occursIn_layered isWord layer).mpr occurs⟩

end RemoteConfig.Profile
