import RemoteConfig.Proofs.Tree.PathText
import RemoteConfig.Tree.Reader
import RemoteConfig.Tree.Source

/-!
Contract: one variable among variables that set nothing, from its name to the tree that it makes.

Owns:
- names of variables: a start, the separator, and names that the separator joins;
- the tree with one value below such names;
- the text that remains of the value of a variable when it is read as text again.

Does not own: the settings that the names belong to.
-/

namespace RemoteConfig

/-! ### Lower case of joined text -/

namespace Text

/-- Behind a character that is no sigma, lower-casing starts afresh. -/
theorem lowerFrom_append {mark : Char} (notSigma : mark.toNat ≠ 0x3A3)
    (before first rest : List Char) :
    lowerFrom before (first ++ mark :: rest) =
      lowerFrom before (first ++ [mark]) ++ lowerFrom (mark :: (first.reverse ++ before)) rest := by
  induction first generalizing before with
  | nil => simp [lowerFrom, notSigma]
  | cons character others inductionHypothesis =>
      have next : (others ++ mark :: rest).head? = (others ++ [mark]).head? := by
        cases others <;> rfl
      rw [List.cons_append, List.cons_append, lowerFrom, lowerFrom, inductionHypothesis, next]
      simp only [List.append_assoc, List.reverse_cons, List.singleton_append]

end Text

namespace Variables

/-! ### Names -/

/-- A name in which no separator begins, also not at its end. -/
def isUndivided : List Char → Bool
  | [] => true
  | ['_'] => false
  | '_' :: '_' :: _ => false
  | _ :: rest => isUndivided rest

/-- A name that a variable can spell as one step of a path. -/
def IsStepName (name : String) : Prop :=
  Tree.IsSmallName name ∧ isUndivided name.toList = true

instance (name : String) : Decidable (IsStepName name) :=
  decidable_of_iff
    ((name ≠ "" ∧ name.toList.all Tree.isSmallNameChar = true) ∧ isUndivided name.toList = true)
    (by rw [List.all_eq_true]; rfl)

/-- The beginning of the names of the variables that are read under a start, in lower case. -/
def marker (start : String) : List Char :=
  (Text.lowercase (start ++ String.ofList separator)).toList

/-- A name of a variable spells a path of names below a start, in any letter case. -/
def Spells (start : String) (names : List String) (spelled : String) : Prop :=
  Text.lowercase spelled = Text.lowercase
    (start ++ String.ofList separator ++ Text.join (String.ofList separator) names)

instance (start : String) (names : List String) (spelled : String) :
    Decidable (Spells start names spelled) :=
  inferInstanceAs (Decidable (_ = _))

/-- Variables that are read under other starts only. -/
def AreForeign (start : String) (exported : Variables) : Prop :=
  ∀ entry ∈ exported, (marker start).isPrefixOf (Text.lowercase entry.1).toList = false

instance (start : String) (exported : Variables) : Decidable (AreForeign start exported) :=
  inferInstanceAs (Decidable (∀ entry ∈ exported, _ = false))

theorem dotted_cons {character : Char} {rest : List Char}
    (single : ∀ later, character = '_' → rest = '_' :: later → False) :
    dotted (character :: rest) = character :: dotted rest := by
  rw [dotted]
  exact single

theorem dotted_append {name : List Char} (undivided : isUndivided name = true) (rest : List Char) :
    dotted (name ++ (separator ++ rest)) = name ++ '.' :: dotted rest := by
  fun_induction isUndivided name with
  | case1 => rfl
  | case2 => cases undivided
  | case3 => cases undivided
  | case4 character others notLast notDouble inductionHypothesis =>
      have single : ∀ later, character = '_' → others ++ (separator ++ rest) = '_' :: later →
          False := by
        intro later isBar starts
        cases others with
        | nil => exact notLast isBar rfl
        | cons next behind =>
            have isNext : next = '_' := by simpa using congrArg List.head? starts
            exact notDouble behind isBar (by rw [isNext])
      rw [List.cons_append, dotted_cons single, inductionHypothesis undivided, List.cons_append]

theorem dotted_of_undivided {name : List Char} (undivided : isUndivided name = true) :
    dotted name = name := by
  fun_induction isUndivided name with
  | case1 => rfl
  | case2 => cases undivided
  | case3 => cases undivided
  | case4 character others notLast notDouble inductionHypothesis =>
      rw [dotted_cons notDouble, inductionHypothesis undivided]

/-- Names that the separator joins are read as names that dots join. -/
theorem dotted_join {names : List String} (steps : ∀ name ∈ names, IsStepName name) :
    dotted (Text.join (String.ofList separator) names).toList = (Text.join "." names).toList := by
  induction names with
  | nil => rfl
  | cons first others inductionHypothesis =>
      have undivided := (steps first List.mem_cons_self).2
      cases others with
      | nil => exact dotted_of_undivided undivided
      | cons second rest =>
          have later := inductionHypothesis fun name member =>
            steps name (List.mem_cons_of_mem _ member)
          simp only [Text.join, String.toList_append, String.toList_ofList,
            List.append_assoc] at later ⊢
          rw [dotted_append undivided, later]
          rfl

theorem lowercase_of_spells {start : String} {names : List String}
    (steps : ∀ name ∈ names, IsStepName name) {spelled : String}
    (spells : Spells start names spelled) :
    (Text.lowercase spelled).toList =
      marker start ++ (Text.join (String.ofList separator) names).toList := by
  -- Only the start may hold letters that lower-casing changes; the separator behind it is no sigma.
  have small : ∀ character ∈ (Text.join (String.ofList separator) names).toList,
      character.toNat < 0x80 ∧ character.toLower = character := by
    intro character member
    rcases Text.mem_of_mem_join member with isBar | ⟨name, isName, inside⟩
    · rw [List.mem_singleton.mp (show character ∈ ['_'] by simpa [separator] using isBar)]
      decide
    · have facts := Tree.smallNameChar_facts ((steps name isName).1.2 character inside)
      exact ⟨facts.1, facts.2.1⟩
  have notSigma : '_'.toNat ≠ 0x3A3 := by decide
  have cut := Text.lowerFrom_append notSigma [] (start.toList ++ ['_'])
    (Text.join (String.ofList separator) names).toList
  rw [Text.lowerFrom_of_ascii small] at cut
  rw [spells]
  simpa [marker, Text.lowercase, separator] using cut

/-- The key of a variable that spells names below a start, and its value. -/
theorem setting?_of_spells {start : String} {names : List String}
    (steps : ∀ name ∈ names, IsStepName name) {spelled : String}
    (spells : Spells start names spelled) (listKeys : List String) (text : String) :
    setting? start listKeys spelled text =
      some (Text.join "." names, meaning listKeys (Text.join "." names) text) := by
  have lower := lowercase_of_spells steps spells
  have begins : (marker start).isPrefixOf (Text.lowercase spelled).toList = true := by
    rw [lower, List.isPrefixOf_iff_prefix]
    exact List.prefix_append _ _
  have behind : (Text.lowercase spelled).toList.drop (marker start).length =
      (Text.join (String.ofList separator) names).toList := by
    rw [lower, List.drop_left]
  have key : String.ofList (dotted (Text.join (String.ofList separator) names).toList) =
      Text.join "." names := by
    rw [dotted_join steps, String.ofList_toList]
  unfold marker at begins behind
  simp only [setting?, begins, behind, key, if_true]

theorem setting?_of_foreign {start : String} {exported : Variables}
    (foreign : AreForeign start exported) (listKeys : List String) :
    exported.filterMap (fun (name, text) => setting? start listKeys name text) = [] := by
  rw [List.filterMap_eq_nil_iff]
  intro entry member
  have other := foreign entry member
  unfold marker at other
  simp only [setting?, other]
  rfl

/-! ### Values -/

/-- The text that remains of a value: the canonical text of the boolean, the integer or the decimal
that it is read as, and otherwise the value itself. -/
def kept (text : String) : String :=
  match Text.lowercase text with
  | "true" => "true"
  | "false" => "false"
  | _ =>
    match Number.signed64? text.toList, Number.decimal? text.toList with
    | some value, _ => toString value
    | none, some value => value.plainText
    | none, none => text

/-- A value outside of the lists is a scalar, whose text is what remains of it. -/
theorem string?_meaning {listKeys : List String} {key : String}
    (single : listKeys.contains key = false) (text : String) : Tree.string? (meaning listKeys key text) = some (kept text) := by
  by_cases isTrue : Text.lowercase text = "true"
  · simp [meaning, kept, isTrue, Tree.string?]
  by_cases isFalse : Text.lowercase text = "false"
  · simp [meaning, kept, isFalse, Tree.string?]
  simp only [meaning, kept]
  cases whole : Number.signed64? text.toList with
  | some value => rfl
  | none =>
      cases Number.decimal? text.toList with
      | some value => rfl
      | none =>
          simp only [single]
          rfl

/-- A value that is its own text again: a word in small letters, or a number in its canonical form,
or text that reads as neither. -/
def KeepsText (text : String) : Prop :=
  match Text.lowercase text with
  | "true" => text = "true"
  | "false" => text = "false"
  | _ =>
    match Number.signed64? text.toList, Number.decimal? text.toList with
    | some value, _ => text = toString value
    | none, some value => text = value.plainText
    | none, none => True

theorem kept_eq_iff (text : String) : kept text = text ↔ KeepsText text := by
  by_cases isTrue : Text.lowercase text = "true"
  · simp [kept, KeepsText, isTrue, eq_comm]
  by_cases isFalse : Text.lowercase text = "false"
  · simp [kept, KeepsText, isFalse, eq_comm]
  simp only [kept, KeepsText]
  cases whole : Number.signed64? text.toList with
  | some value => exact eq_comm
  | none =>
      cases Number.decimal? text.toList with
      | some value => exact eq_comm
      | none => exact iff_true_intro rfl

end Variables

/-! ### The tree of one value -/

namespace Tree

/-- The tree with one value below names. -/
def nested : List String → Tree → Tree
  | [], value => value
  | name :: names, value => .table [(name, nested names value)]

theorem text_children (root : String) (below : List String) :
    (Path.mk root (below.map .child)).text = Text.join "." (root :: below) := by
  have characters (root : String) (below : List String) :
      (Text.join "." (root :: below)).toList =
        root.toList ++ (below.map Step.child).flatMap Step.characters := by
    induction below generalizing root with
    | nil => simp [Text.join]
    | cons name others inductionHypothesis =>
        simp [Text.join, inductionHypothesis, Step.characters]
  rw [Path.text, ← characters, String.ofList_toList]

theorem setBelow_children {value : Tree} {text : String} (scalar : string? value = some text)
    {names : List String} (nonempty : names ≠ []) (small : ∀ name ∈ names, IsSmallName name)
    {target : Tree} (bare : target.entries = []) :
    setBelow value (names.map .child) target = nested names value := by
  induction names generalizing target with
  | nil => exact absurd rfl nonempty
  | cons name others inductionHypothesis =>
      have lower := lowercase_of_isSmallName (small name List.mem_cons_self)
      cases others with
      | nil =>
          -- A table would be merged entry by entry; a scalar is put in place.
          have merged : mergeEntry name [] value = [(name, value)] := by
            cases value with
            | table entries => simp [string?] at scalar
            | none => simp [mergeEntry, Fields.insert, lower]
            | bool flag => simp [mergeEntry, Fields.insert, lower]
            | integer number => simp [mergeEntry, Fields.insert, lower]
            | double number => simp [mergeEntry, Fields.insert, lower]
            | string text => simp [mergeEntry, Fields.insert, lower]
            | list items => simp [mergeEntry, Fields.insert, lower]
          simp only [List.map_cons, List.map_nil, setBelow, bare, merged, nested]
      | cons next rest =>
          have bareNone : Tree.none.entries = [] := rfl
          have later := inductionHypothesis (by simp)
            (fun other member => small other (List.mem_cons_of_mem _ member)) bareNone
          have absent : (Fields.get? name ([] : List (String × Tree))).getD .none = .none := rfl
          rw [List.map_cons, List.map_cons, setBelow, bare, lower, absent]
          rw [List.map_cons] at later
          rw [later]
          rfl

/-- Names that dots join are read as steps down these names. -/
theorem parse?_join {root : String} {below : List String}
    (small : ∀ name ∈ root :: below, IsSmallName name) :
    Path.parse? (Text.join "." (root :: below)) = some ⟨root, below.map .child⟩ := by
  have canonical : (Path.mk root (below.map .child)).IsCanonical := by
    refine ⟨small root List.mem_cons_self, ?_⟩
    simp only [List.mem_map]
    rintro _ ⟨name, member, rfl⟩
    exact small name (List.mem_cons_of_mem _ member)
  have inRange : (Path.mk root (below.map .child)).InRange := by
    intro step member
    obtain ⟨name, _, rfl⟩ := List.mem_map.mp member
    trivial
  have read := Path.parse?_text canonical
  rwa [if_pos inRange, text_children] at read

/-- A scalar that is set under names in the empty tree is all there is. -/
theorem setWritten_empty {value : Tree} {text : String} (scalar : string? value = some text)
    {names : List String} (nonempty : names ≠ []) (small : ∀ name ∈ names, IsSmallName name) :
    empty.setWritten (Text.join "." names) value = nested names value := by
  cases names with
  | nil => exact absurd rfl nonempty
  | cons root below =>
      simp only [setWritten, parse?_join small, set]
      exact setBelow_children scalar nonempty small rfl

end Tree

/-- Among foreign variables, one that spells names makes a tree of its own value. -/
theorem Variables.apply_eq_nested {start : String} {names : List String} (nonempty : names ≠ [])
    (steps : ∀ name ∈ names, IsStepName name) {spelled : String}
    (spells : Spells start names spelled)
    {listKeys : List String} (single : listKeys.contains (Text.join "." names) = false)
    (text : String) {before after : Variables} (foreign : AreForeign start (before ++ after)) :
    apply start listKeys (before ++ (spelled, text) :: after) Tree.empty =
      Tree.nested names (meaning listKeys (Text.join "." names) text) := by
  have foreignBefore : AreForeign start before := fun entry member =>
    foreign entry (List.mem_append_left _ member)
  have foreignAfter : AreForeign start after := fun entry member =>
    foreign entry (List.mem_append_right _ member)
  have early := setting?_of_foreign foreignBefore listKeys
  have late := setting?_of_foreign foreignAfter listKeys
  have own := setting?_of_spells steps spells listKeys text
  simp only [apply, List.filterMap_append, List.filterMap_cons, early, late, own, List.nil_append,
    List.foldl_cons, List.foldl_nil]
  exact Tree.setWritten_empty (string?_meaning single text) nonempty
    fun name member => (steps name member).1

end RemoteConfig
