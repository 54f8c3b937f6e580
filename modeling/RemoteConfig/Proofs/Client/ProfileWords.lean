import RemoteConfig.Proofs.Client.Classification

/-!
Contract: the classification of layers by a list of accepted profiles.

Owns:
- the reports about accepted profiles that make no pattern;
- the classification depends on the set of accepted profiles alone, and grows with it;
- words that are too long for a pattern;
- `classify_byWords`: with words as profiles, a layer is for those that stand in its name.

Does not own: reading patterns, and matching them.
-/

namespace RemoteConfig.Profile

theorem mem_named {profile : String} {accepted : List String} :
    profile ∈ named accepted ↔ profile ∈ accepted ∧ profile ≠ ClientSettings.defaultProfile := by
  simp [named]

/-! ### More accepted profiles -/

/-- A layer stays one for a profile when more profiles are accepted. -/
theorem classify_mono {accepted others : List String} (more : accepted ⊆ others) {layer : String}
    (isSpecific : classify layer accepted = .profileSpecific) :
    classify layer others = .profileSpecific := by
  rw [classify_eq_profileSpecific_iff_occurs] at isSpecific ⊢
  refine isSpecific.imp_right ?_
  rintro ⟨profile, member, matching⟩
  obtain ⟨isAccepted, isNamed⟩ := mem_named.mp member
  exact ⟨profile, mem_named.mpr ⟨more isAccepted, isNamed⟩, matching⟩

/-- Neither order nor repetition of the accepted profiles matters. -/
theorem classify_congr {accepted others : List String}
    (same : ∀ profile, profile ∈ accepted ↔ profile ∈ others) (layer : String) :
    classify layer accepted = classify layer others := by
  have forth : accepted ⊆ others := fun profile => (same profile).mp
  have back : others ⊆ accepted := fun profile => (same profile).mpr
  cases first : classify layer accepted with
  | profileSpecific => exact (classify_mono forth first).symm
  | general =>
      cases second : classify layer others with
      | general => rfl
      | profileSpecific => cases first.symm.trans (classify_mono back second)

/-! ### Words as profiles -/

/-- With words as profiles, a layer of a single line is for a profile exactly when it holds fixed
properties, or when one of the profiles other than the default stands in its name, if that makes a
pattern. -/
theorem classify_eq_profileSpecific_iff_standsIn {layer : String} (oneLine : '\n' ∉ layer.toList)
    {accepted : List String}
    (areWords : ∀ profile ∈ accepted, profile = ClientSettings.defaultProfile ∨ IsWord profile) :
    classify layer accepted = .profileSpecific ↔
      layer = Layer.overridesName ∨
        ∃ profile ∈ accepted, profile ≠ ClientSettings.defaultProfile ∧ MakesPattern profile ∧
          StandsIn profile layer := by
  have namedWords : ∀ profile ∈ named accepted, IsWord profile := by
    intro profile member
    obtain ⟨isAccepted, isNamed⟩ := mem_named.mp member
    exact (areWords profile isAccepted).resolve_left isNamed
  rw [classify_eq_profileSpecific_iff namedWords]
  refine or_congr Iff.rfl ?_
  constructor
  · rintro ⟨profile, member, makes, _, stands⟩
    obtain ⟨isAccepted, isNamed⟩ := mem_named.mp member
    exact ⟨profile, isAccepted, isNamed, makes, stands⟩
  · rintro ⟨profile, isAccepted, isNamed, makes, stands⟩
    exact ⟨profile, mem_named.mpr ⟨isAccepted, isNamed⟩, makes, oneLine, stands⟩

/-- The reports name the accepted profiles, other than the default, that make no pattern. -/
theorem mem_reports {accepted : List String} {line : LogLine} :
    line ∈ reports accepted ↔ ∃ profile ∈ accepted, profile ≠ ClientSettings.defaultProfile ∧
      ¬ MakesPattern profile ∧
        line = .debug "Profile is not a valid pattern; never matches" [("profile", profile)] := by
  have isRefused (profile : String) :
      (Pattern.ofString? (layerPattern profile)).isNone = true ↔ ¬ MakesPattern profile := by
    rw [MakesPattern, Option.isNone_iff_eq_none, Option.not_isSome_iff_eq_none]
  simp only [reports, List.mem_map, List.mem_filter, mem_named, isRefused]
  constructor
  · rintro ⟨profile, ⟨⟨isAccepted, isNamed⟩, refused⟩, rfl⟩
    exact ⟨profile, isAccepted, isNamed, refused, rfl⟩
  · rintro ⟨profile, isAccepted, isNamed, refused, rfl⟩
    exact ⟨profile, ⟨⟨isAccepted, isNamed⟩, refused⟩, rfl⟩

/-! ### Words that are too long -/

/-- A word of equal letters. -/
def letters (count : Nat) : String :=
  String.ofList (List.replicate count 'a')

section Letters

variable {count : Nat}

theorem length_letters : (letters count).toList.length = count := by
  rw [letters, String.toList_ofList, List.length_replicate]

theorem eq_of_mem_letters {character : Char} (member : character ∈ (letters count).toList) :
    character = 'a' := by
  rw [letters, String.toList_ofList] at member
  exact List.eq_of_mem_replicate member

theorem isWord_letters (some : count ≠ 0) : IsWord (letters count) := by
  constructor
  · intro isEmpty
    have length : (letters count).toList.length = count := length_letters
    rw [isEmpty] at length
    exact some length.symm
  · intro character member
    rw [eq_of_mem_letters member]
    exact .inl rfl

theorem toList_separated_letters : ("-" ++ letters count).toList = '-' :: (letters count).toList := by
  rw [String.toList_append]
  rfl

theorem oneLine_separated_letters : '\n' ∉ ("-" ++ letters count).toList := by
  rw [toList_separated_letters]
  intro member
  rcases List.mem_cons.mp member with isSeparator | inWord
  · exact absurd isSeparator (by decide)
  · exact absurd (eq_of_mem_letters inWord) (by decide)

theorem not_makesPattern_letters (long : 400000 ≤ count) : ¬ MakesPattern (letters count) := by
  have isWord : IsWord (letters count) := isWord_letters (by omega)
  rw [makesPattern_iff_length isWord, length_letters, Pattern.CharSet.stateSize, Pattern.sizeLimit]
  omega

/-- A word may stand in the name of a layer and be too long for a pattern: the layer is a general one. -/
theorem classify_separated_letters (long : 400000 ≤ count) :
    classify ("-" ++ letters count) [letters count] = .general := by
  have isWord : IsWord (letters count) := isWord_letters (by omega)
  have areWords : ∀ profile ∈ [letters count],
      profile = ClientSettings.defaultProfile ∨ IsWord profile := by
    intro profile member
    rw [List.mem_singleton.mp member]
    exact .inr isWord
  cases precedence : classify ("-" ++ letters count) [letters count] with
  | general => rfl
  | profileSpecific =>
      rcases (classify_eq_profileSpecific_iff_standsIn oneLine_separated_letters areWords).mp
        precedence with isOverrides | ⟨profile, member, _, makes, _⟩
      · have first := congrArg (fun text => text.toList.head?) isOverrides
        rw [toList_separated_letters, List.head?_cons] at first
        exact absurd first (by decide)
      · rw [List.mem_singleton.mp member] at makes
        exact absurd makes (not_makesPattern_letters long)

end Letters

/-! ### All words -/

/-- With words as profiles, a layer of a single line is for the profiles that make a pattern and stand
in its name, which all but absurdly long words do; the others, and no more, are reported. Only the set
of accepted profiles counts, and a further profile takes no layer away. -/
theorem classify_byWords {layer : String} (oneLine : '\n' ∉ layer.toList) {accepted : List String}
    (areWords : ∀ profile ∈ accepted, profile = ClientSettings.defaultProfile ∨ IsWord profile) :
    (classify layer accepted = .profileSpecific ↔
        layer = Layer.overridesName ∨
          ∃ profile ∈ accepted, profile ≠ ClientSettings.defaultProfile ∧ MakesPattern profile ∧
            StandsIn profile layer) ∧
      (∀ profile ∈ accepted, profile ≠ ClientSettings.defaultProfile →
        profile.toList.length ≤ 300000 → MakesPattern profile) ∧
      (∀ line, line ∈ reports accepted ↔
        ∃ profile ∈ accepted, profile ≠ ClientSettings.defaultProfile ∧ ¬ MakesPattern profile ∧
          line = .debug "Profile is not a valid pattern; never matches" [("profile", profile)]) ∧
      (∀ others, (∀ profile, profile ∈ accepted ↔ profile ∈ others) →
        classify layer accepted = classify layer others) ∧
      ∀ others, accepted ⊆ others → classify layer accepted = .profileSpecific →
        classify layer others = .profileSpecific :=
  ⟨classify_eq_profileSpecific_iff_standsIn oneLine areWords,
    fun profile member isNamed =>
      makesPattern_of_isWord ((areWords profile member).resolve_left isNamed),
    fun _ => mem_reports, fun _ same => classify_congr same layer, fun _ more => classify_mono more⟩

/-- The profile is found behind an occurrence in which the word goes on, and a profile that is too long
for a pattern is reported. -/
theorem classify_byWords_overlapping :
    '\n' ∉ "configserver:file:app-devops-dev.yml".toList ∧
      (∀ profile ∈ ["default", "dev", letters 450000],
        profile = ClientSettings.defaultProfile ∨ IsWord profile) ∧
      classify "configserver:file:app-devops-dev.yml" ["default", "dev", letters 450000] =
        .profileSpecific ∧
      classify "configserver:file:app-devops-dev.yml" ["dev", "qa", letters 450000, "default"] =
        .profileSpecific ∧
      .debug "Profile is not a valid pattern; never matches" [("profile", letters 450000)] ∈
        reports ["default", "dev", letters 450000] := by
  have oneLine : '\n' ∉ "configserver:file:app-devops-dev.yml".toList := by decide
  have isLong : IsWord (letters 450000) := isWord_letters (by decide)
  have areWords : ∀ profile ∈ ["default", "dev", letters 450000],
      profile = ClientSettings.defaultProfile ∨ IsWord profile := by
    intro profile member
    rcases List.mem_cons.mp member with rfl | others
    · exact .inl rfl
    · rcases List.mem_cons.mp others with rfl | last
      · exact .inr (by decide)
      · rw [List.mem_singleton.mp last]
        exact .inr isLong
  obtain ⟨isSpecific, makes, reported, _, grows⟩ := classify_byWords oneLine areWords
  have stands : StandsIn "dev" "configserver:file:app-devops-dev.yml" :=
    ⟨"configserver:file:app-devops".toList, '-', ".yml".toList, by decide, .inl rfl, by decide⟩
  have found := isSpecific.mpr
    (.inr ⟨"dev", by simp, by decide, makes "dev" (by simp) (by decide) (by decide), stands⟩)
  have other : letters 450000 ≠ ClientSettings.defaultProfile := by
    intro same
    have length : (letters 450000).toList.length = 450000 := length_letters
    rw [same] at length
    exact absurd length (by decide)
  exact ⟨oneLine, areWords, found, grows _ (by simp) found,
    (reported _).mpr ⟨_, by simp, other, not_makesPattern_letters (by decide), rfl⟩⟩

/-- A profile of 450000 letters stands in the name of a layer that remains a general one. -/
theorem classify_passesEndlessWord :
    IsWord (letters 450000) ∧ '\n' ∉ ("-" ++ letters 450000).toList ∧
      StandsIn (letters 450000) ("-" ++ letters 450000) ∧
      classify ("-" ++ letters 450000) [letters 450000] = .general := by
  refine ⟨isWord_letters (by decide), oneLine_separated_letters,
    ⟨[], '-', [], ?_, .inl rfl, rfl⟩, classify_separated_letters (by decide)⟩
  rw [toList_separated_letters, List.append_nil, List.nil_append]

end RemoteConfig.Profile
