import RemoteConfig.Proofs.Number.Digits
import RemoteConfig.Proofs.Outcome
import RemoteConfig.Proofs.Url.PercentCoding
import RemoteConfig.Url.Parse

/-!
Contract: the characters of hosts.

Owns:
- texts that do not end an authority;
- the characters of encoded labels, of names and of addresses;
- `isEndless_of_parse`, `isEndless_of_parseLenient`: no host that is read ends its authority.

Does not own: which host a text stands for.
-/

namespace RemoteConfig

open Url.Parse

/-- No character of a text ends the authority that it stands in. -/
def IsEndless (text : List Char) : Prop :=
  ∀ character ∈ text, endsAuthority false character = false

/-- A character that passes a test which the ends of an authority fail is none of them. -/
theorem endsAuthority_of_test (test : Char → Bool) (slash : test '/' = false)
    (question : test '?' = false) (hash : test '#' = false) {character : Char}
    (passes : test character = true) : endsAuthority false character = false := by
  have differs {mark : Char} (fails : test mark = false) : character ≠ mark := by
    intro same
    rw [same, fails] at passes
    cases passes
  simp [endsAuthority, differs slash, differs question, differs hash]

-- By the characters of the text, not by all characters there are.
instance (text : List Char) : Decidable (IsEndless text) :=
  List.decidableBAll _ text

namespace IsEndless

variable {first second : List Char}

theorem append (endless : IsEndless first) (secondEndless : IsEndless second) :
    IsEndless (first ++ second) := by
  intro character member
  rcases List.mem_append.mp member with inFirst | inSecond
  · exact endless character inFirst
  · exact secondEndless character inSecond

theorem join {separator : String} {texts : List String} (endless : IsEndless separator.toList)
    (textsEndless : ∀ text ∈ texts, IsEndless text.toList) :
    IsEndless (Text.join separator texts).toList := by
  intro character member
  rcases Text.mem_of_mem_join member with inSeparator | ⟨text, isText, inside⟩
  · exact endless character inSeparator
  · exact textsEndless text isText character inside

theorem intercalate {separator : List Char} {parts : List (List Char)}
    (endless : IsEndless separator) (partsEndless : ∀ part ∈ parts, IsEndless part) :
    IsEndless (List.intercalate separator parts) := by
  induction parts with
  | nil => exact List.forall_mem_nil _
  | cons part rest inductionHypothesis =>
      obtain ⟨partEndless, restEndless⟩ := List.forall_mem_cons.mp partsEndless
      cases rest with
      | nil => simpa using partEndless
      | cons second rest =>
          rw [List.intercalate_cons_cons]
          exact (partEndless.append endless).append (inductionHypothesis restEndless)

end IsEndless

/-- An encoding does not end an authority when its text has no end of one that is not encoded. -/
theorem Percent.isEndless_encode {inSet : Char → Bool} {text : List Char}
    (encoded : ∀ character ∈ text,
      inSet character = true ∨ endsAuthority false character = false) :
    IsEndless (encode inSet text) := by
  intro written member
  obtain ⟨character, inText, inCode⟩ := List.mem_flatMap.mp member
  by_cases free : IsFree inSet character
  · rw [encodeChar_of_free free, List.mem_singleton] at inCode
    rw [inCode]
    exact (encoded character inText).resolve_left (by simp [free.2])
  · rw [encodeChar_of_not_free free] at inCode
    obtain ⟨byte, _, inEscape⟩ := List.mem_flatMap.mp inCode
    rcases mem_escapeByte inEscape with isPercent | isDigit
    · rw [isPercent]
      decide
    · exact endsAuthority_of_test _ rfl rfl rfl isDigit

/-! ### Encoded labels -/

namespace Punycode

theorem isEndless_deltaDigits (bias bound position delta : Nat) :
    IsEndless (deltaDigits bias bound position delta) := by
  have digits : ∀ value < 36, endsAuthority false (digit value) = false := by decide
  induction bound generalizing position delta with
  | zero => exact List.forall_mem_nil _
  | succ bound inductionHypothesis =>
      have small : threshold position bias ≤ 26 := by
        unfold threshold
        split
        · decide
        · exact Nat.min_le_left _ _
      unfold deltaDigits
      dsimp only
      split
      · next below =>
          intro character member
          rw [List.mem_singleton.mp member]
          exact digits delta (by omega)
      · have rest := Nat.mod_lt (delta - threshold position bias)
          (show 0 < 36 - threshold position bias by omega)
        intro character member
        rcases List.mem_cons.mp member with isDigit | later
        · rw [isDigit]
          apply digits
          omega
        · exact inductionHypothesis _ _ character later

theorem isEndless_encodeStep (code basic : Nat) {progress : Progress}
    (endless : IsEndless progress.written) (character : Char) :
    IsEndless (encodeStep code basic progress character).written := by
  unfold encodeStep
  split
  · exact endless
  · split
    · exact endless.append (isEndless_deltaDigits _ _ _ _)
    · exact endless

theorem isEndless_encodeLoop (label : List Char) (basic : Nat) (codes : List Nat) (next : Nat)
    {progress : Progress} (endless : IsEndless progress.written) :
    IsEndless (encodeLoop label basic codes next progress).written := by
  have passes (code : Nat) (passed : List Char) {progress : Progress}
      (endless : IsEndless progress.written) :
      IsEndless (passed.foldl (encodeStep code basic) progress).written := by
    induction passed generalizing progress with
    | nil => exact endless
    | cons character rest inductionHypothesis =>
        exact inductionHypothesis (isEndless_encodeStep code basic endless character)
  induction codes generalizing next progress with
  | nil => exact endless
  | cons code codes inductionHypothesis =>
      apply inductionHypothesis
      exact passes code label endless

theorem isEndless_encode {label : List Char} (endless : IsEndless label) :
    IsEndless (encode label) := by
  apply isEndless_encodeLoop
  apply IsEndless.append
  · intro character member
    exact endless character (List.mem_filter.mp member).1
  · split
    · exact List.forall_mem_nil _
    · exact List.forall_mem_singleton.mpr (by decide)

end Punycode

/-! ### Names -/

namespace Domain

theorem isEndless_of_isLabel {label : List Char} (isLabel : isLabel label = true) :
    IsEndless label := by
  have allowed := List.all_eq_true.mp ((Bool.and_eq_true _ _).mp isLabel).1
  intro character member
  exact endsAuthority_of_test _ rfl rfl rfl (allowed character member)

theorem isEndless_of_labelToAscii? {label ascii : List Char}
    (mapped : labelToAscii? label = some ascii) : IsEndless ascii := by
  unfold labelToAscii? at mapped
  split at mapped
  · cases mapped
  · next isLabel =>
      have endless : IsEndless label := isEndless_of_isLabel (by simpa using isLabel)
      split at mapped
      · split at mapped
        · cases mapped
        · split at mapped
          · cases mapped
          · cases mapped
            exact endless
      · split at mapped
        · cases mapped
          exact endless
        · cases mapped
          apply IsEndless.append _ (Punycode.isEndless_encode endless)
          decide

theorem isEndless_of_toAscii? {name ascii : List Char} (mapped : toAscii? name = some ascii) :
    IsEndless ascii := by
  unfold toAscii? at mapped
  obtain ⟨labels, mappedLabels, rfl⟩ := Option.map_eq_some_iff.mp mapped
  apply IsEndless.intercalate (by decide)
  intro label member
  obtain ⟨source, _, mappedLabel⟩ := mem_of_mapM mappedLabels member
  exact isEndless_of_labelToAscii? mappedLabel

end Domain

/-! ### Addresses -/

namespace Address

theorem isEndless_toString (value : Nat) : IsEndless (toString value).toList := by
  intro character member
  rw [Nat.toString_eq_ofList_toDigits, String.toList_ofList] at member
  have isDigit := Nat.isDigit_of_mem_toDigits (by decide) (by decide) member
  exact endsAuthority_of_test _ rfl rfl rfl isDigit

theorem isEndless_dottedText (address : Nat) : IsEndless (dottedText address).toList := by
  apply IsEndless.join (by decide)
  intro part member
  obtain ⟨value, _, rfl⟩ := List.mem_map.mp member
  exact isEndless_toString value

theorem isEndless_groupsJoined (groups : List Nat) : IsEndless (groupsJoined groups).toList := by
  have digits : ∀ digit : Fin 16, endsAuthority false digit.val.digitChar = false := by decide
  apply IsEndless.join (by decide)
  intro part member
  obtain ⟨group, _, rfl⟩ := List.mem_map.mp member
  intro character inside
  rw [String.toList_ofList] at inside
  obtain ⟨digit, isDigit⟩ := Number.exists_of_mem_toDigits_sixteen inside
  rw [isDigit]
  exact digits digit

theorem isEndless_groupsText (groups : List Nat) : IsEndless (groupsText groups).toList := by
  unfold groupsText
  dsimp only
  split
  · exact isEndless_groupsJoined groups
  · rw [String.toList_append, String.toList_append]
    exact ((isEndless_groupsJoined _).append (by decide)).append (isEndless_groupsJoined _)

end Address

/-! ### Hosts -/

namespace Host

theorem isEndless_of_bracketed {text : List Char} {host : Host}
    (read : bracketed text = .ok host) : IsEndless host.text.toList := by
  unfold bracketed at read
  split at read
  · cases read
  · split at read
    · cases read
      show IsEndless ("[" ++ Address.groupsText _ ++ "]").toList
      rw [String.toList_append, String.toList_append]
      exact (IsEndless.append (by decide) (Address.isEndless_groupsText _)).append (by decide)
    · cases read

theorem isEndless_of_parse {text : List Char} {host : Host} (read : parse text = .ok host) :
    IsEndless host.text.toList := by
  unfold parse at read
  split at read
  · exact isEndless_of_bracketed read
  · split at read
    · cases read
    · next name isName =>
        obtain ⟨_, _, mapped⟩ := Option.bind_eq_some_iff.mp isName
        split at read
        · cases read
        · split at read
          · split at read
            · cases read
              exact Address.isEndless_dottedText _
            · cases read
          · cases read
            show IsEndless (String.ofList name).toList
            rw [String.toList_ofList]
            exact Domain.isEndless_of_toAscii? mapped

theorem isEndless_of_parseLenient {text : List Char} {host : Host}
    (read : parseLenient text = .ok (some host)) : IsEndless host.text.toList := by
  unfold parseLenient at read
  split at read
  · obtain ⟨found, isFound, same⟩ := map_eq_ok read
    cases same
    exact isEndless_of_bracketed isFound
  · split at read
    · cases read
    · next noneForbidden =>
        split at read
        · cases read
        · cases read
          show IsEndless (String.ofList (Percent.encode Percent.isControl text)).toList
          rw [String.toList_ofList]
          apply Percent.isEndless_encode
          intro character member
          have allowed : (!isForbidden character) = true := by
            rw [Bool.not_eq_true, List.any_eq_false] at noneForbidden
            simpa using noneForbidden character member
          exact .inr (endsAuthority_of_test (fun c => !isForbidden c) rfl rfl rfl allowed)

end Host

end RemoteConfig
