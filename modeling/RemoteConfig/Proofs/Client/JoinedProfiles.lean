import RemoteConfig.Client.Resource
import RemoteConfig.Proofs.Text.ListEntries

/-!
Contract: the accepted profiles of a client, as a repository reads them.

Owns:
- the text in which accepted profiles are asked for, and the entries of it;
- `profiles_areRecovered`: reading such a text gives back accepted profiles that are entries, by
  the laws between joining and splitting.

Does not own: configured profiles, and where the text stands in a locator.
-/

namespace RemoteConfig.ConfigResource

open Text

section Accepting

variable {resource : ConfigResource} (accepts : resource.acceptedProfiles ≠ [])

include accepts

/-- Accepted profiles are asked for in one text, whatever is configured. -/
theorem profiles_of_accepted : resource.profiles = join "," resource.acceptedProfiles := by
  unfold profiles
  rw [List.isEmpty_eq_false_iff.mpr accepts, if_neg Bool.false_ne_true]

/-- A repository reads every accepted profile as a list of its own. -/
theorem splitList_profiles :
    splitList resource.profiles = resource.acceptedProfiles.flatMap splitList := by
  rw [profiles_of_accepted accepts, splitList_join]

/-- A repository reads the accepted profiles exactly when each of them is an entry. -/
theorem splitList_profiles_eq_iff :
    splitList resource.profiles = resource.acceptedProfiles ↔
      ∀ profile ∈ resource.acceptedProfiles, IsEntry profile := by
  rw [profiles_of_accepted accepts]
  exact splitList_join_eq_self_iff

end Accepting

/-- Splitting a joined list splits each of its texts and yields entries, so lists of entries are recovered,
among them the accepted profiles that a client asks for, and what was split once stays as it is. -/
theorem profiles_areRecovered :
    (∀ texts : List String, splitList (join "," texts) = texts.flatMap splitList) ∧
      (∀ text, ∀ entry ∈ splitList text, entry ≠ "" ∧ trim entry = entry ∧ ',' ∉ entry.toList) ∧
      (∀ texts : List String,
        splitList (join "," texts) = texts ↔ ∀ text ∈ texts, IsEntry text) ∧
      (∀ resource : ConfigResource, resource.acceptedProfiles ≠ [] →
        splitList resource.profiles = resource.acceptedProfiles.flatMap splitList ∧
          (splitList resource.profiles = resource.acceptedProfiles ↔
            ∀ profile ∈ resource.acceptedProfiles, IsEntry profile)) ∧
      ∀ text, splitList (join "," (splitList text)) = splitList text := by
  refine ⟨splitList_join, ?_, fun _ => splitList_join_eq_self_iff, ?_, splitList_join_splitList⟩
  · intro text entry member
    obtain ⟨⟨nonempty, trimmed⟩, noComma⟩ := isEntry_of_mem_splitList member
    exact ⟨nonempty, trimmed, noComma⟩
  · intro resource accepts
    exact ⟨splitList_profiles accepts, splitList_profiles_eq_iff accepts⟩

/-- Asks for two profiles, one with a blank inside, next to another configured one. -/
def acceptingTwo : ConfigResource :=
  .required { ClientSettings.defaults with profile := "prod" } ["dev", "eu\u2003west"]

/-- Both profiles are read, and so is an entry between a line feed and a no-break space. -/
theorem profiles_areRecovered_two :
    acceptingTwo.acceptedProfiles ≠ [] ∧
      (∀ profile ∈ acceptingTwo.acceptedProfiles, IsEntry profile) ∧
      splitList acceptingTwo.profiles = ["dev", "eu\u2003west"] ∧
      "b" ∈ splitList ",a ,,\nb\u00a0" ∧ trim "b" = "b" ∧
      splitList (join "," [",a ,", "\nb\u00a0", " "]) = ["a", "b"] := by
  have accepts : acceptingTwo.acceptedProfiles ≠ [] := by decide
  have entries : ∀ profile ∈ acceptingTwo.acceptedProfiles, IsEntry profile := by decide
  have member : "b" ∈ splitList ",a ,,\nb\u00a0" := by decide
  obtain ⟨joins, yields, _, ofClient, _⟩ := profiles_areRecovered
  refine ⟨accepts, entries, (ofClient acceptingTwo accepts).2.mpr entries, member,
    (yields _ "b" member).2.1, ?_⟩
  rw [joins]
  decide

end RemoteConfig.ConfigResource
