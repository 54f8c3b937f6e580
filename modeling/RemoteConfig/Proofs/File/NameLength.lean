import RemoteConfig.File.System
import RemoteConfig.Proofs.Text.Utf8

/-!
Contract: the names on the way to a place are not too long.

Owns:
- `areShort_of_isFile`: no name in the path of a file is longer than a file system allows.

Does not own: where a path leads.
-/

namespace RemoteConfig

theorem File.isProperName_of_long {name : String} (long : 1 < name.toList.length) :
    isProperName name = true := by
  have notEmpty : name ≠ "" := by
    rintro rfl
    exact absurd long (by decide)
  have notDot : name ≠ "." := by
    rintro rfl
    exact absurd long (by decide)
  simp [isProperName, notEmpty, notDot]

namespace FileSystem

/-- Names that a file system can have; upward steps are none. -/
def AreShort (names : List String) : Prop :=
  ∀ name ∈ names, File.isProperName name = true → name ≠ ".." →
    (Utf8.encode name).length ≤ nameLimit

section Walk

variable {system : FileSystem}

/-- A walk that arrives passes no name that is too long, if the links on its way lead to none. -/
theorem areShort_of_walk {follow : List String → List String → Except FileFault (List String)}
    (followed : ∀ names place reached, follow names place = .ok reached → AreShort names)
    {names place reached : List String} (arrives : walk system follow names place = .ok reached) :
    AreShort names := by
  induction names generalizing place with
  | nil => exact fun _ member => absurd member List.not_mem_nil
  | cons name rest inductionHypothesis =>
      unfold walk at arrives
      split at arrives
      · split at arrives
        · rename_i improper
          refine List.forall_mem_cons.mpr ⟨fun proper => ?_, inductionHypothesis arrives⟩
          simp [proper] at improper
        · split at arrives
          · rename_i isUp
            exact List.forall_mem_cons.mpr
              ⟨fun _ notUp => absurd isUp notUp, inductionHypothesis arrives⟩
          · split at arrives
            · cases arrives
            · rename_i isShort
              refine List.forall_mem_cons.mpr ⟨fun _ _ => Nat.le_of_not_lt isShort, ?_⟩
              split at arrives
              · -- The rest is walked behind the names that the link leads to.
                exact fun name member =>
                  followed _ _ _ arrives name (List.mem_append_right _ member)
              · exact inductionHypothesis arrives
              · cases arrives
      · cases arrives

theorem areShort_of_follow (links : Nat) {names place reached : List String}
    (arrives : follow system links names place = .ok reached) : AreShort names := by
  induction links generalizing names place reached with
  | zero => cases arrives
  | succ links inductionHypothesis =>
      exact areShort_of_walk (fun _ _ _ => inductionHypothesis) arrives

end Walk

theorem AreShort.of_namesOf {system : FileSystem} {path : String}
    (areShort : AreShort (system.namesOf path)) : AreShort (File.names path) := by
  unfold namesOf at areShort
  split at areShort
  · exact areShort
  · exact fun name member => areShort name (List.mem_append_right _ member)

/-- No name in the path of a file is too long. -/
theorem areShort_of_isFile {system : FileSystem} {path : String}
    (isFile : system.isFile path = true) : AreShort (File.names path) := by
  unfold FileSystem.isFile at isFile
  split at isFile
  · rename_i place resolved
    unfold resolve at resolved
    split at resolved
    · cases resolved
    · split at resolved
      · cases resolved
      · split at resolved
        · cases resolved
        · exact (areShort_of_follow _ resolved).of_namesOf
  · cases isFile

end FileSystem

end RemoteConfig
