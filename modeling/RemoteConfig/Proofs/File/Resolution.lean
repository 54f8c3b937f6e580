import Mathlib.Data.List.Induction
import RemoteConfig.File.System

/-!
Contract: the places that paths lead to.

Owns:
- canonical places, whose names are neither links nor steps upwards, below directories;
- a canonical place is where its own names lead, with no link on the way;
- `isCanonical_of_resolve`: every path that leads anywhere leads to a canonical place.

Does not own: which paths are followed.
-/

namespace RemoteConfig.FileSystem

/-- What stands at a name below a place that is passed or reached: neither a link nor a step upwards,
and the place above it is a directory. -/
structure Passes (system : FileSystem) (above : List String) (name : String) : Prop where
  directory : system.node? above = some .directory
  proper : File.isProperName name = true
  notUp : name ≠ ".."
  short : (Utf8.encode name).length ≤ nameLimit
  node : ∃ node, system.node? (above ++ [name]) = some node ∧ ∀ target, node ≠ .link target

/-- A place without links and upward steps. -/
def IsCanonical (system : FileSystem) (place : List String) : Prop :=
  ∀ above name, above ++ [name] <+: place → system.Passes above name

section Walk

variable {system : FileSystem} {place names reached : List String} {name : String}

theorem isCanonical_nil : system.IsCanonical [] := by
  intro above name isPrefix
  simp at isPrefix

theorem IsCanonical.of_prefix {above : List String} (canonical : system.IsCanonical place)
    (isPrefix : above <+: place) : system.IsCanonical above :=
  fun higher name inside => canonical higher name (inside.trans isPrefix)

theorem IsCanonical.snoc (canonical : system.IsCanonical place) (passes : system.Passes place name) :
    system.IsCanonical (place ++ [name]) := by
  intro above other isPrefix
  rcases List.prefix_concat_iff.mp isPrefix with whole | inside
  · obtain ⟨rfl, same⟩ := List.append_inj' whole rfl
    cases same
    exact passes
  · exact canonical above other inside

/-- A name that is passed is walked over without following a link. -/
theorem walk_of_passes (follow : List String → List String → Except FileFault (List String))
    (passes : system.Passes place name) (rest : List String) :
    walk system follow (name :: rest) place = walk system follow rest (place ++ [name]) := by
  obtain ⟨directory, proper, notUp, short, node, present, notLink⟩ := passes
  rw [walk]
  -- The last match goes its second way by `notLink`, which is found among the assumptions.
  simp only [directory, proper, Bool.not_true, Bool.false_eq_true, if_false, if_neg notUp,
    if_neg (Nat.not_lt.mpr short), present]

/-- The names of a canonical place lead to it, whatever links there are elsewhere. -/
theorem IsCanonical.walk_append (canonical : system.IsCanonical place)
    (follow : List String → List String → Except FileFault (List String)) (rest : List String) :
    walk system follow (place ++ rest) [] = walk system follow rest place := by
  induction place using List.reverseRecOn generalizing rest with
  | nil => rfl
  | append_singleton above name inductionHypothesis =>
      have higher := canonical.of_prefix (List.prefix_append above [name])
      rw [List.append_assoc, inductionHypothesis higher]
      exact walk_of_passes follow (canonical above name List.prefix_rfl) rest

/-- The names of a canonical place lead to it without a single link. -/
theorem IsCanonical.follow_names (canonical : system.IsCanonical place) :
    follow system 1 place [] = .ok place := by
  have walked := canonical.walk_append (follow system 0) []
  rwa [List.append_nil] at walked

/-- From a canonical place a walk arrives at a canonical place, if following a link does. -/
theorem isCanonical_of_walk
    {follow : List String → List String → Except FileFault (List String)}
    (followed : ∀ names place reached, system.IsCanonical place →
      follow names place = .ok reached → system.IsCanonical reached)
    (start : system.IsCanonical place) (arrives : walk system follow names place = .ok reached) :
    system.IsCanonical reached := by
  induction names generalizing place with
  | nil =>
      cases arrives
      exact start
  | cons name rest inductionHypothesis =>
      unfold walk at arrives
      split at arrives
      · rename_i directory
        split at arrives
        · exact inductionHypothesis start arrives
        · rename_i proper
          split at arrives
          · exact inductionHypothesis (start.of_prefix (List.dropLast_prefix place)) arrives
          · rename_i notUp
            split at arrives
            · cases arrives
            · rename_i short
              split at arrives
              · -- A link is followed from the root or from the place that it stands in.
                refine followed _ _ _ ?_ arrives
                split
                · exact isCanonical_nil
                · exact start
              · rename_i node notLink present
                refine inductionHypothesis (start.snoc ⟨directory, ?_, notUp, ?_, node, present, ?_⟩)
                  arrives
                · simpa using proper
                · exact Nat.le_of_not_lt short
                · rintro target rfl
                  exact notLink target rfl
              · cases arrives
      · cases arrives

theorem isCanonical_of_follow (links : Nat) (start : system.IsCanonical place)
    (arrives : follow system links names place = .ok reached) : system.IsCanonical reached := by
  induction links generalizing names place reached with
  | zero => cases arrives
  | succ links inductionHypothesis =>
      exact isCanonical_of_walk (fun _ _ _ => inductionHypothesis) start arrives

/-- A path leads to a canonical place, with all links on its way followed. -/
theorem isCanonical_of_resolve {path : String} (resolved : system.resolve path = .ok place) :
    system.IsCanonical place := by
  unfold resolve at resolved
  split at resolved
  · cases resolved
  · split at resolved
    · cases resolved
    · split at resolved
      · cases resolved
      · exact isCanonical_of_follow _ isCanonical_nil resolved

/-- An absolute link in the working directory, and steps upwards beyond the root. -/
example :
    let system : FileSystem :=
      ⟨["srv"], [(["srv"], .directory), (["srv", "cfg"], .link "/etc/app"), (["etc"], .directory),
        (["etc", "app"], .directory)]⟩
    system.resolve "cfg" = .ok ["etc", "app"] ∧ system.resolve "../../srv" = .ok ["srv"] ∧
      system.resolve "/srv/./cfg/.." = .ok ["etc"] := by
  decide +kernel

end Walk

end RemoteConfig.FileSystem
