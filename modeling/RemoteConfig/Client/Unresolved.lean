import RemoteConfig.Client.Resource

/-!
Contract: what happens when no configuration could be located.

Owns:
- the ways in which a search ends without a result, and the detail that is reported;
- the decision between going on without remote configuration and failing.

Does not own: the search.
-/

namespace RemoteConfig

/-- How a search ended: the failure that stopped it, and a detail for people. -/
structure Unresolved where
  error : Option FetchError
  detail : Option String
deriving DecidableEq, Repr, Inhabited

namespace Unresolved

/-- Nothing is known about the end of the search. -/
def unknown : Unresolved :=
  ⟨none, none⟩

/-- Every label was tried in vain. -/
def exhausted (labels : List String) : Unresolved :=
  ⟨none, some ("None of labels [" ++ Text.join ", " labels ++ "] found")⟩

/-- A failure stopped the search. -/
def failed (error : FetchError) : Unresolved :=
  ⟨some error, error.documentBody?⟩

/-- The detail of the report when the client goes on. -/
def reportedDetail (unresolved : Unresolved) : String :=
  match unresolved.error with
  | some error => error.message
  | none => unresolved.detail.getD ""

/-- The reason not to go on without remote configuration, when there is one. -/
def insistence? (resource : ConfigResource) : Option Insistence :=
  if resource.settings.failFast then some .failFast
  else if resource.isOptional then none
  else some .required

/-- The failure of the search, or nothing and a warning when the client may go on. -/
def conclude (unresolved : Unresolved) (resource : ConfigResource) :
    Option ConfigError × List LogLine :=
  match insistence? resource with
  | some insistence => (some (.failFast insistence unresolved.detail unresolved.error), [])
  | none =>
    (none, [.warn ("Could not locate PropertySource (" ++ resource.describe ++ "): "
      ++ unresolved.reportedDetail) []])

end Unresolved

end RemoteConfig
