import RemoteConfig.Client.Loader

/-!
Contract: the state token that a client carries from one resolution to the next.

Owns:
- the current token, and the ways in which it is replaced;
- the context of a resolution with the current token.

Does not own: how the token travels.
-/

namespace RemoteConfig

/-- The current state token, if there is one. -/
structure ClientState where
  current : Option String
deriving DecidableEq, Repr, Inhabited

namespace ClientState

/-- No token. -/
def empty : ClientState := ⟨none⟩

/-- Replaces the token. -/
def set (_ : ClientState) (token : String) : ClientState := ⟨some token⟩

/-- Forgets the token. -/
def clear (_ : ClientState) : ClientState := ⟨none⟩

/-- Takes over the state that a server returned; without one the token stays. -/
def record (state : ClientState) (data : ConfigData) : ClientState :=
  match data.state? with
  | some token => state.set token
  | none => state

/-- The context of a resolution with the current token. -/
def snapshot (state : ClientState) : LoadContext := ⟨state.current, none⟩

end ClientState

end RemoteConfig
