import RemoteConfig.File.System
import RemoteConfig.Time.Calendar
import RemoteConfig.Tree.Source
import RemoteConfig.Vault.Gathering

/-!
Contract: what all logins have in common.

Owns:
- where a token comes from: it is given, or a login issues it;
- what a login finds around it: files, environment variables, the time, and a salt;
- required settings, and the paths of logins.

Does not own: what the single methods gather.
-/

namespace RemoteConfig

/-- Where a token comes from. -/
inductive TokenSource where
  | given (token : String)
  | login (path : String) (body : Json) (token : Option String)

/-- What a login finds around it. The time is in seconds since the start of 1970; the salt goes into
salted signatures. -/
structure LoginContext where
  files : FileSystem
  exported : Variables
  now : Int
  salt : Bytes

namespace LoginContext

/-- The time as a date. -/
def moment (context : LoginContext) : Moment :=
  Moment.ofSeconds context.now

/-- The value of an environment variable, when it has text. -/
def variableText? (context : LoginContext) (name : String) : Option String :=
  Text.nonBlank (context.exported.lookup name)

end LoginContext

namespace Login

/-- The greatest integer of 64 bits with a sign. -/
def greatestTime : Int := Number.greatest64

/-- A setting that must have text. -/
def required (value : Option String) (property : String) (method : LoginMethod) :
    Except ConfigError String :=
  match Text.nonBlank value with
  | some found => .ok found
  | none => .error (.settings (.vault (.missingProperty property method)))

def orDefault (text default : String) : String :=
  (Text.nonBlank (some text)).getD default

def path (mount : String) : String :=
  "auth/" ++ mount ++ "/login"

def atMount (mount : String) (body : List (String × Json)) : TokenSource :=
  .login (path mount) (Json.ofFields body) none

/-- A field for a text, unless it is blank. -/
def optionalField (name : String) (value : Option String) : List (String × Json) :=
  ((Text.nonBlank value).map fun text => (name, Json.string text)).toList

end Login

end RemoteConfig
