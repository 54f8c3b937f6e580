import RemoteConfig.Http.ConfigTransport
import RemoteConfig.Inspection

/-!
Contract: the inspection program on a command line.

Owns:
- the arguments: a file of settings, and a file of recorded replies, one document to a line;
- reading these files and the environment variables of a client, and printing the report.

Does not own: the report. There is no network; the servers are replayed from the recorded replies, one
for each request.
-/

namespace RemoteConfig.Main

/-- The settings that environment variables may hold, as the ends of the names of the variables. -/
def settingNames : List String :=
  ["NAME", "PROFILE", "LABEL", "URI", "USERNAME", "PASSWORD", "TOKEN", "MEDIA_TYPE", "CHARSET",
    "FAIL_FAST", "SEND_STATE", "SEND_ALL_LABELS", "MULTIPLE_URI_STRATEGY", "DISCOVERY__ENABLED",
    "DISCOVERY__SERVICE_ID", "REQUEST_CONNECT_TIMEOUT", "REQUEST_READ_TIMEOUT"]

/-- The reply that a line records: a status, and optionally a content type and a body. -/
def recordedReply (line : String) : HttpReply :=
  let document := (Json.parse? line).getD .null
  let status := match document.get? "status" with
    | some (.number (.integer value _)) => value.toNat
    | _ => 200
  let text (name : String) : Option String := (document.get? name).bind Json.asString?
  ⟨status, text "content_type", (text "body").getD ""⟩

/-- The transport that replays recorded replies and then fails. -/
def replayed (replies : List HttpReply) : Transport := fun history =>
  match replies[history.length - 1]? with
  | some reply => .ok reply
  | none => .error .requestFailed

/-- The values of the environment variables of a client. -/
def readVariables : IO Variables := do
  let found ← settingNames.mapM fun name => do
    let variableName := ClientSettings.variableStart ++ "__" ++ name
    let value ← IO.getEnv variableName
    pure (value.toList.map fun text => (variableName, text))
  pure found.flatten

/-- The files that a path may stand for, as far as they can be read. -/
def readFiles (path : String) : IO FileSystem := do
  let paths : List String := path :: DocumentFormat.extensions.map fun extension =>
    File.addExtension path extension
  paths.foldlM (fun (files : FileSystem) (candidate : String) => do
    try
      let content ← IO.FS.readBinFile candidate
      pure (files.add candidate (.file content.toList))
    catch _ => pure files) FileSystem.empty

/-- Reads everything, runs the inspection and prints its report. -/
def run (arguments : List String) : IO UInt32 := do
  let files ← match arguments.head? with
    | some path => readFiles path
    | none => pure FileSystem.empty
  let exported ← readVariables
  let recordedPath : Option String := arguments[1]?
  let recorded ← match recordedPath with
    | some path => IO.FS.lines path
    | none => pure #[]
  let transport := replayed (recorded.toList.map recordedReply)
  let inspection := Inspection.run files arguments.head? exported transport "no time"
  IO.print inspection.output
  IO.eprint inspection.failureText
  pure (UInt32.ofNat inspection.exitStatus)

end RemoteConfig.Main

/-- The inspection program. -/
def main (arguments : List String) : IO UInt32 :=
  RemoteConfig.Main.run arguments
