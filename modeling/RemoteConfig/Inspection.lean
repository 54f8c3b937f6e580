import RemoteConfig.Client.Loading
import RemoteConfig.Client.State
import RemoteConfig.ErrorDiagnostics
import RemoteConfig.Json.Writer

/-!
Contract: the report of the inspection program, which resolves the configuration of the settings twice.

Owns:
- the parts of the report: the settings, the layers, one typed value, and the second resolution with
  the state of the first;
- how the report ends when something fails.

Does not own: reading arguments, files and variables, and printing.
-/

namespace RemoteConfig

/-- What the inspection program has printed, asked for, and failed with. -/
structure Inspection where
  output : String
  requests : List ConfigRequest
  failure : Option ConfigError

/-- The typed value that the report shows: a port, when the configuration has a server. -/
structure ServerPort where
  port : Option Nat
deriving DecidableEq, Repr

namespace ServerPort

def read? (value : Tree) : Option ServerPort := do
  let record ← Tree.reader.record? 1 value
  let server (value : Tree) : Option Nat := do
    let record ← Tree.reader.record? 1 value
    record.field? 0 "port" (Tree.reader.natural? (Number.twoTo 16))
  let port ← record.fieldOr 0 "server" none (Tree.reader.optional? server)
  pure ⟨port⟩

/-- The diagnostic text of the typed value. -/
def describe (value : ServerPort) : String :=
  let server (port : Nat) : String := Diagnostic.record "ServerConfig" [("port", toString port)]
  Diagnostic.record "AppConfig" [("server", Diagnostic.option server value.port)]

end ServerPort

namespace Inspection

def lines (texts : List String) : String :=
  String.join (texts.map fun text => text ++ "\n")

def filled (width : Nat) (text : String) : String :=
  text ++ String.ofList (List.replicate (width - text.length) ' ')

def settingsText (settings : ClientSettings) : String :=
  lines
    ["Application: " ++ settings.name,
      "Servers:     " ++ Text.join ", " settings.uris,
      "Labels:      " ++ settings.label.getD "(server default)",
      ""]

def precedenceName : Precedence → String
  | .general => "General"
  | .profileSpecific => "ProfileSpecific"

def layerText (layer : Layer) : String :=
  "  " ++ filled 50 layer.name ++ " " ++ precedenceName layer.precedence
    ++ " (" ++ toString layer.properties.length ++ " keys)"

/-- The port of the server, where there is one, and where it comes from. -/
def portText (data : ConfigData) : List String :=
  match data.get? "server.port" with
  | none => []
  | some property =>
    let value := "server.port = " ++ property.value.compact
    match property.origin with
    | some origin => ["", value ++ " from " ++ origin.describe]
    | none => ["", value]

/-- What is known about some data before typed values are read. -/
def dataText (data : ConfigData) : String :=
  lines
    (["Version: " ++ data.version?.getD "-", "State:   " ++ data.state?.getD "-", "",
        "Layers (highest priority first):"]
      ++ data.byPrecedence.map layerText ++ portText data)

/-- What the report tells about a resolution that did not fail, and the error that ends the report. -/
def foundText : Option ConfigData → String × Option ConfigError
  | none => (lines ["No remote configuration; continuing with local defaults"], none)
  | some data =>
    match data.deserialize ServerPort.read? with
    | .ok value => (dataText data ++ lines ["Typed: " ++ value.describe], none)
    | .error error => (dataText data, some error)

/-- The line that tells how long a resolution took. -/
def durationText (duration : String) : String :=
  lines ["Resolution took " ++ duration]

/-- The report of some settings over a transport. -/
def ofSettings (transport : Transport) (duration : String) (settings : ClientSettings) : Inspection :=
  let loader : Loader := ⟨transport, false, []⟩
  let resource : ConfigResource := ⟨settings, Text.splitList settings.profile, true⟩
  let start := ClientState.empty
  let first := loader.load [] ⟨resource, start.snapshot⟩
  let opening := settingsText settings ++ durationText duration
  match first.outcome with
  | .error error => ⟨opening, first.requests, some error⟩
  | .ok found =>
    let (text, failure) := foundText found
    match failure with
    | some error => ⟨opening ++ text, first.requests, some error⟩
    | none =>
      let state := (found.map start.record).getD start
      let second := loader.load first.requests ⟨resource, state.snapshot⟩
      let again := lines
        ["", "Resolving again with state " ++ Diagnostic.option Diagnostic.quoted state.current]
      let output := opening ++ text ++ again ++ durationText duration
      let requests := first.requests ++ second.requests
      match second.outcome with
      | .error error => ⟨output, requests, some error⟩
      | .ok found =>
        let answer := if found.isSome then "true" else "false"
        ⟨output ++ lines ["Resolved: " ++ answer], requests, none⟩

/-- The report of the settings in a file and in variables. -/
def run (files : FileSystem) (path : Option String) (exported : Variables) (transport : Transport)
    (duration : String) : Inspection :=
  let title := lines ["=== Remote Configuration Example ===", ""]
  match ClientSettings.load files path exported with
  | .error error => ⟨title, [], some error⟩
  | .ok settings =>
    let inspection := ofSettings transport duration settings
    { inspection with output := title ++ inspection.output }

/-- What is printed about the failure. -/
def failureText (inspection : Inspection) : String :=
  match inspection.failure with
  | some error => lines ["Error: " ++ untilWithheld error.describe]
  | none => ""

def exitStatus (inspection : Inspection) : Nat :=
  if inspection.failure.isSome then 1 else 0

end Inspection

end RemoteConfig
