import RemoteConfig.Environment.Basic
import RemoteConfig.Json.Excerpt
import RemoteConfig.Json.ValueReader

/-!
Contract: the document form of environments.

Owns:
- writing an environment as a document;
- reading one: a name is required, null profiles and sources are empty, everything else is
  optional, and unknown fields are ignored;
- refusing text in which a field of an environment or of a source is repeated.

Does not own: the grammar of documents.
-/

namespace RemoteConfig

namespace PropertySource

/-- The document form of a source. -/
def toJson (source : PropertySource) : Json :=
  .object [("name", .string source.name), ("source", .object source.source)]

/-- Null stands for the empty map. -/
def fields? : Json → Option Json.Fields
  | .object fields => some fields
  | .null => some []
  | _ => none

/-- The fields of a source that count in a text. -/
def reading : Json.Reader.Reading :=
  Json.Reader.record [("name", Json.Reader.value?), ("source", Json.Reader.value?)]

/-- Reads a source from its document form. -/
def ofJson? (document : Json) : Option PropertySource := do
  let record ← Json.strictReader.record? 2 document
  let name ← record.field? 0 "name" Json.strictReader.string?
  let source ← record.fieldOr 1 "source" [] fields?
  pure ⟨name, source⟩

end PropertySource

namespace Environment

/-- The document form of an environment. -/
def toJson (environment : Environment) : Json :=
  .object
    [("label", Json.ofOption environment.label),
      ("name", .string environment.name),
      ("profiles", Json.ofStrings environment.profiles),
      ("propertySources", .array (environment.propertySources.map PropertySource.toJson)),
      ("state", Json.ofOption environment.state),
      ("version", Json.ofOption environment.version)]

/-- Null stands for the empty list. -/
def list? {α : Type} (read : Json → Option α) : Json → Option (List α)
  | .array items => items.mapM read
  | .null => some []
  | _ => none

/-- Reads an environment from its document form. -/
def ofJson? (document : Json) : Option Environment := do
  let record ← Json.strictReader.record? 6 document
  let text := Json.strictReader.optional? Json.strictReader.string?
  let name ← record.field? 0 "name" Json.strictReader.string?
  let profiles ← record.fieldOr 1 "profiles" [] (list? Json.strictReader.string?)
  let label ← record.fieldOr 2 "label" none text
  let version ← record.fieldOr 3 "version" none text
  let state ← record.fieldOr 4 "state" none text
  let propertySources ← record.fieldOr 5 "propertySources" [] (list? PropertySource.ofJson?)
  pure ⟨name, profiles, label, version, state, propertySources⟩

/-- The fields of an environment and of its sources that count in a text. -/
def reading : Json.Reader.Reading :=
  Json.Reader.record
    [("name", Json.Reader.value?), ("profiles", Json.Reader.value?),
      ("label", Json.Reader.value?), ("version", Json.Reader.value?),
      ("state", Json.Reader.value?), ("propertySources", Json.Reader.listOf PropertySource.reading)]

/-- Reads an environment from the text of a document. -/
def parse? (text : String) : Option Environment :=
  (Json.parseBy? reading text).bind ofJson?

end Environment

end RemoteConfig
