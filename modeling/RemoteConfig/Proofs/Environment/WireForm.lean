import RemoteConfig.Environment.Wire
import RemoteConfig.Proofs.Outcome

/-!
Contract: which documents are environments, and what they say.

Owns:
- the document forms of sources and environments: fields that may be left out or be null, sources
  given by the names of their fields or in their order;
- reading accepts exactly these forms, and finds in them what they hold;
- `ofJson?_laws`: an environment survives being written and read, and reading looks at nothing but
  the declared fields.

Does not own: the text of documents.
-/

namespace RemoteConfig

/-! ### Fields that may be left out -/

/-- What a field holds that may be left out or be null, given the written form of its values. -/
inductive Json.Omittable {α : Type} (fallback : α) (written : Json → α → Prop) :
    Option Json → α → Prop
  | absent : Omittable fallback written none fallback
  | null : Omittable fallback written (some .null) fallback
  | present {document : Json} {value : α} (isWritten : written document value) :
      Omittable fallback written (some document) value

/-- A text. -/
def Json.IsText (document : Json) (found : Option String) : Prop :=
  ∃ text, document = .string text ∧ found = some text

/-- The properties of a source. -/
def Json.IsProperties (document : Json) (properties : Json.Fields) : Prop :=
  document = .object properties

/-- A list of items with given written forms. -/
def Json.IsListOf {α : Type} (written : Json → α → Prop) (document : Json)
    (values : List α) : Prop :=
  ∃ items, document = .array items ∧ List.Forall₂ written items values

/-- Null for the fallback, or a written value: what a reading of a present field accepts. -/
theorem Json.omittable_some_iff {α : Type} {fallback value : α} {written : Json → α → Prop}
    {document : Json} :
    Json.Omittable fallback written (some document) value ↔
      document = .null ∧ value = fallback ∨ written document value := by
  constructor
  · intro omittable
    cases omittable with
    | null => exact .inl ⟨rfl, rfl⟩
    | present isWritten => exact .inr isWritten
  · intro cases
    rcases cases with ⟨isNull, isFallback⟩ | isWritten
    · rw [isNull, isFallback]
      exact .null
    · exact .present isWritten

section Fields

variable {α : Type} {fallback : α} {written : Json → α → Prop} {read : Json → Option α}

/-- A field with a fallback is read as what it holds, when its reading knows null. -/
theorem RecordFields.fieldOr_iff
    (reads : ∀ document value, read document = some value ↔
      document = .null ∧ value = fallback ∨ written document value)
    (record : RecordFields Json) (position : Nat) (name : String) (value : α) :
    record.fieldOr position name fallback read = some value ↔
      Json.Omittable fallback written (record.get? position name) value := by
  unfold fieldOr
  cases record.get? position name with
  | none =>
      constructor
      · intro isFallback
        cases isFallback
        exact .absent
      · intro omittable
        cases omittable
        rfl
  | some document =>
      show read document = some value ↔ _
      rw [reads, Json.omittable_some_iff]

theorem Json.optionalText_iff (document : Json) (found : Option String) :
    Json.strictReader.optional? Json.strictReader.string? document = some found ↔
      document = .null ∧ found = none ∨ Json.IsText document found := by
  cases document with
  | null => simp [ValueReader.optional?, Json.strictReader, Json.IsText, eq_comm (a := none)]
  | string text =>
      show some (some text) = some found ↔ _
      simp [Json.IsText, eq_comm]
  | _ => simp [ValueReader.optional?, Json.strictReader, Json.IsText]

theorem Json.string?_iff (document : Json) (text : String) :
    Json.strictReader.string? document = some text ↔ document = .string text := by
  cases document <;> simp [Json.strictReader]

theorem PropertySource.fields?_iff (document : Json) (properties : Json.Fields) :
    PropertySource.fields? document = some properties ↔
      document = .null ∧ properties = [] ∨ Json.IsProperties document properties := by
  cases document <;> simp [PropertySource.fields?, Json.IsProperties, eq_comm]

/-- A list is read item by item. -/
theorem Environment.list?_iff
    (reads : ∀ document value, read document = some value ↔ written document value)
    (document : Json) (values : List α) :
    Environment.list? read document = some values ↔
      document = .null ∧ values = [] ∨ Json.IsListOf written document values := by
  have sameReading : (fun item value => read item = some value) = written := by
    funext item value
    exact propext (reads item value)
  cases document with
  | array items =>
      show items.mapM read = some values ↔ _
      rw [mapM_eq_some_iff, sameReading]
      simp [Json.IsListOf]
  | _ => simp [Environment.list?, Json.IsListOf, eq_comm]

end Fields

/-! ### Sources -/

/-- The document forms of a source: an object with the fields by name, or the list of its fields, of
which the last one may be left out. -/
inductive PropertySource.Written : Json → PropertySource → Prop
  | named {fields : Json.Fields} {source : PropertySource}
      (hasName : Fields.get? "name" fields = some (.string source.name))
      (hasSource : Json.Omittable [] Json.IsProperties (Fields.get? "source" fields)
        source.source) :
      Written (.object fields) source
  | listed {items : List Json} {source : PropertySource} (few : items.length ≤ 2)
      (hasName : items[0]? = some (.string source.name))
      (hasSource : Json.Omittable [] Json.IsProperties items[1]? source.source) :
      Written (.array items) source

namespace PropertySource

/-- Reads a source from the fields of its record. -/
def ofRecord? (record : RecordFields Json) : Option PropertySource := do
  let name ← record.field? 0 "name" Json.strictReader.string?
  let source ← record.fieldOr 1 "source" [] fields?
  pure ⟨name, source⟩

theorem ofJson?_eq_bind (document : Json) :
    ofJson? document = (Json.strictReader.record? 2 document).bind ofRecord? :=
  rfl

theorem ofRecord?_iff (record : RecordFields Json) (source : PropertySource) :
    ofRecord? record = some source ↔
      record.get? 0 "name" = some (.string source.name) ∧
        Json.Omittable [] Json.IsProperties (record.get? 1 "source") source.source := by
  obtain ⟨name, properties⟩ := source
  simp only [ofRecord?, RecordFields.field?, Option.bind_eq_bind, Option.bind_eq_some_iff,
    Option.pure_def, Option.some.injEq, PropertySource.mk.injEq, Json.string?_iff,
    RecordFields.fieldOr_iff fields?_iff]
  constructor
  · intro reads
    obtain ⟨_, ⟨_, found, rfl⟩, _, holds, rfl, rfl⟩ := reads
    exact ⟨found, holds⟩
  · intro holds
    exact ⟨name, ⟨_, holds.1, rfl⟩, properties, holds.2, rfl, rfl⟩

/-- Reading accepts the document forms of sources, and nothing else. -/
theorem ofJson?_iff (document : Json) (source : PropertySource) :
    ofJson? document = some source ↔ Written document source := by
  rw [ofJson?_eq_bind]
  cases document with
  | object fields =>
      show ofRecord? (.named fields) = some source ↔ _
      rw [ofRecord?_iff]
      constructor
      · intro holds
        exact .named holds.1 holds.2
      · intro written
        cases written with
        | named hasName hasSource => exact ⟨hasName, hasSource⟩
  | array items =>
      have isRecord : Json.strictReader.record? 2 (.array items) =
          if items.length ≤ 2 then some (.positional items) else none := by
        simp [ValueReader.record?, Json.strictReader]
      rw [isRecord]
      by_cases few : items.length ≤ 2
      · rw [if_pos few]
        show ofRecord? (.positional items) = some source ↔ _
        rw [ofRecord?_iff]
        constructor
        · intro holds
          exact .listed few holds.1 holds.2
        · intro written
          cases written with
          | listed _ hasName hasSource => exact ⟨hasName, hasSource⟩
      · rw [if_neg few]
        constructor
        · intro read
          cases read
        · intro written
          cases written with
          | listed isFew => exact absurd isFew few
  | _ =>
      constructor
      · intro read
        cases read
      · intro written
        cases written

theorem written_toJson (source : PropertySource) : Written source.toJson source :=
  .named rfl (.present rfl)

end PropertySource

/-! ### Environments -/

namespace Environment

/-- What the fields of an object say about an environment. -/
structure Written (fields : Json.Fields) (environment : Environment) : Prop where
  name : Fields.get? "name" fields = some (.string environment.name)
  profiles : Json.Omittable [] (Json.IsListOf fun document text => document = .string text)
    (Fields.get? "profiles" fields) environment.profiles
  label : Json.Omittable none Json.IsText (Fields.get? "label" fields) environment.label
  version : Json.Omittable none Json.IsText (Fields.get? "version" fields) environment.version
  state : Json.Omittable none Json.IsText (Fields.get? "state" fields) environment.state
  propertySources : Json.Omittable [] (Json.IsListOf PropertySource.Written)
    (Fields.get? "propertySources" fields) environment.propertySources

/-- The names of the fields that count. -/
def fieldNames : List String :=
  ["name", "profiles", "label", "version", "state", "propertySources"]

/-- Reading an object as an environment finds what its fields say. -/
theorem ofJson?_object_iff (fields : Json.Fields) (environment : Environment) :
    ofJson? (.object fields) = some environment ↔ Written fields environment := by
  have isRecord : Json.strictReader.record? 6 (.object fields) = some (.named fields) := rfl
  unfold ofJson?
  simp only [isRecord, RecordFields.field?, Option.bind_eq_bind, Option.bind_some,
    Option.bind_eq_some_iff, Option.pure_def, Option.some.injEq, Json.string?_iff,
    RecordFields.fieldOr_iff Json.optionalText_iff,
    RecordFields.fieldOr_iff (list?_iff Json.string?_iff),
    RecordFields.fieldOr_iff (list?_iff PropertySource.ofJson?_iff)]
  constructor
  · intro reads
    obtain ⟨_, ⟨_, name, rfl⟩, _, profiles, _, label, _, version, _, state, _, sources, rfl⟩ :=
      reads
    exact ⟨name, profiles, label, version, state, sources⟩
  · intro written
    exact ⟨_, ⟨_, written.name, rfl⟩, _, written.profiles, _, written.label, _, written.version, _,
      written.state, _, written.propertySources, rfl⟩

theorem omittable_ofOption (text : Option String) :
    Json.Omittable none Json.IsText (some (Json.ofOption text)) text := by
  cases text with
  | none => exact .null
  | some text => exact .present ⟨text, rfl, rfl⟩

/-- The document form of an environment says what the environment is. -/
theorem ofJson?_toJson (environment : Environment) :
    ofJson? environment.toJson = some environment := by
  apply (ofJson?_object_iff _ _).mpr
  constructor
  case name => rfl
  case label => exact omittable_ofOption environment.label
  case version => exact omittable_ofOption environment.version
  case state => exact omittable_ofOption environment.state
  case profiles =>
    refine .present ⟨_, rfl, ?_⟩
    rw [List.forall₂_map_left_iff]
    exact List.forall₂_same.mpr fun _ _ => rfl
  case propertySources =>
    refine .present ⟨_, rfl, ?_⟩
    rw [List.forall₂_map_left_iff]
    exact List.forall₂_same.mpr fun source _ => source.written_toJson

/-- Reading an object looks at nothing but the declared fields. -/
theorem ofJson?_congr {fields others : Json.Fields}
    (same : ∀ name ∈ fieldNames, Fields.get? name fields = Fields.get? name others) :
    ofJson? (.object fields) = ofJson? (.object others) := by
  have agrees (environment : Environment) :
      Written fields environment ↔ Written others environment := by
    simp only [fieldNames, List.forall_mem_cons] at same
    obtain ⟨name, profiles, label, version, state, sources, _⟩ := same
    constructor
    all_goals
      intro written
      constructor
      case name => simpa only [name] using written.name
      case profiles => simpa only [profiles] using written.profiles
      case label => simpa only [label] using written.label
      case version => simpa only [version] using written.version
      case state => simpa only [state] using written.state
      case propertySources => simpa only [sources] using written.propertySources
  apply Option.ext
  intro environment
  show ofJson? (.object fields) = some environment ↔ ofJson? (.object others) = some environment
  rw [ofJson?_object_iff, ofJson?_object_iff, agrees]

/-- An environment survives being written and read, as does what was read from any document. An
object is read exactly when it has a text for a name and its other declared fields are absent, null
or of their form; what it has besides makes no difference. -/
theorem ofJson?_laws :
    (∀ environment : Environment, ofJson? environment.toJson = some environment) ∧
      (∀ (fields : Json.Fields) (environment : Environment),
        ofJson? (.object fields) = some environment ↔ Written fields environment) ∧
      (∀ fields others : Json.Fields,
        (∀ name ∈ fieldNames, Fields.get? name fields = Fields.get? name others) →
          ofJson? (.object fields) = ofJson? (.object others)) ∧
      ∀ (document : Json) (environment : Environment), ofJson? document = some environment →
        ofJson? environment.toJson = some environment := by
  refine ⟨ofJson?_toJson, ofJson?_object_iff, ?_, ?_⟩
  · intro fields others same
    exact ofJson?_congr same
  · intro _ environment _
    exact ofJson?_toJson environment

/-- A name suffices, and a field that is not declared makes no difference. -/
theorem ofJson?_laws_undeclaredField :
    let environment : Environment := ⟨"app", [], none, none, none, []⟩
    ofJson? (.object [("color", .string "blue"), ("name", .string "app")]) = some environment ∧
      ofJson? environment.toJson = some environment := by
  intro environment
  obtain ⟨_, written, declared, again⟩ := ofJson?_laws
  have named : ofJson? (.object [("name", .string "app")]) = some environment :=
    (written _ _).mpr ⟨rfl, .absent, .absent, .absent, .absent, .absent⟩
  have same : ofJson? (.object [("color", .string "blue"), ("name", .string "app")]) =
      ofJson? (.object [("name", .string "app")]) := by
    apply declared
    simp only [fieldNames, List.forall_mem_cons]
    exact ⟨rfl, rfl, rfl, rfl, rfl, rfl, List.forall_mem_nil _⟩
  exact ⟨same.trans named, again _ _ named⟩

/-- A source as the list of its fields. -/
def listedSource : Json :=
  .array [.string "s", .object []]

/-- Not every source of a document that is read is an object. -/
theorem ofJson?_listedSource :
    ofJson? (.object [("name", .string "app"), ("propertySources", .array [listedSource])]) =
        some ⟨"app", [], none, none, none, [⟨"s", []⟩]⟩ ∧
      ∀ fields, listedSource ≠ .object fields := by
  constructor
  · rfl
  · intro fields isObject
    cases isObject

end Environment

end RemoteConfig
