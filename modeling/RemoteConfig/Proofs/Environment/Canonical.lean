import RemoteConfig.Environment.Wire
import RemoteConfig.Proofs.Json.Canonical
import RemoteConfig.Proofs.Outcome

/-!
Contract: environments whose properties are in the order of their keys.

Owns:
- canonical sources and environments;
- reading an environment from a text gives a canonical one.

Does not own: environments that were put together in another way.
-/

namespace RemoteConfig

/-- The properties of a source are in the order of their keys, and so are the objects inside. -/
def PropertySource.IsCanonical (source : PropertySource) : Prop :=
  (Json.object source.source).canonical = .object source.source

/-- The sources of an environment are canonical, as they are when it was read from a text. -/
def Environment.IsCanonical (environment : Environment) : Prop :=
  ∀ source ∈ environment.propertySources, source.IsCanonical

theorem ValueReader.canonical_of_record? {document : Json} (isCanonical : document.canonical = document)
    {count : Nat} {record : RecordFields Json}
    (isRecord : Json.strictReader.record? count document = some record) {position : Nat}
    {name : String} {value : Json} (found : record.get? position name = some value) :
    value.canonical = value := by
  unfold ValueReader.record? at isRecord
  cases document with
  | object fields =>
      cases isRecord
      exact Json.canonical_of_mem_fields isCanonical (Fields.mem_of_get? found)
  | array items =>
      have noEntries : Json.strictReader.entries? (.array items) = none := rfl
      have hasItems : Json.strictReader.items? (.array items) = some items := rfl
      simp only [noEntries, hasItems, Option.bind_some] at isRecord
      split at isRecord
      · cases isRecord
        exact Json.canonical_of_mem_items isCanonical (List.mem_of_getElem? found)
      · cases isRecord
  | null => cases isRecord
  | bool _ => cases isRecord
  | number _ => cases isRecord
  | string _ => cases isRecord

theorem RecordFields.eq_or_read_of_fieldOr {V α : Type} {record : RecordFields V} {position : Nat}
    {name : String} {fallback value : α} {read : V → Option α}
    (reads : record.fieldOr position name fallback read = some value) :
    value = fallback ∨ ∃ present, record.get? position name = some present ∧
      read present = some value := by
  unfold RecordFields.fieldOr at reads
  split at reads
  · rename_i present found
    exact .inr ⟨present, found, reads⟩
  · cases reads
    exact .inl rfl

theorem PropertySource.isCanonical_of_ofJson? {document : Json}
    (isCanonical : document.canonical = document) {source : PropertySource}
    (reads : PropertySource.ofJson? document = some source) : source.IsCanonical := by
  simp only [PropertySource.ofJson?, Option.bind_eq_bind, Option.bind_eq_some_iff,
    Option.pure_def, Option.some.injEq] at reads
  obtain ⟨record, isRecord, name, _, fields, fieldsRead, rfl⟩ := reads
  rcases RecordFields.eq_or_read_of_fieldOr fieldsRead with rfl | ⟨value, found, isFields⟩
  · rfl
  · have valueCanonical := ValueReader.canonical_of_record? isCanonical isRecord found
    unfold PropertySource.fields? at isFields
    split at isFields
    · cases isFields
      exact valueCanonical
    · cases isFields
      rfl
    · cases isFields

/-- An environment that was read from a text is canonical. -/
theorem Environment.isCanonical_of_parse? {text : String} {environment : Environment}
    (reads : Environment.parse? text = some environment) : environment.IsCanonical := by
  obtain ⟨document, isDocument, isEnvironment⟩ := Option.bind_eq_some_iff.mp reads
  have isCanonical : document.canonical = document := by
    unfold Json.parseBy? at isDocument
    split at isDocument
    · split at isDocument
      · cases isDocument
        exact Json.canonical_canonical _
      · cases isDocument
    · cases isDocument
  simp only [Environment.ofJson?, Option.bind_eq_bind, Option.bind_eq_some_iff,
    Option.pure_def, Option.some.injEq] at isEnvironment
  obtain ⟨record, isRecord, _, _, _, _, _, _, _, _, _, _, sources, sourcesRead, rfl⟩ := isEnvironment
  intro source member
  rcases RecordFields.eq_or_read_of_fieldOr sourcesRead with rfl | ⟨value, found, isList⟩
  · cases member
  · have valueCanonical := ValueReader.canonical_of_record? isCanonical isRecord found
    unfold Environment.list? at isList
    split at isList
    · obtain ⟨item, itemMember, itemRead⟩ := mem_of_mapM isList member
      exact PropertySource.isCanonical_of_ofJson?
        (Json.canonical_of_mem_items valueCanonical itemMember) itemRead
    · cases isList
      cases member
    · cases isList

end RemoteConfig
