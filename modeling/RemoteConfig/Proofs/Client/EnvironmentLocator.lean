import RemoteConfig.Client.Request
import RemoteConfig.Proofs.Environment.LabelCoding
import RemoteConfig.Proofs.Url.PushedSegments

/-!
Contract: where an environment lies below the locator of a server.

Owns:
- the parts that a query has in the path, and the queries all of whose parts are segments;
- `environmentUrl_addsParts`: the locator of an environment is the one of the server with one more
  segment for each part, from which the parts are read back.

Does not own: which queries are asked, and the headers of the requests.
-/

namespace RemoteConfig

namespace EnvironmentQuery

/-- The wire form of the label; nothing for a label without text. -/
def wireLabel? (query : EnvironmentQuery) : Option String :=
  (Text.nonBlank (some query.label)).map Label.toWire

/-- What stands for the query in the path of its locator. -/
def parts (query : EnvironmentQuery) : List String :=
  query.name :: query.profiles :: query.wireLabel?.toList

/-- A query for a named environment, none of whose texts is a dot segment or has a character that
vanishes from locators. -/
structure IsLocatable (query : EnvironmentQuery) : Prop where
  named : query.name ≠ ""
  profiled : query.profiles ≠ ""
  noDots : ∀ text ∈ [query.name, query.profiles, query.label], text ≠ "." ∧ text ≠ ".."
  noBreaks : ∀ text ∈ [query.name, query.profiles, query.label],
    '\t' ∉ text.toList ∧ '\n' ∉ text.toList ∧ '\r' ∉ text.toList

variable {query : EnvironmentQuery}

theorem IsLocatable.isSegment (locatable : query.IsLocatable) {text : String}
    (isText : text ∈ [query.name, query.profiles, query.label]) (nonempty : text ≠ "") :
    UrlPath.IsSegment text where
  nonempty := nonempty
  notHere := (locatable.noDots text isText).1
  notUp := (locatable.noDots text isText).2
  stays := by
    obtain ⟨noTab, noLineFeed, noReturn⟩ := locatable.noBreaks text isText
    intro character member
    unfold UrlPath.isVanishing
    rw [Bool.or_eq_false_iff, Bool.or_eq_false_iff, beq_eq_false_iff_ne, beq_eq_false_iff_ne,
      beq_eq_false_iff_ne]
    refine ⟨⟨?_, ?_⟩, ?_⟩
    · rintro rfl
      exact noTab member
    · rintro rfl
      exact noLineFeed member
    · rintro rfl
      exact noReturn member

theorem isSegment_toWire {label : String} (isSegment : UrlPath.IsSegment label) :
    UrlPath.IsSegment (Label.toWire label) where
  nonempty := Label.toWire_ne (by decide) isSegment.nonempty
  notHere := Label.toWire_ne (by decide) isSegment.notHere
  notUp := Label.toWire_ne (by decide) isSegment.notUp
  stays := by
    intro character member
    rw [Label.toWire, String.toList_ofList] at member
    rcases Label.mem_wireChars member with inLabel | inPlaceholder
    · exact isSegment.stays character inLabel
    · simp only [List.mem_cons, List.not_mem_nil, or_false] at inPlaceholder
      rcases inPlaceholder with rfl | rfl | rfl <;> decide

theorem IsLocatable.isSegment_parts (locatable : query.IsLocatable) :
    ∀ part ∈ query.parts, UrlPath.IsSegment part := by
  intro part member
  rcases List.mem_cons.mp member with rfl | later
  · exact locatable.isSegment (by simp) locatable.named
  · rcases List.mem_cons.mp later with rfl | isLabel
    · exact locatable.isSegment (by simp) locatable.profiled
    · obtain ⟨label, kept, rfl⟩ := Option.map_eq_some_iff.mp (Option.mem_toList.mp isLabel)
      obtain ⟨isLabel, hasText⟩ := Option.filter_eq_some_iff.mp kept
      cases isLabel
      apply isSegment_toWire
      apply locatable.isSegment (by simp)
      intro isEmpty
      rw [isEmpty] at hasText
      cases hasText

theorem eq_of_parts {other : EnvironmentQuery} (same : other.parts = query.parts) :
    other.name = query.name ∧ other.profiles = query.profiles ∧
      other.wireLabel? = query.wireLabel? := by
  obtain ⟨name, behind⟩ := List.cons.inj same
  obtain ⟨profiles, labels⟩ := List.cons.inj behind
  have label := congrArg List.head? labels
  rw [Option.head?_toList, Option.head?_toList] at label
  exact ⟨name, profiles, label⟩

/-- The codes of the parts, below a server of the web. -/
def codes (query : EnvironmentQuery) : List String :=
  query.parts.map (UrlPath.segmentCode true)

variable (query) in
theorem decode_codes : query.codes.map Percent.decodeText? = query.parts.map some := by
  unfold codes
  rw [List.map_map]
  apply List.map_congr_left
  intro part _
  exact UrlPath.decodeText?_segmentCode true part

theorem ending_not_mem_codes {segment : String} (member : segment ∈ query.codes) {ending : Char}
    (isEnding : ending ∈ ['/', '\\', '?', '#']) : ending ∉ segment.toList := by
  obtain ⟨part, _, rfl⟩ := List.mem_map.mp member
  apply UrlPath.not_mem_segmentCode
  simp only [List.mem_cons, List.not_mem_nil, or_false] at isEnding
  rcases isEnding with rfl | rfl | rfl | rfl <;> decide

end EnvironmentQuery

namespace ConfigRequest

open UrlPath

theorem environmentUrl_of_extend? {base url : Url} {query : EnvironmentQuery}
    (extended : base.extend? query.parts = some url) : environmentUrl base query = .ok url := by
  have parts : [query.name, query.profiles] ++
      (if Text.hasText query.label then [Label.toWire query.label] else []) = query.parts := by
    unfold EnvironmentQuery.parts EnvironmentQuery.wireLabel?
    cases hasText : Text.hasText query.label with
    | true => rw [Text.nonBlank_of_hasText hasText]; rfl
    | false => rw [Text.nonBlank_of_blank hasText]; rfl
  unfold environmentUrl
  simp only [parts, extended]

section Web

variable {base : Url} (web : base.scheme = "http" ∨ base.scheme = "https") {present : List String}
  (isPath : base.path = .segments present) (noGaps : "" ∉ present.dropLast)
  {query : EnvironmentQuery} (locatable : query.IsLocatable)

include web isPath noGaps locatable

theorem environmentUrl_of_isLocatable :
    environmentUrl base query =
      .ok { base with path := .segments (lasting present ++ query.codes) } := by
  apply environmentUrl_of_extend?
  unfold EnvironmentQuery.codes
  rw [← Url.isSpecial_of_web web]
  exact Url.extend?_of_segments (Url.notFile_of_web web) isPath noGaps (List.cons_ne_nil _ _)
    locatable.isSegment_parts

/-- Locators with the same text are those of the same parts. -/
theorem parts_of_environmentUrl {other : EnvironmentQuery} (otherLocatable : other.IsLocatable)
    (same : (environmentUrl base other).map Url.text = (environmentUrl base query).map Url.text) :
    other.parts = query.parts := by
  rw [environmentUrl_of_isLocatable web isPath noGaps otherLocatable,
    environmentUrl_of_isLocatable web isPath noGaps locatable] at same
  have codes : other.codes = query.codes :=
    Url.segments_of_text
      (head?_lasting_append true noGaps otherLocatable.isSegment_parts)
      (head?_lasting_append true noGaps locatable.isSegment_parts)
      (fun _ member => EnvironmentQuery.ending_not_mem_codes member List.mem_cons_self)
      (fun _ member => EnvironmentQuery.ending_not_mem_codes member List.mem_cons_self)
      (Except.ok.inj same)
  exact (List.map_inj_right fun _ _ => @segmentCode_injective true _ _).mp codes

end Web

/-- The locator of an environment keeps all of the server's but its path. That grows by one segment
for each part of the query, from which the part is read back, so different parts lead to different
locators. -/
theorem environmentUrl_addsParts {base : Url} (web : base.scheme = "http" ∨ base.scheme = "https")
    {present : List String} (isPath : base.path = .segments present)
    (noGaps : "" ∉ present.dropLast) {query : EnvironmentQuery} (locatable : query.IsLocatable) :
    ∃ added : List String,
      environmentUrl base query = .ok { base with path := .segments (lasting present ++ added) } ∧
      added.map Percent.decodeText? = query.parts.map some ∧
      (∀ segment ∈ added, ∀ ending ∈ ['/', '\\', '?', '#'], ending ∉ segment.toList) ∧
      ∀ other : EnvironmentQuery, other.IsLocatable →
        (environmentUrl base other).map Url.text = (environmentUrl base query).map Url.text →
          other.name = query.name ∧ other.profiles = query.profiles ∧
            other.wireLabel? = query.wireLabel? := by
  refine ⟨query.codes, environmentUrl_of_isLocatable web isPath noGaps locatable,
    query.decode_codes, ?_, ?_⟩
  · intro segment member ending isEnding
    exact EnvironmentQuery.ending_not_mem_codes member isEnding
  · intro other otherLocatable same
    apply EnvironmentQuery.eq_of_parts
    exact parts_of_environmentUrl web isPath noGaps locatable otherLocatable same

/-- A server behind a proxy, below a path with a trailing slash. -/
def proxied : Url where
  scheme := "https"
  hasAuthority := true
  username := ""
  password := none
  host := some (.domain "config")
  port := some 8888
  path := .segments ["base", ""]
  query := some "region=eu"
  fragment := none

/-- Signs with a meaning in locators and text that looks like an escape stay inside their segments. -/
theorem environmentUrl_addsParts_proxied :
    (environmentUrl proxied ⟨"my app/é", "dev?,%2e", "feature/x"⟩).toOption.map Url.text =
      some "https://config:8888/base/my%20app%2F%C3%A9/dev%3F,%252e/feature(_)x?region=eu" ∧
    ∃ added : List String,
      environmentUrl proxied ⟨"my app/é", "dev?,%2e", "feature/x"⟩ =
        .ok { proxied with path := .segments (["base"] ++ added) } ∧
      added.map Percent.decodeText? = [some "my app/é", some "dev?,%2e", some "feature(_)x"] := by
  have locatable : EnvironmentQuery.IsLocatable ⟨"my app/é", "dev?,%2e", "feature/x"⟩ :=
    ⟨by decide, by decide, by decide, by decide⟩
  have web : proxied.scheme = "http" ∨ proxied.scheme = "https" := .inr rfl
  obtain ⟨added, located, decoded, _⟩ := environmentUrl_addsParts web rfl (by decide) locatable
  exact ⟨by decide +kernel, added, located, decoded⟩

end ConfigRequest

end RemoteConfig
