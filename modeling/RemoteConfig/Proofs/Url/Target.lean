import Mathlib.Data.List.TakeWhile
import RemoteConfig.Proofs.Url.HostText
import RemoteConfig.Proofs.Url.PushedSegments
import RemoteConfig.Text.Ascii

/-!
Contract: what a request to a locator asks for, read off the text of the locator.

Owns:
- cutting the text of a locator at the marks of its parts, without reading it as a locator;
- locators none of whose parts holds a mark that ends it; all locators with a host are such;
- `target?_text`: path and query are what is cut out of the text.

Does not own: what stands before the path.
-/

namespace RemoteConfig

namespace Url

open Parse

/-- The query in what follows a path; empty when there is none. -/
def queryBehind : List Char → List Char
  | '?' :: written => written.takeWhile (· != '#')
  | _ => []

/-- Path and query in the text of a locator: the path begins behind the authority, and neither goes
beyond the fragment. Nothing for a text without an authority. -/
def target? (text : String) : Option (String × String) :=
  match text.toList.dropWhile (· != ':') with
  | ':' :: '/' :: '/' :: rest =>
    let behind := rest.dropWhile fun c => !endsAuthority false c
    some (String.ofList (behind.takeWhile fun c => !endsPath c),
      String.ofList (queryBehind (behind.dropWhile fun c => !endsPath c)))
  | _ => none

/-- The text of a segment does not end the path. -/
def IsSegmentText (segment : String) : Prop :=
  ∀ character ∈ segment.toList, endsPath character = false

/-- No part of a locator holds a mark that ends it. -/
structure IsCut (url : Url) : Prop where
  authority : url.hasAuthority = true
  scheme : ':' ∉ url.scheme.toList
  username : IsEndless url.username.toList
  password : ∀ password, url.password = some password → IsEndless password.toList
  host : IsEndless url.hostText.toList
  path : ∃ segments, url.path = .segments segments ∧ ∀ segment ∈ segments, IsSegmentText segment
  query : ∀ query, url.query = some query → '#' ∉ query.toList

/-! ### Cutting the text -/

theorem isEndless_userinfoText {url : Url} (cut : url.IsCut) :
    IsEndless url.userinfoText.toList := by
  unfold userinfoText
  split
  · next password isPassword =>
      simp only [String.toList_append]
      exact ((cut.username.append (by decide)).append (cut.password password isPassword)).append
        (by decide)
  · split
    · exact List.forall_mem_nil _
    · rw [String.toList_append]
      exact cut.username.append (by decide)

theorem isEndless_portText (url : Url) : IsEndless url.portText.toList := by
  unfold portText
  split
  · rw [String.toList_append]
    exact IsEndless.append (by decide) (Address.isEndless_toString _)
  · exact List.forall_mem_nil _

theorem endsPath_of_mem_pathText {url : Url} (cut : url.IsCut) {character : Char}
    (member : character ∈ url.pathText.toList) : endsPath character = false := by
  obtain ⟨segments, isPath, free⟩ := cut.path
  rw [pathText_of_segments isPath] at member
  obtain ⟨segment, isSegment, inside⟩ := List.mem_flatMap.mp member
  rcases List.mem_cons.mp inside with isSlash | inSegment
  · rw [isSlash]
    decide
  · exact free segment isSegment character inSegment

/-- What follows the path begins with the mark of the query or of the fragment. -/
theorem span_tail (url : Url) :
    (url.queryText.toList ++ url.fragmentText.toList).takeWhile (fun c => !endsPath c) = [] ∧
      (url.queryText.toList ++ url.fragmentText.toList).dropWhile (fun c => !endsPath c) =
        url.queryText.toList ++ url.fragmentText.toList := by
  unfold queryText fragmentText
  cases url.query <;> cases url.fragment <;> simp [endsPath]

theorem queryBehind_tail {url : Url} (cut : url.IsCut) :
    queryBehind (url.queryText.toList ++ url.fragmentText.toList) =
      (url.query.getD "").toList := by
  unfold queryText fragmentText
  cases isQuery : url.query with
  | none => cases url.fragment <;> simp [queryBehind]
  | some query =>
      have noMark : ∀ character ∈ query.toList, (character != '#') = true := by
        intro character member
        apply bne_iff_ne.mpr
        rintro rfl
        exact cut.query query isQuery member
      simp only [String.toList_append, Option.getD_some]
      show ((query.toList ++ _).takeWhile (· != '#')) = query.toList
      rw [List.takeWhile_append_of_pos noMark]
      cases url.fragment <;> simp

/-- Nothing of what follows the authority is taken for a part of it. -/
theorem dropWhile_behind {url : Url} (cut : url.IsCut) :
    (url.pathText.toList ++ (url.queryText.toList ++ url.fragmentText.toList)).dropWhile
        (fun c => !endsAuthority false c) =
      url.pathText.toList ++ (url.queryText.toList ++ url.fragmentText.toList) := by
  obtain ⟨segments, isPath, _⟩ := cut.path
  rw [pathText_of_segments isPath]
  cases segments with
  | cons segment rest => simp [segmentsText, endsAuthority]
  | nil =>
      unfold queryText fragmentText
      cases url.query <;> cases url.fragment <;> simp [segmentsText, endsAuthority]

theorem target?_of_isCut {url : Url} (cut : url.IsCut) :
    target? url.text = some (url.pathText, url.query.getD "") := by
  have scheme : ∀ character ∈ url.scheme.toList, (character != ':') = true := by
    intro character member
    apply bne_iff_ne.mpr
    rintro rfl
    exact cut.scheme member
  have place :
      ∀ character ∈ url.userinfoText.toList ++ (url.hostText.toList ++ url.portText.toList),
        (!endsAuthority false character) = true := by
    have endless := (isEndless_userinfoText cut).append (cut.host.append (isEndless_portText url))
    intro character member
    rw [endless character member]
    rfl
  have path : ∀ character ∈ url.pathText.toList, (!endsPath character) = true := by
    intro character member
    rw [endsPath_of_mem_pathText cut member]
    rfl
  have text : url.text.toList = url.scheme.toList ++ ':' :: '/' :: '/' ::
      ((url.userinfoText.toList ++ (url.hostText.toList ++ url.portText.toList)) ++
        (url.pathText.toList ++ (url.queryText.toList ++ url.fragmentText.toList))) := by
    simp [Url.text, authorityText, cut.authority]
  obtain ⟨noPath, wholeTail⟩ := span_tail url
  unfold target?
  rw [text, List.dropWhile_append_of_pos scheme, List.dropWhile_cons_of_neg (by simp)]
  simp only
  rw [List.dropWhile_append_of_pos place, dropWhile_behind cut, List.takeWhile_append_of_pos path,
    noPath, List.append_nil, List.dropWhile_append_of_pos path, wholeTail, queryBehind_tail cut,
    String.ofList_toList, String.ofList_toList]

/-! ### Paths -/

/-- Every segment is one that was there, one that was written, or empty. -/
theorem forall_mem_resolve {rules : UrlPath.Rules} {holds : String → Prop} (empty : holds "")
    (writes : ∀ segment, holds (UrlPath.written rules segment)) {done : List String}
    (before : ∀ segment ∈ done, holds segment) (segments : List (List Char)) :
    ∀ segment ∈ UrlPath.resolve rules done segments, holds segment := by
  have extended {done : List String} (before : ∀ segment ∈ done, holds segment)
      {last : String} (lastHolds : holds last) : ∀ segment ∈ done ++ [last], holds segment := by
    intro segment member
    rcases List.mem_append.mp member with present | isLast
    · exact before segment present
    · exact List.mem_singleton.mp isLast ▸ lastHolds
  induction segments generalizing done with
  | nil => exact before
  | cons written rest inductionHypothesis =>
      have above : ∀ segment ∈ UrlPath.up rules done, holds segment := by
        intro segment member
        unfold UrlPath.up at member
        split at member
        · exact before segment member
        · exact before segment (List.dropLast_subset done member)
      unfold UrlPath.resolve
      dsimp only
      split
      · apply inductionHypothesis
        split
        · exact extended above empty
        · exact above
      · split
        · apply inductionHypothesis
          split
          · exact extended before empty
          · exact before
        · exact inductionHypothesis (extended before (writes written))

theorem mem_of_mem_dropLeadingEmpty {segment : String} {segments : List String}
    (member : segment ∈ UrlPath.dropLeadingEmpty segments) : segment ∈ segments := by
  fun_induction UrlPath.dropLeadingEmpty segments with
  | case1 second rest inductionHypothesis =>
      exact List.mem_cons_of_mem _ (inductionHypothesis member)
  | case2 => exact member

theorem isSegmentText_written (scheme : String) (segment : List Char) :
    IsSegmentText (UrlPath.written (pathRules scheme) segment) := by
  have marks : ∀ mark ∈ ['?', '#'], mark ∉ Percent.encode Percent.inPath segment ∧
      Char.isAlpha mark = false ∧ mark ≠ ':' := by
    intro mark isMark
    rcases List.mem_pair.mp isMark with rfl | rfl
    · exact ⟨Percent.not_mem_encode (by decide) (by decide) (by decide) segment, by decide⟩
    · exact ⟨Percent.not_mem_encode (by decide) (by decide) (by decide) segment, by decide⟩
  have differs : ∀ mark ∈ ['?', '#'],
      mark ∉ (UrlPath.written (pathRules scheme) segment).toList := by
    intro mark isMark member
    obtain ⟨notEncoded, noLetter, noColon⟩ := marks mark isMark
    unfold UrlPath.written at member
    split at member
    · next drives =>
        have isDrive := ((Bool.and_eq_true _ _).mp drives).2
        unfold UrlPath.isDrive at isDrive
        split at isDrive
        · next letter colon =>
            have isLetter := ((Bool.and_eq_true _ _).mp isDrive).1
            rw [String.toList_ofList] at member
            rcases List.mem_pair.mp member with same | isColon
            · rw [← same, noLetter] at isLetter
              cases isLetter
            · exact noColon isColon
        · cases isDrive
    · rw [String.toList_ofList] at member
      exact notEncoded member
  intro character member
  by_contra ends
  refine differs character ?_ member
  simpa [endsPath, or_iff_not_imp_left] using ends

theorem isSegmentText_readPath (scheme : String) (special : Bool) (text : List Char) :
    ∀ segment ∈ readPath scheme special [] text, IsSegmentText segment := by
  have resolved := forall_mem_resolve (List.forall_mem_nil _) (isSegmentText_written scheme)
    (List.forall_mem_nil _) (UrlPath.splitSegments special text)
  intro segment member
  unfold readPath at member
  dsimp only at member
  split at member
  · exact resolved segment (mem_of_mem_dropLeadingEmpty member)
  · exact resolved segment member

theorem isSegmentText_readAuthorityPath (scheme : String) (special : Bool) (text : List Char) :
    ∀ segment ∈ readAuthorityPath scheme special text, IsSegmentText segment := by
  unfold readAuthorityPath
  split
  · split
    · exact isSegmentText_readPath scheme special []
    · exact List.forall_mem_nil _
  · split
    · exact isSegmentText_readPath scheme special _
    · exact isSegmentText_readPath scheme special _

/-! ### Locators that are read -/

theorem query_of_readTail {special : Bool} {text : List Char} {query : String}
    (read : (readTail special text).1 = some query) : '#' ∉ query.toList := by
  have encoded (written : List Char) : '#' ∉ Percent.encode (Percent.inQuery special) written := by
    apply Percent.not_mem_encode _ (by decide) (by decide) written
    cases special <;> decide
  unfold readTail at read
  dsimp only at read
  split at read
  · cases read
    rw [String.toList_ofList]
    exact encoded _
  · cases read

/-- Who and where, none of which ends the authority. -/
structure Parse.Authority.IsCut (authority : Authority) : Prop where
  username : IsEndless authority.username.toList
  password : ∀ password, authority.password = some password → IsEndless password.toList
  host : ∀ host, authority.host = some host → IsEndless host.text.toList

theorem isCut_withAuthority {scheme : String} (noColon : ':' ∉ scheme.toList) (special : Bool)
    {authority : Authority} (cut : authority.IsCut) (rest : List Char) :
    (withAuthority scheme special authority rest).IsCut where
  authority := rfl
  scheme := noColon
  username := cut.username
  password := cut.password
  host := by
    unfold hostText
    split
    · next host isHost => exact cut.host host isHost
    · exact List.forall_mem_nil _
  path := ⟨_, rfl, isSegmentText_readAuthorityPath scheme special _⟩
  query := fun _ isQuery => query_of_readTail isQuery

theorem isEndless_encode_inUserinfo (text : List Char) :
    IsEndless (String.ofList (Percent.encode Percent.inUserinfo text)).toList := by
  rw [String.toList_ofList]
  apply Percent.isEndless_encode
  intro character _
  by_contra neither
  rw [not_or] at neither
  have keeps : (!Percent.inUserinfo character) = true := by simpa using neither.1
  exact neither.2 (endsAuthority_of_test (fun c => !Percent.inUserinfo c) rfl rfl rfl keeps)

theorem isCut_of_readAuthority {scheme : String} {special : Bool} {text rest : List Char}
    {authority : Authority} (read : readAuthority scheme special text = .ok (authority, rest)) :
    authority.IsCut := by
  unfold readAuthority at read
  dsimp only at read
  split at read
  · cases read
  · obtain ⟨host, isHost, later⟩ := bind_eq_ok read
    split at later
    · cases later
    · obtain ⟨port, _, made⟩ := bind_eq_ok later
      cases made
      constructor
      case username => exact isEndless_encode_inUserinfo _
      case password =>
        intro password isPassword
        unfold readUserinfo at isPassword
        dsimp only at isPassword
        split at isPassword
        · cases isPassword
        · cases isPassword
          exact isEndless_encode_inUserinfo _
      case host =>
        intro found isFound
        cases isFound
        unfold readHost at isHost
        split at isHost
        · split at isHost
          · cases isHost
          · obtain ⟨host, parsed, same⟩ := map_eq_ok isHost
            cases same
            exact Host.isEndless_of_parse parsed
        · exact Host.isEndless_of_parseLenient isHost

theorem isCut_of_readFile {text : List Char} {url : Url} (read : readFile text = .ok url) :
    url.IsCut := by
  have withoutHost : (Authority.mk "" none none none).IsCut :=
    ⟨by decide, fun _ absent => (nomatch absent), fun _ absent => (nomatch absent)⟩
  have file : ':' ∉ "file".toList := by decide
  unfold readFile at read
  split at read
  · split at read
    · dsimp only at read
      split at read
      · cases read
        exact isCut_withAuthority file true withoutHost _
      · split at read
        · cases read
          exact isCut_withAuthority file true withoutHost _
        · obtain ⟨host, parsed, rfl⟩ := map_eq_ok read
          apply isCut_withAuthority file true
          refine ⟨withoutHost.username, fun _ absent => (nomatch absent), ?_⟩
          intro found isFound
          dsimp only at isFound
          split at isFound
          · cases isFound
          · cases isFound
            exact Host.isEndless_of_parse parsed
    · cases read
      exact isCut_withAuthority file true withoutHost _
  · cases read
    exact isCut_withAuthority file true withoutHost _

theorem toLower_ne_colon {character : Char} (schemeChar : isSchemeChar character = true) :
    character.toLower ≠ ':' := by
  have ascii : character.toNat < 0x80 := by
    simp only [isSchemeChar, Bool.or_eq_true, beq_iff_eq] at schemeChar
    rcases schemeChar with ((isAlphanum | rfl) | rfl) | rfl
    · exact Text.toNat_lt_of_isAlphanum isAlphanum
    all_goals decide
  have table : ∀ code < 0x80, isSchemeChar (Char.ofNat code) = true →
      (Char.ofNat code).toLower ≠ ':' := by decide
  have entry := table character.toNat ascii
  rw [Char.ofNat_toNat] at entry
  exact entry schemeChar

theorem colon_not_mem_scheme {text rest : List Char} {scheme : String}
    (isScheme : splitScheme text = some (scheme, rest)) : ':' ∉ scheme.toList := by
  unfold splitScheme at isScheme
  split at isScheme
  · split at isScheme
    · cases isScheme
      rw [String.toList_ofList]
      intro member
      obtain ⟨character, inScheme, isColon⟩ := List.mem_map.mp member
      exact toLower_ne_colon (List.mem_takeWhile_imp inScheme) isColon
    · cases isScheme
  · cases isScheme

/-- No part of a locator with a host holds a mark that ends it. -/
theorem isCut_of_parse {text : String} {url : Url} (parsed : Url.parse text = .ok url) {host : Host}
    (located : url.host = some host) : url.IsCut := by
  unfold Url.parse at parsed
  split at parsed
  · next scheme rest isScheme =>
      have noColon := colon_not_mem_scheme isScheme
      unfold readScheme at parsed
      split at parsed
      · exact isCut_of_readFile parsed
      · split at parsed
        · obtain ⟨_, read, rfl⟩ := map_eq_ok parsed
          exact isCut_withAuthority noColon true (isCut_of_readAuthority read) _
        · split at parsed
          · obtain ⟨_, read, rfl⟩ := map_eq_ok parsed
            exact isCut_withAuthority noColon false (isCut_of_readAuthority read) _
          · cases parsed
            cases located
  · cases parsed

/-- Path and query of a locator with a host are cut out of its text. -/
theorem target?_text {text : String} {url : Url} (parsed : Url.parse text = .ok url) {host : Host}
    (located : url.host = some host) :
    target? url.text = some (url.pathText, url.query.getD "") :=
  target?_of_isCut (isCut_of_parse parsed located)

end Url

end RemoteConfig
