import RemoteConfig.Proofs.Url.PercentCoding
import RemoteConfig.Url.Basic

/-!
Contract: texts that are pushed behind a path, each as one segment.

Owns:
- the texts that make one segment, and the code under which they stand in the path;
- which segments of a path stay when others are pushed;
- `extend?_of_segments`: the path grows by the codes of the texts and by nothing else;
- locators with different segments behind the same path have different texts.

Does not own: which texts are pushed.
-/

namespace RemoteConfig.UrlPath

open Percent

/-- A text that makes one segment: it is neither empty nor a dot segment, and none of its characters
vanishes. -/
structure IsSegment (text : String) : Prop where
  nonempty : text ≠ ""
  notHere : text ≠ "."
  notUp : text ≠ ".."
  stays : ∀ character ∈ text.toList, isVanishing character = false

/-- The code of a text as a segment. -/
def segmentCode (special : Bool) (text : String) : String :=
  String.ofList (encode (inSegment special) text.toList)

/-- The segments that stay when others are pushed: all but an empty last one. -/
def lasting (segments : List String) : List String :=
  if segments.getLast? = some "" then segments.dropLast else segments

/-! ### Codes -/

theorem inSegment_percent (special : Bool) : inSegment special '%' = true := by
  cases special <;> decide

theorem decodeText?_segmentCode (special : Bool) (text : String) :
    decodeText? (segmentCode special text) = some text :=
  decodeText?_encode (inSegment_percent special) text

theorem segmentCode_injective (special : Bool) : Function.Injective (segmentCode special) := by
  intro first second same
  have decoded := decodeText?_segmentCode special first
  rw [same, decodeText?_segmentCode] at decoded
  exact (Option.some.inj decoded).symm

theorem segmentCode_ne_empty (special : Bool) {text : String} (nonempty : text ≠ "") :
    segmentCode special text ≠ "" := by
  intro isEmpty
  apply nonempty
  apply segmentCode_injective special
  rw [isEmpty]
  rfl

/-- No code has a character that would end a segment. -/
theorem not_mem_segmentCode (special : Bool) {character : Char}
    (ends : character ∈ ['/', '?', '#'] ∨ special = true ∧ character = '\\') (text : String) :
    character ∉ (segmentCode special text).toList := by
  rw [segmentCode, String.toList_ofList]
  have facts : inSegment special character = true ∧ character ≠ '%' ∧
      isEscapeDigit character = false := by
    rcases ends with listed | ⟨rfl, rfl⟩
    · simp only [List.mem_cons, List.not_mem_nil, or_false] at listed
      rcases listed with rfl | rfl | rfl <;> cases special <;> decide
    · decide
  exact not_mem_encode facts.1 facts.2.1 facts.2.2 text.toList

/-! ### Paths without gaps -/

theorem gap_not_mem_lasting {segments : List String} (noGaps : "" ∉ segments.dropLast) :
    "" ∉ lasting segments := by
  unfold lasting
  split
  · exact noGaps
  · rename_i endsFilled
    intro gap
    rcases List.eq_nil_or_concat segments with rfl | ⟨front, last, rfl⟩
    · cases gap
    · rw [List.concat_eq_append, List.dropLast_concat] at noGaps
      rw [List.concat_eq_append, List.mem_append, List.mem_singleton] at gap
      rcases gap with inFront | isLast
      · exact noGaps inFront
      · rw [← isLast, List.concat_eq_append, List.getLast?_concat] at endsFilled
        exact endsFilled rfl

theorem head?_lasting_append (special : Bool) {present texts : List String}
    (noGaps : "" ∉ present.dropLast) (areSegments : ∀ text ∈ texts, IsSegment text) :
    (lasting present ++ texts.map (segmentCode special)).head? ≠ some "" := by
  intro isGap
  rcases List.mem_append.mp (List.mem_of_head? isGap) with inPresent | isCode
  · exact gap_not_mem_lasting noGaps inPresent
  · obtain ⟨text, member, isEmpty⟩ := List.mem_map.mp isCode
    exact segmentCode_ne_empty special (areSegments text member).nonempty isEmpty

/-! ### Pushing -/

variable {scheme : String} (notFile : scheme ≠ "file") (special : Bool)

include notFile

/-- The first segment takes the place of an empty path; all others are put behind. -/
theorem push_of_isSegment (segments : List String) {text : String} (isSegment : IsSegment text) :
    push scheme special segments text =
      (if segments = [""] then [] else segments) ++ [segmentCode special text] := by
  have kept : (text.toList.filter fun character => !isVanishing character) = text.toList := by
    apply List.filter_eq_self.mpr
    intro character member
    rw [isSegment.stays character member]
    rfl
  have noDrives : (scheme == "file") = false := beq_eq_false_iff_ne.mpr notFile
  have isWritten : written ⟨inSegment special, scheme == "file"⟩ text.toList =
      segmentCode special text := by
    rw [written, noDrives]
    rfl
  have notUp : isUp (segmentCode special text).toList = false := by
    rw [segmentCode, String.toList_ofList]
    apply isUp_encode (inSegment_percent special)
    intro isUp
    exact isSegment.notUp (String.toList_injective isUp)
  have notHere : isHere (segmentCode special text).toList = false := by
    rw [segmentCode, String.toList_ofList]
    apply isHere_encode (inSegment_percent special)
    intro isHere
    exact isSegment.notHere (String.toList_injective isHere)
  unfold push
  simp [isSegment.notHere, isSegment.notUp, notFile, kept, resolve, isWritten, notUp, notHere]

theorem foldl_push {segments texts : List String} (notRoot : segments ≠ [""])
    (areSegments : ∀ text ∈ texts, IsSegment text) :
    texts.foldl (push scheme special) segments = segments ++ texts.map (segmentCode special) := by
  induction texts generalizing segments with
  | nil => simp
  | cons text others inductionHypothesis =>
      obtain ⟨isSegment, othersAre⟩ := List.forall_mem_cons.mp areSegments
      have pushed := push_of_isSegment notFile special segments isSegment
      rw [if_neg notRoot] at pushed
      have stillNotRoot : segments ++ [segmentCode special text] ≠ [""] := by
        intro isRoot
        cases segments with
        | nil => exact segmentCode_ne_empty special isSegment.nonempty (List.cons.inj isRoot).1
        | cons first rest =>
            have lengths := congrArg List.length isRoot
            simp at lengths
      rw [List.foldl_cons, pushed, inductionHypothesis stillNotRoot othersAre]
      simp

/-- The first text that is pushed behind the root takes the place of its empty segment. -/
theorem foldl_push_root {texts : List String} (some : texts ≠ [])
    (areSegments : ∀ text ∈ texts, IsSegment text) :
    texts.foldl (push scheme special) [""] = texts.map (segmentCode special) := by
  obtain ⟨text, others, rfl⟩ := List.exists_cons_of_ne_nil some
  have isSegment := areSegments text List.mem_cons_self
  have replaced : push scheme special [""] text = push scheme special [] text := by
    rw [push_of_isSegment notFile special _ isSegment,
      push_of_isSegment notFile special _ isSegment]
    rfl
  rw [List.foldl_cons, replaced]
  exact foldl_push notFile special (by simp) areSegments

theorem foldl_push_popEmpty {segments texts : List String} (noGaps : "" ∉ segments.dropLast)
    (some : texts ≠ []) (areSegments : ∀ text ∈ texts, IsSegment text) :
    texts.foldl (push scheme special) (popEmpty segments) =
      lasting segments ++ texts.map (segmentCode special) := by
  by_cases endsEmpty : segments.getLast? = Option.some ""
  · obtain ⟨front, rfl⟩ := List.getLast?_eq_some_iff.mp endsEmpty
    rw [lasting, if_pos endsEmpty, List.dropLast_concat]
    rw [List.dropLast_concat] at noGaps
    cases front with
    | nil => exact foldl_push_root notFile special some areSegments
    | cons first rest =>
        have popped : popEmpty (first :: rest ++ [""]) = first :: rest := by
          have longer : (first :: rest ++ [""]).length > 1 := by simp
          rw [popEmpty, endsEmpty, decide_eq_true longer]
          exact List.dropLast_concat
        rw [popped]
        apply foldl_push notFile special _ areSegments
        rintro ⟨⟩
        exact noGaps List.mem_cons_self
  · have popped : popEmpty segments = segments := by
      simp [popEmpty, endsEmpty]
    rw [popped, lasting, if_neg endsEmpty]
    apply foldl_push notFile special _ areSegments
    rintro rfl
    exact endsEmpty rfl

end RemoteConfig.UrlPath

namespace RemoteConfig.Url

open UrlPath

/-- Behind a path without gaps the locator gets the codes of the texts. -/
theorem extend?_of_segments {url : Url} {present texts : List String} (notFile : url.scheme ≠ "file")
    (isPath : url.path = .segments present) (noGaps : "" ∉ present.dropLast) (some : texts ≠ [])
    (areSegments : ∀ text ∈ texts, IsSegment text) :
    url.extend? texts = Option.some
      { url with
        path := .segments (lasting present ++ texts.map (segmentCode url.isSpecial)) } := by
  unfold extend?
  rw [isPath]
  exact congrArg (fun segments => Option.some { url with path := .segments segments })
    (foldl_push_popEmpty notFile url.isSpecial noGaps some areSegments)

/-! ### Texts of locators -/

def segmentsText (segments : List String) : List Char :=
  segments.flatMap fun segment => '/' :: segment.toList

theorem pathText_of_segments {url : Url} {segments : List String}
    (isPath : url.path = .segments segments) : url.pathText.toList = segmentsText segments := by
  unfold pathText segmentsText
  rw [isPath]
  simp only [String.toList_join, List.flatMap_map, String.toList_append]
  rfl

/-- Cutting the text of segments at its slashes gives the segments back. -/
theorem splitChars_segmentsText {segments : List String}
    (free : ∀ segment ∈ segments, '/' ∉ segment.toList) {front : List Char} (frontFree : '/' ∉ front) :
    Text.splitChars '/' (front ++ segmentsText segments) = front :: segments.map String.toList := by
  induction segments generalizing front with
  | nil =>
      show Text.splitChars '/' (front ++ []) = [front]
      rw [List.append_nil, Text.splitChars_of_not_mem frontFree]
  | cons segment others inductionHypothesis =>
      obtain ⟨segmentFree, othersFree⟩ := List.forall_mem_cons.mp free
      show Text.splitChars '/' (front ++ '/' :: (segment.toList ++ segmentsText others)) = _
      rw [Text.splitChars_append, Text.splitChars_of_not_mem frontFree,
        inductionHypothesis othersFree segmentFree]
      rfl

theorem segmentsText_inj {first second : List String}
    (firstFree : ∀ segment ∈ first, '/' ∉ segment.toList)
    (secondFree : ∀ segment ∈ second, '/' ∉ segment.toList)
    (same : segmentsText first = segmentsText second) : first = second := by
  have cut : Text.splitChars '/' ([] ++ segmentsText first) = [] :: first.map String.toList :=
    splitChars_segmentsText firstFree List.not_mem_nil
  rw [same, splitChars_segmentsText secondFree List.not_mem_nil] at cut
  have texts : second.map String.toList = first.map String.toList := (List.cons.inj cut).2
  exact ((List.map_inj_right fun _ _ => String.toList_injective).mp texts).symm

/-- Only a path that begins with an empty segment has a part in the authority. -/
theorem authorityText_of_filled (url : Url) {segments : List String}
    (filled : segments.head? ≠ some "") :
    { url with path := .segments segments }.authorityText =
      { url with path := .segments [] }.authorityText := by
  unfold authorityText
  cases url.hasAuthority with
  | true => rfl
  | false =>
      simp only [Bool.false_eq_true, if_false]
      split
      · rename_i isPath
        cases isPath
        exact absurd rfl filled
      · rfl

/-- Locators that differ in the segments behind a common path have different texts. -/
theorem segments_of_text {url : Url} {front first second : List String}
    (firstFilled : (front ++ first).head? ≠ some "") (secondFilled : (front ++ second).head? ≠ some "")
    (firstFree : ∀ segment ∈ first, '/' ∉ segment.toList)
    (secondFree : ∀ segment ∈ second, '/' ∉ segment.toList)
    (same : { url with path := .segments (front ++ first) }.text =
      { url with path := .segments (front ++ second) }.text) : first = second := by
  apply segmentsText_inj firstFree secondFree
  unfold text at same
  rw [authorityText_of_filled url firstFilled, authorityText_of_filled url secondFilled] at same
  have upToPath := (String.append_left_inj _).mp ((String.append_left_inj _).mp same)
  have paths := congrArg String.toList ((String.append_right_inj _).mp upToPath)
  rw [pathText_of_segments rfl, pathText_of_segments rfl] at paths
  unfold segmentsText at paths ⊢
  rw [List.flatMap_append, List.flatMap_append] at paths
  exact List.append_cancel_left paths

end RemoteConfig.Url
