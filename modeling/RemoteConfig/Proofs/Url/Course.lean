import RemoteConfig.Proofs.Url.PercentCoding
import RemoteConfig.Url.Parse

/-!
Contract: where the dot segments of a path lead, whatever stands before it.

Owns:
- the course of some segments: how far they climb out of what is before them, and the names that
  they leave behind;
- resolving segments follows their course, and the courses that stay below a place;
- plain names, which are resolved as they stand;
- the text of a reference apart from its plain beginning.

Does not own: which references are resolved.
-/

namespace RemoteConfig

namespace UrlPath

/-- Where segments lead: how many of the segments before them they drop, and the segments that they
put behind the others. -/
structure Course where
  ups : Nat
  names : List String
deriving DecidableEq

namespace Course

/-- The course that leads nowhere. -/
def start : Course := ⟨0, []⟩

/-- One place up. -/
def up (course : Course) : Course :=
  if course.names = [] then ⟨course.ups + 1, []⟩ else ⟨course.ups, course.names.dropLast⟩

/-- One segment further. -/
def down (course : Course) (segment : String) : Course :=
  ⟨course.ups, course.names ++ [segment]⟩

/-- The course with some more segments. -/
def follow (rules : Rules) : Course → List (List Char) → Course
  | course, [] => course
  | course, segment :: rest =>
    let encoded := written rules segment
    if isUp encoded.toList then
      follow rules (if rest.isEmpty then course.up.down "" else course.up) rest
    else if isHere encoded.toList then
      follow rules (if rest.isEmpty then course.down "" else course) rest
    else follow rules (course.down encoded) rest

/-- The segments that a course reaches behind some segments. -/
def behind (course : Course) (done : List String) : List String :=
  done.take (done.length - course.ups) ++ course.names

/-- A course leads to a place below some segments: it comes back by the segments that it drops, and
goes further. -/
def StaysBelow (course : Course) (done : List String) : Prop :=
  ∃ rest, rest ≠ [] ∧ course.names = done.drop (done.length - course.ups) ++ rest

theorem behind_start (done : List String) : start.behind done = done := by
  simp [behind, start]

theorem behind_down (course : Course) (segment : String) (done : List String) :
    (course.down segment).behind done = course.behind done ++ [segment] := by
  simp [behind, down]

theorem behind_up (course : Course) (done : List String) :
    course.up.behind done = (course.behind done).dropLast := by
  unfold up behind
  by_cases empty : course.names = []
  · rw [if_pos empty, empty, List.append_nil, List.append_nil, List.dropLast_eq_take, List.take_take,
      List.length_take]
    dsimp only
    congr 1
    omega
  · rw [if_neg empty, List.dropLast_append_of_ne_nil empty]

/-- Without dot segments, all segments are gone down. -/
theorem follow_of_noDots {rules : Rules} (course : Course) {segments : List (List Char)}
    (noDots : ∀ segment ∈ segments,
      isUp (written rules segment).toList = false ∧ isHere (written rules segment).toList = false) :
    course.follow rules segments = ⟨course.ups, course.names ++ segments.map (written rules)⟩ := by
  induction segments generalizing course with
  | nil => simp [follow]
  | cons segment rest inductionHypothesis =>
      obtain ⟨notUp, notHere⟩ := noDots segment List.mem_cons_self
      have later := inductionHypothesis (course.down (written rules segment)) fun other member =>
        noDots other (List.mem_cons_of_mem _ member)
      unfold follow
      simp only [notUp, notHere]
      rw [if_neg Bool.false_ne_true, if_neg Bool.false_ne_true, later]
      simp [down]

/-- Resolving segments behind others follows their course. -/
theorem resolve_behind {rules : Rules} (noDrives : rules.drives = false) (done : List String)
    (course : Course) (segments : List (List Char)) :
    resolve rules (course.behind done) segments = (course.follow rules segments).behind done := by
  induction segments generalizing course with
  | nil => rfl
  | cons segment rest inductionHypothesis =>
      have goesUp : UrlPath.up rules (course.behind done) = course.up.behind done := by
        rw [UrlPath.up, noDrives, behind_up]
        rfl
      unfold resolve follow
      simp only
      split
      · rw [goesUp, ← inductionHypothesis]
        split
        · rw [behind_down]
        · rfl
      · split
        · rw [← inductionHypothesis]
          split
          · rw [behind_down]
          · rfl
        · rw [← inductionHypothesis, behind_down]

/-- A course that stays below some segments is one that leads to segments behind all of them. -/
theorem staysBelow_iff (course : Course) (done : List String) :
    course.StaysBelow done ↔ ∃ rest, rest ≠ [] ∧ course.behind done = done ++ rest := by
  have parts := List.take_append_drop (done.length - course.ups) done
  constructor
  · rintro ⟨rest, further, names⟩
    refine ⟨rest, further, ?_⟩
    rw [behind, names, ← List.append_assoc, parts]
  · rintro ⟨rest, further, reached⟩
    refine ⟨rest, further, ?_⟩
    have whole : done ++ rest = done.take (done.length - course.ups) ++
        (done.drop (done.length - course.ups) ++ rest) := by
      rw [← List.append_assoc, parts]
    rw [behind, whole] at reached
    exact List.append_cancel_left reached

end Course

/-! ### Plain names -/

/-- A character of plain names: visible, of ASCII, without a meaning in paths, and written as it
stands. -/
def isPlainChar (character : Char) : Bool :=
  0x20 < character.toNat && character.toNat < 0x7F
    && !(['/', '\\', '%', '?', '#'].contains character || Percent.inPath character)

/-- A name of plain characters that is no dot segment. -/
def IsPlainName (name : List Char) : Prop :=
  name ≠ [] ∧ name.all isPlainChar = true ∧ name ≠ ['.'] ∧ name ≠ ['.', '.']

instance (name : List Char) : Decidable (IsPlainName name) :=
  inferInstanceAs (Decidable (_ ∧ _ ∧ _ ∧ _))

theorem plainChar_facts {character : Char} (plain : isPlainChar character = true) :
    0x20 < character.toNat ∧ character.toNat < 0x7F ∧ character ≠ '/' ∧ character ≠ '\\' ∧
      character ≠ '%' ∧ character ≠ '?' ∧ character ≠ '#' ∧ Percent.inPath character = false := by
  simpa [isPlainChar, and_assoc] using plain

theorem encode_plain {name : List Char} (plain : ∀ character ∈ name, isPlainChar character = true) :
    Percent.encode Percent.inPath name = name := by
  apply Percent.encode_of_free
  intro character member
  obtain ⟨_, ascii, _, _, _, _, _, free⟩ := plainChar_facts (plain character member)
  exact ⟨by omega, free⟩

theorem plainDots_plain {name : List Char} (plain : ∀ character ∈ name, isPlainChar character = true) :
    plainDots name = name := by
  induction name with
  | nil => simp [plainDots]
  | cons character rest inductionHypothesis =>
      obtain ⟨_, _, _, _, noEscape, _, _, _⟩ := plainChar_facts (plain character List.mem_cons_self)
      have later := inductionHypothesis fun other member => plain other (List.mem_cons_of_mem _ member)
      rw [plainDots_cons noEscape, later]

/-- Plain names are put behind the other segments as they stand. -/
theorem resolve_plain {rules : Rules} (noDrives : rules.drives = false)
    (inPath : rules.inSet = Percent.inPath) (done : List String) {names : List (List Char)}
    (plain : ∀ name ∈ names, IsPlainName name) (rest : List (List Char)) :
    resolve rules done (names ++ rest) = resolve rules (done ++ names.map String.ofList) rest := by
  induction names generalizing done with
  | nil => simp
  | cons name others inductionHypothesis =>
      obtain ⟨_, allPlain, notHere, notUp⟩ := plain name List.mem_cons_self
      have characters := List.all_eq_true.mp allPlain
      have isWritten : written rules name = String.ofList name := by
        simp [written, noDrives, inPath, encode_plain characters]
      have isNotUp : isUp name = false := by
        simp [isUp, plainDots_plain characters, notUp]
      have isNotHere : isHere name = false := by
        simp [isHere, plainDots_plain characters, notHere]
      rw [List.cons_append, resolve]
      simp only [isWritten, String.toList_ofList, isNotUp, isNotHere]
      rw [if_neg (by simp), if_neg (by simp),
        inductionHypothesis _ fun name member => plain name (List.mem_cons_of_mem _ member)]
      simp

end UrlPath

namespace Url

open Parse UrlPath

/-! ### References with a plain beginning -/

/-- What is sent of a text at the end of a reference: controls and blanks of ASCII vanish at its end,
tabs and line breaks everywhere. -/
def sent (text : List Char) : List Char :=
  ((text.reverse.dropWhile fun c => c.toNat ≤ 0x20).reverse).filter fun c => !isVanishing c

theorem isVanishing_of_above {character : Char} (above : 0x20 < character.toNat) :
    isVanishing character = false := by
  have differs (other : Char) (low : other.toNat ≤ 0x20) : (character == other) = false := by
    have different : character ≠ other := by
      rintro rfl
      omega
    simpa using different
  simp [isVanishing, differs '\t' (by decide), differs '\n' (by decide), differs '\r' (by decide)]

theorem mem_dropWhile {α : Type} {test : α → Bool} {item : α} {items : List α} (member : item ∈ items)
    (fails : test item = false) : item ∈ items.dropWhile test := by
  induction items with
  | nil => cases member
  | cons first rest inductionHypothesis =>
      rw [List.dropWhile_cons]
      split
      · rename_i passes
        rcases List.mem_cons.mp member with rfl | later
        · simp [fails] at passes
        · exact inductionHypothesis later
      · exact member

theorem mem_of_mem_sent {character : Char} {text : List Char} (member : character ∈ sent text) :
    character ∈ text := by
  have inTrimmed := (List.mem_filter.mp member).1
  exact List.mem_reverse.mp ((List.dropWhile_sublist _).mem (List.mem_reverse.mp inTrimmed))

/-- Characters above the blank are sent. -/
theorem mem_sent_iff {character : Char} (above : 0x20 < character.toNat) (text : List Char) :
    character ∈ sent text ↔ character ∈ text := by
  constructor
  · exact mem_of_mem_sent
  · intro member
    rw [sent, List.mem_filter, List.mem_reverse, isVanishing_of_above above]
    refine ⟨mem_dropWhile (List.mem_reverse.mpr member) ?_, rfl⟩
    simpa using above

/-- A beginning above the blank is kept as it stands. -/
theorem cleaned_append {front : List Char} (nonempty : front ≠ [])
    (above : ∀ character ∈ front, 0x20 < character.toNat) (tail : List Char) :
    cleaned (String.ofList (front ++ tail)) = front ++ sent tail := by
  have notBlank : ∀ character ∈ front, decide (character.toNat ≤ 0x20) = false := by
    intro character member
    exact decide_eq_false (Nat.not_le.mpr (above character member))
  have notVanishing : front.filter (fun c => !isVanishing c) = front := by
    apply List.filter_eq_self.mpr
    intro character member
    rw [isVanishing_of_above (above character member)]
    rfl
  rw [cleaned, String.toList_ofList, Text.trimBy_append nonempty notBlank, List.filter_append,
    notVanishing]
  rfl

/-- There is neither query nor fragment exactly when no character ends the path. -/
theorem readTail_eq_none_iff (special : Bool) (text : List Char) :
    readTail special (text.dropWhile fun c => !endsPath c) = (none, none) ↔
      ∀ character ∈ text, character ≠ '?' ∧ character ≠ '#' := by
  induction text with
  | nil => simp [readTail]
  | cons character rest inductionHypothesis =>
      rw [List.dropWhile_cons, List.forall_mem_cons]
      by_cases isQuery : character = '?'
      · simp [isQuery, endsPath, readTail]
      · by_cases isFragment : character = '#'
        · simp [isFragment, endsPath, readTail]
        · have goesOn : (!endsPath character) = true := by simp [endsPath, isQuery, isFragment]
          rw [if_pos goesOn, inductionHypothesis]
          simp [isQuery, isFragment]

/-- Text of plain names consists of plain characters and slashes. -/
theorem plain_or_slash {front : List Char}
    (plain : ∀ name ∈ Text.splitChars '/' front, IsPlainName name) {character : Char}
    (member : character ∈ front) : character = '/' ∨ isPlainChar character = true := by
  rcases Text.mem_splitChars member with isSlash | ⟨name, isName, inside⟩
  · exact .inl isSlash
  · exact .inr (List.all_eq_true.mp (plain name isName).2.1 character inside)

theorem splitSegments_append (special : Bool) {front : List Char}
    (plain : ∀ name ∈ Text.splitChars '/' front, IsPlainName name) (rest : List Char) :
    splitSegments special (front ++ '/' :: rest) =
      Text.splitChars '/' front ++ splitSegments special rest := by
  have unchanged : (front.map fun c => if c == '\\' then '/' else c) = front := by
    conv => rhs; rw [← List.map_id front]
    apply List.map_congr_left
    intro character member
    have noBackslash : character ≠ '\\' := by
      rcases plain_or_slash plain member with rfl | isPlain
      · decide
      · exact (plainChar_facts isPlain).2.2.2.1
    simp [noBackslash]
  cases special with
  | false => exact Text.splitChars_append '/' front rest
  | true =>
      simp only [splitSegments, if_true, List.map_append, List.map_cons, unchanged]
      exact Text.splitChars_append '/' front _

/-- A reference that begins with plain names leads to them and on by the course of its tail. -/
theorem joinPath_plain {base : Url} {segments : List String} (isBase : base.path = .segments segments)
    (notFile : base.scheme ≠ "file") {front : List Char}
    (plain : ∀ name ∈ Text.splitChars '/' front, IsPlainName name) (tail : List Char) :
    ∃ url, base.joinPath (String.ofList (front ++ '/' :: tail)) = .ok url ∧
      url.path = .segments
        ((Course.start.follow (pathRules base.scheme)
            (splitSegments base.isSpecial ((sent tail).takeWhile fun c => !endsPath c))).behind
          (segments.dropLast ++ (Text.splitChars '/' front).map String.ofList)) ∧
      ((url.query = none ∧ url.fragment = none) ↔
        ∀ character ∈ tail, character ≠ '?' ∧ character ≠ '#') := by
  have drives : (pathRules base.scheme).drives = false := by
    simpa [pathRules] using notFile
  -- The beginning consists of characters that are neither trimmed nor the end of the path.
  have beginning : ∀ character ∈ front ++ ['/'],
      0x20 < character.toNat ∧ (!endsPath character) = true := by
    intro character member
    have either : character = '/' ∨ isPlainChar character = true := by
      rcases List.mem_append.mp member with inside | isSlash
      · exact plain_or_slash plain inside
      · exact .inl (List.mem_singleton.mp isSlash)
    rcases either with rfl | isPlain
    · decide
    · obtain ⟨above, _, _, _, _, noQuery, noFragment, _⟩ := plainChar_facts isPlain
      exact ⟨above, by simp [endsPath, noQuery, noFragment]⟩
  have text : cleaned (String.ofList (front ++ '/' :: tail)) = (front ++ ['/']) ++ sent tail := by
    have whole : front ++ '/' :: tail = (front ++ ['/']) ++ tail := by simp
    rw [whole]
    exact cleaned_append (by simp) (fun character member => (beginning character member).1) tail
  have path : ((front ++ ['/']) ++ sent tail).takeWhile (fun c => !endsPath c) =
      front ++ '/' :: (sent tail).takeWhile fun c => !endsPath c := by
    rw [List.takeWhile_append_of_pos fun character member => (beginning character member).2]
    simp
  have ending : ((front ++ ['/']) ++ sent tail).dropWhile (fun c => !endsPath c) =
      (sent tail).dropWhile fun c => !endsPath c :=
    List.dropWhile_append_of_pos fun character member => (beginning character member).2
  unfold joinPath
  rw [isBase]
  simp only [text, path, ending]
  refine ⟨_, rfl, ?_, ?_⟩
  · have kept : UrlPath.up (pathRules base.scheme) segments = segments.dropLast := by
      simp [UrlPath.up, drives]
    simp only [readPath, notFile, if_false, kept]
    rw [splitSegments_append base.isSpecial plain, resolve_plain drives rfl _ plain,
      ← Course.resolve_behind drives, Course.behind_start]
  · have none := readTail_eq_none_iff base.isSpecial (sent tail)
    rw [Prod.ext_iff] at none
    refine none.trans ?_
    constructor
    · intro free character member
      constructor
      · rintro rfl
        exact (free '?' ((mem_sent_iff (by decide) tail).mpr member)).1 rfl
      · rintro rfl
        exact (free '#' ((mem_sent_iff (by decide) tail).mpr member)).2 rfl
    · intro free character member
      constructor
      · rintro rfl
        exact (free '?' ((mem_sent_iff (by decide) tail).mp member)).1 rfl
      · rintro rfl
        exact (free '#' ((mem_sent_iff (by decide) tail).mp member)).2 rfl

/-! ### Addresses -/

/-- A locator that is built out of what was read has segments when all that are so built have. -/
theorem segments_of_map {α : Type} {readPart : Except UrlError α} {build : α → Url} {url : Url}
    (located : readPart.map build = .ok url)
    (built : ∀ part, ∃ segments, (build part).path = .segments segments) :
    ∃ segments, url.path = .segments segments := by
  cases readPart with
  | error fault => cases located
  | ok part =>
      cases located
      exact built part

theorem readFile_segments {text : List Char} {url : Url} (located : readFile text = .ok url) :
    ∃ segments, url.path = .segments segments := by
  unfold readFile at located
  split at located
  · split at located
    · dsimp only at located
      split at located
      · cases located
        exact ⟨_, rfl⟩
      · split at located
        · cases located
          exact ⟨_, rfl⟩
        · exact segments_of_map located fun _ => ⟨_, rfl⟩
    · cases located
      exact ⟨_, rfl⟩
  · cases located
    exact ⟨_, rfl⟩

theorem segments_of_parse {text : String} {url : Url} (parsed : Url.parse text = .ok url)
    (special : url.isSpecial = true) : ∃ segments, url.path = .segments segments := by
  unfold Url.parse at parsed
  split at parsed
  · unfold readScheme at parsed
    split at parsed
    · exact readFile_segments parsed
    · split at parsed
      · exact segments_of_map parsed fun _ => ⟨_, rfl⟩
      · rename_i notSpecial
        split at parsed
        · exact segments_of_map parsed fun _ => ⟨_, rfl⟩
        · cases parsed
          exact absurd special notSpecial
  · cases parsed

end Url

end RemoteConfig
