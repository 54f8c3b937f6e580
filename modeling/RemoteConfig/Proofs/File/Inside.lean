import RemoteConfig.File.Path

/-!
Contract: paths that lead into a directory, by their names alone.

Owns:
- the names of a path that lead somewhere, and those of a joined path;
- the paths inside of a directory, which are reached without upward steps;
- joining a path without upward steps leads inside.

Does not own: what the names lead to, and symbolic links.
-/

namespace RemoteConfig.File

/-- The names of a path that lead somewhere: the empty name and the dot do not. -/
def properNames (path : String) : List String :=
  (names path).filter isProperName

/-- A path lies inside of a directory: it goes on from there without an upward step. -/
def IsInside (directory path : String) : Prop :=
  isAbsolute path = isAbsolute directory ∧
    ∃ rest, properNames path = properNames directory ++ rest ∧ ".." ∉ rest

/-! ### Names of texts -/

theorem names_append_slash (first second : String) :
    names (first ++ "/" ++ second) = names first ++ names second := by
  have slash : ("/" : String).toList = ['/'] := by decide
  unfold names Text.splitAt
  rw [String.toList_append, String.toList_append, slash, List.append_assoc, List.singleton_append,
    Text.splitChars_append, List.map_append]

/-- A text without slashes behind a path makes the last name longer. -/
theorem names_append_of_noSlash (path : String) {text : String} (noSlash : '/' ∉ text.toList) :
    ∃ front last, names path = front ++ [last] ∧ names (path ++ text) = front ++ [last ++ text] := by
  obtain ⟨front, last, next, back, alone, added, both⟩ :=
    Text.splitChars_glued '/' path.toList text.toList
  rw [Text.splitChars_of_not_mem noSlash] at added
  obtain ⟨rfl, rfl⟩ := List.cons.inj added
  refine ⟨front.map String.ofList, String.ofList last, ?_, ?_⟩
  · simp [names, Text.splitAt, alone]
  · simp [names, Text.splitAt, both, String.ofList_append]

theorem mem_properNames {path name : String} :
    name ∈ properNames path ↔ name ∈ names path ∧ isProperName name = true :=
  List.mem_filter

theorem up_mem_properNames {path : String} : ".." ∈ properNames path ↔ ".." ∈ names path := by
  rw [mem_properNames]
  exact and_iff_left (by decide)

/-! ### Joined paths -/

theorem join_of_isAbsolute {path : String} (absolute : isAbsolute path = true) (directory : String) :
    join directory path = path := by
  simp [join, absolute]

/-- A joined path ends in the path; what stands in front of it is from the directory or a slash. -/
theorem exists_front_of_join (directory path : String) :
    ∃ front, join directory path = front ++ path ∧
      ∀ character ∈ front.toList, character = '/' ∨ character ∈ directory.toList := by
  unfold join
  split
  · exact ⟨"", by simp, by simp⟩
  · split
    · exact ⟨directory, rfl, fun _ => Or.inr⟩
    · refine ⟨directory ++ "/", rfl, fun character member => ?_⟩
      rw [String.toList_append, List.mem_append] at member
      rcases member with old | isSlash
      · exact .inr old
      · exact .inl (by simpa using isSlash)

/-- A text that ends with a slash has the names before the slash, and an empty one. -/
theorem exists_of_endsInSlash {directory : String}
    (ends : (directory.toList.getLast? == some '/') = true) :
    ∃ front, directory = front ++ "/" := by
  have slash : ("/" : String).toList = ['/'] := by decide
  obtain ⟨front, whole⟩ := List.getLast?_eq_some_iff.mp (eq_of_beq ends)
  refine ⟨String.ofList front, ?_⟩
  rw [← String.toList_inj, String.toList_append, String.toList_ofList, whole, slash]

theorem properNames_append_slash (first second : String) :
    properNames (first ++ "/" ++ second) = properNames first ++ properNames second := by
  simp [properNames, names_append_slash]

theorem properNames_empty : properNames "" = [] := by decide

theorem properNames_join {path : String} (relative : isAbsolute path = false) (directory : String) :
    properNames (join directory path) = properNames directory ++ properNames path := by
  unfold join
  rw [relative, Bool.false_or]
  -- A slash is put between the parts unless the directory is empty or ends with one.
  by_cases empty : directory.isEmpty = true
  · rw [if_pos empty, String.isEmpty_iff.mp empty, properNames_empty, List.nil_append]
  · rw [if_neg empty]
    by_cases ends : (directory.toList.getLast? == some '/') = true
    · rw [if_pos ends]
      obtain ⟨front, rfl⟩ := exists_of_endsInSlash ends
      have bare := properNames_append_slash front ""
      rw [String.append_empty, properNames_empty, List.append_nil] at bare
      rw [properNames_append_slash, bare]
    · rw [if_neg ends, properNames_append_slash]

theorem isAbsolute_join {path : String} (relative : isAbsolute path = false) (directory : String) :
    isAbsolute (join directory path) = isAbsolute directory := by
  unfold join
  rw [relative, Bool.false_or]
  by_cases empty : directory.isEmpty = true
  · rw [if_pos empty, String.isEmpty_iff.mp empty, relative]
    decide
  · have nonempty : directory.toList ≠ [] := by
      simpa [String.isEmpty_iff] using empty
    obtain ⟨first, others, characters⟩ := List.exists_cons_of_ne_nil nonempty
    rw [if_neg empty]
    split <;> simp [isAbsolute, characters]

/-- A path without upward steps leads inside of the directory that it is joined to. -/
theorem isInside_join {path : String} (relative : isAbsolute path = false)
    (noUp : ".." ∉ names path) (directory : String) : IsInside directory (join directory path) :=
  ⟨isAbsolute_join relative directory, properNames path, properNames_join relative directory,
    mt up_mem_properNames.mp noUp⟩

/-- What lies inside of a directory inside of another one lies inside of that one. -/
theorem IsInside.trans {outer inner path : String} (first : IsInside outer inner)
    (second : IsInside inner path) : IsInside outer path := by
  obtain ⟨root, further, names, noUp⟩ := first
  obtain ⟨innerRoot, rest, pathNames, stillNoUp⟩ := second
  refine ⟨innerRoot.trans root, further ++ rest, ?_, ?_⟩
  · rw [pathNames, names, List.append_assoc]
  · simp [noUp, stillNoUp]

/-- Inside of a directory without upward steps there are none at all. -/
theorem IsInside.noUp {directory path : String} (inside : IsInside directory path)
    (plain : ".." ∉ names directory) : ".." ∉ names path := by
  obtain ⟨_, rest, pathNames, noUp⟩ := inside
  rw [← up_mem_properNames, pathNames, List.mem_append, up_mem_properNames]
  exact not_or.mpr ⟨plain, noUp⟩

end RemoteConfig.File
