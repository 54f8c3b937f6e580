/-!
Contract: labels in plain form and in the form in which they travel as one path segment.

Owns:
- the wire form, in which every slash is written `(_)`;
- the plain form, in which every `(_)` is read as a slash, from left to right.

Does not own: which labels are tried, and how a segment is percent-encoded.
-/

namespace RemoteConfig.Label

/-- Writes every slash as the placeholder. -/
def wireChars : List Char → List Char
  | [] => []
  | character :: rest =>
    if character = '/' then '(' :: '_' :: ')' :: wireChars rest else character :: wireChars rest

/-- Reads every placeholder as a slash, from left to right. -/
def plainChars : List Char → List Char
  | '(' :: '_' :: ')' :: rest => '/' :: plainChars rest
  | character :: rest => character :: plainChars rest
  | [] => []

/-- The label as it travels in one path segment. -/
def toWire (label : String) : String :=
  String.ofList (wireChars label.toList)

/-- The label that a wire form stands for. -/
def ofWire (label : String) : String :=
  String.ofList (plainChars label.toList)

/-- The plain form has no new characters but slashes. -/
theorem mem_of_mem_ofWire {label : String} {character : Char}
    (member : character ∈ (ofWire label).toList) : character = '/' ∨ character ∈ label.toList := by
  rw [ofWire, String.toList_ofList] at member
  generalize label.toList = text at member ⊢
  induction text using plainChars.induct with
  | case1 rest inductionHypothesis =>
      rcases List.mem_cons.mp member with isSlash | later
      · exact .inl isSlash
      · exact (inductionHypothesis later).imp_right fun old => by simp [old]
  | case2 first rest noPlaceholder inductionHypothesis =>
      rw [plainChars] at member
      · rcases List.mem_cons.mp member with isFirst | later
        · exact .inr (isFirst ▸ List.mem_cons_self)
        · exact (inductionHypothesis later).imp_right (List.mem_cons_of_mem _)
      · exact noPlaceholder
  | case3 => cases member

end RemoteConfig.Label
