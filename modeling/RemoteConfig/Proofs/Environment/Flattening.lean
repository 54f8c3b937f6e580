import RemoteConfig.Proofs.Environment.Leaves

/-!
Contract: flattening keeps every leaf of a document apart from the others.

Owns:
- stepping into a document, and induction over what steps lead to;
- the leaves that flattening visits are those that steps lead to;
- the text of the steps to a leaf, and that plain names make it belong to one leaf;
- a document without empty objects is made of its leaves;
- `flatten_isFaithful`: the flat map of a document of plain names has one entry for each leaf.

Does not own: names with dots or brackets, and reading keys back.
-/

namespace RemoteConfig

namespace Json

/-! ### Stepping into a document -/

/-- What a step leads to: a field of an object, or an item of a list. -/
def member? : Json → Tree.Step → Option Json
  | .object fields, .child name => Fields.get? name fields
  | .array items, .position index => if 0 ≤ index then items[index.toNat]? else none
  | _, _ => none

theorem member?_object (fields : List (String × Json)) (name : String) :
    (object fields).member? (.child name) = Fields.get? name fields :=
  rfl

theorem member?_array (items : List Json) (index : Nat) :
    (array items).member? (.position (index : Int)) = items[index]? := by
  rw [member?, if_pos (Int.natCast_nonneg index), Int.toNat_natCast]

theorem reach?_cons (document : Json) (step : Tree.Step) (rest : List Tree.Step) :
    document.reach? (step :: rest) = (document.member? step).bind (reach? rest) := by
  cases document with
  | array items =>
      cases step with
      | child name => rfl
      | position index =>
          rw [reach?, member?]
          split <;> rfl
  | _ => cases step <;> rfl

/-- A leaf of a document: no object and no list with items, reached by steps. -/
def HasLeaf (document : Json) (steps : List Tree.Step) (value : Json) : Prop :=
  document.reach? steps = some value ∧ value.IsLeaf

theorem hasLeaf_cons_iff {document value : Json} {step : Tree.Step} {rest : List Tree.Step} :
    document.HasLeaf (step :: rest) value ↔
      ∃ member, document.member? step = some member ∧ member.HasLeaf rest value := by
  unfold HasLeaf
  rw [reach?_cons, Option.bind_eq_some_iff]
  constructor
  · intro leaf
    obtain ⟨⟨member, found, reached⟩, isLeaf⟩ := leaf
    exact ⟨member, found, reached, isLeaf⟩
  · intro leaf
    obtain ⟨member, found, reached, isLeaf⟩ := leaf
    exact ⟨⟨member, found, reached⟩, isLeaf⟩

theorem mem_of_member? {items : List Json} {index : Int} {item : Json}
    (found : (array items).member? (.position index) = some item) :
    0 ≤ index ∧ items[index.toNat]? = some item := by
  rw [member?] at found
  by_cases fromStart : 0 ≤ index
  · rw [if_pos fromStart] at found
    exact ⟨fromStart, found⟩
  · rw [if_neg fromStart] at found
    cases found

/-- What a step leads to is a smaller document. -/
theorem sizeOf_member? {document member : Json} {step : Tree.Step}
    (found : document.member? step = some member) : sizeOf member < sizeOf document := by
  cases document with
  | object fields =>
      cases step with
      | position index => cases found
      | child name =>
          have inside := List.sizeOf_lt_of_mem (Fields.mem_of_get? found)
          simp only [Prod.mk.sizeOf_spec] at inside
          simp only [Json.object.sizeOf_spec]
          omega
  | array items =>
      cases step with
      | child name => cases found
      | position index =>
          have inside := List.sizeOf_lt_of_mem (List.mem_of_getElem? (mem_of_member? found).2)
          simp only [Json.array.sizeOf_spec]
          omega
  | _ => cases step <;> cases found

/-- Induction over documents: a property of all that single steps lead to carries over. -/
@[elab_as_elim]
theorem memberInduction {motive : Json → Prop}
    (node : ∀ document : Json,
      (∀ step member, document.member? step = some member → motive member) → motive document)
    (document : Json) : motive document := by
  induction size : sizeOf document using Nat.strongRecOn generalizing document with
  | ind bound inductionHypothesis =>
      apply node
      intro step member found
      exact inductionHypothesis (sizeOf member) (size ▸ sizeOf_member? found) member rfl

theorem canonical_of_member? {document member : Json} (isCanonical : document.canonical = document)
    {step : Tree.Step} (found : document.member? step = some member) :
    member.canonical = member := by
  cases document with
  | object fields =>
      cases step with
      | position index => cases found
      | child name => exact canonical_of_mem_fields isCanonical (Fields.mem_of_get? found)
  | array items =>
      cases step with
      | child name => cases found
      | position index =>
          exact canonical_of_mem_items isCanonical (List.mem_of_getElem? (mem_of_member? found).2)
  | _ => cases step <;> cases found

/-! ### Objects inside a document -/

mutual

/-- All objects of a document pass a test of their fields. -/
def AllObjects (test : List (String × Json) → Prop) : Json → Prop
  | .object fields => test fields ∧ FieldsAllObjects test fields
  | .array items => ItemsAllObjects test items
  | _ => True

def FieldsAllObjects (test : List (String × Json) → Prop) : List (String × Json) → Prop
  | [] => True
  | (_, value) :: rest => AllObjects test value ∧ FieldsAllObjects test rest

def ItemsAllObjects (test : List (String × Json) → Prop) : List Json → Prop
  | [] => True
  | item :: rest => AllObjects test item ∧ ItemsAllObjects test rest

end

/-- The fields have names without dots and brackets, none of them empty. -/
def HavePlainNames (fields : List (String × Json)) : Prop :=
  ∀ field ∈ fields, field.1 ≠ "" ∧ ∀ character ∈ field.1.toList, character ∉ ['.', '[', ']']

theorem allObjects_of_mem_fields {test : List (String × Json) → Prop}
    {fields : List (String × Json)} (all : FieldsAllObjects test fields) {field : String × Json}
    (member : field ∈ fields) : field.2.AllObjects test := by
  induction fields with
  | nil => cases member
  | cons first rest inductionHypothesis =>
      rcases List.mem_cons.mp member with rfl | later
      · exact all.1
      · exact inductionHypothesis all.2 later

theorem allObjects_of_mem_items {test : List (String × Json) → Prop} {items : List Json}
    (all : ItemsAllObjects test items) {item : Json} (member : item ∈ items) :
    item.AllObjects test := by
  induction items with
  | nil => cases member
  | cons first rest inductionHypothesis =>
      rcases List.mem_cons.mp member with rfl | later
      · exact all.1
      · exact inductionHypothesis all.2 later

theorem allObjects_of_member? {test : List (String × Json) → Prop} {document member : Json}
    (all : document.AllObjects test) {step : Tree.Step}
    (found : document.member? step = some member) : member.AllObjects test := by
  cases document with
  | object fields =>
      cases step with
      | position index => cases found
      | child name => exact allObjects_of_mem_fields all.2 (Fields.mem_of_get? found)
  | array items =>
      cases step with
      | child name => cases found
      | position index =>
          exact allObjects_of_mem_items all (List.mem_of_getElem? (mem_of_member? found).2)
  | _ => cases step <;> cases found

/-! ### The leaves that flattening visits -/

theorem not_hasLeaf_nil (document : Json) (isNode : ¬ document.IsLeaf) (value : Json) :
    ¬ document.HasLeaf [] value := by
  intro leaf
  obtain ⟨same, isLeaf⟩ := leaf
  exact isNode (Option.some.inj same ▸ isLeaf)

theorem hasLeaf_of_isLeaf {document : Json} (isLeaf : document.IsLeaf) {steps : List Tree.Step}
    {value : Json} : document.HasLeaf steps value ↔ steps = [] ∧ value = document := by
  cases steps with
  | nil =>
      constructor
      · intro leaf
        exact ⟨rfl, (Option.some.inj leaf.1).symm⟩
      · intro same
        exact ⟨congrArg some same.2.symm, same.2 ▸ isLeaf⟩
  | cons step rest =>
      constructor
      · intro leaf
        obtain ⟨member, found, _⟩ := hasLeaf_cons_iff.mp leaf
        cases document with
        | object fields => exact isLeaf.elim
        | array items =>
            cases step with
            | child name => cases found
            | position index =>
                have present := (mem_of_member? found).2
                rw [show items = [] from isLeaf] at present
                cases present
        | _ => cases step <;> cases found
      · intro same
        cases same.1

theorem hasLeaf_object_iff {fields : List (String × Json)} {steps : List Tree.Step} {value : Json} :
    (object fields).HasLeaf steps value ↔
      ∃ name member rest, Fields.get? name fields = some member ∧ member.HasLeaf rest value ∧
        steps = .child name :: rest := by
  constructor
  · intro leaf
    cases steps with
    | nil => exact absurd leaf (not_hasLeaf_nil (.object fields) id value)
    | cons step rest =>
        obtain ⟨member, found, inner⟩ := hasLeaf_cons_iff.mp leaf
        cases step with
        | position index => cases found
        | child name => exact ⟨name, member, rest, found, inner, rfl⟩
  · intro leaf
    obtain ⟨name, member, rest, found, inner, rfl⟩ := leaf
    exact hasLeaf_cons_iff.mpr ⟨member, found, inner⟩

theorem hasLeaf_array_iff {items : List Json} (isNode : items ≠ []) {steps : List Tree.Step}
    {value : Json} :
    (array items).HasLeaf steps value ↔
      ∃ (index : Nat) (member : Json) (rest : List Tree.Step), items[index]? = some member ∧
        member.HasLeaf rest value ∧ steps = .position index :: rest := by
  constructor
  · intro leaf
    cases steps with
    | nil => exact absurd leaf (not_hasLeaf_nil (.array items) isNode value)
    | cons step rest =>
        obtain ⟨member, found, inner⟩ := hasLeaf_cons_iff.mp leaf
        cases step with
        | child name => cases found
        | position index =>
            obtain ⟨fromStart, present⟩ := mem_of_member? found
            refine ⟨index.toNat, member, rest, present, inner, ?_⟩
            rw [Int.toNat_of_nonneg fromStart]
  · intro leaf
    obtain ⟨index, member, rest, present, inner, rfl⟩ := leaf
    exact hasLeaf_cons_iff.mpr ⟨member, (member?_array items index).trans present, inner⟩

/-- The leaves of a canonical document are those that steps lead to. -/
theorem mem_leaves_iff {document : Json} (isCanonical : document.canonical = document)
    {steps : List Tree.Step} {value : Json} :
    (steps, value) ∈ document.leaves ↔ document.HasLeaf steps value := by
  induction document using memberInduction generalizing steps with
  | node document inductionHypothesis =>
  have below {step : Tree.Step} {member : Json} (found : document.member? step = some member)
      (rest : List Tree.Step) : (rest, value) ∈ member.leaves ↔ member.HasLeaf rest value :=
    inductionHypothesis step member found (canonical_of_member? isCanonical found)
  cases document with
  | object fields =>
      have sorted := isSorted_of_canonical isCanonical
      rw [leaves, mem_fieldLeaves, hasLeaf_object_iff]
      constructor
      · intro leaf
        obtain ⟨⟨name, member⟩, isField, inner, isLeaf, same⟩ := leaf
        obtain ⟨rfl, rfl⟩ := Prod.mk.inj same
        have found := Fields.get?_of_mem sorted isField
        exact ⟨name, member, inner.1, found, (@below (.child name) member found _).mp isLeaf, rfl⟩
      · intro leaf
        obtain ⟨name, member, rest, found, inner, rfl⟩ := leaf
        exact ⟨(name, member), Fields.mem_of_get? found, (rest, value),
          (@below (.child name) member found rest).mpr inner, rfl⟩
  | array items =>
      cases items with
      | nil =>
          rw [hasLeaf_of_isLeaf (show (array []).IsLeaf from rfl)]
          simp [leaves]
      | cons item others =>
          have found {index : Nat} {member : Json}
              (present : (item :: others)[index]? = some member) :
              (array (item :: others)).member? (.position index) = some member :=
            (member?_array _ index).trans present
          rw [leaves, mem_itemLeaves, hasLeaf_array_iff (List.cons_ne_nil item others)]
          simp only [Nat.zero_add]
          constructor
          · intro leaf
            obtain ⟨index, member, present, inner, isLeaf, same⟩ := leaf
            obtain ⟨rfl, rfl⟩ := Prod.mk.inj same
            exact ⟨index, member, inner.1, present, (below (found present) _).mp isLeaf, rfl⟩
          · intro leaf
            obtain ⟨index, member, rest, present, inner, rfl⟩ := leaf
            exact ⟨index, member, present, (rest, value), (below (found present) rest).mpr inner,
              rfl⟩
  | null | bool _ | number _ | string _ =>
      rw [hasLeaf_of_isLeaf (by exact trivial)]
      simp [leaves]

/-! ### A document out of its leaves -/

/-- A document without empty objects has a leaf. -/
theorem exists_hasLeaf {document : Json} (filled : document.AllObjects (· ≠ [])) :
    ∃ steps value, document.HasLeaf steps value := by
  induction document using memberInduction with
  | node document inductionHypothesis =>
  have below {step : Tree.Step} {member : Json} (found : document.member? step = some member) :
      ∃ steps value, document.HasLeaf steps value := by
    obtain ⟨rest, value, leaf⟩ :=
      inductionHypothesis step member found (allObjects_of_member? filled found)
    exact ⟨step :: rest, value, hasLeaf_cons_iff.mpr ⟨member, found, leaf⟩⟩
  cases document with
  | object fields =>
      cases fields with
      | nil => exact absurd rfl filled.1
      | cons field rest =>
          apply @below (.child field.1) field.2
          rw [member?_object, Fields.get?_cons, if_pos rfl]
  | array items =>
      cases items with
      | nil => exact ⟨[], .array [], rfl, rfl⟩
      | cons item others => exact @below (.position (0 : Nat)) item (member?_array _ 0)
  | null => exact ⟨[], .null, rfl, trivial⟩
  | bool value => exact ⟨[], .bool value, rfl, trivial⟩
  | number value => exact ⟨[], .number value, rfl, trivial⟩
  | string value => exact ⟨[], .string value, rfl, trivial⟩

/-- A document that has no leaf at its root is an object or a list, made of what steps lead to. -/
theorem eq_of_member? {first second : Json} (firstCanonical : first.canonical = first)
    (secondCanonical : second.canonical = second) (isNode : ¬ first.IsLeaf)
    (some : ∃ step member, first.member? step = some member)
    (same : ∀ step, first.member? step = second.member? step) : first = second := by
  obtain ⟨step, member, found⟩ := some
  have foundToo := (same step).symm.trans found
  cases first with
  | object fields =>
      cases step with
      | position index => cases found
      | child name =>
          cases second with
          | object others =>
              rw [Json.object.injEq]
              apply Fields.eq_of_get? (isSorted_of_canonical firstCanonical)
                (isSorted_of_canonical secondCanonical)
              intro key
              exact same (.child key)
          | _ => cases foundToo
  | array items =>
      cases step with
      | child name => cases found
      | position index =>
          cases second with
          | array others =>
              rw [Json.array.injEq]
              apply List.ext_getElem?
              intro index
              rw [← member?_array, ← member?_array]
              exact same (.position index)
          | _ => cases foundToo
  | _ => exact absurd trivial isNode

/-- Documents without empty objects are equal when they have the same leaves. -/
theorem eq_of_hasLeaf {first second : Json} (firstCanonical : first.canonical = first)
    (secondCanonical : second.canonical = second) (firstFilled : first.AllObjects (· ≠ []))
    (secondFilled : second.AllObjects (· ≠ []))
    (same : ∀ steps value, first.HasLeaf steps value ↔ second.HasLeaf steps value) :
    first = second := by
  induction first using memberInduction generalizing second with
  | node first inductionHypothesis =>
  by_cases isLeaf : first.IsLeaf
  · exact (Option.some.inj ((same [] first).mp ⟨rfl, isLeaf⟩).1).symm
  -- A step leads somewhere in both documents or in neither, as there are leaves behind it.
  have present {left right : Json} (leftFilled : left.AllObjects (· ≠ []))
      (sameLeaves : ∀ steps value, left.HasLeaf steps value ↔ right.HasLeaf steps value)
      {step : Tree.Step} {member : Json} (found : left.member? step = some member) :
      ∃ other, right.member? step = some other := by
    obtain ⟨rest, value, leaf⟩ := exists_hasLeaf (allObjects_of_member? leftFilled found)
    have reached := hasLeaf_cons_iff.mpr ⟨member, found, leaf⟩
    obtain ⟨other, otherFound, _⟩ :=
      hasLeaf_cons_iff.mp ((sameLeaves (step :: rest) value).mp reached)
    exact ⟨other, otherFound⟩
  apply eq_of_member? firstCanonical secondCanonical isLeaf
  · obtain ⟨steps, value, leaf⟩ := exists_hasLeaf firstFilled
    cases steps with
    | nil => exact absurd leaf (not_hasLeaf_nil first isLeaf value)
    | cons step rest =>
        obtain ⟨member, found, _⟩ := hasLeaf_cons_iff.mp leaf
        exact ⟨step, member, found⟩
  · intro step
    cases found : first.member? step with
    | none =>
        cases otherFound : second.member? step with
        | none => rfl
        | some other =>
            obtain ⟨member, isMember⟩ :=
              present secondFilled (fun steps value => (same steps value).symm) otherFound
            rw [found] at isMember
            cases isMember
    | some member =>
        obtain ⟨other, otherFound⟩ := present firstFilled same found
        rw [otherFound, Option.some.injEq]
        apply inductionHypothesis step member found (canonical_of_member? firstCanonical found)
          (canonical_of_member? secondCanonical otherFound)
          (allObjects_of_member? firstFilled found)
          (allObjects_of_member? secondFilled otherFound)
        intro rest value
        have atStep := same (step :: rest) value
        simp only [hasLeaf_cons_iff, found, otherFound, Option.some.injEq] at atStep
        simpa using atStep

end Json

/-! ### Keys -/

/-- The key of a leaf: names joined by dots, and positions in brackets. -/
def Flatten.key : List Tree.Step → String
  | [] => ""
  | .child name :: rest => (Tree.Path.mk name rest).text
  | .position index :: rest => (Tree.Path.mk ("[" ++ toString index.toNat ++ "]") rest).text

/-- A step does not go by an empty name. -/
def Tree.Step.IsNamed : Tree.Step → Prop
  | .child name => name ≠ ""
  | .position _ => True

namespace Flatten

theorem written_eq_key {steps : List Tree.Step} (named : ∀ step ∈ steps, step.IsNamed) :
    written "" steps = key steps := by
  cases steps with
  | nil => rfl
  | cons step rest =>
      cases step with
      | child name => exact written_eq_text (named (.child name) List.mem_cons_self) rest
      | position index => exact written_eq_text (by simp [itemPath]) rest

theorem key_of_other {steps : List Tree.Step} (other : ∀ name rest, steps ≠ .child name :: rest) :
    key steps = String.ofList (steps.flatMap Tree.Step.characters) := by
  cases steps with
  | nil => rfl
  | cons step rest =>
      cases step with
      | child name => exact absurd rfl (other name rest)
      | position index => simp [key, Tree.Path.text, Tree.Step.characters]

/-- A key that begins with a name is no key that begins otherwise. -/
theorem key_child_ne {name : String} (named : name ≠ "") (unmarked : Tree.IsUnmarkedName name)
    (rest : List Tree.Step) {steps : List Tree.Step}
    (other : ∀ name rest, steps ≠ .child name :: rest) :
    key (.child name :: rest) ≠ key steps := by
  intro same
  rw [key_of_other other] at same
  have characters : name.toList ++ rest.flatMap Tree.Step.characters =
      steps.flatMap Tree.Step.characters := String.ofList_injective same
  have nonempty : name.toList ≠ [] := by simpa using named
  obtain ⟨first, later, isName⟩ := List.exists_cons_of_ne_nil nonempty
  rw [isName] at characters
  cases steps with
  | nil => cases characters
  | cons step behind =>
      cases step with
      | child below => exact other below behind rfl
      | position index =>
          have isBracket : first = '[' := (List.cons.inj characters).1
          have noMark := unmarked first (isName ▸ List.mem_cons_self)
          rw [isBracket] at noMark
          cases noMark

/-- Steps that go by unmarked names are told apart by their keys. -/
theorem key_injective {first second : List Tree.Step}
    (firstNamed : ∀ step ∈ first, step.IsNamed ∧ step.IsUnmarked)
    (secondNamed : ∀ step ∈ second, step.IsNamed ∧ step.IsUnmarked)
    (same : key first = key second) : first = second := by
  by_cases firstChild : ∃ name rest, first = .child name :: rest
  · obtain ⟨name, rest, rfl⟩ := firstChild
    obtain ⟨⟨named, unmarked⟩, restNamed⟩ := List.forall_mem_cons.mp firstNamed
    by_cases secondChild : ∃ name rest, second = .child name :: rest
    · obtain ⟨otherName, otherRest, rfl⟩ := secondChild
      obtain ⟨⟨_, otherUnmarked⟩, otherNamed⟩ := List.forall_mem_cons.mp secondNamed
      have samePath := @Tree.Path.eq_of_text ⟨name, rest⟩ ⟨otherName, otherRest⟩ unmarked
        (fun step member => (restNamed step member).2) otherUnmarked
        (fun step member => (otherNamed step member).2) same
      rw [Tree.Path.mk.injEq] at samePath
      rw [samePath.1, samePath.2]
    · exact absurd same (key_child_ne named unmarked rest fun name rest isChild =>
        secondChild ⟨name, rest, isChild⟩)
  · have firstOther : ∀ name rest, first ≠ .child name :: rest := fun name rest isChild =>
      firstChild ⟨name, rest, isChild⟩
    by_cases secondChild : ∃ name rest, second = .child name :: rest
    · obtain ⟨name, rest, rfl⟩ := secondChild
      obtain ⟨⟨named, unmarked⟩, _⟩ := List.forall_mem_cons.mp secondNamed
      exact absurd same.symm (key_child_ne named unmarked rest firstOther)
    · have secondOther : ∀ name rest, second ≠ .child name :: rest := fun name rest isChild =>
        secondChild ⟨name, rest, isChild⟩
      rw [key_of_other firstOther, key_of_other secondOther] at same
      exact Tree.Path.steps_injective (fun step member => (firstNamed step member).2)
        (fun step member => (secondNamed step member).2) (String.ofList_injective same)

end Flatten

/-! ### The flat map -/

namespace Json

section Plain

variable {document : Json}

/-- Steps into a document of plain names go by names that are not empty and not marked. -/
theorem named_of_reach? (plain : document.AllObjects HavePlainNames) {steps : List Tree.Step}
    {value : Json} (reached : document.reach? steps = some value) :
    ∀ step ∈ steps, step.IsNamed ∧ step.IsUnmarked := by
  induction steps generalizing document with
  | nil => simp
  | cons step rest inductionHypothesis =>
      rw [reach?_cons, Option.bind_eq_some_iff] at reached
      obtain ⟨member, found, later⟩ := reached
      refine List.forall_mem_cons.mpr
        ⟨?_, inductionHypothesis (allObjects_of_member? plain found) later⟩
      cases document with
      | object fields =>
          cases step with
          | position index => cases found
          | child name =>
              obtain ⟨nonempty, noSigns⟩ := plain.1 _ (Fields.mem_of_get? found)
              refine ⟨nonempty, fun character inName => ?_⟩
              have noSign := noSigns character inName
              simp only [List.mem_cons, not_or] at noSign
              simp [Tree.endsName, noSign]
      | array items =>
          cases step with
          | child name => cases found
          | position index => exact ⟨trivial, (mem_of_member? found).1⟩
      | _ => cases step <;> cases found

theorem key_injective_of_hasLeaf (plain : document.AllObjects HavePlainNames) {other : Json}
    (otherPlain : other.AllObjects HavePlainNames) {first second : List Tree.Step}
    {firstValue secondValue : Json} (firstLeaf : document.HasLeaf first firstValue)
    (secondLeaf : other.HasLeaf second secondValue)
    (same : Flatten.key first = Flatten.key second) : first = second :=
  Flatten.key_injective (named_of_reach? plain firstLeaf.1)
    (named_of_reach? otherPlain secondLeaf.1) same

/-- The flat map of a document of plain names holds exactly its leaves, under their keys. -/
theorem mem_flatten_iff (isCanonical : document.canonical = document)
    (plain : document.AllObjects HavePlainNames) {key : String} {value : Json} :
    (key, value) ∈ flatten document ↔
      ∃ steps, document.HasLeaf steps value ∧ Flatten.key steps = key := by
  have written : Flatten.leaves "" document =
      document.leaves.map fun leaf => (Flatten.key leaf.1, leaf.2) := by
    rw [Flatten.leaves_eq]
    apply List.map_congr_left
    intro leaf isLeaf
    have named := named_of_reach? plain ((mem_leaves_iff isCanonical).mp isLeaf).1
    rw [Flatten.written_eq_key fun step member => (named step member).1]
  have distinct : ((Flatten.leaves "" document).map Prod.fst).Nodup := by
    rw [written, List.map_map]
    refine List.pairwise_map.mpr ((pairwise_leaves document isCanonical).imp_of_mem ?_)
    intro first second firstMember secondMember different same
    have firstLeaf := (mem_leaves_iff isCanonical).mp firstMember
    have secondLeaf := (mem_leaves_iff isCanonical).mp secondMember
    exact different (key_injective_of_hasLeaf plain plain firstLeaf secondLeaf same)
  rw [flatten, (Fields.perm_ofList distinct).mem_iff, written, List.mem_map]
  constructor
  · intro member
    obtain ⟨⟨steps, leaf⟩, isLeaf, same⟩ := member
    obtain ⟨rfl, rfl⟩ := Prod.mk.inj same
    exact ⟨steps, (mem_leaves_iff isCanonical).mp isLeaf, rfl⟩
  · intro leaf
    obtain ⟨steps, hasLeaf, rfl⟩ := leaf
    exact ⟨(steps, value), (mem_leaves_iff isCanonical).mpr hasLeaf, rfl⟩

/-- Documents of plain names without empty objects are told apart by their flat maps. -/
theorem eq_of_flatten (isCanonical : document.canonical = document)
    (plain : document.AllObjects HavePlainNames) (filled : document.AllObjects (· ≠ []))
    {other : Json} (otherCanonical : other.canonical = other)
    (otherPlain : other.AllObjects HavePlainNames) (otherFilled : other.AllObjects (· ≠ []))
    (same : flatten other = flatten document) : other = document := by
  have transfer {left right : Json} (leftCanonical : left.canonical = left)
      (leftPlain : left.AllObjects HavePlainNames) (rightCanonical : right.canonical = right)
      (rightPlain : right.AllObjects HavePlainNames) (sameMap : flatten left = flatten right)
      (steps : List Tree.Step) (value : Json) (leaf : left.HasLeaf steps value) :
      right.HasLeaf steps value := by
    have entry := (mem_flatten_iff leftCanonical leftPlain).mpr ⟨steps, leaf, rfl⟩
    rw [sameMap] at entry
    obtain ⟨otherSteps, otherLeaf, sameKey⟩ := (mem_flatten_iff rightCanonical rightPlain).mp entry
    rw [key_injective_of_hasLeaf leftPlain rightPlain leaf otherLeaf sameKey.symm]
    exact otherLeaf
  apply eq_of_hasLeaf otherCanonical isCanonical otherFilled filled
  intro steps value
  constructor
  · exact transfer otherCanonical otherPlain isCanonical plain same steps value
  · exact transfer isCanonical plain otherCanonical otherPlain same.symm steps value

end Plain

end Json

/-- The flat map of a document whose names are plain has one entry for each leaf and no other: the
key is the text of the steps to the leaf, no key stands twice, and no two leaves share one. Without
empty objects nothing else of the document is lost. -/
theorem flatten_isFaithful {document : Json} (isCanonical : document.canonical = document)
    (plain : document.AllObjects Json.HavePlainNames) :
    (∀ key value, (key, value) ∈ flatten document ↔
        ∃ steps, document.HasLeaf steps value ∧ Flatten.key steps = key) ∧
      ((flatten document).map Prod.fst).Nodup ∧
      (∀ first second firstValue secondValue, document.HasLeaf first firstValue →
        document.HasLeaf second secondValue → Flatten.key first = Flatten.key second →
          first = second) ∧
      ∀ other : Json, other.canonical = other → other.AllObjects Json.HavePlainNames →
        document.AllObjects (· ≠ []) → other.AllObjects (· ≠ []) →
          flatten other = flatten document → other = document := by
  refine ⟨fun _ _ => Json.mem_flatten_iff isCanonical plain, ?_, ?_, ?_⟩
  · have sorted : Fields.IsSorted (flatten document) := Fields.isSorted_ofList _
    refine List.pairwise_map.mpr (sorted.imp ?_)
    intro first second below same
    exact String.lt_irrefl _ (same ▸ below)
  · intro first second _ _ firstLeaf secondLeaf same
    exact Json.key_injective_of_hasLeaf plain plain firstLeaf secondLeaf same
  · intro other otherCanonical otherPlain filled otherFilled same
    exact Json.eq_of_flatten isCanonical plain filled otherCanonical otherPlain otherFilled same

/-- A document with lists of lists, an empty list, and names with blanks and other signs. -/
def servedDocument : Json :=
  .object
    [("a b", .array [.array [.null, .array []], .object [("x-y/z", .string "")]]),
      ("server", .object [("port", .bool true)])]

/-- The document has an entry for its deepest leaf, and no other document has its flat map. -/
theorem flatten_isFaithful_nested :
    servedDocument.canonical = servedDocument ∧ servedDocument.AllObjects Json.HavePlainNames ∧
      servedDocument.AllObjects (· ≠ []) ∧
      ("a b[1].x-y/z", Json.string "") ∈ flatten servedDocument ∧
      ∀ other : Json, other.canonical = other → other.AllObjects Json.HavePlainNames →
        other.AllObjects (· ≠ []) → flatten other = flatten servedDocument →
          other = servedDocument := by
  have isCanonical : servedDocument.canonical = servedDocument := rfl
  have plain : servedDocument.AllObjects Json.HavePlainNames := by
    simp [servedDocument, Json.AllObjects, Json.FieldsAllObjects, Json.ItemsAllObjects,
      Json.HavePlainNames]
  have filled : servedDocument.AllObjects (· ≠ []) := by
    simp [servedDocument, Json.AllObjects, Json.FieldsAllObjects, Json.ItemsAllObjects]
  obtain ⟨entries, _, _, determined⟩ := flatten_isFaithful isCanonical plain
  refine ⟨isCanonical, plain, filled, ?_, ?_⟩
  · rw [entries]
    exact ⟨[.child "a b", .position 1, .child "x-y/z"], ⟨rfl, trivial⟩, by decide +kernel⟩
  · intro other otherCanonical otherPlain otherFilled same
    exact determined other otherCanonical otherPlain filled otherFilled same

end RemoteConfig
