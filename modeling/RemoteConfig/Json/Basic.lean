import RemoteConfig.Number.Binary64

/-!
Contract: the data model of documents: null, booleans, numbers, strings, lists and objects.

Owns:
- the value type; numbers are integers of 64 bits or finite binary floating-point numbers;
- object fields as a list of pairs, and the operations that keep such a list sorted by key with
  one pair for each key;
- the canonical form of a value, in which every object has that shape.

Does not own: the text of documents.
-/

namespace RemoteConfig

/-- A document number: an integer of signed or unsigned 64 bits, or a finite double. -/
inductive Json.Number where
  | integer (value : Int) (inRange : Number.least64 ≤ value ∧ value ≤ Number.greatestUnsigned64)
  | double (value : Binary64) (finite : value.isFinite = true)
deriving DecidableEq

/-- A document value. The fields of an object are kept in the order in which they were given. -/
inductive Json where
  | null
  | bool (value : Bool)
  | number (value : Json.Number)
  | string (value : String)
  | array (items : List Json)
  | object (fields : List (String × Json))
deriving Inhabited

namespace Json

/-- Named values, such as the fields of an object or the properties of a source. -/
abbrev Fields := List (String × Json)

namespace Number

/-- An integer, when it is in the range of document integers. -/
def ofInt? (value : Int) : Option Number :=
  if inRange : Number.least64 ≤ value ∧ value ≤ Number.greatestUnsigned64 then some (.integer value inRange) else none

/-- A double, when it is finite. -/
def ofDouble? (value : Binary64) : Option Number :=
  if finite : value.isFinite = true then some (.double value finite) else none

end Number

/-- An integer as a value; null when it is out of range. -/
def ofInt (value : Int) : Json :=
  match Number.ofInt? value with
  | some found => .number found
  | none => .null

/-- A natural number as a value; null when it is out of range. -/
def ofNat (value : Nat) : Json :=
  ofInt value

/-- A double as a value; null when it is infinite or undefined. -/
def ofDouble (value : Binary64) : Json :=
  match Number.ofDouble? value with
  | some found => .number found
  | none => .null

/-- A string, or null for an absent one. -/
def ofOption : Option String → Json
  | some text => .string text
  | none => .null

def ofStrings (texts : List String) : Json :=
  .array (texts.map .string)

/-- The text of a string value. -/
def asString? : Json → Option String
  | .string text => some text
  | _ => none

end Json

namespace Fields

/-- Puts a value under a key into a list sorted by key, replacing an earlier value of that key. -/
def insert {α : Type} (key : String) (value : α) : List (String × α) → List (String × α)
  | [] => [(key, value)]
  | (other, otherValue) :: rest =>
    if key = other then (key, value) :: rest
    else if key < other then (key, value) :: (other, otherValue) :: rest
    else (other, otherValue) :: insert key value rest

/-- The sorted list of the given pairs; the last pair of a key counts. -/
def ofList {α : Type} (pairs : List (String × α)) : List (String × α) :=
  pairs.foldl (fun fields pair => insert pair.1 pair.2 fields) []

/-- The first value under a key. -/
def get? {α : Type} (key : String) (fields : List (String × α)) : Option α :=
  fields.lookup key

/-- Looking up the key just inserted finds the inserted value. -/
theorem get?_insert_self {α : Type} (key : String) (value : α) (fields : List (String × α)) :
    get? key (insert key value fields) = some value := by
  induction fields with
  | nil => simp [insert, get?]
  | cons pair rest inductionHypothesis =>
    obtain ⟨other, otherValue⟩ := pair
    simp only [insert]
    split
    · simp [get?]
    · split
      · simp [get?]
      · rename_i different _
        have unequal : (key == other) = false := by simpa using different
        simpa [get?, List.lookup_cons, unequal] using inductionHypothesis

/-- Inserting leaves the values of all other keys alone. -/
theorem get?_insert_of_ne {α : Type} {key other : String} (different : other ≠ key) (value : α)
    (fields : List (String × α)) :
    get? other (insert key value fields) = get? other fields := by
  have unequal : (other == key) = false := by simpa using different
  induction fields with
  | nil => simp [insert, get?, List.lookup_cons, unequal]
  | cons pair rest inductionHypothesis =>
    obtain ⟨first, firstValue⟩ := pair
    simp only [insert]
    split
    · rename_i same
      subst same
      simp [get?, List.lookup_cons, unequal]
    · split
      · simp [get?, List.lookup_cons, unequal]
      · simp only [get?, List.lookup_cons] at inductionHypothesis ⊢
        split
        · rfl
        · exact inductionHypothesis

end Fields

namespace Json

/-- The value of a field of an object; nothing for any other value. -/
def get? (key : String) : Json → Option Json
  | .object fields => Fields.get? key fields
  | _ => none

def follow? (names : List String) (value : Json) : Option Json :=
  names.foldl (fun reached name => reached.bind (get? name)) (some value)

mutual

/-- Sorts the fields of every object by key; of several fields of one key the last counts. -/
def canonical : Json → Json
  | .array items => .array (canonicalItems items)
  | .object fields => .object (Fields.ofList (canonicalFields fields))
  | .null => .null
  | .bool value => .bool value
  | .number value => .number value
  | .string value => .string value

def canonicalItems : List Json → List Json
  | [] => []
  | item :: rest => canonical item :: canonicalItems rest

def canonicalFields : List (String × Json) → List (String × Json)
  | [] => []
  | (key, value) :: rest => (key, canonical value) :: canonicalFields rest

end

/-- An object with sorted fields. -/
def ofFields (fields : List (String × Json)) : Json :=
  .object (Fields.ofList fields)

end Json

end RemoteConfig
