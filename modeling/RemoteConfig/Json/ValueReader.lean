import RemoteConfig.Json.Basic

/-!
Contract: reading typed values out of untyped ones, over any kind of untyped value.

Owns:
- the readings that a kind of untyped value offers: scalars, items, entries, a choice of names;
- records, whose fields are given by name or by position;
- optional and defaulted fields;
- the strict readings of documents, which convert nothing.

Does not own: the conversions of lenient readings.
-/

namespace RemoteConfig

/-- The readings that untyped values of type `V` offer. A choice is given by the accepted names of
each alternative, and answered by the position of the alternative. -/
structure ValueReader (V : Type) where
  isAbsent : V → Bool
  bool? : V → Option Bool
  integer? : Int → Int → V → Option Int
  double? : V → Option Binary64
  string? : V → Option String
  items? : V → Option (List V)
  entries? : V → Option (List (String × V))
  choice? : List (List String) → V → Option Nat
  extraItems : Bool

/-- The fields of a record: named, or in the order of their declaration. -/
inductive RecordFields (V : Type) where
  | named (entries : List (String × V))
  | positional (items : List V)

namespace RecordFields

def get? {V : Type} (record : RecordFields V) (position : Nat) (name : String) : Option V :=
  match record with
  | named entries => Fields.get? name entries
  | positional items => items[position]?

def fieldOr {V α : Type} (record : RecordFields V) (position : Nat) (name : String) (fallback : α)
    (read : V → Option α) : Option α :=
  match record.get? position name with
  | some value => read value
  | none => some fallback

/-- A field that must be present. -/
def field? {V α : Type} (record : RecordFields V) (position : Nat) (name : String)
    (read : V → Option α) : Option α :=
  (record.get? position name).bind read

end RecordFields

namespace ValueReader

variable {V α : Type}

/-- The fields of a record with a number of declared fields. -/
def record? (reader : ValueReader V) (count : Nat) (value : V) : Option (RecordFields V) :=
  match reader.entries? value with
  | some entries => some (.named entries)
  | none => (reader.items? value).bind fun items =>
    if reader.extraItems || items.length ≤ count then some (.positional items) else none

def optional? (reader : ValueReader V) (read : V → Option α) (value : V) : Option (Option α) :=
  if reader.isAbsent value then some none else (read value).map some

/-- A natural number below a bound. -/
def natural? (reader : ValueReader V) (bound : Nat) (value : V) : Option Nat :=
  (reader.integer? 0 (bound - 1) value).map Int.toNat

def list? (reader : ValueReader V) (read : V → Option α) (value : V) : Option (List α) :=
  (reader.items? value).bind fun items => items.mapM read

def strings? (reader : ValueReader V) (value : V) : Option (List String) :=
  reader.list? reader.string? value

/-- A map from names to values, sorted by name. -/
def map? (reader : ValueReader V) (read : V → Option α) (value : V) :
    Option (List (String × α)) :=
  (reader.entries? value).bind fun entries =>
    (entries.mapM fun entry => (read entry.2).map fun found => (entry.1, found)).map Fields.ofList

end ValueReader

namespace Json

/-- The strict reading of a choice: the exact name, alone or as the only field of an object with the
value null. -/
def strictChoice? (alternatives : List (List String)) : Json → Option Nat
  | .string name => alternatives.findIdx? fun names => names.contains name
  | .object [(name, .null)] => alternatives.findIdx? fun names => names.contains name
  | _ => none

/-- The strict readings of documents. -/
def strictReader : ValueReader Json where
  isAbsent
    | .null => true
    | _ => false
  bool?
    | .bool value => some value
    | _ => none
  integer? low high
    | .number (.integer value _) => if low ≤ value && value ≤ high then some value else none
    | _ => none
  double?
    | .number (.integer value _) => some (Binary64.ofInt value)
    | .number (.double value _) => some value
    | _ => none
  string?
    | .string value => some value
    | _ => none
  items?
    | .array items => some items
    | _ => none
  entries?
    | .object fields => some fields
    | _ => none
  choice? := strictChoice?
  extraItems := false

end Json

end RemoteConfig
