import RemoteConfig.Proofs.Tree.Variables

/-!
Contract: settings that hold text, one at a time.

Owns:
- a setting that holds text: the names that lead to it, and its place in the settings;
- records of settings, and settings inside of a part of a record;
- what it means that settings are read from a tree with the value of one of them.

Does not own: which settings there are.
-/

namespace RemoteConfig

open RemoteConfig.Tree

/-- A setting that holds text: the names that lead to it, and its place in the settings. -/
structure TextSetting (S : Type) where
  names : List String
  put : String → S → S
  get : S → Option String
  get_put : ∀ text settings, get (put text settings) = some text := by intros; rfl
  nonempty : names ≠ [] := by decide
  steps : ∀ name ∈ names, Variables.IsStepName name := by decide

namespace TextSetting

variable {S P : Type}

/-- The setting of a part, as one of the settings that have the part under a name. -/
def within (name : String) (step : Variables.IsStepName name) (part : S → P) (change : P → S → S)
    (part_change : ∀ found settings, part (change found settings) = found)
    (setting : TextSetting P) : TextSetting S where
  names := name :: setting.names
  put text settings := change (setting.put text (part settings)) settings
  get settings := setting.get (part settings)
  get_put text settings := by rw [part_change, setting.get_put]
  nonempty := by simp
  steps := by
    intro other member
    rcases List.mem_cons.mp member with rfl | inside
    · exact step
    · exact setting.steps other inside

/-- Settings are read from the value of one of them that holds text; the others have their
defaults. -/
def AreRead (read : Tree → Option S) (defaults : S) (settings : List (TextSetting S)) : Prop :=
  ∀ setting ∈ settings, ∀ value text, string? value = some text →
    read (nested setting.names value) = some (setting.put text defaults)

theorem areRead_nil (read : Tree → Option S) (defaults : S) : AreRead read defaults [] :=
  List.forall_mem_nil _

theorem areRead_cons {read : Tree → Option S} {defaults : S} {setting : TextSetting S}
    {rest : List (TextSetting S)} :
    AreRead read defaults (setting :: rest) ↔
      (∀ value text, string? value = some text →
        read (nested setting.names value) = some (setting.put text defaults)) ∧
        AreRead read defaults rest :=
  List.forall_mem_cons

theorem AreRead.append {read : Tree → Option S} {defaults : S} {first second : List (TextSetting S)}
    (here : AreRead read defaults first) (there : AreRead read defaults second) :
    AreRead read defaults (first ++ second) := by
  intro setting member
  rcases List.mem_append.mp member with inFirst | inSecond
  · exact here setting inFirst
  · exact there setting inSecond

/-- The settings of a part are read as those of the whole. -/
theorem AreRead.within {read : Tree → Option S} {readPart : Tree → Option P} {defaults : S}
    {partDefaults : P} {settings : List (TextSetting P)}
    (inside : AreRead readPart partDefaults settings) {name : String}
    {step : Variables.IsStepName name} {part : S → P} {change : P → S → S}
    {part_change : ∀ found settings, part (change found settings) = found}
    (isPart : part defaults = partDefaults)
    (whole : ∀ value found, readPart value = some found →
      read (.table [(name, value)]) = some (change found defaults)) :
    AreRead read defaults
      (settings.map (TextSetting.within name step part change part_change)) := by
  intro setting member value text scalar
  obtain ⟨own, isOwn, rfl⟩ := List.mem_map.mp member
  subst isPart
  exact whole _ _ (inside own isOwn value text scalar)

end TextSetting

/-- A record of settings: how it is read, its defaults, and those of its settings that hold text. -/
structure TextRecord where
  Record : Type
  read : Tree → Option Record
  defaults : Record
  settings : List (TextSetting Record)

/-- A record is read from the value of one of its settings; the others have their defaults. -/
def TextRecord.IsRead (record : TextRecord) : Prop :=
  TextSetting.AreRead record.read record.defaults record.settings

/-- A record that is part of another one, under a name. -/
structure RecordPart where
  Part : Type
  Whole : Type
  readPart : Tree → Option Part
  read : Tree → Option Whole
  defaults : Whole
  name : String
  change : Part → Whole → Whole

/-- A record is read from one of its parts; the others have their defaults. -/
def RecordPart.IsRead (part : RecordPart) : Prop :=
  ∀ value found, part.readPart value = some found →
    part.read (.table [(part.name, value)]) = some (part.change found part.defaults)

namespace Tree

variable {value : Tree} {text : String}

section Fields

variable {α β : Type} {name field : String} {value : Tree} {count position : Nat} {fallback : α}
  {read : Tree → Option α} {next : α → Option β}

/-- A table with one entry is a record with one entry. -/
theorem bind_record {next : RecordFields Tree → Option β} :
    (reader.record? count (.table [(name, value)]) >>= next) = next (.named [(name, value)]) :=
  (rfl)

/-- In a record with one entry, any other field has its default. -/
theorem bind_otherField (different : field ≠ name) :
    ((RecordFields.named [(name, value)]).fieldOr position field fallback read >>= next) =
      next fallback := by
  have unequal : (field == name) = false := by simpa using different
  simp [RecordFields.fieldOr, RecordFields.get?, Fields.get?, List.lookup_cons, unequal]

/-- In a record with one entry, the field of the entry is read. -/
theorem bind_ownField {found : α} (isRead : read value = some found) :
    ((RecordFields.named [(name, value)]).fieldOr position name fallback read >>= next) =
      next found := by
  simp [RecordFields.fieldOr, RecordFields.get?, Fields.get?, isRead]

end Fields

theorem readerString?_scalar (scalar : string? value = some text) :
    reader.string? value = some text :=
  scalar

theorem optionalText_scalar (scalar : string? value = some text) :
    reader.optional? reader.string? value = some (some text) := by
  have present : reader.isAbsent value = false := by
    cases value with
    | none => cases scalar
    | _ => rfl
  simp [ValueReader.optional?, present, readerString?_scalar scalar]

end Tree

end RemoteConfig
