import RemoteConfig.Client.Loading
import RemoteConfig.Proofs.Outcome
import RemoteConfig.Proofs.Settings.Layers

/-!
Contract: the settings that a client loads, by their layers: variables over a file over defaults.

Owns:
- all settings of a client, nested ones and headers included, as they are read from a tree;
- `loading_inLayers`: each setting has the value of its last variable, or else that of the file, or
  else its default, and variables with other names have no effect.

Does not own: what the text of a variable means.
-/

namespace RemoteConfig

open RemoteConfig.Tree Setting

/-! ### The settings of a client -/

private theorem bind_eq_some_iff {α β : Type} {first : Option α} {next : α → Option β} {last : β} :
    (first >>= next) = some last ↔ ∃ found, first = some found ∧ next found = some last :=
  Option.bind_eq_some_iff

namespace DiscoverySettings

def settings : List (Setting DiscoverySettings) :=
  [field "enabled" reader.bool? defaults.enabled (·.enabled),
    field "service_id" reader.string? defaults.serviceId (·.serviceId)]

theorem read?_table_iff {entries : List (String × Tree)} {loaded : DiscoverySettings} :
    read? reader (.table entries) = some loaded ↔
      ∀ setting ∈ settings, setting.Has (.table entries) loaded := by
  have isRecord : reader.record? 2 (.table entries) = some (.named entries) := rfl
  rw [read?, isRecord, Option.bind_eq_bind, Option.bind_some]
  simp only [↓bind_eq_some_iff, fieldOr_named, Option.pure_def, Option.some.injEq, settings,
    List.forall_mem_cons, has_field]
  constructor
  · rintro ⟨_, enabled, _, serviceId, rfl⟩
    exact ⟨enabled, serviceId, nofun⟩
  · rintro ⟨enabled, serviceId, _⟩
    exact ⟨_, enabled, _, serviceId, rfl⟩

theorem exists_read?_table {entries : List (String × Tree)}
    (readable : ∀ setting ∈ settings, setting.IsReadable (.table entries)) :
    ∃ loaded, read? reader (.table entries) = some loaded := by
  simp only [settings, List.forall_mem_cons, isReadable_field] at readable
  obtain ⟨⟨enabled, isEnabled⟩, ⟨serviceId, isServiceId⟩, _⟩ := readable
  refine ⟨⟨enabled, serviceId⟩, read?_table_iff.mpr ?_⟩
  simp only [settings, List.forall_mem_cons, has_field]
  exact ⟨isEnabled, isServiceId, nofun⟩

end DiscoverySettings

namespace ClientSettings

/-- The settings that are fields of their own. -/
def ownSettings : List (Setting ClientSettings) :=
  [field "name" reader.string? defaults.name (·.name),
    field "profile" reader.string? defaults.profile (·.profile),
    field "label" (reader.optional? reader.string?) defaults.label (·.label),
    field "uri" reader.strings? defaults.uris (·.uris),
    field "username" reader.string? defaults.username (·.username),
    field "password" (reader.optional? reader.string?) defaults.password (·.password),
    field "token" (reader.optional? reader.string?) defaults.token (·.token),
    field "media_type" reader.string? defaults.mediaType (·.mediaType),
    field "charset" reader.string? defaults.charset (·.charset),
    field "fail_fast" reader.bool? defaults.failFast (·.failFast),
    field "send_state" reader.bool? defaults.sendState (·.sendState),
    field "send_all_labels" reader.bool? defaults.sendAllLabels (·.sendAllLabels),
    field "multiple_uri_strategy" (UriStrategy.read? reader) defaults.strategy (·.strategy),
    field "request_connect_timeout" (reader.natural? (Number.twoTo 64)) defaults.connectTimeout
      (·.connectTimeout),
    field "request_read_timeout" (reader.natural? (Number.twoTo 64)) defaults.readTimeout
      (·.readTimeout)]

def discoveryPart : Setting ClientSettings :=
  field "discovery" (DiscoverySettings.read? reader) defaults.discovery (·.discovery)

def headersPart : Setting ClientSettings :=
  field "headers" (reader.map? reader.string?) defaults.headers (·.headers)

/-- The header with a name, if there is one. -/
def header (name : String) : Setting ClientSettings :=
  (field name (fun found => (reader.string? found).map some) Option.none (Fields.get? name)).within
    "headers" (·.headers)

def discoverySettings : List (Setting ClientSettings) :=
  DiscoverySettings.settings.map (within "discovery" (·.discovery))

/-- The settings of a client, with one of the headers. -/
def settings (headerName : String) : List (Setting ClientSettings) :=
  ownSettings ++ discoverySettings ++ [header headerName]

theorem read?_table_iff {entries : List (String × Tree)} {loaded : ClientSettings} :
    read? reader (.table entries) = some loaded ↔
      (∀ setting ∈ ownSettings, setting.Has (.table entries) loaded) ∧
        discoveryPart.Has (.table entries) loaded ∧ headersPart.Has (.table entries) loaded := by
  have isRecord : reader.record? 17 (.table entries) = some (.named entries) := rfl
  rw [read?, isRecord, Option.bind_eq_bind, Option.bind_some]
  -- From the outside in: below a binding the fields are not yet read.
  simp only [↓bind_eq_some_iff, fieldOr_named, Option.pure_def, Option.some.injEq, ownSettings,
    discoveryPart, headersPart, List.forall_mem_cons, has_field]
  constructor
  · rintro ⟨_, name, _, profile, _, label, _, uris, _, username, _, password, _, token, _,
      mediaType, _, charset, _, failFast, _, sendState, _, sendAllLabels, _, strategy, _, found, _,
      headers, _, connectTimeout, _, readTimeout, rfl⟩
    exact ⟨⟨name, profile, label, uris, username, password, token, mediaType, charset, failFast,
      sendState, sendAllLabels, strategy, connectTimeout, readTimeout, nofun⟩, found, headers⟩
  · rintro ⟨⟨name, profile, label, uris, username, password, token, mediaType, charset, failFast,
      sendState, sendAllLabels, strategy, connectTimeout, readTimeout, _⟩, found, headers⟩
    exact ⟨_, name, _, profile, _, label, _, uris, _, username, _, password, _, token, _, mediaType,
      _, charset, _, failFast, _, sendState, _, sendAllLabels, _, strategy, _, found, _, headers, _,
      connectTimeout, _, readTimeout, rfl⟩

theorem exists_read?_table {entries : List (String × Tree)}
    (own : ∀ setting ∈ ownSettings, setting.IsReadable (.table entries))
    (discovered : discoveryPart.IsReadable (.table entries))
    (headed : headersPart.IsReadable (.table entries)) :
    ∃ loaded, read? reader (.table entries) = some loaded := by
  simp only [ownSettings, List.forall_mem_cons, isReadable_field] at own
  obtain ⟨⟨name, isName⟩, ⟨profile, isProfile⟩, ⟨label, isLabel⟩, ⟨uris, areUris⟩,
    ⟨username, isUsername⟩, ⟨password, isPassword⟩, ⟨token, isToken⟩, ⟨mediaType, isMediaType⟩,
    ⟨charset, isCharset⟩, ⟨failFast, isFailFast⟩, ⟨sendState, isSendState⟩,
    ⟨sendAllLabels, isSendAllLabels⟩, ⟨strategy, isStrategy⟩, ⟨connectTimeout, isConnectTimeout⟩,
    ⟨readTimeout, isReadTimeout⟩, _⟩ := own
  obtain ⟨found, isFound⟩ := (isReadable_field ..).mp discovered
  obtain ⟨headers, areHeaders⟩ := (isReadable_field ..).mp headed
  refine ⟨⟨name, profile, label, uris, username, password, token, mediaType, charset, failFast,
    sendState, sendAllLabels, strategy, found, headers, connectTimeout, readTimeout⟩,
    read?_table_iff.mpr ?_⟩
  simp only [ownSettings, discoveryPart, headersPart, List.forall_mem_cons, has_field]
  exact ⟨⟨isName, isProfile, isLabel, areUris, isUsername, isPassword, isToken, isMediaType,
    isCharset, isFailFast, isSendState, isSendAllLabels, isStrategy, isConnectTimeout,
    isReadTimeout, nofun⟩, isFound, areHeaders⟩

/-! ### Parts of the settings -/

section Parts

variable {tree : Tree} {loaded : ClientSettings}

/-- Discovery that is not given by position has its settings in the part of a tree. -/
theorem has_discoverySettings {entries : List (String × Tree)}
    (byName : ∀ items, (Tree.table entries).reach? (named ["discovery"]) ≠ some (.list items))
    (has : discoveryPart.Has (.table entries) loaded) :
    ∀ setting ∈ discoverySettings, setting.Has (.table entries) loaded := by
  intro setting member
  obtain ⟨inner, isInner, rfl⟩ := List.mem_map.mp member
  have value : valueOr (DiscoverySettings.read? reader) defaults.discovery
      ((Tree.table entries).reach? (named ["discovery"])) = some loaded.discovery := has
  cases found : (Tree.table entries).reach? (named ["discovery"]) with
  | none =>
      rw [found] at value
      have isDefault : DiscoverySettings.defaults = loaded.discovery := Option.some.inj value
      have defaulted : ∀ setting ∈ DiscoverySettings.settings,
          some setting.fallback = some (setting.get DiscoverySettings.defaults) := by
        simp only [DiscoverySettings.settings, List.forall_mem_cons]
        exact ⟨rfl, rfl, nofun⟩
      rw [Setting.Has, valueIn?_within_of_none _ _ _ found, defaulted inner isInner, isDefault]
      rfl
  | some part =>
      rw [found] at value
      rw [Setting.Has, valueIn?_within _ _ _ found]
      cases part with
      | table inside => exact DiscoverySettings.read?_table_iff.mp value inner isInner
      | list items => exact absurd found (byName items)
      | _ => cases value

theorem isReadable_discoveryPart {entries : List (String × Tree)}
    (isTable : ∀ found, (Tree.table entries).reach? (named ["discovery"]) = some found →
      ∃ inside, found = .table inside)
    (readable : ∀ setting ∈ discoverySettings, setting.IsReadable (.table entries)) :
    discoveryPart.IsReadable (.table entries) := by
  show ∃ value, valueOr (DiscoverySettings.read? reader) defaults.discovery
    ((Tree.table entries).reach? (named ["discovery"])) = some value
  cases found : (Tree.table entries).reach? (named ["discovery"]) with
  | none => exact ⟨_, rfl⟩
  | some part =>
      obtain ⟨inside, rfl⟩ := isTable part found
      refine DiscoverySettings.exists_read?_table fun setting member => ?_
      obtain ⟨value, isValue⟩ := readable _ (List.mem_map_of_mem member)
      rw [valueIn?_within _ _ _ found] at isValue
      exact ⟨value, isValue⟩

/-! ### Headers -/

/-- Reads the entry of a table as a header. -/
def readHeader (entry : String × Tree) : Option (String × String) :=
  (reader.string? entry.2).map fun text => (entry.1, text)

theorem mapM_readHeader_cons {entry : String × Tree} {rest : List (String × Tree)}
    {pairs : List (String × String)} :
    (entry :: rest).mapM readHeader = some pairs ↔
      ∃ text others, reader.string? entry.2 = some text ∧ rest.mapM readHeader = some others ∧
        pairs = (entry.1, text) :: others := by
  rw [List.mapM_cons]
  simp only [readHeader, Option.bind_eq_bind, Option.bind_eq_some_iff, Option.pure_def,
    Option.some.injEq, Option.map_eq_some_iff]
  constructor
  · rintro ⟨_, ⟨text, isText, rfl⟩, others, areOthers, rfl⟩
    exact ⟨text, others, isText, areOthers, rfl⟩
  · rintro ⟨text, others, isText, areOthers, rfl⟩
    exact ⟨_, ⟨text, isText, rfl⟩, others, areOthers, rfl⟩

theorem names_of_mapM_readHeader {found : List (String × Tree)} {pairs : List (String × String)}
    (areRead : found.mapM readHeader = some pairs) :
    pairs.map Prod.fst = found.map Prod.fst := by
  induction found generalizing pairs with
  | nil =>
      cases areRead
      rfl
  | cons entry rest inductionHypothesis =>
      obtain ⟨text, others, _, areOthers, rfl⟩ := mapM_readHeader_cons.mp areRead
      rw [List.map_cons, List.map_cons, inductionHypothesis areOthers]

/-- A header has the text that the entry of its name is read as. -/
theorem get?_of_mapM_readHeader {found : List (String × Tree)} {pairs : List (String × String)}
    (areRead : found.mapM readHeader = some pairs) (name : String) :
    Fields.get? name found = Option.none ∧ Fields.get? name pairs = Option.none ∨
      ∃ value text, Fields.get? name found = some value ∧ reader.string? value = some text ∧
        Fields.get? name pairs = some text := by
  induction found generalizing pairs with
  | nil =>
      cases areRead
      exact .inl ⟨rfl, rfl⟩
  | cons entry rest inductionHypothesis =>
      obtain ⟨text, others, isText, areOthers, rfl⟩ := mapM_readHeader_cons.mp areRead
      rw [Fields.get?_cons, Fields.get?_cons]
      by_cases same : name = entry.1
      · rw [if_pos same, if_pos same]
        exact .inr ⟨entry.2, text, rfl, isText, rfl⟩
      · rw [if_neg same, if_neg same]
        exact inductionHypothesis areOthers

theorem exists_mapM_readHeader (found : List (String × Tree))
    (readable : ∀ entry ∈ found, ∃ text, reader.string? entry.2 = some text) :
    ∃ pairs, found.mapM readHeader = some pairs := by
  induction found with
  | nil => exact ⟨[], rfl⟩
  | cons entry rest inductionHypothesis =>
      obtain ⟨⟨text, isText⟩, later⟩ := List.forall_mem_cons.mp readable
      obtain ⟨others, areOthers⟩ := inductionHypothesis later
      exact ⟨_, mapM_readHeader_cons.mpr ⟨text, others, isText, areOthers, rfl⟩⟩

theorem map?_string {found : Tree} {headers : List (String × String)} :
    reader.map? reader.string? found = some headers ↔
      ∃ inside pairs, found = .table inside ∧ inside.mapM readHeader = some pairs ∧
        headers = Fields.ofList pairs := by
  unfold ValueReader.map?
  cases found with
  | table inside =>
      have entries : reader.entries? (.table inside) = some inside := rfl
      rw [entries, Option.bind_some, Option.map_eq_some_iff]
      constructor
      · rintro ⟨pairs, areRead, rfl⟩
        exact ⟨inside, pairs, rfl, areRead, rfl⟩
      · rintro ⟨_, pairs, same, areRead, rfl⟩
        cases same
        exact ⟨pairs, areRead, rfl⟩
  | _ =>
      constructor
      · intro none
        cases none
      · rintro ⟨_, _, isTable, _⟩
        cases isTable

variable {entries : List (String × Tree)}

theorem has_header (sorted : HasSortedTables (.table entries))
    (has : headersPart.Has (.table entries) loaded) (name : String) :
    (header name).Has (.table entries) loaded := by
  have value : valueOr (reader.map? reader.string?) defaults.headers
      ((Tree.table entries).reach? (named ["headers"])) = some loaded.headers := has
  unfold Setting.Has
  cases found : (Tree.table entries).reach? (named ["headers"]) with
  | none =>
      rw [found] at value
      have noHeaders : [] = loaded.headers := Option.some.inj value
      refine (valueIn?_within_of_none _ _ _ found).trans ?_
      show some Option.none = some (Fields.get? name loaded.headers)
      rw [← noHeaders]
      rfl
  | some part =>
      rw [found] at value
      obtain ⟨inside, pairs, rfl, areRead, isHeaders⟩ := map?_string.mp value
      -- Sorting the headers again changes nothing: the names are those of a sorted table.
      have isSorted : Fields.IsSorted pairs := by
        have below := sorted ["headers"] inside found
        rw [Fields.IsSorted, ← List.pairwise_map, names_of_mapM_readHeader areRead]
        exact List.pairwise_map.mpr below
      rw [Fields.ofList_of_isSorted isSorted] at isHeaders
      refine (valueIn?_within _ _ _ found).trans ((has_field ..).mpr ?_)
      dsimp only
      rw [isHeaders]
      rcases get?_of_mapM_readHeader areRead name with ⟨absent, none⟩ |
        ⟨value, text, present, isText, some⟩
      · rw [absent, none]
        rfl
      · rw [present, some, valueOr, isText]
        rfl

theorem isReadable_headersPart (sorted : HasSortedTables (.table entries))
    (isTable : ∀ found, (Tree.table entries).reach? (named ["headers"]) = some found →
      ∃ inside, found = .table inside)
    (readable : ∀ name, (header name).IsReadable (.table entries)) :
    headersPart.IsReadable (.table entries) := by
  show ∃ value, valueOr (reader.map? reader.string?) defaults.headers
    ((Tree.table entries).reach? (named ["headers"])) = some value
  cases found : (Tree.table entries).reach? (named ["headers"]) with
  | none => exact ⟨_, rfl⟩
  | some part =>
      obtain ⟨inside, rfl⟩ := isTable part found
      have isSorted := sorted ["headers"] inside found
      obtain ⟨pairs, areRead⟩ := exists_mapM_readHeader inside fun entry member => by
        obtain ⟨value, isValue⟩ := readable entry.1
        obtain ⟨_, isRead⟩ := (isReadable_field ..).mp
          ⟨value, (valueIn?_within _ _ _ found).symm.trans isValue⟩
        rw [Fields.get?_of_mem isSorted member] at isRead
        obtain ⟨text, isText, _⟩ := Option.map_eq_some_iff.mp isRead
        exact ⟨text, isText⟩
      exact ⟨_, map?_string.mpr ⟨inside, pairs, rfl, areRead, rfl⟩⟩

end Parts

end ClientSettings

/-! ### The tree of a file -/

namespace Tree

/-- The tree beneath the variables: that of an optional file. -/
def ofFile? (files : FileSystem) : Option String → Option Tree
  | some path => loadFile? files path
  | Option.none => some empty

theorem load?_eq (files : FileSystem) (path : Option String) (start : String)
    (listKeys : List String) (exported : Variables) :
    load? files path start listKeys exported =
      (ofFile? files path).map (Variables.apply start listKeys exported) := by
  cases path <;> rfl

theorem ofFile?_isTable {files : FileSystem} {path : Option String} {file : Tree}
    (isFile : ofFile? files path = some file) :
    ∃ entries, file = .table entries ∧ HasSortedTables (.table entries) := by
  cases path with
  | none =>
      cases isFile
      exact ⟨[], rfl, hasSortedTables_empty⟩
  | some path =>
      obtain ⟨found, _, isRead⟩ := Option.bind_eq_some_iff.mp isFile
      dsimp only at isRead
      split at isRead
      · obtain ⟨source, _, rfl⟩ := Option.map_eq_some_iff.mp isRead
        exact foldl_setWritten_isTable source.entries hasSortedTables_empty
      · cases isRead

end Tree

/-! ### Loading -/

/-- Names that a single underscore joins to a start are read under other starts only. -/
theorem Variables.isRead_of_singleBar {start spelled : String} {first : Char} {rest : List Char}
    {names : List String} (small : isSmallNameChar first = true) (noBar : first ≠ '_')
    (begins : (Text.join (String.ofList separator) names).toList = first :: rest)
    (spells : Text.lowercase spelled =
      Text.lowercase (start ++ "_" ++ Text.join (String.ofList separator) names)) :
    isRead start spelled = false := by
  obtain ⟨ascii, lower, _⟩ := smallNameChar_facts small
  have notSigma : '_'.toNat ≠ 0x3A3 := by decide
  have firstNoSigma : first.toNat ≠ 0x3A3 := by omega
  -- Both texts begin with the start and an underscore; they part at the next character.
  have isMarker : marker start = Text.lowerFrom [] (start.toList ++ ['_']) ++ ['_'] := by
    have cut := Text.lowerFrom_append notSigma [] start.toList ['_']
    have bar (before : List Char) : Text.lowerFrom before ['_'] = ['_'] :=
      Text.lowerFrom_of_ascii (by simp) before
    rw [bar] at cut
    simpa [marker, Text.lowercase, separator] using cut
  have isSpelled : (Text.lowercase spelled).toList =
      Text.lowerFrom [] (start.toList ++ ['_']) ++
        first :: Text.lowerFrom (first :: '_' :: start.toList.reverse) rest := by
    have cut := Text.lowerFrom_append notSigma [] start.toList (first :: rest)
    have head : Text.lowerFrom ('_' :: start.toList.reverse) (first :: rest) =
        first :: Text.lowerFrom (first :: '_' :: start.toList.reverse) rest := by
      simp [Text.lowerFrom, firstNoSigma, Text.lowerChar, ascii, lower]
    rw [List.append_nil, head] at cut
    rw [spells, Text.lowercase, String.toList_ofList, String.toList_append, String.toList_append,
      begins, ← cut]
    simp
  unfold isRead
  rw [isMarker, isSpelled]
  refine Bool.eq_false_iff.mpr fun isPrefix => ?_
  have begun := (List.prefix_append_right_inj _).mp (List.isPrefixOf_iff_prefix.mp isPrefix)
  exact noBar (List.cons_prefix_cons.mp begun).1.symm

namespace ClientSettings

theorem loadWith_eq (files : FileSystem) (path : Option String) (start : String)
    (exported : Variables) :
    loadWith files path start exported =
      match ofFile? files path with
      | Option.none => .error (.load .clientSettings)
      | some file =>
        match read? reader (Variables.apply start ["uri"] exported file) with
        | some settings => .ok settings
        | Option.none => .error (.shape .clientSettings) := by
  unfold loadWith
  rw [load?_eq]
  cases ofFile? files path <;> rfl

theorem isLower_head_of_mem_settings {headerName : String} {setting : Setting ClientSettings}
    (member : setting ∈ settings headerName) :
    (Text.join (String.ofList Variables.separator) setting.names).toList.head?.any Char.isLower =
      true := by
  have fixed : (ownSettings ++ discoverySettings).all (fun setting =>
      (Text.join (String.ofList Variables.separator) setting.names).toList.head?.any Char.isLower) =
        true := by
    decide +kernel
  rcases List.mem_append.mp member with isFixed | isHeader
  · exact List.all_eq_true.mp fixed setting isFixed
  · rw [List.mem_singleton.mp isHeader]
    simp [header, Text.join]

/-- A variable with a single underscore behind the start is not read, whatever setting it names. -/
theorem isRead_documented {headerName : String} {setting : Setting ClientSettings}
    (member : setting ∈ settings headerName) {start spelled : String}
    (spells : Text.lowercase spelled = Text.lowercase
      (start ++ "_" ++ Text.join (String.ofList Variables.separator) setting.names)) :
    Variables.isRead start spelled = false := by
  have letter := isLower_head_of_mem_settings member
  cases begins : (Text.join (String.ofList Variables.separator) setting.names).toList with
  | nil =>
      rw [begins] at letter
      cases letter
  | cons first rest =>
      rw [begins] at letter
      have isLower : first.isLower = true := letter
      refine Variables.isRead_of_singleBar ?_ ?_ begins spells
      · simp [isSmallNameChar, isLower]
      · rintro rfl
        exact absurd isLower (by decide)

/-- Where a part of the settings is there, it is a table. -/
def HasParts (file : Tree) : Prop :=
  ∀ part ∈ ["discovery", "headers"], ∀ found, file.reach? (named [part]) = some found →
    ∃ inside, found = .table inside

/-- How a client loads its settings from an optional file, and from variables whose names begin with a
start and two underscores. -/
structure LoadsInLayers (files : FileSystem) (path : Option String) (start : String)
    (exported : Variables) : Prop where
  /-- Variables with other names have no effect. -/
  others :
    loadWith files path start (exported.filter fun entry => Variables.isRead start entry.1) =
      loadWith files path start exported
  /-- In particular those have none that join a setting to the start by a single underscore. -/
  singleBar : ∀ headerName, ∀ setting ∈ settings headerName, ∀ before spelled text after,
    Text.lowercase spelled = Text.lowercase
        (start ++ "_" ++ Text.join (String.ofList Variables.separator) setting.names) →
      exported = before ++ (spelled, text) :: after →
        loadWith files path start exported = loadWith files path start (before ++ after)
  /-- A file that cannot be read is a failure. -/
  unreadable : ofFile? files path = Option.none →
    loadWith files path start exported = .error (.load .clientSettings)
  /-- A setting that is loaded has the value of its last variable, or else that of the file, or else
  its default. -/
  layered : ∀ file loaded, ofFile? files path = some file →
    loadWith files path start exported = .ok loaded →
      ∀ headerName, ∀ setting ∈ settings headerName,
        Variables.IsClear start setting.names exported → setting.IsByName file →
          setting.layered? start ["uri"] exported file = some (setting.get loaded)
  /-- The settings outside discovery and the headers are never in a list. -/
  byName : ∀ file, ofFile? files path = some file → ∀ setting ∈ ownSettings, setting.IsByName file
  /-- Settings are loaded where each has a value by its layers. -/
  loads : ∀ file, ofFile? files path = some file → HasParts file →
    (∀ headerName, ∀ setting ∈ settings headerName,
      Variables.IsClear start setting.names exported ∧
        ∃ value, setting.layered? start ["uri"] exported file = some value) →
    ∃ loaded, loadWith files path start exported = .ok loaded

section Loading

variable {files : FileSystem} {path : Option String} {start : String} {exported : Variables}
  {file : Tree} {loaded : ClientSettings}

theorem loadWith_congr {other : Variables}
    (same : ∀ file, Variables.apply start ["uri"] exported file =
      Variables.apply start ["uri"] other file) :
    loadWith files path start exported = loadWith files path start other := by
  rw [loadWith_eq, loadWith_eq]
  cases ofFile? files path with
  | none => rfl
  | some file =>
      dsimp only
      rw [same file]

theorem loadWith_eq_ok_iff (isFile : ofFile? files path = some file) :
    loadWith files path start exported = .ok loaded ↔
      read? reader (Variables.apply start ["uri"] exported file) = some loaded := by
  rw [loadWith_eq, isFile]
  dsimp only
  cases read? reader (Variables.apply start ["uri"] exported file) <;> simp

theorem reach?_part {part inner : String}
    (clear : Variables.IsClear start [part, inner] exported) (file : Tree) :
    (Variables.apply start ["uri"] exported file).reach? (named [part]) =
        file.reach? (named [part]) ∨
      ∃ entries, (Variables.apply start ["uri"] exported file).reach? (named [part]) =
        some (.table entries) :=
  Variables.reach?_apply_above ["uri"] (List.cons_ne_nil inner []) clear file

theorem names_of_mem_discoverySettings {setting : Setting ClientSettings}
    (member : setting ∈ discoverySettings) : ∃ inner, setting.names = ["discovery", inner] := by
  simp only [discoverySettings, DiscoverySettings.settings, List.map_cons, List.map_nil,
    List.mem_cons, List.not_mem_nil, or_false] at member
  rcases member with rfl | rfl
  · exact ⟨"enabled", rfl⟩
  · exact ⟨"service_id", rfl⟩

theorem isByName_of_mem_ownSettings (isFile : ofFile? files path = some file)
    {setting : Setting ClientSettings} (member : setting ∈ ownSettings) : setting.IsByName file := by
  have atRoot : ∀ setting ∈ ownSettings, setting.names.dropLast = [] := by
    simp [ownSettings, field]
  obtain ⟨entries, rfl, _⟩ := ofFile?_isTable isFile
  intro items isList
  rw [atRoot setting member] at isList
  cases isList

theorem layered_of_loadWith (isFile : ofFile? files path = some file)
    (isLoaded : loadWith files path start exported = .ok loaded) {headerName : String}
    {setting : Setting ClientSettings} (member : setting ∈ settings headerName)
    (clear : Variables.IsClear start setting.names exported) (byName : setting.IsByName file) :
    setting.layered? start ["uri"] exported file = some (setting.get loaded) := by
  obtain ⟨beneath, rfl, sortedFile⟩ := ofFile?_isTable isFile
  obtain ⟨entries, isTable, sorted⟩ := Variables.apply_isTable start ["uri"] exported sortedFile
  have isRead := (loadWith_eq_ok_iff isFile).mp isLoaded
  rw [isTable] at isRead
  obtain ⟨own, discovered, headed⟩ := read?_table_iff.mp isRead
  have has : setting.Has (.table entries) loaded := by
    simp only [settings, List.mem_append, List.mem_singleton] at member
    rcases member with (isOwn | isDiscovery) | isHeader
    · exact own setting isOwn
    · obtain ⟨inner, isNames⟩ := names_of_mem_discoverySettings isDiscovery
      refine has_discoverySettings (fun items isList => ?_) discovered setting isDiscovery
      rw [isNames] at clear
      rcases reach?_part clear (.table beneath) with unchanged | ⟨inside, isPart⟩
      · refine byName items ?_
        rw [isNames, ← isList, ← isTable]
        exact unchanged.symm
      · rw [isTable, isList] at isPart
        cases isPart
    · rw [isHeader]
      exact has_header sorted headed headerName
  rw [← setting.valueIn?_apply clear, isTable]
  exact has

theorem exists_loadWith_eq_ok (isFile : ofFile? files path = some file) (parts : HasParts file)
    (given : ∀ headerName, ∀ setting ∈ settings headerName,
      Variables.IsClear start setting.names exported ∧
        ∃ value, setting.layered? start ["uri"] exported file = some value) :
    ∃ loaded, loadWith files path start exported = .ok loaded := by
  obtain ⟨beneath, rfl, sortedFile⟩ := ofFile?_isTable isFile
  obtain ⟨entries, isTable, sorted⟩ := Variables.apply_isTable start ["uri"] exported sortedFile
  have readable : ∀ headerName, ∀ setting ∈ settings headerName,
      setting.IsReadable (.table entries) := by
    intro headerName setting member
    obtain ⟨clear, isGiven⟩ := given headerName setting member
    rw [← setting.valueIn?_apply clear, isTable] at isGiven
    exact isGiven
  have partIsTable {part inner headerName : String} {setting : Setting ClientSettings}
      (member : setting ∈ settings headerName) (isNames : setting.names = [part, inner])
      (isPart : part ∈ ["discovery", "headers"]) :
      ∀ found, (Tree.table entries).reach? (named [part]) = some found →
        ∃ inside, found = .table inside := by
    intro found reached
    have clear := (given headerName setting member).1
    rw [isNames] at clear
    rcases reach?_part clear (.table beneath) with unchanged | ⟨inside, isInside⟩
    · rw [isTable, reached] at unchanged
      exact parts part isPart found unchanged.symm
    · rw [isTable, reached] at isInside
      exact ⟨inside, Option.some.inj isInside⟩
  have discovered : discoveryPart.IsReadable (.table entries) := by
    have enabled : (field "enabled" reader.bool? DiscoverySettings.defaults.enabled
        DiscoverySettings.enabled).within "discovery" ClientSettings.discovery ∈ settings "" := by
      simp [settings, discoverySettings, DiscoverySettings.settings]
    refine isReadable_discoveryPart (partIsTable enabled rfl (by simp)) fun setting member => ?_
    exact readable "" setting
      (List.mem_append_left _ (List.mem_append_right _ member))
  have headed : headersPart.IsReadable (.table entries) := by
    have isSetting (headerName : String) : header headerName ∈ settings headerName :=
      List.mem_append_right _ (List.mem_singleton.mpr rfl)
    exact isReadable_headersPart sorted (partIsTable (isSetting "") rfl (by simp))
      fun headerName => readable headerName _ (isSetting headerName)
  obtain ⟨loaded, isRead⟩ := exists_read?_table
    (fun setting member => readable "" setting
      (List.mem_append_left _ (List.mem_append_left _ member))) discovered headed
  exact ⟨loaded, (loadWith_eq_ok_iff isFile).mpr (by rw [isTable]; exact isRead)⟩

end Loading

/-- Variables win over the file, and the file over the defaults, setting by setting. The names of the
variables have two underscores behind the start; with a single one they have no effect. -/
theorem loading_inLayers (files : FileSystem) (path : Option String) (start : String)
    (exported : Variables) : LoadsInLayers files path start exported where
  others := loadWith_congr fun file => Variables.apply_filter_isRead start ["uri"] exported file
  singleBar headerName setting member before spelled text after spells isExported := by
    subst isExported
    have notRead := isRead_documented member spells
    refine loadWith_congr fun file => ?_
    rw [← Variables.apply_filter_isRead, ← Variables.apply_filter_isRead start ["uri"]
      (before ++ after)]
    simp [notRead]
  unreadable none := by
    rw [loadWith_eq, none]
  layered file loaded isFile isLoaded headerName setting member clear byName :=
    layered_of_loadWith isFile isLoaded member clear byName
  byName file isFile setting member := isByName_of_mem_ownSettings isFile member
  loads file isFile parts given := exists_loadWith_eq_ok isFile parts given

/-- Variables with two underscores behind the start, and one with a single underscore. -/
def someVariables : Variables :=
  [("CONFIG_CLIENT__NAME", "billing"), ("CONFIG_CLIENT__DISCOVERY__ENABLED", "TRUE"),
    ("CONFIG_CLIENT_PROFILE", "qa")]

/-- The name and discovery come from variables. The profile is the default, as its variable has a
single underscore. -/
theorem loading_inLayers_withoutFile :
    ∃ loaded, load .empty Option.none someVariables = .ok loaded ∧
      loaded.name = "billing" ∧ loaded.discovery.enabled = true ∧ loaded.profile = "default" := by
  have layers := loading_inLayers .empty Option.none variableStart someVariables
  have found : (load .empty Option.none someVariables).toOption.isSome = true := by
    decide +kernel
  obtain ⟨loaded, succeeds⟩ := Option.isSome_iff_exists.mp found
  have result := eq_ok_of_toOption succeeds
  have value := layers.layered empty loaded rfl result ""
  have name : valueOr reader.string? "application"
      (Variables.given? variableStart ["uri"] ["name"] someVariables empty) = some loaded.name :=
    value (field "name" reader.string? defaults.name (·.name)) (by simp [settings, ownSettings])
      (by decide +kernel) nofun
  have profile : valueOr reader.string? "default"
      (Variables.given? variableStart ["uri"] ["profile"] someVariables empty) =
        some loaded.profile :=
    value (field "profile" reader.string? defaults.profile (·.profile))
      (by simp [settings, ownSettings]) (by decide +kernel) nofun
  have enabled : valueOr reader.bool? false
      (Variables.given? variableStart ["uri"] ["discovery", "enabled"] someVariables empty) =
        some loaded.discovery.enabled :=
    value ((field "enabled" reader.bool? DiscoverySettings.defaults.enabled
        DiscoverySettings.enabled).within "discovery" ClientSettings.discovery)
      (by simp [settings, discoverySettings, DiscoverySettings.settings]) (by decide +kernel)
      nofun
  refine ⟨loaded, result, ?_, ?_, ?_⟩
  · exact Option.some.inj (name.symm.trans (by decide +kernel))
  · exact Option.some.inj (enabled.symm.trans (by decide +kernel))
  · exact Option.some.inj (profile.symm.trans (by decide +kernel))

/-- Beneath the variables the file counts. -/
example :
    (load ⟨[], [(["client.json"], .file (Utf8.encode
        "\x7b\"name\":\"orders\",\"profile\":\"prod\"\x7d"))]⟩ (some "client.json")
      someVariables).toOption.map (fun loaded => (loaded.name, loaded.profile)) =
        some ("billing", "prod") := by
  decide +kernel

/-- The name that is set with a single underscore behind the start is not the name that is loaded. -/
theorem load_ignoresSingleBar :
    ∃ loaded, load .empty Option.none [("CONFIG_CLIENT_NAME", "billing")] = .ok loaded ∧
      loaded.name = "application" := by
  have isRead : (load .empty Option.none [("CONFIG_CLIENT_NAME", "billing")]).toOption.map (·.name) =
      some "application" := by
    decide +kernel
  obtain ⟨loaded, succeeds, isName⟩ := Option.map_eq_some_iff.mp isRead
  exact ⟨loaded, eq_ok_of_toOption succeeds, isName⟩

end ClientSettings

end RemoteConfig
