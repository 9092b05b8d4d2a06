import SecretRefs.Proofs.Settings.Table
import SecretRefs.Settings.Extraction

/-!
# The schema of the settings

The eight settings, each with the section and the key that it has in every source, and with the
kind of value that sets it. `settings_of_ok` and `settings_of_error` are all that reading by the
schema comes to: what is read is what the tables have under these keys, and what is refused is
an entry that no setting has or that does not fit its setting.
-/

namespace SecretRefs

/-- One of the things that can be set. -/
inductive Setting where
  | connectUrl
  | tokenPath
  | tokenStart
  | timeout
  | vault
  | field
  | category
  | level
deriving Repr, DecidableEq

/-- What a setting can hold. -/
inductive Setting.Content where
  | text (value : String)
  | nothing
  | seconds (count : Nat)
  | category (category : Category)
deriving Repr, DecidableEq

/-- What kind of value sets a setting. -/
inductive Setting.Kind where
  | text
  | optionalText
  | seconds
  | category
deriving Repr, DecidableEq

namespace Setting

def all : List Setting :=
  [.connectUrl, .tokenPath, .tokenStart, .timeout, .vault, .field, .category, .level]

/-- The section that has a setting. -/
def sectionName : Setting → String
  | .connectUrl | .tokenPath | .tokenStart | .timeout => "store"
  | .vault | .field | .category => "defaults"
  | .level => "logging"

/-- The key of a setting in its section. -/
def key : Setting → String
  | .connectUrl => "connect_url"
  | .tokenPath => "token_path"
  | .tokenStart => "token_prefix"
  | .timeout => "timeout_secs"
  | .vault => "vault"
  | .field => "field"
  | .category => "category"
  | .level => "level"

/-- A setting as messages name it, with its section. -/
def fullName (setting : Setting) : String := setting.sectionName ++ "." ++ setting.key

def kind : Setting → Kind
  | .tokenStart => .optionalText
  | .timeout => .seconds
  | .category => .category
  | _ => .text

/-- What a setting holds among all settings. -/
def of (settings : Settings) : Setting → Content
  | .connectUrl => .text settings.store.connectUrl
  | .tokenPath => .text settings.store.tokenPath
  | .tokenStart =>
    match settings.store.tokenStart with
    | some start => .text start
    | none => .nothing
  | .timeout => .seconds settings.store.timeout
  | .vault => .text settings.fallbacks.vault
  | .field => .text settings.fallbacks.field
  | .category => .category settings.fallbacks.category
  | .level => .text settings.log.level

def sectionNames : List String := ["store", "defaults", "logging"]

/-- The keys of a section. -/
def keysOf (name : String) : List String :=
  (all.filter fun setting => setting.sectionName == name).map key

/-- The setting with a key in a section. -/
def named? (name key : String) : Option Setting :=
  all.find? fun setting => setting.sectionName == name && setting.key == key

theorem mem_all (setting : Setting) : setting ∈ all := by
  cases setting <;> decide

theorem named?_self (setting : Setting) : named? setting.sectionName setting.key = some setting := by
  cases setting <;> decide

theorem named?_eq_some {name key : String} {setting : Setting}
    (found : named? name key = some setting) : setting.sectionName = name ∧ setting.key = key := by
  simpa using List.find?_some found

/-- A section and a key name one setting. -/
theorem eq_of_named {one other : Setting} (sameSection : one.sectionName = other.sectionName)
    (sameKey : one.key = other.key) : one = other := by
  have named := one.named?_self
  rw [sameSection, sameKey, other.named?_self] at named
  exact (Option.some.inj named).symm

theorem mem_keysOf {name key : String} :
    key ∈ keysOf name ↔ ∃ setting : Setting, setting.sectionName = name ∧ setting.key = key := by
  simp [keysOf, mem_all]

theorem sectionName_mem (setting : Setting) : setting.sectionName ∈ sectionNames := by
  cases setting <;> decide

namespace Kind

/-- What a text sets, if texts set this kind. -/
def ofText? : Kind → String → Option Content
  | .text, value => some (.text value)
  | .optionalText, value => some (.text value)
  | .seconds, _ => none
  | .category, name => some (.category (Category.ofName name))

/-- What a whole number sets, if this kind takes it. -/
def ofInteger? : Kind → Int → Option Content
  | .seconds, number => if 0 ≤ number then some (.seconds number.toNat) else none
  | _, _ => none

/-- What a value sets, if it is one of this kind. -/
def ofValue? (kind : Kind) : Settings.Value → Option Content
  | .scalar _ (.text value) => kind.ofText? value
  | .scalar _ (.integer number) => kind.ofInteger? number
  | .scalar _ (.natural number) => kind.ofInteger? number
  | .scalar _ .absent => if kind = .optionalText then some .nothing else none
  | _ => none

/-- What is wrong with a value that is not one of this kind. -/
def complaint : Kind → Settings.Value → Settings.Refusal.Cause
  | .seconds, .scalar origin (.integer number) =>
    .wrongValue (Settings.Value.scalar origin (.integer number)).inWords "u64"
  | .seconds, value => .wrongType value.inWords "u64"
  | _, value => .wrongType value.inWords "a string"

/-- Reads a value of this kind. -/
def read (kind : Kind) (path : List String) (value : Settings.Value) : Settings.Reading Content :=
  match kind.ofValue? value with
  | some content => .ok content
  | none => .error ⟨kind.complaint value, path, value.origin⟩

theorem read_eq_ok {kind : Kind} {path : List String} {value : Settings.Value} {content : Content}
    (taken : kind.read path value = .ok content) : kind.ofValue? value = some content := by
  unfold read at taken
  split at taken
  · rename_i fits
    rw [fits, Except.ok.inj taken]
  · cases taken

theorem read_eq_error {kind : Kind} {path : List String} {value : Settings.Value}
    {refusal : Settings.Refusal} (refused : kind.read path value = .error refusal) :
    kind.ofValue? value = none ∧ refusal = ⟨kind.complaint value, path, value.origin⟩ := by
  unfold read at refused
  split at refused
  · cases refused
  · rename_i unfit
    exact ⟨unfit, (Except.error.inj refused).symm⟩

/-- A value of some kind has no parts. -/
theorem scalar_of_ofValue? {kind : Kind} {value : Settings.Value}
    (fits : (kind.ofValue? value).isSome) : ∃ origin scalar, value = .scalar origin scalar := by
  cases value with
  | scalar origin scalar => exact ⟨origin, scalar, rfl⟩
  | sequence | table => cases fits

end Kind

end Setting

namespace Settings

open Setting (Content Kind sectionNames keysOf named?)

/-! ## Reading entries by their keys -/

section Entries

variable {α γ : Type} {keys : List (SectionKey α)}

/-- A key of which it is known how its value is read and where it shows, and that it shows
nowhere else. -/
structure SectionKey.Lawful (shown : String → α → γ)
    (read : String → List String → Value → Reading γ) (key : SectionKey α) : Prop where
  own : ∀ path value before, (key.set path value before).map (shown key.name) =
    read key.name path value
  others : ∀ {path value before after}, key.set path value before = .ok after →
    ∀ name, name ≠ key.name → shown name after = shown name before

theorem findKey?_eq_some {name : String} {key : SectionKey α}
    (found : Extraction.findKey? keys name = some key) : key ∈ keys ∧ key.name = name :=
  ⟨List.mem_of_find?_eq_some found, by simpa using List.find?_some found⟩

theorem findKey?_eq_none {name : String} :
    Extraction.findKey? keys name = none ↔ name ∉ keys.map SectionKey.name := by
  simp [Extraction.findKey?]

variable {shown : String → α → γ} {read : String → List String → Value → Reading γ}

/-- A key that reads its value and then updates what is known with it. -/
theorem lawful_of_reader {β : Type} {reader : List String → Value → Reading β}
    {update : α → β → α} {name : String}
    (own : ∀ path value before, (reader path value).map
      (fun content => shown name (update before content)) = read name path value)
    (others : ∀ before content other, other ≠ name →
      shown other (update before content) = shown other before) :
    SectionKey.Lawful shown read
      ⟨name, fun path value before => (reader path value).map (update before)⟩ := by
  constructor
  · intro path value before
    rw [← own path value before]
    simp only
    cases reader path value with
    | error refusal => rfl
    | ok content => rfl
  · intro path value before after set other differ
    simp only at set
    cases given : reader path value with
    | error refusal =>
      rw [given] at set
      cases set
    | ok content =>
      rw [given] at set
      cases set
      exact others before content other differ

/-- Entries that are read all have known keys, each shows as its own value is read, and what has
no entry shows as before. -/
theorem entries_of_ok (lawful : ∀ key ∈ keys, key.Lawful shown read) {path : List String}
    {found : Value.Entries} {start after : α}
    (done : Extraction.entries keys path found start = .ok after)
    (distinct : (found.map Prod.fst).Nodup) (name : String) :
    (∀ value, found.lookup name = some value → name ∈ keys.map SectionKey.name ∧
      read name (path ++ [name]) value = .ok (shown name after)) ∧
    (found.lookup name = none → shown name after = shown name start) := by
  induction found generalizing start with
  | nil =>
    cases done
    exact ⟨fun _ present => (nomatch present), fun _ => rfl⟩
  | cons entry rest inductionHypothesis =>
    obtain ⟨first, value⟩ := entry
    rw [List.map_cons, List.nodup_cons] at distinct
    rw [Extraction.entries] at done
    split at done
    · cases done
    rename_i key found
    obtain ⟨member, rfl⟩ := findKey?_eq_some found
    split at done
    · cases done
    rename_i next set
    obtain ⟨later, kept⟩ := inductionHypothesis done distinct.2
    rw [Value.lookup_cons_eq]
    by_cases same : name = key.name
    · -- No later entry has this key, so what this one shows stays.
      have noLater : rest.lookup name = none :=
        Value.lookup_eq_none_of_notMem (same ▸ distinct.1)
      have own := (lawful key member).own (path ++ [key.name]) value start
      rw [set] at own
      rw [if_pos same, kept noLater, same]
      refine ⟨?_, fun absent => by cases absent⟩
      rintro _ ⟨⟩
      exact ⟨List.mem_map_of_mem member, own.symm⟩
    · rw [if_neg same, ← (lawful key member).others set name same]
      exact ⟨later, kept⟩

/-- Entries that are refused have one with an unknown key, or one that is refused itself. -/
theorem entries_of_error (lawful : ∀ key ∈ keys, key.Lawful shown read) {path : List String}
    {found : Value.Entries} {start : α} {refusal : Refusal}
    (failed : Extraction.entries keys path found start = .error refusal) :
    ∃ name value, (name, value) ∈ found ∧
      (name ∉ keys.map SectionKey.name ∧
          refusal = ⟨.unknownKey name (keys.map SectionKey.name), path ++ [name], value.origin⟩ ∨
        name ∈ keys.map SectionKey.name ∧ read name (path ++ [name]) value = .error refusal) := by
  induction found generalizing start with
  | nil => cases failed
  | cons entry rest inductionHypothesis =>
    obtain ⟨first, value⟩ := entry
    rw [Extraction.entries] at failed
    split at failed
    · rename_i unknown
      exact ⟨first, value, List.mem_cons_self, .inl ⟨findKey?_eq_none.mp unknown,
        (Except.error.inj failed).symm⟩⟩
    rename_i key found
    obtain ⟨member, rfl⟩ := findKey?_eq_some found
    split at failed
    · rename_i set
      have own := (lawful key member).own (path ++ [key.name]) value start
      rw [set, Except.error.inj failed] at own
      exact ⟨key.name, value, List.mem_cons_self, .inr ⟨List.mem_map_of_mem member, own.symm⟩⟩
    · obtain ⟨name, value, present, cause⟩ := inductionHypothesis failed
      exact ⟨name, value, List.mem_cons_of_mem _ present, cause⟩

end Entries

/-! ## Sections -/

section Sections

variable {α : Type} {embed : α → Settings} {name : String}

/-- What shows under a key of a section, which is a part of all settings. -/
def shownIn (embed : α → Settings) (name key : String) (content : α) : Content :=
  (named? name key).elim .nothing fun setting => setting.of (embed content)

/-- How a value is read under a key of a section. -/
def readIn (name key : String) (path : List String) (value : Value) : Reading Content :=
  (named? name key).elim (.ok .nothing) fun setting => setting.kind.read path value

/-- A key of a section that reads the value of its setting and updates only that. -/
theorem lawful_of_setting {β : Type} {reader : List String → Value → Reading β}
    {update : α → β → α} {wrap : β → Content} (setting : Setting)
    (reads : ∀ path value, (reader path value).map wrap = setting.kind.read path value)
    (own : ∀ before value, setting.of (embed (update before value)) = wrap value)
    (others : ∀ before value (other : Setting), other ≠ setting →
      other.of (embed (update before value)) = other.of (embed before)) :
    SectionKey.Lawful (shownIn embed setting.sectionName) (readIn setting.sectionName)
      ⟨setting.key, fun path value before => (reader path value).map (update before)⟩ := by
  refine lawful_of_reader (fun path value before => ?_) fun before content name differ => ?_
  · rw [readIn, setting.named?_self, Option.elim_some, ← reads]
    simp only [shownIn, setting.named?_self, Option.elim_some, own]
  · unfold shownIn
    cases other : named? setting.sectionName name with
    | none => rfl
    | some other' =>
      refine others before content other' ?_
      rintro rfl
      exact differ (Setting.named?_eq_some other).2.symm

theorem map_text_text (path : List String) (value : Value) :
    (Extraction.text path value).map Content.text = Kind.text.read path value := by
  cases value with
  | scalar origin scalar => cases scalar <;> rfl
  | sequence | table => rfl

theorem map_text_category (path : List String) (value : Value) :
    (Extraction.text path value).map (fun name => .category (Category.ofName name)) =
      Kind.category.read path value := by
  cases value with
  | scalar origin scalar => cases scalar <;> rfl
  | sequence | table => rfl

theorem map_optionalText (path : List String) (value : Value) :
    (Extraction.optionalText path value).map (fun text => text.elim .nothing .text) =
      Kind.optionalText.read path value := by
  cases value with
  | scalar origin scalar => cases scalar <;> rfl
  | sequence | table => rfl

theorem map_natural (path : List String) (value : Value) :
    (Extraction.natural path value).map Content.seconds = Kind.seconds.read path value := by
  cases value with
  | scalar origin scalar =>
    cases scalar with
    | integer number =>
      by_cases natural : 0 ≤ number
      · simp [Extraction.natural, Kind.read, Kind.ofValue?, Kind.ofInteger?, natural, Except.map]
      · simp [Extraction.natural, Kind.read, Kind.ofValue?, Kind.ofInteger?, natural, Except.map,
          Kind.complaint, Value.origin]
    | text | boolean | natural | decimal | absent => rfl
  | sequence | table => rfl

/-- A section of the settings: its keys are those of its settings, and each reads its own. -/
structure IsSection (name : String) (keys : List (SectionKey α)) (embed : α → Settings) :
    Prop where
  names : keys.map SectionKey.name = keysOf name
  lawful : ∀ key ∈ keys, key.Lawful (shownIn embed name) (readIn name)

theorem isSection_store :
    IsSection "store" Extraction.storeKeys fun store => { store } := by
  refine ⟨by decide, ?_⟩
  simp only [Extraction.storeKeys, List.forall_mem_cons, List.not_mem_nil, false_implies,
    implies_true, and_true]
  refine ⟨lawful_of_setting .connectUrl map_text_text ?_ ?_,
    lawful_of_setting .tokenPath map_text_text ?_ ?_,
    lawful_of_setting .tokenStart map_optionalText ?_ ?_,
    lawful_of_setting .timeout map_natural ?_ ?_⟩
  all_goals intro before value
  all_goals first
    | rfl
    | cases value <;> rfl
    | intro other differ; cases other <;> first | rfl | contradiction

theorem isSection_defaults :
    IsSection "defaults" Extraction.fallbackKeys fun fallbacks => { fallbacks } := by
  refine ⟨by decide, ?_⟩
  simp only [Extraction.fallbackKeys, List.forall_mem_cons, List.not_mem_nil, false_implies,
    implies_true, and_true]
  refine ⟨lawful_of_setting .vault map_text_text ?_ ?_,
    lawful_of_setting .field map_text_text ?_ ?_,
    lawful_of_setting .category map_text_category ?_ ?_⟩
  all_goals intro before value
  all_goals first
    | rfl
    | intro other differ; cases other <;> first | rfl | contradiction

theorem isSection_logging :
    IsSection "logging" Extraction.logKeys fun log => { log } := by
  refine ⟨by decide, ?_⟩
  simp only [Extraction.logKeys, List.forall_mem_cons, List.not_mem_nil, false_implies,
    implies_true, and_true]
  refine lawful_of_setting .level map_text_text ?_ ?_
  all_goals intro before value
  all_goals first
    | rfl
    | intro other differ; cases other <;> first | rfl | contradiction

/-- What is refused about an entry of a section: its key, or its value. -/
inductive Objection (name key : String) (value : Value) : Refusal → Prop
  | stray (unknown : key ∉ keysOf name) :
    Objection name key value ⟨.unknownKey key (keysOf name), [name, key], value.origin⟩
  | unfit (setting : Setting) (isNamed : setting.sectionName = name ∧ setting.key = key)
    (unfit : setting.kind.ofValue? value = none) :
    Objection name key value ⟨setting.kind.complaint value, [name, key], value.origin⟩

theorem IsSection.of_ok {keys : List (SectionKey α)} (isSection : IsSection name keys embed)
    {found : Value.Entries} {start after : α}
    (done : Extraction.entries keys [name] found start = .ok after)
    (distinct : (found.map Prod.fst).Nodup) :
    (∀ key value, found.lookup key = some value → ∃ setting : Setting,
      setting.sectionName = name ∧ setting.key = key ∧ (setting.kind.ofValue? value).isSome) ∧
    ∀ setting : Setting, setting.sectionName = name → setting.of (embed after) =
      ((found.lookup setting.key).bind setting.kind.ofValue?).getD (setting.of (embed start)) := by
  have readOf (setting : Setting) (value : Value) (present : found.lookup setting.key = some value)
      (belongs : setting.sectionName = name) :
      setting.kind.ofValue? value = some (setting.of (embed after)) := by
    have read := ((entries_of_ok isSection.lawful done distinct setting.key).1 value present).2
    rw [← belongs, readIn, shownIn, setting.named?_self] at read
    exact Kind.read_eq_ok read
  constructor
  · intro key value present
    have known := ((entries_of_ok isSection.lawful done distinct key).1 value present).1
    rw [isSection.names] at known
    obtain ⟨setting, belongs, rfl⟩ := Setting.mem_keysOf.mp known
    refine ⟨setting, belongs, rfl, ?_⟩
    rw [readOf setting value present belongs]
    rfl
  · intro setting belongs
    cases present : found.lookup setting.key with
    | some value => rw [Option.bind_some, readOf setting value present belongs, Option.getD_some]
    | none =>
      have kept := (entries_of_ok isSection.lawful done distinct setting.key).2 present
      rw [← belongs, shownIn, shownIn, setting.named?_self] at kept
      exact kept

theorem IsSection.of_error {keys : List (SectionKey α)} (isSection : IsSection name keys embed)
    {found : Value.Entries} {start : α} {refusal : Refusal}
    (failed : Extraction.entries keys [name] found start = .error refusal) :
    ∃ key value, (key, value) ∈ found ∧ Objection name key value refusal := by
  obtain ⟨key, value, present, ⟨unknown, rfl⟩ | ⟨known, refused⟩⟩ :=
    entries_of_error isSection.lawful failed
  · rw [isSection.names] at unknown ⊢
    exact ⟨key, value, present, .stray unknown⟩
  · rw [isSection.names] at known
    obtain ⟨setting, rfl, rfl⟩ := Setting.mem_keysOf.mp known
    rw [readIn, setting.named?_self] at refused
    obtain ⟨unfit, rfl⟩ := Kind.read_eq_error refused
    exact ⟨setting.key, value, present, .unfit setting ⟨rfl, rfl⟩ unfit⟩

end Sections

/-! ## All settings -/

/-- What a section shows among all settings. -/
def shownSection (name : String) (settings : Settings) (setting : Setting) : Content :=
  if setting.sectionName = name then setting.of settings else .nothing

/-- How the value of a section is read, with nothing else set. -/
def readSection (name : String) (path : List String) (value : Value) :
    Reading (Setting → Content) :=
  (Extraction.findKey? Extraction.sections name).elim (.ok fun _ => .nothing) fun key =>
    (key.set path value {}).map (shownSection name)

/-- A key of all settings that reads a section and updates only that. -/
theorem lawful_of_section {α : Type} {reader : List String → Value → Reading α}
    {update : Settings → α → Settings} {name : String}
    (known : Extraction.findKey? Extraction.sections name =
      some ⟨name, fun path value before => (reader path value).map (update before)⟩)
    (own : ∀ before content (setting : Setting), setting.sectionName = name →
      setting.of (update before content) = setting.of (update {} content))
    (others : ∀ before content (setting : Setting), setting.sectionName ≠ name →
      setting.of (update before content) = setting.of before) :
    SectionKey.Lawful shownSection readSection
      ⟨name, fun path value before => (reader path value).map (update before)⟩ := by
  refine lawful_of_reader (fun path value before => ?_) fun before content other differ => ?_
  · have alone (content : α) : shownSection name (update before content) =
        shownSection name (update {} content) := by
      funext setting
      unfold shownSection
      split
      · rename_i belongs
        exact own before content setting belongs
      · rfl
    rw [readSection, known, Option.elim_some]
    simp only [alone]
    cases reader path value with
    | error refusal => rfl
    | ok content => rfl
  · funext setting
    unfold shownSection
    split
    · rename_i belongs
      exact others before content setting (belongs ▸ differ)
    · rfl

theorem lawful_sections : ∀ key ∈ Extraction.sections, key.Lawful shownSection readSection := by
  simp only [Extraction.sections, List.forall_mem_cons, List.not_mem_nil, false_implies,
    implies_true, and_true]
  refine ⟨lawful_of_section rfl ?_ ?_, lawful_of_section rfl ?_ ?_, lawful_of_section rfl ?_ ?_⟩
  all_goals intro before content setting belongs
  all_goals cases setting <;> first | rfl | exact absurd belongs (by decide)

/-- Every section has keys of its own, and reading it is reading its entries by them. -/
theorem exists_isSection {name : String} (known : name ∈ sectionNames) :
    ∃ (α : Type) (keys : List (SectionKey α)) (embed : α → Settings) (start : α),
      IsSection name keys embed ∧ embed start = {} ∧ ∀ path origin found,
        readSection name path (.table origin found) =
          (Extraction.entries keys path found start).map fun content =>
            shownSection name (embed content) := by
  simp only [sectionNames, List.mem_cons, List.not_mem_nil, or_false] at known
  rcases known with rfl | rfl | rfl
  · refine ⟨_, _, _, {}, isSection_store, rfl, fun path origin found => ?_⟩
    change Except.map _ (Except.map _ (Extraction.entries _ path found _)) = _
    cases Extraction.entries Extraction.storeKeys path found {} <;> rfl
  · refine ⟨_, _, _, {}, isSection_defaults, rfl, fun path origin found => ?_⟩
    change Except.map _ (Except.map _ (Extraction.entries _ path found _)) = _
    cases Extraction.entries Extraction.fallbackKeys path found {} <;> rfl
  · refine ⟨_, _, _, {}, isSection_logging, rfl, fun path origin found => ?_⟩
    change Except.map _ (Except.map _ (Extraction.entries _ path found _)) = _
    cases Extraction.entries Extraction.logKeys path found {} <;> rfl

variable {name : String} {origin : Origin} {found : Value.Entries}

theorem readSection_of_ok (known : name ∈ sectionNames) {content : Setting → Content}
    (done : readSection name [name] (.table origin found) = .ok content)
    (distinct : (found.map Prod.fst).Nodup) :
    (∀ key value, found.lookup key = some value → ∃ setting : Setting,
      setting.sectionName = name ∧ setting.key = key ∧ (setting.kind.ofValue? value).isSome) ∧
    ∀ setting : Setting, setting.sectionName = name → content setting =
      ((found.lookup setting.key).bind setting.kind.ofValue?).getD (setting.of {}) := by
  obtain ⟨α, keys, embed, start, isSection, nothingSet, reads⟩ := exists_isSection known
  rw [reads] at done
  cases read : Extraction.entries keys [name] found start with
  | error refusal =>
    rw [read] at done
    cases done
  | ok after =>
    rw [read] at done
    cases done
    obtain ⟨declared, shows⟩ := isSection.of_ok read distinct
    refine ⟨declared, fun setting belongs => ?_⟩
    rw [← nothingSet, ← shows setting belongs]
    exact if_pos belongs

theorem readSection_of_error (known : name ∈ sectionNames) {refusal : Refusal}
    (failed : readSection name [name] (.table origin found) = .error refusal) :
    ∃ key value, (key, value) ∈ found ∧ Objection name key value refusal := by
  obtain ⟨α, keys, embed, start, isSection, -, reads⟩ := exists_isSection known
  rw [reads] at failed
  cases read : Extraction.entries keys [name] found start with
  | error cause =>
    rw [read] at failed
    cases failed
    exact isSection.of_error read
  | ok after =>
    rw [read] at failed
    cases failed

/-- What a table of sections has under a key of one of them. -/
def Value.below? (name key : String) (found : Value.Entries) : Option Value :=
  match found.lookup name with
  | some (.table _ inner) => inner.lookup key
  | _ => none

/-- What tables set a setting to. -/
def Value.content? (found : Value.Entries) (setting : Setting) : Option Content :=
  (below? setting.sectionName setting.key found).bind setting.kind.ofValue?

/-- Tables in the order of their keys, of the sections and in each section. -/
structure Tidy (found : Value.Entries) : Prop where
  ordered : Value.Ordered found
  sections : ∀ {name origin inner}, found.lookup name = some (.table origin inner) →
    Value.Ordered inner

/-- Values in which sections are tables, if they are there. -/
def Sectioned (found : Value.Entries) : Prop :=
  ∀ name ∈ sectionNames, ∀ value, found.lookup name = some value →
    ∃ origin inner, value = .table origin inner

/-- Tables that have nothing but settings, each with a value of its kind. -/
structure Declared (found : Value.Entries) : Prop where
  sectioned : Sectioned found
  sections : ∀ {name value}, found.lookup name = some value → name ∈ sectionNames
  settings : ∀ {name key value}, name ∈ sectionNames → Value.below? name key found = some value →
    ∃ setting : Setting, setting.sectionName = name ∧ setting.key = key ∧
      (setting.kind.ofValue? value).isSome

/-- Whether every entry is a section with nothing but settings. -/
def isDeclared (found : Value.Entries) : Bool :=
  found.all fun (name, value) => sectionNames.contains name &&
    match value with
    | .table _ inner => inner.all fun (key, value) =>
      (named? name key).any fun setting => (setting.kind.ofValue? value).isSome
    | _ => false

theorem declared_of_isDeclared (checked : isDeclared found = true) : Declared found := by
  have each {name : String} {value : Value} (present : found.lookup name = some value) :
      name ∈ sectionNames ∧ ∃ origin inner, value = .table origin inner ∧ ∀ key value,
        inner.lookup key = some value → ∃ setting, named? name key = some setting ∧
          (setting.kind.ofValue? value).isSome := by
    have checked := List.all_eq_true.mp checked _ (Value.mem_of_lookup present)
    rw [Bool.and_eq_true] at checked
    refine ⟨List.contains_iff_mem.mp checked.1, ?_⟩
    cases value with
    | table origin inner =>
      refine ⟨origin, inner, rfl, fun key value present => ?_⟩
      have fits : (named? name key).any fun setting => (setting.kind.ofValue? value).isSome :=
        List.all_eq_true.mp checked.2 _ (Value.mem_of_lookup present)
      cases isNamed : named? name key with
      | none =>
        rw [isNamed] at fits
        cases fits
      | some setting =>
        rw [isNamed] at fits
        exact ⟨setting, rfl, fits⟩
    | scalar | sequence => cases checked.2
  refine ⟨fun name _ value present => ?_, fun present => (each present).1,
    fun {name key value} _ present => ?_⟩
  · obtain ⟨-, origin, inner, isTable, -⟩ := each present
    exact ⟨origin, inner, isTable⟩
  · unfold Value.below? at present
    split at present
    · rename_i inner isTable
      obtain ⟨-, _, _, ⟨rfl⟩, settings⟩ := each isTable
      obtain ⟨setting, isNamed, fits⟩ := settings key value present
      obtain ⟨belongs, isKey⟩ := Setting.named?_eq_some isNamed
      exact ⟨setting, belongs, isKey, fits⟩
    · cases present

/-- What is refused about tables of settings. -/
inductive Refused (found : Value.Entries) : Refusal → Prop
  | stray {name : String} {value : Value} (present : found.lookup name = some value)
    (unknown : name ∉ sectionNames) :
    Refused found ⟨.unknownKey name sectionNames, [name], value.origin⟩
  | inside {name key : String} {value : Value} {refusal : Refusal} (known : name ∈ sectionNames)
    (present : Value.below? name key found = some value)
    (objection : Objection name key value refusal) : Refused found refusal

/-- Tables from which all settings can be read. -/
theorem settings_of_ok {settings : Settings}
    (done : Extraction.settings (.table origin found) = .ok settings) (tidy : Tidy found)
    (sectioned : Sectioned found) :
    Declared found ∧ ∀ setting : Setting,
      setting.of settings = (Value.content? found setting).getD (setting.of {}) := by
  have top := entries_of_ok lawful_sections done tidy.ordered.nodup
  have known {name value} (present : found.lookup name = some value) : name ∈ sectionNames :=
    ((top name).1 value present).1
  refine ⟨⟨sectioned, known, fun {name key value} _ present => ?_⟩, fun setting => ?_⟩
  · unfold Value.below? at present
    split at present
    · rename_i isTable
      exact (readSection_of_ok (known isTable) ((top name).1 _ isTable).2
        (tidy.sections isTable).nodup).1 key value present
    · cases present
  · have own : shownSection setting.sectionName settings setting = setting.of settings :=
      if_pos rfl
    rw [← own]
    unfold Value.content? Value.below?
    cases isTable : found.lookup setting.sectionName with
    | none =>
      rw [(top setting.sectionName).2 isTable]
      exact if_pos rfl
    | some value =>
      obtain ⟨origin, inner, rfl⟩ := sectioned _ setting.sectionName_mem value isTable
      exact (readSection_of_ok setting.sectionName_mem ((top setting.sectionName).1 _ isTable).2
        (tidy.sections isTable).nodup).2 setting rfl

/-- Tables from which settings cannot be read. -/
theorem settings_of_error {refusal : Refusal}
    (failed : Extraction.settings (.table origin found) = .error refusal) (tidy : Tidy found)
    (sectioned : Sectioned found) : Refused found refusal := by
  obtain ⟨name, value, member, ⟨unknown, rfl⟩ | ⟨known, refused⟩⟩ :=
    entries_of_error lawful_sections failed
  · exact .stray ((Value.mem_iff_lookup tidy.ordered.nodup).mp member) unknown
  · have present := (Value.mem_iff_lookup tidy.ordered.nodup).mp member
    obtain ⟨origin, inner, rfl⟩ := sectioned name known value present
    obtain ⟨key, value, member, objection⟩ := readSection_of_error known refused
    refine .inside known ?_ objection
    rw [Value.below?, present]
    exact (Value.mem_iff_lookup (tidy.sections present).nodup).mp member

/-- Nothing is refused about tables that have nothing but settings. -/
theorem Declared.not_refused (declared : Declared found) {refusal : Refusal} :
    ¬ Refused found refusal := by
  rintro (⟨present, unknown⟩ | ⟨known, present, objection⟩)
  · exact unknown (declared.sections present)
  · obtain ⟨setting, rfl, rfl, fits⟩ := declared.settings known present
    cases objection with
    | stray unknown => exact unknown (Setting.mem_keysOf.mpr ⟨setting, rfl, rfl⟩)
    | unfit other isNamed unfit =>
      rw [Setting.eq_of_named isNamed.1 isNamed.2] at unfit
      rw [unfit] at fits
      cases fits

/-- Tables of which nothing is refused have nothing but settings. -/
theorem declared_of_not_refused (sectioned : Sectioned found)
    (accepted : ∀ refusal, ¬ Refused found refusal) : Declared found := by
  refine ⟨sectioned, fun present => Decidable.byContradiction fun unknown =>
    accepted _ (.stray present unknown), fun {name key value} isSection present => ?_⟩
  have isKey : key ∈ keysOf name := Decidable.byContradiction fun unknown =>
    accepted _ (.inside isSection present (.stray unknown))
  obtain ⟨setting, belongs, isNamed⟩ := Setting.mem_keysOf.mp isKey
  refine ⟨setting, belongs, isNamed, ?_⟩
  by_contra unfit
  exact accepted _ (.inside isSection present
    (.unfit setting ⟨belongs, isNamed⟩ (Option.not_isSome_iff_eq_none.mp unfit)))

/-- All settings can be read from tables that have nothing else. -/
theorem Declared.settings_eq (declared : Declared found) (tidy : Tidy found) :
    ∃ settings, Extraction.settings (.table origin found) = .ok settings ∧
      ∀ setting : Setting,
        setting.of settings = (Value.content? found setting).getD (setting.of {}) := by
  cases read : Extraction.settings (.table origin found) with
  | error refusal =>
    exact absurd (settings_of_error read tidy declared.sectioned) declared.not_refused
  | ok settings => exact ⟨settings, rfl, (settings_of_ok read tidy declared.sectioned).2⟩

end Settings

end SecretRefs
