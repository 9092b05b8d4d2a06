import SecretRefs.Proofs.Settings.Document
import SecretRefs.Proofs.Settings.Variables

/-!
# Precedence of the layers of settings

Which layer decides a setting if files and variables set nothing but settings: the last of the
built-in settings, the user's file, the local file and the environment that sets it, or the last
of the built-in settings, a given file and the environment. Each setting is decided alone, so a
section in a higher layer does not reset what a lower one says for its other settings.
-/

namespace SecretRefs.Settings

open Setting (Content)

/-- What a file has that is searched for: nothing if there is no path or no such file, or else
a document. -/
def Holds (files : Files) (path : Option String) : Option Toml.Entries → Prop
  | none => path.bind files.search? = none
  | some document => ∃ place text, path.bind files.search? = some place ∧
    files.readText place = .ok text ∧ Toml.Document.read text = .ok document

theorem ofFile_eq {files : Files} {path text : String} {document : Toml.Entries}
    (isText : files.readText path = .ok text)
    (wellFormed : Toml.Document.read text = .ok document) :
    Layer.ofFile files path = .ok (Value.ofToml (.file path) (.table document)) := by
  rw [Layer.ofFile, isText]
  simp only [Layer.ofToml, wellFormed]

/-- A file that is searched for is a layer of settings if it is there. -/
theorem Holds.allGive {files : Files} {path : Option String} {document : Option Toml.Entries}
    (holds : Holds files path document)
    (declared : ∀ entries ∈ document, Document.Declared entries) :
    AllGive (path.bind (Layer.search? files)).toList fun setting =>
      document.bind fun entries => Document.content? entries setting := by
  have searched : path.bind (Layer.search? files) =
      (path.bind files.search?).map (Layer.ofFile files) := by
    cases path <;> rfl
  rw [searched]
  cases document with
  | none =>
    rw [Holds] at holds
    rw [holds]
    exact .nil
  | some entries =>
    obtain ⟨place, text, found, isText, wellFormed⟩ := holds
    rw [found, Option.map_some, ofFile_eq isText wellFormed]
    exact .single ((declared entries rfl).gives (.file place))

theorem hostLayers_eq {host : Host} (noSystemFile : host.files.search? systemFile = none) :
    hostLayers host = [Layer.builtIn] ++ ((host.userFile?.bind (Layer.search? host.files)).toList ++
      (((some localFile).bind (Layer.search? host.files)).toList ++
        [Layer.ofVariables host.environment])) := by
  have noLayer : (some systemFile).bind (Layer.search? host.files) = none := by
    rw [Option.bind_some, Layer.search?, noSystemFile, Option.map_none]
  unfold hostLayers
  simp only [List.filterMap_eq_flatMap_toList, List.flatMap_cons, List.flatMap_nil, noLayer,
    Option.toList_none, List.nil_append, List.append_nil, List.cons_append, List.append_assoc]

/-- Each setting has what the last layer that sets it says, whatever the others are: with the
files at their places and no file for all users, with a given file instead, whatever is at the
other places, and with the variable that has the name of the setting. -/
theorem last_layer_decides (host : Host)
    (declared : Environment.DeclaredVariables host.environment) :
    (∀ user here : Option Toml.Entries, host.files.search? systemFile = none →
      Holds host.files host.userFile? user → Holds host.files (some localFile) here →
      (∀ document ∈ user, Document.Declared document) →
      (∀ document ∈ here, Document.Declared document) →
      ∃ settings, ofLayers (hostLayers host) = .ok settings ∧ ∀ setting : Setting,
        setting.of settings = (((Environment.contentOf? host.environment setting).or
          (here.bind fun document => Document.content? document setting)).or
          (user.bind fun document => Document.content? document setting)).getD (setting.of {})) ∧
    (∀ path text document, host.files.readText path = .ok text →
      Toml.Document.read text = .ok document → Document.Declared document →
      ∃ settings, ofLayers (fileLayers host path) = .ok settings ∧ ∀ setting : Setting,
        setting.of settings = ((Environment.contentOf? host.environment setting).or
          (Document.content? document setting)).getD (setting.of {})) ∧
    ∀ (setting : Setting) name text,
      Text.asciiLower name = Text.asciiLower setting.variable → ∀ other : Setting,
      Environment.content? (name, text) other =
        if other = setting then setting.kind.ofValue? (Environment.valueOfText text) else none := by
  refine ⟨fun user here noSystemFile userHolds localHolds userDeclared localDeclared => ?_,
    fun path text document isText wellFormed documentDeclared => ?_,
    fun setting name text isNamed other => Environment.content?_of_named setting isNamed text other⟩
  · rw [hostLayers_eq noSystemFile]
    have layersGive := (AllGive.single gives_builtIn).append ((userHolds.allGive userDeclared).append
      ((localHolds.allGive localDeclared).append (.single declared.gives)))
    obtain ⟨settings, loaded, holds⟩ := layersGive.ofLayers_eq
    refine ⟨settings, loaded, fun setting => ?_⟩
    rw [holds, Option.getD_or, Option.getD_some]
  · have isLayers : fileLayers host path = [Layer.builtIn] ++ ([.ok (Value.ofToml (.file path)
        (.table document))] ++ [Layer.ofVariables host.environment]) := by
      rw [fileLayers, ofFile_eq isText wellFormed]
      rfl
    have layersGive := (AllGive.single gives_builtIn).append
      ((AllGive.single (documentDeclared.gives (.file path))).append (.single declared.gives))
    obtain ⟨settings, loaded, holds⟩ := layersGive.ofLayers_eq
    refine ⟨settings, isLayers ▸ loaded, fun setting => ?_⟩
    rw [holds, Option.getD_or, Option.getD_some]

/-- The text of a user's file, with a number of seconds and a level. -/
def sampleUserText : String := "store.timeout_secs=5\nlogging.level=\"info\""

/-- The text of a local file, with another number of seconds. -/
def sampleLocalText : String := "store.timeout_secs=7"

/-- A host with both files and a variable for the vault. -/
def sampleHost : Host where
  files :=
    { nodes :=
        [(["home"], .directory), (["home", ".config"], .directory),
          (["home", ".config", "opref"], .directory),
          (["home", ".config", "opref", "opref.toml"], .file sampleUserText.toUTF8),
          (["work"], .directory), (["work", "opref.toml"], .file sampleLocalText.toUTF8)]
      workingDirectory := "/work" }
  environment := [("HOME", "/home"), ("OPREF_DEFAULTS_VAULT", "Work")]
  accountHome := none

/-- On the sample host every layer sets a setting, and both files set the number of seconds: the
local one decides it, and the level of the user's file stays, as do the built-in settings. -/
theorem sampleHost_settings :
    Environment.DeclaredVariables sampleHost.environment ∧
    ∃ settings, ofLayers (hostLayers sampleHost) = .ok settings ∧
      Setting.timeout.of settings = .seconds 7 ∧ Setting.level.of settings = .text "info" ∧
      Setting.vault.of settings = .text "Work" ∧
      Setting.field.of settings = Setting.field.of {} := by
  have noSetting : Environment.ofVariable? ("HOME", "/home") = none := by
    have notSpelled : Environment.keyOfName? "HOME" = none := by decide +kernel
    rw [Environment.ofVariable?, notSpelled, Option.map_none]
  have isNamed : Text.asciiLower "OPREF_DEFAULTS_VAULT" = Text.asciiLower Setting.vault.variable := by
    decide +kernel
  have denoted : Setting.vault.kind.ofValue? (Environment.valueOfText "Work") =
      some (.text "Work") := by
    decide +kernel
  have declared : Environment.DeclaredVariables sampleHost.environment := by
    intro pair member
    rcases List.mem_cons.mp member with rfl | member
    · intro value sets
      rw [noSetting] at sets
      cases sets
    · exact Environment.declared_of_named .vault isNamed (Option.isSome_of_eq_some denoted) pair
        member
  have ofVariables (setting : Setting) : Environment.contentOf? sampleHost.environment setting =
      if setting = .vault then some (.text "Work") else none := by
    have idle : Environment.content? ("HOME", "/home") setting = none := by
      rw [Environment.content?, noSetting]
    rw [sampleHost, Environment.contentOf?_cons, Environment.contentOf?_cons, idle, Option.or_none,
      Environment.content?_of_named .vault isNamed, denoted]
    rfl
  have user : Holds sampleHost.files sampleHost.userFile?
      (some [("store", .table [("timeout_secs", .integer 5)]),
        ("logging", .table [("level", .text "info")])]) :=
    ⟨"/home/.config/opref/opref.toml", sampleUserText, by decide +kernel, by decide +kernel,
      by decide +kernel⟩
  have here : Holds sampleHost.files (some localFile)
      (some [("store", .table [("timeout_secs", .integer 7)])]) :=
    ⟨"/work/opref.toml", sampleLocalText, by decide +kernel, by decide +kernel,
      by decide +kernel⟩
  obtain ⟨atTheirPlaces, -⟩ := last_layer_decides sampleHost declared
  obtain ⟨settings, loaded, holds⟩ := atTheirPlaces _ _ (by decide +kernel) user here
    (fun _ isUser => Option.some.inj isUser ▸ Document.declared_of_isDeclared (by decide))
    (fun _ isLocal => Option.some.inj isLocal ▸ Document.declared_of_isDeclared (by decide))
  simp only [ofVariables] at holds
  exact ⟨declared, settings, loaded, holds .timeout, holds .level, holds .vault, holds .field⟩

end SecretRefs.Settings
