import SecretRefs.Settings.Environment
import SecretRefs.Settings.Extraction
import SecretRefs.Settings.Validation
import SecretRefs.Toml.Document

/-!
# Loading settings

Settings are made of layers: the built-in ones, files and environment variables.
A later layer holds over an earlier one, key by key.

Without a given file there are up to three: the file of the system, that of the
user, and the one of the directory or of the nearest directory above it. A file
that is given is the only one, and it has to be there.
-/

namespace SecretRefs

/-- What settings are loaded from. -/
structure Host where
  files : Files
  /-- The environment variables by name. -/
  environment : List (String × String)
  /-- The home directory of the user's account. -/
  accountHome : Option String

namespace Host

/-- The value of an environment variable. -/
def environmentText? (host : Host) (name : String) : Option String :=
  host.environment.lookup name

/-- The home directory. -/
def home (host : Host) : Option String :=
  match host.environmentText? "HOME" with
  | some path => if path.isEmpty then host.accountHome else some path
  | none => host.accountHome

/-- The directory for the user's settings. -/
def settingsDirectory? (host : Host) : Option String :=
  match (host.environmentText? "XDG_CONFIG_HOME").filter Files.isAbsolute with
  | some path => some path
  | none => host.home.map fun home => Files.join home ".config"

/-- The file for the user's settings. -/
def userFile? (host : Host) : Option String :=
  host.settingsDirectory?.map fun directory => Files.join directory "opref/opref.toml"

end Host

namespace Settings

/-- The file for the settings of all users. -/
def systemFile : String := "/etc/opref/opref.toml"

/-- The file for the settings of a directory. -/
def localFile : String := "opref.toml"

/-- What a layer says, or why it is refused. -/
abbrev Layer := Except Refusal Value

namespace Layer

/-- The built-in settings. -/
def builtIn : Layer := .ok (toValue {})

/-- The settings in a TOML text. -/
def ofToml (origin : Origin) (text : String) : Layer :=
  match Toml.Document.read text with
  | .ok entries => .ok (Value.ofToml origin (.table entries))
  | .error line => .error ⟨.malformed line, [], origin⟩

/-- The settings in a file. -/
def ofFile (files : Files) (path : String) : Layer :=
  match files.readText path with
  | .ok text => ofToml (.file path) text
  | .error fault => .error ⟨.unreadable fault, [], .file path⟩

/-- The settings in the file that a path leads to, unless there is none. -/
def search? (files : Files) (path : String) : Option Layer :=
  (files.search? path).map (ofFile files)

/-- The settings in environment variables. -/
def ofVariables (pairs : List (String × String)) : Layer :=
  .ok (Environment.ofVariables pairs)

/-- The refusal of a layer. -/
def refusal? : Layer → Option Refusal
  | .ok _ => none
  | .error refusal => some refusal

/-- What a layer says. -/
def value? : Layer → Option Value
  | .ok value => some value
  | .error _ => none

end Layer

/-- What layers say together, the first one being the lowest. -/
def stack (layers : List Layer) : Value :=
  (layers.filterMap Layer.value?).foldl (fun lower upper => upper.cover lower) (.table .builtIn [])

/-- The settings that layers make, or all refusals of layers, or the refusal of what
they say together. -/
def ofLayers (layers : List Layer) : Except (List Refusal) Settings :=
  match layers.filterMap Layer.refusal? with
  | [] =>
    match Extraction.settings (stack layers) with
    | .ok settings => .ok settings
    | .error refusal => .error [refusal]
  | refusals => .error refusals

/-- The layers of a TOML text alone. -/
def textLayers (text : String) : List Layer :=
  [Layer.builtIn, Layer.ofToml .inline text]

/-- The layers with one given file. -/
def fileLayers (host : Host) (path : String) : List Layer :=
  [Layer.builtIn, Layer.ofFile host.files path, Layer.ofVariables host.environment]

/-- The layers with the files at their places. -/
def hostLayers (host : Host) : List Layer :=
  let found := [some systemFile, host.userFile?, some localFile].filterMap fun path =>
    path.bind (Layer.search? host.files)
  Layer.builtIn :: found ++ [Layer.ofVariables host.environment]

/-- The sources among files that can be read. -/
def sourcesOf (files : Files) (paths : List String) : List Source :=
  paths.filterMap fun path =>
    match files.readText path with
    | .ok content => some ⟨path, content⟩
    | .error _ => none

/-- The sources in which keys are pointed at if no file is given. -/
def hostSources (host : Host) : List Source :=
  sourcesOf host.files
    (Files.join host.files.workingDirectory localFile :: host.userFile?.toList ++ [systemFile])

/-- The name of a text that is not in a file. -/
def inlineName : String := "<inline>"

/-- The paths that loading looks at, with one given file or without. -/
def lookedAt (host : Host) : Option String → List String
  | some path => [path]
  | none =>
    let above := Files.upwards (Files.names host.files.workingDirectory).reverse
    systemFile :: host.userFile?.toList ++ above.map fun place => Files.join place localFile

/-- Valid settings, or the faults for a reader in a directory. -/
def conclude (directory : String) (sources : List Source)
    (outcome : Except (List Refusal) Settings) : Except (List Fault) Settings :=
  match outcome with
  | .ok settings => Validation.check settings
  | .error refusals => .error (refusals.map (Fault.ofRefusal directory sources))

/-- The settings in a TOML text. -/
def ofText (text : String) : Except (List Fault) Settings :=
  conclude "/" [⟨inlineName, text⟩] (ofLayers (textLayers text))

/-- The settings of a host with one given file. -/
def ofFile (host : Host) (path : String) : Except (List Fault) Settings :=
  if host.files.isFile path then
    conclude host.files.workingDirectory (sourcesOf host.files [path])
      (ofLayers (fileLayers host path))
  else
    .error [.missingFile path]

/-- The settings of a host. -/
def ofHost (host : Host) : Except (List Fault) Settings :=
  conclude host.files.workingDirectory (hostSources host) (ofLayers (hostLayers host))

/-- The settings of a host, with one given file or without. -/
def load (host : Host) : Option String → Except (List Fault) Settings
  | some path => ofFile host path
  | none => ofHost host

end Settings

end SecretRefs
