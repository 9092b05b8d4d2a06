import SecretRefs.Failure
import SecretRefs.Text.Occurrence

/-!
# Files

The part of a file system that commands look at: a set of files and directories
below `/`, and a working directory. Paths are followed component by component,
so `..` leaves the directory that was reached and a path through a file fails.
-/

namespace SecretRefs

/-- What a path can lead to. -/
inductive Files.Node where
  | file (content : ByteArray)
  | directory

/-- Files and directories by their components from the root, which is a directory
without being listed, and the working directory. -/
structure Files where
  nodes : List (List String × Files.Node)
  workingDirectory : String

namespace Files

/-- The greatest length of a component, in bytes. -/
def nameLimit : Nat := 255

/-- The length from which a path is refused, in bytes. -/
def pathLimit : Nat := 4096

/-- The components of a path between its slashes. -/
def components (path : String) : List String :=
  (Text.parts (· == '/') path.toList).map String.ofList

/-- The components of a path that name something. -/
def names (path : String) : List String :=
  (components path).filter fun name => !name.isEmpty

/-- Whether a path starts at the root. -/
def isAbsolute (path : String) : Bool :=
  path.toList.head? == some '/'

/-- A path below another one. An absolute path stays what it is. -/
def join (base path : String) : String :=
  if isAbsolute path then path
  else if base.isEmpty || base.toList.getLast? == some '/' then base ++ path
  else base ++ "/" ++ path

/-- The node at a place, given by its names from the last one to the root. -/
def nodeAt (files : Files) (place : List String) : Option Node :=
  if place.isEmpty then some .directory else files.nodes.lookup place.reverse

/-- Follows components from a place. -/
def walk (files : Files) (place : List String) : List String → Except ReadFault (List String)
  | [] => .ok place
  | name :: rest =>
    match files.nodeAt place with
    | none => .error .missing
    | some (.file _) => .error .notDirectory
    | some .directory =>
      if name == "" || name == "." then
        files.walk place rest
      else if name == ".." then
        files.walk place.tail rest
      else if nameLimit < name.utf8ByteSize then
        .error .nameTooLong
      else if (files.nodeAt (name :: place)).isNone then
        .error .missing
      else
        files.walk (name :: place) rest

/-- What a path leads to. -/
def find (files : Files) (path : String) : Except ReadFault Node :=
  if path.toList.any fun c => c.toNat == 0 then
    .error .nulInName
  else if path.isEmpty then
    .error .missing
  else if pathLimit ≤ path.utf8ByteSize then
    .error .nameTooLong
  else
    let start := if isAbsolute path then [] else (names files.workingDirectory).reverse
    match files.walk start (components path) with
    | .error fault => .error fault
    | .ok place =>
      match files.nodeAt place with
      | some node => .ok node
      | none => .error .missing

/-- The directories above a place, given by its names from the last one to the
root, the place itself first. -/
def upwards : List String → List String
  | [] => ["/"]
  | name :: above => ("/" ++ "/".intercalate (name :: above).reverse) :: upwards above

/-- Whether a path leads to a file. -/
def isFile (files : Files) (path : String) : Bool :=
  match files.find path with
  | .ok (.file _) => true
  | _ => false

/-- The first file with a relative path below the working directory or one of the
directories above it, or the file with an absolute path. -/
def search? (files : Files) (path : String) : Option String :=
  if isAbsolute path then
    if files.isFile path then some path else none
  else
    ((upwards (names files.workingDirectory).reverse).map fun place => join place path).find?
      files.isFile

/-- The text of a file. -/
def readText (files : Files) (path : String) : Except ReadFault String :=
  match files.find path with
  | .error fault => .error fault
  | .ok .directory => .error .directory
  | .ok (.file content) =>
    match String.fromUTF8? content with
    | some text => .ok text
    | none => .error .notText

/-- The parts of a path that matter for where it leads. A dot counts only as the
first part of a relative path. -/
def steps (path : String) : List String :=
  let named := (names path).filter (· != ".")
  if isAbsolute path then "/" :: named
  else if (components path).head? == some "." then "." :: named
  else named

/-- The parts of the way from one place to another, both given by their parts. -/
def wayBetween : (start goal : List String) → List String
  | step :: start, name :: goal =>
    if step == name then wayBetween start goal
    else List.replicate (start.length + 1) ".." ++ name :: goal
  | start, goal => List.replicate start.length ".." ++ goal

/-- A path as a reader in a directory would write it: by the way from there, if that
has fewer parts. -/
def shownFrom (directory path : String) : String :=
  if isAbsolute path then
    let way := wayBetween (steps directory) (steps path)
    if way.length < (steps path).length then "/".intercalate way else path
  else
    path

end Files

end SecretRefs
