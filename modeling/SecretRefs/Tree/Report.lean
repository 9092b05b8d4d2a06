import SecretRefs.Json.Printer
import SecretRefs.Reference
import SecretRefs.Redaction
import SecretRefs.Failure
import SecretRefs.Text.Quoted

/-!
# Reports on resolved trees

A report lists the references of a tree in their order, each with its path and
the text found at the same place of a second tree. Paths are keys and positions
joined by dots. The second tree must have the shape of the first: the first
place where it has not is a failure.

The texts in a report are secrets; `Redaction.redact` makes them fit to show.
-/

namespace SecretRefs.Tree

/-- A place that held a reference, with the text that replaced it. -/
structure ResolvedPath where
  path : String
  value : String
deriving Repr, DecidableEq

namespace ResolvedPath

/-- The diagnostic text of an entry, with its secret redacted. -/
def inspect (entry : ResolvedPath) : String :=
  "ResolvedPath \x7b path: " ++ Text.quoted entry.path ++ ", value: " ++
    Text.quoted (Redaction.redact entry.value) ++ " \x7d"

/-- The JSON form of an entry. -/
def encode (entry : ResolvedPath) : Json :=
  .object [("path", .string entry.path), ("value", .string entry.value)]

end ResolvedPath

/-- The path that is shown for the whole tree. -/
def rootPath : String := "(root)"

/-- The shown form of a path: an empty one stands for the whole tree. -/
def shownPath (path : String) : String :=
  if path.isEmpty then rootPath else path

/-- The path of a key below `parent`. Below an empty path it is the key alone. -/
def childPath (parent key : String) : String :=
  if parent.isEmpty then key else parent ++ "." ++ key

/-- The failure of a shape that differs at `path`. -/
def mismatch (path : String) : Failure :=
  .shapeMismatch (shownPath path)

/-- The text of a tree that replaces a reference, unless it is a container. -/
def replacementText? : Json → Option String
  | .string text => some text
  | .array _ => none
  | .object _ => none
  | scalar => some scalar.render

mutual

/-- The report on the part of two trees below `path`. -/
def reportAt : (given resolved : Json) → (path : String) → Except Failure (List ResolvedPath)
  | .string text, resolved, path =>
    if Reference.isReference text then
      match replacementText? resolved with
      | some value => .ok [⟨shownPath path, value⟩]
      | none => .error (mismatch path)
    else
      .ok []
  | .array elements, .array resolved, path =>
    if elements.length == resolved.length then
      reportElements elements resolved path 0
    else
      .error (mismatch path)
  | .object entries, .object resolved, path => reportEntries entries resolved path
  | .array _, _, path => .error (mismatch path)
  | .object _, _, path => .error (mismatch path)
  | _, _, _ => .ok []

/-- The report on the elements of two arrays of one length. -/
def reportElements : (givens resolved : List Json) → (path : String) → (position : Nat) →
    Except Failure (List ResolvedPath)
  | given :: givens, resolved, path, position =>
    match resolved with
    | [] => .ok []
    | first :: rest =>
      match reportAt given first (childPath path (toString position)) with
      | .error failure => .error failure
      | .ok report =>
        match reportElements givens rest path (position + 1) with
        | .error failure => .error failure
        | .ok others => .ok (report ++ others)
  | [], _, _, _ => .ok []

/-- The report on the entries of a mapping, each looked up in the other mapping. -/
def reportEntries : (givens resolved : Json.Entries) → (path : String) →
    Except Failure (List ResolvedPath)
  | (key, given) :: givens, resolved, path =>
    match Json.find? key resolved with
    | none => .error (mismatch (childPath path key))
    | some value =>
      match reportAt given value (childPath path key) with
      | .error failure => .error failure
      | .ok report =>
        match reportEntries givens resolved path with
        | .error failure => .error failure
        | .ok others => .ok (report ++ others)
  | [], _, _ => .ok []

end

/-- The references of `given` with the texts found in their places. -/
def report (given resolved : Json) : Except Failure (List ResolvedPath) :=
  reportAt given resolved ""

end SecretRefs.Tree
