import SecretRefs.Text.Blank
import SecretRefs.Files
import SecretRefs.Event

/-!
# Service tokens

The token that a client shows to the server is the content of a file, without
the blanks around it. It must not be empty and must start with the prefix that
is asked for, if any.
-/

namespace SecretRefs.Connect.Token

/-- The token in the content of the file at `path`. -/
def ofContent (path : String) (start : Option String) (content : String) :
    Except Failure String :=
  let token := Text.trim content
  if token.isEmpty then
    .error (.configuration ("service token file " ++ path ++ " is empty"))
  else
    match start with
    | some start =>
      if start.toList.isPrefixOf token.toList then
        .ok token
      else
        .error (.configuration
          ("service token in " ++ path ++ " does not start with \"" ++ start ++ "\""))
    | none => .ok token

/-- The token in the file at `path`. -/
def load (files : Files) (path : String) (start : Option String) : Except Failure String :=
  match files.readText path with
  | .ok content => ofContent path start content
  | .error .missing => .error (.configuration ("service token file not found at " ++ path))
  | .error fault => .error (.read path fault)

/-- The event that reports a token. -/
def loadedEvent (path : String) : Event where
  level := .debug
  target := "opref_connect::token"
  message := "service token loaded"
  fields := [("path", path)]

end SecretRefs.Connect.Token
