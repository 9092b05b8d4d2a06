import SecretRefs.Decimal.Layout
import SecretRefs.Files
import SecretRefs.Settings.Value
import SecretRefs.Text.Occurrence
import SecretRefs.Text.Quoted

/-!
# Refusals

Why a source of settings is refused, where in it, and which source it is.
-/

namespace SecretRefs.Settings

/-- What is wrong with a source of settings. -/
inductive Refusal.Cause where
  /-- A key that is not among the known ones. -/
  | unknownKey (key : String) (known : List String)
  /-- A value of another type than expected. -/
  | wrongType (found expected : String)
  /-- A value of the expected type that is out of range. -/
  | wrongValue (found expected : String)
  /-- A TOML document that is refused from a line on. -/
  | malformed (line : Nat)
  /-- A file that cannot be read. -/
  | unreadable (fault : ReadFault)
deriving Repr, DecidableEq

/-- A refusal of the value at a path. -/
structure Refusal where
  cause : Refusal.Cause
  path : List String
  origin : Origin
deriving Repr, DecidableEq

/-- What the names of the environment variables for settings start with. -/
def Environment.namePrefix : String := "OPREF_"

/-- Words for a value that is not of the expected type. -/
def Value.inWords : Value → String
  | .scalar _ (.text value) => "string " ++ Text.quoted value
  | .scalar _ (.boolean value) => "bool " ++ toString value
  | .scalar _ (.integer value) => "signed int `" ++ toString value ++ "`"
  | .scalar _ (.natural value) => "unsigned int `" ++ toString value ++ "`"
  | .scalar _ (.decimal value) => "float `" ++ Decimal.inSentence value ++ "`"
  | .scalar _ .absent => "option"
  | .sequence .. => "sequence"
  | .table .. => "map"

/-- Words for a source, as a reader in a directory would name it. -/
def Origin.inWords (directory : String) : Origin → String
  | .builtIn => "built-in settings"
  | .inline => "TOML source string"
  | .file path => Files.shownFrom directory path ++ " TOML file"
  | .environment => "`" ++ Environment.namePrefix ++ "` environment variable(s)"

/-- A path as its source spells it. -/
def Origin.spell (path : List String) : Origin → String
  | .environment => ".".intercalate (path.map Text.asciiUpper)
  | _ => ".".intercalate ("default" :: path)

namespace Refusal

/-- Words for a choice between keys. -/
def choice (keys : List String) : String :=
  let marked := keys.map fun key => "`" ++ key ++ "`"
  match marked with
  | [] => "nothing"
  | [one] => one
  | [one, other] => one ++ " or " ++ other
  | _ => "one of " ++ ", ".intercalate marked

/-- The wording of a cause. -/
def Cause.message : Cause → String
  | .unknownKey key known =>
    "unknown field: found `" ++ key ++ "`, expected `" ++ choice known ++ "`"
  | .wrongType found expected => "invalid type: found " ++ found ++ ", expected " ++ expected
  | .wrongValue found expected => "invalid value " ++ found ++ ", expected " ++ expected
  | .malformed line => "TOML parse error at line " ++ toString line
  | .unreadable fault => fault.message

/-- The wording of a refusal for a reader in a directory. -/
def message (directory : String) (refusal : Refusal) : String :=
  let place :=
    if refusal.path.isEmpty then ""
    else " for key " ++ Text.quoted (refusal.origin.spell refusal.path)
  refusal.cause.message ++ place ++ " in " ++ refusal.origin.inWords directory

end Refusal

end SecretRefs.Settings
