/-!
# Failures

Everything that can go wrong between a reference and its secret, by cause.
`Failure.message` has the wording. A text that is not a reference is no failure:
it is left alone.
-/

namespace SecretRefs

/-- Why an exchange with a Connect server gave no usable answer. Bodies of
responses are never part of it. -/
inductive ExchangeFault where
  | network
  | unauthorized
  | notFound (what : String)
  | serverError (status : Nat)
  | unexpectedStatus (status : Nat)
  | malformed
deriving Repr, DecidableEq

/-- The wording of an exchange fault. -/
def ExchangeFault.message : ExchangeFault → String
  | .network => "network error communicating with the Connect server"
  | .unauthorized => "Connect server rejected the service token"
  | .notFound what => "resource not found: " ++ what
  | .serverError status => "Connect server error (status " ++ toString status ++ ")"
  | .unexpectedStatus status => "unexpected Connect response: status " ++ toString status
  | .malformed => "malformed Connect response"

/-- What a store call failed because of. -/
inductive StoreCause where
  | exchange (fault : ExchangeFault)
  /-- The HTTP library makes no client, for a reason in its own words. -/
  | http (detail : String)
deriving Repr, DecidableEq

/-- Why a file could not be read. -/
inductive ReadFault where
  | missing
  | directory
  | notDirectory
  | nameTooLong
  | nulInName
  | notText
  | other (detail : String)
deriving Repr, DecidableEq

/-- The wording of a read fault. -/
def ReadFault.message : ReadFault → String
  | .missing => "No such file or directory (os error 2)"
  | .directory => "Is a directory (os error 21)"
  | .notDirectory => "Not a directory (os error 20)"
  | .nameTooLong => "File name too long (os error 36)"
  | .nulInName => "file name contained an unexpected NUL byte"
  | .notText => "stream did not contain valid UTF-8"
  | .other detail => detail

/-- The store call during which a write failed. -/
inductive WriteStep where
  | listVaults
  | listItems
  | getItem
  | putItem
  | createItem
deriving Repr, DecidableEq

/-- The wording of a write step. -/
def WriteStep.message : WriteStep → String
  | .listVaults => "list vaults"
  | .listItems => "list items"
  | .getItem => "get item"
  | .putItem => "put item"
  | .createItem => "create item"

/-- The failures of the library. -/
inductive Failure where
  /-- A reference cannot be resolved. -/
  | resolution (reference detail : String)
  /-- No visible vault has the title. -/
  | vaultNotFound (title : String) (available : List String)
  /-- Two trees do not have the same shape at a path. -/
  | shapeMismatch (path : String)
  /-- A store call failed, possibly because of an exchange with a server, or there is no client
  to make it. -/
  | store (detail : String) (cause : Option StoreCause)
  /-- A store call failed while a secret was written. -/
  | write (step : WriteStep) (source : Failure)
  /-- Settings or input files do not make sense. -/
  | configuration (detail : String)
  /-- A file cannot be read. -/
  | read (path : String) (cause : ReadFault)
  /-- A state that should not arise. -/
  | internal (detail : String)
deriving Repr, DecidableEq

instance : Inhabited Failure := ⟨.internal ""⟩

namespace Failure

/-- The wording of a failure. -/
def message : Failure → String
  | .resolution reference detail => "failed to resolve " ++ reference ++ ": " ++ detail
  | .vaultNotFound title _ => "vault \"" ++ title ++ "\" not found"
  | .shapeMismatch path => "shape mismatch between original and resolved trees at " ++ path
  | .store detail _ => "secret store error: " ++ detail
  | .write step source => "upsert failed during " ++ step.message ++ ": " ++ source.message
  | .configuration detail => "configuration error: " ++ detail
  | .read path cause => "failed to read " ++ path ++ ": " ++ cause.message
  | .internal detail => "internal error: " ++ detail

/-- The failure of a store call because of an exchange fault. -/
def ofExchange (fault : ExchangeFault) : Failure :=
  .store fault.message (some (.exchange fault))

/-- The text shown to a user. If no vault has the title, it names those that
there are. -/
def describe (failure : Failure) : String :=
  match failure with
  | .vaultNotFound _ [] => failure.message ++ ". No vaults are visible to this token"
  | .vaultNotFound _ available => failure.message ++ ". Available: " ++ ", ".intercalate available
  | _ => failure.message

end Failure

end SecretRefs
