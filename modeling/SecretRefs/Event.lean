/-!
# Log events

An event names the part of the program that reports it and carries named texts.
-/

namespace SecretRefs

/-- The urgency of an event. -/
inductive Level where
  | debug
  | info
  | warn
deriving Repr, DecidableEq

/-- The written form of a level. -/
def Level.name : Level → String
  | .debug => "debug"
  | .info => "info"
  | .warn => "warn"

/-- One entry of the log. -/
structure Event where
  level : Level
  target : String
  message : String
  fields : List (String × String)
deriving Repr, DecidableEq

end SecretRefs
