import SecretRefs.Json.Record
import SecretRefs.Failure
import SecretRefs.Event
import SecretRefs.Dialogue

/-!
# Exchanges with a server

A client sends requests and gets a response for each, or none at all if the
server cannot be reached. Who answers is left open.

A response is judged by its status alone; the texts of the resulting faults are
fixed and never quote a body.
-/

namespace SecretRefs.Connect

/-- What a request does. -/
inductive Method where
  | get
  | put
  | post
deriving Repr, DecidableEq

/-- The written form of a method. -/
def Method.name : Method → String
  | .get => "GET"
  | .put => "PUT"
  | .post => "POST"

/-- A request to a server. -/
structure Request where
  method : Method
  url : String
  /-- The service token that the request carries. -/
  token : String
  body : Option Json

/-- The response to a request. -/
structure Response where
  status : Nat
  body : ByteArray

/-- A dialogue with a server, where no response means that none could be had. -/
abbrev Exchange (α : Type) : Type :=
  ExceptT ExchangeFault (Dialogue Request (fun _ => Option Response) Event) α

/-- The part of the program that logs exchanges. -/
def Exchange.logTarget : String := "opref_connect::client"

/-- The event that reports a response. -/
def Exchange.responseEvent (status : Nat) (what : String) : Event where
  level := .debug
  target := Exchange.logTarget
  message := "connect response"
  fields := [("status", toString status), ("what", what)]

namespace Response

/-- What the status of a response says about `what` was asked for. -/
def fault? (status : Nat) (what : String) : Option ExchangeFault :=
  if 200 ≤ status && status ≤ 299 then none
  else if status == 401 || status == 403 then some .unauthorized
  else if status == 404 then some (.notFound what)
  else if 500 ≤ status && status ≤ 599 then some (.serverError status)
  else some (.unexpectedStatus status)

/-- What a reader makes of a body. -/
def decode? {α : Type} (response : Response) (reader : Json.Reader α) : Option α :=
  reader.ofBytes? response.body

end Response

namespace Exchange

/-- Sends a request and gives the response if its status is a success. -/
def send (request : Request) (what : String) : Exchange Response :=
  ExceptT.mk <| .ask request fun reply =>
    match reply with
    | none => .done (.error .network)
    | some response =>
      .note (responseEvent response.status what) <| .done <|
        match Response.fault? response.status what with
        | some fault => .error fault
        | none => .ok response

/-- Sends a request and reads the body of the response. -/
def fetch {α : Type} (request : Request) (what : String) (reader : Json.Reader α) :
    Exchange α := do
  let response ← send request what
  match response.decode? reader with
  | some value => pure value
  | none => throw .malformed

end Exchange

end SecretRefs.Connect
