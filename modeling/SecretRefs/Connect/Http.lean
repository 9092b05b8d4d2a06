import SecretRefs.Connect.Client
import SecretRefs.Connect.Url
import SecretRefs.Decimal.Nearest
import SecretRefs.Json.Printer
import SecretRefs.Text.Blank
import SecretRefs.Text.Hexadecimal

/-!
# Requests and responses as bytes

The messages of HTTP/1.1 for exchanges that use one connection each. Head lines are
read byte by byte as characters, bodies stay bytes.
-/

namespace SecretRefs.Connect.Http

/-- The end of a line. -/
def lineEnd : String := "\r\n"

/-- Whether a token may stand in a header line. -/
def isSendable (token : String) : Bool :=
  token.toList.all fun c => c == '\t' || (0x20 ≤ c.toNat && c.toNat != 0x7F)

/-- The name of a server in a request. The usual service is left out. -/
def hostLine (url : Url) : String :=
  let usual := if url.secure then 443 else 80
  let host := if url.host.toList.contains ':' then "[" ++ url.host ++ "]" else url.host
  if url.service == usual then host else host ++ ":" ++ toString url.service

/-- The bytes of a request. -/
def requestBytes (url : Url) (request : Request) : ByteArray :=
  let body := (request.body.map Json.render).map String.toUTF8
  let lines :=
    [request.method.name ++ " " ++ url.target ++ " HTTP/1.1",
      "host: " ++ hostLine url,
      "authorization: Bearer " ++ request.token,
      "user-agent: " ++ Client.userAgent,
      "accept: */*",
      "connection: close"] ++
    match body with
    | some body => ["content-type: application/json", "content-length: " ++ toString body.size]
    | none => []
  (String.join (lines.map fun line => line ++ lineEnd) ++ lineEnd).toUTF8 ++ body.getD .empty

/-- The bytes up to the end of a line, as characters, and the bytes behind it. -/
def firstLine (bytes : List UInt8) : List Char × List UInt8 :=
  let line := (bytes.takeWhile (· != 10)).map fun byte => Char.ofNat byte.toNat
  (line.filter (· != '\r'), (bytes.dropWhile (· != 10)).tail)

/-- The lines of the head of a message, up to the empty one, and the bytes behind it. -/
def headLines : (fuel : Nat) → List UInt8 → List (List Char) × List UInt8
  | 0, bytes => ([], bytes)
  | fuel + 1, bytes =>
    let (line, rest) := firstLine bytes
    if line.isEmpty then
      ([], rest)
    else
      let (lines, rest) := headLines fuel rest
      (line :: lines, rest)

/-- The value of a header line with a name in lower case. -/
def header? (name : String) (lines : List (List Char)) : Option (List Char) :=
  (lines.find? fun line => (line.takeWhile (· != ':')).map Char.toLower == name.toList).map
    fun line => Text.trimChars (line.drop (name.length + 1))

/-- A natural number. -/
def natural? (digits : List Char) : Option Nat :=
  if !digits.isEmpty && digits.all Char.isDigit then some (Decimal.natural digits) else none

/-- The status of a response by its first line. -/
def status? (line : List Char) : Option Nat :=
  match "HTTP/1.".toList.isPrefixOf? line with
  | some rest => natural? ((rest.drop 2).takeWhile (· != ' '))
  | none => none

/-- The number that hexadecimal digits at the start of a line write. -/
def chunkSize (line : List Char) : Nat :=
  (line.takeWhile fun c => (Text.hexValue? c).isSome).foldl
    (fun value c => value * 16 + (Text.hexValue? c).getD 0) 0

/-- The bytes of a body in chunks. -/
def unchunk : (fuel : Nat) → List UInt8 → List UInt8
  | 0, _ => []
  | fuel + 1, bytes =>
    let (line, rest) := firstLine bytes
    let size := chunkSize line
    if size == 0 then []
    else rest.take size ++ unchunk fuel (firstLine (rest.drop size)).2

/-- The body of a response by its head. -/
def bodyOf (status : Nat) (lines : List (List Char)) (bytes : List UInt8) : List UInt8 :=
  if status == 204 || status == 304 then []
  else if (header? "transfer-encoding" lines).map (List.map Char.toLower) ==
      some "chunked".toList then
    unchunk bytes.length bytes
  else
    match (header? "content-length" lines).bind natural? with
    | some length => bytes.take length
    | none => bytes

/-- The response that the bytes of a connection are. -/
def response? (bytes : ByteArray) : Option Response :=
  let (lines, rest) := headLines bytes.size bytes.toList
  match lines with
  | [] => none
  | first :: lines =>
    (status? first).map fun status => ⟨status, ⟨(bodyOf status lines rest).toArray⟩⟩

end SecretRefs.Connect.Http
