import SecretRefs.Text.Occurrence

/-!
# Addresses of servers

The parts of an HTTP URL that a request needs: where to connect to, and what to ask
for there. Blanks around a URL are ignored, dots in its path are followed, and
characters that must not stand in a request are written as percent signs with the
hexadecimal digits of their bytes. Host names are those of ASCII.
-/

namespace SecretRefs.Connect

/-- What a URL says. -/
structure Url where
  /-- Whether the connection is encrypted. -/
  secure : Bool
  host : String
  /-- The number of the service at the host. -/
  service : Nat
  /-- The path and query to ask for. -/
  target : String
deriving Repr, DecidableEq

namespace Url

/-- A control character or a space. -/
def isControlOrSpace (c : Char) : Bool :=
  c.toNat ≤ 0x20

/-- The characters without control characters and spaces at either end, and without
tabs and line breaks. -/
def clean (chars : List Char) : List Char :=
  let trimmed := ((chars.dropWhile isControlOrSpace).reverse.dropWhile isControlOrSpace).reverse
  trimmed.filter fun c => !(c == '\t' || c == '\n' || c == '\r')

/-- A slash of either kind. -/
def isSlash (c : Char) : Bool :=
  c == '/' || c == '\\'

/-- Whether a character must not stand in a query. -/
def isQueryUnsafe (c : Char) : Bool :=
  c.toNat ≤ 0x20 || 0x7F ≤ c.toNat || c == '"' || c == '#' || c == '<' || c == '>' || c == '\''

/-- Whether a character must not stand in a path. -/
def isPathUnsafe (c : Char) : Bool :=
  (isQueryUnsafe c && c != '\'') || c == '?' || c == '`' || c == '\x7b' || c == '\x7d'

/-- A hexadecimal digit in upper case. -/
def hexDigit (value : Nat) : Char :=
  (Nat.digitChar value).toUpper

/-- A byte behind a percent sign. -/
def percentByte (byte : UInt8) : List Char :=
  ['%', hexDigit (byte.toNat / 16), hexDigit (byte.toNat % 16)]

/-- Characters with those that must not stand there as bytes. -/
def encode (isUnsafe : Char → Bool) (chars : List Char) : List Char :=
  chars.flatMap fun c =>
    if isUnsafe c then (String.ofList [c]).toUTF8.toList.flatMap percentByte else [c]

/-- A segment with encoded dots as dots. -/
def plainDots : List Char → List Char
  | '%' :: '2' :: c :: rest =>
    if c == 'e' || c == 'E' then '.' :: plainDots rest else '%' :: '2' :: c :: plainDots rest
  | c :: rest => c :: plainDots rest
  | [] => []

/-- The segments that are left when dots are followed, after those that come before, the
last of which comes first. -/
def follow : (before : List (List Char)) → List (List Char) → List (List Char)
  | before, [] => before.reverse
  | before, segment :: rest =>
    let kept :=
      if plainDots segment == ['.', '.'] then before.tail
      else if plainDots segment == ['.'] then before
      else segment :: before
    if rest.isEmpty && (plainDots segment == ['.'] || plainDots segment == ['.', '.']) then
      ([] :: kept).reverse
    else
      follow kept rest

/-- The path and query behind the host. -/
def targetOf (chars : List Char) : String :=
  let isEnd (c : Char) := c == '?' || c == '#'
  let path := chars.takeWhile fun c => !isEnd c
  let path := if (path.head?.map isSlash).getD false then path.tail else path
  let encoded := (follow [] (Text.parts isSlash path)).map (encode isPathUnsafe)
  let query :=
    match chars.dropWhile fun c => !isEnd c with
    | '?' :: rest => '?' :: encode isQueryUnsafe (rest.takeWhile (· != '#'))
    | _ => []
  String.ofList (encoded.flatMap (fun segment => '/' :: segment) ++ query)

/-- Whether a character may stand in the name of a host. -/
def isHostChar (c : Char) : Bool :=
  c.isAlphanum || c == '.' || c == '-' || c == '_' || c == '~'

/-- The number of a service, if it is one. Without digits it is the usual one. -/
def serviceNumber? (usual : Nat) (digits : List Char) : Option Nat :=
  if digits.isEmpty then some usual
  else if digits.all Char.isDigit then
    let service := digits.foldl (fun value c => value * 10 + (c.toNat - '0'.toNat)) 0
    if service < 65536 then some service else none
  else none

/-- The host and service of a URL. Names in front of an at sign are ignored. -/
def authority? (usual : Nat) (chars : List Char) : Option (String × Nat) :=
  let chars := (chars.reverse.takeWhile (· != '@')).reverse
  let (host, behind) :=
    if chars.head? == some '[' then
      ((chars.takeWhile (· != ']')).tail, (chars.dropWhile (· != ']')).tail)
    else
      (chars.takeWhile (· != ':'), chars.dropWhile (· != ':'))
  let isHost :=
    if chars.head? == some '[' then
      chars.contains ']' && host.all fun c => c.isAlphanum || c == ':' || c == '.'
    else
      host.all isHostChar
  if host.isEmpty || !isHost then none
  else
    match behind with
    | [] => some (String.ofList (host.map Char.toLower), usual)
    | ':' :: digits =>
      (serviceNumber? usual digits).map fun service =>
        (String.ofList (host.map Char.toLower), service)
    | _ => none

/-- What a URL says, if it is one for HTTP. -/
def parse? (text : String) : Option Url := do
  let chars := clean text.toList
  let scheme := (chars.takeWhile (· != ':')).map Char.toLower
  let secure ←
    if scheme == "http".toList then some false
    else if scheme == "https".toList then some true
    else none
  let rest := ((chars.dropWhile (· != ':')).tail).dropWhile isSlash
  let isHostEnd (c : Char) := isSlash c || c == '?' || c == '#'
  let usual := if secure then 443 else 80
  let (host, service) ← authority? usual (rest.takeWhile fun c => !isHostEnd c)
  some ⟨secure, host, service, targetOf (rest.dropWhile fun c => !isHostEnd c)⟩

end Url

end SecretRefs.Connect
