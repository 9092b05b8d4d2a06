import SecretRefs.Json.Parser

/-!
# Records

A record is read from a document by its named parts. A mapping gives parts by
name: a part that occurs twice is an error, an entry that is no part is skipped.
A sequence gives parts by position: it may end early, and must not go on after
the last part.

An open record is read from a mapping only. It keeps the entries that are no
part.

All readers take `room`, the depth to which containers may still nest.
-/

namespace SecretRefs.Json

/-- A reader of documents. -/
abbrev Reader (α : Type) := (room : Nat) → Document → Option α

namespace Reader

/-- What a reader makes of a JSON text. -/
def ofText? {α : Type} (reader : Reader α) (text : String) : Option α :=
  (Document.parse? text).bind (reader Document.depthLimit)

/-- What a reader makes of bytes. -/
def ofBytes? {α : Type} (reader : Reader α) (bytes : ByteArray) : Option α :=
  (Document.ofBytes? bytes).bind (reader Document.depthLimit)

/-- Reads a string. -/
def string : Reader String := fun _ document =>
  match document with
  | .string text => text
  | _ => none

/-- Reads a string or null. -/
def optionalString : Reader (Option String) := fun _ document =>
  match document with
  | .null => some none
  | .string (some text) => some (some text)
  | _ => none

/-- Reads a data tree. -/
def value : Reader Json := fun room document => document.value? room

/-- Reads a mapping. -/
def object : Reader Entries := fun room document =>
  match document.value? room with
  | some (.object entries) => some entries
  | _ => none

/-- Reads each element of a sequence. -/
def list {α : Type} (element : Reader α) : Reader (List α) := fun room document =>
  match document, room with
  | .array elements, room + 1 => elements.mapM (element room)
  | _, _ => none

end Reader

/-- The entries of a mapping, or the elements of a sequence, as parts of a record. -/
inductive Parts where
  | named (entries : List (Option String × Document))
  | placed (elements : List Document)

namespace Parts

/-- The parts of a record that is a mapping. -/
def ofMapping? : Reader Parts := fun room document =>
  match document, room with
  | .object entries, _ + 1 => if entries.all (·.1.isSome) then some (.named entries) else none
  | _, _ => none

/-- The parts of a record of `count` parts that is a mapping or a sequence. -/
def ofDocument? (count : Nat) : Reader Parts := fun room document =>
  match document, room with
  | .array elements, _ + 1 => if elements.length ≤ count then some (.placed elements) else none
  | _, _ => ofMapping? room document

/-- The document of a part, if the record has it; no result if it has it twice. -/
def find? (parts : Parts) (position : Nat) (name : String) : Option (Option Document) :=
  match parts with
  | .placed elements => some elements[position]?
  | .named entries =>
    match entries.filter fun entry => entry.1 == some name with
    | [] => some none
    | [(_, document)] => some (some document)
    | _ => none

/-- Reads a part that must be there. -/
def required {α : Type} (parts : Parts) (room : Nat) (position : Nat) (name : String)
    (reader : Reader α) : Option α :=
  match parts.find? position name with
  | some (some document) => reader (room - 1) document
  | _ => none

/-- Reads a part that has a default. -/
def defaulted {α : Type} (parts : Parts) (room : Nat) (position : Nat) (name : String)
    (reader : Reader α) (fallback : α) : Option α :=
  match parts.find? position name with
  | some (some document) => reader (room - 1) document
  | some none => some fallback
  | none => none

/-- The entries of an open record that are none of its parts. -/
def others (parts : Parts) (room : Nat) (names : List String) : Option Entries :=
  match parts with
  | .placed _ => some []
  | .named entries =>
    (Document.entries? (entries.filter fun entry => !names.any fun name => entry.1 == some name)
      (room - 1)).map collect

end Parts

end SecretRefs.Json
