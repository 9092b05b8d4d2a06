import SecretRefs.Json.Value

/-!
# JSON documents

A document is what a JSON text says before the rules of a reader are applied:
keys may repeat, a string may hold half of a surrogate pair, a number may be
out of range and containers may nest without limit. Readers that skip a part of
a document accept all of this in the part they skip.

`Document.value?` is the reader for whole data trees. It refuses unreadable
leaves and containers nested deeper than its limit, and for a repeated key it
keeps the first place and the last value.
-/

namespace SecretRefs.Json

/-- A JSON text as read. A leaf without a value is well-formed but unreadable. -/
inductive Document where
  | null
  | boolean (value : Bool)
  | number (value : Option Number)
  | string (text : Option String)
  | array (elements : List Document)
  | object (entries : List (Option String × Document))

namespace Document

instance : Inhabited Document := ⟨.null⟩

/-- How deep containers may nest in a document that is read. -/
def depthLimit : Nat := 127

mutual

/-- The data tree of a document, if its containers nest at most `room` deep. -/
def value? : Document → (room : Nat) → Option Json
  | .null, _ => some .null
  | .boolean value, _ => some (.boolean value)
  | .number value, _ => value.map .number
  | .string text, _ => text.map .string
  | .array _, 0 => none
  | .array elements, room + 1 => (values? elements room).map .array
  | .object _, 0 => none
  | .object entries, room + 1 => (entries? entries room).map fun read => .object (collect read)

/-- The data trees of the elements of a document. -/
def values? : List Document → (room : Nat) → Option (List Json)
  | [], _ => some []
  | document :: rest, room =>
    match value? document room, values? rest room with
    | some value, some values => some (value :: values)
    | _, _ => none

/-- The keys and data trees of the entries of a document, repeated keys included. -/
def entries? : List (Option String × Document) → (room : Nat) → Option Entries
  | [], _ => some []
  | (key, document) :: rest, room =>
    match key, value? document room, entries? rest room with
    | some key, some value, some entries => some ((key, value) :: entries)
    | _, _, _ => none

end

mutual

/-- The document that says exactly this data tree. -/
def ofValue : Json → Document
  | .null => .null
  | .boolean value => .boolean value
  | .number value => .number (some value)
  | .string text => .string (some text)
  | .array elements => .array (ofValues elements)
  | .object entries => .object (ofEntries entries)

/-- The documents of a list of data trees. -/
def ofValues : List Json → List Document
  | [] => []
  | value :: rest => ofValue value :: ofValues rest

/-- The documents of a list of entries. -/
def ofEntries : Entries → List (Option String × Document)
  | [] => []
  | (key, value) :: rest => (some key, ofValue value) :: ofEntries rest

end

end Document

end SecretRefs.Json
