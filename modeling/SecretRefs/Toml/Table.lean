import SecretRefs.Toml.Value

/-!
# Tables under construction

The statements of a document build its tables piece by piece. A table remembers
how it came to be, because that decides what may still be added to it: a header
opens a table once, dotted keys only add to tables that dotted keys made, and an
inline table is closed from the start.
-/

namespace SecretRefs.Toml

/-- How a table came to be. -/
inductive TableKind where
  /-- By its own header. -/
  | stated
  /-- As a part of the path of a header. -/
  | implied
  /-- As a part of a dotted key. -/
  | dotted
deriving Repr, DecidableEq

/-- What stands under a key while a document is built. -/
inductive Node where
  | closed (value : Value)
  | table (kind : TableKind) (entries : List (String × Node))
  /-- An array of tables, of which the last one comes first. -/
  | tables (elements : List (List (String × Node)))

instance : Inhabited Node := ⟨.tables []⟩

/-- A dotted key: the path to a table, and a name in it. -/
structure Key where
  path : List String
  name : String
deriving Repr, DecidableEq

namespace Node

/-- The entries of a table under construction. -/
abbrev Entries := List (String × Node)

/-- The entries with a node in the place of what has its key, or at the end. -/
def put (key : String) (node : Node) : Entries → Entries
  | [] => [(key, node)]
  | (name, current) :: rest =>
    if name == key then (name, node) :: rest else (name, current) :: put key node rest

/-- Changes the table that a path leads to, starting at the entries of a table of
some kind. Missing tables on the way are made; in an array of tables the way goes
on in the last one. A way of dotted keys must not enter a stated table. -/
def change? (byDots : Bool) (act : TableKind → Entries → Option Entries) :
    List String → TableKind → Entries → Option Entries
  | [], kind, entries => act kind entries
  | key :: path, _, entries =>
    match entries.lookup key with
    | none =>
      let kind := if byDots then TableKind.dotted else .implied
      (change? byDots act path kind []).map fun inner => put key (.table kind inner) entries
    | some (.table kind inner) =>
      if byDots && kind == .stated then
        none
      else
        (change? byDots act path kind inner).map fun inner => put key (.table kind inner) entries
    | some (.tables (last :: others)) =>
      (change? byDots act path .stated last).map fun last =>
        put key (.tables (last :: others)) entries
    | some (.tables []) => none
    | some (.closed _) => none

/-- Opens a table by a header. -/
def openTable (key : Key) (root : Entries) : Option Entries :=
  let act (_ : TableKind) (entries : Entries) : Option Entries :=
    match entries.lookup key.name with
    | none => some (put key.name (.table .stated []) entries)
    | some (.table .implied inner) => some (put key.name (.table .stated inner) entries)
    | some _ => none
  change? false act key.path .stated root

/-- Adds an empty table to an array of tables. -/
def openElement (key : Key) (root : Entries) : Option Entries :=
  let act (_ : TableKind) (entries : Entries) : Option Entries :=
    match entries.lookup key.name with
    | none => some (put key.name (.tables [[]]) entries)
    | some (.tables elements) => some (put key.name (.tables ([] :: elements)) entries)
    | some _ => none
  change? false act key.path .stated root

/-- Gives a value to a key of the table at the end of a dotted path. The path must
end in a table that dotted keys made, unless it is empty. -/
def assign (key : Key) (value : Value) (entries : Entries) : Option Entries :=
  let act (kind : TableKind) (entries : Entries) : Option Entries :=
    if !key.path.isEmpty && kind != .dotted then
      none
    else
      match entries.lookup key.name with
      | none => some (put key.name (.closed value) entries)
      | some _ => none
  change? true act key.path .stated entries

/-- Gives a value to a key of the table that a header has opened. -/
def assignBelow (header : List String) (key : Key) (value : Value) (root : Entries) :
    Option Entries :=
  change? false (fun _ entries => assign key value entries) header .stated root

mutual

/-- The value of a node. -/
def toValue : Node → Value
  | .closed value => value
  | .table _ entries => .table (toEntries entries)
  | .tables elements => .array (toTables elements).reverse

/-- The values of entries. -/
def toEntries : List (String × Node) → Toml.Entries
  | [] => []
  | (key, node) :: rest => (key, toValue node) :: toEntries rest

/-- The values of tables. -/
def toTables : List (List (String × Node)) → List Value
  | [] => []
  | entries :: rest => .table (toEntries entries) :: toTables rest

end

end Node

end SecretRefs.Toml
