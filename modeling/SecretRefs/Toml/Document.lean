import SecretRefs.Toml.Grammar

/-!
# TOML documents

Reading a whole document, statement by statement. A statement that is malformed or
says something that contradicts an earlier one ends the reading.
-/

namespace SecretRefs.Toml

/-- The tables built so far, and the path of the table that the last header
opened. -/
structure Progress where
  root : Node.Entries
  header : List String

namespace Progress

/-- Nothing read yet. -/
def start : Progress := ⟨[], []⟩

/-- The tables after one more statement, unless it contradicts an earlier one. -/
def add? (progress : Progress) : Statement → Option Progress
  | .table key => (Node.openTable key progress.root).map fun root => ⟨root, key.path ++ [key.name]⟩
  | .element key =>
    (Node.openElement key progress.root).map fun root => ⟨root, key.path ++ [key.name]⟩
  | .assignment key value =>
    (Node.assignBelow progress.header key value progress.root).map fun root =>
      ⟨root, progress.header⟩

end Progress

namespace Document

/-- Reads lines. If one of them is refused, the result has the characters from
that line on. -/
def readLines : (fuel : Nat) → Progress → List Char → Except (List Char) Progress
  | 0, _, chars => .error chars
  | fuel + 1, progress, chars =>
    match skipSpace chars with
    | [] => .ok progress
    | c :: rest =>
      if c == '#' || c == '\n' || c == '\r' then
        match Grammar.afterLine? (c :: rest) with
        | some rest => readLines fuel progress rest
        | none => .error chars
      else
        match Grammar.statement? (c :: rest) with
        | none => .error chars
        | some (statement, rest) =>
          match progress.add? statement, Grammar.afterLine? rest with
          | some progress, some rest => readLines fuel progress rest
          | _, _ => .error chars

/-- The characters behind a byte-order mark, if there is one. -/
def afterMark (chars : List Char) : List Char :=
  match chars with
  | '\uFEFF' :: rest => rest
  | _ => chars

/-- The number of the line on which the rest of a text starts. -/
def lineNumber (chars rest : List Char) : Nat :=
  ((chars.take (chars.length - rest.length)).filter (· == '\n')).length + 1

/-- The entries of a document, or the number of the first line that is refused. -/
def read (text : String) : Except Nat Entries :=
  let chars := text.toList
  match readLines (chars.length + 1) .start (afterMark chars) with
  | .ok progress => .ok (Node.toEntries progress.root)
  | .error rest => .error (lineNumber chars rest)

end Document

end SecretRefs.Toml
