import SecretRefs.Settings.Fault
import SecretRefs.Text.Wrap

/-!
# Faults as text

A fault is shown with its code, its message, the lines around the part of a source
that it points at, and what to do about it.
-/

namespace SecretRefs.Settings.Rendering

/-- The greatest number of columns of a line of a message, with its indentation. -/
def lineLimit : Nat := 198

/-- The distance of tab stops in a source. -/
def tabWidth : Nat := 4

/-- A text with one indentation for its first line and another one for the others,
which are equally wide. -/
def indented (first others text : String) : String :=
  match Text.wrap (lineLimit - Text.displayWidth first.toList) text.toList with
  | [] => first ++ "\n"
  | line :: rest =>
    first ++ String.ofList line ++ "\n" ++
      String.join (rest.map fun line => others ++ String.ofList line ++ "\n")

/-- The number of columns of a character of a source at a column. -/
def widthAt (column : Nat) (c : Char) : Nat :=
  if c == '\t' then tabWidth - column % tabWidth else Text.charWidth c

/-- The column behind characters that start at a column. -/
def columns : (column : Nat) → List Char → Nat
  | column, [] => column
  | column, c :: rest => columns (column + widthAt column c) rest

/-- A line of a source with blanks for its tabs, from a column on. -/
def expandTabs : (column : Nat) → List Char → List Char
  | _, [] => []
  | column, c :: rest =>
    let width := widthAt column c
    (if c == '\t' then List.replicate width ' ' else [c]) ++ expandTabs (column + width) rest

/-- A line of a source without its break. -/
def withoutBreak (line : List Char) : List Char :=
  match line.reverse with
  | '\n' :: '\r' :: rest => rest.reverse
  | '\n' :: rest => rest.reverse
  | _ => line

/-- The lines before the one that has a place, given in bytes, the characters before
the place, and the lines from that one on. -/
def locate : (offset : Nat) → List (List Char) → List (List Char) × Nat × List (List Char)
  | offset, [] => ([], offset, [])
  | offset, line :: rest =>
    let length := KeyPlace.byteLength line
    if offset < length || rest.isEmpty then
      ([], offset, line :: rest)
    else
      let (before, column, lines) := locate (offset - length) rest
      (line :: before, column, lines)

/-- The first characters of a line that take so many bytes. -/
def takeBytes : Nat → List Char → List Char
  | 0, _ => []
  | _, [] => []
  | count, c :: rest => c :: takeBytes (count - c.utf8Size) rest

/-- Blanks. -/
def blanks (count : Nat) : String :=
  String.ofList (List.replicate count ' ')

/-- A numbered line of a source. -/
def numbered (width number : Nat) (line : List Char) : String :=
  let digits := toString number
  " " ++ blanks (width - digits.length) ++ digits ++ " | " ++
    String.ofList (expandTabs 0 (withoutBreak line)) ++ "\n"

/-- The marks under a part of a line that takes columns from `start` on, with `pointer`
in their middle, above which the label hangs. -/
def underline (margin : String) (start width : Nat) (pointer : String) : String :=
  let width := max width 1
  let left := width / 2
  margin ++ blanks start ++ String.ofList (List.replicate left '^') ++ pointer ++
    String.ofList (List.replicate (width - left - 1) '^') ++ "\n" ++
    margin ++ blanks (start + left) ++ "`-- " ++ Fault.label ++ "\n"

/-- The lines of a source around a part of it. -/
def snippet (span : Span) : String :=
  let (before, column, rest) := locate span.offset (KeyPlace.lines span.source.content.toList)
  let line := rest.headD []
  let number := before.length + 1
  let next := (rest.drop 1).head?
  let width := (toString (number + next.toList.length)).length
  let margin := blanks (width + 2)
  let indentation := takeBytes column line
  let key := takeBytes span.length (line.drop indentation.length)
  let start := columns 0 indentation
  margin ++ ",-[" ++ span.source.name ++ ":" ++ toString number ++ ":" ++ toString (column + 1) ++
    "]\n" ++
    String.join (before.getLast?.toList.map (numbered width (number - 1))) ++
    numbered width number line ++
    underline (margin ++ ": ") start (columns start key - start)
      (if span.length == 0 then "^" else "|") ++
    String.join (next.toList.map (numbered width (number + 1))) ++
    margin ++ "`----\n"

/-- One fault. -/
def fault (fault : Fault) : String :=
  fault.code ++ "\n\n" ++ indented "  x " "  | " fault.message ++
    String.join (fault.span?.toList.map snippet) ++
    String.join (fault.help?.toList.map (indented "  help: " "        "))

/-- Several faults. -/
def faults (found : List Fault) : String :=
  String.join (found.map fault)

end SecretRefs.Settings.Rendering
