import SecretRefs.Text.Hexadecimal

/-!
# Strings of TOML documents

A string is written on one line or in a block between three quotes, and with or
without escapes. Control characters other than tabs are refused everywhere; a
line break in a block is one `\n`, however it is written.
-/

namespace SecretRefs.Toml

/-- The characters that separate tokens of a line. -/
def isSpace (c : Char) : Bool :=
  c == ' ' || c == '\t'

/-- The characters from the next token of a line on. -/
def skipSpace (chars : List Char) : List Char :=
  chars.dropWhile isSpace

/-- The characters behind a line break. -/
def afterBreak? : List Char → Option (List Char)
  | '\n' :: rest => some rest
  | '\r' :: '\n' :: rest => some rest
  | _ => none

/-- Whether a character may stand in a comment or for itself in a string. -/
def isPlain (c : Char) : Bool :=
  c == '\t' || (0x20 ≤ c.toNat && c.toNat != 0x7F)

/-- The two ways to write a string. -/
inductive Quote where
  /-- Double quotes, with escapes. -/
  | basic
  /-- Single quotes; every character stands for itself. -/
  | literal
deriving Repr, DecidableEq

/-- The character of a quote. -/
def Quote.mark : Quote → Char
  | .basic => '"'
  | .literal => '\''

namespace Quote

/-- The character that an escape stands for, behind its backslash. -/
def escape? : List Char → Option (Char × List Char)
  | 'b' :: rest => some ('\x08', rest)
  | 't' :: rest => some ('\t', rest)
  | 'n' :: rest => some ('\n', rest)
  | 'f' :: rest => some ('\x0c', rest)
  | 'r' :: rest => some ('\r', rest)
  | '"' :: rest => some ('"', rest)
  | '\\' :: rest => some ('\\', rest)
  | 'u' :: rest => Text.hexChar? 4 rest
  | 'U' :: rest => Text.hexChar? 8 rest
  | _ => none

/-- One character of a string, written as itself or as an escape. -/
def character? (quote : Quote) : List Char → Option (Char × List Char)
  | [] => none
  | c :: rest =>
    if c == '\\' && quote == .basic then escape? rest
    else if isPlain c then some (c, rest)
    else none

/-- The characters of a one-line string behind its opening quote. -/
def lineChars? (quote : Quote) : Nat → List Char → Option (List Char × List Char)
  | 0, _ => none
  | fuel + 1, chars =>
    if chars.head? == some quote.mark then
      some ([], chars.tail)
    else
      match character? quote chars with
      | none => none
      | some (c, rest) => (lineChars? quote fuel rest).map fun (read, rest) => (c :: read, rest)

/-- The characters from the next one on that is neither a space nor part of a line
break. -/
def skipLines : List Char → List Char
  | '\n' :: rest => skipLines rest
  | '\r' :: '\n' :: rest => skipLines rest
  | c :: rest => if isSpace c then skipLines rest else c :: rest
  | [] => []

/-- The characters from where a block goes on behind a backslash at the end of a
line. -/
def afterContinuation? (chars : List Char) : Option (List Char) :=
  match chars with
  | '\\' :: rest => (afterBreak? (skipSpace rest)).map skipLines
  | _ => none

/-- The characters of a block behind its opening quotes. At its end up to two
quotes can stand before the three that close it. -/
def blockChars? (quote : Quote) : Nat → List Char → Option (List Char × List Char)
  | 0, _ => none
  | fuel + 1, chars =>
    let mark := quote.mark
    if [mark, mark, mark].isPrefixOf chars then
      let extra := ((chars.drop 3).takeWhile (· == mark)).take 2
      some (extra, chars.drop (3 + extra.length))
    else
      match afterBreak? chars with
      | some rest => (blockChars? quote fuel rest).map fun (read, rest) => ('\n' :: read, rest)
      | none =>
        match (if quote == .basic then afterContinuation? chars else none) with
        | some rest => blockChars? quote fuel rest
        | none =>
          match character? quote chars with
          | none => none
          | some (c, rest) =>
            (blockChars? quote fuel rest).map fun (read, rest) => (c :: read, rest)

/-- A one-line string behind its opening quote. -/
def line? (quote : Quote) (chars : List Char) : Option (String × List Char) :=
  (lineChars? quote (chars.length + 1) chars).map fun (read, rest) => (String.ofList read, rest)

/-- A block behind its opening quotes. A line break right behind them is left out. -/
def block? (quote : Quote) (chars : List Char) : Option (String × List Char) :=
  let chars := (afterBreak? chars).getD chars
  (blockChars? quote (chars.length + 1) chars).map fun (read, rest) => (String.ofList read, rest)

/-- A string behind its first quote. -/
def read? (quote : Quote) (chars : List Char) : Option (String × List Char) :=
  if [quote.mark, quote.mark].isPrefixOf chars then block? quote (chars.drop 2)
  else line? quote chars

end Quote

end SecretRefs.Toml
