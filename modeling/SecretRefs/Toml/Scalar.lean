import SecretRefs.Decimal.Nearest
import SecretRefs.Text.Hexadecimal
import SecretRefs.Toml.Quote
import SecretRefs.Toml.Value

/-!
# Numbers, moments and words of TOML documents

Every function takes the characters that are left and gives those behind what it
read. What is read is as long as the grammar allows; what follows is judged by
the caller.
-/

namespace SecretRefs.Toml.Scalar

/-- The digits at the start, with single underscores between them left out. -/
def moreDigits? (isDigit : Char → Bool) : List Char → Option (List Char × List Char)
  | [] => some ([], [])
  | '_' :: c :: rest =>
    if isDigit c then
      (moreDigits? isDigit rest).map fun (read, rest) => (c :: read, rest)
    else
      none
  | c :: rest =>
    if isDigit c then
      (moreDigits? isDigit rest).map fun (read, rest) => (c :: read, rest)
    else if c == '_' then
      none
    else
      some ([], c :: rest)

/-- One digit or more, with single underscores between them left out. -/
def digits? (isDigit : Char → Bool) : List Char → Option (List Char × List Char)
  | [] => none
  | c :: rest =>
    if isDigit c then
      (moreDigits? isDigit rest).map fun (read, rest) => (c :: read, rest)
    else
      none

/-- Whether there is a minus sign, and what is behind the sign, if any. -/
def sign : List Char → Bool × List Char
  | '-' :: rest => (true, rest)
  | '+' :: rest => (false, rest)
  | chars => (false, chars)

/-- The digits of a whole number, which has no zeros at its start. -/
def wholeDigits? : List Char → Option (List Char × List Char)
  | '0' :: rest => some (['0'], rest)
  | chars => digits? Char.isDigit chars

/-- The value of an integer that fits 64 bits. -/
def integer? (value : Int) : Option Value :=
  if -0x8000000000000000 ≤ value && value < 0x8000000000000000 then some (.integer value) else none

/-- The number that digits write in a base. -/
def inBase (base : Nat) (digits : List Char) : Nat :=
  digits.foldl (fun value c => value * base + (Text.hexValue? c).getD 0) 0

/-- An integer in another base, behind its sign of the base. -/
def based? (base : Nat) (chars : List Char) : Option (Value × List Char) :=
  let isDigit (c : Char) : Bool :=
    match Text.hexValue? c with
    | some value => value < base
    | none => false
  match digits? isDigit chars with
  | some (digits, rest) => (integer? (inBase base digits)).map fun value => (value, rest)
  | none => none

/-- An exponent, which must have digits if it is there. Without one it is zero. -/
def exponent? : List Char → Option (Int × List Char)
  | c :: rest =>
    if c == 'e' || c == 'E' then
      let (negative, rest) := sign rest
      (digits? Char.isDigit rest).map fun (digits, rest) =>
        let value : Int := Decimal.natural digits
        (if negative then -value else value, rest)
    else
      some (0, c :: rest)
  | [] => some (0, [])

/-- The value of a decimal that is not too large. -/
def decimal? (negative : Bool) (digits : List Char) (scale : Int) : Option Value :=
  let value := Decimal.nearest negative digits scale
  if value.isInf && !negative then none else some (.decimal value)

/-- Whether characters start with the mark of an exponent. -/
def hasExponent (chars : List Char) : Bool :=
  chars.head? == some 'e' || chars.head? == some 'E'

/-- A number in base ten. -/
def plain? (chars : List Char) : Option (Value × List Char) := do
  let (negative, chars) := sign chars
  let (whole, chars) ← wholeDigits? chars
  match chars with
  | '.' :: rest =>
    let (fraction, rest) ← digits? Char.isDigit rest
    let (exponent, rest) ← exponent? rest
    let value ← decimal? negative (whole ++ fraction) (exponent - fraction.length)
    some (value, rest)
  | rest =>
    if hasExponent rest then
      let (exponent, rest) ← exponent? rest
      let value ← decimal? negative whole exponent
      some (value, rest)
    else
      let magnitude : Int := Decimal.natural whole
      let value ← integer? (if negative then -magnitude else magnitude)
      some (value, rest)

/-- The words for numbers that are not finite, behind their sign. -/
def special? (negative : Bool) : List Char → Option (Value × List Char)
  | 'i' :: 'n' :: 'f' :: rest => some (.decimal (if negative then -1.0 / 0.0 else 1.0 / 0.0), rest)
  | 'n' :: 'a' :: 'n' :: rest => some (.decimal (0.0 / 0.0), rest)
  | _ => none

/-- A number. -/
def number? (chars : List Char) : Option (Value × List Char) :=
  match chars with
  | '0' :: 'x' :: rest => based? 16 rest
  | '0' :: 'o' :: rest => based? 8 rest
  | '0' :: 'b' :: rest => based? 2 rest
  | _ =>
    let (negative, rest) := sign chars
    match special? negative rest with
    | some read => some read
    | none => plain? chars

/-- A number of exactly `count` digits. -/
def fixed? (count : Nat) (chars : List Char) : Option (Nat × List Char) :=
  let digits := chars.take count
  if digits.length == count && digits.all Char.isDigit then
    some (Decimal.natural digits, chars.drop count)
  else
    none

/-- The characters behind a mark. -/
def afterMark? (mark : Char) : List Char → Option (List Char)
  | [] => none
  | c :: rest => if c == mark then some rest else none

/-- The number of days of a month. -/
def daysOfMonth (year month : Nat) : Nat :=
  if month == 2 then
    if year % 4 == 0 && (year % 100 != 0 || year % 400 == 0) then 29 else 28
  else if month == 4 || month == 6 || month == 9 || month == 11 then 30
  else 31

/-- The characters behind a date. -/
def afterDate? (chars : List Char) : Option (List Char) := do
  let (year, rest) ← fixed? 4 chars
  let (month, rest) ← fixed? 2 (← afterMark? '-' rest)
  let (day, rest) ← fixed? 2 (← afterMark? '-' rest)
  if 1 ≤ month && month ≤ 12 && 1 ≤ day && day ≤ daysOfMonth year month then some rest else none

/-- The characters behind an hour and a minute. -/
def afterMinute? (chars : List Char) : Option (List Char) := do
  let (hour, rest) ← fixed? 2 chars
  let (minute, rest) ← fixed? 2 (← afterMark? ':' rest)
  if hour ≤ 23 && minute ≤ 59 then some rest else none

/-- The characters behind a time of day. A second can be a leap second. -/
def afterTime? (chars : List Char) : Option (List Char) := do
  let (second, rest) ← fixed? 2 (← afterMark? ':' (← afterMinute? chars))
  if 60 < second then
    none
  else
    match rest with
    | '.' :: c :: more => if c.isDigit then some (more.dropWhile Char.isDigit) else some rest
    | _ => some rest

/-- The characters behind the offset of a time from universal time. -/
def afterOffset? (chars : List Char) : Option (List Char) :=
  match chars with
  | c :: rest =>
    if c == 'Z' || c == 'z' then some rest
    else if c == '+' || c == '-' then afterMinute? rest
    else some chars
  | [] => some []

/-- The characters behind a date that may have a time of day. -/
def afterMoment? (chars : List Char) : Option (List Char) :=
  match afterDate? chars with
  | some (c :: rest) =>
    if c == 'T' || c == 't' || c == ' ' then
      match afterTime? rest with
      | some rest => afterOffset? rest
      | none => some (c :: rest)
    else
      some (c :: rest)
  | some [] => some []
  | none => afterTime? chars

/-- A moment. -/
def moment? (chars : List Char) : Option (Value × List Char) :=
  (afterMoment? chars).map fun rest =>
    (.moment (String.ofList (chars.take (chars.length - rest.length))), rest)

/-- A number or a moment. -/
def numeric? (chars : List Char) : Option (Value × List Char) :=
  match moment? chars with
  | some read => some read
  | none => number? chars

/-- A number, a moment or a word. -/
def read? (chars : List Char) : Option (Value × List Char) :=
  match chars with
  | 't' :: 'r' :: 'u' :: 'e' :: rest => some (.boolean true, rest)
  | 'f' :: 'a' :: 'l' :: 's' :: 'e' :: rest => some (.boolean false, rest)
  | _ => numeric? chars

end SecretRefs.Toml.Scalar
