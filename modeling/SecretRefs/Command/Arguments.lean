/-!
# Command lines

What the words of a command line ask for. A command line has options for all
commands, the name of a command, and its own options and operands. Words are read
from left to right, and the first one that makes no sense, or that asks for help
or the version, decides.

The value of an option is the next word, or stands behind `=` or the letter of the
option. A word with a leading hyphen is no value and no operand, unless it comes
after `--`.
-/

namespace SecretRefs.Command

/-- What a user can ask to be done. -/
inductive Task where
  /-- Show all vaults and items. -/
  | test
  /-- Show a secret. -/
  | read (item : String) (vault field : Option String)
  /-- Show the items of a vault. -/
  | list (vault : Option String)
  /-- Show what the references in a file stand for. -/
  | resolve (file : String)
  /-- Store a secret. -/
  | write (item value : String) (vault field category : Option String)
deriving Repr, DecidableEq

/-- A command line that asks for a task. -/
structure Invocation where
  /-- The file with the settings, if one is given. -/
  settingsFile : Option String
  /-- Whether colours are unwanted. -/
  plain : Bool
  task : Task
deriving Repr, DecidableEq

/-- Why a command line asks for no task. -/
inductive Diversion where
  | help
  | version
  | misuse
deriving Repr, DecidableEq

namespace Arguments

/-- An option. -/
structure Choice where
  name : String
  letter : Option Char
  takesValue : Bool
  allowsEmpty : Bool
deriving Repr, DecidableEq

/-- The words that one part of a command line may have. -/
structure Shape where
  choices : List Choice
  /-- The names that end this part. -/
  commands : List String
  /-- How many operands there may be. -/
  operandLimit : Nat
  /-- Whether an operand may be empty. -/
  emptyOperands : Bool
  /-- Whether the version can be asked for. -/
  hasVersion : Bool

/-- The words of one part of a command line. -/
structure Found where
  flags : List String
  values : List (String × String)
  operands : List String
deriving Repr, DecidableEq

/-- What a word is by its hyphens. -/
inductive Word where
  /-- The mark that all later words are operands. -/
  | divider
  | long (name : String) (value : Option String)
  | short (letter : Char) (behind : List Char)
  | other
deriving Repr, DecidableEq

/-- A word by its hyphens. -/
def classify (word : String) : Word :=
  match word.toList with
  | ['-', '-'] => .divider
  | '-' :: '-' :: rest =>
    let name := String.ofList (rest.takeWhile (· != '='))
    match rest.dropWhile (· != '=') with
    | _ :: value => .long name (some (String.ofList value))
    | [] => .long name none
  | '-' :: letter :: behind => .short letter behind
  | _ => .other

/-- The words with one more flag, if it is the first time. -/
def addFlag (name : String) (found : Found) : Except Diversion Found :=
  if found.flags.contains name then .error .misuse
  else .ok { found with flags := found.flags ++ [name] }

/-- The words with the value of one more option, if it is the first time. -/
def addValue (choice : Choice) (value : String) (found : Found) : Except Diversion Found :=
  if (found.values.lookup choice.name).isSome || (value.isEmpty && !choice.allowsEmpty) then
    .error .misuse
  else
    .ok { found with values := found.values ++ [(choice.name, value)] }

/-- The words with one more operand, if there may be one. -/
def addOperand (shape : Shape) (word : String) (found : Found) : Except Diversion Found :=
  if shape.operandLimit ≤ found.operands.length || (word.isEmpty && !shape.emptyOperands) then
    .error .misuse
  else
    .ok { found with operands := found.operands ++ [word] }

/-- What an option asks for: a choice with the value that comes with it, if any. -/
def chosen (shape : Shape) : Word → Except Diversion (Choice × Option String)
  | .long name value =>
    match shape.choices.find? fun choice => choice.name == name with
    | some choice => .ok (choice, value)
    | none =>
      if value.isSome then .error .misuse
      else if name == "help" then .error .help
      else if name == "version" && shape.hasVersion then .error .version
      else .error .misuse
  | .short letter behind =>
    match shape.choices.find? fun choice => choice.letter == some letter with
    | some choice =>
      match behind with
      | [] => .ok (choice, none)
      | '=' :: value => .ok (choice, some (String.ofList value))
      | value => .ok (choice, some (String.ofList value))
    | none =>
      if letter == 'h' then .error .help
      else if letter == 'V' && shape.hasVersion then .error .version
      else .error .misuse
  | _ => .error .misuse

/-- Reads words that are all operands. -/
def readOperands (shape : Shape) : List String → Found → Except Diversion Found
  | [], found => .ok found
  | word :: rest, found =>
    match addOperand shape word found with
    | .error diversion => .error diversion
    | .ok found => readOperands shape rest found

/-- Reads one part of a command line. The result also has the command that ends the
part and the words behind it. -/
def readPart (shape : Shape) : List String → Found →
    Except Diversion (Found × Option (String × List String))
  | [], found => .ok (found, none)
  | word :: rest, found =>
    if shape.commands.contains word then
      .ok (found, some (word, rest))
    else
      match classify word with
      | .divider => (readOperands shape rest found).map fun found => (found, none)
      | .other =>
        match addOperand shape word found with
        | .error diversion => .error diversion
        | .ok found => readPart shape rest found
      | option =>
        match chosen shape option with
        | .error diversion => .error diversion
        | .ok (choice, attached) =>
          if !choice.takesValue then
            if attached.isSome then
              .error .misuse
            else
              match addFlag choice.name found with
              | .error diversion => .error diversion
              | .ok found => readPart shape rest found
          else
            match attached with
            | some value =>
              match addValue choice value found with
              | .error diversion => .error diversion
              | .ok found => readPart shape rest found
            | none =>
              match rest with
              | [] => .error .misuse
              | value :: behind =>
                if classify value == .other then
                  match addValue choice value found with
                  | .error diversion => .error diversion
                  | .ok found => readPart shape behind found
                else
                  .error .misuse

/-- The options for all commands. -/
def sharedChoices : List Choice :=
  [⟨"config", none, true, false⟩, ⟨"plain", none, false, false⟩]

/-- The names of the commands. -/
def commandNames : List String := ["test", "read", "list", "resolve", "write"]

/-- The name of the command that shows help. -/
def helpName : String := "help"

/-- The part before the command. -/
def mainShape : Shape :=
  ⟨sharedChoices, commandNames ++ [helpName], 0, false, true⟩

/-- The option for a vault. -/
def vaultChoice : Choice := ⟨"vault", some 'v', true, true⟩

/-- The option for a field. -/
def fieldChoice : Choice := ⟨"field", some 'f', true, true⟩

/-- The option for a category. -/
def categoryChoice : Choice := ⟨"category", some 'c', true, true⟩

/-- The option for a secret. -/
def valueChoice : Choice := ⟨"value", none, true, true⟩

/-- The part of a command. -/
def commandShape (name : String) : Shape :=
  let own : List Choice :=
    match name with
    | "read" => [vaultChoice, fieldChoice]
    | "list" => [vaultChoice]
    | "write" => [valueChoice, vaultChoice, fieldChoice, categoryChoice]
    | _ => []
  let operands := if name == "read" || name == "resolve" || name == "write" then 1 else 0
  ⟨sharedChoices ++ own, [], operands, name != "resolve", false⟩

/-- The task of a command with its words, unless some are missing. -/
def task? (name : String) (found : Found) : Option Task :=
  let value (choice : Choice) := found.values.lookup choice.name
  match name, found.operands, value valueChoice with
  | "test", _, _ => some .test
  | "list", _, _ => some (.list (value vaultChoice))
  | "read", [item], _ => some (.read item (value vaultChoice) (value fieldChoice))
  | "resolve", [file], _ => some (.resolve file)
  | "write", [item], some secret =>
    some (.write item secret (value vaultChoice) (value fieldChoice) (value categoryChoice))
  | _, _, _ => none

/-- What a request for help leads to, given the names it has. -/
def helpOn : List String → Diversion
  | [] => .help
  | [name] => if (commandNames ++ [helpName]).contains name then .help else .misuse
  | _ => .misuse

/-- What a command line asks for. -/
def read (words : List String) : Except Diversion Invocation := do
  let (before, command) ← readPart mainShape words ⟨[], [], []⟩
  match command with
  | none => throw .misuse
  | some (name, rest) =>
    if name == helpName then
      throw (helpOn rest)
    else
      let (behind, _) ← readPart (commandShape name) rest ⟨[], [], []⟩
      match task? name behind with
      | none => throw .misuse
      | some task =>
        let settingsFile := (behind.values ++ before.values).lookup "config"
        pure ⟨settingsFile, (before.flags ++ behind.flags).contains "plain", task⟩

end Arguments

end SecretRefs.Command
