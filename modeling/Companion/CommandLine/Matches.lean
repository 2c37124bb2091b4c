import Companion.CommandLine.Options

/-!
Matches: what the words behind a command say. An option without a value of its own waits for the
next word; whether its value is right is judged when the next option comes, or at the end.
-/
set_option autoImplicit false

namespace Companion.CommandLine

inductive Pending
  | none
  | awaiting (setting : Setting)
  | given (setting : Setting) (value : String)

structure Matches where
  switches : List Switch := []
  values : List (Setting × String) := []
  pending : Pending := .none
  -- Behind two lone dashes no word is an option.
  onlyWords : Bool := false

namespace Matches

def isOn (found : Matches) (switch : Switch) : Bool := found.switches.contains switch

def value? (found : Matches) (setting : Setting) : Option String := found.values.lookup setting

def accept (found : Matches) (setting : Setting) (value : String) : Except UsageError Matches :=
  if (found.value? setting).isSome then .error .conflict
  else if setting.isPath && value.isEmpty then .error .invalidValue
  else .ok { found with values := found.values ++ [(setting, value)] }

def settle (found : Matches) : Except UsageError Matches :=
  match found.pending with
  | .none => .ok found
  | .awaiting _ => .error .invalidValue
  | .given setting value => { found with pending := .none }.accept setting value

def turnOn (found : Matches) (switch : Switch) : Except UsageError Matches := do
  let found ← found.settle
  if switch = .help then throw .help
  if found.isOn switch then throw .conflict
  return { found with switches := found.switches ++ [switch] }

-- A setting with the value that is attached to it, or none as yet.
def assign (found : Matches) (setting : Setting) (value : Option String) :
    Except UsageError Matches := do
  let found ← found.settle
  match value with
  | some value => found.accept setting value
  | none => return { found with pending := .awaiting setting }

def splitEquals (text : List Char) : List Char × Option String :=
  match text.dropWhile (· ≠ '=') with
  | [] => (text, none)
  | _ :: value => (text.takeWhile (· ≠ '='), some (String.ofList value))

def readLong (level : Level) (found : Matches) (text : List Char) : Except UsageError Matches :=
  let (name, value) := splitEquals text
  match level.long? (String.ofList name), value with
  | none, _ => .error .unknownArgument
  | some (.switch _), some _ => .error .unexpectedValue
  | some (.switch switch), none => found.turnOn switch
  | some (.setting setting), value => found.assign setting value

-- The value that follows a letter in the same word; an equals sign is not part of it.
def attached : List Char → Option String
  | [] => none
  | '=' :: value => some (String.ofList value)
  | value => some (String.ofList value)

def readShort (level : Level) (found : Matches) : List Char → Except UsageError Matches
  | [] => .ok found
  | letter :: rest => do
    match level.short? letter with
    | none => throw .unknownArgument
    | some (.switch switch) => readShort level (← found.turnOn switch) rest
    | some (.setting setting) => found.assign setting (attached rest)

-- A word that is no option is the value that is waited for.
def readValue (found : Matches) (word : String) : Except UsageError Matches :=
  match found.pending with
  | .awaiting setting => .ok { found with pending := .given setting word }
  | _ => .error .unknownArgument

inductive Word
  | dashes
  | long (text : List Char)
  | short (letters : List Char)
  | plain

def wordOf (word : String) : Word :=
  match word.toList with
  | ['-', '-'] => .dashes
  | '-' :: '-' :: text => .long text
  | ['-'] => .plain
  | '-' :: letters => .short letters
  | _ => .plain

def read (level : Level) (found : Matches) (word : String) : Except UsageError Matches :=
  if found.onlyWords then .error .unknownArgument
  else
    match wordOf word with
    | .dashes => .ok { found with onlyWords := true }
    | .long text => found.readLong level text
    | .short letters => found.readShort level letters
    | .plain => found.readValue word

def ofWords (level : Level) (words : List String) : Except UsageError Matches := do
  (← words.foldlM (read level) {}).settle

end Matches
end Companion.CommandLine
