import Companion.CommandLine.Matches
import Companion.Descriptor.Basic

/-!
Invocations: the commands that arguments can ask for.
-/
set_option autoImplicit false

namespace Companion.CommandLine

inductive Source
  | document (path : Path)
  | given (descriptor : Descriptor)

inductive Command
  | generate (source : Source) (language : String) (force stdout regions : Bool)
  | path (input : Path) (language : String)

structure Invocation where
  verbose : Bool
  command : Command

namespace Command

def standardLanguage : String := "cs"

def languageOf (found : Matches) : String := (found.value? .language).getD standardLanguage

def require (found : Matches) (setting : Setting) : Except UsageError String :=
  match found.value? setting with
  | some value => .ok value
  | none => .error .missing

-- Whether there is a setting or a switch that a document makes pointless.
def describes (found : Matches) : Bool :=
  ([.input, .className, .property, .namespaceName, .backingField] : List Setting).any
    (fun setting => (found.value? setting).isSome) || found.isOn .dataSet

def given (found : Matches) : Except UsageError Descriptor := do
  let input ← require found .input
  let className ← require found .className
  let propertyName ← require found .property
  return {
    namespaceName := (found.value? .namespaceName).getD ""
    className
    propertyName
    storage := (found.value? .backingField).elim .auto .backingField
    inputFile := .ofString input
    kind := if found.isOn .dataSet then .dataSet else .plainClass }

def sourceOf (found : Matches) : Except UsageError Source := do
  match found.value? .descriptor with
  | some document =>
    if describes found then throw .conflict
    return .document (.ofString document)
  | none => return .given (← given found)

def generateOf (found : Matches) : Except UsageError Command := do
  return .generate (← sourceOf found) (languageOf found) (found.isOn .force) (found.isOn .stdout)
    (!found.isOn .noRegions)

def pathOf (found : Matches) : Except UsageError Command := do
  return .path (.ofString (← require found .input)) (languageOf found)

end Command

namespace Invocation

def command? (word : String) : Option (Level × (Matches → Except UsageError Command)) :=
  if word = "generate" then some (.generate, Command.generateOf)
  else if word = "path" then some (.path, Command.pathOf)
  else none

def helpWord : String := "help"

def isCommand (word : String) : Bool := (command? word).isSome || word = helpWord

-- A request for help names one command at most.
def helpFor (words : List String) : UsageError :=
  match words with
  | [] => .help
  | [word] => if isCommand word then .help else .unknownCommand
  | _ => .unknownCommand

def after (found : Matches) : List String → Except UsageError Invocation
  | [] => .error (if found.switches.isEmpty then .nothingGiven else .noCommand)
  | word :: rest => do
    if found.onlyWords then throw (if isCommand word then .unknownArgument else .unknownCommand)
    match Matches.wordOf word with
    | .plain =>
      if word = helpWord then throw (helpFor rest)
      match command? word with
      | none => throw .unknownCommand
      | some (level, commandOf) =>
        let behind ← Matches.ofWords level rest
        return ⟨found.isOn .verbose || behind.isOn .verbose, ← commandOf behind⟩
    | _ => after (← found.read .top word) rest

def ofArguments (arguments : List String) : Except UsageError Invocation := after {} arguments

end Invocation
end Companion.CommandLine
