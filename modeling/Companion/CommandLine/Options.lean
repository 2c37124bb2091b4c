/-!
Options: switches that are on or off, settings that take a value, and the commands that know them.
-/
set_option autoImplicit false

namespace Companion.CommandLine

inductive Switch
  | help
  | verbose
  | dataSet
  | force
  | stdout
  | noRegions
deriving DecidableEq

inductive Setting
  | descriptor
  | input
  | className
  | property
  | namespaceName
  | backingField
  | language
deriving DecidableEq

-- A path must not be empty; other values may.
def Setting.isPath : Setting → Bool
  | .descriptor | .input => true
  | _ => false

inductive Flag
  | switch (switch : Switch)
  | setting (setting : Setting)
deriving DecidableEq

namespace Flag

def long : Flag → String
  | .switch .help => "help"
  | .switch .verbose => "verbose"
  | .switch .dataSet => "dataset"
  | .switch .force => "force"
  | .switch .stdout => "stdout"
  | .switch .noRegions => "no-regions"
  | .setting .descriptor => "descriptor"
  | .setting .input => "input"
  | .setting .className => "class"
  | .setting .property => "property"
  | .setting .namespaceName => "namespace"
  | .setting .backingField => "backing-field"
  | .setting .language => "language"

def short? : Flag → Option Char
  | .switch .help => some 'h'
  | .switch .verbose => some 'v'
  | .setting .input => some 'i'
  | .setting .className => some 'c'
  | .setting .property => some 'p'
  | .setting .namespaceName => some 'n'
  | .setting .language => some 'l'
  | _ => none

end Flag

inductive Level
  | top
  | generate
  | path
deriving DecidableEq

namespace Level

def common : List Flag := [.switch .help, .switch .verbose]

def flags : Level → List Flag
  | .top => common
  | .generate =>
    common ++ [.setting .descriptor, .setting .input, .setting .className, .setting .property,
      .setting .namespaceName, .setting .backingField, .switch .dataSet, .setting .language,
      .switch .force, .switch .stdout, .switch .noRegions]
  | .path => common ++ [.setting .input, .setting .language]

def long? (level : Level) (name : String) : Option Flag :=
  level.flags.find? fun flag => flag.long = name

def short? (level : Level) (letter : Char) : Option Flag :=
  level.flags.find? fun flag => flag.short? = some letter

end Level

-- Why arguments are not run; a request for help is one of the reasons.
inductive UsageError
  | help
  | nothingGiven
  | noCommand
  | unknownCommand
  | unknownArgument
  | invalidValue
  | conflict
  | unexpectedValue
  | missing
deriving DecidableEq

end Companion.CommandLine
