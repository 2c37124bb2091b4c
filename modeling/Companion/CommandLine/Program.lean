import Companion.CommandLine.Run

/-!
Programs: arguments run to their end, which is an exit code and what was printed.
-/
set_option autoImplicit false

namespace Companion.CommandLine

def helpText : String := "\n".intercalate [
  "Generate helper classes for XSD-generated classes",
  "",
  "Usage: xsdhelper [-v] <COMMAND>",
  "",
  "Commands:",
  "  generate  Generate the helper class next to the schema file",
  "  path      Print the path the helper class would be written to",
  "  help      Print this message",
  "",
  "Options of generate:",
  "      --descriptor <XML>       Descriptor document instead of individual options",
  "  -i, --input <XSD>            Schema file the wrapped class was generated from",
  "  -c, --class <CLASS>          Name of the wrapped class",
  "  -p, --property <PROPERTY>    Name of the property holding the wrapped instance",
  "  -n, --namespace <NAMESPACE>  Namespace of the wrapped class",
  "      --backing-field <FIELD>  Store the property in this field",
  "      --dataset                The wrapped class is a dataset",
  "  -l, --language <LANGUAGE>    Output language or extension, cs unless given",
  "      --force                  Overwrite an existing helper file",
  "      --stdout                 Print the source instead of writing it",
  "      --no-regions             Leave out region markers",
  "",
  "Options of path:",
  "  -i, --input <XSD>            Schema file",
  "  -l, --language <LANGUAGE>    Output language or extension, cs unless given",
  "",
  "Options of all commands:",
  "  -v, --verbose                Verbose output",
  "  -h, --help                   Print this message",
  ""]

def UsageError.message : UsageError → String
  | .help => ""
  | .nothingGiven | .noCommand => "a command is required but none was given"
  | .unknownCommand => "unknown command"
  | .unknownArgument => "unexpected argument"
  | .invalidValue => "a value is required but none was given"
  | .conflict => "options cannot be used together or more than once"
  | .unexpectedValue => "a value was given to an option that takes none"
  | .missing => "a required option was not given"

structure Exit where
  code : UInt32
  stdout : String := ""
  stderr : String := ""

namespace Exit

def ofUsage : UsageError → Exit
  | .help => { code := 0, stdout := helpText }
  | error => { code := 2, stderr := "error: " ++ error.message ++ "\n\n" ++ helpText }

-- A report as it is printed: with a line end, unless it has one.
def printed (report : String) : String :=
  if report.toList.getLast? = some '\n' then report else report ++ "\n"

def ofResult : Except Failure String → Exit
  | .ok report => { code := 0, stdout := printed report }
  | .error failure => { code := 1, stderr := failure.shown }

end Exit

def program {m : Type → Type} [Monad m] (disk : Disk m) (arguments : List String) : m Exit := do
  match Invocation.ofArguments arguments with
  | .error error => return .ofUsage error
  | .ok invocation => return .ofResult (← (invocation.command.run disk).run)

end Companion.CommandLine
