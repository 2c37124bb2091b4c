import Companion.Generation
import Companion.Text.Segments

/-!
Failures: a text that says what was attempted, and behind it the errors that led to it, each with
the errors that it wraps.
-/
set_option autoImplicit false

namespace Companion.CommandLine

structure Failure where
  text : String
  causes : List String := []
deriving DecidableEq

def documentTexts (error : Descriptor.DocumentError) : List String :=
  error.message ::
    match error with
    | .form (.xml inner) => inner.message :: inner.message :: inner.causes
    | .form inner => [inner.message]
    | .io inner => [inner.text]
    | .unknownKind _ | .invalid _ => []

def generationTexts (error : GenerationError) : List String :=
  error.message ::
    match error with
    | .descriptor inner => [inner.message]
    | .document inner => documentTexts inner
    | .io inner => [inner.text]
    | .unsupportedExtension _ => []

namespace Failure

-- The texts of the failure, the outermost first.
def chain (failure : Failure) : List String := failure.text :: failure.causes

def ofTexts : List String → Failure
  | [] => ⟨"", []⟩
  | text :: causes => ⟨text, causes⟩

def hanging (margin text : String) : String :=
  ("\n" ++ margin).intercalate (Text.splitText '\n' text)

def causeLines : List String → String
  | [] => ""
  | [cause] => "    " ++ hanging "    " cause ++ "\n"
  | causes => String.join (causes.zipIdx.map fun (cause, index) =>
      let number := toString index
      String.ofList (List.replicate (5 - number.length) ' ') ++ number ++ ": "
        ++ hanging "       " cause ++ "\n")

def shown (failure : Failure) : String :=
  "Error: " ++ failure.text ++ "\n"
    ++ (if failure.causes.isEmpty then "" else "\nCaused by:\n" ++ causeLines failure.causes)

end Failure
end Companion.CommandLine
