import Companion.Text.Ascii

/-!
The languages in which a helper class can be written.
-/
set_option autoImplicit false

namespace Companion

inductive Language
  | csharp
  | visualBasic
deriving DecidableEq, Inhabited

namespace Language

def all : List Language := [.csharp, .visualBasic]

def name : Language → String
  | .csharp => "C#"
  | .visualBasic => "Visual Basic"

def suffix : Language → String
  | .csharp => "cs"
  | .visualBasic => "vb"

def extension (language : Language) : String := "." ++ language.suffix

def withoutDot (text : String) : String :=
  match text.toList with
  | '.' :: rest => String.ofList rest
  | _ => text

-- The language with the given extension, in any case and with or without its dot.
def ofExtension? (text : String) : Option Language :=
  all.find? fun language => Text.sameIgnoringCase language.suffix (withoutDot text)

end Language
end Companion
