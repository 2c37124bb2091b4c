import Companion.Text.Lowercase
import Companion.Text.Numeric
import Companion.Text.Segments

/-!
Identifiers: the names that every target language accepts, and the changes that make a name one.
-/
set_option autoImplicit false

namespace Companion.Identifier

def isFirst (c : Char) : Bool := Text.isAlphabetic c || c = '_'

def isLater (c : Char) : Bool := Text.isAlphanumeric c || c = '_'

-- An identifier by its characters; an underscore alone is none.
def isValidChars : List Char → Bool
  | [] => false
  | ['_'] => false
  | first :: rest => isFirst first && rest.all isLater

def isValid (name : String) : Bool := isValidChars name.toList

-- No name at all, or identifiers with dots between them.
def isValidNamespace (name : String) : Bool :=
  name.isEmpty || (Text.splitText '.' name).all isValid

def lowerFirst (name : String) : String :=
  match name.toList with
  | [] => ""
  | first :: rest => String.ofList (Text.lowercase first ++ rest)

def sanitizeChar (c : Char) : Char := if isLater c then c else '_'

-- The characters that may stand in an identifier, behind an underscore if a numeral leads.
def sanitizeChars : List Char → List Char
  | [] => []
  | first :: rest =>
    let body := (first :: rest).map sanitizeChar
    if Text.isNumeric first then '_' :: body else body

def sanitize (name : String) : String := String.ofList (sanitizeChars name.toList)

end Companion.Identifier
