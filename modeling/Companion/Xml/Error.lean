import Companion.Text.Numeral

/-!
What can be wrong with a text that should be XML.
-/
set_option autoImplicit false

namespace Companion.Xml

inductive MarkupError
  | unknown
  | instruction
  | declaration
  | comment
  | doctype
  | cdata
  | tag
  | value (quote : Char)
deriving DecidableEq

def notClosed (part mark : String) : String :=
  part ++ " not closed: `" ++ mark ++ "` not found before end of input"

def MarkupError.message : MarkupError → String
  | .unknown => "unknown or missed symbol in markup"
  | .instruction => notClosed "processing instruction" "?>"
  | .declaration => notClosed "XML declaration" "?>"
  | .comment => notClosed "comment" "-->"
  | .doctype => notClosed "DOCTYPE" ">"
  | .cdata => notClosed "CDATA" "]]>"
  | .tag => notClosed "tag" ">"
  | .value quote => notClosed "attribute value" (String.singleton quote)

def closing (name : String) : String := "`</" ++ name ++ ">`"

inductive StructureError
  | noDoctypeName
  | reference
  | mismatched (expected found : String)
  | unopened (name : String)
  | unclosed (name : String)
deriving DecidableEq

def StructureError.message : StructureError → String
  | .noDoctypeName => "`<!DOCTYPE>` declaration does not contain a name of a document type"
  | .reference => notClosed "entity or character reference" ";"
  | .mismatched expected found =>
    "expected " ++ closing expected ++ ", but " ++ closing found ++ " was found"
  | .unopened name => "close tag " ++ closing name ++ " does not match any open tag"
  | .unclosed name => notClosed "start tag" ("</" ++ name ++ ">")

-- Attributes that break the rules of writing them; positions count bytes of the tag.
inductive AttributeError
  | noEquals (position : Nat)
  | noValue (position : Nat)
  | unquoted (position : Nat)
  | noClosingQuote (position : Nat) (quote : Char)
  | duplicated (position first : Nat)
deriving DecidableEq

def AttributeError.detail : AttributeError → Nat × String
  | .noEquals position => (position, "attribute key must be directly followed by `=` or space")
  | .noValue position => (position, "`=` must be followed by an attribute value")
  | .unquoted position => (position, "attribute value must be enclosed in `\"` or `'`")
  | .noClosingQuote position quote =>
    (position, "missing closing quote `" ++ String.singleton quote ++ "` in attribute value")
  | .duplicated position first =>
    (position, "duplicated attribute, previous declaration at position " ++ toString first)

def AttributeError.message (error : AttributeError) : String :=
  "position " ++ toString error.detail.1 ++ ": " ++ error.detail.2

inductive NumberError
  | sign
  | numeral (error : Text.Numeral.Error)
  | notAScalar (value : Nat)
  | zero
deriving DecidableEq

def NumberError.message : NumberError → String
  | .sign => "unexpected number sign"
  | .numeral error => error.message
  | .notAScalar value => "`" ++ toString value ++ "` is not a valid codepoint"
  | .zero => "0x0 character is not permitted in XML"

inductive EscapeError
  | number (error : NumberError)
  | unknownEntity (start stop : Nat) (name : String)
  | noSemicolon (start stop : Nat)
deriving DecidableEq

def EscapeError.message : EscapeError → String
  | .number error => "invalid character reference: " ++ error.message
  | .unknownEntity start stop name =>
    "at " ++ toString start ++ ".." ++ toString stop ++ ": unrecognized entity `" ++ name ++ "`"
  | .noSemicolon start stop =>
    "Error while escaping character at range " ++ toString start ++ ".." ++ toString stop
      ++ ": Cannot find ';' after '&'"

inductive NamespaceError
  | reservedPrefix (name shown : String)
  | reservedUri (shown uri : String)
deriving DecidableEq

def NamespaceError.message : NamespaceError → String
  | .reservedPrefix name shown =>
    "the namespace prefix '" ++ name ++ "' cannot be bound to '" ++ shown ++ "'"
  | .reservedUri shown uri =>
    "the namespace prefix '" ++ shown ++ "' cannot be bound to '" ++ uri ++ "'"

inductive Error
  | markup (error : MarkupError)
  | structure (error : StructureError)
  | attribute (error : AttributeError)
  | escape (error : EscapeError)
  | nameBinding (error : NamespaceError)
deriving DecidableEq

namespace Error

def message : Error → String
  | .markup error => "syntax error: " ++ error.message
  | .structure error => "ill-formed document: " ++ error.message
  | .attribute error => "error while parsing attribute: " ++ error.message
  | .escape error => error.message
  | .nameBinding error => error.message

def numberCauses : NumberError → List String
  | .numeral error => [error.message, error.message]
  | error => [error.message]

def causes : Error → List String
  | .markup error => [error.message]
  | .structure error => [error.message]
  | .attribute error => [error.message]
  | .escape (.number error) => EscapeError.message (.number error) :: numberCauses error
  | .escape error => [error.message]
  | .nameBinding error => [error.message]

end Error
end Companion.Xml
