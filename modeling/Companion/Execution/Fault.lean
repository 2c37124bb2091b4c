import Companion.FileSystem.Error
import Companion.Xml.Document

/-!
Faults: what can go wrong while a member runs, the exception that each surfaces as, and the
clauses that catch it.
-/
set_option autoImplicit false

namespace Companion

inductive Fault
  | io (error : IoError)
  | xml (error : Xml.Error)
  -- Well-formed XML that is not the document of an object.
  | invalidDocument (message : String)
  | invalidCast (found expected : String)
  | nullReference (member : String)
  | missingMember (name : String)
  -- The types of arguments that not exactly one constructor takes.
  | noConstructor (signature : String)
  | unsupported (what : String)
deriving DecidableEq

namespace Fault

def message : Fault → String
  | .io error => "I/O error: " ++ error.text
  | .xml error => "XML error: " ++ error.message
  | .invalidDocument message => "invalid document: " ++ message
  | .invalidCast found expected => "cannot cast " ++ found ++ " to " ++ expected
  | .nullReference member => "null reference accessing '" ++ member ++ "'"
  | .missingMember name => "missing member '" ++ name ++ "'"
  | .noConstructor signature => "no matching constructor for (" ++ signature ++ ")"
  | .unsupported what => "unsupported: " ++ what

def exceptionName : Fault → String
  | .io ⟨.notFound, _⟩ => "FileNotFoundException"
  | .io _ => "IOException"
  | .xml _ | .invalidDocument _ => "InvalidOperationException"
  | .invalidCast _ _ => "InvalidCastException"
  | .nullReference _ => "NullReferenceException"
  | .missingMember _ => "MissingMemberException"
  | .noConstructor _ => "MissingMethodException"
  | .unsupported _ => "NotSupportedException"

-- Whether a clause for an exception catches the fault: two types stand above the others.
def isCaughtBy (fault : Fault) (exception : String) : Bool :=
  if exception = "Exception" then true
  else if exception = "IOException" then fault matches .io _
  else fault.exceptionName = exception

def ofReadError : Xml.Document.ReadError → Fault
  | .xml error => .xml error
  | .content error => .invalidDocument error.message

end Fault
end Companion
