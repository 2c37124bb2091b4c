/-!
Programs of helper classes, free of the spelling of any language: types, expressions and
statements.
-/
set_option autoImplicit false

namespace Companion.Code

inductive Framework
  | stream
  | file
  | fileInfo
  | directory
  | xmlSerializer
  | exception
deriving DecidableEq

namespace Framework

def all : List Framework := [.stream, .file, .fileInfo, .directory, .xmlSerializer, .exception]

def name : Framework → String
  | .stream => "Stream"
  | .file => "File"
  | .fileInfo => "FileInfo"
  | .directory => "Directory"
  | .xmlSerializer => "XmlSerializer"
  | .exception => "Exception"

end Framework

inductive TypeRef
  | void
  | string
  | framework (type : Framework)
  | named (name : String)
deriving DecidableEq

def TypeRef.label : TypeRef → String
  | .void => "void"
  | .string => "string"
  | .framework type => type.name
  | .named name => name

inductive Comparison
  | same
  | different
deriving DecidableEq

inductive Expr
  | null
  | this
  | variable (name : String)
  | literal (text : String)
  -- The value that is being assigned, inside a setter.
  | incoming
  -- A type on which a static member is called.
  | type (type : TypeRef)
  | property (target : Expr) (name : String)
  | invoke (target : Expr) (method : String) (arguments : List Expr)
  | create (type : TypeRef) (arguments : List Expr)
  | typeOf (type : TypeRef)
  | cast (type : TypeRef) (operand : Expr)
  | compare (left : Expr) (comparison : Comparison) (right : Expr)
deriving Inhabited

mutual
inductive Statement
  | declare (type : TypeRef) (name : String) (init : Option Expr)
  | assign (target value : Expr)
  | evaluate (expr : Expr)
  | branch (condition : Expr) (whenTrue whenFalse : List Statement)
  | attempt (body : List Statement) (handlers : List Handler) (final : List Statement)
  | leave (value : Option Expr)
  -- Raises again the fault that the enclosing handler has caught.
  | rethrow
  | comment (text : String)
structure Handler where
  exception : TypeRef
  binding : Option String
  body : List Statement
end

instance : Inhabited Statement := ⟨.rethrow⟩

abbrev Block := List Statement

structure Param where
  name : String
  type : TypeRef
deriving DecidableEq

end Companion.Code
