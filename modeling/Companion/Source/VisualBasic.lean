import Companion.Helper.Settings
import Companion.Source.Layout
import Companion.Text.Ascii
import Companion.Text.Blank
import Companion.Text.Segments

/-!
Helper classes as Visual Basic source.
-/
set_option autoImplicit false

namespace Companion.Source.VisualBasic

open Code

def keywords : List String := [
  "AddHandler", "AddressOf", "Alias", "And", "AndAlso", "As", "Boolean", "ByRef", "Byte",
  "ByVal", "Call", "Case", "Catch", "CBool", "CByte", "CChar", "CDate", "CDbl", "CDec", "Char",
  "CInt", "Class", "CLng", "CObj", "Const", "Continue", "CSByte", "CShort", "CSng", "CStr",
  "CType", "CUInt", "CULng", "CUShort", "Date", "Decimal", "Declare", "Default", "Delegate",
  "Dim", "DirectCast", "Do", "Double", "Each", "Else", "ElseIf", "End", "EndIf", "Enum",
  "Erase", "Error", "Event", "Exit", "False", "Finally", "For", "Friend", "Function", "Get",
  "GetType", "GetXMLNamespace", "Global", "GoSub", "GoTo", "Handles", "If", "Implements",
  "Imports", "In", "Inherits", "Integer", "Interface", "Is", "IsNot", "Let", "Lib", "Like",
  "Long", "Loop", "Me", "Mod", "Module", "MustInherit", "MustOverride", "MyBase", "MyClass",
  "NameOf", "Namespace", "Narrowing", "New", "Next", "Not", "Nothing", "NotInheritable",
  "NotOverridable", "Object", "Of", "On", "Operator", "Option", "Optional", "Or", "OrElse",
  "Overloads", "Overridable", "Overrides", "ParamArray", "Partial", "Private", "Property",
  "Protected", "Public", "RaiseEvent", "ReadOnly", "ReDim", "REM", "RemoveHandler", "Resume",
  "Return", "SByte", "Select", "Set", "Shadows", "Shared", "Short", "Single", "Static", "Step",
  "Stop", "String", "Structure", "Sub", "SyncLock", "Then", "Throw", "To", "True", "Try",
  "TryCast", "TypeOf", "UInteger", "ULong", "UShort", "Using", "Variant", "Wend", "When",
  "While", "Widening", "With", "WithEvents", "WriteOnly", "Xor"]

def identifier (name : String) : String :=
  if keywords.any (Text.sameIgnoringCase name) then "[" ++ name ++ "]" else name

def namespaceName (name : String) : String :=
  ".".intercalate ((Text.splitText '.' name).map identifier)

def typeName : TypeRef → String
  | .void => "Object"
  | .string => "String"
  | .framework type => type.name
  | .named name => identifier name

def typed (name : String) (type : TypeRef) : String := identifier name ++ " As " ++ typeName type

def params (params : List Param) : String :=
  ", ".intercalate (params.map fun param => "ByVal " ++ typed param.name param.type)

def literalChar : Char → List Char
  | '"' => ['"', '"']
  | c => [c]

def literal (text : String) : String :=
  "\"" ++ String.ofList (text.toList.flatMap literalChar) ++ "\""

def operator : Comparison → String
  | .same => "Is"
  | .different => "IsNot"

def parenthesized (text : String) : String := "(" ++ text ++ ")"

-- New objects and comparisons stand in parentheses where they are part of another expression.
def asOperand (inner : Expr) (text : String) : String :=
  match inner with
  | .create _ _ => parenthesized text
  | .compare _ _ _ => parenthesized text
  | _ => text

mutual
def expr : Expr → String
  | .null => "Nothing"
  | .this => "Me"
  | .variable name => identifier name
  | .literal text => literal text
  | .incoming => "value"
  | .type type => typeName type
  | .property target name => asOperand target (expr target) ++ "." ++ identifier name
  | .invoke target method arguments =>
    asOperand target (expr target) ++ "." ++ identifier method
      ++ parenthesized (", ".intercalate (exprs arguments))
  | .create type arguments =>
    "New " ++ typeName type ++ parenthesized (", ".intercalate (exprs arguments))
  | .typeOf type => "GetType" ++ parenthesized (typeName type)
  | .cast type inner => "CType" ++ parenthesized (expr inner ++ ", " ++ typeName type)
  | .compare left comparison right =>
    asOperand left (expr left) ++ " " ++ operator comparison ++ " "
      ++ asOperand right (expr right)
def exprs : List Expr → List String
  | [] => []
  | first :: rest => expr first :: exprs rest
end

-- The variable of a handler that has to name one and does not.
def faultVariable : String := "ex"

-- The first line of a handler; the one that catches everything needs no variable.
def catchLine (exception : TypeRef) : Option String → String
  | some binding => "Catch " ++ typed binding exception
  | none =>
    if exception = .framework .exception then "Catch"
    else "Catch " ++ typed faultVariable exception

mutual
def statement : Statement → Layout
  | .declare type name (some init) => [.line ("Dim " ++ typed name type ++ " = " ++ expr init)]
  | .declare type name none => [.line ("Dim " ++ typed name type)]
  | .assign target value => [.line (expr target ++ " = " ++ expr value)]
  | .evaluate value => [.line (expr value)]
  | .branch condition whenTrue whenFalse =>
    .line ("If " ++ expr condition ++ " Then") :: Layout.nested (block whenTrue)
      ++ (if whenFalse.isEmpty then [] else .line "Else" :: Layout.nested (block whenFalse))
      ++ [.line "End If"]
  | .attempt body handlers final =>
    .line "Try" :: Layout.nested (block body)
      ++ handlerLayouts handlers
      ++ (if final.isEmpty then [] else .line "Finally" :: Layout.nested (block final))
      ++ [.line "End Try"]
  | .leave (some value) => [.line ("Return " ++ expr value)]
  | .leave none => [.line "Return"]
  | .rethrow => [.line "Throw"]
  | .comment text => [.line ("'" ++ text)]
def block : Block → Layout
  | [] => []
  | first :: rest => statement first ++ block rest
def handlerLayouts : List Handler → Layout
  | [] => []
  | ⟨exception, binding, body⟩ :: rest =>
    .line (catchLine exception binding) :: Layout.nested (block body) ++ handlerLayouts rest
end

def doc (doc : Doc) : Layout := doc.xmlLines.map fun line => .line ("''' " ++ line)

def constructor (value : Constructor) : Layout :=
  doc value.doc
    ++ .line ("Public Sub New" ++ parenthesized (params value.params))
    :: Layout.nested (block value.initializers ++ block value.body)
    ++ [.line "End Sub"]

def accessorLayout (type : TypeRef) (getter setter : Block) : Layout :=
  .line "Get" :: Layout.nested (block getter)
    ++ [.line "End Get", .line ("Set" ++ parenthesized ("ByVal value As " ++ typeName type))]
    ++ Layout.nested (block setter)
    ++ [.line "End Set"]

def property (value : Property) : Layout :=
  let name := identifier value.name
  let type := typeName value.type
  match value.accessors with
  | .auto => doc value.doc ++ [.line ("Public Property " ++ name ++ " As " ++ type)]
  | .explicit getter setter =>
    doc value.doc ++ .line ("Public Property " ++ name ++ "() As " ++ type)
      :: Layout.nested (accessorLayout value.type getter setter)
      ++ [.line "End Property"]

def method (value : Method) : Layout :=
  let header := identifier value.name ++ parenthesized (params value.params)
  let body := Layout.nested (block value.body)
  if value.returns = .void then
    doc value.doc ++ .line ("Public Sub " ++ header) :: body ++ [.line "End Sub"]
  else
    doc value.doc ++ .line ("Public Function " ++ header ++ " As " ++ typeName value.returns)
      :: body ++ [.line "End Function"]

def member : Member → Layout
  | .constructor value => constructor value
  | .property value => property value
  | .method value => method value

def regionMarks : RegionMarks where
  opening label := "#Region " ++ literal label
  closing := "#End Region"

def classLayout (settings : Helper.LayoutSettings) (cls : Code.Class) : Layout :=
  let marks := if settings.regions then some regionMarks else none
  doc cls.doc
    ++ .line ((if cls.isPartial then "Partial " else "") ++ "Public Class " ++ identifier cls.name)
    :: Layout.nested (regionsLayout marks member cls.regions)
    ++ [.line "End Class"]

def banner (lines : List String) : Layout :=
  lines.map (fun line => .line (Text.trimEnd ("' " ++ line)))
    ++ (if lines.isEmpty then [] else [.blank])

def options : Layout := [.line "Option Strict On", .line "Option Explicit On", .blank]

def imports (names : List String) : Layout :=
  names.map (fun name => .line ("Imports " ++ name)) ++ [.blank]

def file (settings : Helper.LayoutSettings) (model : Model) : Layout :=
  let cls := classLayout settings model.cls
  banner model.banner ++ options ++ imports model.imports
    ++ (if model.namespaceName.isEmpty then cls
      else [.line ("Namespace " ++ namespaceName model.namespaceName), .blank]
        ++ Layout.nested cls ++ [.line "End Namespace"])

end Companion.Source.VisualBasic
