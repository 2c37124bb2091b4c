import Companion.Helper.Settings
import Companion.Source.Layout
import Companion.Text.Blank
import Companion.Text.Segments

/-!
Helper classes as C# source.
-/
set_option autoImplicit false

namespace Companion.Source.CSharp

open Code

def keywords : List String := [
  "abstract", "as", "base", "bool", "break", "byte", "case", "catch", "char", "checked",
  "class", "const", "continue", "decimal", "default", "delegate", "do", "double", "else",
  "enum", "event", "explicit", "extern", "false", "finally", "fixed", "float", "for",
  "foreach", "goto", "if", "implicit", "in", "int", "interface", "internal", "is", "lock",
  "long", "namespace", "new", "null", "object", "operator", "out", "override", "params",
  "private", "protected", "public", "readonly", "ref", "return", "sbyte", "sealed", "short",
  "sizeof", "stackalloc", "static", "string", "struct", "switch", "this", "throw", "true",
  "try", "typeof", "uint", "ulong", "unchecked", "unsafe", "ushort", "using", "virtual",
  "void", "volatile", "while"]

def identifier (name : String) : String :=
  if keywords.contains name then "@" ++ name else name

def namespaceName (name : String) : String :=
  ".".intercalate ((Text.splitText '.' name).map identifier)

def typeName : TypeRef → String
  | .void => "void"
  | .string => "string"
  | .framework type => type.name
  | .named name => identifier name

def params (params : List Param) : String :=
  ", ".intercalate (params.map fun param => typeName param.type ++ " " ++ identifier param.name)

def literalChar : Char → List Char
  | '\\' => ['\\', '\\']
  | '"' => ['\\', '"']
  | c => [c]

def literal (text : String) : String :=
  "\"" ++ String.ofList (text.toList.flatMap literalChar) ++ "\""

def operator : Comparison → String
  | .same => "=="
  | .different => "!="

def parenthesized (text : String) : String := "(" ++ text ++ ")"

-- Casts and comparisons stand in parentheses where they are part of another expression.
def asOperand (inner : Expr) (text : String) : String :=
  match inner with
  | .cast _ _ => parenthesized text
  | .compare _ _ _ => parenthesized text
  | _ => text

mutual
def expr : Expr → String
  | .null => "null"
  | .this => "this"
  | .variable name => identifier name
  | .literal text => literal text
  | .incoming => "value"
  | .type type => typeName type
  | .property target name => asOperand target (expr target) ++ "." ++ identifier name
  | .invoke target method arguments =>
    asOperand target (expr target) ++ "." ++ identifier method
      ++ parenthesized (", ".intercalate (exprs arguments))
  | .create type arguments =>
    "new " ++ typeName type ++ parenthesized (", ".intercalate (exprs arguments))
  | .typeOf type => "typeof" ++ parenthesized (typeName type)
  | .cast type inner => parenthesized (typeName type) ++ asOperand inner (expr inner)
  | .compare left comparison right =>
    asOperand left (expr left) ++ " " ++ operator comparison ++ " "
      ++ asOperand right (expr right)
def exprs : List Expr → List String
  | [] => []
  | first :: rest => expr first :: exprs rest
end

def braced (body : Layout) : Layout := .line "\x7b" :: Layout.nested body ++ [.line "\x7d"]

def caught (exception : TypeRef) : Option String → String
  | some binding => typeName exception ++ " " ++ identifier binding
  | none => typeName exception

mutual
def statement : Statement → Layout
  | .declare type name (some init) =>
    [.line (typeName type ++ " " ++ identifier name ++ " = " ++ expr init ++ ";")]
  | .declare type name none => [.line (typeName type ++ " " ++ identifier name ++ ";")]
  | .assign target value => [.line (expr target ++ " = " ++ expr value ++ ";")]
  | .evaluate value => [.line (expr value ++ ";")]
  | .branch condition whenTrue whenFalse =>
    .line ("if " ++ parenthesized (expr condition)) :: braced (block whenTrue)
      ++ (if whenFalse.isEmpty then [] else .line "else" :: braced (block whenFalse))
  | .attempt body handlers final =>
    .line "try" :: braced (block body)
      ++ handlerLayouts handlers
      ++ (if final.isEmpty then [] else .line "finally" :: braced (block final))
  | .leave (some value) => [.line ("return " ++ expr value ++ ";")]
  | .leave none => [.line "return;"]
  | .rethrow => [.line "throw;"]
  | .comment text => [.line ("// " ++ text)]
def block : Block → Layout
  | [] => []
  | first :: rest => statement first ++ block rest
def handlerLayouts : List Handler → Layout
  | [] => []
  | ⟨exception, binding, body⟩ :: rest =>
    .line ("catch " ++ parenthesized (caught exception binding)) :: braced (block body)
      ++ handlerLayouts rest
end

def doc (doc : Doc) : Layout := doc.xmlLines.map fun line => .line ("/// " ++ line)

def constructor (className : String) (value : Constructor) : Layout :=
  doc value.doc
    ++ .line ("public " ++ identifier className ++ parenthesized (params value.params))
    :: braced (block value.initializers ++ block value.body)

def property (value : Property) : Layout :=
  let header := "public " ++ typeName value.type ++ " " ++ identifier value.name
  match value.accessors with
  | .auto => doc value.doc ++ [.line (header ++ " \x7b get; set; \x7d")]
  | .explicit getter setter =>
    doc value.doc ++ .line header
      :: braced (.line "get" :: braced (block getter) ++ .line "set" :: braced (block setter))

def method (value : Method) : Layout :=
  doc value.doc
    ++ .line ("public " ++ typeName value.returns ++ " " ++ identifier value.name
      ++ parenthesized (params value.params))
    :: braced (block value.body)

def member (className : String) : Member → Layout
  | .constructor value => constructor className value
  | .property value => property value
  | .method value => method value

def regionMarks : RegionMarks where
  opening label := "#region " ++ label
  closing := "#endregion"

def classLayout (settings : Helper.LayoutSettings) (cls : Code.Class) : Layout :=
  let marks := if settings.regions then some regionMarks else none
  doc cls.doc
    ++ .line ("public " ++ (if cls.isPartial then "partial " else "") ++ "class "
      ++ identifier cls.name)
    :: braced (regionsLayout marks (member cls.name) cls.regions)

def banner (lines : List String) : Layout :=
  lines.map (fun line => .line (Text.trimEnd ("// " ++ line)))
    ++ (if lines.isEmpty then [] else [.blank])

def imports (names : List String) : Layout :=
  names.map (fun name => .line ("using " ++ name ++ ";")) ++ [.blank]

def file (settings : Helper.LayoutSettings) (model : Model) : Layout :=
  let cls := classLayout settings model.cls
  banner model.banner ++ imports model.imports
    ++ (if model.namespaceName.isEmpty then cls
      else .line ("namespace " ++ namespaceName model.namespaceName) :: braced cls)

end Companion.Source.CSharp
