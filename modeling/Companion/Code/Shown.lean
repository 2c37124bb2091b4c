import Companion.Code.Basic
import Companion.Text.Quoted

/-!
Expressions spelled out: the constructor of each part with its fields, on one line. Faults show
expressions in this form.
-/
set_option autoImplicit false

namespace Companion.Code

def TypeRef.shown : TypeRef → String
  | .void => "Void"
  | .string => "String"
  | .framework type => "Framework(" ++ type.name ++ ")"
  | .named name => "Named(" ++ Text.quote name ++ ")"

def Comparison.shown : Comparison → String
  | .same => "IdentityEquality"
  | .different => "IdentityInequality"

def shownFields (name fields : String) : String := name ++ " \x7b " ++ fields ++ " \x7d"

mutual
def Expr.shown : Expr → String
  | .null => "Null"
  | .this => "This"
  | .variable name => "Var(" ++ Text.quote name ++ ")"
  | .literal text => "Str(" ++ Text.quote text ++ ")"
  | .incoming => "SetterValue"
  | .type type => "Type(" ++ type.shown ++ ")"
  | .property target name =>
    shownFields "Property" ("target: " ++ target.shown ++ ", name: " ++ Text.quote name)
  | .invoke target method arguments =>
    shownFields "Invoke" ("target: " ++ target.shown ++ ", method: " ++ Text.quote method
      ++ ", args: [" ++ ", ".intercalate (shownAll arguments) ++ "]")
  | .create type arguments =>
    shownFields "New" ("ty: " ++ type.shown
      ++ ", args: [" ++ ", ".intercalate (shownAll arguments) ++ "]")
  | .typeOf type => "TypeOf(" ++ type.shown ++ ")"
  | .cast type operand =>
    shownFields "Cast" ("ty: " ++ type.shown ++ ", expr: " ++ operand.shown)
  | .compare left comparison right =>
    shownFields "Binary" ("left: " ++ left.shown ++ ", op: " ++ comparison.shown
      ++ ", right: " ++ right.shown)
def shownAll : List Expr → List String
  | [] => []
  | expr :: rest => expr.shown :: shownAll rest
end

end Companion.Code
