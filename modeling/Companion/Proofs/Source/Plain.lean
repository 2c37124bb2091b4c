import Companion.Code.Basic
import Companion.Identifier

/-!
Programs by what is seen of them in source text: some trees are spelled alike, and one of them stands for all.
The value of a setter is seen as a variable, a type of the framework as a type of that name, and a type on which
a static member is called as a variable.
-/
set_option autoImplicit false

namespace Companion.Code

def TypeRef.plain : TypeRef → TypeRef
  | .framework type => .named type.name
  | type => type

-- A type where an expression is expected.
def TypeRef.asTarget : TypeRef → Expr
  | .framework type => .variable type.name
  | .named name => .variable name
  | type => .type type

mutual
def Expr.plain : Expr → Expr
  | .null => .null
  | .this => .this
  | .variable name => .variable name
  | .literal text => .literal text
  | .incoming => .variable "value"
  | .type type => type.asTarget
  | .property target name => .property target.plain name
  | .invoke target method arguments => .invoke target.plain method (plainAll arguments)
  | .create type arguments => .create type.plain (plainAll arguments)
  | .typeOf type => .typeOf type.plain
  | .cast type operand => .cast type.plain operand.plain
  | .compare left comparison right => .compare left.plain comparison right.plain
def plainAll : List Expr → List Expr
  | [] => []
  | first :: rest => first.plain :: plainAll rest
end

-- How a handler is seen by what it catches and by the variable that it binds.
abbrev Caught := TypeRef → Option String → TypeRef × Option String

def Caught.plain : Caught := fun exception binding => (exception.plain, binding)

section
variable (caught : Caught)

mutual
def Statement.plain : Statement → Statement
  | .declare type name init => .declare type.plain name (init.map Expr.plain)
  | .assign target value => .assign target.plain value.plain
  | .evaluate expr => .evaluate expr.plain
  | .branch condition whenTrue whenFalse =>
    .branch condition.plain (plainBlock whenTrue) (plainBlock whenFalse)
  | .attempt body handlers final => .attempt (plainBlock body) (plainHandlers handlers) (plainBlock final)
  | .leave value => .leave (value.map Expr.plain)
  | .rethrow => .rethrow
  | .comment text => .comment text
def plainBlock : Block → Block
  | [] => []
  | first :: rest => first.plain :: plainBlock rest
def plainHandlers : List Handler → List Handler
  | [] => []
  | ⟨exception, binding, body⟩ :: rest =>
    ⟨(caught exception binding).1, (caught exception binding).2, plainBlock body⟩ :: plainHandlers rest
end

end

/-! ## Programs with names that can be spelled -/

def TypeRef.Named : TypeRef → Prop
  | .named name => Identifier.isValid name = true
  | _ => True

-- All names are identifiers, and no text in quotes has a line end.
mutual
def Expr.Named : Expr → Prop
  | .null | .this | .incoming => True
  | .variable name => Identifier.isValid name = true
  | .literal text => '\n' ∉ text.toList
  | .type type | .typeOf type => type.Named
  | .property target name => target.Named ∧ Identifier.isValid name = true
  | .invoke target method arguments => target.Named ∧ Identifier.isValid method = true ∧ AllNamed arguments
  | .create type arguments => type.Named ∧ AllNamed arguments
  | .cast type operand => type.Named ∧ operand.Named
  | .compare left _ right => left.Named ∧ right.Named
def AllNamed : List Expr → Prop
  | [] => True
  | first :: rest => first.Named ∧ AllNamed rest
end

-- The same for statements, with comments that stay on their line.
mutual
def Statement.Named : Statement → Prop
  | .declare type name init => type.Named ∧ Identifier.isValid name = true ∧ ∀ value ∈ init, value.Named
  | .assign target value => target.Named ∧ value.Named
  | .evaluate expr => expr.Named
  | .branch condition whenTrue whenFalse => condition.Named ∧ BlockNamed whenTrue ∧ BlockNamed whenFalse
  | .attempt body handlers final => BlockNamed body ∧ HandlersNamed handlers ∧ BlockNamed final
  | .leave value => ∀ expr ∈ value, expr.Named
  | .rethrow => True
  | .comment text => '\n' ∉ text.toList
def BlockNamed : Block → Prop
  | [] => True
  | first :: rest => first.Named ∧ BlockNamed rest
def HandlersNamed : List Handler → Prop
  | [] => True
  | ⟨exception, binding, body⟩ :: rest =>
    (exception.Named ∧ (∀ name ∈ binding, Identifier.isValid name = true) ∧ BlockNamed body) ∧ HandlersNamed rest
end

end Companion.Code
