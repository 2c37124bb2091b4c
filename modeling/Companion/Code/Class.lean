import Companion.Code.Basic
import Companion.Code.Doc

/-!
Classes: members in regions, the class that holds them, and the file around the class.
-/
set_option autoImplicit false

namespace Companion.Code

structure Constructor where
  doc : Doc := {}
  params : List Param
  -- Statements run ahead of the body.
  initializers : Block := []
  body : Block

inductive Accessors
  | auto
  | explicit (getter setter : Block)

structure Property where
  doc : Doc := {}
  name : String
  type : TypeRef
  accessors : Accessors

structure Method where
  doc : Doc := {}
  name : String
  params : List Param
  returns : TypeRef
  body : Block

inductive Member
  | constructor (value : Constructor)
  | property (value : Property)
  | method (value : Method)

namespace Member

def name? : Member → Option String
  | .constructor _ => none
  | .property value => some value.name
  | .method value => some value.name

def doc : Member → Doc
  | .constructor value => value.doc
  | .property value => value.doc
  | .method value => value.doc

def constructor? : Member → Option Constructor
  | .constructor value => some value
  | _ => none

def property? : Member → Option Property
  | .property value => some value
  | _ => none

def method? : Member → Option Method
  | .method value => some value
  | _ => none

end Member

structure Region where
  label : String
  members : List Member

structure Class where
  name : String
  isPartial : Bool := true
  doc : Doc := {}
  regions : List Region

namespace Class

def members (cls : Class) : List Member := cls.regions.flatMap Region.members

def constructors (cls : Class) : List Constructor := cls.members.filterMap Member.constructor?

def properties (cls : Class) : List Property := cls.members.filterMap Member.property?

def methods (cls : Class) : List Method := cls.members.filterMap Member.method?

def property? (cls : Class) (name : String) : Option Property :=
  cls.properties.find? fun property => property.name = name

def method? (cls : Class) (name : String) : Option Method :=
  cls.methods.find? fun method => method.name = name

end Class

structure Model where
  banner : List String := []
  imports : List String := []
  namespaceName : String := ""
  cls : Class

-- The model with more members at the end of its first region.
def Model.withExtraMembers (model : Model) (extra : List Member) : Model :=
  match model.cls.regions with
  | [] => model
  | first :: rest =>
    let first := { first with members := first.members ++ extra }
    { model with cls := { model.cls with regions := first :: rest } }

end Companion.Code
