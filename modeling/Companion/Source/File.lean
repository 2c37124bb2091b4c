import Companion.Language
import Companion.Source.CSharp
import Companion.Source.VisualBasic

/-!
Source files: the text of a class in either language.
-/
set_option autoImplicit false

namespace Companion.Source

def fileLayout : Language → Helper.LayoutSettings → Code.Model → Layout
  | .csharp => CSharp.file
  | .visualBasic => VisualBasic.file

def fileText (language : Language) (settings : Helper.LayoutSettings) (model : Code.Model) :
    String :=
  (fileLayout language settings model).text settings.indent 0

def identifier : Language → String → String
  | .csharp => CSharp.identifier
  | .visualBasic => VisualBasic.identifier

def namespaceName : Language → String → String
  | .csharp => CSharp.namespaceName
  | .visualBasic => VisualBasic.namespaceName

end Companion.Source
