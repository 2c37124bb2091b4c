/-!
Documentation comments: what they say, and their lines as XML.
-/
set_option autoImplicit false

namespace Companion.Code

structure Doc where
  summary : String := ""
  params : List (String × String) := []
  returns : Option String := none
  remarks : Option String := none
deriving DecidableEq

namespace Doc

-- The element for one parameter; the texts are written as they are.
def paramLine (param : String × String) : String :=
  "<param name=\"" ++ param.1 ++ "\">" ++ param.2 ++ "</param>"

def xmlLines (doc : Doc) : List String :=
  ["<summary>", doc.summary, "</summary>"]
    ++ doc.params.map paramLine
    ++ doc.returns.toList.map (fun text => "<returns>" ++ text ++ "</returns>")
    ++ doc.remarks.toList.map (fun text => "<remarks>" ++ text ++ "</remarks>")

end Doc
end Companion.Code
