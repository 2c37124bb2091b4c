import Companion.Code.Doc
import Companion.Descriptor.Basic

/-!
The documentation comments of a helper class. They stand inside XML, so the texts that come from
outside, the schema's file name and the generator's name, are escaped.
-/
set_option autoImplicit false

namespace Companion.Helper

open Code (Doc)

def escapeMarkupChar : Char → List Char
  | '<' => ['&', 'l', 't', ';']
  | '>' => ['&', 'g', 't', ';']
  | '&' => ['&', 'a', 'm', 'p', ';']
  | c => [c]

def escapeMarkup (text : String) : String :=
  String.ofList (text.toList.flatMap escapeMarkupChar)

structure CommentSource where
  descriptor : Descriptor
  helperClass : String
  generatorName : String

namespace CommentSource

variable (source : CommentSource)

def wrappedType : String := "<typeparamref name=\"" ++ source.descriptor.className ++ "\"/>"

def generatedBy : String :=
  "This code was generated by " ++ escapeMarkup source.generatorName ++ "."

def readsFile : String × String :=
  (filePathParam, "This XML file to read into the class object")

def classDoc : Doc where
  summary := "Helper class to ease working with " ++ escapeMarkup source.descriptor.inputFileName
    ++ " autogenerated " ++ source.descriptor.kind.word

def emptyConstructorDoc : Doc where
  summary := "Construct a new instance of the " ++ source.helperClass ++ " object."

def fileConstructorDoc : Doc where
  summary := "Construct a new instance of the " ++ source.helperClass
    ++ " object by Deserializing an XML file."
  params := [readsFile]

def instanceConstructorDoc : Doc where
  summary := "Construct a new instance of the " ++ source.helperClass
    ++ " object from an existing " ++ source.wrappedType ++ " object."
  params := [(source.descriptor.instanceParameterName,
    "A pre-existing " ++ source.wrappedType ++ " object.")]

def propertyDoc : Doc where
  summary := "The " ++ source.wrappedType ++ " object wrapped by this helper."

def loadDoc : Doc where
  summary := "Load a file path and produce a Deserialized " ++ source.wrappedType ++ " Object"
  params := [readsFile]
  returns := some ("A new " ++ source.wrappedType ++ " object")
  remarks := some source.generatedBy

def saveDoc : Doc where
  summary := "This method will take the " ++ source.descriptor.className
    ++ " object, create an XML serializer for it, and write the XML to the <paramref name=\""
    ++ filePathParam ++ "\"/>"
  params := [(filePathParam, "Destination file path to save the file into.")]
  remarks := some source.generatedBy

def all : List Doc := [
  source.classDoc,
  source.emptyConstructorDoc,
  source.fileConstructorDoc,
  source.instanceConstructorDoc,
  source.propertyDoc,
  source.loadDoc,
  source.saveDoc]

end CommentSource
end Companion.Helper
