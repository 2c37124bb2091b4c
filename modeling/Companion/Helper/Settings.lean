/-!
Settings of a generation: what stands in the helper class, and how it is laid out.
-/
set_option autoImplicit false

namespace Companion.Helper

structure ContentSettings where
  generatorName : String := "xsdhelper"
  -- The comment lines at the top of the file; none for the standard ones.
  banner : Option (List String) := none
  constructorsRegion : String := "Constructors"
  propertiesRegion : String := "Properties"
  persistenceRegion : String := "Saving & Loading XML Files"
  placeholder : String := "TO DO: assign values for all the properties"
deriving DecidableEq

structure LayoutSettings where
  -- What stands in front of a line for each level it is nested.
  indent : String := "    "
  regions : Bool := true
deriving DecidableEq

structure Settings where
  content : ContentSettings := {}
  layout : LayoutSettings := {}
deriving DecidableEq

namespace ContentSettings

def rule : String := String.ofList (List.replicate 78 '-')

def standardBanner (generatorName : String) : List String := [
  rule,
  "<auto-generated>",
  "   This code was generated by " ++ generatorName ++ ".",
  "   This file is only generated if it is missing, so it is safe to modify this file as needed.",
  "   If the file is renamed or deleted, then it will be regenerated the next time the generator is run.",
  "   The base file contains the LoadXmlFile(string), SaveXMLFile(string) methods, several constructors,",
  "   and several properties to work with the class file generated from the schema.",
  "</auto-generated>",
  rule]

def bannerLines (settings : ContentSettings) : List String :=
  settings.banner.getD (standardBanner settings.generatorName)

end ContentSettings
end Companion.Helper
